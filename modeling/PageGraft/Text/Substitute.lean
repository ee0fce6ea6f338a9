import PageGraft.Text.Trim

/-!
# Substitution

Replacing, from left to right, every piece of a text that a finder recognises. Pieces do not
overlap. A finder sees the character before, if there is one, and the text from there on, and
answers the length of the piece that begins there.
-/

namespace PageGraft.Text

/-- Recognises pieces of text in their place. -/
abbrev Finder := Option Char → List Char → Option Nat

/-- Replaces what is found, after the next `skip` characters, which belong to a piece already
replaced. An empty piece is replaced once in each gap. -/
def Finder.replaceFrom (find : Finder) (replacement : List Char) :
    Nat → Option Char → List Char → List Char
  | 0, previous, [] => if (find previous []).isSome then replacement else []
  | _ + 1, _, [] => []
  | skip + 1, _, character :: rest =>
    Finder.replaceFrom find replacement skip (some character) rest
  | 0, previous, character :: rest =>
    match find previous (character :: rest) with
    | none => character :: Finder.replaceFrom find replacement 0 (some character) rest
    | some 0 =>
      replacement ++ character :: Finder.replaceFrom find replacement 0 (some character) rest
    | some (further + 1) =>
      replacement ++ Finder.replaceFrom find replacement further (some character) rest

/-- Replaces every piece that is found. -/
def Finder.replaceAll (find : Finder) (replacement text : List Char) : List Char :=
  find.replaceFrom replacement 0 none text

/-- A word can begin after this character: the character neither belongs to a word nor selects a
member. -/
def startsWord (previous : Option Char) : Bool :=
  !previous.any fun character => isNamePart character || character == '.'

/-- A word can end before this text. -/
def endsWord (rest : List Char) : Bool :=
  !rest.head?.any isNamePart

/-- Finds a word that no name goes on after. -/
def wordEnding (word : List Char) : Finder := fun _ text =>
  if word.isPrefixOf text && endsWord (text.drop word.length) then some word.length else none

/-- Finds a word that stands alone. -/
def freeWord (word : List Char) : Finder := fun previous text =>
  if startsWord previous then wordEnding word previous text else none

/-- Finds lines of white space only, with the newlines at both ends. -/
def blankLines : Finder := fun _ text =>
  match text with
  | '\n' :: rest =>
    match dropEndWhile (· ≠ '\n') (rest.takeWhile isSpace) with
    | [] => none
    | run => some (run.length + 1)
  | _ => none

end PageGraft.Text
