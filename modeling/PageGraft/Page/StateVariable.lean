import PageGraft.Page.Declaration
import PageGraft.Script.Statement
import PageGraft.Settings.Basic
import PageGraft.Text.CaseTable

/-!
# State variables in a page

A state variable of the page is a `let` declaration. New ones go to the end of the state region: a
line comment with known words, up to the first line that begins with one of the terminators. Words
and terminators are compared without regard to case.
-/

namespace PageGraft.Page

open PageGraft.Text PageGraft.Script PageGraft.Settings

/-- Reads the words of a declaration up to its initial value, blanks in front of the value
included. -/
def atInitialValue (reader text : List Char) : Option (List Char) := do
  let rest ← beforeMark reader '=' (← dropPiece "let".toList text)
  pure ((rest.drop 1).dropWhile isBlank)

/-- Finds `let`, a name and an equals sign, and the blanks after it. -/
def letHeader (reader : List Char) : Finder := fun previous text =>
  if startsWord previous then
    (atInitialValue reader text).map fun rest => text.length - rest.length
  else none

/-- The start and the end of the first piece that a finder recognises. -/
def firstFound (find : Finder) : Option Char → List Char → Option (Nat × Nat)
  | previous, text =>
    match find previous text with
    | some length => some (0, length)
    | none =>
      match text with
      | [] => none
      | character :: rest =>
        (firstFound find (some character) rest).map fun (start, stop) => (start + 1, stop + 1)
termination_by structural _ text => text

/-- Where the initial value of a state variable stands: it begins after the equals sign and the
blanks, and ends with its statement, blanks at the end excluded. -/
def findInitialValue (text reader : List Char) : Option (Nat × Nat) := do
  let (_, start) ← firstFound (letHeader reader) none text
  let value := (text.drop start).take (statementLength (text.drop start))
  pure (start, start + (dropEndWhile isBlank value).length)

/-- The text after a piece, compared without regard to case. -/
def dropCaseless : List Char → List Char → Option (List Char)
  | [], text => some text
  | _ :: _, [] => none
  | letter :: piece, character :: text =>
    if sameLetter letter character then dropCaseless piece text else none

/-- Reads words, each after white space of at least one character. -/
def afterWords : List (List Char) → List Char → Option (List Char)
  | [], text => some text
  | word :: words, text => do
    afterWords words (← dropCaseless word (← dropSpaces? text))

/-- The texts after the slashes and words of a region comment; without words, the white space after
the slashes is taken as far as possible first. -/
def afterRegionComment (words : List (List Char)) (text : List Char) : List (List Char) :=
  match dropPiece "//".toList text with
  | none => []
  | some rest =>
    match words with
    | [] => afterSpaces rest ++ [rest]
    | word :: words =>
      ((dropCaseless word (rest.dropWhile isSpace)).bind (afterWords words)).toList

/-- Whether a newline begins the text, and after some white space one of the terminators. -/
def endsRegion (terminators : List (List Char)) : List Char → Bool
  | '\n' :: rest =>
    (afterSpaces rest ++ [rest]).any fun tail =>
      terminators.any fun terminator => (dropCaseless terminator tail).isSome
  | _ => false

/-- The number of characters before the end of the region. -/
def regionDistance (terminators : List (List Char)) : List Char → Option Nat
  | [] => none
  | character :: rest =>
    if endsRegion terminators (character :: rest) then some 0
    else (regionDistance terminators rest).map (· + 1)

/-- Finds a state region. -/
def stateRegion (words terminators : List (List Char)) : Finder := fun _ text =>
  (afterRegionComment words text).findSome? fun rest =>
    (regionDistance terminators rest).map (text.length - rest.length + ·)

/-- The words of a text, cut at white space. -/
def wordsOf (text : List Char) : List (List Char) :=
  (text.splitBy fun left right => isSpace left == isSpace right).filter fun run =>
    !run.all isSpace

/-- The start and the end of the state region that the settings describe. -/
def findStateRegion (settings : PatcherSettings) (text : List Char) : Option (Nat × Nat) :=
  firstFound
    (stateRegion (wordsOf settings.stateRegionComment.toList)
      ((settings.regionTerminators ++ [settings.insertionMarker]).map String.toList))
    none text

end PageGraft.Page
