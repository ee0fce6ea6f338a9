import PageGraft.Text.Character

/-!
# Trimming and lines

Cutting white space off the ends of a text, and seeing a text as its lines.
-/

namespace PageGraft.Text

/-- The text without the characters of a class at its end. -/
def dropEndWhile (drops : Char → Bool) (text : List Char) : List Char :=
  (text.reverse.dropWhile drops).reverse

/-- The text without the white space at its ends. -/
def trim (text : List Char) : List Char :=
  dropEndWhile isSpace (text.dropWhile isSpace)

/-- A text of white space only. -/
def isBlankLine (text : List Char) : Bool :=
  text.all isSpace

/-- The lines of a text, cut at every newline; a text without newlines is one line. -/
def lines (text : List Char) : List (List Char) :=
  text.splitOn '\n'

/-- Lines put together again, with a newline between each two. -/
def unlines (parts : List (List Char)) : List Char :=
  ['\n'].intercalate parts

/-- The spaces and tabs that a text begins with. -/
def leadingBlanks (text : List Char) : List Char :=
  text.takeWhile isBlank

/-- Whether a piece occurs anywhere in a text, as the number of characters before its first
occurrence. -/
def distanceTo (piece : List Char) : List Char → Option Nat
  | [] => if piece.isEmpty then some 0 else none
  | character :: rest =>
    if piece.isPrefixOf (character :: rest) then some 0
    else (distanceTo piece rest).map (· + 1)

/-- The number of characters before the last occurrence of a piece. -/
def lastDistanceTo (piece : List Char) : List Char → Option Nat
  | [] => if piece.isEmpty then some 0 else none
  | character :: rest =>
    match lastDistanceTo piece rest with
    | some distance => some (distance + 1)
    | none => if piece.isPrefixOf (character :: rest) then some 0 else none

end PageGraft.Text
