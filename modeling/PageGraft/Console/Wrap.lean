import PageGraft.Console.Cell
import PageGraft.Text.Trim

/-!
# Wrapping

How a text is broken into lines that fit a width. A line is broken between words; white space after
a word stays with the word, as far as it fits. A word that is wider than the line is broken anywhere,
or left whole and cut.
-/

namespace PageGraft.Console

open PageGraft.Text

/-- What becomes of a word that is wider than the line. -/
inductive Overflow where
  | fold
  | ellipsis
deriving Repr, DecidableEq

/-- Where the text of a line stands. Ragged lines are not filled up. -/
inductive Justification where
  | ragged
  | left
  | center
  | right
deriving Repr, DecidableEq

/-! ## Preparing a text -/

/-- Whether a character moves the cursor in a way that would spoil the layout. -/
def isCursorControl (character : Char) : Bool :=
  [7, 8, 11, 12, 13].contains character.toNat

def stripControls (text : List Char) : List Char :=
  text.filter (!isCursorControl ·)

/-- Writes spaces for tabs, up to the next multiple of eight cells. -/
def expandTabs (text : List Char) : List Char :=
  go 0 [] text
where
  go (column : Nat) (part : List Char) : List Char → List Char
    | [] => part
    | '\t' :: rest =>
      let reached := column + cells (part ++ [' '])
      let gap := (8 - reached % 8) % 8
      part ++ spaces (1 + gap) ++ go (reached + gap) [] rest
    | character :: rest => go column (part ++ [character]) rest

/-! ## Words -/

/-- The words of a text, each with the white space after it, the first also with the white space
before it. A text of white space has no words. -/
def words : List Char → List (List Char)
  | [] => []
  | character :: rest =>
    match words rest with
    | [] => if isSpace character then [] else [character :: rest]
    | word :: more =>
      match isSpace character, word.span isSpace with
      | false, (gap@(_ :: _), body) => (character :: gap) :: body :: more
      | _, _ => (character :: word) :: more

/-- Pieces of a word that fit a width, of whole clusters. A cluster that is wider than the line is a
piece of its own. -/
def chop (width : Nat) (word : List Char) : List (List Char) :=
  go [] 0 (clusters word)
where
  go (piece : List Char) (filled : Nat) : List Cluster → List (List Char)
    | [] => [piece]
    | cluster :: rest =>
      if width < filled + cluster.width then
        piece :: go cluster.characters cluster.width rest
      else go (piece ++ cluster.characters) (filled + cluster.width) rest

/-! ## Lines -/

/-- Lines while they are filled: the lines that are done, the last one first, the line that is being
filled, and how many cells of it are. -/
structure Filling where
  done : List (List Char) := []
  line : List Char := []
  filled : Nat := 0

namespace Filling

/-- Whether the text has begun. -/
def isBegun (filling : Filling) : Bool :=
  !filling.done.isEmpty || !filling.line.isEmpty

/-- Begins a new line with a text; at the beginning of everything there is no line to end. -/
def breakBefore (filling : Filling) (text : List Char) : Filling :=
  if filling.isBegun then
    { done := filling.line :: filling.done, line := text, filled := cells text }
  else { filling with line := text, filled := cells text }

def add (overflow : Overflow) (width : Nat) (filling : Filling) (word : List Char) : Filling :=
  let needed := cells (dropEndWhile isSpace word)
  if filling.filled + needed ≤ width then
    { filling with line := filling.line ++ word, filled := filling.filled + cells word }
  else if needed ≤ width then filling.breakBefore word
  else
    match overflow with
    | .fold => (chop width word).foldl breakBefore filling
    | .ellipsis => filling.breakBefore word

def lines (filling : Filling) : List (List Char) :=
  filling.done.reverse ++ [filling.line]

end Filling

/-- Breaks a line without tabs at its words. -/
def breakLine (overflow : Overflow) (width : Nat) (line : List Char) : List (List Char) :=
  match words line with
  | [] => [line]
  | parts => (parts.foldl (Filling.add overflow width) {}).lines

/-- Drops white space at the end of a line that has more characters than its width. -/
def dropOverhang (width : Nat) (line : List Char) : List Char :=
  let gap := line.length - (dropEndWhile isSpace line).length
  line.take (line.length - min gap (line.length - width))

/-- Cuts a line that is too wide. -/
def cut (overflow : Overflow) (width : Nat) (line : List Char) : List Char :=
  if cells line ≤ width then line
  else
    match overflow with
    | .fold => crop width line
    | .ellipsis => crop (width - 1) line ++ ['…']

/-- Puts a line in its place. -/
def justify (justification : Justification) (overflow : Overflow) (width : Nat)
    (line : List Char) : List Char :=
  let bare := cut overflow width (dropEndWhile isSpace line)
  match justification with
  | .ragged => cut overflow width line
  | .left => pad width (cut overflow width line)
  | .center => pad width (spaces ((width - cells bare) / 2) ++ bare)
  | .right => spaces (width - cells bare) ++ bare

/-- The lines of a text in a width. -/
def wrap (justification : Justification) (overflow : Overflow) (width : Nat)
    (text : List Char) : List (List Char) :=
  if width = 0 then []
  else
    (lines (stripControls text)).flatMap fun line =>
      (breakLine overflow width (expandTabs line)).map fun part =>
        justify justification overflow width (dropOverhang width part)

end PageGraft.Console
