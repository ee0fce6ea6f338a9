import PageGraft.Syntax.Source

/-!
# Diagnostics

One line of text for each of the first faults of a tree: where it is, and what is missing or
unexpected there.
-/

namespace PageGraft.Syntax

open PageGraft.Text

/-- How many faults are described. -/
def diagnosticLimit : Nat := 5

/-- How many characters of unexpected text are quoted. -/
def snippetLimit : Nat := 40

/-- A character that ends a line of any text. -/
def isLineBreak (character : Char) : Bool :=
  let code := character.toNat
  (0x0A ≤ code && code ≤ 0x0D) || (0x1C ≤ code && code ≤ 0x1E) || code == 0x85 ||
    code == 0x2028 || code == 0x2029

/-- The beginning of the first line of a text that is not blank. -/
def snippet (text : List Char) : List Char :=
  ((trim text).takeWhile (!isLineBreak ·)).take snippetLimit

/-- Describes a fault. -/
def describeFault (source : Source) (node : Node) : Except DecodeError String := do
  let place := s!"line {node.start.row + 1}, column {node.start.column + 1}"
  if node.isMissing then
    pure s!"{place}: missing '{node.type}'"
  else
    let text ← source.nodeText? node
    pure s!"{place}: unexpected '{String.ofList (snippet text)}'"

/-- Describes the first faults of a tree. -/
def diagnostics (source : Source) (root : Node) : Except DecodeError (List String) :=
  (root.faults.take diagnosticLimit).mapM (describeFault source)

/-- The faults of a source that does not parse. -/
structure ParseError where
  diagnostics : List String
deriving Repr, DecidableEq

/-- Quotes the first fault. -/
def ParseError.message (error : ParseError) : String :=
  "Failed to parse source: " ++ error.diagnostics.headD "unknown location"

/-- Takes a tree without faults, and refuses one with faults, of which the first are described. -/
def checked (source : Source) (tree : Node) : Except DecodeError (Except ParseError Node) :=
  if tree.hasError then (diagnostics source tree).map fun lines => .error ⟨lines⟩
  else .ok (.ok tree)

/-- What makes the tree of a source, or finds the faults for which there is none. -/
abbrev Parser := Source → Except ParseError Node

end PageGraft.Syntax
