import PageGraft.Yaml.Meaning
import PageGraft.Yaml.Node

/-!
# Graphs of documents

The nodes of a document by number, with every alias replaced by the number of the node it stands for.
A node has its number before its content is gone through, so a collection can contain itself.
-/

namespace PageGraft.Yaml

/-- A node with its tag. Tags that are not of the language itself are not kept. -/
inductive Part where
  | scalar (tag : Option String) (text : List Char)
  | sequence (tag : Option String) (items : List Nat)
  | mapping (tag : Option String) (entries : List (Nat × Nat))
deriving Inhabited, Repr, DecidableEq

def Part.tag : Part → Option String
  | .scalar tag _ | .sequence tag _ | .mapping tag _ => tag

/-- The nodes of a document. `hasLoops` tells whether a collection contains itself. -/
structure Graph where
  parts : Array Part := #[]
  hasLoops : Bool := false
deriving Repr

namespace Graph

/-- The node of a number. -/
def part (graph : Graph) (number : Nat) : Part :=
  graph.parts.getD number default

def setPart (graph : Graph) (number : Nat) (part : Part) : Graph :=
  { graph with parts := graph.parts.setIfInBounds number part }

end Graph

/-- Numbers the nodes. Of each anchor the number of its node is known, and whether the node is still
being gone through. -/
structure Numbering where
  graph : Graph := {}
  anchors : List (String × Nat × Bool) := []

abbrev Composing := ExceptT Fault (StateM Numbering)

namespace Composing

/-- Takes the next number, for a node whose anchor no other node may have. -/
def begin (anchor : Option String) : Composing Nat := do
  let numbering ← get
  let number := numbering.graph.parts.size
  if anchor.any fun name => (numbering.anchors.lookup name).isSome then failure
  set { numbering with
    graph := { numbering.graph with parts := numbering.graph.parts.push default }
    anchors := (anchor.map fun name => (name, number, true)).toList ++ numbering.anchors }
  return number

/-- Gives a number its node, which is gone through. -/
def complete (number : Nat) (part : Part) : Composing Nat := do
  modify fun numbering => { numbering with
    graph := numbering.graph.setPart number part
    anchors := numbering.anchors.map fun (name, other, isOpen) =>
      (name, other, isOpen && other ≠ number) }
  return number

/-- The number of the node of an anchor. -/
def resolve (name : String) : Composing Nat := do
  match (← get).anchors.lookup name with
  | none => failure
  | some (number, isOpen) =>
    if isOpen then
      modify fun numbering => { numbering with graph.hasLoops := true }
    return number

end Composing

/-- The tag of a collection, which has one by its kind if none is given. -/
def collectionTag (default : String) : Option String → Option String
  | none | some "!" => some default
  | some tag => standardName? tag

mutual

def compose : Node → Composing Nat
  | .aliased name => Composing.resolve name
  | .scalar anchor tag text plain => do
    let number ← Composing.begin anchor
    Composing.complete number (.scalar (scalarName? tag text plain) text)
  | .sequence anchor tag items => do
    let number ← Composing.begin anchor
    let items ← composeAll items
    Composing.complete number (.sequence (collectionTag "seq" tag) items)
  | .mapping anchor tag entries => do
    let number ← Composing.begin anchor
    let entries ← composeEntries entries
    Composing.complete number (.mapping (collectionTag "map" tag) entries)

def composeAll : List Node → Composing (List Nat)
  | [] => return []
  | node :: rest => do
    let number ← compose node
    return number :: (← composeAll rest)

def composeEntries : List (Node × Node) → Composing (List (Nat × Nat))
  | [] => return []
  | (key, value) :: rest => do
    let key ← compose key
    let value ← compose value
    return (key, value) :: (← composeEntries rest)

end

/-- The graph of a document, whose root has the number zero. -/
def Graph.ofNode (node : Node) : Except Fault Graph :=
  match (compose node).run.run {} with
  | (.ok _, numbering) => return numbering.graph
  | (.error fault, _) => throw fault

end PageGraft.Yaml
