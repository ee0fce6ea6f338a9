import PageGraft.Yaml.Graph

/-!
# The value of a document

Turns the graph of a document into plain data. A merge key brings in the entries of other mappings,
which those written out override, and of two entries with one key the last one counts.

The contents of collections are looked at in the order in which the collections are found, each
collection as a whole before those inside it. Of several faults the first in this order counts.
-/

namespace PageGraft.Yaml

open PageGraft.Data

/-- A graph whose collections are gone through: the numbers that are found so far, and the collections
among them that wait. -/
structure Traversal where
  graph : Graph
  found : List Nat := []
  waiting : List Nat := []

abbrev Checking := ExceptT Fault (StateM Traversal)

def part (number : Nat) : Checking Part :=
  return (← get).graph.part number

/-! ## Merging -/

/-- Whether a node is a key with a tag. -/
def hasTag (tag : String) (number : Nat) : Checking Bool :=
  return (← part number).tag == some tag

/-- The first entry whose key has a tag, and the other entries. -/
def takeEntry (tag : String) :
    List (Nat × Nat) → Checking (Option (Nat × List (Nat × Nat)))
  | [] => return none
  | (key, value) :: rest => do
    if ← hasTag tag key then return some (value, rest)
    else
      return (← takeEntry tag rest).map fun (found, others) => (found, (key, value) :: others)

def setEntries (number : Nat) (entries : List (Nat × Nat)) : Checking Unit := do
  match ← part number with
  | .mapping tag _ =>
    modify fun traversal =>
      { traversal with graph := traversal.graph.setPart number (.mapping tag entries) }
  | _ => return ()

/-- Makes a key a text that could also stand for the value of its mapping. -/
def makeText (number : Nat) : Checking Unit := do
  match ← part number with
  | .scalar (some "value") text =>
    modify fun traversal =>
      { traversal with graph := traversal.graph.setPart number (.scalar (some "str") text) }
  | _ => return ()

/-- Replaces the merge keys of a mapping by the entries that they bring in, which come first. Of several
mappings under one key the first one counts, so its entries come last. Every step takes one merge
key out of the graph, so their number is enough fuel. -/
def flatten : Nat → Nat → List (Nat × Nat) → Checking Unit
  | 0, _, _ => failure
  | fuel + 1, number, merged => do
    match ← part number with
    | .mapping _ entries =>
      match ← takeEntry "merge" entries with
      | none =>
        for (key, _) in entries do makeText key
        setEntries number (merged ++ entries)
      | some (source, others) =>
        setEntries number others
        let added ← (do
          match ← part source with
          | .mapping _ _ => entriesOf fuel source
          | .sequence _ items => do
            let groups ← items.mapM (entriesOf fuel)
            return groups.reverse.flatten
          | .scalar _ _ => failure)
        flatten fuel number (merged ++ added)
    | _ => failure
where
  /-- The entries of a mapping without merge keys. -/
  entriesOf (fuel : Nat) (source : Nat) : Checking (List (Nat × Nat)) := do
    flatten fuel source []
    match ← part source with
    | .mapping _ entries => return entries
    | _ => failure

/-- How many steps merging can take. -/
def mergeFuel (graph : Graph) : Nat :=
  graph.parts.foldl (fun count part =>
    match part with
    | .mapping _ entries => count + entries.length
    | _ => count) 2

/-! ## Checking -/

/-- The text of a scalar. A mapping with a key for its value counts as this value. -/
def scalarText : Nat → Nat → Checking (List Char)
  | 0, _ => failure
  | fuel + 1, number => do
    match ← part number with
    | .scalar _ text => return text
    | .mapping _ entries =>
      match ← takeEntry "value" entries with
      | some (value, _) => scalarText fuel value
      | none => failure
    | .sequence _ _ => failure

/-- The tags of collections. -/
def collectionTags : List String :=
  ["seq", "map", "set", "omap", "pairs"]

/-- Checks a node when it is found. The content of a collection has to wait. -/
def find (number : Nat) : Checking Unit := do
  let traversal ← get
  if traversal.found.contains number then return ()
  let some tag := (← part number).tag | failure
  if collectionTags.contains tag then
    set { traversal with
      found := number :: traversal.found, waiting := traversal.waiting ++ [number] }
  else
    let text ← scalarText (traversal.graph.parts.size + 1) number
    let _ ← liftM (valueOf tag text)
    modify fun traversal => { traversal with found := number :: traversal.found }

/-- Whether a node can be a key. -/
def isKey (number : Nat) : Checking Bool :=
  return !(← part number).tag.any collectionTags.contains

/-- Checks the content of a mapping. -/
def checkMapping (number : Nat) : Checking Unit := do
  match ← part number with
  | .mapping _ _ =>
    flatten (mergeFuel (← get).graph) number []
    match ← part number with
    | .mapping _ entries =>
      for (key, value) in entries do
        find key
        if !(← isKey key) then failure
        find value
    | _ => failure
  | _ => failure

/-- Checks the content of a collection. -/
def checkContent (number : Nat) : Checking Unit := do
  match ← part number with
  | .sequence (some "seq") items => for item in items do find item
  | .sequence (some "omap") items | .sequence (some "pairs") items =>
    for item in items do
      match ← part item with
      | .mapping _ [(key, value)] =>
        find key
        find value
      | _ => failure
  | .mapping (some "map") _ | .mapping (some "set") _ => checkMapping number
  | _ => failure

/-- Checks the collections that wait. Each collection waits once. -/
def checkWaiting : Nat → Checking Unit
  | 0 => return ()
  | fuel + 1 => do
    match (← get).waiting with
    | [] => return ()
    | number :: rest =>
      modify fun traversal => { traversal with waiting := rest }
      checkContent number
      checkWaiting fuel

/-- Checks a graph. In the result mappings have no merge keys. -/
def Graph.check (graph : Graph) : Except Fault Graph :=
  match (do find 0; checkWaiting (graph.parts.size + 1) : Checking Unit).run.run { graph } with
  | (.ok (), traversal) => return traversal.graph
  | (.error fault, _) => throw fault

/-! ## Values -/

/-- The values of nodes that are known; nodes in loops are not among them. -/
abbrev Valuation := StateM (List (Nat × Value))

/-- Whether the collection of a label stands inside a value. -/
def containsAgain (label : Nat) : Value → Bool
  | .again other => other == label
  | .list items | .set items | .tuple items => anyAgain items
  | .mapping entries => anyEntryAgain entries
  | .knot _ content => containsAgain label content
  | _ => false
where
  anyAgain : List Value → Bool
    | [] => false
    | value :: rest => containsAgain label value || anyAgain rest
  anyEntryAgain : List (Value × Value) → Bool
    | [] => false
    | (key, value) :: rest =>
      containsAgain label key || containsAgain label value || anyEntryAgain rest

/-- The value of a scalar that is checked. -/
def scalarValue (graph : Graph) (number : Nat) (tag : String) : Value :=
  let text := (scalarText (graph.parts.size + 1) number).run.run { graph }
  match text with
  | (.ok text, _) =>
    match valueOf tag text with
    | .ok value => value
    | .error _ => .null
  | (.error _, _) => .null

/-- The value of a node inside other nodes, of which there are fewer than the fuel. -/
def valueWithin (graph : Graph) : Nat → List Nat → Nat → Valuation Value
  | 0, _, _ => return .null
  | fuel + 1, around, number => do
    if around.contains number then return .again number
    else
      match (← get).lookup number with
      | some value => return value
      | none =>
        let inside := valueWithin graph fuel (number :: around)
        let content ← (do
          match graph.part number with
          | .sequence (some "seq") items => return .list (← items.mapM inside)
          | .sequence (some "omap") items | .sequence (some "pairs") items =>
            let pairs ← items.mapM fun item => do
              match graph.part item with
              | .mapping _ [(key, value)] =>
                let key ← inside key
                let value ← inside value
                return Value.tuple [key, value]
              | _ => return .null
            return .list pairs
          | .mapping (some "map") entries =>
            let values ← entries.mapM fun (key, value) => do
              let key ← inside key
              let value ← inside value
              return (key, value)
            return .mapping (values.foldl (fun all (key, value) => Value.put all key value) [])
          | .mapping (some "set") entries =>
            let keys ← entries.mapM fun (key, _) => inside key
            let entries := keys.foldl (fun all key => Value.put all key .null) []
            return .set (entries.map (·.1))
          | part => return scalarValue graph number (part.tag.getD ""))
        if !graph.hasLoops then
          modify ((number, content) :: ·)
          return content
        else if containsAgain number content then return .knot number content
        else return content

/-- The value of a graph. -/
def Graph.value (graph : Graph) : Value :=
  ((valueWithin graph (graph.parts.size + 1) [] 0).run []).1

/-- The value of a text that is one document; a text without a document is nothing. -/
def load (text : List Char) : Except Fault Value := do
  match ← Node.ofText text with
  | none => return .null
  | some node =>
    let graph ← Graph.ofNode node
    return (← graph.check).value

/-- Loads documents once they have been read. -/
def loader : Loader := fun stream =>
  match stream.error with
  | some error => .error (.undecodable error)
  | none => load stream.text

end PageGraft.Yaml
