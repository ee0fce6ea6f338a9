import PageGraft.Syntax.Item
import PageGraft.Syntax.Place

/-!
# Trees under construction

While a source is read, its parts are trees that still have every construct and repetition of the
grammar in them. A tree knows what its faults cost, so that of several readings the cheapest can be
chosen. A finished tree is turned into the nodes that it shows.
-/

namespace PageGraft.Syntax

/-- What a tree stands for: a token or construct, text that is unexpected, or text that was skipped on
the way to the next statement. -/
inductive Label where
  | token (index : Nat)
  | construct (index : Nat)
  | fault
  | skipped
deriving DecidableEq, Repr

/-- A tree under construction. `before` is where the tree in front of it ended. `marks` has an entry for
each child that is not extra, and `count` is the number of visible descendants. -/
structure Subtree where
  label : Label
  children : List Subtree := []
  marks : List Mark := []
  before : Place
  start : Place
  stop : Place
  isExtra : Bool := false
  isMissing : Bool := false
  isKeyword : Bool := false
  cost : Nat := 0
  weight : Int := 0
  count : Nat := 0

instance : Inhabited Subtree where
  default := { label := .fault, before := ⟨{}, []⟩, start := ⟨{}, []⟩, stop := ⟨{}, []⟩ }

/-! ## Visibility -/

/-- Whether the nodes of each construct are shown; those of repetitions are not. -/
def Grammar.isShown : Array Bool :=
  (definitions.map (·.type.isSome)).toArray

/-- Whether the nodes of each token are shown. -/
def tokenIsShown : Array Bool :=
  (tokens.map (!·.isHidden)).toArray

def Label.isVisible : Label → Bool
  | .token index => (tokenIsShown[index]?).getD false
  | .construct index => (Grammar.isShown[index]?).getD false
  | .fault => true
  | .skipped => false

/-! ## What faults cost -/

/-- The cost of a fault, however small it is. -/
def faultCost : Nat := 500

/-- The cost of a tree that is skipped. -/
def skippedTreeCost : Nat := 100

/-- The cost of a line that is skipped. -/
def skippedLineCost : Nat := 30

/-- The cost of a token that is missing. -/
def missingCost : Nat := 610

/-- The cost of skipping the text between two places. -/
def skippingCost (start stop : Place) : Nat :=
  (stop.octet - start.octet) + skippedLineCost * (stop.position.row - start.position.row)

namespace Subtree

mutual

/-- How many visible nodes a tree has in its place. -/
def visibleCount : Subtree → Nat
  | ⟨label, children, _, _, _, _, _, _, _, _, _, _⟩ =>
    if label.isVisible then 1 else visibleCountAll children

def visibleCountAll : List Subtree → Nat
  | [] => 0
  | child :: rest => visibleCount child + visibleCountAll rest

end

/-- The cost of the children of a fault, apart from their own. -/
def costAmongFaults (child : Subtree) : Nat :=
  if child.isExtra || child.label = .fault && child.children.isEmpty then 0
  else skippedTreeCost * visibleCount child

/-- A token, with no text of its own if it is missing. -/
def leaf (label : Label) (before start stop : Place) : Subtree :=
  { label, before, start, stop, isExtra := label = .token 0 }

/-- A token that the source should have. -/
def missing (token : Nat) (place : Place) : Subtree :=
  { label := .token token, before := place, start := place, stop := place, isMissing := true,
    cost := missingCost }

/-- A tree with children; one without children stands at a place. -/
def node (label : Label) (children : List Subtree) (marks : List Mark) (place : Place) : Subtree :=
  let start := (children.head?.map start).getD place
  let stop := (children.getLast?.map stop).getD place
  let inner := children.foldl (fun cost child =>
    if child.label = .skipped then cost else cost + child.cost) 0
  let own :=
    if label = .fault || label = .skipped then
      faultCost + skippingCost start stop + (children.map costAmongFaults).foldl (· + ·) 0
    else 0
  { label
    children
    marks
    before := (children.head?.map before).getD place
    start
    stop
    cost := inner + own
    weight := (children.map weight).foldl (· + ·) 0
    count := children.foldl (fun count child =>
      count + child.count + if child.label.isVisible then 1 else 0) 0 }

/-- How many nodes a tree adds to the progress of a reading. -/
def progress (tree : Subtree) : Nat :=
  tree.count + (if tree.label.isVisible then 1 else 0) + (if tree.label = .skipped then 1 else 0)

/-- Whether two trees are the same for what follows them. -/
def isEquivalent (first second : Subtree) : Bool :=
  first.label = second.label &&
    (0 < first.cost && 0 < second.cost ||
      first.before.octet = second.before.octet && first.start.octet = second.start.octet &&
        first.stop.octet = second.stop.octet &&
        first.children.length = second.children.length && first.isExtra = second.isExtra)

/-- Splits trees into those up to the last one that is not extra, and the extra ones after it. -/
def splitExtras (trees : List Subtree) : List Subtree × List Subtree :=
  let extras := (trees.reverse.takeWhile (·.isExtra)).reverse
  (trees.take (trees.length - extras.length), extras)

/-! ## Choosing between readings -/

/-- The order of labels. Faults come after everything else. -/
def rankOf : Label → Nat
  | .token index => index
  | .construct index => tokens.length + index
  | .fault | .skipped => tokens.length + Grammar.size

mutual

/-- Compares trees by their labels and numbers of children, in document order. -/
def order : Subtree → Subtree → Ordering
  | ⟨label, children, _, _, _, _, _, _, _, _, _, _⟩, other =>
    (compare (rankOf label) (rankOf other.label)).then <|
      (compare children.length other.children.length).then <|
        orderAll children other.children

def orderAll : List Subtree → List Subtree → Ordering
  | child :: rest, other :: others => (order child other).then (orderAll rest others)
  | _, _ => .eq

end

/-- Whether the second of two readings of a text is chosen: the cheaper, else the weightier, else the
one that comes first in the order of trees. -/
def prefersSecond (first second : Subtree) : Bool :=
  if second.cost ≠ first.cost then second.cost < first.cost
  else if second.weight ≠ first.weight then first.weight < second.weight
  else 0 < first.cost || order first second == .gt

/-! ## Nodes -/

/-- The type of the nodes of a label, and whether they are named. -/
def typeOf : Label → String × Bool
  | .token index => ((tokens[index]?).map fun token => (token.type, token.isNamed)).getD ("", false)
  | .construct index => (((Grammar.definitions[index]?).bind (·.type)).getD "", true)
  | .fault | .skipped => ("ERROR", true)

mutual

/-- The nodes that a tree shows in its place, itself or those of its children. -/
def toNodes (mark : Mark) : Subtree → List Node
  | ⟨label, children, marks, _, start, stop, _, isMissing, _, cost, _, _⟩ =>
    let nodes := toNodesAll marks children
    let shown :=
      if mark.newName.isSome || label.isVisible then
        let (type, named) :=
          (mark.newName.map fun newName => (newName.type, newName.isNamed)).getD (typeOf label)
        let isError := label = .fault
        [{ type, named, start := start.position, stop := stop.position, isError, isMissing
           hasError := isMissing || isError || 0 < cost, children := nodes : Node }]
      else nodes
    match mark.role with
    | some role => shown.map fun node => { node with role := role.text }
    | none => shown

def toNodesAll (marks : List Mark) : List Subtree → List Node
  | [] => []
  | child :: rest =>
    if child.isExtra then toNodes {} child ++ toNodesAll marks rest
    else toNodes (marks.headD {}) child ++ toNodesAll marks.tail rest

end

end Subtree

end PageGraft.Syntax
