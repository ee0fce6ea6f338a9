import PageGraft.Syntax.Automaton

/-!
# Actions

What a reading can do in a state when it sees a token: read it, finish an item, or both where the
grammar does not decide. The grammar decides by strength first and by grouping next.
-/

namespace PageGraft.Syntax

/-- What a reading can do with the next token. `read` with `repeats` only goes on with a repetition
that finished items join anyway; `pass` reads a token that may stand anywhere. -/
inductive Action where
  | read (repeats : Bool)
  | pass
  | finish (item : Item)
  | accept
deriving DecidableEq, Repr

/-- How two numbers other than none compare as levels, if they decide. -/
def compareLevels : Option Rank → Option Rank → Option Ordering
  | some (.level first), some (.level second) =>
    if first ≠ 0 || second ≠ 0 then some (compare first second) else none
  | some (.level first), none => if first ≠ 0 then some (compare first 0) else none
  | none, some (.level second) => if second ≠ 0 then some (compare 0 second) else none
  | _, _ => none

/-- Whether an entry in a list of strengths stands for a rank or for one of several constructs. -/
def Grammar.Rival.stands (rival : Grammar.Rival) (rank : Option Rank) (heads : List Nat) : Bool :=
  match rival with
  | .strength named => rank = some (.strength named)
  | .construct head => heads.contains head.ctorIdx

/-- How two sides compare in a list of strengths: the side that is found first is stronger, if the other
one is found too. -/
def compareIn (rank : Option Rank) (heads : List Nat) (otherRank : Option Rank)
    (otherHeads : List Nat) : List Grammar.Rival → Bool → Bool → Option Ordering
  | [], _, _ => none
  | rival :: rest, found, otherFound =>
    if rival.stands rank heads then
      if otherFound then some .lt
      else compareIn rank heads otherRank otherHeads rest true otherFound
    else if rival.stands otherRank otherHeads then
      if found then some .gt
      else compareIn rank heads otherRank otherHeads rest found true
    else compareIn rank heads otherRank otherHeads rest found otherFound

/-- How tightly two sides bind, each with the rank of its newest part and its constructs. -/
def compareStrength (rank : Option Rank) (heads : List Nat) (otherRank : Option Rank)
    (otherHeads : List Nat) : Ordering :=
  match compareLevels rank otherRank with
  | some order => order
  | none =>
    (Grammar.strengths.findSome? fun rivals =>
      compareIn rank heads otherRank otherHeads rivals false false).getD .eq

/-- Items that can be finished, none of them stronger than the others. -/
structure Finishers where
  items : List Item := []
  rank : Option Rank := none
  heads : List Nat := []
  sides : List (Option Side) := []

namespace Finishers

/-- Adds an item unless it is weaker; a stronger one replaces all others. -/
def add (finishers : Finishers) (item : Item) : Finishers :=
  let alone : Finishers := ⟨[item], item.rank, [item.head], [item.side]⟩
  if finishers.items.isEmpty then alone
  else
    match compareStrength item.rank [item.head] finishers.rank finishers.heads with
    | .gt => alone
    | .eq => ⟨finishers.items ++ [item], item.rank, item.head :: finishers.heads,
        item.side :: finishers.sides⟩
    | .lt => finishers

end Finishers

/-- Whether an item is finished in front of another one: the shorter first. -/
def Item.isBefore (item other : Item) : Bool :=
  item.passed.length < other.passed.length ||
    item.passed.length = other.passed.length &&
      (item.head < other.head || item.head = other.head && item.weight ≤ other.weight)

/-- Puts an item among others in the order in which they are finished. -/
def Item.place (item : Item) : List Item → List Item
  | [] => [item]
  | other :: rest => if item.isBefore other then item :: other :: rest else other :: item.place rest

namespace State

/-- The items that can be finished when a token comes next. -/
def finishers (state : State) (token : Nat) : Finishers :=
  let items := state.complete.filter fun (_, follow) => follow.contains token
  ((items.map (·.1)).foldr Item.place []).foldl Finishers.add {}

/-- Decides between reading a token and finishing items. -/
def resolve (state : State) (token : Nat) (finishers : Finishers) : List Action :=
  let finish := finishers.items.map Action.finish
  let begun := state.kernel.filter fun (item, _) => !item.passed.isEmpty
  let readers := begun.filter fun (item, _) =>
    item.rest.head?.any fun step => (Grammar.firstOf step.symbol).contains token
  let closers := begun.filter fun (item, follow) => item.isComplete && follow.contains token
  let heads := ((readers ++ closers).map (·.1.head)).eraseDups
  if heads.length = 1 && heads.all Grammar.isRepetition then finish ++ [.read true]
  else
    let orders := readers.map fun (item, _) =>
      compareStrength item.rank [item.head] finishers.rank finishers.heads
    match orders.contains .gt, orders.contains .lt with
    | true, false => [.read false]
    | false, true => finish
    | true, true => finish ++ [.read false]
    | false, false =>
      if finishers.sides.all (· == some .left) then finish
      else if finishers.sides.all (· == some .right) then [.read false]
      else finish ++ [.read false]

/-- What can be done in a state with a token. -/
def actions (state : State) (token : Nat) : List Action :=
  let finishers := state.finishers token
  let canRead := state.readable.contains token
  if finishers.items.any (·.head == root) then [.accept]
  else if finishers.items.isEmpty then
    if canRead then [.read false]
    else if Grammar.extras.contains token then [.pass]
    else []
  else if canRead then state.resolve token finishers
  else finishers.items.map Action.finish

end State

end PageGraft.Syntax
