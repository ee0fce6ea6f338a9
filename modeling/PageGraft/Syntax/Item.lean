import PageGraft.Syntax.Production

/-!
# Items

An item is a production that has been read up to some point. What matters of it is what is left to
read and how the parts that were read are called and used.
-/

namespace PageGraft.Syntax

/-- How a part that was read is called and used. -/
structure Mark where
  newName : Option Alias := none
  role : Option Role := none
deriving DecidableEq, Ord, Repr

/-- A production of the construct `head`, read up to some point. `passed` has the parts that were read,
the newest first; `rank` and `side` say how the newest was bound. -/
structure Item where
  head : Nat
  weight : Int := 0
  passed : List Mark := []
  rank : Option Rank := none
  side : Option Side := none
  rest : List Step
deriving DecidableEq, Ord, Repr

namespace Item

/-- The item after reading a symbol, if that comes next. -/
def advance? (item : Item) (symbol : Symbol) : Option Item :=
  match item.rest with
  | [] => none
  | step :: rest =>
    if step.symbol = symbol then
      some { item with
        passed := ⟨step.newName, step.role⟩ :: item.passed
        rank := step.rank
        side := step.side
        rest }
    else none

/-- The item of a production of which nothing has been read. -/
def ofProduction (head : Nat) (production : Production) : Item :=
  { head, weight := production.weight, rest := production.steps }

/-- Whether the whole production has been read. -/
def isComplete (item : Item) : Bool :=
  item.rest.isEmpty

end Item

/-- Items with the tokens that can follow their constructs, in order and each item once. -/
abbrev Kernel := List (Item × TokenSet)

/-- Adds an item, or the tokens that can follow it. -/
def Kernel.insert (item : Item) (follow : TokenSet) : Kernel → Kernel
  | [] => [(item, follow)]
  | (other, tokens) :: rest =>
    match compare item other with
    | .lt => (item, follow) :: (other, tokens) :: rest
    | .eq => (other, tokens ||| follow) :: rest
    | .gt => (other, tokens) :: Kernel.insert item follow rest

end PageGraft.Syntax
