import PageGraft.Syntax.Closure

/-!
# States

What has been read up to some point leaves certain items open: that is the state of the reading. The
states are made as the reading of a source comes to them.
-/

namespace PageGraft.Syntax

/-- A state of the reading. `complete` has the items that may be finished here, `readable` the tokens
that can be read next, `valid` those and the tokens that can follow a finished item. -/
structure State where
  kernel : Kernel
  outlook : Outlook
  complete : Kernel
  readable : TokenSet
  valid : TokenSet
  moves : List (Symbol × Option Nat) := []

namespace State

/-- The number of the construct that stands for a whole source. -/
def root : Nat :=
  Grammar.size

/-- The end of the source. -/
def ending : TokenSet :=
  .ofTokens [.lexeme .ending]

/-- The number of the repetition of statements. -/
def statements : Nat :=
  Grammar.repetitionIndex (.construct .statement)

/-- What can follow the next part of an item. Statements can be cut off by the end of the source: a
block that is left open is noticed only after them. -/
def followOf (step : Step) (rest : List Step) (follow : TokenSet) : TokenSet :=
  let next :=
    match rest with
    | [] => follow
    | after :: _ => Grammar.firstOf after.symbol
  if step.symbol = .construct statements then next ||| ending else next

/-- The constructs that are about to be read after the items of a kernel. -/
def outlookOf (kernel : Kernel) : Outlook :=
  kernel.foldl (fun outlook (item, follow) =>
    match item.rest with
    | step :: rest =>
      match step.symbol with
      | .construct index => outlook.insertAll index (followOf step rest follow)
      | .token _ => outlook
    | [] => outlook) []

/-- The empty productions of every construct, as finished items. -/
def emptyItems : Array (List Item) :=
  ((List.range Grammar.size).map fun index =>
    ((Grammar.productionsAt index).map (Item.ofProduction index)).filter (·.isComplete)).toArray

/-- The state of a kernel. -/
def ofKernel (kernel : Kernel) : State :=
  let outlook := outlookOf kernel
  let complete := kernel.filter (·.1.isComplete) ++ outlook.flatMap fun (index, follow) =>
    (emptyItems[index]?.getD []).map fun item => (item, follow)
  let readable := outlook.foldl (fun set (index, _) => set ||| Grammar.tokenStartsAt index)
    (kernel.foldl (fun set (item, _) =>
      match item.rest with
      | ⟨_, .token index⟩ :: _ => set ||| .single index
      | _ => set) 0)
  { kernel
    outlook
    complete
    readable
    valid := complete.foldl (fun set (_, follow) => set ||| follow) (readable ||| Grammar.extras) }

/-- The kernel of the state after reading a symbol. -/
def kernelAfter (state : State) (symbol : Symbol) : Kernel :=
  let opened := state.outlook.foldr (fun (index, follow) kernel =>
    if (Grammar.startsAt index).contains symbol then
      (Grammar.productionsAt index).foldr (fun production kernel =>
        match (Item.ofProduction index production).advance? symbol with
        | some item => Kernel.insert item follow kernel
        | none => kernel) kernel
    else kernel) []
  state.kernel.foldr (fun (item, follow) kernel =>
    match item.advance? symbol with
    | some item => Kernel.insert item follow kernel
    | none => kernel) opened

/-- The state in which nothing has been read. -/
def initial : State :=
  .ofKernel [({ head := root, rest := [{ symbol := .construct Construct.program.ctorIdx }] }, ending)]

end State

/-- The states that a reading has come to so far. -/
abbrev Automaton := Array State

namespace Automaton

def initial : Automaton :=
  #[State.initial]

/-- The state with a kernel, made if it is new. -/
def stateOf (automaton : Automaton) (kernel : Kernel) : Nat × Automaton :=
  match automaton.findIdx? (·.kernel == kernel) with
  | some index => (index, automaton)
  | none => (automaton.size, automaton.push (.ofKernel kernel))

/-- The state after reading a symbol in a state; none if the symbol cannot be read there. -/
def move (automaton : Automaton) (index : Nat) (symbol : Symbol) : Option Nat × Automaton :=
  match automaton[index]? with
  | none => (none, automaton)
  | some state =>
    match state.moves.lookup symbol with
    | some target => (target, automaton)
    | none =>
      let (target, automaton) :=
        match state.kernelAfter symbol with
        | [] => (none, automaton)
        | kernel =>
          let (target, automaton) := automaton.stateOf kernel
          (some target, automaton)
      (target, automaton.modify index fun state =>
        { state with moves := (symbol, target) :: state.moves })

end Automaton

end PageGraft.Syntax
