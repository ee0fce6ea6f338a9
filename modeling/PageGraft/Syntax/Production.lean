import PageGraft.Syntax.Grammar

/-!
# Productions

A rule with choices stands for several productions without: each is a sequence of steps, and each step
reads one token or construct and knows how it is bound, called and used there.
-/

namespace PageGraft.Syntax

/-- What a step reads: a token, or a construct or repetition, each by its number. -/
inductive Symbol where
  | token (index : Nat)
  | construct (index : Nat)
deriving DecidableEq, Ord, Repr

/-- How a part is bound, called and used where it stands. -/
structure Manner where
  rank : Option Rank := none
  side : Option Side := none
  newName : Option Alias := none
  role : Option Role := none
deriving DecidableEq, Ord, Repr

structure Step extends Manner where
  symbol : Symbol
deriving DecidableEq, Ord, Repr

/-- Steps in order, and the weight of the reading that takes them. -/
structure Production where
  weight : Int := 0
  steps : List Step
deriving DecidableEq, Repr

/-- Of two weights the one further from zero, the first if there is none. -/
def heavier (first second : Int) : Int :=
  if first.natAbs < second.natAbs then second else first

namespace Production

instance : Append Production where
  append first second := ⟨heavier first.weight second.weight, first.steps ++ second.steps⟩

/-- Changes the last step, if there is one. -/
def modifyLast (production : Production) (change : Step → Step) : Production :=
  match production.steps.getLast? with
  | some last => { production with steps := production.steps.dropLast ++ [change last] }
  | none => production

end Production

namespace Rule

/-- The productions of a rule in its place. What ends a bound part that something follows is bound as
the surroundings are: the part is complete there. -/
def productions (manner : Manner) (isLast : Bool) : Rule → List Production
  | .nothing => [⟨0, []⟩]
  | .token terminal => [⟨0, [{ manner with symbol := .token terminal.index }]⟩]
  | .construct part => [⟨0, [{ manner with symbol := .construct part.ctorIdx }]⟩]
  | .repeated body => [⟨0, [{ manner with symbol := .construct (Grammar.repetitionIndex body) }]⟩]
  | .both first second =>
    let rest := productions manner isLast second
    (productions manner false first).flatMap fun head => rest.map (head ++ ·)
  | .either first second => productions manner isLast first ++ productions manner isLast second
  | .bound rank side body =>
    let inner := productions { manner with rank, side := side <|> manner.side } isLast body
    if isLast then inner
    else inner.map (·.modifyLast fun step =>
      { step with
        rank := manner.rank
        side := if side.isSome then manner.side else step.side })
  | .weighted weight body =>
    (productions manner isLast body).map fun production =>
      { production with weight := heavier weight production.weight }
  | .renamed newName body => productions { manner with newName } isLast body
  | .role part body => productions { manner with role := part } isLast body

end Rule

namespace Grammar

/-- The productions of a construct or repetition as its rule has them. -/
def productionsOf (index : Nat) : List Production :=
  match definitions[index]? with
  | some definition => definition.rule.productions {} true
  | none =>
    let again : Step := { symbol := .construct index }
    ⟨0, [again, again]⟩ ::
      ((repetitions[index - Construct.count]?).map fun body => body.productions {} true).getD []

/-- The productions of every construct and repetition as their rules have them. -/
def plainProductions : Array (List Production) :=
  ((List.range size).map productionsOf).toArray

/-- Replaces a step that reads an inlined construct by the steps of that construct, which take over how
the step is called and used. Inlined constructs are nested at most `depth` deep. -/
def inlineStep : Nat → Step → List Production
  | 0, step => [⟨0, [step]⟩]
  | depth + 1, step =>
    match step.symbol with
    | .token _ => [⟨0, [step]⟩]
    | .construct index =>
      if inlined.any (·.ctorIdx == index) then
        (plainProductions[index]?.getD []).flatMap fun inner =>
          let renamed := inner.steps.map fun part =>
            { part with newName := step.newName <|> part.newName, role := step.role <|> part.role }
          let steps := (Production.mk inner.weight renamed).modifyLast fun last =>
            { last with rank := last.rank <|> step.rank, side := last.side <|> step.side }
          steps.steps.foldr (fun part rest =>
            (inlineStep depth part).flatMap fun head => rest.map (head ++ ·))
            [⟨inner.weight, []⟩]
      else [⟨0, [step]⟩]

/-- The productions of a construct without inlined constructs. -/
def inlineAll (production : Production) : List Production :=
  production.steps.foldr (fun step rest =>
    (inlineStep 8 step).flatMap fun head => rest.map (head ++ ·))
    [⟨production.weight, []⟩]

/-- The productions of every construct and repetition. -/
def productions : Array (List Production) :=
  ((List.range size).map fun index =>
    (plainProductions[index]?.getD []).flatMap inlineAll).toArray

/-- The productions of a construct or repetition. -/
def productionsAt (index : Nat) : List Production :=
  productions[index]?.getD []

end Grammar

end PageGraft.Syntax
