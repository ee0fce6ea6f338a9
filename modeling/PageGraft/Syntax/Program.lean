import PageGraft.Syntax.Diagnostic
import PageGraft.Syntax.Recovery

/-!
# Programs

Reads whole sources: every version of the reading takes one token after the other, and after each round
the versions that are not worth going on with are given up.
-/

namespace PageGraft.Syntax

/-! ## One token -/

/-- What came of the actions for a token: the version has gone on, or items were finished, the last of
them on a new version. -/
inductive Outcome where
  | moved
  | finished (any : Bool) (last : Option Nat)

/-- Performs the actions of a version for a token. -/
def perform (version : Nat) (lookahead : Subtree) :
    List Action → Bool → Option Nat → ReadingM Outcome
  | [], any, last => return .finished any last
  | action :: rest, any, last => do
    let stage := (← frameOf version).stage
    match action with
    | .read true => perform version lookahead rest any last
    | .read false =>
      match lookahead.label with
      | .token token =>
        match ← move stage (.token token) with
        | some target => push version (some lookahead) target
        | none => pure ()
      | _ => pure ()
      return .moved
    | .pass =>
      push version (some { lookahead with isExtra := true }) stage
      return .moved
    | .accept =>
      accept version lookahead
      return .moved
    | .finish item =>
      let made ← finish version item
      perform version lookahead rest true (made <|> last)

/-- The actions of a version for a label. -/
def actionsFor (version : Nat) (label : Label) : ReadingM (List Action) := do
  let reading ← get
  match label with
  | .token token => return reading.actions (reading.frameOf version).stage token
  | _ => return []

/-- Lets a version deal with a token: after finishing items it starts again, a keyword that cannot be
read is read as a name, and if nothing helps there is a fault. -/
def proceed (version : Nat) : Nat → Subtree → ReadingM Unit
  | 0, _ => setStatus version .halted
  | fuel + 1, lookahead => do
    match ← perform version lookahead (← actionsFor version lookahead.label) false none with
    | .moved => pure ()
    | .finished _ (some last) =>
      replaceVersion version last
      proceed version fuel lookahead
    | .finished true none => setStatus version .halted
    | .finished false none =>
      let asName := { lookahead with label := .token identifierIndex }
      let canBeName := lookahead.isKeyword && lookahead.label ≠ asName.label &&
        !(← actionsFor version asName.label).isEmpty
      if canBeName then proceed version fuel asName
      else if (← frameOf version).stage = .lost then recover version lookahead
      else modifyVersion version fun top =>
        { top with status := .paused, lookahead := some lookahead }

/-- Lets a version read its next token. -/
def advance (version : Nat) : ReadingM Unit := do
  let lookahead ← lookahead version
  proceed version (32 * ((← get).frames.size + 1)) lookahead

/-! ## One round -/

/-- Lets a version go on until it is ahead of the others, in at most so many steps. Answers how far the
foremost one has come. -/
def advanceFrom (version : Nat) : Nat → Nat → ReadingM Nat
  | 0, foremost => return foremost
  | fuel + 1, foremost => do
    if ((← get).versionAt version).status ≠ .active then return foremost
    advance version
    let octet := (← frameOf version).place.octet
    if foremost < octet || 0 < version && octet = foremost then return octet
    else advanceFrom version fuel foremost

/-- Lets all versions from one on go on. -/
def advanceAll (length : Nat) : Nat → Nat → Nat → ReadingM Nat
  | 0, _, foremost => return foremost
  | fuel + 1, version, foremost => do
    if (← get).versions.length ≤ version then return foremost
    let foremost ← advanceFrom version length foremost
    advanceAll length fuel (version + 1) foremost

/-- Swaps two versions. -/
def swapVersions (first second : Nat) : ReadingM Unit :=
  modify fun reading =>
    { reading with
      versions := (reading.versions.set first (reading.versionAt second)).set second
        (reading.versionAt first) }

/-- Compares a version with those in front of it, gives up the worse ones and merges the like ones.
Answers where the version, or the last one in front of it, has come to stand. -/
def compareWithEarlier : Nat → Nat → Nat → ReadingM Nat
  | 0, version, _ => return version
  | fuel + 1, version, other => do
    if version ≤ other then return version
    match (← standing other).compare (← standing version) with
    | .takeFirst =>
      eraseVersion version
      return version - 1
    | .preferFirst | .none =>
      if ← merge other version then return version - 1
      else compareWithEarlier fuel version (other + 1)
    | .preferSecond =>
      if ← merge other version then return version - 1
      else
        swapVersions version other
        compareWithEarlier fuel version (other + 1)
    | .takeSecond =>
      eraseVersion other
      compareWithEarlier fuel (version - 1) other

/-- The lower of two costs, where none is no limit. -/
def lowerCost (limit : Option Nat) (cost : Nat) : Option Nat :=
  some ((limit.map (min cost)).getD cost)

/-- Compares all versions from one on with those in front of them. Answers the lowest cost of a version
without a fresh fault. -/
def compareAll : Nat → Nat → Option Nat → ReadingM (Option Nat)
  | 0, _, lowest => return lowest
  | fuel + 1, version, lowest => do
    let reading ← get
    if reading.versions.length ≤ version then return lowest
    if (reading.versionAt version).status = .halted then
      eraseVersion version
      compareAll fuel version lowest
    else
      let own ← standing version
      let lowest := if own.isFaulty then lowest else lowerCost lowest own.cost
      let next ← compareWithEarlier 100 version 0
      compareAll fuel (next + 1) lowest

/-- Lets the best version that has met a fault deal with it if no other version goes on, and gives up the
other ones. -/
def resume : Nat → Nat → Bool → Option Nat → ReadingM (Option Nat)
  | 0, _, _, lowest => return lowest
  | fuel + 1, version, goesOn, lowest => do
    let reading ← get
    if reading.versions.length ≤ version then return lowest
    let top := reading.versionAt version
    if top.status ≠ .paused then resume fuel (version + 1) true lowest
    else
      match top.lookahead with
      | some lookahead =>
        if goesOn || versionLimit ≤ reading.acceptances then
          eraseVersion version
          resume fuel version goesOn lowest
        else
          modifyVersion version ({ · with status := .active, lookahead := none })
          handleFault version lookahead
          resume fuel (version + 1) true (some (reading.costOf version))
      | none =>
        eraseVersion version
        resume fuel version goesOn lowest

/-- Gives up versions after a round. Answers the lowest cost of those that go on. -/
def condense : ReadingM (Option Nat) := do
  let lowest ← compareAll 1000 0 none
  modify fun reading => { reading with versions := reading.versions.take versionLimit }
  resume 1000 0 false lowest

/-! ## Whole sources -/

/-- Reads round by round until there is a result that is better than any version could become. -/
def readRounds (length : Nat) : Nat → Nat → ReadingM Unit
  | 0, _ => pure ()
  | fuel + 1, foremost => do
    let foremost ← advanceAll length 1000 0 foremost
    let lowest ← condense
    let reading ← get
    let isDone := reading.result.any fun result => lowest.all (result.cost < ·)
    if !isDone && !reading.versions.isEmpty then readRounds length fuel foremost

/-- The tree of a source, with the faults in it. -/
def readSource (text : List Char) : Option Node :=
  let length := 8 * (text.length + 8)
  let begun : Reading :=
    { automaton := .initial
      frames := #[{ stage := .state 0, place := ⟨{}, text⟩ }]
      versions := [{ frame := 0 }] }
  let (_, reading) := (readRounds length length 0).run begun
  reading.result.bind fun tree => ({ tree with isExtra := false }.toNodes {}).head?

/-- The tree of a source, or the faults of a source that does not parse. -/
def parse (source : Source) : Except ParseError Node :=
  match readSource source.text with
  | some tree => (checked source tree).toOption.getD (.error ⟨[]⟩)
  | none => .error ⟨[]⟩

end PageGraft.Syntax
