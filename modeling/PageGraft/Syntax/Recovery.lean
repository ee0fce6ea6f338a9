import PageGraft.Syntax.Lookahead

/-!
# Faults

A version that can do nothing with the next token has met a fault. It finishes what can be finished,
tries whether one missing token would let it go on, and otherwise goes back to where the token can be
read, or skips it. Versions are compared by what their faults cost.
-/

namespace PageGraft.Syntax

/-! ## Comparing versions -/

/-- What versions are compared by. -/
structure Standing where
  cost : Nat
  progress : Nat
  weight : Int
  isFaulty : Bool

/-- Which of two versions is better, and whether by so much that the other is given up. -/
inductive Preference where
  | takeFirst
  | preferFirst
  | none
  | preferSecond
  | takeSecond
deriving DecidableEq, Repr

/-- How much two versions may differ in cost, times the nodes that the cheaper one has read since its
last fault. -/
def costLimit : Nat := 1800

def Standing.compare (first second : Standing) : Preference :=
  if !first.isFaulty && second.isFaulty then
    if first.cost < second.cost then .takeFirst else .preferFirst
  else if first.isFaulty && !second.isFaulty then
    if second.cost < first.cost then .takeSecond else .preferSecond
  else if first.cost < second.cost then
    if costLimit < (second.cost - first.cost) * (1 + first.progress) then .takeFirst
    else .preferFirst
  else if second.cost < first.cost then
    if costLimit < (first.cost - second.cost) * (1 + second.progress) then .takeSecond
    else .preferSecond
  else if second.weight < first.weight then .preferFirst
  else if first.weight < second.weight then .preferSecond
  else .none

def standing (version : Nat) : ReadingM Standing := do
  let progress ← progressSinceFault version
  let reading ← get
  let frame := reading.frameOf version
  let isPaused := (reading.versionAt version).status = .paused
  return {
    cost := reading.costOf version + if isPaused then skippedTreeCost else 0
    progress
    weight := frame.weight
    isFaulty := isPaused || frame.stage = .lost }

/-- Whether one of some versions that have come as far as a frame is better than it would be at a cost.
-/
def isBeatenBy (version : Nat) (own : Standing) (place : Place) : List Nat → ReadingM Bool
  | [] => return false
  | other :: rest => do
    let reading ← get
    if other = version || (reading.versionAt other).status ≠ .active ||
        (reading.frameOf other).place.octet < place.octet then
      isBeatenBy version own place rest
    else
      let preference := own.compare (← standing other)
      if preference = .takeSecond ||
          preference = .preferSecond && (← get).canMerge other version then
        return true
      else isBeatenBy version own place rest

/-- Whether there is something better than a version at a cost. -/
def isBeaten (version cost : Nat) : ReadingM Bool := do
  let reading ← get
  if reading.result.any (·.cost ≤ cost) then return true
  let progress ← progressSinceFault version
  let frame ← frameOf version
  isBeatenBy version { cost, progress, weight := frame.weight, isFaulty := false } frame.place
    (List.range reading.versions.length)

/-! ## The end -/

/-- Takes what a version has read as a whole source, unless there is something better. -/
def accept (version : Nat) (lookahead : Subtree) : ReadingM Unit := do
  push version (some lookahead) .finished
  let first := (← get).versions.length
  let groups ← popAll version
  for trees in groups.flatten do
    let split := trees.reverse.dropWhile fun tree => tree.isExtra || tree.label = .token 0
    match split with
    | top :: before =>
      let after := trees.drop split.length
      let root := Subtree.node top.label (before.reverse ++ top.children ++ after) top.marks top.start
      modify fun reading =>
        { reading with
          acceptances := reading.acceptances + 1
          result :=
            match reading.result with
            | some result => if result.prefersSecond root then some root else some result
            | none => some root }
    | [] => pure ()
  if !groups.isEmpty then eraseVersion first
  setStatus version .halted

/-! ## Finishing what can be finished -/

/-- Whether some of the actions read a token. -/
def canRead (actions : List Action) : Bool :=
  actions.contains (.read false)

/-- The items of actions that have parts, one of each construct and number of parts. -/
def finishable (actions : List Action) : List Item :=
  actions.foldl (fun items action =>
    match action with
    | .finish item =>
      if item.passed.isEmpty ||
          items.any (fun other =>
            other.head = item.head && other.passed.length = item.passed.length) then items
      else items ++ [item]
    | _ => items) []

/-- Finishes items on a version and answers the first version that the last of them made. -/
def finishAll (version : Nat) : List Item → Option Nat → ReadingM (Option Nat)
  | [], made => return made
  | item :: rest, _ => do
    let made ← finish version item
    finishAll version rest made

/-- What the next token is when items are finished: any, a certain one, or none at all. -/
inductive Upcoming where
  | any
  | token (index : Nat)
  | nothing
deriving DecidableEq, Repr

/-- The end of the source is no reason to finish one thing rather than another. -/
def Upcoming.ofLabel : Label → Upcoming
  | .token 0 => .any
  | .token index => .token index
  | _ => .nothing

/-- All actions at a stage with what comes next. -/
def upcomingActions (reading : Reading) (stage : Stage) (upcoming : Upcoming) : List Action :=
  match stage, upcoming with
  | .state index, .any =>
    match reading.automaton[index]? with
    | some state =>
      (List.range tokens.length).flatMap fun token =>
        if token ≠ 0 && state.valid.testBit token then state.actions token else []
    | none => []
  | _, .token token => reading.actions stage token
  | _, _ => []

/-- Finishes everything that can be finished on a version and on the versions that come of it. Answers
whether what comes next can be read in the end. -/
def finishEverything (start first : Nat) (upcoming : Upcoming) :
    Nat → Nat → Nat → Bool → ReadingM Bool
  | 0, _, _, found => return found
  | fuel + 1, version, round, found => do
    let count := (← get).versions.length
    if count ≤ version then return found
    let earlier := (List.range version).filter (first ≤ ·)
    if ← mergeIntoAny version earlier then
      finishEverything start first upcoming fuel version (round + 1) found
    else
      let reading ← get
      let actions := upcomingActions reading (reading.frameOf version).stage upcoming
      let made ← finishAll version (finishable actions) none
      let next := if version = start then count else version + 1
      if canRead actions then
        finishEverything start first upcoming fuel next (round + 1) true
      else
        match made with
        | some new =>
          if round < versionLimit then
            replaceVersion version new
            finishEverything start first upcoming fuel version (round + 1) found
          else
            if upcoming ≠ .any then eraseVersion version
            finishEverything start first upcoming fuel next (round + 1) found
        | none =>
          if upcoming ≠ .any then eraseVersion version
          finishEverything start first upcoming fuel next (round + 1) found

/-- Finishes everything on a version, with a bound on the number of steps. -/
def finishAt (version : Nat) (upcoming : Upcoming) : ReadingM Bool := do
  let first := (← get).versions.length
  finishEverything version first upcoming 1000 version 0 false

/-! ## Missing tokens -/

/-- The stage after a token that is missing; none if the token could not be read. -/
def stageAfter (stage : Stage) (token : Nat) : ReadingM (Option Stage) := do
  match ((← get).actions stage token).getLast? with
  | some (.read _) => move stage (.token token)
  | _ => return none

/-- Whether something can be finished at a stage for what comes next. -/
def Reading.canFinish (reading : Reading) (stage : Stage) : Label → Bool
  | .token index =>
    match reading.actions stage index with
    | .finish _ :: _ => true
    | _ => false
  | _ => false

/-- Tries whether one of some tokens was missing, that is whether after it something can be finished and
what comes next can be read. Adds a version for the first such token. -/
def insertMissing (version : Nat) (lookahead : Label) : List Nat → ReadingM Bool
  | [] => return false
  | token :: rest => do
    let frame ← frameOf version
    match ← stageAfter frame.stage token with
    | none => insertMissing version lookahead rest
    | some stage =>
      let reading ← get
      if stage ≠ frame.stage && reading.canFinish stage lookahead then
        let new := reading.versions.length
        copyVersion version (reading.versionAt version).frame
        push new (some (.missing token frame.place)) stage
        if ← finishAt new (.ofLabel lookahead) then return true
        else insertMissing version lookahead rest
      else insertMissing version lookahead rest

/-- The tokens that are valid at a stage, the end of the source apart. -/
def Reading.validTokens (reading : Reading) (stage : Stage) : List Nat :=
  match stage with
  | .state index =>
    match reading.automaton[index]? with
    | some state => (List.range tokens.length).filter fun token =>
        token ≠ 0 && state.valid.testBit token
    | none => []
  | _ => []

/-- Breaks off the reading on versions from one on, having tried to insert a missing token on each until
that has worked once. -/
def breakOff (start first : Nat) (lookahead : Label) : Nat → Nat → Nat → Bool → ReadingM Unit
  | 0, _, _, _ => pure ()
  | fuel + 1, version, count, inserted =>
    if count ≤ version then pure ()
    else do
      let reading ← get
      let candidates := reading.validTokens (reading.frameOf version).stage
      let inserted ← if inserted then pure true else insertMissing version lookahead candidates
      push version none .lost
      breakOff start first lookahead fuel (if version = start then first else version + 1) count
        inserted

/-! ## Going back -/

/-- How far back a version may go. -/
def landmarkDepth : Nat := 16

/-- The frames that a version could go back to, the nearest first, each stage once for each depth. -/
def Reading.landmarksOf (reading : Reading) (version : Nat) : List Landmark :=
  let (landmarks, _) := reading.walk version
    (fun (landmarks : List Landmark) path frame =>
      if landmarkDepth < path.length then (landmarks, { isOver := true })
      else if landmarks.any fun other =>
          other.depth = path.length && other.stage = frame.stage then (landmarks, {})
      else (⟨frame.place, path.length, frame.stage⟩ :: landmarks, {})) []
  landmarks.reverse

/-- Takes the children of a fault that a version stands after, and moves it in front of that fault. -/
def popFault (version : Nat) : ReadingM (List Subtree) := do
  let fault := (← frameOf version).links.findSome? fun link =>
    match link.tree with
    | some tree => if tree.label = .fault then some (link.previous, tree.children) else none
    | none => none
  match fault with
  | some (previous, children) =>
    modifyVersion version ({ · with frame := previous })
    return children
  | none => return []

/-- Makes what lies between some versions and a stage one fault, on the versions from the given one on
that stand at that stage. Answers whether there is any. -/
def faultAfter (goal : Stage) : List (List (List Subtree)) → Nat → Bool → ReadingM Bool
  | [], _, found => return found
  | group :: rest, version, found => do
    if (← frameOf version).stage = goal then
      let earlier ← popFault version
      let (trees, extras) := Subtree.splitExtras (earlier ++ group.headD [])
      if !trees.isEmpty then
        let place := (← frameOf version).place
        let fault := Subtree.node .fault trees [] place
        push version (some { fault with isExtra := true }) goal
      for extra in extras do
        push version (some extra) goal
      faultAfter goal rest (version + 1) true
    else
      setStatus version .halted
      faultAfter goal rest (version + 1) found

/-- Goes back from a version to a stage so many trees down. -/
def goBack (version depth : Nat) (goal : Stage) : ReadingM Bool := do
  let first := (← get).versions.length
  let groups ← pop version depth
  faultAfter goal groups first false

/-- Goes back to the first landmark at which the next token can be read, unless something is better than
that. Answers whether there is one. -/
def goBackToAny (version : Nat) (token cost : Nat) (progressed : Bool) (count : Nat) :
    List Landmark → ReadingM Bool
  | [] => return false
  | landmark :: rest => do
    let reading ← get
    let place := (reading.frameOf version).place
    if landmark.stage = .lost || landmark.place.octet = place.octet then
      goBackToAny version token cost progressed count rest
    else
      let depth := if progressed then landmark.depth + 1 else landmark.depth
      let isTaken := (reading.versions.take count).any fun other =>
        let frame := reading.frameAt other.frame
        frame.stage = landmark.stage && frame.place.octet = place.octet
      if isTaken then goBackToAny version token cost progressed count rest
      else if ← isBeaten version (cost + skippingCost landmark.place place) then return false
      else if ((← get).actions landmark.stage token).isEmpty then
        goBackToAny version token cost progressed count rest
      else if ← goBack version depth landmark.stage then return true
      else goBackToAny version token cost progressed count rest

/-- Skips the next token in lost text. -/
def skip (version : Nat) (progressed : Bool) (lookahead : Subtree) : ReadingM Unit := do
  let isExtra :=
    match lookahead.label with
    | .token index => lookahead.isExtra || Grammar.extras.testBit index
    | _ => lookahead.isExtra
  let skipped := Subtree.node .skipped [{ lookahead with isExtra }] [] lookahead.before
  if progressed then
    let first := (← get).versions.length
    let groups ← pop version 1
    modify fun reading => { reading with versions := reading.versions.take (first + 1) }
    let landmarks := ((← get).versionAt version).landmarks
    modifyVersion first ({ · with landmarks })
    replaceVersion version first
    let earlier := (groups.head?.bind List.head?).getD []
    let place := (← frameOf version).place
    push version (some (.node .skipped (earlier ++ [skipped]) [] place)) .lost
  else push version (some skipped) .lost

/-- Goes on from a fault: back to where the next token can be read, and over the token as well. -/
def recover (version : Nat) (lookahead : Subtree) : ReadingM Unit := do
  let count := (← get).versions.length
  let progressed := 0 < (← progressSinceFault version)
  let reading ← get
  let cost := reading.costOf version
  let wentBack ←
    match lookahead.label with
    | .token token =>
      goBackToAny version token cost progressed count (reading.versionAt version).landmarks
    | _ => pure false
  modify fun reading =>
    { reading with
      versions := reading.versions.take count ++
        (reading.versions.drop count).filter (·.status == .active) }
  if lookahead.label = .token 0 then
    let fault := Subtree.node .fault [] [] (← frameOf version).place
    push version (some fault) (.state 0)
    accept version lookahead
  else if wentBack && versionLimit < (← get).versions.length then setStatus version .halted
  else if ← isBeaten version
      (cost + skippedTreeCost + skippingCost lookahead.before lookahead.stop) then
    setStatus version .halted
  else skip version progressed lookahead

/-- Deals with a fault of a version in front of a token. -/
def handleFault (version : Nat) (lookahead : Subtree) : ReadingM Unit := do
  let first := (← get).versions.length
  let _ ← finishAt version .any
  let count := (← get).versions.length
  breakOff version first lookahead.label (count + 1) version count false
  for _ in List.range (count - first) do
    let _ ← merge version first
  let landmarks := (← get).landmarksOf version
  modifyVersion version ({ · with landmarks })
  recover version lookahead

end PageGraft.Syntax
