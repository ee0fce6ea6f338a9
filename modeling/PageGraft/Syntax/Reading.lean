import PageGraft.Syntax.Action
import PageGraft.Syntax.Subtree

/-!
# Readings

A source that can be read in several ways is read in all of them at once. Each version of the reading
has a stack of frames; versions share the frames that they have in common, and two versions that come
to the same state at the same place become one again, whose newest frame has several links.
-/

namespace PageGraft.Syntax

/-- Where a version of the reading stands: in a state, in text that cannot be read, or at the end. -/
inductive Stage where
  | state (index : Nat)
  | lost
  | finished
deriving DecidableEq, Repr

/-- From a frame to an older one: the tree that was read in between, or none where reading broke off. -/
structure Link where
  previous : Nat
  tree : Option Subtree

/-- A frame of a stack, with the place that was reached, what the faults so far cost, what the readings
so far weigh, and how many nodes were read. -/
structure Frame where
  stage : Stage
  links : List Link := []
  place : Place
  cost : Nat := 0
  weight : Int := 0
  count : Nat := 0

/-- Whether a version goes on, waits for the others, or has come to its end. -/
inductive Status where
  | active
  | paused
  | halted
deriving DecidableEq, Repr

/-- A frame that a version in lost text could go back to: how many trees lie in between. -/
structure Landmark where
  place : Place
  depth : Nat
  stage : Stage

/-- A version of the reading. `frame` is its newest frame, `countAtFault` the number of nodes read when
it met the last fault. -/
structure Version where
  frame : Nat
  status : Status := .active
  countAtFault : Nat := 0
  lookahead : Option Subtree := none
  landmarks : List Landmark := []
deriving Inhabited

structure Reading where
  automaton : Automaton
  frames : Array Frame
  versions : List Version
  result : Option Subtree := none
  acceptances : Nat := 0

abbrev ReadingM := StateM Reading

/-- How many versions are kept. -/
def versionLimit : Nat := 6

/-- How many more versions there may be for a while. -/
def versionSlack : Nat := 4

/-- How many links a frame has at most. -/
def linkLimit : Nat := 8

/-- How many paths through the frames are followed at most. -/
def pathLimit : Nat := 64

/-! ## Frames and versions -/

def Reading.frameAt (reading : Reading) (frame : Nat) : Frame :=
  reading.frames[frame]?.getD { stage := .lost, place := ⟨{}, []⟩ }

def Reading.versionAt (reading : Reading) (version : Nat) : Version :=
  reading.versions[version]?.getD default

/-- The newest frame of a version. -/
def Reading.frameOf (reading : Reading) (version : Nat) : Frame :=
  reading.frameAt (reading.versionAt version).frame

def frameOf (version : Nat) : ReadingM Frame :=
  return (← get).frameOf version

def modifyVersion (version : Nat) (change : Version → Version) : ReadingM Unit :=
  modify fun reading =>
    { reading with versions := reading.versions.modify version change }

def modifyFrame (frame : Nat) (change : Frame → Frame) : ReadingM Unit :=
  modify fun reading => { reading with frames := reading.frames.modify frame change }

def eraseVersion (version : Nat) : ReadingM Unit :=
  modify fun reading => { reading with versions := reading.versions.eraseIdx version }

def setStatus (version : Nat) (status : Status) : ReadingM Unit :=
  modifyVersion version ({ · with status })

/-- Puts a version in the place of another one. -/
def replaceVersion (version new : Nat) : ReadingM Unit := do
  let replacement := (← get).versionAt new
  modifyVersion version fun _ => replacement
  eraseVersion new

/-- Adds a copy of a version that ends with another frame. -/
def copyVersion (version frame : Nat) : ReadingM Unit :=
  modify fun reading =>
    let copy : Version :=
      { reading.versionAt version with frame, status := .active, lookahead := none, landmarks := [] }
    { reading with versions := reading.versions ++ [copy] }

/-- Puts a tree on the stack of a version; no tree stands for the point where reading breaks off. -/
def push (version : Nat) (tree : Option Subtree) (stage : Stage) : ReadingM Unit :=
  modify fun reading =>
    let previous := (reading.versionAt version).frame
    let below := reading.frameAt previous
    let frame : Frame :=
      match tree with
      | some tree =>
        { stage
          links := [⟨previous, some tree⟩]
          place := below.place.latest tree.stop
          cost := below.cost + tree.cost
          weight := below.weight + tree.weight
          count := below.count + tree.progress }
      | none => { below with stage, links := [⟨previous, none⟩] }
    { reading with
      frames := reading.frames.push frame
      versions := reading.versions.modify version fun top =>
        { top with
          frame := reading.frames.size
          countAtFault := if tree.isNone then frame.count else top.countAtFault } }

/-! ## Merging -/

/-- Whether two frames are the same for what follows. -/
def Frame.isLike (first second : Frame) : Bool :=
  first.stage = second.stage && first.place.octet = second.place.octet && first.cost = second.cost

/-- Whether two links have the same tree for what follows. -/
def Link.isLike (first second : Link) : Bool :=
  match first.tree, second.tree with
  | some first, some second => first.isEquivalent second
  | none, none => true
  | _, _ => false

/-- Adds a link to a frame. A link like one that the frame has does not come beside it: the heavier tree
stays, or the older frames are merged in turn, at most so many levels down. -/
def addLink : Nat → Nat → Link → ReadingM Unit
  | 0, _, _ => pure ()
  | fuel + 1, target, link => do
    if link.previous = target then return
    let reading ← get
    let frame := reading.frameAt target
    let below := reading.frameAt link.previous
    let weight := (link.tree.map (·.weight)).getD 0
    let like := frame.links.zipIdx.find? fun (other, _) =>
      other.isLike link && (other.previous = link.previous ||
        (reading.frameAt other.previous).isLike below)
    match like with
    | some (other, index) =>
      if other.previous = link.previous then
        if ((other.tree.map (·.weight)).getD 0) < weight then
          modifyFrame target fun frame =>
            { frame with links := frame.links.set index link, weight := below.weight + weight }
      else
        for inner in below.links do
          addLink fuel other.previous inner
        modifyFrame target fun frame =>
          { frame with weight := max frame.weight (below.weight + weight) }
    | none =>
      if frame.links.length < linkLimit then
        modifyFrame target fun frame =>
          { frame with
            links := frame.links ++ [link]
            count := max frame.count
              (below.count + (link.tree.map (·.progress)).getD 0)
            weight := max frame.weight (below.weight + weight) }

/-- Whether two versions can become one. -/
def Reading.canMerge (reading : Reading) (first second : Nat) : Bool :=
  (reading.versionAt first).status = .active && (reading.versionAt second).status = .active &&
    (reading.frameOf first).isLike (reading.frameOf second)

/-- Merges the second version into the first one if they can become one. -/
def merge (first second : Nat) : ReadingM Bool := do
  let reading ← get
  if reading.canMerge first second then
    let target := (reading.versionAt first).frame
    for link in (reading.frameOf second).links do
      addLink reading.frames.size target link
    let frame ← frameOf first
    if frame.stage = .lost then
      modifyVersion first ({ · with countAtFault := frame.count })
    eraseVersion second
    return true
  else return false

/-- Merges a version into the first of several that it can become one with. -/
def mergeIntoAny (version : Nat) : List Nat → ReadingM Bool
  | [] => return false
  | other :: rest => do
    if ← merge other version then return true else mergeIntoAny version rest

/-! ## Going back -/

/-- A way back from the newest frame of a version: the frame that it leads to, the trees on the way in
document order, and how many of them are not extra. -/
structure Path where
  frame : Nat
  trees : List Subtree := []
  length : Nat := 0

/-- A path one link longer. -/
def Path.follow (path : Path) (link : Link) : Path where
  frame := link.previous
  trees := (link.tree.map (· :: path.trees)).getD path.trees
  length := path.length + if link.tree.any (·.isExtra) then 0 else 1

/-- What becomes of a path: whether it is one of those sought, and whether it ends there. -/
structure Verdict where
  isSought : Bool := false
  isOver : Bool := false

/-- The paths of a walk: those to be followed, those added, those found, newest first, and how many are
followed in all. -/
structure Walk (α : Type) where
  memory : α
  kept : List Path := []
  added : List Path := []
  found : List Path := []
  live : Nat

variable {α : Type}

/-- Takes one path of a walk one link further. -/
def Walk.step (frames : Array Frame) (judge : α → Path → Frame → α × Verdict) (walk : Walk α)
    (path : Path) : Walk α :=
  let frame := frames[path.frame]?.getD { stage := .lost, place := ⟨{}, []⟩ }
  let (memory, verdict) := judge walk.memory path frame
  let found := if verdict.isSought then path :: walk.found else walk.found
  match frame.links with
  | first :: others =>
    if verdict.isOver then { walk with memory, found, live := walk.live - 1 }
    else
      let added := (others.take (pathLimit - walk.live)).map path.follow
      { memory
        kept := path.follow first :: walk.kept
        added := added.reverse ++ walk.added
        found
        live := walk.live + added.length }
  | [] => { walk with memory, found, live := walk.live - 1 }

/-- Follows paths for at most so many links. -/
def walkFrom (frames : Array Frame) (judge : α → Path → Frame → α × Verdict) :
    Nat → α → List Path → List Path → α × List Path
  | 0, memory, _, found => (memory, found.reverse)
  | _, memory, [], found => (memory, found.reverse)
  | fuel + 1, memory, paths, found =>
    let walk := paths.foldl (Walk.step frames judge) { memory, found, live := paths.length }
    walkFrom frames judge fuel walk.memory (walk.kept.reverse ++ walk.added.reverse) walk.found

/-- Follows all paths back from a version. -/
def Reading.walk (reading : Reading) (version : Nat) (judge : α → Path → Frame → α × Verdict)
    (memory : α) : α × List Path :=
  walkFrom reading.frames judge (reading.frames.size + 1) memory
    [{ frame := (reading.versionAt version).frame }] []

/-- Groups paths by the frame that they lead to, in the order in which the frames come first. -/
def Path.group : List Path → List (Nat × List (List Subtree))
  | [] => []
  | paths => (paths.map (·.frame)).eraseDups.map fun frame =>
    (frame, (paths.filter (·.frame == frame)).map (·.trees))

/-- Adds a version for every frame that paths lead to, and answers the trees of the paths to each. -/
def branch (version : Nat) (paths : List Path) : ReadingM (List (List (List Subtree))) := do
  let groups := Path.group paths
  for (frame, _) in groups do
    copyVersion version frame
  return groups.map (·.2)

/-- Goes back so many trees from a version, extra ones not counted. -/
def pop (version count : Nat) : ReadingM (List (List (List Subtree))) := do
  let (_, paths) := (← get).walk version
    (fun _ path _ => ((), ⟨path.length == count, path.length == count⟩)) ()
  branch version paths

/-- Goes back from a version to the beginning. -/
def popAll (version : Nat) : ReadingM (List (List (List Subtree))) := do
  let (_, paths) := (← get).walk version
    (fun _ _ frame => ((), ⟨frame.links.isEmpty, frame.links.isEmpty⟩)) ()
  branch version paths

/-! ## Finishing items -/

/-- The state after a symbol. -/
def move (stage : Stage) (symbol : Symbol) : ReadingM (Option Stage) :=
  match stage with
  | .state index =>
    modifyGet fun reading =>
      let (target, automaton) := reading.automaton.move index symbol
      (target.map .state, { reading with automaton })
  | _ => return none

/-- What can be done with a token at a stage. -/
def Reading.actions (reading : Reading) (stage : Stage) (token : Nat) : List Action :=
  match stage with
  | .state index => ((reading.automaton[index]?).map fun state => state.actions token).getD []
  | _ => []

/-- The tree of a finished item, chosen among the ways to read its parts, and the extra trees after it.
-/
def Item.finish (item : Item) (place : Place) : List (List Subtree) → Option (Subtree × List Subtree)
  | [] => none
  | trees :: others =>
    let build (trees : List Subtree) : Subtree × List Subtree :=
      let (parts, extras) := Subtree.splitExtras trees
      (.node (.construct item.head) parts item.passed.reverse place, extras)
    some (others.foldl (fun chosen trees =>
      let other := build trees
      if chosen.1.prefersSecond other.1 then other else chosen) (build trees))

/-- Finishes an item on versions that start where its parts begin, from the given one on. -/
def finishOn (version : Nat) (item : Item) (limit : Nat) :
    List (List (List Subtree)) → Nat → ReadingM Unit
  | [], _ => pure ()
  | group :: rest, target => do
    if limit < target then
      eraseVersion target
      finishOn version item limit rest target
    else
      let frame ← frameOf target
      match item.finish frame.place group, ← move frame.stage (.construct item.head) with
      | some (tree, extras), some stage =>
        push target (some { tree with weight := tree.weight + item.weight }) stage
        for extra in extras do
          push target (some extra) stage
      | _, _ => pure ()
      let others := (List.range target).filter (· ≠ version)
      if ← mergeIntoAny target others then finishOn version item limit rest target
      else finishOn version item limit rest (target + 1)

/-- Finishes an item at the top of a version, on new versions. Answers the first of them. -/
def finish (version : Nat) (item : Item) : ReadingM (Option Nat) := do
  let first := (← get).versions.length
  let groups ← pop version item.passed.length
  let halted := ((← get).versions.filter (·.status == .halted)).length
  finishOn version item (versionLimit + versionSlack + halted) groups first
  return if first < (← get).versions.length then some first else none

/-! ## Progress and cost -/

/-- How many nodes a version has read since its last fault. -/
def progressSinceFault (version : Nat) : ReadingM Nat := do
  let count := (← frameOf version).count
  modifyVersion version fun top => { top with countAtFault := min top.countAtFault count }
  return count - ((← get).versionAt version).countAtFault

/-- Whether a stack has text on it since its last fault, at most so many frames down. -/
def Reading.hasText (reading : Reading) : Nat → Nat → Bool
  | 0, _ => false
  | fuel + 1, frame =>
    match (reading.frameAt frame).links with
    | ⟨previous, some tree⟩ :: _ =>
      if tree.before.octet < tree.stop.octet then true
      else tree.cost = 0 && reading.hasText fuel previous
    | _ => false

/-- Whether a version has read any text since its last fault. -/
def hasAdvanced (version : Nat) : ReadingM Bool := do
  let frame ← frameOf version
  if frame.cost = 0 then return true
  match frame.links with
  | ⟨previous, some tree⟩ :: _ =>
    if tree.before.octet < tree.stop.octet then return true
    let progress ← progressSinceFault version
    let reading ← get
    return 0 < progress && tree.cost = 0 && reading.hasText reading.frames.size previous
  | _ => return false

/-- What the faults of a version cost, one that it has just met included. -/
def Reading.costOf (reading : Reading) (version : Nat) : Nat :=
  let frame := reading.frameOf version
  let isFresh := (reading.versionAt version).status = .paused ||
    frame.stage = .lost && (frame.links.head?.all (·.tree.isNone))
  frame.cost + if isFresh then faultCost else 0

end PageGraft.Syntax
