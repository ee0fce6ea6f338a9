import PageGraft.Proofs.Run
import PageGraft.Watch.Session

/-!
# Sessions among other writers

A session shares the files with an editor, who may change them between any two steps of it. Here a
session takes small steps: a poll looks at the component first and decides later, and a sync looks for
the two files, reads one after the other and then writes, each in a step of its own. `Watching.step` is
one step of the session or of the editor, and a run is any sequence of them.

Nothing is lost by the small steps: a sync in which nobody interferes ends as `Sync.runWith` does
(`Task.ends_runWith`), and a session that others only disturb in its sleep is a run of small steps
(`exists_moves_run`).
-/

namespace PageGraft.Watch

open PageGraft.File PageGraft.Settings PageGraft.Syntax

/-! ## A sync step by step -/

/-- What a session works with from its first sync to its last. -/
structure Task where
  parser : Parser
  settings : SyncSettings
  source : String
  target : String

/-- What a sync has still to do. -/
inductive Attempt where
  | findSource
  | findTarget
  | readSource
  | readTarget (findings : Component.Findings)
  | writeTarget (report : Sync.Report) (text : List Char)

/-- How a sync ends: with a report or with the message of a failure. -/
abbrev Ending := Except String Sync.Report

/-- What comes after one step of a sync. -/
inductive Continuation where
  | goesOn (attempt : Attempt)
  | ends (ending : Ending)

def Continuation.ofResult : Except String Attempt → Continuation
  | .ok attempt => .goesOn attempt
  | .error message => .ends (.error message)

namespace Attempt

/-- Whether the next step of a sync looks at the component. -/
def looksAtSource : Attempt → Bool
  | .findSource | .readSource => true
  | .findTarget | .readTarget _ | .writeTarget _ _ => false

end Attempt

namespace Task

variable (task : Task)

/-- What is left to do once the page has been read. -/
def patched (findings : Component.Findings) (text : List Char) : Attempt :=
  let patch := Page.patch task.settings.patcher text findings.extraction
  .writeTarget
    (.of task.source task.target findings.extraction patch.outcome (patch.text ≠ text)) patch.text

/-- Goes on with the next step if a file is found at a path. -/
def lookFor (store : Store) (path : String) (missing : Sync.Failure) (next : Attempt) :
    Except String Attempt :=
  ((Sync.findFile store path missing).map fun _ => next).mapError Sync.Failure.message

/-- Reads the component, which was found before and can be gone. -/
def readSource (store : Store) : Except String Attempt :=
  ((Sync.readComponent task.parser task.settings store task.source).map .readTarget).mapError
    Sync.Failure.message

/-- Reads the page, which can be gone as well. -/
def readTarget (store : Store) (findings : Component.Findings) : Except String Attempt :=
  ((Sync.readPage store task.target).map (task.patched findings)).mapError Sync.Failure.message

/-- One step of a sync: the files after it, and how the sync continues. -/
def advance (store : Store) : Attempt → Store × Continuation
  | .findSource =>
    (store, .ofResult (lookFor store task.source (.sourceMissing task.source) .findTarget))
  | .findTarget =>
    (store, .ofResult (lookFor store task.target (.targetMissing task.target) .readSource))
  | .readSource => (store, .ofResult (task.readSource store))
  | .readTarget findings => (store, .ofResult (task.readTarget store findings))
  | .writeTarget report text =>
    (store.write (.ofText task.target) (Text.encode text) none, .ends (.ok report))

/-- A sync that nobody disturbs, from some step of it on: the files and the ending that it comes to. -/
inductive Ends : Store → Attempt → Store → Ending → Prop
  | last {store after : Store} {attempt : Attempt} {ending : Ending}
      (hadvance : task.advance store attempt = (after, .ends ending)) :
      Ends store attempt after ending
  | more {store middle after : Store} {attempt next : Attempt} {ending : Ending}
      (hadvance : task.advance store attempt = (middle, .goesOn next))
      (hends : Ends middle next after ending) : Ends store attempt after ending

section

variable {task} {store : Store} {failure : Sync.Failure} {findings : Component.Findings}
  {text : List Char} {path : String} {missing : Sync.Failure} {next : Attempt}

theorem lookFor_of_error (hfind : Sync.findFile store path missing = .error failure) :
    lookFor store path missing next = .error failure.message := by
  rw [lookFor, hfind]
  rfl

theorem lookFor_of_ok (hfind : Sync.findFile store path missing = .ok ()) :
    lookFor store path missing next = .ok next := by
  rw [lookFor, hfind]
  rfl

theorem readSource_of_error
    (hread : Sync.readComponent task.parser task.settings store task.source = .error failure) :
    task.readSource store = .error failure.message := by
  rw [readSource, hread]
  rfl

theorem readSource_of_ok
    (hread : Sync.readComponent task.parser task.settings store task.source = .ok findings) :
    task.readSource store = .ok (.readTarget findings) := by
  rw [readSource, hread]
  rfl

theorem readTarget_of_error (hread : Sync.readPage store task.target = .error failure) :
    task.readTarget store findings = .error failure.message := by
  rw [readTarget, hread]
  rfl

theorem readTarget_of_ok (hread : Sync.readPage store task.target = .ok text) :
    task.readTarget store findings = .ok (task.patched findings text) := by
  rw [readTarget, hread]
  rfl

end

/-- A sync that nobody disturbs ends as one that is done at once. -/
theorem ends_runWith (earlier : Sync.State) (store : Store) :
    let outcome :=
      Sync.runWith task.parser task.settings earlier store task.source task.target
    task.Ends store .findSource outcome.store
      (outcome.result.mapError Sync.Failure.message) := by
  intro outcome
  have hfailed : ∀ {failure attempt}, outcome.IsFailure store failure →
      task.advance store attempt = (store, .ends (.error failure.message)) →
      task.Ends store attempt outcome.store (outcome.result.mapError Sync.Failure.message) := by
    intro failure attempt hfailure hadvance
    rw [hfailure.store, hfailure.result]
    exact .last hadvance
  cases hsource : Sync.findFile store task.source (.sourceMissing task.source) with
  | error failure =>
    have hfiles : Sync.findFiles store task.source task.target = .error failure := by
      rw [Sync.findFiles, hsource]
      rfl
    refine hfailed (Sync.runWith_of_files hfiles) ?_
    rw [advance, lookFor_of_error hsource]
    rfl
  | ok found =>
    refine .more (show task.advance store .findSource = (store, .goesOn .findTarget) from ?_) ?_
    · rw [advance, lookFor_of_ok hsource]
      rfl
    cases htarget : Sync.findFile store task.target (.targetMissing task.target) with
    | error failure =>
      have hfiles : Sync.findFiles store task.source task.target = .error failure := by
        rw [Sync.findFiles, hsource, htarget]
        rfl
      refine hfailed (Sync.runWith_of_files hfiles) ?_
      rw [advance, lookFor_of_error htarget]
      rfl
    | ok found =>
      refine .more (show task.advance store .findTarget = (store, .goesOn .readSource) from ?_) ?_
      · rw [advance, lookFor_of_ok htarget]
        rfl
      have hfiles : Sync.findFiles store task.source task.target = .ok () := by
        rw [Sync.findFiles, hsource, htarget]
        rfl
      cases hcomponent : Sync.readComponent task.parser task.settings store task.source with
      | error failure =>
        refine hfailed (Sync.runWith_of_component hfiles hcomponent) ?_
        rw [advance, readSource_of_error hcomponent]
        rfl
      | ok findings =>
        refine .more
          (show task.advance store .readSource = (store, .goesOn (.readTarget findings)) from ?_) ?_
        · rw [advance, readSource_of_ok hcomponent]
          rfl
        cases htext : Sync.readPage store task.target with
        | error failure =>
          refine hfailed (Sync.runWith_of_page hfiles hcomponent htext) ?_
          rw [advance, readTarget_of_error htext]
          rfl
        | ok text =>
          refine .more (show task.advance store (.readTarget findings) =
            (store, .goesOn (task.patched findings text)) from ?_) ?_
          · rw [advance, readTarget_of_ok htext]
            rfl
          obtain ⟨page, hpage⟩ := Sync.findFile_eq_ok.mp htarget
          have houtcome : outcome.store = store.write (.ofText task.target)
                (Text.encode (Page.patch task.settings.patcher text findings.extraction).text)
                none := by
            unfold outcome Sync.runWith Sync.finish
            rw [hfiles]
            dsimp only
            rw [hcomponent]
            dsimp only
            rw [htext]
          rw [houtcome, (Sync.runWith_of_ok hfiles hpage hcomponent htext).result]
          exact .last rfl

end Task

/-! ## A session in small steps -/

/-- What can be seen of a component: its stamp, if it is there, and its octets, if it can be read. -/
@[ext]
structure Sight where
  stamp : Option Int
  content : Option (List UInt8)
deriving Repr, DecidableEq

def Task.sight (task : Task) (store : Store) : Sight where
  stamp := store.modified? (.ofText task.source)
  content := (store.read (.ofText task.source)).toOption.map Entry.octets

/-- Where a session stands between two of its steps: between polls, in a poll that has looked at the
component, before a sync, or in it. -/
inductive Stage (Time : Type) where
  | resting
  | noticed (now : Time)
  | due
  | syncing (attempt : Attempt)

/-- After a sync a session rests. -/
def Continuation.stage {Time : Type} : Continuation → Stage Time
  | .goesOn attempt => .syncing attempt
  | .ends _ => .resting

/-- A session with the files that it shares. The last three fields decide nothing. They note how the
component has looked until the last sync began and since then, newest first, and what that sync has
seen of it. -/
structure Watching (Time : Type) where
  store : Store
  watcher : Watcher Int Time
  stage : Stage Time
  known : List Sight
  since : List Sight
  looks : List Sight

/-- What happens next: someone changes a file, or the session takes its next step, at a time. -/
inductive Move (Time : Type) where
  | edit (edit : Edit)
  | proceed (now : Time)

namespace Watching

variable {Time : Type}

/-- A session that has not begun; from now on it sees changes of the component, and its first sync is
due. -/
def start (task : Task) (store : Store) : Watching Time where
  store
  watcher := { seen := (task.sight store).stamp }
  stage := .due
  known := []
  since := [task.sight store]
  looks := []

/-- The files change. -/
def change (task : Task) (watching : Watching Time) (store : Store) : Watching Time :=
  { watching with
    store
    since :=
      if task.sight store = task.sight watching.store then watching.since
      else task.sight store :: watching.since }

/-- A sync begins. -/
def beginSync (watching : Watching Time) : Watching Time :=
  { watching with
    watcher := watching.watcher.attempt
    stage := .syncing .findSource
    known := watching.since ++ watching.known
    since := []
    looks := [] }

/-- A sync goes on, and may change the files. -/
def continueSync (task : Task) (watching : Watching Time) (attempt : Attempt) : Watching Time :=
  let (store, continuation) := task.advance watching.store attempt
  let continued := { watching with
    stage := continuation.stage
    looks :=
      if attempt.looksAtSource then task.sight watching.store :: watching.looks
      else watching.looks }
  continued.change task store

section

variable [Sub Time] [LT Time] [DecidableLT Time] (task : Task) (delay : Time)

/-- The session takes its next step. -/
def proceed (watching : Watching Time) (now : Time) : Watching Time :=
  match watching.stage with
  | .resting =>
    let stamp := (task.sight watching.store).stamp
    { watching with watcher := watching.watcher.observe stamp now, stage := .noticed now }
  | .noticed now =>
    if watching.watcher.isDue delay now then
      { watching with watcher := watching.watcher.settle, stage := .due }
    else { watching with stage := .resting }
  | .due => watching.beginSync
  | .syncing attempt => watching.continueSync task attempt

def step (watching : Watching Time) : Move Time → Watching Time
  | .edit edit => watching.change task (watching.store.apply edit)
  | .proceed now => watching.proceed task delay now

def run (watching : Watching Time) (moves : List (Move Time)) : Watching Time :=
  moves.foldl (step task delay) watching

end

/-! ## Sessions that are disturbed in their sleep only -/

section

variable {task : Task} {delay : Time} {watching : Watching Time} {store after : Store}
  {attempt : Attempt} {ending : Ending}

theorem continueSync_of_advance {continuation : Continuation}
    (hadvance : task.advance watching.store attempt = (store, continuation)) :
    (watching.continueSync task attempt).store = store ∧
      (watching.continueSync task attempt).watcher = watching.watcher ∧
      (watching.continueSync task attempt).stage = continuation.stage := by
  simp [continueSync, hadvance, change]

variable [Sub Time] [LT Time] [DecidableLT Time]

theorem run_append {moves more : List (Move Time)} :
    watching.run task delay (moves ++ more) = (watching.run task delay moves).run task delay more :=
  List.foldl_append

/-- A sync that nobody disturbs takes a session to rest. -/
theorem exists_moves_ends (now : Time) (hstage : watching.stage = .syncing attempt)
    (hends : task.Ends watching.store attempt after ending) :
    ∃ moves, (watching.run task delay moves).stage = .resting ∧
      (watching.run task delay moves).store = after ∧
      (watching.run task delay moves).watcher = watching.watcher := by
  generalize hstore : watching.store = store at hends
  induction hends generalizing watching with
  | last hadvance =>
    rw [← hstore] at hadvance
    obtain ⟨hstore', hwatcher, hrest⟩ := continueSync_of_advance hadvance
    refine ⟨[.proceed now], ?_⟩
    simp only [run, List.foldl_cons, List.foldl_nil, step, proceed, hstage]
    exact ⟨hrest, hstore', hwatcher⟩
  | @more _ _ _ attempt _ _ hadvance _ ih =>
    rw [← hstore] at hadvance
    obtain ⟨hstore', hwatcher, hnext⟩ := continueSync_of_advance hadvance
    obtain ⟨moves, hmoves⟩ := ih hnext hstore'
    rw [hwatcher] at hmoves
    refine ⟨.proceed now :: moves, ?_⟩
    have hrun : watching.run task delay (.proceed now :: moves) =
        (watching.continueSync task attempt).run task delay moves := by
      simp only [run, List.foldl_cons, step, proceed, hstage]
    rwa [hrun]

end

end Watching

namespace Session

variable {Time : Type}

/-- What a session works with. -/
def task (session : Session Time) : Task where
  parser := session.parser
  settings := session.settings
  source := session.source
  target := session.target

variable {session : Session Time}

theorem syncNow_eq : ∃ history state,
    session.syncNow.1 = { session with
      watcher := session.watcher.attempt
      store := (Sync.runWith session.parser session.settings session.state session.store
        session.source session.target).store
      state
      history } := by
  unfold syncNow
  dsimp only
  split
  · exact ⟨_, _, rfl⟩
  · exact ⟨_, _, rfl⟩

variable [Sub Time] [LT Time] [DecidableLT Time]

theorem poll_eq (now : Time) : ∃ history,
    (session.poll now).1 =
      let noted := { session with
        watcher := (session.watcher.poll session.delay session.stamp? now).1
        history }
      if (session.watcher.poll session.delay session.stamp? now).2 then noted.syncNow.1
      else noted := by
  rcases hpolled : session.watcher.poll session.delay session.stamp? now with ⟨watcher, due⟩
  unfold poll
  simp only [hpolled]
  cases due with
  | true =>
    simp only [if_true]
    split <;> exact ⟨_, rfl⟩
  | false =>
    simp only [Bool.false_eq_true, if_false]
    split <;> exact ⟨_, rfl⟩

end Session

namespace Watching

variable {Time : Type}

/-- A session at rest in small steps, and the same session in large ones. -/
structure Mirrors (task : Task) (delay : Time) (watching : Watching Time) (session : Session Time) :
    Prop where
  stage : watching.stage = .resting
  store : watching.store = session.store
  watcher : watching.watcher = session.watcher
  task : session.task = task
  delay : session.delay = delay

variable {task : Task} {delay : Time} {watching : Watching Time} {session : Session Time}

theorem Mirrors.record (hmirrors : Mirrors task delay watching session)
    (happenings : List (Happening Time)) :
    Mirrors task delay watching (session.record happenings) :=
  ⟨hmirrors.stage, hmirrors.store, hmirrors.watcher, hmirrors.task, hmirrors.delay⟩

variable [Sub Time] [LT Time] [DecidableLT Time]

/-- Small steps come to where a large one leads. -/
def Follows (task : Task) (delay : Time) (watching : Watching Time) (session : Session Time) : Prop :=
  ∃ moves, Mirrors task delay (watching.run task delay moves) session

theorem Follows.of_run {moves : List (Move Time)}
    (hfollows : Follows task delay (watching.run task delay moves) session) :
    Follows task delay watching session := by
  obtain ⟨more, hmore⟩ := hfollows
  rw [← run_append] at hmore
  exact ⟨_, hmore⟩

theorem follows_syncNow (hstage : watching.stage = .due) (hstore : watching.store = session.store)
    (hwatcher : watching.watcher = session.watcher) (htask : session.task = task)
    (hdelay : session.delay = delay) : Follows task delay watching session.syncNow.1 := by
  subst htask hdelay
  obtain ⟨history, state, hsync⟩ := session.syncNow_eq
  obtain ⟨ending, hends⟩ : ∃ ending, session.task.Ends session.store .findSource
      (Sync.runWith session.parser session.settings session.state session.store session.source
        session.target).store ending := ⟨_, session.task.ends_runWith session.state session.store⟩
  generalize (Sync.runWith session.parser session.settings session.state session.store
    session.source session.target).store = after at hsync hends
  have hbegun : session.task.Ends watching.beginSync.store .findSource after ending :=
    hstore.symm ▸ hends
  have hmoves : ∃ moves,
      (watching.beginSync.run session.task session.delay moves).stage = .resting ∧
      (watching.beginSync.run session.task session.delay moves).store = after ∧
      (watching.beginSync.run session.task session.delay moves).watcher =
        watching.watcher.attempt :=
    exists_moves_ends session.now rfl hbegun
  obtain ⟨moves, hrest, hafter, hattempt⟩ := hmoves
  have hrun : watching.run session.task session.delay (.proceed session.now :: moves) =
      watching.beginSync.run session.task session.delay moves := by
    simp only [run, List.foldl_cons, step, proceed, hstage]
  refine ⟨.proceed session.now :: moves, ?_⟩
  rw [hrun, hsync]
  exact ⟨hrest, hafter, hattempt.trans (congrArg Watcher.attempt hwatcher), rfl, rfl⟩

theorem Mirrors.poll (hmirrors : Mirrors task delay watching session) (now : Time) :
    Follows task delay watching (session.poll now).1 := by
  obtain ⟨hstage, hstore, hwatcher, rfl, rfl⟩ := hmirrors
  obtain ⟨history, hpoll⟩ := session.poll_eq now
  rw [hpoll]
  have hstamp : (session.task.sight watching.store).stamp = session.stamp? := by
    rw [hstore]
    rfl
  -- the poll looks at the component and decides in two steps
  refine Follows.of_run (?_ : Follows _ _ (watching.run _ _ [.proceed now, .proceed now]) _)
  simp only [run, List.foldl_cons, List.foldl_nil, step, proceed, hstage, hstamp, hwatcher]
  unfold Watcher.poll
  by_cases hdue : (session.watcher.observe session.stamp? now).isDue session.delay now
  · simp only [hdue, if_true]
    exact follows_syncNow rfl hstore rfl rfl rfl
  · simp only [hdue, Bool.false_eq_true, if_false]
    exact ⟨[], rfl, hstore, rfl, rfl, rfl⟩

theorem Mirrors.act (hmirrors : Mirrors task delay watching session) (action : Action Time) :
    Follows task delay watching (session.act action) := by
  obtain ⟨hstage, hstore, hwatcher, htask, hdelay⟩ := hmirrors
  cases action with
  | edit edit =>
    refine ⟨[.edit edit], hstage, ?_, hwatcher, htask, hdelay⟩
    simp only [run, List.foldl_cons, List.foldl_nil, step, change, hstore, Session.act]
  | setClock now => exact ⟨[], hstage, hstore, hwatcher, htask, hdelay⟩

/-- What each of a sequence of large steps does is done by the small ones. -/
theorem Follows.foldl {α : Type} {next : Session Time → α → Session Time}
    (hnext : ∀ {watching session} a, Mirrors task delay watching session →
      Follows task delay watching (next session a))
    (hfollows : Follows task delay watching session) (as : List α) :
    Follows task delay watching (as.foldl next session) := by
  induction as generalizing session with
  | nil => exact hfollows
  | cons a as ih =>
    obtain ⟨moves, hmirrors⟩ := hfollows
    exact ih (.of_run (hnext a hmirrors))

theorem Mirrors.turn (hmirrors : Mirrors task delay watching session) (actions : List (Action Time)) :
    Follows task delay watching (session.turn actions) := by
  have hslept : Follows task delay watching session.sleep := ⟨[], hmirrors.record _⟩
  obtain ⟨moves, hwoken⟩ := hslept.foldl (fun action hmirrors => hmirrors.act action) actions
  exact .of_run (hwoken.poll _)

/-- A session that others disturb in its sleep only is a run of small steps. -/
theorem exists_moves_run (parser : Parser) (settings : SyncSettings) (source target : String)
    (interval delay : Time) (store : Store) (now : Time) (script : List (List (Action Time))) :
    let session := Session.startWith parser settings source target interval delay store now
    ∃ moves, Mirrors session.task delay ((start session.task store).run session.task delay moves)
      (session.run script) := by
  intro session
  have hfirst : Follows session.task delay (start session.task store) session.syncFirst := by
    unfold Session.syncFirst
    exact follows_syncNow rfl rfl rfl rfl rfl
  obtain ⟨moves, hmirrors⟩ := hfirst.foldl (fun actions hmirrors => hmirrors.turn actions) script
  exact ⟨moves, (hmirrors.record _).record _⟩

end Watching

end PageGraft.Watch
