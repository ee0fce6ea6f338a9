import PageGraft.Sync.Run
import PageGraft.Watch.Watcher

/-!
# Watch sessions

A session keeps a page up to date while its component is edited: it syncs once, and then looks at
the component in turns until it is stopped. A failed sync is logged and does not stop the session.
Sleeping, the clock and the edits of others are given from outside, so a session is a value that its
steps change.
-/

namespace PageGraft.Watch

open PageGraft.File PageGraft.Settings

/-- What can be seen of a session from outside, in the order in which it happens. -/
inductive Happening (Time : Type) where
  | logged (entry : Log.Entry)
  | reported (report : Sync.Report)
  | slept (interval : Time)
deriving Repr, DecidableEq

/-- What happens while a session sleeps. -/
inductive Action (Time : Type) where
  | edit (edit : Edit)
  | setClock (now : Time)
deriving Repr, DecidableEq

/-- A watcher with all that it acts on. `state` is how the last sync ended. -/
structure Session (Time : Type) where
  parser : Syntax.Parser
  settings : SyncSettings
  source : String
  target : String
  interval : Time
  delay : Time
  store : Store
  now : Time
  watcher : Watcher Int Time
  state : Sync.State := .idle
  history : List (Happening Time) := []

namespace Session

variable {Time : Type}

/-- A session that has not begun; from now on it sees changes of the component. A parser makes the trees
of sources. -/
def startWith (parser : Syntax.Parser) (settings : SyncSettings) (source target : String)
    (interval delay : Time) (store : Store) (now : Time) : Session Time where
  parser
  settings
  source
  target
  interval
  delay
  store
  now
  watcher := { seen := store.modified? (.ofText source) }

/-- A session that has not begun. -/
def start (settings : SyncSettings) (source target : String) (interval delay : Time)
    (store : Store) (now : Time) : Session Time :=
  startWith Syntax.parse settings source target interval delay store now

def record (session : Session Time) (happenings : List (Happening Time)) : Session Time :=
  { session with history := session.history ++ happenings }

def note (session : Session Time) (level : Log.Level) (message : String) : Session Time :=
  session.record [.logged ⟨level, .watcher, message⟩]

def act (session : Session Time) : Action Time → Session Time
  | .edit edit => { session with store := session.store.apply edit }
  | .setClock now => { session with now }

/-- Syncs once. A report is handed over, a failure is logged. -/
def syncNow (session : Session Time) : Session Time × Option Sync.Report :=
  let outcome :=
    Sync.runWith session.parser session.settings session.state session.store session.source
      session.target
  let synced := { session.record (outcome.log.map .logged) with
    watcher := session.watcher.attempt
    state := outcome.state
    store := outcome.store }
  match outcome.result with
  | .ok report => (synced.record [.reported report], some report)
  | .error failure => (synced.note .error s!"Sync failed: {failure.message}", none)

/-- The stamp of the component. -/
def stamp? (session : Session Time) : Option Int :=
  session.store.modified? (.ofText session.source)

/-- Looks at the component, at a time, and syncs if that is due. -/
def poll [Sub Time] [LT Time] [DecidableLT Time] (session : Session Time) (now : Time) :
    Session Time × Option Sync.Report :=
  let stamp := session.stamp?
  let (watcher, due) := session.watcher.poll session.delay stamp now
  let noted :=
    if stamp = session.watcher.seen then session
    else session.note .debug s!"Change detected in {session.source}"
  let polled := { noted with watcher }
  if due then
    (polled.note .info s!"{session.source} changed, syncing to {session.target}").syncNow
  else (polled, none)

def sleep (session : Session Time) : Session Time :=
  session.record [.slept session.interval]

/-- Sleeps while others act, and looks at the component afterwards. -/
def turn [Sub Time] [LT Time] [DecidableLT Time] (session : Session Time)
    (actions : List (Action Time)) : Session Time :=
  let woken := actions.foldl act session.sleep
  (woken.poll woken.now).1

/-- Syncs for the first time. -/
def syncFirst (session : Session Time) : Session Time :=
  let begun := session.note .info s!"Watching for changes in {session.source}"
  (begun.note .info "Performing initial sync").syncNow.1

/-- Syncs, takes a turn for each list of actions, and is stopped in the sleep after the last. -/
def run [Sub Time] [LT Time] [DecidableLT Time] (session : Session Time)
    (script : List (List (Action Time))) : Session Time :=
  ((script.foldl turn session.syncFirst).sleep).note .info "Stopping file watcher"

end Session

end PageGraft.Watch
