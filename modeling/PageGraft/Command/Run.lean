import PageGraft.Command.Arguments
import PageGraft.Command.Failure
import PageGraft.Environment.Assignments
import PageGraft.Log.SetUp
import PageGraft.Settings.Load
import PageGraft.Sync.Run
import PageGraft.Sync.Summary
import PageGraft.Watch.Session

/-!
# Commands

The two commands: one syncs once, the other keeps watching. Both set up the log and load the settings
first. What goes wrong is shown in a panel, and the command ends with a code of one.
-/

namespace PageGraft.Command

open PageGraft.File PageGraft.Log PageGraft.Settings

/-- What a command runs in: the files, the environment, the directory of the packaged log settings,
the time, and the width of the console. -/
structure Surroundings where
  store : Store
  environment : Environment
  resources : String
  time : Data.Moment
  width : Nat := 80

/-- How a command ends. `fault` is a problem of the log settings that is not foreseen. -/
structure Outcome (Time : Type) where
  exitCode : Nat
  store : Store
  loggers : Loggers := .initial
  outputs : List Output := []
  sleeps : List Time := []
  fault : Option Log.Problem := none

def pathsHint : String :=
  "Pass SOURCE and TARGET explicitly, or run from the project root."

def settingsHint : String :=
  s!"Check the YAML file named by {Environment.settingsVariable}, or unset it to use defaults."

/-- A command by its word, and the title of the panel that tells of its failure. -/
structure Kind where
  word : String
  title : String
deriving Repr, DecidableEq

def Kind.sync : Kind := ⟨"sync", "Sync failed"⟩

def Kind.watch : Kind := ⟨"watch", "Watch failed"⟩

/-- Writes a text as it is. -/
def write (target : Target) (text : String) : Logging Unit :=
  Logging.output { target, text }

namespace Surroundings

/-- Surroundings with the variables that the file of assignments gives. -/
def withAssignments (surroundings : Surroundings) : Surroundings :=
  { surroundings with
    environment := surroundings.environment.withAssignmentsFile surroundings.store }

/-- Logs entries. -/
def log (surroundings : Surroundings) (entries : List Log.Entry) : Logging Unit :=
  Logging.writeEntries surroundings.time entries

/-- Shows a report; each warning is logged after it is shown. -/
def tellReport (surroundings : Surroundings) (report : Sync.Report) : Logging Unit := do
  write .standardOutput (report.opening surroundings.width)
  report.warnings.forM fun warning => do
    write .standardOutput (Sync.Report.warningText surroundings.width warning)
    surroundings.log [Sync.Report.warningEntry warning]
  write .standardOutput (report.closing surroundings.width)

/-- Logs and shows a failure. -/
def tellFailure (surroundings : Surroundings) (kind : Kind) (failure : Failure) :
    Logging Unit := do
  surroundings.log [failure.entry kind.title]
  write .standardError (failure.panel kind.title surroundings.width)

/-- Shows what has happened in a session. -/
def tellHistory {Time : Type} (surroundings : Surroundings)
    (history : List (Watch.Happening Time)) : Logging Unit :=
  history.forM fun
    | .logged entry => surroundings.log [entry]
    | .reported report => surroundings.tellReport report
    | .slept _ => return ()

end Surroundings

/-! ## Beginning -/

/-- A command that has begun: the files at its beginning, the settings, the loggers, and what has been
written so far. -/
structure Begun where
  store : Store
  settings : SyncSettings
  loggers : Loggers
  outputs : List Output

/-- Writes what goes to a file. -/
def writeOutput (store : Store) (output : Output) : Store :=
  match output.target with
  | .file path =>
    let place := Path.ofText path
    let before := if output.replaces then [] else (store.find place).toOption.elim [] (·.octets)
    store.write place (before ++ Text.encode output.text.toList) none
  | _ => store

/-- The end of a command after something more has been told. If the log cannot take it, the files are
as they were at the beginning. -/
def Begun.ended {Time : Type} (begun : Begun) (exitCode : Nat) (store : Store)
    (telling : Logging Unit) (sleeps : List Time := []) : Outcome Time :=
  let (result, loggers, outputs) := telling.run (begun.loggers, begun.outputs)
  match result with
  | .ok () => { exitCode, store := outputs.foldl writeOutput store, loggers, outputs, sleeps }
  | .error fault =>
    { exitCode := 1, store := outputs.foldl writeOutput begun.store, loggers, outputs
      fault := some (.writing fault) }

/-- The failure that an error in the settings makes of a command. -/
def settingsFailure (kind : Kind) : LoadError → Failure
  | .settings error => ⟨error.message, kind.word, settingsHint⟩
  | error => ⟨error.message, kind.word, ""⟩

/-- Sets up the log and loads the settings. -/
def begun {Time : Type} (surroundings : Surroundings) (kind : Kind) :
    Except (Outcome Time) Begun :=
  let { store, environment, resources, time, .. } := surroundings
  match Log.setUp ⟨store, time⟩ environment resources {} Loggers.initial with
  | .error fault => .error { exitCode := 1, store, fault := some fault }
  | .ok (loggers, outputs) =>
    let (loaded, log) := Settings.load store environment none
    let begun : Begun := { store, settings := {}, loggers, outputs }
    match loaded with
    | .error error => .error (begun.ended 1 store do
        surroundings.log log
        surroundings.tellFailure kind (settingsFailure kind error))
    | .ok settings =>
      match (surroundings.log log).run (loggers, outputs) with
      | (.ok (), loggers, outputs) => .ok { store, settings, loggers, outputs }
      | (.error _, _) => .error (begun.ended 1 store (surroundings.log log))

/-- The two files: those that are given, else those that the settings name. -/
def filePaths (settings : SyncSettings) (files : Files) : String × String :=
  ((files.source.map normalPath).getD settings.sourcePath,
    (files.target.map normalPath).getD settings.targetPath)

/-! ## Syncing once -/

/-- The failure of a file that has to be there, or that cannot be looked for. -/
def requireFile (store : Store) (path description : String) : Except Failure Unit :=
  match store.find (.ofText path) with
  | .ok _ => .ok ()
  | .error obstacle =>
    if obstacle.isRaised then .error { message := obstacle.message path, command := Kind.sync.word }
    else .error ⟨s!"{description} not found: {path}", Kind.sync.word, pathsHint⟩

/-- Syncs, with what is logged on the way. -/
def syncFiles (settings : SyncSettings) (store : Store) (source target : String) :
    Except Failure Sync.Report × List Log.Entry × Store :=
  match (do requireFile store source "React file"; requireFile store target "HTML file") with
  | .error failure => (.error failure, [], store)
  | .ok () =>
    let outcome := Sync.run settings .idle store source target
    (outcome.result.mapError fun failure => ⟨failure.message, Kind.sync.word, ""⟩,
      outcome.log, outcome.store)

/-- The command that syncs once. -/
def sync {Time : Type} (surroundings : Surroundings) (files : Files) : Outcome Time :=
  match begun surroundings .sync with
  | .error outcome => outcome
  | .ok begun =>
    let (source, target) := filePaths begun.settings files
    let (result, log, store) := syncFiles begun.settings surroundings.store source target
    match result with
    | .ok report => begun.ended 0 store do
        surroundings.log log
        surroundings.tellReport report
    | .error failure => begun.ended 1 store do
        surroundings.log log
        surroundings.tellFailure .sync failure

/-! ## Watching -/

/-- The session of the command that watches. -/
def session (surroundings : Surroundings) (begun : Begun) (arguments : WatchArguments)
    (now : Float) : Watch.Session Float :=
  let (source, target) := filePaths begun.settings arguments.files
  .start begun.settings source target arguments.interval arguments.delay surroundings.store now

/-- The command that watches, with what happens while it sleeps. -/
def watch (surroundings : Surroundings) (arguments : WatchArguments) (now : Float)
    (script : List (List (Watch.Action Float))) : Outcome Float :=
  match begun surroundings .watch with
  | .error outcome => outcome
  | .ok begun =>
    let ended := (session surroundings begun arguments now).run script
    begun.ended 0 ended.store (surroundings.tellHistory ended.history)
      (ended.history.filterMap fun
        | .slept interval => some interval
        | _ => none)

/-! ## Command lines -/

/-- A command line that is not understood. -/
def misused {Time : Type} (surroundings : Surroundings) (error : UsageError) : Outcome Time where
  exitCode := 2
  store := surroundings.store
  outputs := [{ target := .standardError, text := error.message ++ "\n" }]

def helped {Time : Type} (surroundings : Surroundings) (help : String) : Outcome Time where
  exitCode := 0
  store := surroundings.store
  outputs := [{ target := .standardOutput, text := help }]

/-- The command line that syncs once. -/
def syncLine (surroundings : Surroundings) (arguments : List String) : Outcome Float :=
  match syncArguments arguments with
  | .error error => misused surroundings error
  | .ok .help => helped surroundings syncHelp
  | .ok (.run files) => sync surroundings.withAssignments files

/-- The command line that watches. -/
def watchLine (surroundings : Surroundings) (arguments : List String) (now : Float)
    (script : List (List (Watch.Action Float))) : Outcome Float :=
  match watchArguments arguments with
  | .error error => misused surroundings error
  | .ok .help => helped surroundings watchHelp
  | .ok (.run arguments) => watch surroundings.withAssignments arguments now script

end PageGraft.Command
