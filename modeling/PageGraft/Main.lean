import PageGraft.Command.Run
import Std.Time.Format

/-!
# The program

The command that is run depends on the name of the program. The files that a command can touch are
read before each step and the page is written after it; all else is decided by the commands
themselves.
-/

namespace PageGraft.Main

open PageGraft.Command PageGraft.File PageGraft.Log PageGraft.Settings

/-! ## Looking around -/

/-- The time on the clock of this place. -/
def currentTime : IO Data.Moment := do
  let now ← Std.Time.PlainDateTime.now
  return {
    year := now.year.toInt.toNat
    month := now.month.val.toNat
    day := now.day.val.toNat
    clock := some {
      hour := now.hour.val.toNat
      minute := now.minute.val.toNat
      second := now.second.val.toNat
      microsecond := now.nanosecond.val.toNat / 1000 } }

/-- The path of the directory that a path leads through at last. -/
def directoryOf (path : String) : String :=
  "/".intercalate (path.splitOn "/").dropLast

/-- Takes what is at a path into a store. What cannot be read is barred, and a directory that cannot be
looked into is closed. -/
def addPath (store : Store) (path : String) : IO Store := do
  let place := (← IO.currentDir) / path
  try
    let data ← place.metadata
    let modified : Int := data.modified.sec * 1000000000 + data.modified.nsec.toNat
    if ← place.isDir then return store.makeDirectory (.ofText path)
    let octets : Except Obstacle (List UInt8) ←
      try pure (.ok (← IO.FS.readBinFile place).toList)
      catch
        | .permissionDenied .. => pure (.error .denied)
        | _ => pure (.error .inputFailed)
    match octets with
    | .ok octets => return store.write (.ofText path) octets (some modified)
    | .error obstacle =>
      return (store.write (.ofText path) [] (some modified)).restrict (.ofText path) (some obstacle)
  catch
    | .permissionDenied .. =>
      let directory := Path.ofText (directoryOf path)
      return (store.makeDirectory directory).restrict directory (some .denied)
    | _ => return store

/-- A store with what is at some paths. -/
def look (paths : List String) : IO Store :=
  paths.foldlM addPath {}

/-- The words of a text that can be names of variables. -/
def variableNames (text : String) : List String :=
  (text.toList.splitBy fun left right => isPart left == isPart right).map String.ofList
where
  isPart (character : Char) : Bool := character.isAlphanum || character == '_'

/-- The variables that matter: those of the program, and those that a text speaks of. -/
def environmentOf (text : String) : IO Environment := do
  let names := [Environment.settingsVariable, Environment.logLevelVariable,
    Environment.logSettingsVariable] ++ variableNames text
  let found ← names.filterMapM fun name => do
    return (← IO.getEnv name).map fun value => (name, value)
  return { values := found }

/-- The paths that the environment names. -/
def namedPaths (environment : Environment) : List String :=
  [environment.get Environment.settingsVariable, environment.get Environment.logSettingsVariable].map
    fun path => String.ofList (Text.trim path.toList)

/-- The files that the log settings speak of. -/
def logFiles (store : Store) (environment : Environment) (resources : String) : List String :=
  let settings := (do
    loadSettings store (← findOrigin store environment resources none) : Except Log.Problem _)
  match Data.Value.get? (settings.toOption.getD []) "handlers" with
  | some (.mapping handlers) => handlers.filterMap fun
    | (_, .mapping part) =>
      match Data.Value.get? part "filename" with
      | some (.text path) => some path
      | _ => none
    | _ => none
  | _ => []

/-- The surroundings of a command that is given two files. -/
def surroundings (files : Files) : IO Surroundings := do
  let first ← look [Environment.assignmentsFile]
  let text := ((first.readText (.ofText Environment.assignmentsFile)).toOption.getD [])
  let environment := (← environmentOf (String.ofList text)).withAssignmentsFile first
  let named := Environment.assignmentsFile :: namedPaths environment
  let settings := ((Settings.load (← look named) environment none).1.toOption).getD {}
  let (source, target) := filePaths settings files
  let resources := toString ((← IO.appDir) / "resources")
  let files := logFiles (← look named) environment resources
  return {
    store := ← look (named ++ files.map directoryOf ++ files ++ [source, target])
    environment
    resources
    time := ← currentTime }

/-! ## Acting -/

/-- Writes a text behind what is in a file, or in its place. -/
def writeFile (path text : String) (replaces : Bool) : IO Unit := do
  let mode := if replaces then IO.FS.Mode.write else .append
  (← IO.FS.Handle.mk ((← IO.currentDir) / path) mode).putStr text

def writeOutputs (outputs : List Output) : IO Unit :=
  outputs.forM fun output =>
    match output.target with
    | .standardOutput => do
      (← IO.getStdout).putStr output.text
      (← IO.getStdout).flush
    | .standardError => do (← IO.getStderr).putStr output.text
    | .file path => writeFile path output.text output.replaces
    | .nowhere => pure ()

def writeFault (problem : Log.Problem) : IO Unit := do
  (← IO.getStderr).putStrLn s!"log: {problem.message}"

/-- Logs, and writes what comes of it; the loggers after it are given unless the log cannot take
it. -/
def telling (work : Logging Unit) (loggers : Loggers) : IO (Option Loggers) := do
  let (result, loggers, outputs) := work.run (loggers, [])
  writeOutputs outputs
  match result with
  | .ok () => return some loggers
  | .error fault => do
    writeFault (.writing fault)
    return none

/-- Ends all handlers, the last one first. -/
def endLoggers (loggers : Loggers) : IO Unit := do
  let places := (List.range loggers.handlers.length).reverse
  let _ ← telling (Logging.onHandlers (endHandlers (← currentTime) places)) loggers

/-- Writes a file that differs between two stores. -/
def writeBack (path : String) (before after : Store) : IO Unit :=
  match before.find (.ofText path), after.find (.ofText path) with
  | .ok old, .ok new => do
    if old.octets ≠ new.octets then
      IO.FS.writeBinFile ((← IO.currentDir) / path) ⟨new.octets.toArray⟩
  | _, _ => pure ()

/-- Shows the outputs of a command that has ended, and gives its code. -/
def conclude (outcome : Outcome Float) : IO UInt32 := do
  writeOutputs outcome.outputs
  if let some fault := outcome.fault then writeFault fault
  endLoggers outcome.loggers
  return outcome.exitCode.toUInt32

def runSync (arguments : List String) : IO UInt32 := do
  let files :=
    match syncArguments arguments with
    | .ok (.run files) => files
    | _ => {}
  let surroundings ← surroundings files
  let outcome := syncLine surroundings arguments
  let settings :=
    ((Settings.load surroundings.store surroundings.environment none).1.toOption).getD {}
  writeBack (filePaths settings files).2 surroundings.store outcome.store
  conclude outcome

/-- The seconds of a clock that only goes forward. -/
def clock : IO Float := do
  return (← IO.monoMsNow).toFloat / 1000.0

/-- Shows what has happened in a session since it was looked at, and writes the page. -/
def settle (surroundings : Surroundings) (loggers : Loggers) (before after : Watch.Session Float) :
    IO (Option (Loggers × Watch.Session Float)) := do
  writeBack after.target before.store after.store
  let surroundings := { surroundings with time := ← currentTime }
  let told ← telling (surroundings.tellHistory after.history) loggers
  return told.map fun loggers => (loggers, { after with history := [] })

/-- A session that sees the files as they are now. -/
def refresh (session : Watch.Session Float) : IO (Watch.Session Float) := do
  return { session with store := ← look [session.source, session.target] }

/-- Looks at the component again and again, until the log cannot take what happens. -/
partial def keepWatching (surroundings : Surroundings) :
    Option (Loggers × Watch.Session Float) → IO UInt32
  | none => return 1
  | some (loggers, session) => do
    IO.sleep (session.interval * 1000.0).toUInt32
    let seen ← refresh session
    let polled := (seen.poll (← clock)).1
    keepWatching surroundings (← settle surroundings loggers seen polled)

def runWatch (arguments : List String) : IO UInt32 := do
  match watchArguments arguments with
  | .ok (.run given) =>
    let surroundings ← surroundings given.files
    match (begun surroundings .watch : Except (Outcome Float) Begun) with
    | .error outcome => conclude outcome
    | .ok begun =>
      writeOutputs begun.outputs
      let session := session surroundings begun given (← clock)
      keepWatching surroundings
        (← settle surroundings begun.loggers session session.syncFirst)
  | _ => conclude (watchLine (← surroundings {}) arguments 0.0 [])

end PageGraft.Main

/-- Watches if the program is called by the name of the command that watches. -/
def main (arguments : List String) : IO UInt32 := do
  if (← IO.appPath).fileName = some "page-sync-watch" then PageGraft.Main.runWatch arguments
  else PageGraft.Main.runSync arguments
