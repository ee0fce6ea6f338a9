import PageGraft.Environment
import PageGraft.File.Store
import PageGraft.Log.Configure
import PageGraft.Text.Trim
import PageGraft.Yaml.Document

/-!
# Setting up the log

The log is set up from a file that the caller or the environment names, or else from settings that
come with the program. A level that is asked for replaces the levels in the settings. When the
settings cannot be applied, all loggers write to the standard error output in a fixed layout.
-/

namespace PageGraft.Log

open PageGraft.Data PageGraft.File PageGraft.Text

/-- The settings that come with the program. -/
def packagedSettings : String :=
  "version: 1\n" ++
  "disable_existing_loggers: false\n" ++
  "\n" ++
  "formatters:\n" ++
  "  console:\n" ++
  "    format: \"%(levelname)s %(name)s: %(message)s\"\n" ++
  "  detailed:\n" ++
  "    format: \"%(asctime)s - %(name)s - %(levelname)s - %(message)s\"\n" ++
  "    datefmt: \"%Y-%m-%d %H:%M:%S\"\n" ++
  "\n" ++
  "handlers:\n" ++
  "  console:\n" ++
  "    class: logging.StreamHandler\n" ++
  "    level: INFO\n" ++
  "    formatter: console\n" ++
  "    stream: ext://sys.stderr\n" ++
  "\n" ++
  "loggers:\n" ++
  "  page_sync:\n" ++
  "    level: INFO\n" ++
  "    propagate: true\n" ++
  "\n" ++
  "root:\n" ++
  "  level: WARNING\n" ++
  "  handlers: [console]\n"

/-! ## The file -/

/-- Where settings of the log come from. The packaged settings are shown with the path of the file
that holds them. -/
inductive Origin where
  | packaged (path : String)
  | file (path : Path)
deriving Repr, DecidableEq

def Origin.path : Origin → String
  | .packaged path => path
  | .file path => path.toText

/-- The packaged settings of a name in a directory; only one file is there. -/
def packagedOrigin (resources name : String) : Except Problem Origin :=
  let inside (file : String) : String :=
    normalPath (if file.startsWith "/" then file else resources ++ "/" ++ file)
  let path := inside (name ++ ".yaml")
  if path = inside "logging.yaml" then .ok (.packaged path) else .error (.missing path)

/-- The settings of a name; without a name those that the environment names. -/
def findOrigin (store : Store) (environment : Environment) (resources : String)
    (name : Option String) : Except Problem Origin := do
  let override :=
    String.ofList (trim (environment.get Environment.logSettingsVariable).toList)
  match name with
  | some name => packagedOrigin resources (if name = "" then "logging" else name)
  | none =>
    if override = "" then packagedOrigin resources "logging"
    else
      let path := Path.ofText override
      if ← (store.contains path).mapError (.unreachable · path.toText) then
        return .file path
      else throw (.missing path.toText)

/-- Opens the text of settings. -/
def openOrigin (store : Store) : Origin → Except Problem TextStream
  | .packaged _ => .ok { text := packagedSettings.toList }
  | .file path =>
    (store.openText path).mapError fun
      | .notPath => .notPath
      | .obstacle obstacle shown => .unreadable path.toText (obstacle.message shown)

/-- The entries of settings, as a loader gives them. -/
def loadSettingsWith (loader : Yaml.Loader) (store : Store) (origin : Origin) :
    Except Problem (List (Value × Value)) := do
  let stream ← openOrigin store origin
  match (← (loader stream).mapError (.ofFault origin.path)).opened with
  | .mapping entries => return entries
  | _ => throw (.notMapping origin.path)

/-- The entries of settings. -/
def loadSettings (store : Store) (origin : Origin) : Except Problem (List (Value × Value)) :=
  loadSettingsWith Yaml.loader store origin

/-! ## The level -/

/-- Sets the level in one part. -/
def setLevel (level : String) (part : Value) : Except Problem Value :=
  match part.opened with
  | .mapping entries => .ok (.mapping (Value.put entries (.text "level") (.text level)))
  | .list _ => .error .listPlace
  | value => .error (.notAssignable value.kindName)

/-- The level that the level of a part is compared by. It can be any word of the vocabulary, and not
all of them have an order; a word that is none counts as information. -/
def comparedLevel (current : Value) : Except Problem Level :=
  match Named.ofWord? current.display with
  | none => .ok Level.info
  | some (.value (.integer level)) => .ok level
  | some (.value (.boolean truth)) => .ok (Threshold.ofTruth truth).level
  | some named => .error (.unordered "int" named.kindName)

/-- Lowers the level of a handler that has one, if it is above the level. -/
def lowerHandler (level : Level) (name : String) (part : Value) : Except Problem Value := do
  match part.opened with
  | .mapping entries =>
    match Value.get? entries "level" with
    | none => return part
    | some current => if level < (← comparedLevel current) then setLevel name part else return part
  | _ => return part

/-- Changes all parts of a section, if there is one. -/
def changeParts (section_ : String) (change : Value → Except Problem Value)
    (entries : List (Value × Value)) : Except Problem (List (Value × Value)) :=
  match (Value.get? entries section_).map Value.opened with
  | none => .ok entries
  | some (.mapping parts) => do
    let changed ← parts.mapM fun (name, part) => return (name, ← change part)
    return Value.put entries (.text section_) (.mapping changed)
  | some value => .error (.noParts value.kindName)

/-- Sets a level in all loggers and the root, and lowers handlers to it. -/
def withLevel (word : String) (entries : List (Value × Value)) :
    Except Problem (List (Value × Value)) :=
  match Level.ofWord? word with
  | none => .error (.invalidLevel word)
  | some level => do
    let name := Level.capitals word
    let entries ← changeParts "loggers" (setLevel name) entries
    let entries ←
      match Value.get? entries "root" with
      | none => .ok entries
      | some root => (setLevel name root).map (Value.put entries (.text "root"))
    changeParts "handlers" (lowerHandler level name) entries

/-! ## Set-up -/

/-- The fixed layout. -/
def plainLayout : Layout where
  text := "%(asctime)s - %(name)s - %(levelname)s - %(message)s"
  timeForm := some "%Y-%m-%d %H:%M:%S"

/-- Ends the handlers of the root, and makes one that writes everything to the standard error output
instead. -/
def fallBack (level : Level) (time : Moment) : Logging Unit := do
  let ended := (← get).1.root.handlers
  Logging.onHandlers (endHandlers time ended)
  modify fun (loggers, outputs) =>
    ({ loggers with
        root := { loggers.root with threshold := { level }, handlers := [loggers.handlers.length] }
        handlers := loggers.handlers ++ [{ layout := plainLayout }]
        known := loggers.known.filter fun (_, place) => !ended.contains place },
      outputs)

/-- What set-up was asked for: a file, and a level. -/
structure Request where
  path : Option String := none
  level : Option String := none
deriving Repr, DecidableEq

/-- The level that counts; an empty one is none. -/
def Request.level? (request : Request) (environment : Environment) : Option String :=
  let isGiven (word : String) : Bool := word ≠ ""
  match request.level.filter isGiven with
  | some word => some word
  | none => (environment.get? Environment.logLevelVariable).filter isGiven

/-- The settings to apply, and where they are from. -/
def requestedSettings (loader : Yaml.Loader) (store : Store) (environment : Environment)
    (resources : String) (request : Request) : Except Problem (Origin × List (Value × Value)) := do
  let origin ←
    match request.path with
    | some path => .ok (.file (.ofText path))
    | none => findOrigin store environment resources none
  let settings ← loadSettingsWith loader store origin
  match request.level? environment with
  | none => return (origin, settings)
  | some word => return (origin, ← withLevel word settings)

/-- The record that tells of settings that have been applied. -/
def appliedRecord (origin : Origin) : Record where
  name := Source.logging.name
  level := Level.debug
  message := s!"Logging configured from: {origin.path}"
  template := "Logging configured from: %s"
  arguments := .shown s!"(PosixPath({quoted origin.path}),)"

/-- The record that tells of a problem; the level is given by its word. -/
def problemRecord (problem : Problem) (word : String) : Record where
  name := Source.logging.name
  level := Level.warning
  message := s!"Failed to configure logging from file ({problem.message}), " ++
    s!"using basic console logging at {word} level"
  template := "Failed to configure logging from file (%s), using basic console logging at %s level"

/-- The loggers after some work, and all that has been written. -/
def after (work : Logging Unit) (loggers : Loggers) (outputs : List Output) :
    Except Problem (Loggers × List Output) :=
  match work.run (loggers, outputs) with
  | (.ok (), loggers, outputs) => .ok (loggers, outputs)
  | (.error fault, _) => .error (.writing fault)

/-- Sets up the log from what a loader gives, and writes to it how that went. A problem that is not
foreseen is given back. -/
def setUpWith (loader : Yaml.Loader) (occasion : Occasion) (environment : Environment)
    (resources : String) (request : Request) (loggers : Loggers) :
    Except Problem (Loggers × List Output) :=
  let { files, time } := occasion
  let level := request.level? environment
  let settle (problem : Problem) (loggers : Loggers) (outputs : List Output) :
      Except Problem (Loggers × List Output) :=
    let word := level.getD "INFO"
    if problem.isForeseen then
      after (do
        fallBack ((Level.ofWord? word).getD Level.info) time
        Logging.write time (problemRecord problem word)) loggers outputs
    else .error problem
  match requestedSettings loader files environment resources request with
  | .error problem => settle problem loggers []
  | .ok (origin, settings) =>
    match (Configure.apply occasion).run { scope := { settings }, loggers } with
    | (.ok (), { loggers, outputs, .. }) =>
      match (Logging.write time (appliedRecord origin)).run (loggers, outputs) with
      | (.ok (), loggers, outputs) => .ok (loggers, outputs)
      | (.error fault, loggers, outputs) => settle (.writing fault) loggers outputs
    | (.error problem, { loggers, outputs, .. }) => settle problem loggers outputs

/-- Sets up the log, and writes to it how that went. -/
def setUp (occasion : Occasion) (environment : Environment) (resources : String)
    (request : Request) (loggers : Loggers) : Except Problem (Loggers × List Output) :=
  setUpWith Yaml.loader occasion environment resources request loggers

end PageGraft.Log
