import PageGraft.Environment
import PageGraft.File.Store
import PageGraft.Log.Entry
import PageGraft.Settings.Properties
import PageGraft.Yaml.Document

/-!
# Loading settings

Settings come from a file that is named by the caller or by the environment; without such a file all
settings have their defaults.
-/

namespace PageGraft.Settings

open PageGraft.Data PageGraft.File PageGraft.Text

/-- What loading settings takes from elsewhere: a loader gives the plain data of documents, and a check makes
settings of properties or tells what is wrong with them. -/
structure Library where
  load : Yaml.Loader
  check : List (Value × Value) → Reading SyncSettings

/-- The loader and the check of this program. -/
def Library.own : Library where
  load := Yaml.loader
  check entries := readSync (.mapping entries)

/-- Why settings cannot be loaded. Besides errors of the settings themselves, the file may not be
named by a path, be no UTF-8, or hold something that makes the loader fail in a way that is not
foreseen. -/
inductive LoadError where
  | settings (error : Error)
  | notPath
  | undecodable (error : DecodeError)
  | noSuchValue (fault : Yaml.Fault)
deriving Repr, DecidableEq

def LoadError.message : LoadError → String
  | .settings error => error.message
  | .notPath => OpenError.notPath.message
  | .undecodable error => error.message
  | .noSuchValue fault => fault.message

/-- The error that a fault of the document in a file makes. -/
def LoadError.ofFault (path : String) : Yaml.Fault → LoadError
  | .undecodable error => .undecodable error
  | fault =>
    match fault.kind with
    | .format => .settings (.unparsable path)
    | .system => .settings (.unreadable path fault.message)
    | .value | .type | .key | .module | .other => .noSuchValue fault

/-- The plain data in a file. -/
def loadValue (loader : Yaml.Loader) (store : Store) (path : Path) : Except LoadError Value :=
  match store.openText path with
  | .error .notPath => .error .notPath
  | .error (.obstacle obstacle shown) =>
    .error (.settings (.unreadable path.toText (obstacle.message shown)))
  | .ok stream => (loader stream).mapError (.ofFault path.toText)

/-- The properties in a file; an empty file has none. -/
def loadProperties (loader : Yaml.Loader) (store : Store) (path : Path) :
    Except LoadError (List (Value × Value)) := do
  match (← loadValue loader store path).opened with
  | .null => return []
  | .mapping entries => return entries
  | _ => throw (.settings (.notMapping path.toText))

/-- The settings in a file, and the log of loading them. -/
def loadFile (library : Library) (store : Store) (path : Path) :
    Except LoadError SyncSettings × List Log.Entry :=
  match loadProperties library.load store path with
  | .error error => (.error error, [])
  | .ok entries =>
    (((library.check entries).orInvalid "SyncConfig").mapError .settings,
      [⟨.debug, .config, s!"Loaded sync configuration from {path.toText}"⟩])

/-- The file that settings are loaded from: the one that is asked for, else the one that the
environment names. -/
def settingsPath? (environment : Environment) (asked : Option String) : Option Path :=
  match asked with
  | some path => some (.ofText path)
  | none =>
    let named := trim (environment.get Environment.settingsVariable).toList
    if named.isEmpty then none else some (.ofText (String.ofList named))

/-- Loads settings with a library, with the log of loading them. -/
def loadWith (library : Library) (store : Store) (environment : Environment) (asked : Option String) :
    Except LoadError SyncSettings × List Log.Entry :=
  match settingsPath? environment asked with
  | none => (.ok {}, [])
  | some path => loadFile library store path

/-- Loads settings, with the log of loading them. -/
def load (store : Store) (environment : Environment) (asked : Option String) :
    Except LoadError SyncSettings × List Log.Entry :=
  loadWith .own store environment asked

end PageGraft.Settings
