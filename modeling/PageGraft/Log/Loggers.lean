import PageGraft.Log.Entry
import PageGraft.Log.Handler

/-!
# Loggers

Loggers form a tree by their dotted names, under a root without a name. An entry that is heavy enough
for its logger goes to the handlers of the logger and of those above it; each handler writes what is
heavy enough for it. An entry that finds no handler is shown bare if it is a warning or worse.
-/

namespace PageGraft.Log

open PageGraft.Data

/-- The record of an entry of the program. -/
def Entry.record (entry : Entry) : Record where
  name := entry.source.name
  level := entry.level
  message := entry.message

/-- One logger. Its handlers are given by their places in the list of all handlers. -/
structure Logger where
  threshold : Threshold := {}
  handlers : List Nat := []
  filters : List String := []
  propagates : Bool := true
  disabled : Bool := false
deriving Repr, DecidableEq

/-- All loggers and handlers. `known` are the handlers that have a name of their own. -/
structure Loggers where
  root : Logger := { threshold := { level := Level.warning } }
  named : List (String × Logger) := []
  handlers : List Handler := []
  known : List (String × Nat) := []
deriving Repr

namespace Loggers

/-- The loggers that the parts of the program have before anything is set up. -/
def initial : Loggers where
  named :=
    ["page_sync", "page_sync.cli.errors", "page_sync.cli.sync", "page_sync.cli.watch",
      "page_sync.config", "page_sync.extractor", "page_sync.logging", "page_sync.orchestrator",
      "page_sync.patcher", "page_sync.reporting", "page_sync.watcher"].map fun name => (name, {})

/-- Whether a name means the root. -/
def isRoot (name : String) : Bool :=
  name = "" || name = "root"

/-- The logger of a name; one that is not there yet is as new. -/
def get (loggers : Loggers) (name : String) : Logger :=
  if isRoot name then loggers.root else (loggers.named.lookup name).getD {}

/-- Sets the value of a name in a list. -/
def put {α : Type} (entries : List (String × α)) (name : String) (value : α) :
    List (String × α) :=
  match entries with
  | [] => [(name, value)]
  | (first, old) :: rest =>
    if first = name then (name, value) :: rest else (first, old) :: put rest name value

def set (loggers : Loggers) (name : String) (logger : Logger) : Loggers :=
  if isRoot name then { loggers with root := logger }
  else { loggers with named := put loggers.named name logger }

/-- The names of the loggers from a name up to, and without, the root. -/
def lineage (name : String) : List String :=
  let parts := name.splitOn "."
  (List.range parts.length).map fun count => ".".intercalate (parts.take (parts.length - count))

/-- The loggers from a name up to the root. -/
def chain (loggers : Loggers) (name : String) : List Logger :=
  if isRoot name then [loggers.root]
  else (lineage name).filterMap (fun above => loggers.named.lookup above) ++ [loggers.root]

/-- The threshold that counts for a logger: its own, or else that of the first above it that has
one. -/
def effectiveThreshold (loggers : Loggers) (name : String) : Threshold :=
  (((loggers.chain name).map (·.threshold)).find? (·.isSet)).getD {}

/-- The places of the handlers that an entry of a logger reaches. -/
def reached : List Logger → List Nat
  | [] => []
  | logger :: above =>
    logger.handlers ++ if logger.propagates then reached above else []

end Loggers

/-! ## Writing -/

/-- Changes loggers, and writes on the way. -/
abbrev Logging := ExceptT WriteFault (StateM (Loggers × List Output))

namespace Logging

/-- Changes the handlers. -/
def onHandlers (change : Writing Unit) : Logging Unit :=
  fun (loggers, outputs) =>
    let (result, handlers, outputs) := change.run (loggers.handlers, outputs)
    (result, { loggers with handlers }, outputs)

def output (output : Output) : Logging Unit :=
  modify fun (loggers, outputs) => (loggers, outputs ++ [output])

/-- Gives a record to all handlers that it reaches and that let it through. -/
def write (time : Moment) (record : Record) : Logging Unit := do
  let loggers := (← get).1
  let logger := loggers.get record.name
  let record := { record with name := if record.name = "" then "root" else record.name }
  if !logger.disabled && (loggers.effectiveThreshold record.name).admits record.level &&
      logger.filters.all (passes · record.name) then
    match Loggers.reached (loggers.chain record.name) with
    | [] =>
      if Level.warning ≤ record.level then
        output { target := .standardError, text := record.message ++ "\n" }
    | places =>
      onHandlers (places.forM fun place => do
        if (loggers.handlers[place]?).any fun handler => handler.threshold.admits record.level then
          hand time loggers.handlers.length place record)

/-- Writes entries of the program in turn. -/
def writeEntries (time : Moment) (entries : List Entry) : Logging Unit :=
  entries.forM fun entry => write time entry.record

end Logging

end PageGraft.Log
