import PageGraft.Log.Level

/-!
# Log entries

What the program says about its work, as values: each entry has a level, the part of the program it
comes from, and a text. Which entries are shown is decided elsewhere.
-/

namespace PageGraft.Log

/-- The parts of the program that write log entries. -/
inductive Source where
  | config
  | extractor
  | patcher
  | orchestrator
  | watcher
  | reporting
  | logging
  | commandErrors
deriving Repr, DecidableEq

/-- The dotted name under which a part of the program logs. -/
def Source.name : Source → String
  | .config => "page_sync.config"
  | .extractor => "page_sync.extractor"
  | .patcher => "page_sync.patcher"
  | .orchestrator => "page_sync.orchestrator"
  | .watcher => "page_sync.watcher"
  | .reporting => "page_sync.reporting"
  | .logging => "page_sync.logging"
  | .commandErrors => "page_sync.cli.errors"

structure Entry where
  level : Level
  source : Source
  message : String
deriving Repr, DecidableEq

/-- The line shown for an entry. -/
def Entry.line (entry : Entry) : String :=
  s!"{entry.level.name} {entry.source.name}: {entry.message}"

end PageGraft.Log
