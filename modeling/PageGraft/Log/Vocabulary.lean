import PageGraft.Log.Handler

/-!
# The vocabulary of log settings

Settings can name things that are not in them: levels, streams, kinds of handlers, and much else that
has a name of its own.
-/

namespace PageGraft.Log

open PageGraft.Data

/-- What a name stands for. `other` is something of which only the kind matters. -/
inductive Named where
  | value (value : Value)
  | stream (target : Target)
  | handler (kind : HandlerKind)
  | layout
  | filter
  | other (kind : String)
deriving Repr

namespace Named

/-- The word for the kind of what is named. -/
def kindName : Named → String
  | value held => held.kindName
  | stream _ => "_io.TextIOWrapper"
  | handler _ | layout | filter => "type"
  | other kind => kind

/-- The names in the vocabulary of the log that are neither levels nor kinds of handlers, by the kind
of what they stand for. -/
def others : List (String × List String) :=
  [("type",
      ["BufferingFormatter", "Filterer", "GenericAlias", "LogRecord", "Logger", "LoggerAdapter",
        "Manager", "PercentStyle", "PlaceHolder", "RootLogger", "StrFormatStyle",
        "StringTemplateStyle", "Template", "_logRecordFactory", "_loggerClass"]),
    ("function",
      ["_acquireLock", "_addHandlerRef", "_after_at_fork_child_reinit_locks", "_checkLevel",
        "_is_internal_frame", "_register_at_fork_reinit_lock", "_releaseLock", "_removeHandlerRef",
        "_showwarning", "addLevelName", "basicConfig", "captureWarnings", "critical",
        "currentframe", "debug", "disable", "error", "exception", "fatal", "getLevelName",
        "getLevelNamesMapping", "getLogRecordFactory", "getLogger", "getLoggerClass", "info",
        "log", "makeLogRecord", "setLogRecordFactory", "setLoggerClass", "shutdown", "warn",
        "warning"]),
    ("str",
      ["__author__", "__cached__", "__date__", "__doc__", "__file__", "__name__", "__package__",
        "__status__", "__version__", "_srcfile"]),
    ("module",
      ["atexit", "collections", "config", "handlers", "io", "os", "re", "sys", "threading", "time",
        "traceback", "warnings", "weakref"]),
    ("dict", ["_STYLES", "__builtins__", "__dict__", "_levelToName", "_nameToLevel"]),
    ("list", ["__all__", "__path__", "_handlerList"]),
    ("Formatter", ["_defaultFormatter", "_str_formatter"]),
    ("_StderrHandler", ["_defaultLastResort", "lastResort"]),
    ("RootLogger", ["root"]),
    ("WeakSet", ["_at_fork_reinit_lock_weakset"]),
    ("WeakValueDictionary", ["_handlers"]),
    ("_thread.RLock", ["_lock"]),
    ("NoneType", ["_warnings_showwarning"]),
    ("SourceFileLoader", ["__loader__"]),
    ("ModuleSpec", ["__spec__"])]

/-- What a word of the vocabulary of the log stands for. -/
def ofWord? (word : String) : Option Named :=
  let truths := ["logMultiprocessing", "logProcesses", "logThreads", "raiseExceptions"]
  match Level.ofName? word, HandlerKind.ofPath? ("logging." ++ word) with
  | some level, _ => some (.value (.integer level))
  | none, some kind => some (.handler kind)
  | none, none =>
    if word = "Formatter" then some .layout
    else if word = "Filter" then some .filter
    else if word = "BASIC_FORMAT" then
      some (.value (.text "%(levelname)s:%(name)s:%(message)s"))
    else if truths.contains word then some (.value (.boolean true))
    else (others.find? fun (_, words) => words.contains word).map fun (kind, _) => .other kind

/-- Names outside the vocabulary of the log. -/
def elsewhere : List (String × Named) :=
  [("logging", .other "module"),
    ("sys", .other "module"),
    ("sys.maxsize", .value (.integer 9223372036854775807)),
    ("sys.stdout", .stream .standardOutput),
    ("sys.stderr", .stream .standardError),
    ("sys.__stdout__", .stream .nowhere),
    ("sys.__stderr__", .stream .nowhere),
    ("logging.Formatter.default_time_format", .value (.text "%Y-%m-%d %H:%M:%S")),
    ("logging.Formatter.default_msec_format", .value (.text "%s,%03d")),
    ("logging.handlers.DEFAULT_TCP_LOGGING_PORT", .value (.integer 9020)),
    ("logging.handlers.DEFAULT_UDP_LOGGING_PORT", .value (.integer 9021)),
    ("logging.handlers.DEFAULT_HTTP_LOGGING_PORT", .value (.integer 9022)),
    ("logging.handlers.DEFAULT_SOAP_LOGGING_PORT", .value (.integer 9023)),
    ("logging.handlers.SYSLOG_UDP_PORT", .value (.integer 514)),
    ("logging.handlers.SYSLOG_TCP_PORT", .value (.integer 514))]

/-- What a dotted name stands for. -/
def ofPath? (path : String) : Option Named :=
  match elsewhere.lookup path, HandlerKind.ofPath? path with
  | some named, _ => some named
  | none, some kind => some (.handler kind)
  | none, none =>
    match path.splitOn "." with
    | ["logging", word] => ofWord? word
    | _ => none

/-- Why a dotted name stands for nothing: the first of the names on its way that is nothing. -/
def absence (path : String) : String :=
  let missing (names : List String) (owner : Option String) : String :=
    "No module named " ++ Text.quoted (".".intercalate names) ++
      match owner with
      | some owner => "; " ++ Text.quoted owner ++ " is not a package"
      | none => ""
  match path.splitOn "." with
  | "logging" :: "handlers" :: word :: _ =>
    missing ["logging", "handlers", word] (some "logging.handlers")
  | "logging" :: word :: _ => missing ["logging", word] none
  | "sys" :: word :: _ => missing ["sys", word] (some "sys")
  | first :: _ => missing [first] none
  | [] => missing [] none

end Named

end PageGraft.Log
