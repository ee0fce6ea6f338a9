import PageGraft.File.Store
import PageGraft.Log.Reference
import PageGraft.Yaml.Fault

/-!
# Problems of log settings

Why the settings of the log cannot be found, read or applied.
-/

namespace PageGraft.Log

open PageGraft.Data PageGraft.Text

/-- The first ones are about the file, the next about a level that is asked for, the others about what
the settings say. The name of a part is given as it stands in the message. -/
inductive Problem where
  | missing (path : String)
  | unreachable (obstacle : File.Obstacle) (path : String)
  | unparsable (path : String)
  | unreadable (path reason : String)
  | notMapping (path : String)
  | notPath
  | undecodable (error : DecodeError)
  | faulty (fault : Yaml.Fault)
  | invalidLevel (word : String)
  | notAssignable (kind : String)
  | listPlace
  | noParts (kind : String)
  | unordered (left right : String)
  | reference (fault : ReferenceFault)
  | writing (fault : WriteFault)
  | noVersion
  | unsupportedVersion (version : String)
  | notIterable (kind : String)
  | formatter (name : String)
  | filter (name : String)
  | handler (name : String)
  | unknownHandler (name : String)
  | logger (name : String)
  | root
deriving Repr

namespace Problem

def message : Problem → String
  | missing path => s!"No logging configuration found. Expected at: {path}"
  | unreachable obstacle path => obstacle.message path
  | unparsable path => s!"Failed to parse YAML config {path}"
  | unreadable path reason => s!"Failed to read config file {path}: {reason}"
  | notMapping path => s!"Invalid configuration format in {path}"
  | notPath => File.OpenError.notPath.message
  | undecodable error => error.message
  | faulty fault => fault.message
  | invalidLevel word => s!"Invalid log level: {word}"
  | notAssignable kind => s!"'{kind}' object does not support item assignment"
  | listPlace => "list indices must be integers or slices, not str"
  | noParts kind => s!"'{kind}' object has no attribute 'values'"
  | unordered left right => s!"'<' not supported between instances of '{left}' and '{right}'"
  | reference fault => fault.message
  | writing fault => fault.message
  | noVersion => "dictionary doesn't specify a version"
  | unsupportedVersion version => s!"Unsupported version: {version}"
  | notIterable kind => s!"'{kind}' object is not iterable"
  | formatter name => s!"Unable to configure formatter {name}"
  | filter name => s!"Unable to configure filter {name}"
  | handler name => s!"Unable to configure handler {name}"
  | unknownHandler name => s!"No handler found with name {name}"
  | logger name => s!"Unable to configure logger {name}"
  | root => "Unable to configure root logger"

/-- The problem that a fault of the document in a file makes. -/
def ofFault (path : String) : Yaml.Fault → Problem
  | .undecodable error => undecodable error
  | fault =>
    match fault.kind with
    | .format => unparsable path
    | .system => unreadable path fault.message
    | .value | .type | .key | .module | .other => faulty fault

/-- Whether setting up the log goes on after the problem. Any other problem ends the program. -/
def isForeseen : Problem → Bool
  | unreachable _ _ | noParts _ | writing .writesNothing => false
  | faulty fault => fault.kind ≠ .other
  | reference (.outOfRange _) | reference .endless => false
  | _ => true

end Problem

end PageGraft.Log
