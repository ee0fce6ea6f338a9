import PageGraft.Data.Display
import PageGraft.Data.MomentForm
import PageGraft.Log.Level

/-!
# Records

What a handler gets to write: an entry of the log with the time at which it is written. A layout shows
the fields of a record by their names.
-/

namespace PageGraft.Log

open PageGraft.Data

/-- What a field holds: a value, or something else that is always shown in the same way. -/
inductive Content where
  | value (value : Value)
  | shown (text : String)
deriving Repr

namespace Content

def text (content : String) : Content :=
  .value (.text content)

def display : Content → String
  | .value held => held.display
  | .shown text => text

def quoted : Content → String
  | .value held => held.quoted
  | .shown text => text

end Content

/-- An entry to write. The message is made of a template and arguments. -/
structure Record where
  name : String
  level : Level
  message : String
  template : String := message
  arguments : Content := .value (.tuple [])
deriving Repr

namespace Record

/-- The last part of a dotted name. -/
def lastName (name : String) : String :=
  (name.splitOn ".").getLast?.getD name

/-- A time in the form of a layout; without a form it is shown with its thousandths. -/
def timeText (time : Moment) (form : Option String) : String :=
  match form with
  | some form => String.ofList (time.written form.toList)
  | none =>
    let thousandths := (time.clock.map (·.microsecond / 1000)).getD 0
    String.ofList (time.written "%Y-%m-%d %H:%M:%S".toList) ++ "," ++ zeroFilled 3 thousandths

/-- The field of a name, with the time in a form. -/
def field? (record : Record) (time : Moment) (form : Option String) (name : String) :
    Option Content :=
  match name with
  | "name" => some (.text record.name)
  | "levelname" => some (.text record.level.name)
  | "levelno" => some (.value (.integer record.level))
  | "message" => some (.text record.message)
  | "msg" => some (.text record.template)
  | "args" => some record.arguments
  | "asctime" => some (.text (timeText time form))
  | "module" => some (.text (lastName record.name))
  | "threadName" => some (.text "MainThread")
  | "processName" => some (.text "MainProcess")
  | "exc_info" | "exc_text" | "stack_info" => some (.value .null)
  | _ => none

/-- Fields that say where and when an entry was made, of which nothing is known. -/
def unknownFields : List String :=
  ["created", "filename", "funcName", "lineno", "msecs", "pathname", "process",
    "relativeCreated", "thread"]

end Record

end PageGraft.Log
