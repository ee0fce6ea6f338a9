import PageGraft.Log.Layout

/-!
# Handlers

Handlers write records to a place of their kind. Each has a threshold, a layout, and filters on the
names of loggers. Some keep records back for another handler.
-/

namespace PageGraft.Log

open PageGraft.Data

/-- Where a handler writes to. -/
inductive Target where
  | standardOutput
  | standardError
  | file (path : String)
  | nowhere
deriving Repr, DecidableEq

/-- A text that is written somewhere, behind what is there or in its place. -/
structure Output where
  target : Target
  text : String
  replaces : Bool := false
deriving Repr, DecidableEq

/-- The kinds of handlers. -/
inductive HandlerKind where
  | plain
  | standardError
  | stream
  | file
  | watchedFile
  | rotatingFile
  | timedRotatingFile
  | null
  | buffering
  | memory
  | queue
  | socket
  | datagram
  | systemLog
  | mail
  | web
  | eventLog
deriving Repr, DecidableEq

namespace HandlerKind

/-- The name of a kind, and the names it goes by in settings. -/
def names : HandlerKind → String × String
  | plain => ("Handler", "logging.Handler")
  | standardError => ("_StderrHandler", "logging._StderrHandler")
  | stream => ("StreamHandler", "logging.StreamHandler")
  | file => ("FileHandler", "logging.FileHandler")
  | watchedFile => ("WatchedFileHandler", "logging.handlers.WatchedFileHandler")
  | rotatingFile => ("RotatingFileHandler", "logging.handlers.RotatingFileHandler")
  | timedRotatingFile => ("TimedRotatingFileHandler", "logging.handlers.TimedRotatingFileHandler")
  | null => ("NullHandler", "logging.NullHandler")
  | buffering => ("BufferingHandler", "logging.handlers.BufferingHandler")
  | memory => ("MemoryHandler", "logging.handlers.MemoryHandler")
  | queue => ("QueueHandler", "logging.handlers.QueueHandler")
  | socket => ("SocketHandler", "logging.handlers.SocketHandler")
  | datagram => ("DatagramHandler", "logging.handlers.DatagramHandler")
  | systemLog => ("SysLogHandler", "logging.handlers.SysLogHandler")
  | mail => ("SMTPHandler", "logging.handlers.SMTPHandler")
  | web => ("HTTPHandler", "logging.handlers.HTTPHandler")
  | eventLog => ("NTEventLogHandler", "logging.handlers.NTEventLogHandler")

def all : List HandlerKind :=
  [plain, standardError, stream, file, watchedFile, rotatingFile, timedRotatingFile, null,
    buffering, memory, queue, socket, datagram, systemLog, mail, web, eventLog]

def name (kind : HandlerKind) : String :=
  kind.names.1

/-- The kind of a dotted name. -/
def ofPath? (path : String) : Option HandlerKind :=
  all.find? fun kind => kind.names.2 = path

/-- Whether handlers of the kind write lines. -/
def writesLines (kind : HandlerKind) : Bool :=
  [standardError, stream, file, watchedFile, rotatingFile, timedRotatingFile].contains kind

end HandlerKind

/-- Why a handler cannot take a record. Other than a line that cannot be written, this is not passed
over. -/
inductive WriteFault where
  | writesNothing
  | unordered (kind : String)
deriving Repr, DecidableEq

def WriteFault.message : WriteFault → String
  | writesNothing => "emit must be implemented by Handler subclasses"
  | unordered kind => s!"'>=' not supported between instances of 'int' and '{kind}'"

/-- What numbers are held against: they reach it from some number on, or never, or cannot be compared
with it. -/
inductive Bound where
  | number (least : Int)
  | never
  | unordered (kind : String)
deriving Repr, DecidableEq

/-- Whether a number reaches a bound. -/
def Bound.isReached (bound : Bound) (reached : Int) : Except WriteFault Bool :=
  match bound with
  | number least => .ok (least ≤ reached)
  | never => .ok false
  | unordered kind => .error (.unordered kind)

/-- Records that are kept back until there are so many or one is heavy enough. Then they are given to
another handler, named by its place, if there is one. -/
structure Backlog where
  receiver : Option Nat := none
  capacity : Bound
  threshold : Bound := .never
  isGivenAtEnd : Bool := true
  records : List Record := []
deriving Repr

namespace Backlog

/-- Whether the records are given on once a record is added. -/
def isDue (backlog : Backlog) (record : Record) : Except WriteFault Bool := do
  if ← backlog.capacity.isReached (backlog.records.length + 1) then return true
  else backlog.threshold.isReached record.level

end Backlog

/-- A handler. A line ends with the terminator. -/
structure Handler where
  kind : HandlerKind := .stream
  target : Target := .standardError
  threshold : Threshold := {}
  layout : Layout := .bare
  filters : List String := []
  terminator : String := "\n"
  backlog : Option Backlog := none
deriving Repr

/-- Whether a filter lets a name through: the filter's own name, and the names below it. -/
def passes (filter name : String) : Bool :=
  filter = "" || name = filter || (filter ++ ".").toList.isPrefixOf name.toList

namespace Handler

/-- What a handler that keeps nothing back writes for a record. -/
def output? (handler : Handler) (time : Moment) (record : Record) : Option Output :=
  if handler.kind.writesLines then
    (handler.layout.line? time record).map fun line =>
      { target := handler.target, text := line ++ handler.terminator }
  else none

/-- The handler after it has given on the records that it kept back. -/
def emptied (handler : Handler) : Handler :=
  { handler with backlog := handler.backlog.map fun backlog => { backlog with records := [] } }

/-- The handler with one more record kept back. -/
def keeping (handler : Handler) (record : Record) : Handler :=
  { handler with
    backlog := handler.backlog.map fun backlog =>
      { backlog with records := backlog.records ++ [record] } }

end Handler

/-! ## Handing on -/

/-- Changes handlers, and writes on the way. -/
abbrev Writing := ExceptT WriteFault (StateM (List Handler × List Output))

/-- Gives a record to the handler at a place. A handler gives records on only to handlers in front of
it, so the fuel is the number of handlers. -/
def hand (time : Moment) : Nat → Nat → Record → Writing Unit
  | 0, _, _ => return ()
  | fuel + 1, place, record => do
    match (← get).1[place]? with
    | none => return ()
    | some handler =>
      if handler.filters.all (passes · record.name) then
        match handler.backlog with
        | none =>
          if handler.kind = .plain then throw .writesNothing
          modify fun (handlers, outputs) => (handlers, outputs ++ (handler.output? time record).toList)
        | some backlog =>
          if ← liftM (m := Except WriteFault) (backlog.isDue record) then
            modify fun (handlers, outputs) => (handlers.set place handler.emptied, outputs)
            if let some receiver := backlog.receiver then
              (backlog.records ++ [record]).forM (hand time fuel receiver)
          else
            modify fun (handlers, outputs) => (handlers.set place (handler.keeping record), outputs)

/-- Ends the handlers at some places: what they keep back is given on, if they do so at their end. -/
def endHandlers (time : Moment) (places : List Nat) : Writing Unit :=
  places.forM fun place => do
    match (← get).1[place]? with
    | none => return ()
    | some handler =>
      modify fun (handlers, outputs) => (handlers.set place { handler with backlog := none }, outputs)
      match handler.backlog with
      | none => return ()
      | some backlog =>
        if let some receiver := backlog.receiver.filter fun _ => backlog.isGivenAtEnd then
          backlog.records.forM (hand time place receiver)

end PageGraft.Log
