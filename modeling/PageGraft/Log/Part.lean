import PageGraft.File.Store
import PageGraft.Log.Reference

/-!
# Parts of log settings

What the settings say about one layout, filter or handler. A part that asks for something else than
there is, or has keys of its own, describes nothing.
-/

namespace PageGraft.Log

open PageGraft.Data

/-- A part of the settings, in which values are read as what they stand for. -/
structure Part where
  scope : Scope
  entries : List (Value × Value)
deriving Repr

namespace Part

/-- What a key stands for, if it is there and does not fail. -/
def get? (part : Part) (key : String) : Option (Option Named) :=
  (part.scope.read? part.entries key).toOption

/-- What a key stands for, if it counts as true. -/
def getTrue? (part : Part) (key : String) : Option (Option Named) := do
  return (← part.get? key).filter (·.isTrue)

def has (part : Part) (key : String) : Bool :=
  (Value.get? part.entries key).isSome

/-- The part without some keys. -/
def without (part : Part) (keys : List String) : Part :=
  { part with
    entries := part.entries.filter fun (key, _) =>
      !keys.any fun other => Value.sameKey key (.text other) }

/-- Whether the part has all of some keys, and no others than these and some more. -/
def hasKeys (part : Part) (required optional : List String) : Bool :=
  required.all part.has && part.entries.all fun
    | (.text key, _) => required.contains key || optional.contains key
    | _ => false

/-- The part that a value stands for. -/
def ofNamed? (scope : Scope) (named : Named) : Option Part :=
  named.entries?.map fun entries => { scope, entries }

/-- The properties that are set at the end, by their names. -/
def properties? (part : Part) : Option (List (String × Value)) := do
  match ← part.getTrue? "." with
  | none => return []
  | some named =>
    (← named.entries?).mapM fun (key, value) =>
      match key with
      | .text name => some (name, value)
      | _ => none

end Part

/-! ## Layouts and filters -/

/-- The layout of a text, which may be missing. A text that is none can never be written. -/
def layoutOf? (text form style : Option Named) (isChecked : Bool) (defaults : Option Named) :
    Option Layout := do
  let style ←
    match style with
    | none => some LayoutStyle.percent
    | some named => named.text?.bind LayoutStyle.ofMark?
  let timeForm := (form.filter (·.isTrue)).bind Named.text?
  let defaults := (defaults.bind Named.entries?).getD []
  match text.filter (·.isTrue) with
  | none => return { style, timeForm, defaults }
  | some named =>
    match named.text? with
    | some text =>
      guard (!isChecked || style.accepts text.toList)
      return { style, text, timeForm, defaults }
    | none =>
      guard (!isChecked)
      return { text := "%" }

/-- Whether a value is, or names, a certain thing. -/
def isNamed (named : Named) (isWanted : Named → Bool) : Bool :=
  isWanted named || (named.text?.bind Named.ofPath?).any isWanted

/-- The layout that a part describes. -/
def Part.layout? (part : Part) : Option Layout := do
  let form ← part.get? "datefmt"
  let style ← part.get? "style"
  let isChecked := ((← part.get? "validate").map (·.isTrue)).getD true
  let defaults ← part.get? "defaults"
  match ← part.get? "()" with
  | some factory =>
    guard (isNamed factory (· matches .layout))
    let own := part.without ["()", "."]
    guard (own.hasKeys [] ["format", "fmt", "datefmt", "style", "validate", "defaults"])
    let _ ← part.properties?
    let text ← part.get? (if part.has "format" then "format" else "fmt")
    layoutOf? text form style isChecked defaults
  | none =>
    match ← part.getTrue? "class" with
    | none => pure ()
    | some kind => guard ((kind.text?.bind Named.ofPath?).any (· matches .layout))
    layoutOf? (← part.get? "format") form style isChecked none

/-- The name that a part lets through. -/
def Part.filter? (part : Part) : Option String := do
  match ← part.get? "()" with
  | some factory =>
    guard (isNamed factory (· matches .filter))
    guard ((part.without ["()", "."]).hasKeys [] ["name"])
    let _ ← part.properties?
  | none => pure ()
  match ← part.get? "name" with
  | none => return ""
  | some (.value (.text name)) => return name
  | some (.value (.list [])) | some (.value (.mapping [])) | some (.value (.set [])) => return ""
  | some _ => none

/-! ## Levels and names -/

/-- The threshold that a value means. -/
def Named.threshold? : Named → Option Threshold
  | value (.integer level) => some { level }
  | value (.boolean truth) => some (.ofTruth truth)
  | value (.text name) => (Level.ofName? name).map fun level => { level }
  | _ => none

/-- What a value yields when it is gone through: the keys of a mapping, the items of a collection,
the characters of a text. -/
def elements? : Value → Option (List Value)
  | .mapping entries => some (entries.map (·.1))
  | .list items | .set items | .tuple items => some items
  | .text text => some (text.toList.map fun character => .text character.toString)
  | .bytes octets => some (octets.map fun octet => .integer (Int.ofNat octet))
  | _ => none

/-- The value that a name has. -/
def lookup? {α : Type} (entries : List (Value × α)) (name : Value) : Option α :=
  (entries.find? fun (other, _) => Value.sameKey other name).map (·.2)

/-- The values of all names that a part gives under a key; without the key there are none. -/
def Part.named? {α : Type} (part : Part) (entries : List (Value × α)) (key : String) :
    Option (List α) := do
  match ← part.getTrue? key with
  | none => return []
  | some named => (← elements? (← named.value?)).mapM (lookup? entries)

/-! ## Files -/

/-- Whether letters are a way of opening a file: one letter for what is done, and at most one each
for more. -/
def isFileMode (mode : String) : Bool :=
  let count (letters : String) : Nat := (mode.toList.filter letters.toList.contains).length
  mode.toList.all "rwaxbt+".toList.contains && count "rwax" = 1 && count "bt" ≤ 1 && count "+" ≤ 1

/-- The names of encodings that agree on ASCII, without the signs between their words. -/
def encodings : List String :=
  ["utf8", "utf8sig", "u8", "utf", "cp65001", "ascii", "usascii", "646", "latin1", "latin",
    "iso88591", "88591", "l1", "cp819", "cp1252", "windows1252", "locale"]

def isEncoding (name : String) : Bool :=
  let plain := (name.toList.filter fun character => !"-_ ".toList.contains character).map Char.toLower
  encodings.contains (String.ofList plain)

/-- Whether a file can be opened for writing, or for reading. -/
def canOpen (files : File.Store) (path mode : String) : Bool :=
  let location := File.Path.ofText path
  isFileMode mode && !path.toList.contains '\x00' &&
    if mode.toList.contains 'r' then files.isFile location
    else if mode.toList.contains 'x' then files.canCreate location && !files.isFile location
    else files.canCreate location

/-! ## Handlers -/

/-- A handler that a part describes, and what is written when it is made. -/
structure Made where
  handler : Handler
  outputs : List Output := []
deriving Repr

/-- What comes of a part that describes a handler. It may have to wait for another. -/
inductive Making where
  | made (made : Made)
  | waits
  | fails
deriving Repr

namespace HandlerKind

/-- The keys that a kind has to have, and those that it can have. -/
def keys : HandlerKind → List String × List String
  | plain | standardError | null => ([], [])
  | stream => ([], ["stream"])
  | file | watchedFile => (["filename"], ["mode", "encoding", "delay", "errors"])
  | rotatingFile =>
    (["filename"], ["mode", "maxBytes", "backupCount", "encoding", "delay", "errors"])
  | timedRotatingFile =>
    (["filename"],
      ["when", "interval", "backupCount", "encoding", "delay", "utc", "atTime", "errors"])
  | buffering => (["capacity"], [])
  | memory => (["capacity"], ["flushLevel", "target", "flushOnClose"])
  | queue => (["queue"], [])
  | socket | datagram => (["host", "port"], [])
  | systemLog => ([], ["address", "facility", "socktype"])
  | mail =>
    (["mailhost", "fromaddr", "toaddrs", "subject"], ["credentials", "secure", "timeout"])
  | web => (["host", "url"], ["method", "secure", "credentials", "context"])
  | eventLog => (["appname"], ["dllname", "logtype"])

end HandlerKind

namespace Part

/-- Whether a key is missing or nothing, or a text that is good. -/
def isTextOr (part : Part) (key : String) (isGood : String → Bool) : Option Bool := do
  match ← part.get? key with
  | none | some (.value .null) => return true
  | some named => return named.text?.any isGood

/-- Whether a key is missing or a number. -/
def isNumberOr (part : Part) (key : String) : Option Bool := do
  match ← part.get? key with
  | none => return true
  | some named => return (named.value?.bind fun value => (Content.value value).number?).isSome

/-- The bound that a key gives; a number between two whole ones is rounded up. -/
def bound? (part : Part) (key : String) (default : Bound) : Option Bound := do
  match ← part.get? key with
  | none => return default
  | some named =>
    match named.value?.bind fun value => (Content.value value).number? with
    | none => return .unordered named.kindName
    | some number =>
      let isExact := match number with
        | .whole _ => true
        | .real value => value.ceil == value
      return (number.toWhole?).elim .never fun whole =>
        .number (if isExact || number.isNegative then whole else whole + 1)

/-- A file to write to, which is opened at once unless that is put off. -/
def file? (part : Part) (files : File.Store) : Option Made := do
  let path ← (← (← part.get? "filename")).text?
  let mode ←
    match ← part.get? "mode" with
    | none => some "a"
    | some named => named.text?
  let isLate := ((← part.get? "delay").map (·.isTrue)).getD false
  let isBinary := mode.toList.contains 'b'
  guard (← part.isTextOr "encoding" fun name => isLate || (isEncoding name && !isBinary))
  guard (← part.isTextOr "errors" fun _ => isLate || !isBinary)
  guard (isLate || canOpen files path mode)
  let isWritten := !isBinary && !mode.toList.contains 'r'
  let target := if isWritten then Target.file path else .nowhere
  return { handler := { target }
           outputs := if isLate || !isWritten then []
             else [{ target, text := "", replaces := mode.toList.contains 'w' }] }

/-- Whether a key is missing, or a list of two or no list at all. -/
def isPairOr (part : Part) (key : String) : Option Bool := do
  match ← part.get? key with
  | some (.value (.list items)) => return items.length = 2
  | _ => return true

/-- Whether the time between two files is given well: by a unit, or by a day of the week. -/
def hasTurn (part : Part) : Option Bool := do
  match ← part.get? "when" with
  | none => return true
  | some named =>
    let word := (← named.text?).toList.map Char.toUpper
    let days := ["W0", "W1", "W2", "W3", "W4", "W5", "W6"]
    return (["S", "M", "H", "D", "MIDNIGHT"] ++ days).contains (String.ofList word)

/-- Whether the address of a log of the system can be looked up without asking anyone. -/
def hasAddress (part : Part) : Option Bool := do
  let isNear (host : String) : Bool :=
    host = "localhost" || host = "" ||
      host.toList.all fun character => character.isDigit || character = '.' || character = ':'
  let isStream := (← part.get? "socktype").any fun
    | .value (.integer kind) => kind = 1
    | .value (.boolean kind) => kind
    | _ => false
  match ← part.get? "address" with
  | none => return !isStream
  | some (.value (.list [.text host, .integer _])) => return isNear host && !isStream
  | some (.value (.text _)) => return true
  | some _ => return false

/-- The place of another handler, which may still have to be made. Nothing is given if there is no
such handler. -/
def place? (part : Part) (handlers : List (Value × Nat)) (name : Value) : Option (Option Nat) :=
  match lookup? handlers name with
  | some place => some (some place)
  | none => do
    let section_ ← (part.scope.read? part.scope.settings "handlers").toOption
    let _ ← lookup? (← (← section_).entries?) name
    return none

/-- What is behind a handler of a kind. -/
def makingOf (part : Part) (files : File.Store) (handlers : List (Value × Nat))
    (kind : HandlerKind) : Option Making := do
  let silent : Making := .made { handler := { target := .nowhere } }
  match kind with
  | .plain | .null | .queue | .socket | .datagram | .eventLog => return silent
  | .standardError => return .made { handler := {} }
  | .stream =>
    let target ←
      match ← part.get? "stream" with
      | none | some (.value .null) => some Target.standardError
      | some (.stream target) => some target
      | some _ => some .nowhere
    return .made { handler := { target } }
  | .buffering =>
    let capacity ← part.bound? "capacity" .never
    return .made { handler := { target := .nowhere, backlog := some { capacity } } }
  | .file | .watchedFile => return .made (← part.file? files)
  | .rotatingFile =>
    guard (← part.isNumberOr "maxBytes")
    return .made (← part.file? files)
  | .timedRotatingFile =>
    guard (← part.hasTurn)
    guard (← part.isNumberOr "interval")
    return .made (← part.file? files)
  | .memory =>
    let receiver ←
      match ← part.get? "target" with
      | none => some (some none)
      | some target => (part.place? handlers (← target.value?)).map (·.map some)
    match receiver with
    | none => return .waits
    | some receiver =>
      let capacity ← part.bound? "capacity" .never
      let threshold ← part.bound? "flushLevel" (.number Level.error)
      let isGivenAtEnd := ((← part.get? "flushOnClose").map (·.isTrue)).getD true
      let backlog := { receiver, capacity, threshold, isGivenAtEnd }
      return .made { handler := { target := .nowhere, backlog := some backlog } }
  | .systemLog =>
    guard (← part.hasAddress)
    return silent
  | .mail =>
    guard (← part.isPairOr "mailhost")
    guard (← part.isPairOr "credentials")
    return silent
  | .web =>
    guard (← part.isTextOr "method" fun method =>
      ["GET", "POST"].contains (String.ofList (method.toList.map Char.toUpper)))
    let isSecure := ((← part.get? "secure").map (·.isTrue)).getD false
    let context ← part.get? "context"
    guard (isSecure || context.all (· matches .value .null))
    return silent

/-- Sets a property of a handler. Those that do not matter are not kept. -/
def setProperty (handler : Handler) : String × Value → Handler
  | ("terminator", .text terminator) => { handler with terminator }
  | ("level", .integer level) => { handler with threshold := { level } }
  | _ => handler

/-- What a part describes as a handler, with the layouts, filters and handlers that are there. -/
def making? (part : Part) (files : File.Store) (layouts : List (Value × Layout))
    (filters : List (Value × String)) (handlers : List (Value × Nat)) : Option Making := do
  let layout ←
    match ← part.getTrue? "formatter" with
    | none => some Layout.bare
    | some named => lookup? layouts (← named.value?)
  let level ← part.get? "level"
  let own := part.without ["formatter", "level", "filters", "."]
  let (named, own) ←
    match ← part.get? "()" with
    | some (.handler kind) => some (some (Named.handler kind), own.without ["()"])
    | some factory => some (factory.text?.bind Named.ofPath?, own.without ["()"])
    | none => (← part.get? "class").map fun kind =>
      (kind.text?.bind Named.ofPath?, own.without ["class"])
  let kind ←
    match named with
    | some (.handler kind) => some kind
    | _ => none
  match ← own.makingOf files handlers kind with
  | .made made =>
    guard (own.hasKeys kind.keys.1 kind.keys.2)
    let threshold ←
      match level with
      | none | some (.value .null) => some {}
      | some named => named.threshold?
    let filters ← part.named? filters "filters"
    let handler := { made.handler with kind, threshold, layout, filters }
    return .made { made with handler := (← part.properties?).foldl setProperty handler }
  | making => return making

end Part

end PageGraft.Log
