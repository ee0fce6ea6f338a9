import PageGraft.Log.Loggers
import PageGraft.Log.Part
import PageGraft.Log.Problem

/-!
# Applying log settings

Settings name formatters, filters, handlers and loggers, and are applied in this order, the root last.
A part that cannot be applied ends the matter; what was applied before it stays.
-/

namespace PageGraft.Log

open PageGraft.Data

/-- The files that are there when settings are applied, and the time. -/
structure Occasion where
  files : File.Store
  time : Moment

/-- How far settings have been applied. -/
structure Configuration where
  scope : Scope
  loggers : Loggers
  outputs : List Output := []
deriving Repr

/-- Changes loggers, and may fail on the way. -/
abbrev Configuring := ExceptT Problem (StateM Configuration)

namespace Configure

/-! ## Reading -/

/-- What a key of the settings stands for. -/
def section? (key : String) : Configuring (Option Named) := do
  let scope := (← get).scope
  match scope.read? scope.settings key with
  | .ok named => return named
  | .error fault => throw (.reference fault)

/-- What a key of the settings stands for, if it counts as true. -/
def trueSection? (key : String) : Configuring (Option Named) := do
  return (← section? key).filter (·.isTrue)

/-- Whether the value of a key counts as true, or else the default. -/
def flag (key : String) (default : Bool) : Configuring Bool := do
  return ((← section? key).map (·.isTrue)).getD default

/-- The names in a section. -/
def namesIn (key : String) : Configuring (List Value) := do
  match ← section? key with
  | none => return []
  | some named =>
    match named.value?.bind elements? with
    | some names => return names
    | none => throw (.notIterable named.kindName)

/-- The part of a name in a section; a part that the section cannot give is none. -/
def part? (key : String) (name : Value) : Configuring (Option Part) := do
  let scope := (← get).scope
  return do
    let section_ ← (scope.read? scope.settings key).toOption
    let value ← lookup? (← (← section_).entries?) name
    Part.ofNamed? scope (← (scope.read value).toOption)

/-- The parts of a section, each read by a function; the first that cannot be read is a problem. -/
def readParts {α : Type} (key : String) (read? : Part → Option α) (problem : String → Problem) :
    Configuring (List (Value × α)) := do
  (← namesIn key).mapM fun name => do
    match (← part? key name).bind read? with
    | none => throw (problem name.quoted)
    | some value =>
      modify fun configuration => { configuration with
        scope.made := configuration.scope.made ++ [(key, name)] }
      return (name, value)

/-! ## The order of names -/

/-- Whether one name is before another. Only texts, numbers, and times of one kind have an order. -/
def isBefore (left right : Value) : Except Problem Bool :=
  let unordered : Except Problem Bool := .error (.unordered left.kindName right.kindName)
  match left, right with
  | .text left, .text right => .ok (left < right)
  | .bytes left, .bytes right => .ok (left < right)
  | .moment left, .moment right =>
    if left.kindName = right.kindName then .ok (left.text < right.text) else unordered
  | left, right =>
    match (Content.value left).number?, (Content.value right).number? with
    | some (.whole left), some (.whole right) => .ok (left < right)
    | some left, some right =>
      .ok (match left.toReal?, right.toReal? with
        | some left, some right => left < right
        | _, _ => false)
    | _, _ => unordered

/-- Where a name belongs between the names of an ordered list, by halving what is between two places.
The fuel is the length of the list. -/
def placeOf (sorted : List Value) (name : Value) : Nat → Nat → Nat → Except Problem Nat
  | 0, low, _ => .ok low
  | fuel + 1, low, high =>
    if low < high then do
      let middle := low + (high - low) / 2
      if ← isBefore name (sorted.getD middle .null) then placeOf sorted name fuel low middle
      else placeOf sorted name fuel (middle + 1) high
    else .ok low

/-- Names in their order. Names at the beginning that are in order are only compared with their
neighbours; each other name is put between those that are in order already. -/
def sortNames (names : List Value) : Except Problem (List Value) :=
  let step (state : Bool × List Value) (name : Value) : Except Problem (Bool × List Value) := do
    let (inOrder, sorted) := state
    let place (sorted : List Value) : Except Problem (Bool × List Value) := do
      let place ← placeOf sorted name sorted.length 0 sorted.length
      return (false, sorted.take place ++ name :: sorted.drop place)
    match inOrder, sorted.getLast? with
    | _, none => return (true, [name])
    | true, some last =>
      if ← isBefore name last then place sorted else return (true, sorted ++ [name])
    | false, some _ => place sorted
  (names.foldlM step (true, [])).map (·.2)

/-! ## Handlers -/

/-- Adds a handler under its name, and gives its place. A name that does not count as true is not
known later. -/
def addHandler (name : Value) (made : Made) : Configuring Nat :=
  modifyGet fun configuration =>
    let loggers := configuration.loggers
    let place := loggers.handlers.length
    let known := if name.isTrue then [(name.quoted, place)] else []
    (place, { configuration with
      scope.made := configuration.scope.made ++ [("handlers", name)]
      outputs := configuration.outputs ++ made.outputs
      loggers := { loggers with
        handlers := loggers.handlers ++ [made.handler]
        known := loggers.known ++ known } })

/-- What is made so far, by their names. -/
structure Supplies where
  layouts : List (Value × Layout)
  filters : List (Value × String)
  handlers : List (Value × Nat) := []
deriving Repr

/-- Makes the handler of a name, unless it has to wait for another; then its name is given back. -/
def makeHandler (occasion : Occasion) (supplies : Supplies) (name : Value) :
    Configuring (Supplies × List Value) := do
  let making := (← part? "handlers" name).bind fun part =>
    part.making? occasion.files supplies.layouts supplies.filters supplies.handlers
  match making with
  | some (.made made) =>
    let place ← addHandler name made
    return ({ supplies with handlers := supplies.handlers ++ [(name, place)] }, [])
  | some .waits => return (supplies, [name])
  | _ => throw (.handler name.quoted)

/-- Makes all handlers, in the order of their names; those that wait for others come last. -/
def makeHandlers (occasion : Occasion) (supplies : Supplies) : Configuring Supplies := do
  let names ← namesIn "handlers"
  let sorted ← liftM (m := Except Problem) (sortNames names)
  let (supplies, waiting) ← sorted.foldlM (fun (supplies, waiting) name => do
    let (supplies, waits) ← makeHandler occasion supplies name
    return (supplies, waiting ++ waits)) (supplies, [])
  waiting.foldlM (fun supplies name => do
    match ← makeHandler occasion supplies name with
    | (supplies, []) => return supplies
    | _ => throw (.handler name.quoted)) supplies

/-! ## Loggers -/

/-- The name of the logger that a key means. Keys that do not count as true mean the root. -/
def loggerName? (key : Value) : Option String :=
  match key with
  | .text name => some (if Loggers.isRoot name then "" else name)
  | key => if key.isTrue then none else some ""

def changeLogger (name : String) (change : Logger → Logger) : Configuring Unit :=
  modify fun configuration => { configuration with
    loggers := configuration.loggers.set name (change (configuration.loggers.get name)) }

/-- A result that has to be there. -/
def require {α : Type} (problem : Problem) : Option α → Configuring α
  | some value => return value
  | none => throw problem

/-- Sets the threshold of a logger, if the part gives one. -/
def applyLevel (problem : Problem) (name : String) (part : Part) : Configuring Unit := do
  match ← require problem (part.get? "level") with
  | none | some (.value .null) => return ()
  | some named =>
    let threshold ← require problem named.threshold?
    changeLogger name fun logger => { logger with threshold }

/-- Adds a handler to a logger that does not have it. -/
def attach (name : String) (place : Nat) : Configuring Unit :=
  changeLogger name fun logger =>
    if logger.handlers.contains place then logger
    else { logger with handlers := logger.handlers ++ [place] }

/-- Gives a logger its threshold, its handlers and its filters. -/
def applyPart (problem : Problem) (supplies : Supplies) (name : String) (part : Part) :
    Configuring Unit := do
  applyLevel problem name part
  changeLogger name fun logger => { logger with handlers := [] }
  match ← require problem (part.getTrue? "handlers") with
  | none => pure ()
  | some named =>
    let names ← require problem (named.value?.bind elements?)
    names.forM fun handler => do attach name (← require problem (lookup? supplies.handlers handler))
  let added ← require problem (part.named? supplies.filters "filters")
  changeLogger name fun logger => { logger with filters := logger.filters ++ added }

/-- Switches a logger on, and sets whether its entries go on to the loggers above. -/
def applyState (problem : Problem) (name : String) (part : Part) : Configuring Unit := do
  changeLogger name fun logger => { logger with disabled := false }
  match ← require problem (part.get? "propagate") with
  | none | some (.value .null) => return ()
  | some named => changeLogger name fun logger => { logger with propagates := named.isTrue }

/-- Applies the part of one logger. -/
def applyLogger (supplies : Supplies) (key : Value) : Configuring String := do
  let problem := Problem.logger key.quoted
  let part ← require problem (← part? "loggers" key)
  let name ← require problem (loggerName? key)
  applyPart problem supplies name part
  applyState problem name part
  return name

/-- Whether a name stands below another. -/
def isBelow (name above : String) : Bool :=
  (above ++ ".").toList.isPrefixOf name.toList

/-- What becomes of a logger that the settings do not name: below a named one it is as new but for
its filters, else it is switched off or on. -/
def settle (named : List String) (disable : Bool) (name : String) (logger : Logger) : Logger :=
  if named.contains name then logger
  else if named.any (isBelow name) then
    { logger with threshold := {}, handlers := [], propagates := true }
  else { logger with disabled := disable }

/-- The part of the root, if there is one. -/
def rootPart? : Configuring (Option Part) := do
  match ← trueSection? "root" with
  | none => return none
  | some named => return some (← require .root (Part.ofNamed? (← get).scope named))

/-! ## Settings -/

/-- Ends all handlers, the last one first; none of them is known by its name any more. -/
def endAll (occasion : Occasion) : Configuring Unit := do
  let configuration ← get
  let places := (List.range configuration.loggers.handlers.length).reverse
  let (result, loggers, outputs) := (Logging.onHandlers (endHandlers occasion.time places)).run
    ({ configuration.loggers with known := [] }, configuration.outputs)
  set { configuration with loggers, outputs }
  liftM (m := Except Problem) (result.mapError .writing)

/-- Applies settings that describe everything. -/
def applyWhole (occasion : Occasion) : Configuring Unit := do
  let disable ← flag "disable_existing_loggers" true
  endAll occasion
  let layouts ← readParts "formatters" Part.layout? .formatter
  let filters ← readParts "filters" Part.filter? .filter
  let supplies ← makeHandlers occasion { layouts, filters }
  let existing := (← get).loggers.named.map (·.1)
  let named ← (← namesIn "loggers").mapM (applyLogger supplies)
  modify fun configuration => { configuration with
    loggers.named := configuration.loggers.named.map fun (name, logger) =>
      (name, if existing.contains name then settle named disable name logger else logger) }
  match ← rootPart? with
  | none => return ()
  | some part => applyPart .root supplies "" part

/-- Changes the threshold of a handler that has a name. -/
def changeHandler (name : Value) : Configuring Unit := do
  let problem := Problem.handler name.quoted
  let place ← require (.unknownHandler name.quoted)
    ((← get).loggers.known.lookup name.quoted)
  let part ← require problem (← part? "handlers" name)
  match ← require problem (part.getTrue? "level") with
  | none => return ()
  | some named =>
    let threshold ← require problem named.threshold?
    modify fun configuration => { configuration with
      loggers.handlers := configuration.loggers.handlers.modify place fun handler =>
        { handler with threshold } }

/-- Applies settings that change thresholds only. -/
def applyChange : Configuring Unit := do
  (← namesIn "handlers").forM changeHandler
  (← namesIn "loggers").forM fun key => do
    let problem := Problem.logger key.quoted
    let part ← require problem (← part? "loggers" key)
    let name ← require problem (loggerName? key)
    applyLevel problem name part
    applyState problem name part
  match ← rootPart? with
  | none => return ()
  | some part => applyLevel .root "" part

def isVersionOne : Named → Bool
  | .value (.integer version) => version = 1
  | .value (.boolean version) => version
  | .value (.number version) => version == 1
  | _ => false

/-- Applies settings. -/
def apply (occasion : Occasion) : Configuring Unit := do
  let version ← require .noVersion (← section? "version")
  if !isVersionOne version then
    throw (.unsupportedVersion ((version.value?.map (·.display)).getD version.kindName))
  if ← flag "incremental" false then applyChange
  else applyWhole occasion

end Configure

end PageGraft.Log
