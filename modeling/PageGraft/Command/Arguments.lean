import PageGraft.Text.Numeral
import PageGraft.Text.Trim

/-!
# Command line arguments

Options begin with a hyphen and can stand anywhere; the value of an option is the next argument, or
follows an equals sign. After two hyphens all arguments are files. The last value of an option
counts.
-/

namespace PageGraft.Command

open PageGraft.Text

/-- Why arguments cannot be understood. -/
inductive UsageError where
  | unknownOption (option : String)
  | valueMissing (option : String)
  | valueUnwanted (option : String)
  | notNumber (option value : String)
  | tooSmall (option value : String)
  | unexpectedArgument (argument : String)
deriving Repr, DecidableEq

def UsageError.message : UsageError → String
  | .unknownOption option => s!"No such option: {option}"
  | .valueMissing option => s!"Option {option} requires an argument."
  | .valueUnwanted option => s!"Option {option} does not take a value."
  | .notNumber option value => s!"Invalid value for {option}: {value} is not a number."
  | .tooSmall option value => s!"Invalid value for {option}: {value} is too small."
  | .unexpectedArgument argument => s!"Got unexpected extra argument ({argument})"

/-- Arguments taken apart, before the values are looked at. -/
structure Arguments where
  files : List String := []
  values : List (String × String) := []
  wantsHelp : Bool := false
deriving Repr, DecidableEq

namespace Arguments

def addFile (arguments : Arguments) (file : String) : Arguments :=
  { arguments with files := arguments.files ++ [file] }

/-- Sets the value of an option; an earlier value does not count any more. -/
def addValue (arguments : Arguments) (option value : String) : Arguments :=
  { arguments with values := (option, value) :: arguments.values }

/-- An option, and the value that is written behind its equals sign. -/
def splitOption (argument : String) : String × Option String :=
  let option := argument.toList.takeWhile (· ≠ '=')
  match argument.toList.drop option.length with
  | [] => (argument, none)
  | _ :: value => (String.ofList option, some (String.ofList value))

def isOption (argument : String) : Bool :=
  match argument.toList with
  | '-' :: _ :: _ => true
  | _ => false

/-- Takes arguments apart, for the options that have a value. -/
def split (valued : List String) : List String → Arguments → Except UsageError Arguments
  | [], arguments => .ok arguments
  | argument :: rest, arguments =>
    let (option, given) := splitOption argument
    if argument = "--" then .ok (rest.foldl addFile arguments)
    else if !isOption argument then split valued rest (arguments.addFile argument)
    else if option = "--help" then
      if given.isSome then .error (.valueUnwanted option)
      else split valued rest { arguments with wantsHelp := true }
    else if !valued.contains option then .error (.unknownOption option)
    else
      match given, rest with
      | some value, rest => split valued rest (arguments.addValue option value)
      | none, value :: rest => split valued rest (arguments.addValue option value)
      | none, [] => .error (.valueMissing option)

end Arguments

/-! ## Numbers -/

/-- The number that a text without white space around it means. -/
def bareNumber? (text : List Char) : Option Float := do
  let (negative, magnitude) := splitSign text
  let value ←
    match String.ofList (magnitude.map Char.toLower) with
    | "inf" | "infinity" => some (1.0 / 0.0)
    | "nan" => some (0.0 / 0.0)
    | _ => (Decimal.ofText? magnitude).map Decimal.toFloat
  return if negative then -value else value

/-- The number that a text means, with white space around it, or else with underscores in it. -/
def number? (text : String) : Option Float :=
  let trimmed := dropEndWhile isNumberSpace (text.toList.dropWhile isNumberSpace)
  bareNumber? trimmed <|> (dropUnderscores? text.toList).bind bareNumber?

/-! ## The two commands -/

/-- The files that a command is given. -/
structure Files where
  source : Option String := none
  target : Option String := none
deriving Repr, DecidableEq

def Files.ofList : List String → Except UsageError Files
  | [] => .ok {}
  | [source] => .ok { source }
  | [source, target] => .ok { source, target }
  | _ :: _ :: argument :: _ => .error (.unexpectedArgument argument)

/-- What a command line asks for. -/
inductive Asked (α : Type) where
  | help
  | run (arguments : α)
deriving Repr

/-- The arguments of the command that syncs once. -/
def syncArguments (arguments : List String) : Except UsageError (Asked Files) := do
  let arguments ← Arguments.split [] arguments {}
  if arguments.wantsHelp then return .help
  return .run (← Files.ofList arguments.files)

/-- What the command that watches is given. Times are in seconds. -/
structure WatchArguments where
  files : Files := {}
  interval : Float := 0.5
  delay : Float := 1.0
deriving Repr

/-- The value of an option: a number that is not below a least value. -/
def numberOption (values : List (String × String)) (option : String) (least default : Float) :
    Except UsageError Float :=
  match values.lookup option with
  | none => .ok default
  | some text =>
    match number? text with
    | none => .error (.notNumber option text)
    | some value => if least ≤ value then .ok value else .error (.tooSmall option text)

/-- The arguments of the command that watches. -/
def watchArguments (arguments : List String) : Except UsageError (Asked WatchArguments) := do
  let arguments ← Arguments.split ["--poll-interval", "--debounce"] arguments {}
  if arguments.wantsHelp then return .help
  let interval ← numberOption arguments.values "--poll-interval" 0.05 0.5
  let delay ← numberOption arguments.values "--debounce" 0.0 1.0
  return .run { files := ← Files.ofList arguments.files, interval, delay }

/-- What is shown when help is asked for. -/
def syncHelp : String :=
  "Usage: page-sync [OPTIONS] [SOURCE] [TARGET]\n\n" ++
  "Sync extracted React functions and state into the standalone HTML page.\n\n" ++
  "Arguments:\n" ++
  "  [SOURCE]  React source file [default: ./src/app/page.js]\n" ++
  "  [TARGET]  Standalone HTML file [default: ./index.html]\n\n" ++
  "Options:\n" ++
  "  --help  Show this message and exit.\n"

/-- What is shown when help on watching is asked for. -/
def watchHelp : String :=
  "Usage: page-sync-watch [OPTIONS] [SOURCE] [TARGET]\n\n" ++
  "Watch the React source and re-sync the HTML page after every change.\n\n" ++
  "Arguments:\n" ++
  "  [SOURCE]  React source file [default: ./src/app/page.js]\n" ++
  "  [TARGET]  Standalone HTML file [default: ./index.html]\n\n" ++
  "Options:\n" ++
  "  --poll-interval FLOAT  Seconds between change checks [default: 0.5]\n" ++
  "  --debounce FLOAT       Quiet period before syncing, in seconds [default: 1.0]\n" ++
  "  --help                 Show this message and exit.\n"

end PageGraft.Command
