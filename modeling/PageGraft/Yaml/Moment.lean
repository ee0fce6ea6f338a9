import PageGraft.Data.Moment
import PageGraft.Text.Decimal

/-!
# Dates and times

Which scalars are written as a date or a time, and which of these exist.
-/

namespace PageGraft.Yaml

open PageGraft.Data PageGraft.Text

namespace Moment

/-- Reads a moment piece by piece. -/
abbrev Reader := StateT (List Char) Option

/-- Some digits, at least and at most so many. -/
def digits (least most : Nat) : Reader Nat := do
  let taken := ((← get).take most).takeWhile Char.isDigit
  guard (least ≤ taken.length)
  modify (List.drop taken.length)
  return ofDigits taken

def character (expected : Char) : Reader Unit := do
  guard ((← get).head? == some expected)
  modify List.tail

/-- Passes spaces and tabs, and tells whether there were any. -/
def blanks : Reader Bool := do
  let text ← get
  let rest := text.dropWhile fun c => c == ' ' || c == '\t'
  set rest
  return rest.length < text.length

/-- The distance from universal time in minutes, if it is given, perhaps after blanks. -/
def zoneOffset : Reader (Option Int) := do
  if (← get).isEmpty then return none
  let _ ← blanks
  match ← get with
  | 'Z' :: rest =>
    set rest
    return some 0
  | sign :: rest =>
    guard (sign == '-' || sign == '+')
    set rest
    let hours ← digits 1 2
    let minutes ← (do
      if (← get).isEmpty then return 0
      else
        character ':'
        digits 2 2)
    let distance : Int := hours * 60 + minutes
    return some (if sign == '-' then -distance else distance)
  | [] => failure

/-- Decimal places of a second as millionths, of which there are six places. -/
def microseconds : Reader Nat := do
  match ← get with
  | '.' :: rest =>
    let places := rest.takeWhile Char.isDigit
    set (rest.drop places.length)
    return ofDigits ((places ++ List.replicate 6 '0').take 6)
  | _ => return 0

def timeOfDay : Reader Clock := do
  let hour ← digits 1 2
  character ':'
  let minute ← digits 2 2
  character ':'
  let second ← digits 2 2
  let microsecond ← microseconds
  let zone ← zoneOffset
  guard (← get).isEmpty
  return { hour, minute, second, microsecond, zone }

/-- A date, or a date with a time. Where month and day have one digit, a date of its own is not found in
plain scalars. -/
def reader (isPlain : Bool) (text : List Char) : Reader Moment := do
  let year ← digits 4 4
  character '-'
  let month ← digits 1 2
  character '-'
  let day ← digits 1 2
  if (← get).isEmpty then
    guard (!isPlain || text.length = 10)
    return { year, month, day }
  else
    match ← get with
    | 'T' :: rest => set rest
    | 't' :: rest => set rest
    | _ => guard (← blanks)
    return { year, month, day, clock := some (← timeOfDay) }

/-- The moment that a plain scalar means. -/
def ofPlain? (text : List Char) : Option Moment :=
  ((reader true text).run text).map (·.1)

/-- The moment that a scalar means which is said to be one. It may end with a newline. -/
def ofText? (text : List Char) : Option Moment :=
  let text := if text.getLast? = some '\n' then text.dropLast else text
  ((reader false text).run text).map (·.1)

def isLeapYear (year : Nat) : Bool :=
  year % 4 = 0 && (year % 100 ≠ 0 || year % 400 = 0)

def daysInMonth (year month : Nat) : Nat :=
  if month = 2 then (if isLeapYear year then 29 else 28)
  else if [4, 6, 9, 11].contains month then 30
  else 31

/-- What is wrong with a day that does not exist. -/
def dayProblem? (moment : Moment) : Option String :=
  if moment.year = 0 then some "year 0 is out of range"
  else if moment.month = 0 || 12 < moment.month then some "month must be in 1..12"
  else if moment.day = 0 || daysInMonth moment.year moment.month < moment.day then
    some "day is out of range for month"
  else none

/-- What is wrong with a time of the day that does not exist. -/
def clockProblem? (clock : Clock) : Option String :=
  if 23 < clock.hour then some "hour must be in 0..23"
  else if 59 < clock.minute then some "minute must be in 0..59"
  else if 59 < clock.second then some "second must be in 0..59"
  else none

/-- What is wrong with a distance from universal time of a day or more. -/
def zoneProblem? (clock : Clock) : Option String :=
  clock.zone.bind fun minutes =>
    if minutes.natAbs < 1440 then none
    else some ("offset must be a timedelta strictly between -timedelta(hours=24) and " ++
      s!"timedelta(hours=24), not {displaySpan minutes}.")

/-- What is wrong with a moment that does not exist. -/
def problem? (moment : Moment) : Option String :=
  moment.clock.bind zoneProblem? <|> dayProblem? moment <|> moment.clock.bind clockProblem?

end Moment

end PageGraft.Yaml
