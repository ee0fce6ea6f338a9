/-!
# Dates and times

A day of the calendar, or a time on it. A time may be given with its distance from universal time.
-/

namespace PageGraft.Data

/-- A time of the day. `zone` is the distance from universal time in minutes. -/
structure Clock where
  hour : Nat
  minute : Nat
  second : Nat
  microsecond : Nat := 0
  zone : Option Int := none
deriving Repr, DecidableEq

/-- A day, and a time on it if there is one. -/
structure Moment where
  year : Nat
  month : Nat
  day : Nat
  clock : Option Clock := none
deriving Repr, DecidableEq

/-- A number with zeros in front, up to a width. -/
def zeroFilled (width number : Nat) : String :=
  let digits := toString number
  String.ofList (List.replicate (width - digits.length) '0') ++ digits

/-- A length of time in minutes, in full days and the seconds beyond them. -/
def displaySpan (minutes : Int) : String :=
  let days := minutes.fdiv 1440
  let seconds := minutes.fmod 1440 * 60
  let parts := (if days = 0 then [] else [s!"days={days}"]) ++
    (if seconds = 0 then [] else [s!"seconds={seconds}"])
  "datetime.timedelta(" ++ (if parts.isEmpty then "0" else ", ".intercalate parts) ++ ")"

namespace Clock

/-- The clock in the order of its parts. -/
def text (clock : Clock) : String :=
  let fraction :=
    if clock.microsecond = 0 then "" else "." ++ zeroFilled 6 clock.microsecond
  let zone := match clock.zone with
    | none => ""
    | some minutes =>
      let distance := minutes.natAbs
      (if minutes < 0 then "-" else "+") ++ zeroFilled 2 (distance / 60) ++ ":" ++
        zeroFilled 2 (distance % 60)
  zeroFilled 2 clock.hour ++ ":" ++ zeroFilled 2 clock.minute ++ ":" ++
    zeroFilled 2 clock.second ++ fraction ++ zone

/-- The numbers of the clock, without zeros at the end beyond the minute. -/
def numbers (clock : Clock) : List Nat :=
  let fine :=
    if clock.microsecond ≠ 0 then [clock.second, clock.microsecond]
    else if clock.second ≠ 0 then [clock.second]
    else []
  [clock.hour, clock.minute] ++ fine

/-- The distance from universal time as it is named in messages. -/
def displayZone (clock : Clock) : Option String :=
  clock.zone.map fun minutes =>
    if minutes = 0 then "datetime.timezone.utc"
    else "datetime.timezone(" ++ displaySpan minutes ++ ")"

end Clock

namespace Moment

def kindName (moment : Moment) : String :=
  if moment.clock.isSome then "datetime.datetime" else "datetime.date"

/-- The moment in the order of its parts. -/
def text (moment : Moment) : String :=
  let day := zeroFilled 4 moment.year ++ "-" ++ zeroFilled 2 moment.month ++ "-" ++
    zeroFilled 2 moment.day
  match moment.clock with
  | none => day
  | some clock => day ++ " " ++ clock.text

/-- The moment with the name of its kind. -/
def display (moment : Moment) : String :=
  let clock := match moment.clock with
    | none => []
    | some clock => clock.numbers
  let numbers := [moment.year, moment.month, moment.day] ++ clock
  let zone := match moment.clock.bind Clock.displayZone with
    | none => []
    | some zone => ["tzinfo=" ++ zone]
  moment.kindName ++ "(" ++ ", ".intercalate (numbers.map toString ++ zone) ++ ")"

end Moment

end PageGraft.Data
