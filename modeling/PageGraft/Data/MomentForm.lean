import PageGraft.Data.Moment

/-!
# Forms of dates and times

How a moment is written in a form: a text in which a percent sign and a letter stand for a part of the
moment. Names are English; a moment without a zone is in universal time.
-/

namespace PageGraft.Data.Moment

def monthNames : List String :=
  ["January", "February", "March", "April", "May", "June", "July", "August", "September",
    "October", "November", "December"]

def dayNames : List String :=
  ["Sunday", "Monday", "Tuesday", "Wednesday", "Thursday", "Friday", "Saturday"]

/-- Whether a year has a 29th of February. -/
def isLeapYear (year : Nat) : Bool :=
  year % 4 = 0 && (year % 100 ≠ 0 || year % 400 = 0)

/-- The number of the day in its year, from one. -/
def dayOfYear (moment : Moment) : Nat :=
  let lengths := [31, if isLeapYear moment.year then 29 else 28, 31, 30, 31, 30, 31, 31, 30, 31, 30]
  (lengths.take (moment.month - 1)).foldl (· + ·) moment.day

/-- The number of the day in its week, from Sunday as zero. -/
def dayOfWeek (moment : Moment) : Nat :=
  let before := moment.year - 1
  (before * 365 + before / 4 - before / 100 + before / 400 + moment.dayOfYear) % 7

/-- A number with spaces in front, up to a width of two. -/
def spaceFilled (number : Nat) : String :=
  let digits := toString number
  String.ofList (List.replicate (2 - digits.length) ' ') ++ digits

/-- The distance from universal time as hours and minutes. -/
def zoneText (clock : Clock) : String :=
  let minutes := clock.zone.getD 0
  (if minutes < 0 then "-" else "+") ++ zeroFilled 2 (minutes.natAbs / 60) ++
    zeroFilled 2 (minutes.natAbs % 60)

/-- What a letter stands for; other letters stand for nothing. -/
def part? (moment : Moment) (letter : Char) : Option String :=
  let clock := moment.clock.getD ⟨0, 0, 0, 0, none⟩
  let year := zeroFilled 4 moment.year
  let shortYear := zeroFilled 2 (moment.year % 100)
  let month := zeroFilled 2 moment.month
  let day := zeroFilled 2 moment.day
  let hour := zeroFilled 2 clock.hour
  let minute := zeroFilled 2 clock.minute
  let second := zeroFilled 2 clock.second
  let time := s!"{hour}:{minute}:{second}"
  let halfHour := (clock.hour + 11) % 12 + 1
  let half := if clock.hour < 12 then "AM" else "PM"
  let monthName := monthNames.getD (moment.month - 1) ""
  let dayName := dayNames.getD moment.dayOfWeek ""
  let short (name : String) : String := String.ofList (name.toList.take 3)
  let week (first : Nat) : String :=
    zeroFilled 2 ((moment.dayOfYear + 6 - (moment.dayOfWeek + 7 - first) % 7) / 7)
  match letter with
  | 'a' => some (short dayName)
  | 'A' => some dayName
  | 'b' | 'h' => some (short monthName)
  | 'B' => some monthName
  | 'c' => some s!"{short dayName} {short monthName} {spaceFilled moment.day} {time} {moment.year}"
  | 'C' => some (zeroFilled 2 (moment.year / 100))
  | 'd' => some day
  | 'D' | 'x' => some s!"{month}/{day}/{shortYear}"
  | 'e' => some (spaceFilled moment.day)
  | 'F' => some s!"{year}-{month}-{day}"
  | 'H' => some hour
  | 'I' => some (zeroFilled 2 halfHour)
  | 'j' => some (zeroFilled 3 moment.dayOfYear)
  | 'k' => some (spaceFilled clock.hour)
  | 'l' => some (spaceFilled halfHour)
  | 'm' => some month
  | 'M' => some minute
  | 'n' => some "\n"
  | 'p' => some half
  | 'P' => some (if clock.hour < 12 then "am" else "pm")
  | 'r' => some s!"{zeroFilled 2 halfHour}:{minute}:{second} {half}"
  | 'R' => some s!"{hour}:{minute}"
  | 'S' => some second
  | 't' => some "\t"
  | 'T' | 'X' => some time
  | 'u' => some (toString ((moment.dayOfWeek + 6) % 7 + 1))
  | 'U' => some (week 0)
  | 'w' => some (toString moment.dayOfWeek)
  | 'W' => some (week 1)
  | 'y' => some shortYear
  | 'Y' => some (toString moment.year)
  | 'z' => some (zoneText clock)
  | 'Z' => some "UTC"
  | '%' => some "%"
  | _ => none

/-- The moment in a form. A percent sign with a letter that stands for nothing stays. -/
def written (moment : Moment) : List Char → List Char
  | '%' :: letter :: rest =>
    match moment.part? letter with
    | some text => text.toList ++ written moment rest
    | none => '%' :: letter :: written moment rest
  | character :: rest => character :: written moment rest
  | [] => []

end PageGraft.Data.Moment
