import PageGraft.Text.Character
import PageGraft.Text.Decimal

/-!
# Numerals

Reading whole numbers in some base, and numbers with a point, with white space around them. The
digits of all scripts that count in tens are read.
-/

namespace PageGraft.Text

/-- The zeros of Unicode 15; nine digits follow each. -/
def zeros : List Nat := [
    48, 1632, 1776, 1984, 2406, 2534, 2662, 2790, 2918, 3046, 3174, 3302, 3430, 3558, 3664, 3792,
    3872, 4160, 4240, 6112, 6160, 6470, 6608, 6784, 6800, 6992, 7088, 7232, 7248, 42528, 43216,
    43264, 43472, 43504, 43600, 44016, 65296, 66720, 68912, 69734, 69872, 69942, 70096, 70384,
    70736, 70864, 71248, 71360, 71472, 71904, 72016, 72784, 73040, 73120, 73552, 92768, 92864,
    93008, 120782, 120792, 120802, 120812, 120822, 123200, 123632, 124144, 125264, 130032]

/-- The ASCII digit of the same value for a digit of any script; other characters stay. -/
def plainDigit (character : Char) : Char :=
  let code := character.toNat
  match zeros.find? fun first => first ≤ code && code < first + 10 with
  | some first => Char.ofNat ('0'.toNat + (code - first))
  | none => character

/-- White space of ASCII without the controls from FS to US. -/
def isPlainSpace (character : Char) : Bool :=
  character == ' ' || (9 ≤ character.toNat && character.toNat ≤ 13)

/-- A numeral in ASCII digits without white space around it. In a text with other characters than
ASCII all white space counts. -/
def bareNumeral (text : List Char) : List Char :=
  let isAscii := text.all fun character => character.toNat < 128
  let isGap := if isAscii then isPlainSpace else isSpace
  (((text.dropWhile isGap).reverse.dropWhile isGap).reverse).map plainDigit

/-- The value of a digit in bases up to thirty-six. -/
def digitValue? (character : Char) : Option Nat :=
  if character.isDigit then some (character.toNat - '0'.toNat)
  else if 'a' ≤ character && character ≤ 'z' then some (character.toNat - 'a'.toNat + 10)
  else if 'A' ≤ character && character ≤ 'Z' then some (character.toNat - 'A'.toNat + 10)
  else none

/-- The number that digits of a base stand for, if all of them are digits of it. -/
def ofBase? (base : Nat) (digits : List Char) : Option Nat :=
  digits.foldlM (fun number digit => do
    let value ← digitValue? digit
    guard (value < base)
    return number * base + value) 0

/-- The letter that can follow a zero in front of the digits of a base. -/
def baseLetter? : Nat → Option Char
  | 2 => some 'b'
  | 8 => some 'o'
  | 16 => some 'x'
  | _ => none

/-- The digits of a numeral without the sign of its base. -/
def dropBaseSign (base : Nat) (digits : List Char) : List Char :=
  match digits with
  | '0' :: letter :: rest => if baseLetter? base = some letter.toLower then rest else digits
  | _ => digits

/-- How many digits a numeral can have, unless its base is a power of two. -/
def digitLimit : Nat := 4300

/-- The number of digits of a numeral that has more than are read. -/
def excessDigits? (base : Nat) (text : List Char) : Option Nat :=
  let count := ((splitSign (bareNumeral text)).2.takeWhile Char.isDigit).length
  if base = 10 && digitLimit < count then some count else none

/-- The whole number that a text writes in a base. -/
def integerOfBase? (base : Nat) (text : List Char) : Option Int := do
  let (negative, body) := splitSign (bareNumeral text)
  let digits := dropBaseSign base body
  guard (!digits.isEmpty)
  let magnitude ← ofBase? base digits
  return if negative then -(magnitude : Int) else magnitude

/-- The number that a text writes; infinity and what is no number have words. -/
def numberOfText? (text : List Char) : Option Float := do
  let (negative, body) := splitSign (bareNumeral text)
  let magnitude ←
    match String.ofList (body.map Char.toLower) with
    | "inf" | "infinity" => some (1 / 0)
    | "nan" => some (0 / 0)
    | _ => (Decimal.ofText? body).map Decimal.toFloat
  return if negative then -magnitude else magnitude

/-! ## Numerals with underscores -/

/-- White space around a numeral: no control character from FS to US. -/
def isNumberSpace (character : Char) : Bool :=
  isSpace character && !(0x1C ≤ character.toNat && character.toNat ≤ 0x1F)

/-- A numeral without underscores, none of which may stand at its ends or beside another. -/
def dropUnderscores? (text : List Char) : Option (List Char) :=
  let hasPair := (text.zip text.tail).any fun (left, right) => left == '_' && right == '_'
  if text.head? == some '_' || text.getLast? == some '_' || hasPair then none
  else some (text.filter (· ≠ '_'))

end PageGraft.Text
