/-!
# Decimal numbers

Decimal digits with a fraction and an exponent, as they are written in scripts, settings and options,
and the binary fraction of double precision that is nearest to them. Exponents can be of any size, so
nothing is computed from an exponent that is far out of range.
-/

namespace PageGraft.Text

/-- The number that decimal digits stand for. -/
def ofDigits (digits : List Char) : Nat :=
  digits.foldl (fun value digit => value * 10 + (digit.toNat - '0'.toNat)) 0

/-- A sign in front of a text, and the rest. -/
def splitSign : List Char → Bool × List Char
  | '-' :: rest => (true, rest)
  | '+' :: rest => (false, rest)
  | text => (false, text)

/-- Decimal digits with an optional sign in front, and nothing else. -/
def signedDigits? (text : List Char) : Option Int :=
  let (negative, digits) := splitSign text
  if digits.isEmpty || !digits.all Char.isDigit then none
  else some (if negative then -(ofDigits digits : Int) else ofDigits digits)

/-- A decimal number: its digits, and the power of ten by which their number is multiplied. -/
structure Decimal where
  digits : List Char
  exponent : Int
deriving Repr, DecidableEq

namespace Decimal

/-- Reads digits, a fraction and an exponent. There is at least one digit in front of or behind the
point. -/
def ofText? (text : List Char) : Option Decimal := do
  let whole := text.takeWhile Char.isDigit
  let (fraction, rest) :=
    match text.dropWhile Char.isDigit with
    | '.' :: rest => (rest.takeWhile Char.isDigit, rest.dropWhile Char.isDigit)
    | rest => ([], rest)
  guard (!(whole ++ fraction).isEmpty)
  let exponent ←
    match rest with
    | [] => some 0
    | mark :: rest => if mark == 'e' || mark == 'E' then signedDigits? rest else none
  return ⟨whole ++ fraction, exponent - fraction.length⟩

/-- The digits from the first one that is not zero. -/
def significant (decimal : Decimal) : List Char :=
  decimal.digits.dropWhile (· == '0')

/-- Whether the number is rounded to zero: it is at most half of 2 ^ -1074, the least positive
number. -/
def roundsToZero (decimal : Decimal) : Bool :=
  let digits := decimal.significant
  if digits.isEmpty || digits.length + decimal.exponent < -330 then true
  else if 0 ≤ decimal.exponent then false
  else ofDigits digits * Nat.pow 2 1075 ≤ Nat.pow 10 decimal.exponent.natAbs

/-- The nearest number of double precision. -/
def toFloat (decimal : Decimal) : Float :=
  let digits := decimal.significant
  if digits.isEmpty || digits.length + decimal.exponent < -330 then 0
  else if 310 < digits.length + decimal.exponent then 1 / 0
  else Float.ofScientific (ofDigits digits) (decimal.exponent < 0) decimal.exponent.natAbs

end Decimal

end PageGraft.Text
