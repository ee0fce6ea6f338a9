import PageGraft.Text.Shortest

/-!
# Numbers in figures

Numbers with a given number of decimal places, or with a given number of digits in front of a power of
ten. The number is rounded once, to the nearest of its last place; a half goes to the even digit.
-/

namespace PageGraft.Text

/-- A number that is not negative, as a quotient. -/
structure Quotient where
  numerator : Nat
  denominator : Nat
deriving Repr, DecidableEq

/-- A number in figures: the digits around its point, and the power of ten behind them. -/
structure Figures where
  whole : List Char
  fraction : List Char := []
  exponent : Option Int := none
deriving Repr, DecidableEq

namespace Quotient

/-- The magnitude of a number; nothing if it is infinite or no number. -/
def ofFloat? (number : Float) : Option Quotient :=
  (Binary.ofFloat? number).map fun binary =>
    ⟨binary.significand * Binary.power 2 binary.exponent, Binary.power 2 (-binary.exponent)⟩

/-- The nearest whole number to the quotient times a power of ten. -/
def scaled (quotient : Quotient) (places : Int) : Nat :=
  let numerator := quotient.numerator * Binary.power 10 places
  let denominator := quotient.denominator * Binary.power 10 (-places)
  let below := numerator / denominator
  let distance := 2 * (numerator % denominator)
  if distance < denominator || (distance = denominator && below % 2 = 0) then below else below + 1

/-- The power of ten of the first digit. -/
def order (quotient : Quotient) : Int :=
  let digits (number : Nat) : Int := (Nat.toDigits 10 number).length
  let least := digits quotient.numerator - digits quotient.denominator
  let reached := quotient.denominator * Binary.power 10 least ≤
    quotient.numerator * Binary.power 10 (-least)
  if quotient.numerator = 0 then 0 else if reached then least else least - 1

/-- The quotient with so many decimal places. -/
def fixed (quotient : Quotient) (places : Nat) : Figures :=
  let digits := Nat.toDigits 10 (quotient.scaled places)
  let digits := List.replicate (places + 1 - digits.length) '0' ++ digits
  let point := digits.length - places
  { whole := digits.take point, fraction := digits.drop point }

/-- The quotient with one digit in front of the point, so many behind it, and a power of ten. -/
def exponential (quotient : Quotient) (places : Nat) : Figures :=
  let rounded := Nat.toDigits 10 (quotient.scaled (places - quotient.order))
  let carried := places + 1 < rounded.length
  let digits := List.replicate (places + 1 - rounded.length) '0' ++ rounded
  { whole := digits.take 1
    fraction := (digits.drop 1).take places
    exponent := some (if carried then quotient.order + 1 else quotient.order) }

end Quotient

namespace Figures

/-- The figures without zeros at the end of the fraction. -/
def dropZeros (figures : Figures) : Figures :=
  { figures with fraction := (figures.fraction.reverse.dropWhile (· == '0')).reverse }

/-- The figures with so many significant digits. The power of ten is written if it is below -4 or
not below the number of digits. -/
def significant (quotient : Quotient) (count : Nat) : Figures :=
  let count := max count 1
  let scientific := quotient.exponential (count - 1)
  let order := scientific.exponent.getD 0
  if order < -4 || (count : Int) ≤ order then scientific
  else quotient.fixed (count - 1 - order).toNat

/-- What stands behind the whole digits. The power of ten has a sign and at least two digits. -/
def tail (figures : Figures) (keepsPoint : Bool) : List Char :=
  let point := if figures.fraction.isEmpty && !keepsPoint then [] else '.' :: figures.fraction
  match figures.exponent with
  | none => point
  | some exponent =>
    let digits := Nat.toDigits 10 exponent.natAbs
    point ++ ['e', if exponent < 0 then '-' else '+'] ++
      List.replicate (2 - digits.length) '0' ++ digits

end Figures

end PageGraft.Text
