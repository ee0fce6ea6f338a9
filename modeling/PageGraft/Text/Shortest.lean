import PageGraft.Text.Decimal

/-!
# Shortest decimals

The shortest decimal that is read as a given number of double precision. A number is first taken
apart into an integer and a power of two; the decimals that are read as the number are those between
the middles to its two neighbours.
-/

namespace PageGraft.Text

/-- A positive number of double precision: an integer times a power of two. `isLow` tells that the
lower neighbour is only half as far as the upper one. -/
structure Binary where
  significand : Nat
  exponent : Int
  isLow : Bool
deriving Repr, DecidableEq

namespace Binary

/-- The number of fractions between two neighbouring powers of two. -/
def fractions : Nat := Nat.pow 2 52

/-- The magnitude of a number; nothing if it is infinite or no number. -/
def ofFloat? (number : Float) : Option Binary :=
  let bits := number.toBits.toNat
  let fraction : Nat := bits % fractions
  let field : Nat := bits / fractions % 2048
  if field = 2047 then none
  else if field = 0 then some ⟨fraction, -1074, false⟩
  else some ⟨fraction + fractions, (field : Int) - 1075, fraction = 0 && field ≠ 1⟩

/-- A power with a negative exponent counts as one; its reciprocal is on the other side. -/
def power (base : Nat) (exponent : Int) : Nat :=
  Nat.pow base exponent.toNat

/-- The decimal with the given last place that is read as the number, if there is one: the nearer of
the two around the number, and of two equally near ones the even one. -/
def atPlace? (binary : Binary) (place : Int) : Option Nat :=
  let unit := 4 * power 2 (-binary.exponent) * power 10 place
  let scale := power 2 binary.exponent * power 10 (-place)
  let value := 4 * binary.significand * scale
  let low := value - (if binary.isLow then 1 else 2) * scale
  let high := value + 2 * scale
  let reads (multiple : Nat) : Bool :=
    if binary.significand % 2 = 0 then low ≤ multiple * unit && multiple * unit ≤ high
    else low < multiple * unit && multiple * unit < high
  let below := value / unit
  let distance := value % unit
  let belowFirst := 2 * distance < unit || (2 * distance = unit && below % 2 = 0)
  let candidates := if belowFirst then [below, below + 1] else [below + 1, below]
  candidates.find? fun multiple => multiple ≠ 0 && reads multiple

/-- The decimal with the fewest digits. The last places that can occur are tried from the highest. -/
def shortest (binary : Binary) : Decimal :=
  if binary.significand = 0 then ⟨['0'], 0⟩
  else
    let places := (List.range 640).map fun (index : Nat) => (310 : Int) - index
    let found := places.findSome? fun place =>
      (binary.atPlace? place).map fun multiple => (⟨Nat.toDigits 10 multiple, place⟩ : Decimal)
    found.getD ⟨['0'], 0⟩

end Binary

/-- The shortest decimal for the magnitude of a number. -/
def shortestDecimal? (number : Float) : Option Decimal :=
  (Binary.ofFloat? number).map Binary.shortest

end PageGraft.Text
