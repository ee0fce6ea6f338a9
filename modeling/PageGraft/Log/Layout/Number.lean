import PageGraft.Log.Record
import PageGraft.Text.Figures

/-!
# Numbers in layouts

What layouts of all styles share about numbers: which contents are numbers, and their digits in
several bases and with decimal places.
-/

namespace PageGraft.Log

open PageGraft.Data PageGraft.Text

/-- A number that a field holds. -/
inductive Number where
  | whole (value : Int)
  | real (value : Float)
deriving Repr

/-- The number that a content is; a truth value counts as one or zero. -/
def Content.number? : Content → Option Number
  | .value (.integer held) => some (.whole held)
  | .value (.boolean held) => some (.whole (if held then 1 else 0))
  | .value (.number held) => some (.real held)
  | _ => none

namespace Number

/-- A negative zero is negative, and what is no number is not. -/
def isNegative : Number → Bool
  | whole value => value < 0
  | real value => !value.isNaN && value.toBits.toNat / Nat.pow 2 63 = 1

/-- The number as a real one, unless it is too large. -/
def toReal? : Number → Option Float
  | whole value => if (Float.ofInt value).isInf then none else some (Float.ofInt value)
  | real value => some value

/-- The whole part of the number. -/
def toWhole? : Number → Option Int
  | whole value => some value
  | real value =>
    (Quotient.ofFloat? value).map fun quotient =>
      let magnitude : Int := (quotient.numerator / quotient.denominator : Nat)
      if value < 0 then -magnitude else magnitude

end Number

namespace Layout

/-- A number in a place, before the place is filled up. The mark tells the base. -/
structure NumberParts where
  sign : List Char := []
  mark : List Char := []
  whole : List Char
  tail : List Char := []
deriving Repr, DecidableEq

def NumberParts.mapBody (parts : NumberParts) (change : Char → Char) : NumberParts :=
  { parts with
    mark := parts.mark.map change
    whole := parts.whole.map change
    tail := parts.tail.map change }

/-- The sign of a number: plus signs and spaces are written where a flag asks for them. -/
def signOf (isNegative isSigned isSpaced : Bool) : List Char :=
  if isNegative then ['-'] else if isSigned then ['+'] else if isSpaced then [' '] else []

/-- The base of a kind of place. -/
def baseOf (kind : Char) : Nat :=
  match kind with
  | 'b' => 2
  | 'o' => 8
  | 'x' | 'X' => 16
  | _ => 10

/-- The mark of a base; ten has none. -/
def markOf (kind : Char) : List Char :=
  if baseOf kind = 10 then [] else ['0', kind]

/-- The figures of a real number. A number that is infinite or none has letters. -/
def realParts (kind : Char) (precision : Nat) (isAlternate : Bool) (value : Float) : NumberParts :=
  match Quotient.ofFloat? value with
  | none => { whole := if value.isNaN then "nan".toList else "inf".toList }
  | some quotient =>
    let figures :=
      match kind.toLower with
      | 'e' => quotient.exponential precision
      | 'g' =>
        let significant := Figures.significant quotient precision
        if isAlternate then significant else significant.dropZeros
      | _ => quotient.fixed precision
    { whole := figures.whole, tail := figures.tail isAlternate }

end Layout

end PageGraft.Log
