import PageGraft.Text.Decimal

/-!
# Number literals

Which number literals of a script stand for zero. Literals of other bases and large integers are not
decimal numbers and never count as zero.
-/

namespace PageGraft.Script

open PageGraft.Text

/-- Whether a number literal is a decimal that stands for zero. -/
def isZero (literal : List Char) : Bool :=
  (Decimal.ofText? (literal.filter (· ≠ '_'))).any Decimal.roundsToZero

end PageGraft.Script
