import TableTypes.Decimal.Shortest

/-!
# Rounded decimals

A positive binary number to a given count of decimal places or of digits. The nearest decimal is
taken, and of two that are equally near the one whose last digit is even.
-/

namespace TableTypes.Decimal

/-- The quotient rounded to the nearest number; halves go to the even neighbour. -/
def roundDiv (numerator denominator : Nat) : Nat :=
  let low := numerator / denominator
  let twice := 2 * (numerator % denominator)
  if denominator < twice ∨ (denominator = twice ∧ low % 2 = 1) then low + 1 else low

/-- The number counted in units of `10 ^ exponent`, rounded. -/
def Binary.roundAt (x : Binary) (exponent : Int) : Nat :=
  let (value, step) := align (4 * x.significand) x.unit 1 exponent
  roundDiv value step

/-- A number as its leading digits and the exponent of the first of them. -/
structure Leading where
  digits : Nat
  top : Int
  deriving DecidableEq, Repr

/-- The number rounded to `1 + more` digits. Rounding up may move the leading digit. -/
def Binary.leading (x : Binary) (more : Nat) : Leading :=
  let top := x.magnitude
  let digits := x.roundAt (top - more)
  if digits = Nat.pow 10 (more + 1) then ⟨Nat.pow 10 more, top + 1⟩ else ⟨digits, top⟩

end TableTypes.Decimal
