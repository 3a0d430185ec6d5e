/-!
# Decimals as floating-point numbers

The floating-point number nearest to a decimal. Decimals beyond the range become infinite or
zero before any power of ten is computed.
-/

namespace TableTypes.Decimal

/-- The floating-point number nearest to `digits × 10 ^ exponent`. -/
def nearest (digits : Nat) (exponent : Int) : Float :=
  let top := exponent + (Nat.toDigits 10 digits).length
  if digits = 0 ∨ top < -400 then 0
  else if 400 < top then Float.ofBits 0x7FF0000000000000
  else Float.ofScientific digits (exponent < 0) exponent.natAbs

end TableTypes.Decimal
