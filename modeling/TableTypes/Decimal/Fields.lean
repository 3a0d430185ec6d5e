/-!
# Fields of floating-point numbers

A floating-point number is stored in three fields: its sign, an exponent of eleven bits and a
fraction of fifty-two. The greatest exponent is left to what is no finite number.
-/

namespace TableTypes.Decimal

/-- The three fields of a floating-point number. -/
structure Fields where
  negative : Bool
  exponent : Nat
  fraction : Nat
  deriving DecidableEq, Repr

namespace Fields

/-- The fraction of a number has this many values; a number of full precision adds them all. -/
def fractions : Nat := 0x10000000000000

/-- The fields of a number. -/
def ofFloat (x : Float) : Fields :=
  let bits := x.toBits.toNat
  ⟨bits / 0x8000000000000000 = 1, bits / fractions % 0x800, bits % fractions⟩

/-- The number is zero. -/
def isZero (fields : Fields) : Bool :=
  fields.exponent = 0 && fields.fraction = 0

/-- The number is finite. -/
def isFinite (fields : Fields) : Bool :=
  fields.exponent ≠ 0x7FF

end Fields

end TableTypes.Decimal
