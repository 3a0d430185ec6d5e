import TableTypes.Decimal.Fields

/-!
# Shortest decimals

The fewest decimal digits that read back as a given binary number, and of those the nearest to
it. The number is an integer times a power of two; the reals that round to it form an interval,
and the first decimal grid with a point in the interval, tried from one digit up, gives the
digits. All arithmetic is on natural numbers.
-/

namespace TableTypes.Decimal

/-- A decimal number `digits × 10 ^ exponent`. -/
structure Scaled where
  digits : Nat
  exponent : Int
  deriving DecidableEq, Repr

/-- A positive finite number in quarters: it is `4 * significand` units of size `2 ^ unit`, and
the reals from `4 * significand - below` to `4 * significand + 2` units round to it, the two ends
exactly if `closed`. -/
structure Binary where
  significand : Nat
  unit : Int
  below : Nat
  closed : Bool

/-- The distance from zero of a finite number other than zero. -/
def Binary.ofFields (fields : Fields) : Binary :=
  let closed := fields.fraction % 2 = 0
  if fields.exponent = 0 then ⟨fields.fraction, -1076, 2, closed⟩
  else
    ⟨fields.fraction + Fields.fractions, (fields.exponent : Int) - 1077,
      if fields.fraction = 0 ∧ 1 < fields.exponent then 1 else 2, closed⟩

/-- Compare `a * 2 ^ unit` with `b * 10 ^ exponent`: the two numbers over a common denominator. -/
def align (a : Nat) (unit : Int) (b : Nat) (exponent : Int) : Nat × Nat :=
  (a * Nat.pow 2 unit.toNat * Nat.pow 10 (-exponent).toNat,
    b * Nat.pow 10 exponent.toNat * Nat.pow 2 (-unit).toNat)

/-- The decimal lies among the reals that round to the number. -/
def Binary.covers (x : Binary) (d : Scaled) : Bool :=
  let low := align (4 * x.significand - x.below) x.unit d.digits d.exponent
  let high := align (4 * x.significand + 2) x.unit d.digits d.exponent
  if x.closed then low.1 ≤ low.2 && high.2 ≤ high.1 else low.1 < low.2 && high.2 < high.1

/-- The greatest multiple of `10 ^ exponent` that is not above the number. -/
def Binary.floorAt (x : Binary) (exponent : Int) : Nat :=
  let (value, step) := align (4 * x.significand) x.unit 1 exponent
  value / step

/-- The number is nearer to the upper of two neighbours on the grid, or just between them and
the upper one is even. -/
def Binary.prefersUpper (x : Binary) (exponent : Int) (lower : Nat) : Bool :=
  let (value, middle) := align (8 * x.significand) x.unit (2 * lower + 1) exponent
  middle < value || (middle = value && lower % 2 = 1)

/-- The point of the grid of multiples of `10 ^ exponent` that reads back as the number. -/
def Binary.onGrid? (x : Binary) (exponent : Int) : Option Scaled :=
  let lower := x.floorAt exponent
  let down : Scaled := ⟨lower, exponent⟩
  let up : Scaled := ⟨lower + 1, exponent⟩
  match x.covers down, x.covers up with
  | true, true => some (if x.prefersUpper exponent lower then up else down)
  | true, false => some down
  | false, true => some up
  | false, false => none

/-- The exponent of the leading decimal digit of a positive number. -/
def Binary.magnitude (x : Binary) : Int :=
  let whole := x.floorAt 0
  if 0 < whole then ((Nat.toDigits 10 whole).length : Int) - 1
  else
    match (List.range 330).find? fun (k : Nat) => 0 < x.floorAt (-(k : Int)) with
    | some k => -(k : Int)
    | none => 0

/-- Trailing zeros go from the digits into the exponent, at most `fuel` of them. -/
def Scaled.trim : (fuel : Nat) → Scaled → Scaled
  | 0, d => d
  | fuel + 1, d =>
    if d.digits ≠ 0 ∧ d.digits % 10 = 0 then Scaled.trim fuel ⟨d.digits / 10, d.exponent + 1⟩
    else d

/-- The shortest decimal that reads back as a positive number. -/
def Binary.shortest (x : Binary) : Scaled :=
  let top := x.magnitude
  match (List.range 17).findSome? fun (k : Nat) => x.onGrid? (top - (k : Int)) with
  | some d => d.trim 20
  | none => ⟨0, 0⟩

end TableTypes.Decimal
