import TableTypes.Decimal.Shortest
import TableTypes.Proofs.Decimal.Nearest

/-! # The shortest decimal of a number

The decimals that round to a floating-point number form an interval, and the digits of the number
are taken from the first decimal grid with a point in it. A grid with 17 digits has one: its step
is shorter than the interval, so of the two points around the number one is inside. So a shortest
decimal is found, and the number is the one nearest to it.
-/

namespace TableTypes.Decimal

open Float.Model.UnpackedFloat (Sign)

/-- The number that a decimal stands for. -/
def Scaled.value (d : Scaled) : ℚ :=
  d.digits * 10 ^ d.exponent

/-- A binary number describes the decimals that round to a stored number. -/
structure Binary.Describes (x : Binary) (m : ℕ) (e : ℤ) : Prop where
  significand : x.significand = m
  unit : x.unit + 2 = e
  below : (x.below : ℚ) = 4 * reachBelow m e
  closed : x.closed = true ↔ m % 2 = 0

section Aligning

variable {a b : ℕ} {unit exponent : ℤ}

/-- Two numbers over their common denominator. -/
theorem align_eq (a : ℕ) (unit : ℤ) (b : ℕ) (exponent : ℤ) : ∃ common : ℚ, 0 < common ∧
    ((align a unit b exponent).1 : ℚ) = a * 2 ^ unit * common ∧
    ((align a unit b exponent).2 : ℚ) = b * 10 ^ exponent * common := by
  have hpower : ∀ {base : ℚ}, base ≠ 0 → ∀ n : ℤ,
      base ^ n.toNat = base ^ n * base ^ (-n).toNat := by
    intro base hbase n
    have hsplit : (n.toNat : ℤ) = n + (-n).toNat := by omega
    rw [← zpow_natCast, hsplit, zpow_add₀ hbase, zpow_natCast]
  have hten : (10 : ℚ) ≠ 0 := by norm_num
  refine ⟨2 ^ (-unit).toNat * 10 ^ (-exponent).toNat, by positivity, ?_, ?_⟩
  · change ((a * 2 ^ unit.toNat * 10 ^ (-exponent).toNat : ℕ) : ℚ) = _
    push_cast
    rw [hpower two_ne_zero unit]
    ring
  · change ((b * 10 ^ exponent.toNat * 2 ^ (-unit).toNat : ℕ) : ℚ) = _
    push_cast
    rw [hpower hten exponent]
    ring

theorem align_le_iff : (align a unit b exponent).1 ≤ (align a unit b exponent).2 ↔
    (a * 2 ^ unit : ℚ) ≤ b * 10 ^ exponent := by
  obtain ⟨common, hpos, hfirst, hsecond⟩ := align_eq a unit b exponent
  rw [← @Nat.cast_le ℚ, hfirst, hsecond, mul_le_mul_iff_of_pos_right hpos]

theorem align_ge_iff : (align a unit b exponent).2 ≤ (align a unit b exponent).1 ↔
    (b * 10 ^ exponent : ℚ) ≤ a * 2 ^ unit := by
  obtain ⟨common, hpos, hfirst, hsecond⟩ := align_eq a unit b exponent
  rw [← @Nat.cast_le ℚ, hfirst, hsecond, mul_le_mul_iff_of_pos_right hpos]

end Aligning

section Grids

variable {x : Binary} {m : ℕ} {e : ℤ} {d : Scaled}

/-- Whether a decimal is covered, counted in units of the binary number. -/
theorem Binary.covers_iff (x : Binary) (d : Scaled) :
    let count := d.value / 2 ^ x.unit
    x.covers d ↔
      if x.closed then ((4 * x.significand - x.below : ℕ) : ℚ) ≤ count ∧
        count ≤ (4 * x.significand + 2 : ℕ)
      else ((4 * x.significand - x.below : ℕ) : ℚ) < count ∧
        count < (4 * x.significand + 2 : ℕ) := by
  have hunit : (0 : ℚ) < 2 ^ x.unit := zpow_pos two_pos _
  intro count
  rw [le_div_iff₀ hunit, div_le_iff₀ hunit, lt_div_iff₀ hunit, div_lt_iff₀ hunit]
  unfold Binary.covers Scaled.value
  dsimp only
  split
  · rw [Bool.and_eq_true, decide_eq_true_iff, decide_eq_true_iff, align_le_iff, align_ge_iff]
  · rw [Bool.and_eq_true, decide_eq_true_iff, decide_eq_true_iff, ← Nat.not_le, ← Nat.not_le,
      align_ge_iff, align_le_iff, not_le, not_le]

namespace Binary.Describes

/-- The lower end of what is covered, in units of the binary number. -/
theorem cast_low (hx : x.Describes m e) (hpos : 0 < m) :
    ((4 * x.significand - x.below : ℕ) : ℚ) = 4 * (m - reachBelow m e) := by
  have hone : (1 : ℚ) ≤ m := Nat.one_le_cast.mpr hpos
  have hreach := reachBelow_le_half m e
  have hle : (x.below : ℚ) ≤ (4 * m : ℕ) := by
    rw [hx.below]
    push_cast
    linarith
  rw [hx.significand, Nat.cast_sub (by exact_mod_cast hle), hx.below]
  push_cast
  ring

theorem cast_high (hx : x.Describes m e) :
    ((4 * x.significand + 2 : ℕ) : ℚ) = 4 * (m + 1 / 2) := by
  rw [hx.significand]
  push_cast
  ring

theorem count_eq (hx : x.Describes m e) (q : ℚ) : q / 2 ^ x.unit = 4 * (q / 2 ^ e) := by
  rw [← hx.unit, zpow_add₀ two_ne_zero]
  norm_num
  field_simp

/-- A decimal that is covered rounds to the number. -/
theorem roundsTo (hx : x.Describes m e) (hpos : 0 < m) (hcovers : x.covers d) :
    RoundsTo d.value m e := by
  have hcovers := (x.covers_iff d).mp hcovers
  rw [hx.cast_low hpos, hx.cast_high, hx.count_eq] at hcovers
  have hreach := reachBelow_le_half m e
  split at hcovers
  · rename_i hclosed
    have heven := hx.closed.mp hclosed
    exact ⟨by linarith, by linarith, by omega⟩
  · exact ⟨by linarith, by linarith, fun _ => ⟨by linarith, by linarith⟩⟩

end Binary.Describes

/-- The number that a binary number stands for. -/
def Binary.value (x : Binary) : ℚ :=
  4 * x.significand * 2 ^ x.unit

/-- The point of a grid at or below a number, and the next one. -/
theorem Binary.floorAt_bounds (x : Binary) (exponent : ℤ) :
    (x.floorAt exponent * 10 ^ exponent : ℚ) ≤ x.value ∧
      x.value < (x.floorAt exponent + 1) * 10 ^ exponent := by
  obtain ⟨common, hpos, hvalue, hstep⟩ := align_eq (4 * x.significand) x.unit 1 exponent
  have hstep' : 0 < (align (4 * x.significand) x.unit 1 exponent).2 := by
    rw [← @Nat.cast_pos ℚ, hstep]
    positivity
  have hfloor : x.floorAt exponent = (align (4 * x.significand) x.unit 1 exponent).1 /
      (align (4 * x.significand) x.unit 1 exponent).2 := rfl
  rw [hfloor]
  generalize align (4 * x.significand) x.unit 1 exponent = aligned at *
  have hle := Nat.div_mul_le_self aligned.1 aligned.2
  have hlt := Nat.lt_mul_of_div_lt (Nat.lt_succ_self (aligned.1 / aligned.2)) hstep'
  generalize aligned.1 / aligned.2 = floor at *
  rw [← @Nat.cast_le ℚ, Nat.cast_mul, hvalue, hstep] at hle
  rw [← @Nat.cast_lt ℚ, Nat.cast_mul, hvalue, hstep] at hlt
  unfold Binary.value
  push_cast at hle hlt
  constructor
  · refine le_of_mul_le_mul_right ?_ hpos
    linarith
  · refine lt_of_mul_lt_mul_right ?_ hpos.le
    linarith

theorem Binary.floorAt_pos_iff (x : Binary) (exponent : ℤ) :
    0 < x.floorAt exponent ↔ (10 : ℚ) ^ exponent ≤ x.value := by
  have hunit : (0 : ℚ) < 10 ^ exponent := zpow_pos (by norm_num) exponent
  obtain ⟨hle, hlt⟩ := x.floorAt_bounds exponent
  constructor
  · intro hpos
    have hone : (1 : ℚ) ≤ x.floorAt exponent := Nat.one_le_cast.mpr hpos
    exact (le_mul_of_one_le_left hunit.le hone).trans hle
  · intro hstep
    by_contra hzero
    rw [Nat.eq_zero_of_not_pos hzero, Nat.cast_zero, zero_add, one_mul] at hlt
    exact absurd hstep (not_le.mpr hlt)

/-- The leading digit of a number that is not too small is at its magnitude. -/
theorem Binary.magnitude_le {x : Binary} (hleast : (10 : ℚ) ^ (-329 : ℤ) ≤ x.value) :
    (10 : ℚ) ^ x.magnitude ≤ x.value := by
  unfold Binary.magnitude
  dsimp only
  split
  · rename_i hpos
    have hwhole := (scientific_bounds hpos 0).1
    rw [zero_add] at hwhole
    exact hwhole.trans (x.floorAt_bounds 0).1
  · split
    · rename_i k hfound
      exact (x.floorAt_pos_iff _).mp (by simpa using List.find?_some hfound)
    · rename_i hnone
      have hlast := List.find?_eq_none.mp hnone 329 (List.mem_range.mpr (by decide))
      exact absurd ((x.floorAt_pos_iff _).mpr hleast) (by simpa using hlast)

/-- A point that is taken from a grid is covered. -/
theorem Binary.covers_of_onGrid? {x : Binary} {exponent : ℤ}
    (hpoint : x.onGrid? exponent = some d) : x.covers d := by
  unfold Binary.onGrid? at hpoint
  dsimp only at hpoint
  split at hpoint
  · rename_i hdown hup
    rw [Option.some_inj] at hpoint
    split at hpoint <;> subst hpoint <;> assumption
  · rename_i hdown hup
    cases hpoint
    exact hdown
  · rename_i hdown hup
    cases hpoint
    exact hup
  · cases hpoint

/-- A grid has a point for a number if one of the two around it is covered. -/
theorem Binary.isSome_onGrid? {x : Binary} {exponent : ℤ}
    (hcovers : x.covers ⟨x.floorAt exponent, exponent⟩ ∨
      x.covers ⟨x.floorAt exponent + 1, exponent⟩) : (x.onGrid? exponent).isSome := by
  unfold Binary.onGrid?
  dsimp only
  split
  · rfl
  · rfl
  · rfl
  · rename_i hdown hup
    rw [hdown, hup] at hcovers
    simp at hcovers

theorem Scaled.value_trim (fuel : ℕ) (d : Scaled) : (d.trim fuel).value = d.value := by
  induction fuel generalizing d with
  | zero => rfl
  | succ fuel ih =>
      unfold Scaled.trim
      split
      · rename_i hzero
        have hten : (10 : ℚ) ≠ 0 := by norm_num
        have hdigits : (d.digits : ℚ) = (d.digits / 10 : ℕ) * 10 := by
          exact_mod_cast (Nat.div_mul_cancel (Nat.dvd_of_mod_eq_zero hzero.2)).symm
        rw [ih]
        unfold Scaled.value
        dsimp only
        rw [hdigits, zpow_add₀ hten, zpow_one]
        ring
      · rfl

end Grids

section Shortest

variable {x : Binary} {m : ℕ} {e : ℤ} {d : Scaled}

namespace Binary.Describes

theorem value_eq (hx : x.Describes m e) : x.value = m * 2 ^ e := by
  rw [Binary.value, hx.significand, ← hx.unit, zpow_add₀ two_ne_zero]
  norm_num
  ring

/-- A decimal that lies inside of the interval is covered. -/
theorem covers (hx : x.Describes m e) (hpos : 0 < m) (hlow : m - reachBelow m e < d.value / 2 ^ e)
    (hhigh : d.value / 2 ^ e < m + 1 / 2) : x.covers d := by
  refine (x.covers_iff d).mpr ?_
  rw [hx.cast_low hpos, hx.cast_high, hx.count_eq]
  split
  · exact ⟨by linarith, by linarith⟩
  · exact ⟨by linarith, by linarith⟩

/-- A grid of 17 digits has a point for a number, since its step is shorter than what is covered. -/
theorem isSome_onGrid? (hx : x.Describes m e) (hstored : Stored m e) {top : ℤ}
    (htop : (10 : ℚ) ^ top ≤ x.value) : (x.onGrid? (top - 16)).isSome := by
  have hunit : (0 : ℚ) < 2 ^ e := zpow_pos two_pos e
  obtain ⟨hle, hlt⟩ := x.floorAt_bounds (top - 16)
  rw [hx.value_eq] at htop hle hlt
  have hstep : (10 : ℚ) ^ (top - 16) = 10 ^ top / 10 ^ 16 := by
    rw [zpow_sub₀ (by norm_num)]
    norm_cast
  have hbits : ((m + 1 : ℕ) : ℚ) ≤ (2 ^ 53 : ℕ) := Nat.cast_le.mpr hstored.lt
  push_cast at hbits
  -- Sixteen digits behind the leading one are finer than 53 bits, even below a power of two.
  have hshort : (10 : ℚ) ^ (top - 16) / 2 ^ e < reachBelow m e + 1 / 2 := by
    rw [div_lt_iff₀ hunit, hstep]
    have hbelow : (m : ℚ) < 10 ^ 16 * (reachBelow m e + 1 / 2) := by
      obtain ⟨hreach, rfl⟩ | hreach := reachBelow_cases m e
      · rw [hreach]
        norm_num
      · rw [hreach]
        linarith
    have hscaled := mul_lt_mul_of_pos_right hbelow hunit
    linarith
  have hreach := reachBelow_pos m e
  have hlower : (Scaled.mk (x.floorAt (top - 16)) (top - 16)).value / 2 ^ e ≤ m :=
    (div_le_iff₀ hunit).mpr hle
  have hupper : (Scaled.mk (x.floorAt (top - 16) + 1) (top - 16)).value / 2 ^ e =
      (Scaled.mk (x.floorAt (top - 16)) (top - 16)).value / 2 ^ e + 10 ^ (top - 16) / 2 ^ e := by
    unfold Scaled.value
    push_cast
    ring
  have habove : (m : ℚ) < (Scaled.mk (x.floorAt (top - 16) + 1) (top - 16)).value / 2 ^ e := by
    rw [lt_div_iff₀ hunit, Scaled.value]
    exact_mod_cast hlt
  -- If the point above is too high, the one below is not too low: they are one step apart.
  refine Binary.isSome_onGrid? (or_iff_not_imp_right.mpr fun hup => ?_)
  have hhigh : (m : ℚ) + 1 / 2 ≤
      (Scaled.mk (x.floorAt (top - 16) + 1) (top - 16)).value / 2 ^ e := by
    by_contra hless
    exact hup (hx.covers hstored.pos (by linarith) (not_le.mp hless))
  exact hx.covers hstored.pos (by linarith) (by linarith)

/-- The shortest decimal of a number rounds to it. -/
theorem roundsTo_shortest (hx : x.Describes m e) (hstored : Stored m e) :
    RoundsTo x.shortest.value m e := by
  have hleast : (10 : ℚ) ^ (-329 : ℤ) ≤ x.value := by
    have htiny : (10 : ℚ) ^ (-329 : ℤ) ≤ 2 ^ (-1075 : ℤ) := by
      rw [zpow_neg, zpow_neg, inv_le_inv₀ (by positivity) (by positivity)]
      have hpowers : 2 ^ 1075 ≤ 10 ^ 329 := by decide +kernel
      exact_mod_cast hpowers
    rw [hx.value_eq]
    exact htiny.trans ((roundsTo_self m e).bounds hstored).1
  have hgrid := hx.isSome_onGrid? hstored (Binary.magnitude_le hleast)
  unfold Binary.shortest
  dsimp only
  split
  · rename_i d hfound
    obtain ⟨k, -, hpoint⟩ := List.exists_of_findSome?_eq_some hfound
    rw [Scaled.value_trim]
    exact hx.roundsTo hstored.pos (Binary.covers_of_onGrid? hpoint)
  · -- The last grid that is tried has a point.
    rename_i hnone
    have hlast := List.findSome?_eq_none_iff.mp hnone 16 (List.mem_range.mpr (by decide))
    rw [Nat.cast_ofNat] at hlast
    rw [hlast] at hgrid
    cases hgrid

end Binary.Describes

/-- The binary number of fields describes what the fields hold. -/
theorem Fields.Hold.describes {fields : Fields} (hold : fields.Hold m e) :
    (Binary.ofFields fields).Describes m e := by
  cases hold with
  | least hexponent hfraction hpos =>
      have hbinary : Binary.ofFields fields =
          ⟨fields.fraction, -1076, 2, fields.fraction % 2 = 0⟩ := if_pos hexponent
      rw [hbinary]
      refine ⟨rfl, rfl, ?_, decide_eq_true_iff⟩
      rw [reachBelow, if_neg (by simp)]
      norm_num
  | full hpos hexponent hfraction =>
      have hbinary : Binary.ofFields fields = ⟨fields.fraction + 2 ^ 52, fields.exponent - 1077,
          if fields.fraction = 0 ∧ 1 < fields.exponent then 1 else 2, fields.fraction % 2 = 0⟩ :=
        if_neg hpos.ne'
      have hpower : (fields.fraction + 2 ^ 52 = 2 ^ 52 ∧ -1074 < (fields.exponent - 1075 : ℤ)) ↔
          fields.fraction = 0 ∧ 1 < fields.exponent := by omega
      rw [hbinary]
      refine ⟨rfl, by dsimp only; omega, ?_, by rw [decide_eq_true_iff]; omega⟩
      rw [reachBelow, if_congr hpower rfl rfl]
      dsimp only
      split <;> norm_num

/-- A number other than zero is the one that is nearest to its shortest decimal. -/
theorem nearest_shortest {x : Float} (hfinite : (Fields.ofFloat x).isFinite)
    (hzero : (Fields.ofFloat x).isZero = false)
    (hvalue : d.value = (Binary.ofFields (Fields.ofFloat x)).shortest.value) :
    (if (Fields.ofFloat x).negative then -nearest d.digits d.exponent
      else nearest d.digits d.exponent) = x := by
  obtain ⟨m, e, hold⟩ := exists_hold_ofFloat hfinite hzero
  have hrounds : RoundsTo d.value m e := by
    rw [hvalue]
    exact hold.describes.roundsTo_shortest hold.stored
  rw [nearest_eq hold.stored hrounds, neg_number]
  conv_rhs => rw [← number_eq hold, Fields.sign]
  split <;> rfl

end Shortest

end TableTypes.Decimal
