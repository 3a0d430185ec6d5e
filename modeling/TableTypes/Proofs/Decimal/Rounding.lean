import Mathlib.Algebra.Order.Field.Power
import Mathlib.Tactic.FieldSimp
import Mathlib.Tactic.Linarith
import Mathlib.Tactic.Positivity
import Mathlib.Tactic.Ring

/-! # Rounding to floating-point numbers

A positive floating-point number is a mantissa of at most 53 bits and an exponent of two. A
rational number rounds to it if it lies within half a unit of the mantissa, or a quarter below a
power of two, where the next number below is nearer; the ends belong to the even mantissa.
Rounding is done on a mantissa that is cut off, with two bits that tell how the rest compares with
zero and with a half. These are kept right when the mantissa is shifted, so rounding gives the
number that the rational rounds to.
-/

namespace TableTypes.Decimal

open Float.Model (Format totalExponent)
open Float.Model.UnpackedFloat

/-- A mantissa and an exponent that a positive floating-point number is stored with. -/
structure Stored (m : ℕ) (e : ℤ) : Prop where
  pos : 0 < m
  lt : m < 2 ^ 53
  least : -1074 ≤ e
  greatest : e ≤ 971
  full : 2 ^ 52 ≤ m ∨ e = -1074

/-- How far below a number, in units of its mantissa, the numbers start that round to it. -/
def reachBelow (m : ℕ) (e : ℤ) : ℚ :=
  if m = 2 ^ 52 ∧ -1074 < e then 1 / 4 else 1 / 2

/-- A rational number rounds to the floating-point number with the mantissa and the exponent. -/
structure RoundsTo (q : ℚ) (m : ℕ) (e : ℤ) : Prop where
  low : m - reachBelow m e ≤ q / 2 ^ e
  high : q / 2 ^ e ≤ m + 1 / 2
  odd : m % 2 = 1 → m - 1 / 2 < q / 2 ^ e ∧ q / 2 ^ e < m + 1 / 2

/-- A number is cut off to a mantissa. One bit tells whether the rest reaches a half, and the
other one whether it is more than that, or more than nothing. -/
structure Cut (em : ExtendedMantissa) (r : ℚ) : Prop where
  floor_le : em.mantissa ≤ r
  lt_succ : r < em.mantissa + 1
  half : em.roundBit = true ↔ em.mantissa + 1 / 2 ≤ r
  more : em.stickyBit = true ↔ r ≠ em.mantissa ∧ r ≠ em.mantissa + 1 / 2

section Cuts

variable {em : ExtendedMantissa} {r : ℚ} {m : ℕ}

theorem cut_exact (m : ℕ) : Cut (.ofMantissaAndAccuracy m .exact) m := by
  refine ⟨le_refl _, by simp [ExtendedMantissa.ofMantissaAndAccuracy], ?_, ?_⟩
  · simp [ExtendedMantissa.ofMantissaAndAccuracy]
  · simp [ExtendedMantissa.ofMantissaAndAccuracy]

/-- A quotient is cut off to a whole number. -/
theorem cut_div (a : ℕ) {b : ℕ} (hb : 0 < b) :
    Cut (.ofMantissaAndAccuracy (a / b) (accuracyOfFraction (a % b) b)) ((a : ℚ) / b) := by
  have hb' : (0 : ℚ) < b := Nat.cast_pos.mpr hb
  have hsplit : (a : ℚ) / b = (a / b : ℕ) + (a % b : ℕ) / b := by
    rw [eq_comm, ← mul_right_cancel_iff_of_pos hb', add_mul, div_mul_cancel₀ _ hb'.ne',
      div_mul_cancel₀ _ hb'.ne']
    exact_mod_cast Nat.div_add_mod' a b
  have hless : ((a % b : ℕ) : ℚ) < b := Nat.cast_lt.mpr (Nat.mod_lt a hb)
  rw [hsplit]
  generalize a / b = k
  generalize a % b = rest at hless ⊢
  unfold accuracyOfFraction
  split
  · rename_i hzero
    subst hzero
    simpa using cut_exact k
  · rename_i hzero
    have hpos : (0 : ℚ) < rest / b := div_pos (Nat.cast_pos.mpr (Nat.pos_of_ne_zero hzero)) hb'
    have hone : (rest : ℚ) / b < 1 := (div_lt_one hb').mpr hless
    have hhalf : (1 / 2 : ℚ) ≤ rest / b ↔ b ≤ 2 * rest := by
      rw [le_div_iff₀ hb', ← @Nat.cast_le ℚ]
      push_cast
      constructor <;> intro h <;> linarith
    have hmiddle : (rest : ℚ) / b = 1 / 2 ↔ 2 * rest = b := by
      rw [div_eq_iff hb'.ne', ← Nat.cast_inj (R := ℚ)]
      push_cast
      constructor <;> intro h <;> linarith
    have hne : (k : ℚ) + rest / b ≠ k := by linarith
    have hcut : ∀ em : ExtendedMantissa, em.mantissa = k →
        (em.roundBit = true ↔ b ≤ 2 * rest) → (em.stickyBit = true ↔ 2 * rest ≠ b) →
        Cut em (k + rest / b) := by
      rintro ⟨mantissa, roundBit, stickyBit⟩ rfl hround hsticky
      refine ⟨by dsimp only; linarith, by dsimp only; linarith, ?_, ?_⟩
      · dsimp only at hround ⊢
        rw [hround, ← hhalf, add_le_add_iff_left]
      · dsimp only at hsticky ⊢
        rw [hsticky, and_iff_right hne, Ne, Ne, add_right_inj, hmiddle]
    rcases lt_trichotomy (2 * rest) b with hlt | heq | hgt
    · rw [compare_lt_iff_lt.mpr hlt]
      exact hcut _ rfl (iff_of_false Bool.false_ne_true (by omega)) (iff_of_true rfl (by omega))
    · rw [compare_eq_iff_eq.mpr heq]
      exact hcut _ rfl (iff_of_true rfl (by omega)) (iff_of_false Bool.false_ne_true (by omega))
    · rw [compare_gt_iff_gt.mpr hgt]
      exact hcut _ rfl (iff_of_true rfl (by omega)) (iff_of_true rfl (by omega))

/-- The two bits together tell whether there is a rest. -/
theorem Cut.rest_iff (hcut : Cut em r) :
    (em.roundBit || em.stickyBit) = true ↔ r ≠ em.mantissa := by
  rw [Bool.or_eq_true, hcut.half, hcut.more]
  constructor
  · rintro (hhalf | ⟨hne, -⟩)
    · intro heq
      linarith
    · exact hne
  · intro hne
    by_cases heq : r = em.mantissa + 1 / 2
    · exact Or.inl heq.ge
    · exact Or.inr ⟨hne, heq⟩

/-- Half the number is cut off by a shift: the last bit of the mantissa tells whether the new rest
reaches a half, and the two bits before whether there was a rest. -/
theorem Cut.shiftRightOne (hcut : Cut em r) : Cut em.shiftRightOne (r / 2) := by
  have hrest := hcut.rest_iff
  obtain ⟨k, roundBit, stickyBit⟩ := em
  obtain ⟨hfloor, hsucc, -, -⟩ := hcut
  dsimp only at hfloor hsucc hrest
  have hdiv : (k : ℚ) = 2 * (k / 2 : ℕ) + (k % 2 : ℕ) := by
    exact_mod_cast (Nat.div_add_mod k 2).symm
  generalize hbefore : k / 2 = j at hdiv
  simp only [ExtendedMantissa.shiftRightOne, hbefore]
  rcases Nat.mod_two_eq_zero_or_one k with hbit | hbit
  · -- The new rest is half the old one, and so less than a half.
    rw [hbit, Nat.cast_zero, add_zero] at hdiv
    refine ⟨by dsimp only; linarith, by dsimp only; linarith, ?_, ?_⟩
    · refine iff_of_false (by simp [hbit]) ?_
      dsimp only
      linarith
    · dsimp only
      rw [hrest]
      constructor
      · intro hne
        exact ⟨fun heq => hne (by linarith), by linarith⟩
      · rintro ⟨hne, -⟩ heq
        exact hne (by linarith)
  · -- The bit that is cut off is a half, and half the old rest is above it.
    rw [hbit, Nat.cast_one] at hdiv
    refine ⟨by dsimp only; linarith, by dsimp only; linarith, ?_, ?_⟩
    · refine iff_of_true (by simp [hbit]) ?_
      dsimp only
      linarith
    · dsimp only
      rw [hrest]
      constructor
      · intro hne
        exact ⟨by linarith, fun heq => hne (by linarith)⟩
      · rintro ⟨-, hne⟩ heq
        exact hne (by linarith)

theorem Cut.shiftRight (hcut : Cut em r) (n : ℕ) : Cut (em >>> n) (r / 2 ^ n) := by
  induction n with
  | zero =>
      rw [pow_zero, div_one]
      exact hcut
  | succ n ih =>
      rw [pow_succ, ← div_div]
      exact ih.shiftRightOne

/-- A number within a half of a whole one is rounded to it, if the ends are left to even ones. -/
theorem Cut.roundedMantissa_eq (hcut : Cut em r) (hlow : (m : ℚ) - 1 / 2 ≤ r)
    (hhigh : r ≤ m + 1 / 2) (hodd : m % 2 = 1 → (m : ℚ) - 1 / 2 < r ∧ r < m + 1 / 2) :
    em.roundedMantissa = m := by
  obtain ⟨k, roundBit, stickyBit⟩ := em
  obtain ⟨hfloor, hsucc, hhalf, hmore⟩ := hcut
  dsimp only at hfloor hsucc hhalf hmore
  have hnear : m = k ∨ m = k + 1 := by
    have hge : (k : ℚ) < m + 1 := by linarith
    have hle : (m : ℚ) < k + 2 := by linarith
    have hge' : k < m + 1 := by exact_mod_cast hge
    have hle' : m < k + 2 := by exact_mod_cast hle
    omega
  cases roundBit <;> cases stickyBit <;>
    simp only [Bool.false_eq_true, false_iff, true_iff, not_le, not_and, not_not] at hhalf hmore
  all_goals change Accuracy.roundToNearestEven k _ = m
  · -- There is no rest.
    have hr : r = k := by
      by_contra hne
      have := hmore hne
      linarith
    rcases hnear with rfl | rfl
    · rfl
    · push_cast at hlow
      linarith
  · rcases hnear with rfl | rfl
    · rfl
    · push_cast at hlow
      linarith
  · -- The rest is a half.
    have hr : r = k + 1 / 2 := hmore (by linarith)
    have heven : m % 2 ≠ 1 := by
      intro hone
      obtain ⟨hlt, hlt'⟩ := hodd hone
      rcases hnear with rfl | rfl
      · linarith
      · push_cast at hlt
        linarith
    change k + k % 2 = m
    omega
  · rcases hnear with rfl | rfl
    · have hr : r = m + 1 / 2 := le_antisymm hhigh hhalf
      exact absurd hr hmore.2
    · rfl

end Cuts

section Shifts

variable {m : ℕ} {e : ℤ} {q : ℚ} {accuracy : Accuracy}

/-- The exponent that rounding aims at. -/
theorem targetExponent_eq (m : ℕ) (e : ℤ) :
    Format.binary64.targetExponent (totalExponent m e) = max (m.log2 + e - 52) (-1074) := by
  change max ((m.log2 : ℤ) + 1 + e - 53) (-1074) = _
  omega

/-- A mantissa that is not above the target is shifted to it. -/
theorem cut_shiftToTargetExponent {target : ℤ}
    (htarget : Format.binary64.targetExponent (totalExponent m e) = target) (hle : e ≤ target)
    (hcut : Cut (.ofMantissaAndAccuracy m accuracy) (q / 2 ^ e)) :
    (shiftToTargetExponent .binary64 m e accuracy).2 = target ∧
      Cut (shiftToTargetExponent .binary64 m e accuracy).1 (q / 2 ^ target) := by
  obtain ⟨n, rfl⟩ := Int.le.dest hle
  have hshift : (e + n - e).toNat = n := by omega
  rw [shiftToTargetExponent, htarget, shiftToExponent]
  dsimp only
  rw [hshift]
  refine ⟨rfl, ?_⟩
  rw [zpow_add₀ two_ne_zero, zpow_natCast, ← div_div]
  exact hcut.shiftRight n

/-- A mantissa of a number that is stored is not shifted. -/
theorem shift_stored (hlt : m < 2 ^ 53) (hleast : -1074 ≤ e) :
    shiftToTargetExponent .binary64 m e .exact = (⟨m, false, false⟩, e) := by
  have hlog : m.log2 ≤ 52 := by
    by_cases hzero : m = 0
    · simp [hzero]
    · exact Nat.le_of_lt_succ ((Nat.log2_lt hzero).mpr hlt)
  have hshift : (Format.binary64.targetExponent (totalExponent m e) - e).toNat = 0 := by
    rw [targetExponent_eq]
    omega
  rw [shiftToTargetExponent, shiftToExponent, hshift, Int.natCast_zero, add_zero]
  rfl

/-- A mantissa that has got one bit more is shifted by it. -/
theorem shift_carry (hleast : -1074 ≤ e) :
    shiftToTargetExponent .binary64 (2 ^ 53) e .exact = (⟨2 ^ 52, false, false⟩, e + 1) := by
  have hshift : (Format.binary64.targetExponent (totalExponent (2 ^ 53) e) - e).toNat = 1 := by
    rw [targetExponent_eq, Nat.log2_two_pow]
    omega
  rw [shiftToTargetExponent, shiftToExponent, hshift]
  rfl

end Shifts

section Rounding

variable {m k : ℕ} {e f : ℤ} {q : ℚ} {accuracy : Accuracy}

theorem reachBelow_cases (m : ℕ) (e : ℤ) :
    reachBelow m e = 1 / 4 ∧ m = 2 ^ 52 ∨ reachBelow m e = 1 / 2 := by
  unfold reachBelow
  split
  · rename_i hpower
    exact Or.inl ⟨rfl, hpower.1⟩
  · exact Or.inr rfl

theorem reachBelow_pos (m : ℕ) (e : ℤ) : 0 < reachBelow m e := by
  obtain ⟨hreach, -⟩ | hreach := reachBelow_cases m e <;> rw [hreach] <;> norm_num

theorem reachBelow_le_half (m : ℕ) (e : ℤ) : reachBelow m e ≤ 1 / 2 := by
  obtain ⟨hreach, -⟩ | hreach := reachBelow_cases m e
  · rw [hreach]
    norm_num
  · exact hreach.le

/-- A mantissa that a number is cut off to tells the powers of two around the number. -/
theorem Cut.bounds (hcut : Cut (.ofMantissaAndAccuracy k accuracy) (q / 2 ^ f)) :
    (k ≠ 0 → (2 : ℚ) ^ (k.log2 + f) ≤ q) ∧ q < 2 ^ (k.log2 + f + 1) := by
  have hunit : (0 : ℚ) < 2 ^ f := zpow_pos two_pos f
  have hmantissa : (ExtendedMantissa.ofMantissaAndAccuracy k accuracy).mantissa = k := by
    unfold ExtendedMantissa.ofMantissaAndAccuracy
    split <;> rfl
  have hfloor := hcut.floor_le
  have hsucc := hcut.lt_succ
  rw [hmantissa, le_div_iff₀ hunit] at hfloor
  rw [hmantissa, div_lt_iff₀ hunit] at hsucc
  constructor
  · intro hne
    have hlog : ((2 ^ k.log2 : ℕ) : ℚ) ≤ k := Nat.cast_le.mpr (Nat.log2_self_le hne)
    rw [zpow_add₀ two_ne_zero, zpow_natCast]
    push_cast at hlog
    exact (mul_le_mul_of_nonneg_right hlog hunit.le).trans hfloor
  · have hlog : ((k + 1 : ℕ) : ℚ) ≤ (2 ^ (k.log2 + 1) : ℕ) := Nat.cast_le.mpr Nat.lt_log2_self
    have hpower : (2 : ℚ) ^ (k.log2 + f + 1) = 2 ^ (k.log2 + 1) * 2 ^ f := by
      rw [add_right_comm, zpow_add₀ two_ne_zero]
      norm_cast
    rw [hpower]
    push_cast at hlog
    exact hsucc.trans_le (mul_le_mul_of_nonneg_right hlog hunit.le)

/-- What rounds to a number is less than the least mantissa that is too long. -/
theorem RoundsTo.lt_two_zpow (hrounds : RoundsTo q m e) (hlt : m < 2 ^ 53) : q < 2 ^ (53 + e) := by
  have hbits : ((m + 1 : ℕ) : ℚ) ≤ (2 ^ 53 : ℕ) := Nat.cast_le.mpr hlt
  push_cast at hbits
  have hless : q / 2 ^ e < 2 ^ 53 := by linarith [hrounds.high]
  rw [zpow_add₀ two_ne_zero, ← div_lt_iff₀ (zpow_pos two_pos e)]
  exact_mod_cast hless

/-- What rounds to a number with a full mantissa is more than half of the least full mantissa. -/
theorem RoundsTo.two_zpow_lt (hrounds : RoundsTo q m e) (hfull : 2 ^ 52 ≤ m) :
    2 ^ (51 + e) < q := by
  have hreach := reachBelow_le_half m e
  have hbits : ((2 ^ 52 : ℕ) : ℚ) ≤ m := Nat.cast_le.mpr hfull
  push_cast at hbits
  have hmore : (2 : ℚ) ^ 51 < q / 2 ^ e := by linarith [hrounds.low]
  rw [zpow_add₀ two_ne_zero, ← lt_div_iff₀ (zpow_pos two_pos e)]
  exact_mod_cast hmore

/-- The exponent that rounding aims at is that of the number, or the one below if the number is a
power of two and what is rounded is less. -/
theorem RoundsTo.target_cases (hrounds : RoundsTo q m e) (hstored : Stored m e)
    (hcut : Cut (.ofMantissaAndAccuracy k accuracy) (q / 2 ^ f))
    (hfine : 52 ≤ k.log2 ∨ f ≤ -1074) :
    max (k.log2 + f - 52) (-1074) = e ∨
      (max (k.log2 + f - 52) (-1074) = e - 1 ∧ m = 2 ^ 52 ∧ -1074 < e ∧ q / 2 ^ e < 2 ^ 52) := by
  obtain ⟨-, hlt, hleast, -, hfull⟩ := hstored
  obtain ⟨hle, hless⟩ := hcut.bounds
  have habove : k.log2 + f - 52 ≤ e := by
    by_cases hzero : k = 0
    · subst hzero
      have hlog : Nat.log2 0 = 0 := by decide
      omega
    · have hpowers := (hle hzero).trans_lt (hrounds.lt_two_zpow hlt)
      have := (zpow_lt_zpow_iff_right₀ one_lt_two).mp hpowers
      omega
  rcases hleast.lt_or_eq with hgreater | heq
  · have hfull := hfull.resolve_right hgreater.ne'
    have hbelow := (zpow_lt_zpow_iff_right₀ one_lt_two).mp
      ((hrounds.two_zpow_lt hfull).trans hless)
    by_cases htarget : k.log2 + f - 52 = e
    · exact Or.inl (by omega)
    · -- The number is less than the power of two, though its nearest mantissa is not.
      have hq : q / 2 ^ e < 2 ^ 52 := by
        have hexponent : (k.log2 : ℤ) + f + 1 = 52 + e := by omega
        rw [hexponent, zpow_add₀ two_ne_zero] at hless
        rw [div_lt_iff₀ (zpow_pos two_pos e)]
        exact_mod_cast hless
      have hm : (m : ℚ) < 2 ^ 52 + 1 := by linarith [hrounds.low, reachBelow_le_half m e]
      have hm' : m < 2 ^ 52 + 1 := by exact_mod_cast hm
      exact Or.inr ⟨by omega, by omega, hgreater, hq⟩
  · exact Or.inl (by omega)

/-- A number that is cut off to enough bits is rounded to the floating-point number that it rounds
to. -/
theorem RoundsTo.roundWithAccuracy_eq (hrounds : RoundsTo q m e) (hstored : Stored m e)
    (hcut : Cut (.ofMantissaAndAccuracy k accuracy) (q / 2 ^ f))
    (hfine : 52 ≤ k.log2 ∨ f ≤ -1074) (sign : Sign) :
    roundWithAccuracy .binary64 sign k f accuracy = .finite sign m e hstored.pos := by
  have hle : f ≤ max (k.log2 + f - 52) (-1074) := by omega
  obtain ⟨hexponent, hshifted⟩ := cut_shiftToTargetExponent (targetExponent_eq k f) hle hcut
  generalize hshift : shiftToTargetExponent .binary64 k f accuracy = shifted at hexponent hshifted
  obtain ⟨em, target⟩ := shifted
  dsimp only at hexponent hshifted
  have hround : roundWithAccuracy .binary64 sign k f accuracy =
      let final := shiftToTargetExponent .binary64 em.roundedMantissa target .exact
      if h : final.1.mantissa = 0 then .zero sign
      else .finite sign final.1.mantissa final.2 (Nat.pos_of_ne_zero h) := by
    rw [roundWithAccuracy, hshift]
  rw [hround]
  rcases hrounds.target_cases hstored hcut hfine with htarget | ⟨htarget, hm, hleast, hless⟩
  · rw [htarget] at hexponent hshifted
    have hreach := reachBelow_le_half m e
    have hrounded : em.roundedMantissa = m :=
      hshifted.roundedMantissa_eq (by linarith [hrounds.low]) hrounds.high hrounds.odd
    rw [hrounded, hexponent, shift_stored hstored.lt hstored.least]
    exact dif_neg hstored.pos.ne'
  · rw [htarget] at hexponent hshifted
    have hdouble : q / 2 ^ (e - 1) = 2 * (q / 2 ^ e) := by
      rw [zpow_sub_one₀ two_ne_zero]
      field_simp
    have hlow := hrounds.low
    rw [reachBelow, if_pos ⟨hm, hleast⟩, hm] at hlow
    rw [hdouble] at hshifted
    push_cast at hlow
    have hrounded : em.roundedMantissa = 2 ^ 53 :=
      hshifted.roundedMantissa_eq (by push_cast; linarith) (by push_cast; linarith) (by omega)
    subst hm
    rw [hrounded, hexponent, shift_carry (by omega), sub_add_cancel]
    exact dif_neg hstored.pos.ne'

end Rounding

end TableTypes.Decimal
