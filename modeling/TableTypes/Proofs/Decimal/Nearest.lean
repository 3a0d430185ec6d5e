import TableTypes.Decimal.Nearest
import TableTypes.Proofs.Decimal.Storing

/-! # The nearest floating-point number

A decimal is turned into a floating-point number by a product or a quotient, which is rounded.
Small ones are products and quotients of floating-point numbers themselves, large ones of whole
numbers, and both are exact up to the rounding. So the number that is nearest to a decimal is the
one that the decimal rounds to.
-/

namespace TableTypes.Decimal

open Float.Model (Format totalExponent)
open Float.Model.UnpackedFloat

section Arithmetic

variable {m₁ m₂ m : ℕ} {e₁ e₂ e : ℤ}

/-- A product is exact before it is rounded. -/
theorem RoundsTo.mul_eq (hstored : Stored m e) (hpos₁ : 0 < m₁) (hpos₂ : 0 < m₂)
    (hrounds : RoundsTo (m₁ * 2 ^ e₁ * (m₂ * 2 ^ e₂)) m e) (hfine : 2 ^ 52 ≤ m₁ * m₂) :
    mul .binary64 (.finite .positive m₁ e₁ hpos₁) (.finite .positive m₂ e₂ hpos₂) =
      .finite .positive m e hstored.pos := by
  have hlog : 52 ≤ (m₁ * m₂).log2 := (Nat.le_log2 (Nat.mul_pos hpos₁ hpos₂).ne').mpr hfine
  have hexact : (m₁ * 2 ^ e₁ * (m₂ * 2 ^ e₂) : ℚ) / 2 ^ (e₁ + e₂) = (m₁ * m₂ : ℕ) := by
    rw [zpow_add₀ two_ne_zero]
    push_cast
    field_simp
  have hcut := cut_exact (m₁ * m₂)
  rw [← hexact] at hcut
  exact hrounds.roundWithAccuracy_eq hstored hcut (Or.inl hlog) .positive

/-- A quotient is cut off to a mantissa with enough bits. -/
theorem cut_divCore (e₁ e₂ : ℤ) (hpos₁ : 0 < m₁) (hpos₂ : 0 < m₂) :
    let divided := divCore .binary64 m₁ e₁ m₂ e₂
    Cut (.ofMantissaAndAccuracy divided.1 divided.2.2)
        (m₁ * 2 ^ e₁ / (m₂ * 2 ^ e₂) / 2 ^ divided.2.1) ∧
      (52 ≤ divided.1.log2 ∨ divided.2.1 ≤ -1074) := by
  have htarget : Format.binary64.targetExponent (totalExponent m₁ e₁ - totalExponent m₂ e₂) =
      max (m₁.log2 + e₁ - (m₂.log2 + e₂) - 53) (-1074) := by
    change max ((m₁.log2 : ℤ) + 1 + e₁ - (m₂.log2 + 1 + e₂) - 53) (-1074) = _
    omega
  rw [divCore, htarget]
  dsimp only
  -- The first mantissa is shifted until the quotient has all bits that the target leaves room for.
  generalize htop : max ((m₁.log2 : ℤ) + e₁ - (m₂.log2 + e₂) - 53) (-1074) = top
  generalize hexponent : min (e₁ - e₂) top = f
  obtain ⟨shift, hshift⟩ : ∃ shift : ℕ, e₁ - e₂ - f = shift := Int.eq_ofNat_of_zero_le (by omega)
  have hamount : (e₁ - e₂ - f).toNat = shift := by omega
  rw [hamount]
  have hpos₂' : (0 : ℚ) < m₂ := Nat.cast_pos.mpr hpos₂
  have hquotient : (m₁ * 2 ^ e₁ / (m₂ * 2 ^ e₂) / 2 ^ f : ℚ) = (m₁ <<< shift : ℕ) / m₂ := by
    have he₁ : e₁ = shift + (e₂ + f) := by omega
    rw [he₁, zpow_add₀ two_ne_zero, zpow_add₀ two_ne_zero, zpow_natCast, Nat.shiftLeft_eq]
    push_cast
    field_simp
  constructor
  · rw [hquotient]
    exact cut_div _ hpos₂
  · by_cases hleast : f ≤ -1074
    · exact Or.inr hleast
    · have hbits : m₂.log2 + 53 ≤ m₁.log2 + shift := by omega
      have hle : 2 ^ 52 ≤ m₁ <<< shift / m₂ := by
        rw [Nat.le_div_iff_mul_le hpos₂, Nat.shiftLeft_eq]
        calc 2 ^ 52 * m₂ ≤ 2 ^ 52 * 2 ^ (m₂.log2 + 1) :=
              Nat.mul_le_mul_left _ Nat.lt_log2_self.le
          _ = 2 ^ (m₂.log2 + 53) := by rw [← pow_add]; congr 1; omega
          _ ≤ 2 ^ (m₁.log2 + shift) := Nat.pow_le_pow_right two_pos hbits
          _ = 2 ^ m₁.log2 * 2 ^ shift := pow_add 2 _ _
          _ ≤ m₁ * 2 ^ shift := Nat.mul_le_mul_right _ (Nat.log2_self_le hpos₁.ne')
      exact Or.inl ((Nat.le_log2 (Nat.ne_zero_of_lt hle)).mpr hle)

/-- A quotient is rounded to the number that it rounds to. -/
theorem RoundsTo.div_eq (hstored : Stored m e) (hpos₁ : 0 < m₁) (hpos₂ : 0 < m₂)
    (hrounds : RoundsTo (m₁ * 2 ^ e₁ / (m₂ * 2 ^ e₂)) m e) :
    div .binary64 (.finite .positive m₁ e₁ hpos₁) (.finite .positive m₂ e₂ hpos₂) =
      .finite .positive m e hstored.pos := by
  obtain ⟨hcut, hfine⟩ := cut_divCore e₁ e₂ hpos₁ hpos₂
  exact hrounds.roundWithAccuracy_eq hstored hcut hfine .positive

end Arithmetic

section Bounds

variable {q : ℚ} {m : ℕ} {e : ℤ}

/-- What rounds to a stored number is not too small and not too large. -/
theorem RoundsTo.bounds (hrounds : RoundsTo q m e) (hstored : Stored m e) :
    2 ^ (-1075 : ℤ) ≤ q ∧ q < 2 ^ (1024 : ℤ) := by
  obtain ⟨hpos, hlt, hleast, hgreatest, -⟩ := hstored
  constructor
  · have hone : (1 : ℚ) ≤ m := Nat.one_le_cast.mpr hpos
    have hhalf : (2 : ℚ) ^ (-1 : ℤ) ≤ q / 2 ^ e := by
      rw [zpow_neg_one]
      linarith [hrounds.low, reachBelow_le_half m e]
    rw [le_div_iff₀ (zpow_pos two_pos e), ← zpow_add₀ two_ne_zero] at hhalf
    exact (zpow_le_zpow_right₀ one_le_two (by omega)).trans hhalf
  · exact (hrounds.lt_two_zpow hlt).trans_le (zpow_le_zpow_right₀ one_le_two (by omega))

end Bounds

section Scientific

variable {digits m : ℕ} {e exponent : ℤ}

/-- The exponent of a decimal that rounds to a stored number is in the range that is looked at. -/
theorem RoundsTo.exponent_bounds (hstored : Stored m e) (hpos : 0 < digits)
    (hrounds : RoundsTo (digits * 10 ^ exponent) m e) :
    exponent ≤ 1024 ∧ -(1076 + digits.log2 : ℤ) ≤ exponent := by
  obtain ⟨hlow, hhigh⟩ := hrounds.bounds hstored
  have hone : (1 : ℚ) ≤ digits := Nat.one_le_cast.mpr hpos
  constructor
  · by_contra hlarge
    have htwo : (2 : ℚ) ^ exponent ≤ 10 ^ exponent :=
      zpow_le_zpow_left₀ (by omega) two_pos.le (by norm_num)
    have hten : (10 : ℚ) ^ exponent ≤ digits * 10 ^ exponent :=
      le_mul_of_one_le_left (zpow_pos (by norm_num) _).le hone
    have := (zpow_lt_zpow_iff_right₀ one_lt_two).mp ((htwo.trans hten).trans_lt hhigh)
    omega
  · by_contra hsmall
    have hlog : (digits : ℚ) < 2 ^ (digits.log2 + 1 : ℤ) := by
      exact_mod_cast Nat.lt_log2_self
    have htwo : (10 : ℚ) ^ exponent ≤ 2 ^ exponent := by
      rw [← inv_le_inv₀ (zpow_pos two_pos _) (zpow_pos (by norm_num) _), ← zpow_neg, ← zpow_neg]
      exact zpow_le_zpow_left₀ (by omega) two_pos.le (by norm_num)
    have hless : (digits * 10 ^ exponent : ℚ) < 2 ^ (digits.log2 + 1 + exponent : ℤ) := by
      rw [zpow_add₀ two_ne_zero]
      exact mul_lt_mul hlog htwo (zpow_pos (by norm_num) _) (zpow_pos two_pos _).le
    have := (zpow_lt_zpow_iff_right₀ one_lt_two).mp (hlow.trans_lt hless)
    omega

theorem ofScientific_eq (hstored : Stored m e) (hpos : 0 < digits)
    (hrounds : RoundsTo (digits * 10 ^ exponent) m e) :
    ofScientific .binary64 digits exponent = .finite .positive m e hstored.pos := by
  obtain ⟨hgreatest, hleast⟩ := hrounds.exponent_bounds hstored hpos
  have hlarge : ¬ exponent > 2 ^ Format.binary64.exponentBits := by
    change ¬ exponent > 2048
    omega
  have hsmall : ¬ exponent < -(2 ^ Format.binary64.exponentBits + (digits.log2 : ℤ)) := by
    change ¬ exponent < -(2048 + (digits.log2 : ℤ))
    omega
  rw [ofScientific, dif_neg hpos.ne', if_neg hlarge, if_neg hsmall]
  by_cases hwhole : 0 ≤ exponent
  · -- The digits are shifted first, so the product has enough bits to be rounded once.
    rw [if_pos hwhole]
    refine RoundsTo.mul_eq hstored _ _ ?_ ?_
    · have hvalue : ((digits <<< Format.binary64.mantissaBits : ℕ) : ℚ) *
          2 ^ (-(Format.binary64.mantissaBits : ℤ)) * ((10 ^ exponent.toNat : ℕ) * 2 ^ (0 : ℤ)) =
            digits * 10 ^ exponent := by
        rw [Nat.shiftLeft_eq]
        push_cast
        rw [zpow_neg, zpow_natCast, mul_one, mul_assoc (digits : ℚ),
          mul_inv_cancel₀ (pow_pos two_pos _).ne', mul_one, ← zpow_natCast (10 : ℚ),
          Int.toNat_of_nonneg hwhole]
      rw [hvalue]
      exact hrounds
    · have htens : 1 ≤ 10 ^ exponent.toNat := Nat.one_le_pow _ _ (by decide)
      rw [Nat.shiftLeft_eq]
      calc 2 ^ 52 ≤ 1 * 2 ^ 53 * 1 := by decide
        _ ≤ digits * 2 ^ 53 * 10 ^ exponent.toNat :=
          Nat.mul_le_mul (Nat.mul_le_mul_right _ hpos) htens
  · rw [if_neg hwhole]
    refine RoundsTo.div_eq hstored _ _ ?_
    have hvalue : (digits * 2 ^ (0 : ℤ) / ((10 ^ (-exponent).toNat : ℕ) * 2 ^ (0 : ℤ)) : ℚ) =
        digits * 10 ^ exponent := by
      push_cast
      rw [mul_one, mul_one, ← zpow_natCast, Int.toNat_of_nonneg (by omega), zpow_neg,
        div_inv_eq_mul]
    rw [hvalue]
    exact hrounds

/-- A mantissa and an exponent stand for their own product. -/
theorem roundsTo_self (m : ℕ) (e : ℤ) : RoundsTo (m * 2 ^ e) m e := by
  have hunit : (0 : ℚ) < 2 ^ e := zpow_pos two_pos e
  have hreach := reachBelow_pos m e
  constructor
  all_goals rw [mul_div_cancel_right₀ _ hunit.ne']
  · linarith
  · linarith
  · exact fun _ => ⟨by linarith, by linarith⟩

/-- A whole number of at most 53 bits is stored as it is. -/
theorem exists_stored (hpos : 0 < digits) (hlt : digits < 2 ^ 53) :
    ∃ m e, Stored m e ∧ (digits : ℚ) = m * 2 ^ e ∧ 2 ^ 52 ≤ m ∧
      decreaseExponent digits 0 (Format.binary64.targetExponent (totalExponent digits 0)) =
        (m, e) := by
  have hlog : digits.log2 ≤ 52 := Nat.le_of_lt_succ ((Nat.log2_lt hpos.ne').mpr hlt)
  have hfull : 2 ^ 52 ≤ digits * 2 ^ (52 - digits.log2) := by
    calc 2 ^ 52 = 2 ^ digits.log2 * 2 ^ (52 - digits.log2) := by rw [← pow_add]; congr 1; omega
      _ ≤ digits * 2 ^ (52 - digits.log2) := Nat.mul_le_mul_right _ (Nat.log2_self_le hpos.ne')
  have hless : digits * 2 ^ (52 - digits.log2) < 2 ^ 53 := by
    calc digits * 2 ^ (52 - digits.log2) < 2 ^ (digits.log2 + 1) * 2 ^ (52 - digits.log2) :=
          Nat.mul_lt_mul_of_pos_right Nat.lt_log2_self (Nat.two_pow_pos _)
      _ = 2 ^ 53 := by rw [← pow_add]; congr 1; omega
  refine ⟨digits * 2 ^ (52 - digits.log2), -(52 - digits.log2 : ℕ),
    ⟨by omega, hless, by omega, by omega, Or.inl hfull⟩, ?_, hfull, ?_⟩
  · rw [zpow_neg, zpow_natCast]
    push_cast
    rw [mul_assoc, mul_inv_cancel₀ (pow_pos two_pos _).ne', mul_one]
  · have hshift : (0 - Format.binary64.targetExponent (totalExponent digits 0)).toNat =
        52 - digits.log2 := by
      rw [targetExponent_eq]
      omega
    rw [decreaseExponent, hshift, Nat.shiftLeft_eq, zero_sub]

theorem toFloat_eq (hpos : 0 < digits) (hlt : digits < 2 ^ 53) :
    ∃ m e, ∃ hstored : Stored m e, (digits : ℚ) = m * 2 ^ e ∧ 2 ^ 52 ≤ m ∧
      digits.toUInt64.toFloat = number .positive hstored := by
  obtain ⟨m, e, hstored, hvalue, hfull, hdecrease⟩ := exists_stored hpos hlt
  refine ⟨m, e, hstored, hvalue, hfull, ?_⟩
  have hcut : Cut (.ofMantissaAndAccuracy m .exact) (m * 2 ^ e / 2 ^ e) := by
    rw [mul_div_cancel_right₀ _ (zpow_pos two_pos e).ne']
    exact cut_exact m
  have hlog : 52 ≤ m.log2 := (Nat.le_log2 hstored.pos.ne').mpr hfull
  have hround : Float.Model.UnpackedFloat.round .binary64 .positive digits 0 =
      .finite .positive m e hstored.pos := by
    rw [Float.Model.UnpackedFloat.round, hdecrease]
    exact (roundsTo_self m e).roundWithAccuracy_eq hstored hcut (Or.inl hlog) .positive
  have hnat : digits.toUInt64.toNat = digits := by
    rw [Nat.toUInt64_eq, UInt64.toNat_ofNat', Nat.mod_eq_of_lt (by omega)]
  have hcompare : compare (digits : ℤ) 0 = .gt := compare_gt_iff_gt.mpr (by omega)
  change (⟨Float.Model.pack (Float.Model.UnpackedFloat.normalize .binary64
    digits.toUInt64.toNat 0 .positive)⟩ : Float) = _
  rw [hnat, Float.Model.UnpackedFloat.normalize, hcompare]
  change (⟨Float.Model.pack (Float.Model.UnpackedFloat.round .binary64 .positive digits 0)⟩ :
    Float) = _
  rw [hround]
  rfl

/-- The number is the power of ten. -/
def isPowerOfTen (n : ℕ) : Float.Model.UnpackedFloat → Bool
  | .finite .positive m e _ => m * 2 ^ e.toNat = 10 ^ n * 2 ^ (-e).toNat
  | _ => false

theorem exists_of_isPowerOfTen {n : ℕ} {unpacked : Float.Model.UnpackedFloat}
    (hpower : isPowerOfTen n unpacked) :
    ∃ m e hpos, unpacked = .finite .positive m e hpos ∧ (m * 2 ^ e : ℚ) = 10 ^ n := by
  cases unpacked with
  | finite sign m e hpos =>
      cases sign with
      | negative => exact absurd hpower Bool.false_ne_true
      | positive =>
          have hequal : (m : ℚ) * 2 ^ e.toNat = 10 ^ n * 2 ^ (-e).toNat := by
            exact_mod_cast of_decide_eq_true hpower
          have hsplit : e = e.toNat - (-e).toNat := by omega
          refine ⟨m, e, hpos, rfl, ?_⟩
          rw [hsplit, zpow_sub₀ two_ne_zero, zpow_natCast, zpow_natCast, ← mul_div_assoc, hequal,
            mul_div_cancel_right₀ _ (pow_pos two_pos _).ne']
  | _ => exact absurd hpower Bool.false_ne_true

/-- The powers of ten in the table are exact. -/
theorem isPowerOfTen_table : ∀ n : Fin Float.exactlyRepresentablePowersOfTen.size,
    isPowerOfTen n Float.exactlyRepresentablePowersOfTen[n].toModel.unpack := by
  decide +kernel

theorem mul_eq_pack (x y : Float) :
    x * y = ⟨Float.Model.pack (mul .binary64 x.toModel.unpack y.toModel.unpack)⟩ := rfl

theorem div_eq_pack (x y : Float) :
    x / y = ⟨Float.Model.pack (div .binary64 x.toModel.unpack y.toModel.unpack)⟩ := rfl

/-- A decimal that rounds to a stored number is turned into it. -/
theorem floatOfScientific_eq (hstored : Stored m e) (hpos : 0 < digits)
    (hrounds : RoundsTo (digits * 10 ^ exponent) m e) :
    Float.ofScientific digits (exponent < 0) exponent.natAbs = number .positive hstored := by
  unfold Float.ofScientific
  split
  · -- Both numbers are exact, and the result is rounded once.
    rename_i hsmall
    have hsize : exponent.natAbs < Float.exactlyRepresentablePowersOfTen.size :=
      Nat.lt_succ_of_le hsmall.2
    obtain ⟨p, k, hpos', hpower, hten⟩ :=
      exists_of_isPowerOfTen (isPowerOfTen_table ⟨exponent.natAbs, hsize⟩)
    obtain ⟨m', e', hstored', hvalue, hfull, hfloat⟩ := toFloat_eq hpos hsmall.1
    change Float.Model.unpack (Float.exactlyRepresentablePowersOfTen[exponent.natAbs]).toModel = _
      at hpower
    dsimp only at hten ⊢
    rw [hfloat, mul_eq_pack, div_eq_pack, unpack_number, hpower]
    by_cases hnegative : exponent < 0
    · have hexponent : exponent = -(exponent.natAbs : ℤ) := by omega
      rw [hexponent, hvalue, zpow_neg, zpow_natCast, ← hten, ← div_eq_mul_inv] at hrounds
      rw [if_pos (decide_eq_true hnegative), hrounds.div_eq hstored]
      rfl
    · have hexponent : exponent = (exponent.natAbs : ℤ) := by omega
      rw [hexponent, hvalue, zpow_natCast, ← hten] at hrounds
      have hproduct : 2 ^ 52 ≤ m' * p := hfull.trans (Nat.le_mul_of_pos_right _ hpos')
      rw [if_neg (by simpa using hnegative), hrounds.mul_eq hstored _ _ hproduct]
      rfl
  · have hexponent : (if decide (exponent < 0) then Int.negOfNat exponent.natAbs
        else Int.ofNat exponent.natAbs) = exponent := by
      cases exponent with
      | ofNat n => rfl
      | negSucc n => exact if_pos (decide_eq_true (Int.negSucc_lt_zero n))
    dsimp only
    rw [hexponent, Float.Model.ofScientific, ofScientific_eq hstored hpos hrounds]
    rfl

/-- A decimal lies between the powers of ten that the count of its digits tells. -/
theorem scientific_bounds (hpos : 0 < digits) (exponent : ℤ) :
    (10 : ℚ) ^ (exponent + (Nat.toDigits 10 digits).length - 1) ≤ digits * 10 ^ exponent ∧
      (digits * 10 ^ exponent : ℚ) < 10 ^ (exponent + (Nat.toDigits 10 digits).length) := by
  have hunit : (0 : ℚ) < 10 ^ exponent := zpow_pos (by norm_num) exponent
  obtain ⟨more, hlength⟩ : ∃ more, (Nat.toDigits 10 digits).length = more + 1 :=
    Nat.exists_eq_add_one.mpr Nat.length_toDigits_pos
  have hless : digits < 10 ^ (more + 1) :=
    (Nat.length_toDigits_le_iff (by decide) (Nat.succ_pos more)).mp hlength.le
  have hle : 10 ^ more ≤ digits := by
    by_contra hsmall
    rcases Nat.eq_zero_or_pos more with rfl | hmore
    · exact hsmall hpos
    · have := (Nat.length_toDigits_le_iff (by decide) hmore).mpr (Nat.not_le.mp hsmall)
      omega
  have hless' : (digits : ℚ) < 10 ^ (more + 1) := by exact_mod_cast hless
  have hle' : (10 : ℚ) ^ more ≤ digits := by exact_mod_cast hle
  have hten : (10 : ℚ) ≠ 0 := by norm_num
  have hlow : exponent + ((more + 1 : ℕ) : ℤ) - 1 = more + exponent := by omega
  rw [hlength, hlow, zpow_add₀ hten, add_comm exponent, zpow_add₀ hten, zpow_natCast, zpow_natCast]
  exact ⟨mul_le_mul_of_nonneg_right hle' hunit.le, mul_lt_mul_of_pos_right hless' hunit⟩

/-- Ten is more than three bits. -/
theorem two_zpow_le {n : ℤ} (hn : 0 ≤ n) : (2 : ℚ) ^ (3 * n) ≤ 10 ^ n := by
  rw [zpow_mul]
  exact zpow_le_zpow_left₀ hn (by norm_num) (by norm_num)

/-- The number that is nearest to a decimal is the one that the decimal rounds to. -/
theorem nearest_eq (hstored : Stored m e) (hrounds : RoundsTo (digits * 10 ^ exponent) m e) :
    nearest digits exponent = number .positive hstored := by
  obtain ⟨hlow, hhigh⟩ := hrounds.bounds hstored
  have hpos : 0 < digits := by
    by_contra hzero
    obtain rfl : digits = 0 := by omega
    rw [Nat.cast_zero, zero_mul] at hlow
    exact absurd hlow (not_le.mpr (zpow_pos two_pos _))
  obtain ⟨hbelow, habove⟩ := scientific_bounds hpos exponent
  generalize htop : exponent + ((Nat.toDigits 10 digits).length : ℤ) = top at hbelow habove
  -- The decimal is neither infinite nor zero beforehand: it would be out of reach of the number.
  have hmost : top ≤ 400 := by
    by_contra hlarge
    have htwo := (two_zpow_le (n := top - 1) (by omega)).trans_lt (hbelow.trans_lt hhigh)
    have := (zpow_lt_zpow_iff_right₀ one_lt_two).mp htwo
    omega
  have hleast : -400 ≤ top := by
    by_contra hsmall
    have htwo := two_zpow_le (n := -top) (by omega)
    rw [mul_neg, zpow_neg, zpow_neg, inv_le_inv₀ (zpow_pos two_pos _) (zpow_pos (by norm_num) _)]
      at htwo
    have := (zpow_lt_zpow_iff_right₀ one_lt_two).mp (hlow.trans_lt (habove.trans_le htwo))
    omega
  rw [nearest, htop, if_neg (by omega), if_neg (by omega)]
  exact floatOfScientific_eq hstored hpos hrounds

end Scientific

end TableTypes.Decimal
