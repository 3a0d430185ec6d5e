import TableTypes.Decimal.Fields
import TableTypes.Proofs.Decimal.Rounding

/-! # How floating-point numbers are stored

The fields of a floating-point number that is finite and not zero hold a mantissa and an exponent,
and all mantissas and exponents that are stored are held by some fields. Packing and unpacking a
number go back and forth between the two, so a number is given by its sign, its mantissa and its
exponent.
-/

namespace TableTypes.Decimal

open Float.Model (Format)
open Float.Model.UnpackedFloat

section Components

variable {sign : Sign} {exponent : BitVec 11} {fraction : BitVec 52}

theorem toNat_packComponents :
    (packComponents .binary64 sign exponent fraction).toNat =
      sign.toBitVec.toNat * 2 ^ 63 + exponent.toNat * 2 ^ 52 + fraction.toNat := by
  have hexponent := exponent.isLt
  have hfraction := fraction.isLt
  rw [packComponents, BitVec.toNat_append, ← Nat.shiftLeft_add_eq_or_of_lt hfraction,
    BitVec.toNat_append, ← Nat.shiftLeft_add_eq_or_of_lt hexponent]
  simp only [Nat.shiftLeft_eq]
  omega

theorem ofBitVec_unpackSign :
    Sign.ofBitVec (unpackSign (packComponents .binary64 sign exponent fraction)) = sign := by
  have hexponent := exponent.isLt
  have hfraction := fraction.isLt
  have hbit : (unpackSign (packComponents .binary64 sign exponent fraction)).toNat =
      sign.toBitVec.toNat := by
    have hsign := sign.toBitVec.isLt
    unfold unpackSign
    rw [BitVec.toNat_cast, BitVec.extractLsb_toNat, toNat_packComponents,
      Nat.shiftRight_eq_div_pow]
    norm_num
    omega
  rw [BitVec.eq_of_toNat_eq hbit]
  cases sign <;> rfl

/-- Bits with no exponent are unpacked to their fraction. -/
theorem unpack_least {b : BitVec 64} {k : ℕ} (hexponent : @unpackExponent .binary64 b = 0#11)
    (hfraction : (@unpackMantissa .binary64 b).toNat = k)
    (hsign : Sign.ofBitVec (@unpackSign .binary64 b) = sign) (hpos : 0 < k) :
    unpack .binary64 b = .finite sign k (-1074) hpos := by
  subst hfraction hsign
  have hlast : @unpackExponent .binary64 b ≠ -1#11 := by
    rw [hexponent]
    decide
  have hne : @unpackMantissa .binary64 b ≠ 0#52 := by
    intro hzero
    rw [hzero] at hpos
    cases hpos
  refine (if_neg hlast).trans ((if_pos hexponent).trans ((dif_neg hne).trans ?_))
  rw [hexponent]
  rfl

/-- Other bits of a finite number are unpacked with the leading bit of the mantissa in front. -/
theorem unpack_full {b : BitVec 64} {k n : ℕ} (hexponent : (@unpackExponent .binary64 b).toNat = n)
    (hpos : 0 < n) (hlast : n < 0x7FF) (hfraction : (@unpackMantissa .binary64 b).toNat = k)
    (hsign : Sign.ofBitVec (@unpackSign .binary64 b) = sign) (hmantissa : 0 < k + 2 ^ 52) :
    unpack .binary64 b = .finite sign (k + 2 ^ 52) (n - 1075) hmantissa := by
  have hne : @unpackExponent .binary64 b ≠ 0#11 := by
    intro hzero
    rw [hzero] at hexponent
    exact hpos.ne hexponent
  have hne' : @unpackExponent .binary64 b ≠ -1#11 := by
    intro hones
    rw [hones] at hexponent
    exact hlast.ne' hexponent
  have hbits : (1#1 ++ @unpackMantissa .binary64 b).toNat = k + 2 ^ 52 := by
    rw [BitVec.toNat_append, hfraction, ← Nat.shiftLeft_add_eq_or_of_lt (by omega)]
    simp [Nat.shiftLeft_eq, Nat.add_comm]
  refine (if_neg hne').trans ((if_neg hne).trans ?_)
  rw [finite.injEq]
  exact ⟨hsign, hbits, by rw [hexponent]; rfl⟩

/-- Bits are those of a finite number unless the exponent is the greatest one. -/
theorem isFinite_unpack (b : BitVec 64) :
    (unpack .binary64 b).isFinite = decide ((@unpackExponent .binary64 b).toNat ≠ 0x7FF) := by
  by_cases hlast : (@unpackExponent .binary64 b).toNat = 0x7FF
  · have hones : @unpackExponent .binary64 b = -1#11 := BitVec.eq_of_toNat_eq hlast
    rw [decide_eq_false (not_not_intro hlast)]
    by_cases hzero : @unpackMantissa .binary64 b = 0#52
    · exact congrArg _ ((if_pos hones).trans (if_pos hzero))
    · exact congrArg _ ((if_pos hones).trans (if_neg hzero))
  · have hones : @unpackExponent .binary64 b ≠ -1#11 := fun hones =>
      hlast (congrArg BitVec.toNat hones)
    rw [decide_eq_true hlast]
    by_cases hleast : @unpackExponent .binary64 b = 0#11
    · by_cases hzero : @unpackMantissa .binary64 b = 0#52
      · exact congrArg _ ((if_neg hones).trans ((if_pos hleast).trans (dif_pos hzero)))
      · have hpos : (@unpackMantissa .binary64 b).toNat ≠ 0 := fun hnat =>
          hzero (BitVec.eq_of_toNat_eq hnat)
        rw [unpack_least hleast rfl rfl (Nat.pos_of_ne_zero hpos)]
        rfl
    · have hpos : (@unpackExponent .binary64 b).toNat ≠ 0 := fun hnat =>
        hleast (BitVec.eq_of_toNat_eq hnat)
      have hless : (@unpackExponent .binary64 b).toNat < 2 ^ 11 := BitVec.isLt _
      rw [unpack_full rfl (Nat.pos_of_ne_zero hpos) (by omega) rfl rfl (by omega)]
      rfl

end Components

/-- The fields hold a mantissa and an exponent. The leading bit of a mantissa of 53 bits is left
out. -/
inductive Fields.Hold (fields : Fields) : ℕ → ℤ → Prop where
  | least (hexponent : fields.exponent = 0) (hfraction : fields.fraction < 2 ^ 52)
      (hpos : 0 < fields.fraction) : fields.Hold fields.fraction (-1074)
  | full (hpos : 0 < fields.exponent) (hexponent : fields.exponent < 0x7FF)
      (hfraction : fields.fraction < 2 ^ 52) :
      fields.Hold (fields.fraction + 2 ^ 52) (fields.exponent - 1075)

section Fields

variable {fields : Fields} {m : ℕ} {e : ℤ}

theorem Fields.Hold.stored (hold : fields.Hold m e) : Stored m e := by
  cases hold with
  | least hexponent hfraction hpos => exact ⟨hpos, by omega, by omega, by omega, Or.inr rfl⟩
  | full hpos hexponent hfraction =>
      exact ⟨by omega, by omega, by omega, by omega, Or.inl (by omega)⟩

/-- All that is stored is held by fields. -/
theorem Stored.exists_hold (hstored : Stored m e) : ∃ fields : Fields, fields.Hold m e := by
  obtain ⟨hpos, hlt, hleast, hgreatest, hfull⟩ := hstored
  by_cases hm : 2 ^ 52 ≤ m
  · -- The leading bit is left out, and the exponent counts from below the least one.
    let fields : Fields := ⟨false, (e + 1075).toNat, m - 2 ^ 52⟩
    have hexponent : (fields.exponent : ℤ) = e + 1075 := Int.toNat_of_nonneg (by omega)
    have hfraction : fields.fraction + 2 ^ 52 = m := Nat.sub_add_cancel hm
    have hold : fields.Hold (fields.fraction + 2 ^ 52) (fields.exponent - 1075) :=
      .full (by omega) (by omega) (by omega)
    rw [hfraction, hexponent, add_sub_cancel_right] at hold
    exact ⟨fields, hold⟩
  · obtain rfl := hfull.resolve_left hm
    exact ⟨⟨false, 0, m⟩, .least rfl (Nat.not_le.mp hm) hpos⟩

theorem Fields.Hold.pack_eq (hold : fields.Hold m e) (sign : Sign) :
    pack .binary64 (.finite sign m e hold.stored.pos) =
      packComponents .binary64 sign (.ofNat 11 fields.exponent) (.ofNat 52 fields.fraction) := by
  cases hold with
  | least hexponent hfraction hpos =>
      have hlog : fields.fraction.log2 < 52 := (Nat.log2_lt hpos.ne').mpr hfraction
      have hbits : fields.fraction.log2 + 1 ≠ Format.binary64.mantissaBits := by
        change fields.fraction.log2 + 1 ≠ 53
        omega
      rw [hexponent]
      unfold pack
      dsimp only
      rw [if_neg (by decide), if_neg hbits]
  | full hpos hexponent hfraction =>
      have hlog : (fields.fraction + 2 ^ 52).log2 = 52 :=
        (Nat.log2_eq_iff (by omega)).mpr ⟨by omega, by omega⟩
      have hbiased : ((fields.exponent : ℤ) - 1075 + Format.binary64.exponentBias +
          (52 : ℕ)).toNat = fields.exponent := by
        change ((fields.exponent : ℤ) - 1075 + 1023 + 52).toNat = fields.exponent
        omega
      have hfraction' : BitVec.ofNat 52 (fields.fraction + 2 ^ 52) =
          BitVec.ofNat 52 fields.fraction := by
        apply BitVec.eq_of_toNat_eq
        rw [BitVec.toNat_ofNat, BitVec.toNat_ofNat, Nat.add_mod_right]
      unfold pack
      dsimp only
      rw [hbiased, if_neg (by omega), hlog, if_pos (by rfl), hfraction']

theorem Fields.Hold.unpack_eq (hold : fields.Hold m e) (sign : Sign) :
    unpack .binary64 (packComponents .binary64 sign (.ofNat 11 fields.exponent)
        (.ofNat 52 fields.fraction)) = .finite sign m e hold.stored.pos := by
  have hmantissa : ∀ {n}, n < 2 ^ 52 → (BitVec.ofNat 52 n).toNat = n := by
    intro n hn
    rw [BitVec.toNat_ofNat, Nat.mod_eq_of_lt hn]
  cases hold with
  | least hexponent hfraction hpos =>
      refine unpack_least ?_ ?_ ofBitVec_unpackSign hpos
      · rw [unpackExponent_packComponents, hexponent]
      · rw [unpackMantissa_packComponents, hmantissa hfraction]
  | full hpos hexponent hfraction =>
      refine unpack_full ?_ hpos hexponent ?_ ofBitVec_unpackSign _
      · have hbound : fields.exponent < 2 ^ 11 := by omega
        rw [unpackExponent_packComponents, BitVec.toNat_ofNat]
        exact Nat.mod_eq_of_lt hbound
      · rw [unpackMantissa_packComponents, hmantissa hfraction]

/-- The floating-point number with the sign, the mantissa and the exponent. -/
def number (sign : Sign) (hstored : Stored m e) : Float :=
  ⟨Float.Model.pack (.finite sign m e hstored.pos)⟩

theorem unpack_number (sign : Sign) (hstored : Stored m e) :
    (number sign hstored).toModel.unpack = .finite sign m e hstored.pos := by
  obtain ⟨fields, hold⟩ := hstored.exists_hold
  change unpack .binary64 (pack .binary64 (.finite sign m e hstored.pos)) = _
  rw [hold.pack_eq sign, hold.unpack_eq sign]

theorem neg_number (hstored : Stored m e) :
    -number .positive hstored = number .negative hstored := by
  change (⟨Float.Model.pack (number .positive hstored).toModel.unpack.neg⟩ : Float) = _
  rw [unpack_number]
  rfl

/-- The sign that a number is stored with. -/
def Fields.sign (fields : Fields) : Sign :=
  if fields.negative then .negative else .positive

theorem Fields.lt_of_ofFloat (x : Float) :
    (Fields.ofFloat x).exponent < 2 ^ 11 ∧ (Fields.ofFloat x).fraction < 2 ^ 52 :=
  ⟨Nat.mod_lt _ (by decide), Nat.mod_lt _ (by decide)⟩

/-- The fields of a number make up its bits. -/
theorem toNat_toBits (x : Float) :
    x.toBits.toNat = (Fields.ofFloat x).sign.toBitVec.toNat * 2 ^ 63 +
      (Fields.ofFloat x).exponent * 2 ^ 52 + (Fields.ofFloat x).fraction := by
  have hbits : x.toBits.toNat < 2 ^ 64 := x.toBits.toBitVec.isLt
  have hsign : (Fields.ofFloat x).sign.toBitVec.toNat = x.toBits.toNat / 2 ^ 63 := by
    have hone : x.toBits.toNat / 2 ^ 63 = 0 ∨ x.toBits.toNat / 2 ^ 63 = 1 := by omega
    rw [Fields.sign, Fields.ofFloat]
    simp only [Nat.reducePow] at hone ⊢
    rcases hone with hone | hone <;> simp [hone, Sign.toBitVec]
  rw [hsign]
  change _ = _ + x.toBits.toNat / 2 ^ 52 % 2 ^ 11 * 2 ^ 52 + x.toBits.toNat % 2 ^ 52
  omega

/-- A number is finite unless its exponent is the greatest one. -/
theorem isFinite_ofFloat (x : Float) : (Fields.ofFloat x).isFinite = x.isFinite := by
  have hbits : (@unpackExponent .binary64 x.toBits.toBitVec).toNat =
      (Fields.ofFloat x).exponent := by
    rw [unpackExponent, BitVec.toNat_cast, BitVec.extractLsb_toNat, Nat.shiftRight_eq_div_pow]
    rfl
  change _ = (unpack .binary64 x.toBits.toBitVec).isFinite
  rw [isFinite_unpack, hbits, Fields.isFinite]

theorem eq_of_toBits_eq {x y : Float} (hbits : x.toBits = y.toBits) : x = y := by
  obtain ⟨⟨bits, _⟩⟩ := x
  obtain ⟨⟨bits', _⟩⟩ := y
  obtain rfl : bits = bits' := hbits
  rfl

/-- A number is given by its fields. -/
theorem number_eq {x : Float} (hold : (Fields.ofFloat x).Hold m e) :
    number (Fields.ofFloat x).sign hold.stored = x := by
  obtain ⟨hexponent, hfraction⟩ := Fields.lt_of_ofFloat x
  have hbits : pack .binary64 (.finite (Fields.ofFloat x).sign m e hold.stored.pos) =
      x.toBits.toBitVec := by
    apply BitVec.eq_of_toNat_eq
    rw [hold.pack_eq, toNat_packComponents, BitVec.toNat_ofNat, BitVec.toNat_ofNat,
      Nat.mod_eq_of_lt hexponent, Nat.mod_eq_of_lt hfraction]
    exact (toNat_toBits x).symm
  exact eq_of_toBits_eq (UInt64.toBitVec_inj.mp hbits)

/-- There are two zeros. -/
theorem zero_eq {x : Float} (hzero : (Fields.ofFloat x).isZero) :
    (if (Fields.ofFloat x).negative then -0 else 0) = x := by
  simp only [Fields.isZero, Bool.and_eq_true, decide_eq_true_eq] at hzero
  have hbits := toNat_toBits x
  rw [hzero.1, hzero.2, Fields.sign] at hbits
  apply eq_of_toBits_eq
  apply UInt64.toNat_inj.mp
  rw [hbits]
  split
  · decide +kernel
  · decide +kernel

/-- The fields of a number that is finite and not zero hold a mantissa and an exponent. -/
theorem exists_hold_ofFloat {x : Float} (hfinite : (Fields.ofFloat x).isFinite = true)
    (hzero : (Fields.ofFloat x).isZero = false) : ∃ m e, (Fields.ofFloat x).Hold m e := by
  obtain ⟨hexponent, hfraction⟩ := Fields.lt_of_ofFloat x
  simp only [Fields.isFinite, decide_eq_true_eq] at hfinite
  simp only [Fields.isZero, Bool.and_eq_false_iff, decide_eq_false_iff_not] at hzero
  by_cases hleast : (Fields.ofFloat x).exponent = 0
  · have hpos := Nat.pos_of_ne_zero (hzero.resolve_left (not_not_intro hleast))
    exact ⟨_, _, .least hleast hfraction hpos⟩
  · exact ⟨_, _, .full (Nat.pos_of_ne_zero hleast) (by omega) hfraction⟩

end Fields

end TableTypes.Decimal
