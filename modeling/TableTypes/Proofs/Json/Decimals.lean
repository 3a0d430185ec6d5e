import TableTypes.Proofs.Decimal.Shortest
import TableTypes.Proofs.Json.Numbers

/-! # Numbers with a point are read back

The text of a finite floating-point number has the digits of its shortest decimal, and a point or
an exponent. Wherever the point stands, the decimal that is read has the value of the shortest
one, so the number that is nearest to it is the one that was written.
-/

namespace TableTypes.Json

open Decimal (Scaled)

section Rows

variable {s t : List Char}

theorem isRow_zero : IsRow ['0'] :=
  isRow_toDigits 0

theorem IsRow.append (hs : IsRow s) (ht : ∀ c ∈ t, c.isDigit) : IsRow (s ++ t) :=
  ⟨List.append_ne_nil_of_left_ne_nil hs.nonempty t, List.forall_mem_append.mpr ⟨hs.digits, ht⟩⟩

theorem IsRow.prepend (hs : IsRow s) (ht : ∀ c ∈ t, c.isDigit) : IsRow (t ++ s) :=
  ⟨List.append_ne_nil_of_right_ne_nil t hs.nonempty, List.forall_mem_append.mpr ⟨ht, hs.digits⟩⟩

theorem IsRow.digits_drop (hs : IsRow s) (n : ℕ) : ∀ c ∈ s.drop n, c.isDigit :=
  fun c hc => hs.digits c (List.mem_of_mem_drop hc)

theorem IsRow.drop (hs : IsRow s) {n : ℕ} (hne : s.drop n ≠ []) : IsRow (s.drop n) :=
  ⟨hne, hs.digits_drop n⟩

theorem IsRow.take (hs : IsRow s) (n : ℕ) : IsRow (s.take (n + 1)) :=
  ⟨by simpa using hs.nonempty, fun c hc => hs.digits c (List.mem_of_mem_take hc)⟩

theorem isDigit_zeros (n : ℕ) : ∀ c ∈ List.replicate n '0', c.isDigit := by
  intro c hc
  rw [List.eq_of_mem_replicate hc]
  rfl

theorem ofDigits_append (s t : List Char) :
    ofDigits (s ++ t) = 10 ^ t.length * ofDigits s + ofDigits t := by
  calc Nat.ofDigitChars 10 (s ++ t) 0
      = Nat.ofDigitChars 10 t (Nat.ofDigitChars 10 s 0) := Nat.ofDigitChars_append 0
    _ = _ := Nat.ofDigitChars_eq_ofDigitChars_zero

theorem ofDigits_zeros (n : ℕ) : ofDigits (List.replicate n '0') = 0 :=
  Nat.ofDigitChars_replicate_zero (b := 10)

end Rows

section Texts

variable {whole fraction t : List Char} {exponent : Option ℤ} {n : ℤ}

/-- With a sign or without one, the text is read as the number that is nearest to the decimal. -/
def Denotes (s : List Char) (d : Scaled) : Prop :=
  ∀ negative : Bool, readNumber? (if negative then '-' :: s else s) =
    some (.float (if negative then -Decimal.nearest d.digits d.exponent
      else Decimal.nearest d.digits d.exponent), [])

/-- A number that is no integer is read from its parts. -/
theorem denotes_of_parts (hwhole : IsRow whole) (ht : ∀ c ∈ t.head?, c.isDigit = false)
    {u : List Char} (hfraction : readFraction? t = some (fraction, u))
    (hexponent : readExponent? u = some (exponent, []))
    (hpoint : fraction ≠ [] ∨ exponent ≠ none) :
    Denotes (whole ++ t) ⟨ofDigits (whole ++ fraction), exponent.getD 0 - fraction.length⟩ := by
  have hnumber : ∀ negative, numberOf negative whole fraction exponent = .float (if negative then
      -Decimal.nearest (ofDigits (whole ++ fraction)) (exponent.getD 0 - fraction.length)
      else Decimal.nearest (ofDigits (whole ++ fraction)) (exponent.getD 0 - fraction.length)) := by
    intro negative
    refine if_neg ?_
    rw [List.isEmpty_iff]
    tauto
  intro negative
  have hsign : numberSign (if negative then '-' :: (whole ++ t) else whole ++ t) =
      (negative, whole ++ t) := by
    cases negative with
    | false => exact hwhole.numberSign t
    | true => rfl
  rw [readNumber?_eq, hsign, ← hnumber]
  simp [hwhole.readDigits? ht, hfraction, hexponent]

theorem denotes_point (hwhole : IsRow whole) (hfraction : IsRow fraction) :
    Denotes (whole ++ '.' :: fraction) ⟨ofDigits (whole ++ fraction), -fraction.length⟩ := by
  have hread : readFraction? ('.' :: fraction) = some (fraction, []) := hfraction.readDigits?_self
  have hparts := denotes_of_parts hwhole (by simp) hread rfl (Or.inl hfraction.nonempty)
  rwa [Option.getD_none, zero_sub] at hparts

theorem isRow_padded (width n : ℕ) : IsRow (padded width n).toList := by
  rw [padded, String.toList_ofList]
  exact (isRow_toDigits n).prepend (isDigit_zeros _)

theorem ofDigits_padded (width n : ℕ) : ofDigits (padded width n).toList = n := by
  rw [padded, String.toList_ofList, ofDigits_append, ofDigits_zeros, ofDigits_toDigits]
  omega

/-- An exponent is read with its sign. -/
theorem readExponent?_row {s : List Char} (hs : IsRow s) (hvalue : ofDigits s = n.natAbs) :
    readExponent? ('e' :: (if n < 0 then '-' else '+') :: s) = some (some n, []) := by
  rw [readExponent?_cons (Or.inl rfl)]
  by_cases hnegative : n < 0
  · rw [if_pos hnegative]
    change (readDigits? s).map _ = _
    rw [hs.readDigits?_self, Option.map_some]
    simp [exponentSign, hvalue, abs_of_neg hnegative]
  · rw [if_neg hnegative]
    change (readDigits? s).map _ = _
    rw [hs.readDigits?_self, Option.map_some]
    simp [exponentSign, hvalue, abs_of_nonneg (not_lt.mp hnegative)]

/-- A number with an exponent has a point only if there are digits behind it. -/
theorem denotes_exponent {s : List Char} (hwhole : IsRow whole)
    (hfraction : ∀ c ∈ fraction, c.isDigit) (hs : IsRow s) (hvalue : ofDigits s = n.natAbs) :
    Denotes (whole ++ ((if fraction = [] then [] else '.' :: fraction) ++
        'e' :: (if n < 0 then '-' else '+') :: s))
      ⟨ofDigits (whole ++ fraction), n - fraction.length⟩ := by
  have hread : readFraction? ((if fraction = [] then [] else '.' :: fraction) ++
      'e' :: (if n < 0 then '-' else '+') :: s) =
      some (fraction, 'e' :: (if n < 0 then '-' else '+') :: s) := by
    split
    · rename_i hnone
      rw [hnone]
      rfl
    · rename_i hsome
      exact IsRow.readDigits? ⟨hsome, hfraction⟩ (by simp)
  have hstart : ∀ c ∈ ((if fraction = [] then [] else '.' :: fraction) ++
      'e' :: (if n < 0 then '-' else '+') :: s).head?, c.isDigit = false := by
    split <;> simp
  have hparts := denotes_of_parts hwhole hstart hread (readExponent?_row hs hvalue)
    (Or.inr (Option.some_ne_none n))
  rwa [Option.getD_some] at hparts

end Texts

section Layouts

variable {digits : List Char} {n : ℕ} {exponent top : ℤ} (hrow : IsRow digits)
  (hvalue : ofDigits digits = n) (htop : exponent + digits.length - 1 = top)

include hrow hvalue htop

/-- The point stands in front of the digits, and zeros between them. -/
theorem denotes_pointInFront (hsmall : top < 0) :
    Denotes ("0." ++ String.ofList (List.replicate (-top - 1).toNat '0' ++ digits)).toList
      ⟨n, exponent⟩ := by
  have htext : ("0." ++ String.ofList (List.replicate (-top - 1).toNat '0' ++ digits)).toList =
      ['0'] ++ '.' :: (List.replicate (-top - 1).toNat '0' ++ digits) := by
    simp
  have hdigits : ofDigits (['0'] ++ (List.replicate (-top - 1).toNat '0' ++ digits)) = n := by
    rw [ofDigits_append, ofDigits_append, ofDigits_zeros, hvalue]
    simp [ofDigits]
  have hexponent :
      -((List.replicate (-top - 1).toNat '0' ++ digits).length : ℤ) = exponent := by
    rw [List.length_append, List.length_replicate]
    omega
  have hpoint := denotes_point isRow_zero (hrow.prepend (isDigit_zeros (-top - 1).toNat))
  rw [htext]
  rwa [hdigits, hexponent] at hpoint

/-- The point stands among the digits. -/
theorem denotes_pointInside (hlarge : 0 ≤ top) (hmore : digits.drop (top.toNat + 1) ≠ []) :
    Denotes (String.ofList (digits.take (top.toNat + 1) ++
        List.replicate (top.toNat + 1 - (digits.take (top.toNat + 1)).length) '0') ++ "." ++
          String.ofList (digits.drop (top.toNat + 1))).toList ⟨n, exponent⟩ := by
  have hlong : top.toNat + 1 < digits.length := by simpa using hmore
  have hwhole : (digits.take (top.toNat + 1)).length = top.toNat + 1 :=
    List.length_take_of_le hlong.le
  have htext : (String.ofList (digits.take (top.toNat + 1) ++
      List.replicate (top.toNat + 1 - (digits.take (top.toNat + 1)).length) '0') ++ "." ++
        String.ofList (digits.drop (top.toNat + 1))).toList =
      digits.take (top.toNat + 1) ++ '.' :: digits.drop (top.toNat + 1) := by
    simp [hwhole]
  have hexponent : -((digits.drop (top.toNat + 1)).length : ℤ) = exponent := by
    rw [List.length_drop]
    omega
  have hpoint := denotes_point (hrow.take top.toNat) (hrow.drop hmore)
  rw [htext]
  rwa [List.take_append_drop, hvalue, hexponent] at hpoint

/-- The point stands behind the digits and zeros that fill up to it. -/
theorem denotes_pointBehind (hlarge : 0 ≤ top) (hnone : digits.drop (top.toNat + 1) = []) :
    ∃ d : Scaled, d.value = (Scaled.mk n exponent).value ∧
      Denotes (String.ofList (digits.take (top.toNat + 1) ++
        List.replicate (top.toNat + 1 - (digits.take (top.toNat + 1)).length) '0') ++ "." ++
          "0").toList d := by
  have hshort : digits.length ≤ top.toNat + 1 := List.drop_eq_nil_iff.mp hnone
  obtain ⟨zeros, hzeros⟩ : ∃ zeros, top.toNat + 1 - digits.length = zeros := ⟨_, rfl⟩
  obtain rfl : exponent = zeros := by omega
  rw [List.take_of_length_le hshort, hzeros]
  have htext : (String.ofList (digits ++ List.replicate zeros '0') ++ "." ++ "0").toList =
      (digits ++ List.replicate zeros '0') ++ '.' :: ['0'] := by
    simp
  have hdigits :
      ofDigits (digits ++ List.replicate zeros '0' ++ ['0']) = 10 * (10 ^ zeros * n) := by
    rw [ofDigits_append, ofDigits_append, ofDigits_zeros, hvalue, List.length_replicate]
    rfl
  have hpoint := denotes_point (hrow.append (isDigit_zeros zeros)) isRow_zero
  rw [hdigits] at hpoint
  rw [htext]
  refine ⟨_, ?_, hpoint⟩
  simp [Scaled.value]
  ring

/-- The first digit stands in front of the point, and an exponent behind the others. -/
theorem denotes_leading (width : ℕ) :
    Denotes (String.ofList (digits.take 1) ++
        (if digits.length = 1 then "" else "." ++ String.ofList (digits.drop 1)) ++ "e" ++
          (if top < 0 then "-" else "+") ++ padded width top.natAbs).toList ⟨n, exponent⟩ := by
  have hlength : 0 < digits.length := List.length_pos_iff.mpr hrow.nonempty
  have hone : digits.drop 1 = [] ↔ digits.length = 1 := by
    rw [List.drop_eq_nil_iff]
    omega
  have htext : (String.ofList (digits.take 1) ++
      (if digits.length = 1 then "" else "." ++ String.ofList (digits.drop 1)) ++ "e" ++
        (if top < 0 then "-" else "+") ++ padded width top.natAbs).toList =
      digits.take 1 ++ ((if digits.drop 1 = [] then [] else '.' :: digits.drop 1) ++
        'e' :: (if top < 0 then '-' else '+') :: (padded width top.natAbs).toList) := by
    rw [if_congr hone rfl rfl]
    split <;> split <;> simp
  have hexponent : top - ((digits.drop 1).length : ℤ) = exponent := by
    rw [List.length_drop]
    omega
  have hleading := denotes_exponent (hrow.take 0) (hrow.digits_drop 1)
    (isRow_padded width top.natAbs) (ofDigits_padded width top.natAbs)
  rw [htext]
  rwa [List.take_append_drop, hvalue, hexponent] at hleading

end Layouts

/-- A decimal is written as a text that stands for a decimal of the same value. -/
theorem exists_denotes_render (style : FloatStyle) (d : Scaled) :
    ∃ d' : Scaled, d'.value = d.value ∧ Denotes (style.render d).toList d' := by
  have hrow := isRow_toDigits d.digits
  have hvalue := ofDigits_toDigits d.digits
  unfold FloatStyle.render
  dsimp only
  -- The text has a point and no exponent, or an exponent; without one, the point may be anywhere.
  split
  · split
    · rename_i hsmall
      exact ⟨d, rfl, denotes_pointInFront hrow hvalue rfl hsmall⟩
    · rename_i hlarge
      split
      · rename_i hnone
        exact denotes_pointBehind hrow hvalue rfl (not_lt.mp hlarge) (List.isEmpty_iff.mp hnone)
      · rename_i hmore
        exact ⟨d, rfl, denotes_pointInside hrow hvalue rfl (not_lt.mp hlarge)
          (List.isEmpty_iff.not.mp hmore)⟩
  · exact ⟨d, rfl, denotes_leading hrow hvalue rfl _⟩

/-- A finite number with a point is read back from its text. -/
theorem readNumber?_float {x : Float} (hfinite : x.isFinite) :
    readNumber? (render (.float x)).toList = some (.float x, []) := by
  rw [← Decimal.isFinite_ofFloat] at hfinite
  have hsigned : ∀ (negative : Bool) (s : String),
      ((if negative then "-" else "") ++ s).toList =
        if negative then '-' :: s.toList else s.toList := by
    intro negative s
    cases negative <;> simp
  rw [render, floatText]
  dsimp only
  rw [if_neg (by simp [hfinite])]
  split
  · -- Zero has no shortest decimal, but keeps its sign.
    rename_i hzero
    have hnearest : Decimal.nearest (ofDigits (['0'] ++ ['0'])) (-(['0'].length : ℤ)) = 0 := by
      rw [Decimal.nearest]
      exact if_pos (Or.inl rfl)
    have hpoint := denotes_point isRow_zero isRow_zero (Decimal.Fields.ofFloat x).negative
    rw [hnearest, Decimal.zero_eq hzero] at hpoint
    rw [hsigned]
    exact hpoint
  · rename_i hzero
    obtain ⟨d, hvalue, hdenotes⟩ := exists_denotes_render floatStyle
      (Decimal.Binary.ofFields (Decimal.Fields.ofFloat x)).shortest
    rw [hsigned, hdenotes, Decimal.nearest_shortest hfinite (by simpa using hzero) hvalue]

end TableTypes.Json
