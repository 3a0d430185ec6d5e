import TableTypes.Text.Quoted

/-! # Quoted texts are read back

Every character is read back from what it is written as: from itself, from its short escape, or
from one or two units of four digits. No written character starts with a quote, so reading stops
at the closing quote and nowhere before it.
-/

namespace TableTypes.Text

section Digits

theorem hexValue?_hexDigit : ∀ n < 16, hexValue? (hexDigit n) = some n := by
  decide

theorem ofHex?_hex {n : Nat} (hn : n < 0x10000) : ofHex? (hex 4 n) = some n := by
  have hdigit : ∀ m, hexValue? (hexDigit (m % 16)) = some (m % 16) := fun m =>
    hexValue?_hexDigit _ (Nat.mod_lt _ (by decide))
  have hsum : 16 * (16 * (16 * (n / 4096 % 16) + n / 256 % 16) + n / 16 % 16) + n % 16 = n := by
    omega
  simp [ofHex?, hex, hdigit, hsum]

theorem readUnit?_hex {n : Nat} (hn : n < 0x10000) (rest : List Char) :
    readUnit? (hex 4 n ++ rest) = some (n, rest) := by
  have hread := ofHex?_hex hn
  simp only [hex] at hread ⊢
  rw [List.cons_append, List.cons_append, List.cons_append, List.cons_append, List.nil_append,
    readUnit?, hread]
  rfl

end Digits

section Characters

theorem toNat_cases (c : Char) : c.toNat < 0xD800 ∨ 0xDFFF < c.toNat ∧ c.toNat < 0x110000 :=
  c.valid

theorem readChar?_unit {c : Char} (hsmall : c.toNat < 0x10000) (rest : List Char) :
    readChar? (unitEscape c.toNat ++ rest) = some (c, rest) := by
  have hvalid := toNat_cases c
  have hlow : ¬ (0xD800 ≤ c.toNat ∧ c.toNat < 0xDC00) := by omega
  have hhigh : ¬ (0xDC00 ≤ c.toNat ∧ c.toNat < 0xE000) := by omega
  rw [unitEscape, List.cons_append, List.cons_append, readChar?, readUnit?_hex hsmall]
  simp [hlow, hhigh]

/-- A character outside the basic plane is written as two units. -/
theorem readChar?_pair {c : Char} (hlarge : 0x10000 ≤ c.toNat) (rest : List Char) :
    readChar? (unitEscape (0xD800 + (c.toNat - 0x10000) / 0x400) ++
      unitEscape (0xDC00 + (c.toNat - 0x10000) % 0x400) ++ rest) = some (c, rest) := by
  have hvalid := toNat_cases c
  let high := 0xD800 + (c.toNat - 0x10000) / 0x400
  let low := 0xDC00 + (c.toNat - 0x10000) % 0x400
  have hhigh : 0xD800 ≤ high ∧ high < 0xDC00 := by omega
  have hlow : 0xDC00 ≤ low ∧ low < 0xE000 := by omega
  have hboth : 0x10000 + (high - 0xD800) * 0x400 + (low - 0xDC00) = c.toNat := by omega
  change readChar? (unitEscape high ++ unitEscape low ++ rest) = _
  rw [List.append_assoc, unitEscape, unitEscape, List.cons_append, List.cons_append,
    List.cons_append, List.cons_append, readChar?, readUnit?_hex (by omega)]
  simp only [if_pos hhigh]
  rw [readUnit?_hex (by omega)]
  simp only [if_pos hlow, hboth, Char.ofNat_toNat]

theorem readChar?_plain {c : Char} (hquote : c ≠ '"') (hslash : c ≠ '\\') (hblank : 0x20 ≤ c.toNat)
    (rest : List Char) : readChar? (c :: rest) = some (c, rest) := by
  have hplain : ¬ (c = '"' ∨ c = '\\' ∨ c.toNat < 0x20) := by
    rintro (h | h | h)
    · exact hquote h
    · exact hslash h
    · omega
  rw [readChar?, if_neg hplain]
  · exact fun _ h _ => hslash h
  · exact fun _ _ h _ => hslash h

/-- Reading takes one written character back, whatever follows it. -/
theorem readChar?_escapeChar (c : Char) (rest : List Char) :
    readChar? (escapeChar c ++ rest) = some (c, rest) := by
  by_cases hquote : c = '"'
  · subst hquote
    rfl
  by_cases hslash : c = '\\'
  · subst hslash
    rfl
  by_cases hline : c = '\n'
  · subst hline
    rfl
  by_cases hreturn : c = '\r'
  · subst hreturn
    rfl
  by_cases htab : c = '\t'
  · subst htab
    rfl
  by_cases hback : c.toNat = 0x8
  · obtain rfl : c = '\x08' := Char.toNat_inj.mp hback
    rfl
  by_cases hfeed : c.toNat = 0xC
  · obtain rfl : c = '\x0c' := Char.toNat_inj.mp hfeed
    rfl
  simp only [escapeChar, hquote, hslash, hline, hreturn, htab, hback, hfeed, if_false]
  split
  · rename_i hprintable
    exact readChar?_plain hquote hslash hprintable.1 rest
  · split
    · rename_i hsmall
      exact readChar?_unit hsmall rest
    · rename_i hlarge
      exact readChar?_pair (Nat.le_of_not_lt hlarge) rest

theorem escapeChar_ne_nil (c : Char) : escapeChar c ≠ [] := by
  intro hempty
  have hread := readChar?_escapeChar c []
  rw [hempty] at hread
  cases hread

end Characters

section Texts

theorem readChars?_cons {written rest : List Char} {c : Char}
    (hread : readChar? written = some (c, rest)) (fuel : Nat) :
    readChars? (fuel + 1) written =
      (readChars? fuel rest).map fun (cs, rest) => (c :: cs, rest) := by
  rw [readChars?, hread]
  -- A written character does not start with a quote.
  rintro after rfl
  cases hread

/-- Reading stops at the closing quote and gives what was written before it. -/
theorem readChars?_escaped {s : List Char} {fuel : Nat} (hfuel : s.length ≤ fuel)
    (rest : List Char) :
    readChars? fuel (s.flatMap escapeChar ++ '"' :: rest) = some (s, rest) := by
  induction s generalizing fuel with
  | nil => cases fuel <;> rfl
  | cons c cs ih =>
      obtain ⟨fuel, rfl⟩ : ∃ less, fuel = less + 1 :=
        Nat.exists_eq_add_one_of_ne_zero (Nat.ne_of_gt (Nat.lt_of_lt_of_le (Nat.succ_pos _) hfuel))
      rw [List.flatMap_cons, List.append_assoc, readChars?_cons (readChar?_escapeChar c _),
        ih (Nat.le_of_succ_le_succ hfuel)]
      rfl

theorem length_le_escaped (s : List Char) : s.length ≤ (s.flatMap escapeChar).length := by
  induction s with
  | nil => exact Nat.le_refl _
  | cons c cs ih =>
      have hpositive := List.length_pos_iff.mpr (escapeChar_ne_nil c)
      rw [List.flatMap_cons, List.length_append, List.length_cons]
      omega

/-- A quoted text denotes the text that was quoted. -/
theorem unquote?_quote (s : String) : unquote? (quote s) = some s := by
  have hfuel : s.toList.length ≤ (s.toList.flatMap escapeChar ++ ['"']).length := by
    have hle := length_le_escaped s.toList
    rw [List.length_append]
    omega
  have hread : unquoteChars? (quoteChars s.toList) = some s.toList := by
    rw [quoteChars, List.cons_append, unquoteChars?, readChars?_escaped hfuel]
  rw [unquote?, quote, String.toList_ofList, hread, Option.map_some, String.ofList_toList]

end Texts

end TableTypes.Text
