import TableTypes.Proofs.Options.Setting
import TableTypes.Proofs.Text.SmallLetters

/-! # Values as words

A setting is read by the word that its value is written as. The names of styles have letters alone.
Nearly every value that is no text is written with some other character, and the words for the rest
are no names, with one exception: the word for nothing at all is the name of the style that changes
nothing.
-/

namespace TableTypes.Options

open Casing (Style)

section Words

/-- A character of ASCII that is no letter. -/
def IsSign (c : Char) : Prop :=
  c.toNat < 0x80 ∧ c.isAlpha = false

instance : DecidablePred IsSign := fun _ => inferInstanceAs (Decidable (_ ∧ _))

/-- Words of letters alone by which truth values and numbers are written. -/
def letterWords : List String := ["True", "False", "inf", "nan"]

theorem isSign_of_isDigit {c : Char} (hdigit : c.isDigit) : IsSign c := by
  have hrange := Text.toNat_of_isDigit hdigit
  exact Text.ascii_forall (P := fun c => c.isDigit → IsSign c) (by decide +kernel) c (by omega)
    hdigit

theorem isPlainCapital_of_isSign {c : Char} (hsign : IsSign c) : ¬ Text.IsPlainCapital c :=
  Text.ascii_forall (P := fun c => IsSign c → ¬ Text.IsPlainCapital c) (by decide +kernel) c
    hsign.1 hsign

theorem isAlpha_of_mem_name (style : Style) : ∀ c ∈ style.name.toList, c.isAlpha := by
  have hall : style.name.toList.all Char.isAlpha = true := by cases style <;> decide
  exact List.all_eq_true.mp hall

theorem ascii_of_mem_name (style : Style) :
    ∀ c ∈ style.name.toList, 0 < c.toNat ∧ c.toNat < 0x80 := by
  intro c hc
  have hrange := Text.toNat_of_isAlpha (isAlpha_of_mem_name style c hc)
  omega

/-- Small letters leave the signs of a word, and the names of styles have none. -/
theorem lower_ne_name {s : String} {c : Char} (hmem : c ∈ s.toList) (hsign : IsSign c)
    (style : Style) : Text.lower s ≠ style.name := by
  intro hname
  have hc := Text.mem_lower_of_mem hmem hsign.1 (isPlainCapital_of_isSign hsign)
  rw [hname] at hc
  exact absurd (isAlpha_of_mem_name style c hc) (by simp [hsign.2])

theorem exists_sign_of_nat (n : Nat) : ∃ c ∈ n.repr.toList, IsSign c := by
  obtain ⟨c, hc⟩ := List.exists_mem_of_ne_nil _ (Nat.toDigits_ne_nil (n := n) (b := 10))
  rw [Nat.toList_repr]
  exact ⟨c, hc, isSign_of_isDigit (Nat.isDigit_of_mem_toDigits (by decide) (by decide) hc)⟩

theorem exists_sign_of_int (n : Int) : ∃ c ∈ (toString n).toList, IsSign c := by
  cases n with
  | ofNat n => exact exists_sign_of_nat n
  | negSucc n => exact ⟨'-', by simp [Int.toString_eq_repr, Int.repr], by decide⟩

theorem exists_sign_of_render (style : FloatStyle) (d : Decimal.Scaled) :
    ∃ c ∈ (style.render d).toList, IsSign c := by
  rw [FloatStyle.render]
  dsimp only
  split
  · split
    · exact ⟨'.', by simp, by decide⟩
    · exact ⟨'.', by simp, by decide⟩
  · by_cases hsmall : d.exponent + (Nat.toDigits 10 d.digits).length - 1 < 0
    · exact ⟨'-', by simp [hsmall], by decide⟩
    · exact ⟨'+', by simp [hsmall], by decide⟩

theorem floatText_cases (x : Float) :
    (∃ c ∈ (floatText x).toList, IsSign c) ∨ floatText x ∈ letterWords := by
  rw [floatText]
  dsimp only
  split
  · split
    · split
      · exact Or.inl ⟨'-', by simp, by decide⟩
      · exact Or.inr (by decide)
    · exact Or.inr (by decide)
  · split
    · exact Or.inl ⟨'.', by simp, by decide⟩
    · obtain ⟨c, hc, hsign⟩ := exists_sign_of_render floatStyle
        (Decimal.Binary.ofFields (Decimal.Fields.ofFloat x)).shortest
      exact Or.inl ⟨c, by simp [hc], hsign⟩

theorem literalMark_cases (s : List Char) :
    Text.literalMark s = '"' ∨ Text.literalMark s = '\'' := by
  rw [Text.literalMark]
  split
  · exact Or.inl rfl
  · exact Or.inr rfl

theorem exists_sign_of_bytes (b : List UInt8) : ∃ c ∈ (Text.bytesLiteral b).toList, IsSign c := by
  let mark := Text.literalMark (b.map fun b => Char.ofNat b.toNat)
  have hmem : mark ∈ (Text.bytesLiteral b).toList := by simp [Text.bytesLiteral, mark]
  refine ⟨mark, hmem, ?_⟩
  rcases literalMark_cases (b.map fun b => Char.ofNat b.toNat) with hmark | hmark
  · simp only [mark, hmark]
    decide
  · simp only [mark, hmark]
    decide

/-- A value that is no text is written with a sign, or by one of a few words, or is nothing. -/
theorem plain_cases {v : Value} (htext : v.text? = none) (hnull : v ≠ .null) :
    (∃ c ∈ v.plain.toList, IsSign c) ∨ v.plain ∈ letterWords := by
  cases v with
  | null => exact absurd rfl hnull
  | bool b => exact Or.inr (by cases b <;> decide)
  | int n => exact Or.inl (by simpa [Value.plain, Value.literal] using exists_sign_of_int n)
  | float x => exact floatText_cases x
  | text s => cases htext
  | list items => exact Or.inl ⟨'[', by simp [Value.plain, Value.literal], by decide⟩
  | map entries => exact Or.inl ⟨'\x7b', by simp [Value.plain, Value.literal], by decide⟩
  | tuple items =>
      refine Or.inl ⟨'(', ?_, by decide⟩
      match items with
      | [] => simp [Value.plain, Value.literal]
      | [item] => simp [Value.plain, Value.literal]
      | _ :: _ :: _ => simp [Value.plain, Value.literal]
  | set items =>
      cases items with
      | nil => exact Or.inl ⟨'(', by decide, by decide⟩
      | cons item rest => exact Or.inl ⟨'\x7b', by simp [Value.plain, Value.literal], by decide⟩
  | date d => exact Or.inl ⟨'-', by simp [Value.plain, Date.toText], by decide⟩
  | moment m => exact Or.inl ⟨'-', by simp [Value.plain, Moment.toText, Date.toText], by decide⟩
  | bytes b => exact Or.inl (exists_sign_of_bytes b)
  | style s => exact Or.inl ⟨'.', by simp [Value.plain], by decide⟩
  | again isMap => exact Or.inl ⟨'.', by cases isMap <;> decide, by decide⟩

theorem lower_letterWords (style : Style) : ∀ word ∈ letterWords, Text.lower word ≠ style.name := by
  cases style <;> decide +kernel

end Words

section Values

def onWords : List String := ["1", "true", "yes", "on"]

def offWords : List String := ["0", "false", "no", "off"]

/-- A truth value, or a value with the word for one. -/
def IsSwitch (v : Value) : Prop :=
  (∃ b, v = .bool b) ∨ Text.lower (Text.trim v.plain) ∈ onWords ++ offWords

/-- The switch position that a value is read as: the truth value, or what its word says in any
letter case and between any spaces. -/
inductive SwitchedTo : Value → Bool → Prop
  | bool (b : Bool) : SwitchedTo (.bool b) b
  | on {v : Value} :
      Text.lower (Text.trim v.plain) ∈ ["1", "true", "yes", "on"] → SwitchedTo v true
  | off {v : Value} :
      Text.lower (Text.trim v.plain) ∈ ["0", "false", "no", "off"] → SwitchedTo v false

/-- The name of a style in any letter case, or nothing. -/
def NamesStyle (v : Value) : Prop :=
  v = .null ∨ ∃ (s : String) (style : Style), v = .text s ∧ Text.lower s = style.name

variable {v : Value}

theorem switchOf_cases (v : Value) :
    (∃ b, v = .bool b) ∨ switchOf v =
      if onWords.contains (Text.lower (Text.trim v.plain)) then .ok true
      else if offWords.contains (Text.lower (Text.trim v.plain)) then .ok false
      else .error (.unclearSwitch v.literal) := by
  cases v with
  | bool b => exact Or.inl ⟨b, rfl⟩
  | _ => exact Or.inr rfl

theorem switchedTo_of_switchOf {b : Bool} (hread : switchOf v = .ok b) : SwitchedTo v b := by
  rcases switchOf_cases v with ⟨b', rfl⟩ | hword
  · obtain rfl := Except.ok.inj hread
    exact .bool b'
  · rw [hword] at hread
    split at hread
    · rename_i hon
      obtain rfl := Except.ok.inj hread
      exact .on (List.contains_iff_mem.mp hon)
    · split at hread
      · rename_i hoff
        obtain rfl := Except.ok.inj hread
        exact .off (List.contains_iff_mem.mp hoff)
      · cases hread

theorem exists_switchOf_iff : (∃ b, switchOf v = .ok b) ↔ IsSwitch v := by
  rcases switchOf_cases v with ⟨b, rfl⟩ | hword
  · exact ⟨fun _ => Or.inl ⟨b, rfl⟩, fun _ => ⟨b, rfl⟩⟩
  · have hwords : IsSwitch v ↔ Text.lower (Text.trim v.plain) ∈ onWords ++ offWords := by
      refine ⟨?_, Or.inr⟩
      rintro (⟨b, rfl⟩ | hmem)
      · cases b <;> decide +kernel
      · exact hmem
    rw [hword, hwords]
    generalize Text.lower (Text.trim v.plain) = word
    by_cases hon : word ∈ onWords
    · simp [hon]
    · by_cases hoff : word ∈ offWords
      · simp [hon, hoff]
      · simp [hon, hoff]

theorem isConfiguration_of_switchOf {refused : OptionsRefusal}
    (hrefused : switchOf v = .error refused) : refused.isConfiguration = true := by
  rcases switchOf_cases v with ⟨b, rfl⟩ | hword
  · cases hrefused
  · rw [hword] at hrefused
    split at hrefused
    · cases hrefused
    · split at hrefused
      · cases hrefused
      · obtain rfl := Except.error.inj hrefused
        rfl

/-- A setting stands for a style exactly if it is the name of one, or nothing. -/
theorem exists_style_iff :
    (∃ style : Style, styleName (.text (Text.lower v.plain)) = style.name) ↔ NamesStyle v := by
  have htwice : ∀ style : Style, styleName (.text (Text.lower v.plain)) = style.name ↔
      Text.lower v.plain = style.name := fun style =>
    Text.lower_lower_eq_iff (ascii_of_mem_name style) (lower_name style) v.plain
  simp only [htwice]
  constructor
  · rintro ⟨style, hname⟩
    by_cases hnull : v = .null
    · exact Or.inl hnull
    cases htext : v.text? with
    | some s =>
        cases v with
        | text s => exact Or.inr ⟨s, style, rfl, hname⟩
        | _ => cases htext
    | none =>
        rcases plain_cases htext hnull with ⟨c, hc, hsign⟩ | hword
        · exact absurd hname (lower_ne_name hc hsign style)
        · exact absurd hname (lower_letterWords style v.plain hword)
  · rintro (rfl | ⟨s, style, rfl, hname⟩)
    · exact ⟨.none, by decide +kernel⟩
    · exact ⟨style, hname⟩

end Values

end TableTypes.Options
