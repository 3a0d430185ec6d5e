import TableTypes.Casing.Identifier
import TableTypes.Proofs.Casing.Reading
import TableTypes.Proofs.Text.Joined

/-! # Declared names

Any text becomes declarable by putting underscores into it. A name that a style has written has one
separator at most and does not start with it, so the name can be told from what it becomes, and
making names declarable mixes up no two of them. Texts that were left alone have no such form.
-/

namespace TableTypes.Casing

/-- What is kept of a name that is written in the style and made declarable. -/
def Style.declaredReading (style : Style) (name : List Char) : List (List Char) :=
  if style = .none then [identifierChars name] else style.reading name

variable {c s : Char} {sep word rest text text' : List Char} {words : List (List Char)}
  {style : Style}

theorem intercalate_cons_eq_append (sep word : List Char) (rest : List (List Char)) :
    ∃ tail, sep.intercalate (word :: rest) = word ++ tail := by
  cases rest with
  | nil => exact ⟨[], by simp⟩
  | cons next rest => exact ⟨_, by rw [List.intercalate_cons_cons, List.append_assoc]⟩

/-- A name as styles write it: letters, digits and one separator, which does not come first. -/
structure Written (s : Char) (text : List Char) : Prop where
  first : ∀ c ∈ text.head?, c.isAlphanum
  all : ∀ c ∈ text, c.isAlphanum ∨ c = s

theorem written_intercalate (hsep : ∀ c ∈ sep, c = s) (hwords : ∀ w ∈ words, IsWord w) :
    Written s (sep.intercalate words) := by
  constructor
  · intro c hc
    cases words with
    | nil => simp at hc
    | cons word rest =>
        obtain ⟨hword, _⟩ := List.forall_mem_cons.mp hwords
        obtain ⟨tail, heq⟩ := intercalate_cons_eq_append sep word rest
        rw [heq, List.head?_append_of_ne_nil _ hword.ne_nil] at hc
        exact hword.isAlphanum (List.mem_of_head? hc)
  · intro c hc
    rcases Text.mem_of_mem_intercalate hc with hc | ⟨w, hw, hc⟩
    · exact Or.inr (hsep c hc)
    · exact Or.inl ((hwords w hw).isAlphanum hc)

theorem written_applyChars (hstyle : style ≠ .none) :
    ∃ s, (s = '_' ∨ s = '-') ∧ ∀ name, Written s (style.applyChars name) := by
  -- A style that sets nothing between words is served by either separator.
  have hsep : ∃ s, (s = '_' ∨ s = '-') ∧ ∀ c ∈ style.separator, c = s := by
    cases style with
    | none => exact absurd rfl hstyle
    | pascal | camel | snake | constant => exact ⟨'_', Or.inl rfl, by simp [Style.separator]⟩
    | kebab | header => exact ⟨'-', Or.inr rfl, by simp [Style.separator]⟩
  obtain ⟨s, hs, hsep⟩ := hsep
  refine ⟨s, hs, fun name => ?_⟩
  rw [Style.applyChars, if_neg hstyle]
  apply written_intercalate hsep
  intro w hw
  exact isWord_of_mem_dress (fun _ => isWord_of_mem_splitChars) hw

/-- A character where only those of declared names may stand. -/
def safeChar (c : Char) : Char :=
  if isIdentifierPart c then c else '_'

theorem isIdentifierPart_safeChar (c : Char) : isIdentifierPart (safeChar c) := by
  unfold safeChar
  split
  · assumption
  · decide

theorem identifierChars_cons (c : Char) (rest : List Char) :
    identifierChars (c :: rest) =
      if (safeChar c).isDigit then '_' :: (c :: rest).map safeChar
      else (c :: rest).map safeChar := rfl

theorem isIdentifierStart_of_part (hpart : isIdentifierPart c) (hdigit : ¬ c.isDigit) :
    isIdentifierStart c := by
  simpa [isIdentifierPart, isIdentifierStart, Char.isAlphanum, hdigit] using hpart

theorem isIdentifierPart_of_start (hstart : isIdentifierStart c) : isIdentifierPart c := by
  simp only [isIdentifierStart, isIdentifierPart, Char.isAlphanum, Bool.or_eq_true] at hstart ⊢
  exact hstart.imp_left fun h => h.imp_left Or.inl

theorem Declarable.part {name : List Char} (hname : Declarable name) :
    ∀ c ∈ name, isIdentifierPart c := by
  obtain ⟨c, rest, rfl, hstart, hrest⟩ := hname
  exact List.forall_mem_cons.mpr ⟨isIdentifierPart_of_start hstart, hrest⟩

theorem Declarable.append {name suffix : List Char} (hname : Declarable name)
    (hsuffix : ∀ c ∈ suffix, isIdentifierPart c) : Declarable (name ++ suffix) := by
  obtain ⟨c, rest, rfl, hstart, hrest⟩ := hname
  exact ⟨c, rest ++ suffix, rfl, hstart, List.forall_mem_append.mpr ⟨hrest, hsuffix⟩⟩

/-- Whatever the text, what it becomes is declarable. -/
theorem declarable_identifierChars (text : List Char) : Declarable (identifierChars text) := by
  have hsafe : ∀ d ∈ text.map safeChar, isIdentifierPart d := by
    intro d hd
    obtain ⟨c, _, rfl⟩ := List.mem_map.mp hd
    exact isIdentifierPart_safeChar c
  cases text with
  | nil => exact ⟨'_', [], rfl, by decide, by simp⟩
  | cons c rest =>
      rw [identifierChars_cons]
      split
      · exact ⟨'_', _, rfl, by decide, hsafe⟩
      · rename_i hdigit
        rw [List.map_cons] at hsafe ⊢
        obtain ⟨hfirst, hrest⟩ := List.forall_mem_cons.mp hsafe
        exact ⟨safeChar c, _, rfl, isIdentifierStart_of_part hfirst hdigit, hrest⟩

theorem declarable_toIdentifier (text : String) : Declarable (toIdentifier text).toList := by
  rw [toIdentifier, String.toList_ofList]
  exact declarable_identifierChars text.toList

/-- The written name that a declarable one comes from: no written name starts with an underscore,
and any other underscore stands for the separator. -/
def restore (s : Char) (declared : List Char) : List Char :=
  let text := match declared with
    | '_' :: rest => rest
    | _ => declared
  text.map fun c => if c = '_' then s else c

theorem restore_cons_underscore (s : Char) (rest : List Char) :
    restore s ('_' :: rest) = rest.map fun c => if c = '_' then s else c := rfl

theorem restore_cons_of_ne (s : Char) (rest : List Char) (hc : c ≠ '_') :
    restore s (c :: rest) = (c :: rest).map fun c => if c = '_' then s else c := by
  unfold restore
  split
  · rename_i heq
    exact absurd (List.cons.inj heq).1 hc
  · rfl

theorem map_safeChar_restored (hs : s = '_' ∨ s = '-') (htext : Written s text) :
    (text.map safeChar).map (fun c => if c = '_' then s else c) = text := by
  rw [List.map_map]
  refine (List.map_congr_left fun c hc => ?_).trans (List.map_id text)
  rcases htext.all c hc with hc | rfl
  · have hne : c ≠ '_' := by
      rintro rfl
      exact absurd hc (by decide)
    simp [safeChar, isIdentifierPart, hc, hne]
  · rcases hs with rfl | rfl <;> decide

theorem safeChar_of_isAlphanum (hc : c.isAlphanum) : safeChar c = c := by
  simp [safeChar, isIdentifierPart, hc]

/-- Making a name declarable does not mix up names that a style has written. -/
theorem restore_identifierChars (hs : s = '_' ∨ s = '-') (htext : Written s text) :
    restore s (identifierChars text) = text := by
  cases text with
  | nil => rfl
  | cons c rest =>
      have hc : c.isAlphanum := htext.first c rfl
      have hsafe := safeChar_of_isAlphanum hc
      rw [identifierChars_cons]
      by_cases hdigit : (safeChar c).isDigit
      · rw [if_pos hdigit, restore_cons_underscore]
        exact map_safeChar_restored hs htext
      · have hne : safeChar c ≠ '_' := by
          rw [hsafe]
          rintro rfl
          exact absurd hc (by decide)
        rw [if_neg hdigit, List.map_cons, restore_cons_of_ne s _ hne, ← List.map_cons]
        exact map_safeChar_restored hs htext

theorem identifierChars_applyChars_eq_iff (style : Style) (name name' : List Char) :
    identifierChars (style.applyChars name) = identifierChars (style.applyChars name') ↔
      style.declaredReading name = style.declaredReading name' := by
  unfold Style.declaredReading
  split
  · rename_i hstyle
    subst hstyle
    simp [Style.applyChars]
  · rename_i hstyle
    obtain ⟨s, hs, hwritten⟩ := written_applyChars hstyle
    rw [← applyChars_eq_iff]
    constructor
    · intro heq
      rw [← restore_identifierChars hs (hwritten name), heq,
        restore_identifierChars hs (hwritten name')]
    · exact congrArg _

theorem applyChars_eq_nil_or_toUpper (hstyle : style ∈ [Style.pascal, .constant, .header])
    (name : List Char) :
    style.applyChars name = [] ∨
      ∃ (c : Char) (tail : List Char), style.applyChars name = c.toUpper :: tail := by
  have hne : style ≠ .none := by
    rintro rfl
    exact absurd hstyle (by decide)
  rw [Style.applyChars, if_neg hne]
  cases hwords : splitChars name with
  | nil =>
      left
      fin_cases hstyle <;> rfl
  | cons word rest =>
      right
      have hmem : word ∈ splitChars name := by
        rw [hwords]
        exact List.mem_cons_self
      have hdress : ∃ (c : Char) (w : List Char) (others : List (List Char)),
          style.dress (word :: rest) = (c.toUpper :: w) :: others := by
        cases word with
        | nil => exact absurd rfl (isWord_of_mem_splitChars hmem).ne_nil
        | cons c w => fin_cases hstyle <;> exact ⟨c, _, _, rfl⟩
      obtain ⟨c, w, others, heq⟩ := hdress
      obtain ⟨tail, htail⟩ := intercalate_cons_eq_append style.separator (c.toUpper :: w) others
      exact ⟨c, w ++ tail, by rw [heq, htail]; rfl⟩

/-- Styles that start with a capital start no declared name with a small letter. -/
theorem not_isLower_of_head (hstyle : style ∈ [Style.pascal, .constant, .header])
    (name : List Char) : ∀ c ∈ (identifierChars (style.applyChars name)).head?, ¬ c.isLower := by
  have hsafe : ∀ c : Char, ¬ (safeChar c.toUpper).isLower := by
    intro c
    unfold safeChar
    split
    · simp
    · decide
  intro c hc
  rcases applyChars_eq_nil_or_toUpper hstyle name with hnil | ⟨d, tail, hcons⟩
  · rw [hnil] at hc
    obtain rfl := Option.some.inj hc
    decide
  · rw [hcons, identifierChars_cons] at hc
    split at hc
    · obtain rfl := Option.some.inj hc
      decide
    · obtain rfl := Option.some.inj hc
      exact hsafe d

theorem toIdentifier_apply_eq_iff {name name' : String} :
    toIdentifier (style.apply name) = toIdentifier (style.apply name') ↔
      style.declaredReading name.toList = style.declaredReading name'.toList := by
  rw [← identifierChars_applyChars_eq_iff]
  simp only [toIdentifier, Style.apply, String.toList_ofList]
  exact String.ofList_inj

end TableTypes.Casing
