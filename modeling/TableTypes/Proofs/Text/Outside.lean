import TableTypes.Text.Quoted

/-! # What stands outside quotes

A text is gone through from its start. A quote opens a literal, and the next quote that no backslash
stands before closes it; what is outside all literals is code. Behind a text that closes every
literal it opens, reading starts afresh, so the code of such texts in a row is their code in a row.
A quoted text is one literal, and so has no code.
-/

namespace TableTypes.Text

/-- Where a character of a text stands. -/
inductive Spot where
  | code
  | literal
  /-- Behind a backslash in a literal. -/
  | escaped
  deriving DecidableEq

/-- Where the character behind stands. -/
def Spot.next : Spot → Char → Spot
  | code, c => if c = '"' then literal else code
  | literal, c => if c = '"' then code else if c = '\\' then escaped else literal
  | escaped, _ => literal

/-- The characters of a text that stand outside literals, the quotes left out. -/
def codeFrom (spot : Spot) : List Char → List Char
  | [] => []
  | c :: rest => (if spot = .code ∧ c ≠ '"' then [c] else []) ++ codeFrom (spot.next c) rest

/-- The code of a text. -/
def code (text : String) : List Char :=
  codeFrom .code text.toList

/-- The text closes every literal that it opens. -/
def Settled (text : String) : Prop :=
  text.toList.foldl Spot.next .code = .code

instance : DecidablePred Settled := fun text =>
  inferInstanceAs (Decidable (text.toList.foldl Spot.next .code = .code))

theorem codeFrom_append (spot : Spot) (first second : List Char) :
    codeFrom spot (first ++ second) =
      codeFrom spot first ++ codeFrom (first.foldl Spot.next spot) second := by
  induction first generalizing spot with
  | nil => rfl
  | cons c rest ih => simp only [List.cons_append, codeFrom, ih, List.append_assoc, List.foldl_cons]

section Settled

variable {first second separator : String} {texts : List String}

theorem Settled.code_append (hfirst : Settled first) (second : String) :
    code (first ++ second) = code first ++ code second := by
  rw [code, String.toList_append, codeFrom_append, hfirst]
  rfl

theorem Settled.append (hfirst : Settled first) (hsecond : Settled second) :
    Settled (first ++ second) := by
  rw [Settled, String.toList_append, List.foldl_append, hfirst, hsecond]

theorem code_intercalate (hseparator : Settled separator) (htexts : ∀ text ∈ texts, Settled text) :
    code (separator.intercalate texts) = (code separator).intercalate (texts.map code) := by
  induction texts with
  | nil => rfl
  | cons text rest ih =>
      obtain ⟨htext, hrest⟩ := List.forall_mem_cons.mp htexts
      cases rest with
      | nil => simp
      | cons next rest =>
          rw [String.intercalate_cons_cons, (htext.append hseparator).code_append,
            htext.code_append, ih hrest]
          simp

end Settled

section Quotes

/-- The text stands in a literal and does not close it. -/
structure Inside (text : List Char) : Prop where
  spot : text.foldl Spot.next .literal = .literal
  code : codeFrom .literal text = []

variable {text other : List Char}

theorem Inside.append (htext : Inside text) (hother : Inside other) : Inside (text ++ other) where
  spot := by rw [List.foldl_append, htext.spot, hother.spot]
  code := by rw [codeFrom_append, htext.code, htext.spot, hother.code, List.nil_append]

theorem inside_of_plain (htext : ∀ c ∈ text, c ≠ '"' ∧ c ≠ '\\') : Inside text := by
  induction text with
  | nil => exact ⟨rfl, rfl⟩
  | cons c rest ih =>
      obtain ⟨⟨hquote, hslash⟩, hrest⟩ := List.forall_mem_cons.mp htext
      have hnext : Spot.next .literal c = .literal := by
        rw [Spot.next, if_neg hquote, if_neg hslash]
      refine ⟨?_, ?_⟩
      · rw [List.foldl_cons, hnext, (ih hrest).spot]
      · rw [codeFrom, hnext, (ih hrest).code]
        simp

theorem inside_escape (c : Char) : Inside ['\\', c] :=
  ⟨rfl, by simp [codeFrom, Spot.next]⟩

theorem inside_unitEscape (n : Nat) : Inside (unitEscape n) := by
  have hdigit : ∀ m < 16, hexDigit m ≠ '"' ∧ hexDigit m ≠ '\\' := by decide
  have hhex : ∀ width, ∀ c ∈ hex width n, c ≠ '"' ∧ c ≠ '\\' := by
    intro width
    induction width with
    | zero => simp [hex]
    | succ width ih =>
        simp only [hex, List.forall_mem_cons]
        exact ⟨hdigit _ (Nat.mod_lt _ (by decide)), ih⟩
  exact (inside_escape 'u').append (inside_of_plain (hhex 4))

theorem inside_escapeChar (c : Char) : Inside (escapeChar c) := by
  unfold escapeChar
  split
  · exact inside_escape _
  · rename_i hquote
    split
    · exact inside_escape _
    · rename_i hslash
      -- The five short escapes of controls.
      iterate 5
        split
        · exact inside_escape _
      split
      · exact inside_of_plain (List.forall_mem_singleton.mpr ⟨hquote, hslash⟩)
      · split
        · exact inside_unitEscape _
        · exact (inside_unitEscape _).append (inside_unitEscape _)

theorem inside_escaped (s : List Char) : Inside (s.flatMap escapeChar) := by
  induction s with
  | nil => exact ⟨rfl, rfl⟩
  | cons c rest ih =>
      rw [List.flatMap_cons]
      exact (inside_escapeChar c).append ih

theorem toList_quote (s : String) :
    (quote s).toList = '"' :: (s.toList.flatMap escapeChar ++ ['"']) := by
  simp [quote, quoteChars]

theorem settled_quote (s : String) : Settled (quote s) := by
  rw [Settled, toList_quote, List.foldl_cons, List.foldl_append]
  change List.foldl Spot.next (List.foldl Spot.next .literal _) ['"'] = _
  rw [(inside_escaped s.toList).spot]
  rfl

theorem code_quote (s : String) : code (quote s) = [] := by
  rw [code, toList_quote, codeFrom]
  change [] ++ codeFrom .literal _ = _
  rw [codeFrom_append, (inside_escaped s.toList).code, (inside_escaped s.toList).spot]
  rfl

/-- A text without quotes is nothing but code. -/
theorem code_of_noQuote {text : String} (htext : '"' ∉ text.toList) :
    Settled text ∧ code text = text.toList := by
  have hchars : ∀ chars : List Char, '"' ∉ chars →
      chars.foldl Spot.next .code = .code ∧ codeFrom .code chars = chars := by
    intro chars hchars
    induction chars with
    | nil => exact ⟨rfl, rfl⟩
    | cons c rest ih =>
        rw [List.mem_cons, not_or] at hchars
        obtain ⟨hc, hrest⟩ := hchars
        have hne : c ≠ '"' := fun heq => hc heq.symm
        have hnext : Spot.next .code c = .code := by rw [Spot.next, if_neg hne]
        rw [List.foldl_cons, codeFrom, hnext, (ih hrest).1, (ih hrest).2]
        simp [hne]
  exact hchars _ htext

end Quotes

end TableTypes.Text
