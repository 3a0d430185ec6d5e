import Mathlib.Data.List.Infix

/-! # Parts between marks

Parts of a text that stand between marks can be told from the text as long as no mark can be moved.
A mark can be moved to where it occurs again in the part before it or in the part behind it, as long
as both parts keep a character. So a row of parts is the only one with its text exactly if each mark
occurs again at most at the very start of the part before it and at the very end of the part behind.
-/

namespace TableTypes.Text

theorem mem_of_mem_intercalate {c : Char} {sep : List Char} {words : List (List Char)}
    (hmem : c ∈ sep.intercalate words) :
    c ∈ sep ∨ ∃ w ∈ words, c ∈ w := by
  induction words with
  | nil => simp at hmem
  | cons word rest ih =>
      cases rest with
      | nil => exact Or.inr ⟨word, List.mem_cons_self, by simpa using hmem⟩
      | cons next rest =>
          rw [List.intercalate_cons_cons, List.mem_append, List.mem_append] at hmem
          rcases hmem with (hword | hsep) | hrest
          · exact Or.inr ⟨word, List.mem_cons_self, hword⟩
          · exact Or.inl hsep
          · refine (ih hrest).imp_right ?_
            rintro ⟨w, hw, hmem⟩
            exact ⟨w, List.mem_cons_of_mem _ hw, hmem⟩

/-- What stands between two parts. Its first character comes only once in it. -/
structure Mark where
  head : Char
  tail : List Char := []
  head_notMem : head ∉ tail := by decide

namespace Mark

def chars (mark : Mark) : List Char :=
  mark.head :: mark.tail

variable {mark : Mark} {s t s' t' : List Char}

/-- Of two occurrences of a mark the later one begins behind the end of the earlier one. -/
theorem occurrences (hsame : s ++ (mark.chars ++ t) = s' ++ (mark.chars ++ t'))
    (hshorter : s.length < s'.length) :
    ∃ between, s' = s ++ (mark.chars ++ between) ∧ t = between ++ (mark.chars ++ t') := by
  rcases List.append_eq_append_iff.mp hsame with ⟨ahead, hahead, hbehind⟩ | ⟨ahead, hahead, _⟩
  · rcases List.append_eq_append_iff.mp hbehind with ⟨between, hbetween, ht⟩ | ⟨lap, hlap, hover⟩
    · exact ⟨between, by rw [hahead, hbetween], ht⟩
    · cases lap with
      | nil => exact ⟨[], by simp [hahead, hlap], by simpa using hover.symm⟩
      | cons c lap =>
          -- The two would overlap, so the mark would begin again within itself.
          obtain ⟨rfl, _⟩ : mark.head = c ∧ _ := by simpa [chars] using hover
          cases ahead with
          | nil => simp [hahead] at hshorter
          | cons d ahead =>
              have htail : mark.tail = ahead ++ mark.head :: lap := (List.cons.inj hlap).2
              exact absurd (by simp [htail]) mark.head_notMem
  · rw [hahead, List.length_append] at hshorter
    omega

/-- The mark cannot be moved into one of the parts at its sides. -/
structure Divides (mark : Mark) (left right : List Char) : Prop where
  left : ¬ mark.chars <:+: left.tail
  right : ¬ mark.chars <:+: right.dropLast

instance (mark : Mark) (left right : List Char) : Decidable (mark.Divides left right) :=
  decidable_of_iff (¬ mark.chars <:+: left.tail ∧ ¬ mark.chars <:+: right.dropLast)
    ⟨fun h => ⟨h.1, h.2⟩, fun h => ⟨h.left, h.right⟩⟩

theorem isInfix_tail_iff :
    mark.chars <:+: s.tail ↔ ∃ before after, before ≠ [] ∧ s = before ++ (mark.chars ++ after) := by
  constructor
  · rintro ⟨before, after, htail⟩
    cases s with
    | nil => simp [chars] at htail
    | cons c s => exact ⟨c :: before, after, by simp, by simpa using htail.symm⟩
  · rintro ⟨before, after, hbefore, rfl⟩
    obtain ⟨c, before, rfl⟩ := List.exists_cons_of_ne_nil hbefore
    exact ⟨before, after, by simp⟩

theorem isInfix_dropLast_iff :
    mark.chars <:+: s.dropLast ↔
      ∃ before after, after ≠ [] ∧ s = before ++ (mark.chars ++ after) := by
  constructor
  · rintro ⟨before, after, hinit⟩
    have hne : s ≠ [] := by
      rintro rfl
      simp [chars] at hinit
    refine ⟨before, after ++ [s.getLast hne], by simp, ?_⟩
    calc
      s = s.dropLast ++ [s.getLast hne] := (List.dropLast_append_getLast hne).symm
      _ = before ++ (mark.chars ++ (after ++ [s.getLast hne])) := by
        rw [← hinit]
        simp only [List.append_assoc]
  · rintro ⟨before, after, hafter, rfl⟩
    refine ⟨before, after.dropLast, ?_⟩
    rw [List.dropLast_append_of_ne_nil (by simp [chars]), List.dropLast_append_of_ne_nil hafter,
      List.append_assoc]

end Mark

/-- A part with the mark in front of it. -/
abbrev Marked := Mark × List Char

/-- The text of a first part and of further parts behind their marks. -/
def joined (first : List Char) : List Marked → List Char
  | [] => first
  | (mark, next) :: rest => first ++ (mark.chars ++ joined next rest)

/-- No part is empty. -/
def Filled (first : List Char) (rest : List Marked) : Prop :=
  first ≠ [] ∧ ∀ part ∈ rest, part.2 ≠ []

/-- No mark can be moved. -/
def Divided (first : List Char) : List Marked → Prop
  | [] => True
  | (mark, next) :: rest => mark.Divides first next ∧ Divided next rest

instance Divided.decidable : (first : List Char) → (rest : List Marked) →
    Decidable (Divided first rest)
  | _, [] => isTrue trivial
  | _, (_, next) :: rest =>
    have := Divided.decidable next rest
    inferInstanceAs (Decidable (_ ∧ _))

section Parts

variable {mark : Mark} {first next first' next' : List Char} {rest rest' : List Marked}

theorem Filled.cons_iff :
    Filled first ((mark, next) :: rest) ↔ first ≠ [] ∧ Filled next rest := by
  simp [Filled]

/-- A mark that is met later than in front of the first part is met in the first part or makes the
next mark later, and the last part has an end. -/
theorem not_joined_eq_later (hdivided : Divided first rest)
    (hclear : ¬ mark.chars <:+: first.dropLast) (hfilled : Filled first' rest')
    (hmarks : rest'.map Prod.fst = rest.map Prod.fst) (between : List Char) :
    joined first rest ≠ between ++ (mark.chars ++ joined first' rest') := by
  intro hsame
  induction rest generalizing mark first first' rest' between with
  | nil =>
      obtain rfl := List.map_eq_nil_iff.mp hmarks
      exact hclear (Mark.isInfix_dropLast_iff.mpr ⟨between, first', hfilled.1, hsame⟩)
  | cons part rest ih =>
      obtain ⟨mark', next⟩ := part
      obtain ⟨part', rest', rfl, hmark, htails⟩ := List.map_eq_cons_iff.mp hmarks
      obtain ⟨_, next'⟩ := part'
      obtain rfl : mark' = _ := hmark.symm
      obtain ⟨hdivides, hdivided⟩ := hdivided
      rw [joined, joined] at hsame
      by_cases hlater : first.length < (between ++ (mark.chars ++ first')).length
      · have hsame' : first ++ (mark'.chars ++ joined next rest) =
            between ++ (mark.chars ++ first') ++ (mark'.chars ++ joined next' rest') := by
          simpa using hsame
        obtain ⟨between', _, hnext⟩ := Mark.occurrences hsame' hlater
        exact ih hdivided hdivides.right (Filled.cons_iff.mp hfilled).2 htails between' hnext
      · have hprefix : between ++ (mark.chars ++ first') <+: first := by
          refine List.prefix_of_prefix_length_le ⟨mark'.chars ++ joined next' rest', ?_⟩
            (List.prefix_append first (mark'.chars ++ joined next rest)) (Nat.le_of_not_lt hlater)
          simpa using hsame.symm
        obtain ⟨more, rfl⟩ := hprefix
        exact hclear (Mark.isInfix_dropLast_iff.mpr
          ⟨between, first' ++ more, by simp [hfilled.1], by simp⟩)

theorem joined_injective (hdivided : Divided first rest) (hfilled : Filled first' rest')
    (hmarks : rest'.map Prod.fst = rest.map Prod.fst)
    (hsame : joined first' rest' = joined first rest) : first' = first ∧ rest' = rest := by
  induction rest generalizing first first' rest' with
  | nil =>
      obtain rfl := List.map_eq_nil_iff.mp hmarks
      exact ⟨hsame, rfl⟩
  | cons part rest ih =>
      obtain ⟨mark, next⟩ := part
      obtain ⟨part', rest', rfl, hmark, htails⟩ := List.map_eq_cons_iff.mp hmarks
      obtain ⟨_, next'⟩ := part'
      obtain rfl : mark = _ := hmark.symm
      obtain ⟨hdivides, hdivided⟩ := hdivided
      obtain ⟨hfirst', hfilled⟩ := Filled.cons_iff.mp hfilled
      rw [joined, joined] at hsame
      rcases lt_trichotomy first'.length first.length with hshorter | hlength | hlonger
      · obtain ⟨between, hbetween, _⟩ := Mark.occurrences hsame hshorter
        exact absurd (Mark.isInfix_tail_iff.mpr ⟨first', between, hfirst', hbetween⟩)
          hdivides.left
      · obtain ⟨rfl, htexts⟩ := List.append_inj hsame hlength
        obtain ⟨rfl, rfl⟩ := ih hdivided hfilled htails (List.append_cancel_left htexts)
        exact ⟨rfl, rfl⟩
      · obtain ⟨between, _, hbetween⟩ := Mark.occurrences hsame.symm hlonger
        exact absurd hbetween
          (not_joined_eq_later hdivided hdivides.right hfilled htails between)

/-- Where a mark can be moved, there are other parts with the same text. -/
theorem exists_joined_eq (hfilled : Filled first rest) (hdivided : ¬ Divided first rest) :
    ∃ first' rest', Filled first' rest' ∧ rest'.map Prod.fst = rest.map Prod.fst ∧
      joined first' rest' = joined first rest ∧ (first', rest') ≠ (first, rest) := by
  induction rest generalizing first with
  | nil => exact absurd trivial hdivided
  | cons part rest ih =>
      obtain ⟨mark, next⟩ := part
      obtain ⟨hfirst, hnext⟩ := Filled.cons_iff.mp hfilled
      by_cases hleft : mark.chars <:+: first.tail
      · obtain ⟨before, after, hbefore, hsplit⟩ := Mark.isInfix_tail_iff.mp hleft
        -- What was behind the mark in the first part goes to the next one.
        have hlonger : after ++ (mark.chars ++ joined next rest) =
            joined (after ++ (mark.chars ++ next)) rest := by
          cases rest <;> simp [joined]
        refine ⟨before, (mark, after ++ (mark.chars ++ next)) :: rest,
          Filled.cons_iff.mpr ⟨hbefore, by simp [Mark.chars], hnext.2⟩, rfl, ?_, ?_⟩
        · rw [joined, joined, hsplit, ← hlonger]
          simp
        · simp [hsplit, Mark.chars]
      by_cases hright : mark.chars <:+: next.dropLast
      · obtain ⟨before, after, hafter, hsplit⟩ := Mark.isInfix_dropLast_iff.mp hright
        have hlonger : before ++ (mark.chars ++ joined after rest) = joined next rest := by
          cases rest <;> simp [joined, hsplit]
        refine ⟨first ++ (mark.chars ++ before), (mark, after) :: rest,
          Filled.cons_iff.mpr ⟨by simp [hfirst], hafter, hnext.2⟩, rfl, ?_, ?_⟩
        · rw [joined, joined, ← hlonger]
          simp
        · simp [Mark.chars]
      have htail : ¬ Divided next rest := fun h => hdivided ⟨⟨hleft, hright⟩, h⟩
      obtain ⟨next', rest', hfilled', hmarks, hsame, hother⟩ := ih hnext htail
      refine ⟨first, (mark, next') :: rest', Filled.cons_iff.mpr ⟨hfirst, hfilled'⟩, ?_, ?_, ?_⟩
      · rw [List.map_cons, List.map_cons, hmarks]
      · rw [joined, joined, hsame]
      · simpa [Prod.ext_iff] using hother

/-- Parts are the only ones with their text exactly if no mark can be moved. -/
theorem divided_iff_unique (hfilled : Filled first rest) :
    (∀ first' rest', Filled first' rest' → rest'.map Prod.fst = rest.map Prod.fst →
      joined first' rest' = joined first rest → first' = first ∧ rest' = rest) ↔
    Divided first rest := by
  constructor
  · intro hunique
    by_contra hdivided
    obtain ⟨first', rest', hfilled', hmarks, hsame, hother⟩ := exists_joined_eq hfilled hdivided
    exact hother (Prod.ext_iff.mpr (hunique first' rest' hfilled' hmarks hsame))
  · exact fun hdivided _ _ => joined_injective hdivided

end Parts

end TableTypes.Text
