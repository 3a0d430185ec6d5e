import TableTypes.Proofs.Declaration.Labels

/-! # Texts made declarable

A text is made declarable with as little change as it takes: characters that may not stand in a
declared name give way to underscores, and one more underscore is put in front if there is no
character or a digit would come first. Whether it would is asked of the text with the underscores
in it; a digit outside of ASCII has become one by then, so the question could as well be asked of
the text itself. Declarable texts, and no others, stay as they are.
-/

namespace TableTypes.Casing

/-- What stands for a character: itself, if it may stand in a declared name, or else an
underscore. -/
def StandsFor (d c : Char) : Prop :=
  (isIdentifierPart c ∧ d = c) ∨ (¬ isIdentifierPart c ∧ d = '_')

/-- There is no character to start a name with, or a digit in its place. -/
def LacksStart (text : List Char) : Prop :=
  text = [] ∨ ∃ c rest, text = c :: rest ∧ c.isDigit

/-- The name is the text with the least change. -/
inductive Mended : List Char → List Char → Prop where
  | inPlace {text name : List Char} (hstart : ¬ LacksStart text)
      (hname : List.Forall₂ StandsFor name text) : Mended text name
  | behindUnderscore {text name : List Char} (hlacks : LacksStart text)
      (hname : List.Forall₂ StandsFor name text) : Mended text ('_' :: name)

variable {c d : Char} {text name name' : List Char}

theorem standsFor_iff : StandsFor d c ↔ d = safeChar c := by
  unfold StandsFor safeChar
  split <;> simp_all

theorem forall₂_standsFor_iff : List.Forall₂ StandsFor name text ↔ name = text.map safeChar := by
  induction text generalizing name with
  | nil => simp
  | cons c rest ih =>
      rw [List.forall₂_cons_right_iff]
      simp only [standsFor_iff, ih, List.map_cons]
      constructor
      · rintro ⟨d, kept, rfl, rfl, rfl⟩
        rfl
      · rintro rfl
        exact ⟨_, _, rfl, rfl, rfl⟩

theorem isDigit_safeChar (c : Char) : (safeChar c).isDigit = c.isDigit := by
  unfold safeChar
  split
  · rfl
  · rename_i hpart
    cases hdigit : c.isDigit with
    | false => decide
    | true => exact absurd (by simp [isIdentifierPart, Char.isAlphanum, hdigit]) hpart

theorem not_isDigit_of_start (hstart : isIdentifierStart c) : ¬ c.isDigit := by
  simp only [isIdentifierStart, Bool.or_eq_true, decide_eq_true_eq] at hstart
  rcases hstart with (hletter | rfl) | rfl
  · simpa using not_isDigit_of_isAlpha hletter
  · decide
  · decide

theorem lacksStart_cons_iff {rest : List Char} : LacksStart (c :: rest) ↔ c.isDigit := by
  simp [LacksStart]

theorem mended_identifierChars (text : List Char) : Mended text (identifierChars text) := by
  have hsafe : List.Forall₂ StandsFor (text.map safeChar) text := forall₂_standsFor_iff.mpr rfl
  cases text with
  | nil => exact .behindUnderscore (Or.inl rfl) hsafe
  | cons c rest =>
      rw [identifierChars_cons, isDigit_safeChar]
      split
      · exact .behindUnderscore (lacksStart_cons_iff.mpr ‹_›) hsafe
      · exact .inPlace (mt lacksStart_cons_iff.mp ‹_›) hsafe

/-- There is one way to change a text that little. -/
theorem Mended.unique (hname : Mended text name) (hname' : Mended text name') : name = name' := by
  cases hname with
  | inPlace hstart hname =>
      cases hname' with
      | inPlace _ hname' =>
          rw [forall₂_standsFor_iff.mp hname, forall₂_standsFor_iff.mp hname']
      | behindUnderscore hlacks _ => exact absurd hlacks hstart
  | behindUnderscore hlacks hname =>
      cases hname' with
      | inPlace hstart _ => exact absurd hlacks hstart
      | behindUnderscore _ hname' =>
          rw [forall₂_standsFor_iff.mp hname, forall₂_standsFor_iff.mp hname']

theorem Declarable.mended (hname : Declarable name) : Mended name name := by
  obtain ⟨c, rest, rfl, hstart, hrest⟩ := hname
  have hpart : ∀ d ∈ c :: rest, isIdentifierPart d :=
    List.forall_mem_cons.mpr ⟨isIdentifierPart_of_start hstart, hrest⟩
  exact .inPlace (mt lacksStart_cons_iff.mp (not_isDigit_of_start hstart))
    (List.forall₂_same.mpr fun d hd => Or.inl ⟨hpart d hd, rfl⟩)

/-- A text becomes itself if and only if it is declarable. -/
theorem identifierChars_eq_self_iff : identifierChars text = text ↔ Declarable text := by
  constructor
  · intro hself
    rw [← hself]
    exact declarable_identifierChars text
  · intro htext
    exact (mended_identifierChars text).unique htext.mended

/-- A text that is taken for an identifier is declarable, unless that is for the sake of a line
break. -/
theorem declarable_iff_isIdentifier {name : String} :
    Declarable name.toList ↔ Syntax.isIdentifier name ∧ '\n' ∉ name.toList := by
  rw [Syntax.isIdentifier_iff]
  constructor
  · intro hname
    refine ⟨⟨_, [], (List.append_nil _).symm, hname, Or.inl rfl⟩, fun hbreak => ?_⟩
    exact absurd (hname.part _ hbreak) (by decide)
  · rintro ⟨⟨part, ending, htext, hpart, rfl | rfl⟩, hbreak⟩
    · rwa [htext, List.append_nil]
    · simp [htext] at hbreak

/-- Whatever the text, it becomes a declarable name, which is taken for an identifier. It becomes
itself if and only if it is declarable, which is to say that it is taken for an identifier and has
no line break. What any text becomes is the one name with the least change.
-/
theorem toIdentifier_mends (text : String) :
    Declarable (toIdentifier text).toList ∧ Syntax.isIdentifier (toIdentifier text) ∧
    (toIdentifier text = text ↔ Declarable text.toList) ∧
    (toIdentifier text = text ↔ Syntax.isIdentifier text ∧ '\n' ∉ text.toList) ∧
    toIdentifier (toIdentifier text) = toIdentifier text ∧
    ∀ name : String, toIdentifier text = name ↔ Mended text.toList name.toList := by
  have hself : ∀ text : String, toIdentifier text = text ↔ Declarable text.toList := by
    intro text
    rw [← identifierChars_eq_self_iff, ← String.toList_inj, toIdentifier, String.toList_ofList]
  have hdeclarable := declarable_toIdentifier text
  refine ⟨hdeclarable, Syntax.isIdentifier_toIdentifier text, hself text,
    (hself text).trans declarable_iff_isIdentifier, (hself _).mpr hdeclarable, fun name => ?_⟩
  have hmended := mended_identifierChars text.toList
  constructor
  · rintro rfl
    rwa [toIdentifier, String.toList_ofList]
  · intro hname
    rw [toIdentifier, hmended.unique hname, String.ofList_toList]

/-- Digits and letters outside of ASCII give way, so nothing is put in front of them. -/
example : toIdentifier "٣ж-2" = "___2" ∧ toIdentifier "2٣" = "_2_" ∧ toIdentifier "" = "_" := by
  decide

end TableTypes.Casing
