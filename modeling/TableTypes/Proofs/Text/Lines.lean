import TableTypes.Casing.Identifier
import TableTypes.Proofs.Text.Joined
import TableTypes.Proofs.Text.Outside
import TableTypes.Proofs.Text.Quoted
import TableTypes.Proofs.Text.SmallLetters

/-! # Lines of plain characters

A plain character is one of printable ASCII, and a clean text has nothing else but line breaks.
Quoting writes only plain characters, so a quoted text stays on its line, whatever breaks there are
in the text itself.
-/

namespace TableTypes.Text

/-- The character is printable ASCII. -/
def IsPlain (c : Char) : Prop :=
  0x20 ≤ c.toNat ∧ c.toNat ≤ 0x7E

instance : DecidablePred IsPlain := fun _ => inferInstanceAs (Decidable (_ ∧ _))

/-- Nothing but plain characters. -/
def Plain (text : String) : Prop :=
  ∀ c ∈ text.toList, IsPlain c

instance : DecidablePred Plain := fun text => List.decidableBAll _ text.toList

/-- The lines of a text, without the breaks between them. -/
def lines (text : String) : List String :=
  (text.toList.splitOn '\n').map String.ofList

@[simp]
theorem plain_append {first second : String} :
    Plain (first ++ second) ↔ Plain first ∧ Plain second := by
  simp [Plain, or_imp, forall_and]

theorem Plain.intercalate {separator : String} {texts : List String} (hseparator : Plain separator)
    (htexts : ∀ text ∈ texts, Plain text) : Plain (separator.intercalate texts) := by
  intro c hc
  rw [String.toList_intercalate] at hc
  rcases mem_of_mem_intercalate hc with hc | ⟨chars, hchars, hc⟩
  · exact hseparator c hc
  · obtain ⟨text, htext, rfl⟩ := List.mem_map.mp hchars
    exact htexts text htext c hc

theorem Plain.break_notMem {text : String} (hplain : Plain text) : '\n' ∉ text.toList :=
  fun hbreak => absurd (hplain '\n' hbreak) (by decide)

theorem lines_intercalate {rows : List String} (hrows : ∀ row ∈ rows, '\n' ∉ row.toList)
    (hne : rows ≠ []) : lines ("\n".intercalate rows) = rows := by
  have hsplit : (("\n".intercalate rows).toList.splitOn '\n') = rows.map String.toList := by
    rw [String.toList_intercalate]
    refine List.splitOn_intercalate '\n' ?_ (by simpa using hne)
    simpa using hrows
  rw [lines, hsplit]
  simp

section Quoting

theorem isPlain_hexDigit : ∀ n < 16, IsPlain (hexDigit n) := by
  decide

theorem isPlain_hex (width n : Nat) : ∀ c ∈ hex width n, IsPlain c := by
  induction width with
  | zero => simp [hex]
  | succ width ih =>
      simp only [hex, List.forall_mem_cons]
      exact ⟨isPlain_hexDigit _ (Nat.mod_lt _ (by decide)), ih⟩

theorem isPlain_unitEscape (n : Nat) : ∀ c ∈ unitEscape n, IsPlain c := by
  simp only [unitEscape, List.forall_mem_cons]
  exact ⟨by decide, by decide, isPlain_hex 4 n⟩

theorem isPlain_escapeChar (c : Char) : ∀ d ∈ escapeChar c, IsPlain d := by
  unfold escapeChar
  -- The seven short escapes.
  iterate 7
    split
    · simp [IsPlain]
  split
  · rename_i hplain
    exact List.forall_mem_singleton.mpr hplain
  · split
    · exact isPlain_unitEscape _
    · intro d hd
      exact (List.mem_append.mp hd).elim (isPlain_unitEscape _ d) (isPlain_unitEscape _ d)

theorem plain_quote (s : String) : Plain (quote s) := by
  intro c hc
  simp only [quote, quoteChars, String.toList_ofList, List.cons_append, List.mem_cons,
    List.mem_append, List.mem_flatMap, List.not_mem_nil, or_false] at hc
  rcases hc with rfl | ⟨d, _, hc⟩ | rfl
  · decide
  · exact isPlain_escapeChar d c hc
  · decide

theorem isPlain_of_isDigit {c : Char} (hdigit : c.isDigit) : IsPlain c := by
  have hrange := toNat_of_isDigit hdigit
  unfold IsPlain
  omega

theorem isPlain_of_isAlpha {c : Char} (halpha : c.isAlpha) : IsPlain c := by
  have hrange := toNat_of_isAlpha halpha
  unfold IsPlain
  omega

theorem isPlain_of_part {c : Char} (hpart : Casing.isIdentifierPart c) : IsPlain c := by
  simp only [Casing.isIdentifierPart, Bool.or_eq_true, decide_eq_true_eq] at hpart
  rcases hpart with (hletter | rfl) | rfl
  · exact (Bool.or_eq_true_iff.mp hletter).elim isPlain_of_isAlpha isPlain_of_isDigit
  · decide
  · decide

end Quoting

section Clean

/-- Plain characters and line breaks, and nothing else. -/
def Clean (text : String) : Prop :=
  ∀ c ∈ text.toList, IsPlain c ∨ c = '\n'

instance : DecidablePred Clean := fun text => List.decidableBAll _ text.toList

/-- Plain characters and line breaks, but no quotes. -/
def Bare (text : String) : Prop :=
  ∀ c ∈ text.toList, (IsPlain c ∨ c = '\n') ∧ c ≠ '"'

instance : DecidablePred Bare := fun text => List.decidableBAll _ text.toList

variable {text separator : String} {texts : List String}

theorem Plain.clean (hplain : Plain text) : Clean text :=
  fun c hc => Or.inl (hplain c hc)

theorem Bare.quote_notMem (hbare : Bare text) : '"' ∉ text.toList :=
  fun hquote => (hbare '"' hquote).2 rfl

theorem Bare.append {first second : String} (hfirst : Bare first) (hsecond : Bare second) :
    Bare (first ++ second) := by
  unfold Bare
  rw [String.toList_append]
  exact List.forall_mem_append.mpr ⟨hfirst, hsecond⟩

@[simp]
theorem clean_append {first second : String} :
    Clean (first ++ second) ↔ Clean first ∧ Clean second := by
  simp [Clean, or_imp, forall_and]

/-- A property of all texts that are put together of bare pieces and quoted texts. -/
structure Composable (P : String → Prop) : Prop where
  bare : ∀ {text}, Bare text → P text
  quote : ∀ s, P (quote s)
  append : ∀ {first second}, P first → P second → P (first ++ second)

theorem composable_clean : Composable Clean where
  bare hbare := fun c hc => (hbare c hc).1
  quote s := (plain_quote s).clean
  append hfirst hsecond := clean_append.mpr ⟨hfirst, hsecond⟩

theorem composable_settled : Composable Settled where
  bare hbare := (code_of_noQuote hbare.quote_notMem).1
  quote := settled_quote
  append := Settled.append

namespace Composable

variable {P : String → Prop} (hP : Composable P)

include hP

theorem join (htexts : ∀ text ∈ texts, P text) : P (String.join texts) := by
  induction texts with
  | nil => exact hP.bare (by decide)
  | cons text rest ih =>
      obtain ⟨htext, hrest⟩ := List.forall_mem_cons.mp htexts
      rw [String.join_cons]
      exact hP.append htext (ih hrest)

theorem intercalate (hseparator : P separator) (htexts : ∀ text ∈ texts, P text) :
    P (separator.intercalate texts) := by
  induction texts with
  | nil =>
      rw [String.intercalate_nil]
      exact hP.bare (by decide)
  | cons text rest ih =>
      obtain ⟨htext, hrest⟩ := List.forall_mem_cons.mp htexts
      cases rest with
      | nil => rwa [String.intercalate_singleton]
      | cons second rest =>
          rw [String.intercalate_cons_cons]
          exact hP.append (hP.append htext hseparator) (ih hrest)

end Composable

end Clean

section Breaks

/-- A text with other characters for each of its breaks is its lines joined by them. -/
theorem flatMap_break_eq_intercalate (ending text : List Char) :
    (text.flatMap fun c => if c = '\n' then ending else [c]) =
      ending.intercalate (text.splitOn '\n') := by
  induction text with
  | nil => simp
  | cons c rest ih =>
      rw [List.flatMap_cons, ih, List.splitOn_cons_eq_if_modifyHead]
      cases hlines : rest.splitOn '\n' with
      | nil => exact absurd hlines (List.splitOn_ne_nil '\n' rest)
      | cons line others =>
          by_cases hc : c = '\n'
          · simp [hc, List.intercalate_cons_cons]
          · cases others <;> simp [hc, List.intercalate_cons_cons]

/-- The characters with `ending` for every break that is a carriage return and a line feed. -/
def replaceCRLFChars (ending : List Char) : List Char → List Char
  | [] => []
  | '\r' :: '\n' :: rest => ending ++ replaceCRLFChars ending rest
  | c :: rest => c :: replaceCRLFChars ending rest

/-- The text with `ending` for every break that is a carriage return and a line feed. -/
def replaceCRLF (ending text : String) : String :=
  String.ofList (replaceCRLFChars ending.toList text.toList)

theorem replaceCRLFChars_cons {c : Char} (hc : c ≠ '\r') (ending rest : List Char) :
    replaceCRLFChars ending (c :: rest) = c :: replaceCRLFChars ending rest := by
  rw [replaceCRLFChars]
  rintro rest rfl
  exact absurd rfl hc

end Breaks

end TableTypes.Text
