import TableTypes.Proofs.Casing.Cuts
import TableTypes.Proofs.Casing.Reading

/-! # From one style into another

What a style writes is read as words again. Between separators every word is found as it was
written, whatever case it was written in, so a name can be taken from one separated style into any
other and come out as it would have from its source.
-/

namespace TableTypes.Casing

/-- A text that is one word as it stands. -/
def Whole (word : List Char) : Prop :=
  splitChars word = [word]

section Whole

variable {c last s : Char} {front rest word : List Char} {words : List (List Char)}

theorem Whole.isWord (hwhole : Whole word) : IsWord word := by
  apply isWord_of_mem_splitChars
  rw [hwhole]
  exact List.mem_cons_self

theorem whole_singleton (hc : c.isAlphanum) : Whole [c] := by
  rw [Whole, splitChars_of_not_goesOn hc id, splitChars]

theorem whole_cons (hc : c.isAlphanum) (hgoes : GoesOn c rest) (hrest : Whole rest) :
    Whole (c :: rest) := by
  rw [Whole, splitChars_of_goesOn hc hgoes, hrest, onFirst]

theorem goesOn_of_whole_cons (hwhole : Whole (c :: rest)) (hrest : rest ≠ []) :
    GoesOn c rest ∧ Whole rest := by
  have hc : c.isAlphanum := hwhole.isWord.isAlphanum List.mem_cons_self
  have hgoes : GoesOn c rest := by
    by_contra hends
    rw [Whole, splitChars_of_not_goesOn hc hends] at hwhole
    exact hrest (List.cons.inj (List.cons.inj hwhole).1).2.symm
  refine ⟨hgoes, ?_⟩
  rw [Whole, splitChars_of_goesOn hc hgoes] at hwhole
  cases hwords : splitChars rest with
  | nil => exact absurd hwords (splitChars_ne_nil_of_goesOn hgoes)
  | cons word words =>
      rw [hwords, onFirst] at hwhole
      obtain ⟨hword, rfl⟩ := List.cons.inj hwhole
      obtain rfl := (List.cons.inj hword).2
      exact hwords

/-- A word that goes on does so in any text behind it, but for a small letter, which might take the
last capital away from it. -/
theorem GoesOn.append (hgoes : GoesOn c word) (hrest : ∀ e ∈ rest.head?, ¬ e.isLower) :
    GoesOn c (word ++ rest) := by
  cases word with
  | nil => exact hgoes.elim
  | cons d more =>
      refine ⟨hgoes.1, fun hcut => hgoes.2 ?_⟩
      cases more with
      | cons e more => exact hcut
      | nil =>
          have hnone : rest.head?.any Char.isLower = false := by
            simpa [Option.any_eq_false] using hrest
          simpa [Cut, hnone] using hcut

theorem foldr_onFirst_cons (front word : List Char) (words : List (List Char)) :
    front.foldr onFirst (word :: words) = (front ++ word) :: words := by
  induction front with
  | nil => rfl
  | cons c front ih => rw [List.foldr_cons, ih, onFirst, List.cons_append]

/-- A word with text behind it is read as far as its last character. -/
theorem splitChars_append (hwhole : Whole (front ++ [last]))
    (hrest : ∀ e ∈ rest.head?, ¬ e.isLower) :
    splitChars (front ++ last :: rest) = front.foldr onFirst (splitChars (last :: rest)) := by
  induction front with
  | nil => rfl
  | cons c front ih =>
      rw [List.cons_append] at hwhole
      have hc : c.isAlphanum := hwhole.isWord.isAlphanum List.mem_cons_self
      obtain ⟨hgoes, hwhole⟩ := goesOn_of_whole_cons hwhole (by simp)
      have happend := hgoes.append hrest
      rw [List.append_assoc, List.singleton_append] at happend
      rw [List.cons_append, splitChars_of_goesOn hc happend, ih hwhole, List.foldr_cons]

/-- A word that ends where text follows it is found as it stands. -/
theorem splitChars_append_of_not_goesOn (hwhole : Whole word)
    (hrest : ∀ e ∈ rest.head?, ¬ e.isLower) (hends : ∀ c ∈ word.getLast?, ¬ GoesOn c rest) :
    splitChars (word ++ rest) = word :: splitChars rest := by
  rcases List.eq_nil_or_concat' word with rfl | ⟨front, last, rfl⟩
  · exact absurd rfl hwhole.isWord.ne_nil
  · have hlast : last.isAlphanum := hwhole.isWord.isAlphanum (by simp)
    rw [List.append_assoc, List.singleton_append, splitChars_append hwhole hrest,
      splitChars_of_not_goesOn hlast (hends last (by simp)), foldr_onFirst_cons]

/-- A word that goes on in the text behind it is no word more. -/
theorem length_splitChars_append_of_goesOn (hwhole : Whole word)
    (hrest : ∀ e ∈ rest.head?, ¬ e.isLower) (hgoes : ∀ c ∈ word.getLast?, GoesOn c rest) :
    (splitChars (word ++ rest)).length = (splitChars rest).length := by
  rcases List.eq_nil_or_concat' word with rfl | ⟨front, last, rfl⟩
  · exact absurd rfl hwhole.isWord.ne_nil
  · have hlast : last.isAlphanum := hwhole.isWord.isAlphanum (by simp)
    have hgoes := hgoes last (by simp)
    rw [List.append_assoc, List.singleton_append, splitChars_append hwhole hrest,
      splitChars_of_goesOn hlast hgoes]
    cases hwords : splitChars rest with
    | nil => exact absurd hwords (splitChars_ne_nil_of_goesOn hgoes)
    | cons next others => rw [onFirst, foldr_onFirst_cons, List.length_cons, List.length_cons]

theorem splitChars_intercalate (hs : ¬ s.isAlphanum) (hwords : ∀ w ∈ words, Whole w) :
    splitChars ([s].intercalate words) = words := by
  induction words with
  | nil => rw [List.intercalate_nil, splitChars]
  | cons word rest ih =>
      obtain ⟨hword, hrest⟩ := List.forall_mem_cons.mp hwords
      cases rest with
      | nil =>
          rw [List.intercalate_singleton]
          exact hword
      | cons next others =>
          have hlower : ∀ text : List Char, ∀ e ∈ (s :: text).head?, ¬ e.isLower := by
            rintro text e he hlower
            obtain rfl := Option.some.inj he
            exact hs (by simp [Char.isAlphanum, isAlpha_of_isLower hlower])
          have hends : ∀ (c : Char) (text : List Char), ¬ GoesOn c (s :: text) :=
            fun c text hgoes => hs hgoes.1
          rw [List.intercalate_cons_cons, List.append_assoc, List.singleton_append,
            splitChars_append_of_not_goesOn hword (hlower _) (fun c _ => hends c _),
            splitChars_of_not_isAlphanum hs, ih hrest]

end Whole

section Written

variable {c d : Char} {word : List Char} {words : List (List Char)} {source : Style}

theorem IsWord.alike (hword : IsWord word) (hc : c ∈ word) (hd : d ∈ word) :
    (c.isDigit ∧ d.isDigit) ∨ (c.isAlpha ∧ d.isAlpha) := by
  rcases hword.2 with halpha | hdigit
  · exact Or.inr ⟨halpha c hc, halpha d hd⟩
  · exact Or.inl ⟨hdigit c hc, hdigit d hd⟩

/-- A text is one word if every character of it goes on in what is behind it. -/
theorem whole_of_suffixes (hword : IsWord word)
    (hgoes : ∀ c d rest, (c :: d :: rest) <:+ word → GoesOn c (d :: rest)) : Whole word := by
  have hchars : ∀ c ∈ word, c.isAlphanum := fun c hc => hword.isAlphanum hc
  have hne := hword.ne_nil
  -- The word as such does not survive the induction, since a tail of it may be empty.
  clear hword
  induction word with
  | nil => exact absurd rfl hne
  | cons c rest ih =>
      obtain ⟨hc, hrest⟩ := List.forall_mem_cons.mp hchars
      cases rest with
      | nil => exact whole_singleton hc
      | cons d rest =>
          refine whole_cons hc (hgoes c d rest (List.suffix_refl _)) (ih ?_ hrest ?_)
          · exact fun e f after hsuffix => hgoes e f after (hsuffix.trans (List.suffix_cons _ _))
          · exact List.cons_ne_nil _ _

/-- A word with capitals nowhere but at its start. -/
structure Titled (word : List Char) : Prop where
  isWord : IsWord word
  noUpper : ∀ c ∈ word.tail, ¬ c.isUpper

theorem Titled.whole (hword : Titled word) : Whole word := by
  apply whole_of_suffixes hword.isWord
  intro c d rest hsuffix
  have hc : c ∈ word := hsuffix.mem (by simp)
  have hd : d ∈ word.tail := by
    obtain ⟨front, rfl⟩ := hsuffix
    cases front <;> simp
  have hupper : ¬ d.isUpper := hword.noUpper d hd
  rw [goesOn_cons_iff (hword.isWord.isAlphanum hc)]
  rcases hword.isWord.alike hc (List.mem_of_mem_tail hd) with hdigits | ⟨hletter, hletter'⟩
  · exact Or.inl hdigits
  · exact Or.inr (Or.inl ⟨hletter, (Bool.or_eq_true_iff.mp hletter').resolve_left hupper⟩)

theorem whole_of_noLower (hword : IsWord word) (hlower : ∀ c ∈ word, ¬ c.isLower) :
    Whole word := by
  have hupper : ∀ c ∈ word, c.isAlpha → c.isUpper := fun c hc hletter =>
    (Bool.or_eq_true_iff.mp hletter).resolve_right (hlower c hc)
  apply whole_of_suffixes hword
  intro c d rest hsuffix
  have hc : c ∈ word := hsuffix.mem (by simp)
  have hd : d ∈ word := hsuffix.mem (by simp)
  rw [goesOn_cons_iff (hword.isAlphanum hc)]
  rcases hword.alike hc hd with hdigits | ⟨hletter, hletter'⟩
  · exact Or.inl hdigits
  · refine Or.inr (Or.inr ⟨hupper c hc hletter, hupper d hd hletter', ?_⟩)
    intro e he
    have hrest : e ∈ rest := List.mem_of_head? he
    exact hlower e (hsuffix.mem (by simp [hrest]))

theorem titled_map_toLower (hword : IsWord word) : Titled (word.map Char.toLower) := by
  refine ⟨isWord_map_toLower_iff.mpr hword, ?_⟩
  rw [← List.map_tail, List.forall_mem_map]
  simp

theorem titled_capitalize (hword : IsWord word) : Titled (capitalize word) := by
  refine ⟨opening_capitalize.isWord hword, ?_⟩
  cases word with
  | nil => simp [capitalize]
  | cons c rest =>
      rw [capitalize, List.tail_cons, List.forall_mem_map]
      simp

theorem whole_map_toUpper (hword : IsWord word) : Whole (word.map Char.toUpper) := by
  apply whole_of_noLower
  · rw [← isWord_map_toLower_iff, List.map_map]
    simpa [Function.comp_def] using isWord_map_toLower_iff.mpr hword
  · rw [List.forall_mem_map]
    simp

theorem whole_of_mem_dress (hsource : source ∈ [Style.snake, .constant, .kebab, .header])
    (hwords : ∀ w ∈ words, IsWord w) : ∀ w ∈ source.dress words, Whole w := by
  fin_cases hsource
  · exact List.forall_mem_map.mpr fun w hw => (titled_map_toLower (hwords w hw)).whole
  · exact List.forall_mem_map.mpr fun w hw => whole_map_toUpper (hwords w hw)
  · exact List.forall_mem_map.mpr fun w hw => (titled_map_toLower (hwords w hw)).whole
  · exact List.forall_mem_map.mpr fun w hw => (titled_capitalize (hwords w hw)).whole

end Written

section Separated

variable {source target : Style}

/-- The words of a name in a separated style are the words of the name as the style writes them. -/
theorem splitChars_applyChars (hsource : source ∈ [Style.snake, .constant, .kebab, .header])
    (name : List Char) :
    splitChars (source.applyChars name) = source.dress (splitChars name) := by
  have hne : source ≠ .none := by
    rintro rfl
    exact absurd hsource (by decide)
  have hseparator : ∃ s : Char, ¬ s.isAlphanum ∧ source.separator = [s] := by
    fin_cases hsource
    · exact ⟨'_', by decide, rfl⟩
    · exact ⟨'_', by decide, rfl⟩
    · exact ⟨'-', by decide, rfl⟩
    · exact ⟨'-', by decide, rfl⟩
  obtain ⟨s, hs, hseparator⟩ := hseparator
  rw [Style.applyChars, if_neg hne, hseparator]
  exact splitChars_intercalate hs (whole_of_mem_dress hsource fun _ => isWord_of_mem_splitChars)

/-- A style writes what a separated style has written as it writes the name itself. -/
theorem applyChars_applyChars (hsource : source ∈ [Style.snake, .constant, .kebab, .header])
    (htarget : target ≠ .none) (name : List Char) :
    target.applyChars (source.applyChars name) = target.applyChars name := by
  have happly : ∀ name, target.applyChars name =
      target.separator.intercalate (target.dress (splitChars name)) := fun _ => if_neg htarget
  have hdress : target.dress (source.dress (splitChars name)) = target.dress (splitChars name) :=
    (dress_eq_dress_iff htarget).mpr (lowered_dress source (splitChars name))
  rw [happly, happly, splitChars_applyChars hsource, hdress]

/-- A name can be taken through a separated style into any other: it comes out as it would have
without, and the separated style changes nothing about its words but their case. -/
theorem conversion_loses_nothing (hsource : source ∈ [Style.snake, .constant, .kebab, .header])
    (htarget : target ∈ [Style.pascal, .camel, .snake, .constant, .kebab, .header])
    (name : String) :
    target.apply (source.apply name) = target.apply name ∧
      lowered (splitChars (source.apply name).toList) = lowered (splitChars name.toList) := by
  have hne : target ≠ .none := by
    rintro rfl
    exact absurd htarget (by decide)
  constructor
  · simp only [Style.apply, String.toList_ofList]
    rw [applyChars_applyChars hsource hne]
  · rw [Style.apply, String.toList_ofList, splitChars_applyChars hsource, lowered_dress]

/-- An acronym and a number keep their places between separators. -/
theorem conversion_of_acronym :
    Style.camel.apply (Style.constant.apply "HTTPError 2xx") = "httpError2Xx" ∧
      lowered (splitChars (Style.constant.apply "HTTPError 2xx").toList) =
        lowered (splitChars "HTTPError 2xx".toList) := by
  have hconstant : Style.constant ∈ [Style.snake, .constant, .kebab, .header] := by decide
  have hcamel : Style.camel ∈ [Style.pascal, .camel, .snake, .constant, .kebab, .header] := by
    decide
  obtain ⟨happly, hwords⟩ := conversion_loses_nothing hconstant hcamel "HTTPError 2xx"
  exact ⟨happly.trans (by decide +kernel), hwords⟩

end Separated

end TableTypes.Casing
