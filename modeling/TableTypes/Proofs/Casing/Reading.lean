import TableTypes.Proofs.Casing.Words

/-! # What a style keeps of a name

Two names become one in a style exactly if they are read alike. A style that leaves names alone
keeps all of them, and every other one keeps the words without their case. Where nothing stands
between words, numbers that follow each other run together and are read as one.
-/

namespace TableTypes.Casing

/-- Digits only. -/
def isNumber (word : List Char) : Bool :=
  word.all Char.isDigit

/-- The words where numbers that follow each other are one. -/
def joinNumbers : List (List Char) → List (List Char)
  | [] => []
  | word :: rest =>
    match joinNumbers rest with
    | [] => [word]
    | next :: others =>
      if isNumber word && isNumber next then (word ++ next) :: others else word :: next :: others

namespace Style

/-- What the style keeps of a name. -/
def reading : Style → List Char → List (List Char)
  | none, name => [name]
  | pascal, name | camel, name => lowered (joinNumbers (splitChars name))
  | snake, name | constant, name | kebab, name | header, name => lowered (splitChars name)

end Style

section Words

variable {word v w : List Char} {words : List (List Char)}

theorem IsWord.ne_nil (hword : IsWord word) : word ≠ [] := hword.1

theorem IsWord.isAlphanum (hword : IsWord word) {c : Char} (hc : c ∈ word) : c.isAlphanum := by
  rcases hword.2 with halpha | hdigit
  · simp [Char.isAlphanum, halpha c hc]
  · simp [Char.isAlphanum, hdigit c hc]

theorem IsWord.isNumber_of_isDigit (hword : IsWord word) {c : Char} (hc : c ∈ word)
    (hdigit : c.isDigit) : isNumber word := by
  rcases hword.2 with halpha | hdigits
  · exact absurd hdigit (not_isDigit_of_isAlpha (halpha c hc))
  · exact List.all_eq_true.mpr hdigits

theorem isNumber_append : isNumber (v ++ w) = (isNumber v && isNumber w) :=
  List.all_append

theorem map_toLower_of_isNumber (hnumber : isNumber word) : word.map Char.toLower = word := by
  have hsame : ∀ c ∈ word, c.toLower = id c := by
    intro c hc
    have hdigit := List.all_eq_true.mp hnumber c hc
    exact Char.toLower_eq_of_not_isUpper (not_isUpper_of_isDigit hdigit)
  rw [List.map_congr_left hsame, List.map_id]

theorem capitalize_of_isNumber (hnumber : isNumber word) : capitalize word = word := by
  cases word with
  | nil => rfl
  | cons c rest =>
      have hc : c.isDigit ∧ isNumber rest := by simpa [isNumber] using hnumber
      have hupper : c.toUpper = c :=
        Char.toUpper_eq_of_not_isLower (not_isLower_of_isDigit hc.1)
      rw [capitalize, hupper, map_toLower_of_isNumber hc.2]

end Words

section Separated

variable {s : Char} {words words' : List (List Char)}

theorem intercalate_ne_nil {word : List Char} (hword : word ≠ []) (rest : List (List Char)) :
    [s].intercalate (word :: rest) ≠ [] := by
  cases rest with
  | nil => simpa using hword
  | cons next rest => simp [List.intercalate_cons_cons]

/-- Words that do not hold the separator can be told from their join. -/
theorem intercalate_inj (hwords : ∀ w ∈ words, w ≠ [] ∧ s ∉ w)
    (hwords' : ∀ w ∈ words', w ≠ [] ∧ s ∉ w)
    (heq : [s].intercalate words = [s].intercalate words') : words = words' := by
  cases words with
  | nil =>
      cases words' with
      | nil => rfl
      | cons word' rest' =>
          exact absurd heq.symm (intercalate_ne_nil (hwords' word' List.mem_cons_self).1 rest')
  | cons word rest =>
      cases words' with
      | nil => exact absurd heq (intercalate_ne_nil (hwords word List.mem_cons_self).1 rest)
      | cons word' rest' =>
          have hsplit := congrArg (List.splitOn s) heq
          rwa [List.splitOn_intercalate s (fun w hw => (hwords w hw).2) (List.cons_ne_nil _ _),
            List.splitOn_intercalate s (fun w hw => (hwords' w hw).2) (List.cons_ne_nil _ _)]
            at hsplit

end Separated

section Joined

/-- The second character goes on with the word of the first. -/
def continues (c d : Char) : Bool :=
  d.isLower || (c.isDigit && d.isDigit)

/-- Words that are no two numbers in a row. -/
structure Separate (words : List (List Char)) : Prop where
  isWord : ∀ w ∈ words, IsWord w
  isChain : words.IsChain fun v w => ¬ (isNumber v ∧ isNumber w)

variable {word v w : List Char} {words rest : List (List Char)}

theorem joinNumbers_cons_cases (word : List Char) (rest : List (List Char)) :
    (∃ next others, joinNumbers rest = next :: others ∧ isNumber word ∧ isNumber next ∧
      joinNumbers (word :: rest) = (word ++ next) :: others) ∨
    ((∀ next ∈ (joinNumbers rest).head?, ¬ (isNumber word ∧ isNumber next)) ∧
      joinNumbers (word :: rest) = word :: joinNumbers rest) := by
  rw [joinNumbers]
  cases hjoined : joinNumbers rest with
  | nil => exact Or.inr ⟨by simp, rfl⟩
  | cons next others =>
      by_cases hnumbers : isNumber word ∧ isNumber next
      · refine Or.inl ⟨next, others, rfl, hnumbers.1, hnumbers.2, ?_⟩
        simp [hnumbers]
      · refine Or.inr ⟨?_, ?_⟩
        · simpa using hnumbers
        · simpa using hnumbers

theorem isWord_append_of_isNumber (hv : isNumber v) (hw : isNumber w) (hword : IsWord w) :
    IsWord (v ++ w) := by
  refine ⟨fun hnil => hword.ne_nil (List.append_eq_nil_iff.mp hnil).2, Or.inr ?_⟩
  have hnumber : isNumber (v ++ w) := by
    rw [isNumber_append, hv, hw]
    rfl
  exact List.all_eq_true.mp hnumber

theorem separate_joinNumbers (hwords : ∀ w ∈ words, IsWord w) : Separate (joinNumbers words) := by
  induction words with
  | nil => exact ⟨by simp [joinNumbers], by simp [joinNumbers]⟩
  | cons word rest ih =>
      obtain ⟨hword, hrest⟩ := List.forall_mem_cons.mp hwords
      have hseparate := ih hrest
      rcases joinNumbers_cons_cases word rest with
        ⟨next, others, hjoined, hv, hw, hcons⟩ | ⟨hapart, hcons⟩
      · rw [hjoined] at hseparate
        obtain ⟨hnext, hothers⟩ := List.forall_mem_cons.mp hseparate.isWord
        obtain ⟨hhead, htail⟩ := List.isChain_cons.mp hseparate.isChain
        rw [hcons]
        constructor
        · exact List.forall_mem_cons.mpr ⟨isWord_append_of_isNumber hv hw hnext, hothers⟩
        · refine List.isChain_cons.mpr ⟨?_, htail⟩
          intro other hother hnumbers
          exact hhead other hother ⟨hw, hnumbers.2⟩
      · rw [hcons]
        exact ⟨List.forall_mem_cons.mpr ⟨hword, hseparate.isWord⟩,
          List.isChain_cons.mpr ⟨hapart, hseparate.isChain⟩⟩

/-- Where nothing stands between words, numbers that follow each other look like one. The first
word may be written in a way of its own, as long as that keeps numbers. -/
theorem flatten_joinNumbers {first : List Char → List Char}
    (hfirst : ∀ number, isNumber number → first number = number)
    (word : List Char) (rest : List (List Char)) :
    ∃ head tail, joinNumbers (word :: rest) = head :: tail ∧
      first head ++ (tail.map capitalize).flatten =
        first word ++ (rest.map capitalize).flatten := by
  -- The induction is over all ways to write the first word, since the others are capitalized.
  induction rest generalizing word first with
  | nil => exact ⟨word, [], rfl, rfl⟩
  | cons next others ih =>
      obtain ⟨head, tail, hjoined, hflatten⟩ := ih (fun _ => capitalize_of_isNumber) next
      rw [List.map_cons, List.flatten_cons, ← hflatten]
      rcases joinNumbers_cons_cases word (next :: others) with
        ⟨head', tail', hjoined', hv, hw, hcons⟩ | ⟨_, hcons⟩
      · rw [hjoined] at hjoined'
        obtain ⟨rfl, rfl⟩ := List.cons.inj hjoined'
        have hnumber : isNumber (word ++ head) := by
          rw [isNumber_append, hv, hw]
          rfl
        refine ⟨word ++ head, tail, hcons, ?_⟩
        rw [hfirst _ hnumber, hfirst _ hv, capitalize_of_isNumber hw, List.append_assoc]
      · rw [hjoined] at hcons
        refine ⟨word, head :: tail, hcons, ?_⟩
        rw [List.map_cons, List.flatten_cons]

/-- A way to write the first word of a name. -/
structure Opening (first : List Char → List Char) : Prop where
  toLower : ∀ word, (first word).map Char.toLower = word.map Char.toLower
  number : ∀ number, isNumber number → first number = number
  isChain : ∀ word, IsWord word → (first word).IsChain fun c d => continues c d

theorem opening_toLower : Opening (·.map Char.toLower) := by
  refine ⟨by simp, fun _ => map_toLower_of_isNumber, ?_⟩
  intro word hword
  apply List.Pairwise.isChain
  apply List.pairwise_of_forall_mem_list
  intro small hsmall small' hsmall'
  obtain ⟨c, hc, rfl⟩ := List.mem_map.mp hsmall
  obtain ⟨d, hd, rfl⟩ := List.mem_map.mp hsmall'
  rcases hword.2 with halpha | hdigit
  · simp [continues, halpha d hd]
  · simp [continues, hdigit c hc, hdigit d hd]

theorem opening_capitalize : Opening capitalize := by
  refine ⟨map_toLower_capitalize, fun _ => capitalize_of_isNumber, ?_⟩
  intro word hword
  cases word with
  | nil => exact absurd rfl hword.ne_nil
  | cons c rest =>
      have hlower := opening_toLower.isChain (c :: rest) hword
      simp only [List.map_cons, List.isChain_cons] at hlower
      rw [capitalize, List.isChain_cons]
      refine ⟨?_, hlower.2⟩
      intro d hd
      -- Whether a letter goes on depends on the character before it only if that is a digit.
      simpa [continues] using hlower.1 d hd

theorem isNumber_map_toLower (word : List Char) :
    isNumber (word.map Char.toLower) = isNumber word := by
  simp [isNumber, Function.comp_def]

theorem isNumber_eq_of_toLower (heq : v.map Char.toLower = w.map Char.toLower) :
    isNumber v = isNumber w := by
  rw [← isNumber_map_toLower v, heq, isNumber_map_toLower w]

/-- A capital or a digit does not go on with a word before it, unless both are numbers. -/
theorem not_continues_capitalize (hv : IsWord v) (hw : IsWord w)
    (hnumbers : ¬ (isNumber v ∧ isNumber w)) :
    ∃ hv hw, continues (v.getLast hv) ((capitalize w).head hw) = false := by
  cases w with
  | nil => exact absurd rfl hw.ne_nil
  | cons c rest =>
      refine ⟨hv.ne_nil, List.cons_ne_nil _ _, ?_⟩
      simp only [capitalize, List.head_cons, continues, Char.isLower_toUpper_eq_false,
        isDigit_toUpper, Bool.false_or, Bool.and_eq_false_iff]
      by_contra hboth
      simp only [not_or, Bool.not_eq_false] at hboth
      apply hnumbers
      exact ⟨hv.isNumber_of_isDigit (List.getLast_mem _) hboth.1,
        hw.isNumber_of_isDigit List.mem_cons_self hboth.2⟩

theorem Opening.isWord {first : List Char → List Char} (hfirst : Opening first)
    (hword : IsWord word) : IsWord (first word) := by
  rw [← isWord_map_toLower_iff, hfirst.toLower, isWord_map_toLower_iff]
  exact hword

/-- Words that are written next to each other can be cut apart again. -/
theorem splitBy_flatten_capitalize {first : List Char → List Char} (hfirst : Opening first)
    (hwords : Separate (word :: rest)) :
    (first word ++ (rest.map capitalize).flatten).splitBy continues =
      first word :: rest.map capitalize := by
  obtain ⟨hword, hrest⟩ := List.forall_mem_cons.mp hwords.isWord
  obtain ⟨hhead, htail⟩ := List.isChain_cons.mp hwords.isChain
  have hwritten : ∀ w ∈ rest.map capitalize,
      w ≠ [] ∧ w.IsChain fun c d => continues c d := by
    rw [List.forall_mem_map]
    intro w hw
    exact ⟨(opening_capitalize.isWord (hrest w hw)).ne_nil,
      opening_capitalize.isChain w (hrest w hw)⟩
  rw [← List.flatten_cons]
  apply List.splitBy_flatten
  · intro hnil
    rcases List.mem_cons.mp hnil with hnil | hnil
    · exact (hfirst.isWord hword).ne_nil hnil.symm
    · exact (hwritten [] hnil).1 rfl
  · exact List.forall_mem_cons.mpr ⟨hfirst.isChain word hword, fun w hw => (hwritten w hw).2⟩
  · -- Words are chained as they stand in the name, but what is cut apart is what was written.
    have hnumbers : ∀ v w, ¬ (isNumber v ∧ isNumber w) → ∀ v',
        v'.map Char.toLower = v.map Char.toLower → ¬ (isNumber v' ∧ isNumber w) := by
      intro v w hnot v' heq
      rwa [isNumber_eq_of_toLower heq]
    refine List.isChain_cons.mpr ⟨?_, ?_⟩
    · rw [List.head?_map]
      rintro w' hw'
      obtain ⟨w, hw, rfl⟩ := Option.map_eq_some_iff.mp hw'
      exact not_continues_capitalize (hfirst.isWord hword) (hrest w (List.mem_of_head? hw))
        (hnumbers word w (hhead w hw) _ (hfirst.toLower word))
    · rw [List.isChain_map]
      refine htail.imp_of_mem_imp fun v w hv hw hnot => ?_
      exact not_continues_capitalize (opening_capitalize.isWord (hrest v hv)) (hrest w hw)
        (hnumbers v w hnot _ (opening_capitalize.toLower v))

end Joined

section Styles

variable {style : Style} {words words' : List (List Char)}

theorem intercalate_nil_left (words : List (List Char)) :
    ([] : List Char).intercalate words = words.flatten := by
  induction words with
  | nil => rfl
  | cons word rest ih =>
      cases rest with
      | nil => simp
      | cons next rest => simp [List.intercalate_cons_cons, ih]

theorem dress_cons_of_joined (hstyle : style = .pascal ∨ style = .camel) :
    ∃ first, Opening first ∧
      ∀ word rest, style.dress (word :: rest) = first word :: rest.map capitalize := by
  rcases hstyle with rfl | rfl
  · exact ⟨capitalize, opening_capitalize, fun _ _ => rfl⟩
  · exact ⟨(·.map Char.toLower), opening_toLower, fun _ _ => rfl⟩

/-- What is written with nothing between words can be cut into the joined words. -/
theorem splitBy_flatten_dress (hstyle : style = .pascal ∨ style = .camel)
    (hwords : ∀ w ∈ words, IsWord w) :
    (style.dress words).flatten.splitBy continues = style.dress (joinNumbers words) := by
  cases words with
  | nil => rcases hstyle with rfl | rfl <;> rfl
  | cons word rest =>
      obtain ⟨first, hfirst, hdress⟩ := dress_cons_of_joined hstyle
      obtain ⟨head, tail, hjoined, hflatten⟩ := flatten_joinNumbers hfirst.number word rest
      have hseparate := separate_joinNumbers hwords
      rw [hjoined] at hseparate ⊢
      rw [hdress, hdress, List.flatten_cons, ← hflatten]
      exact splitBy_flatten_capitalize hfirst hseparate

theorem flatten_dress_eq_iff (hstyle : style = .pascal ∨ style = .camel)
    (hwords : ∀ w ∈ words, IsWord w) (hwords' : ∀ w ∈ words', IsWord w) :
    (style.dress words).flatten = (style.dress words').flatten ↔
      lowered (joinNumbers words) = lowered (joinNumbers words') := by
  have hne : style ≠ .none := by rcases hstyle with rfl | rfl <;> decide
  rw [← dress_eq_dress_iff hne, ← splitBy_flatten_dress hstyle hwords,
    ← splitBy_flatten_dress hstyle hwords']
  constructor
  · exact congrArg _
  · intro heq
    -- What was cut apart can be put together again, so equal cuts come from equal texts.
    rw [← List.flatten_splitBy continues (style.dress words).flatten, heq,
      List.flatten_splitBy]

theorem intercalate_dress_eq_iff {s : Char} (hs : ¬ s.isAlphanum) (hstyle : style ≠ .none)
    (hwords : ∀ w ∈ words, IsWord w) (hwords' : ∀ w ∈ words', IsWord w) :
    [s].intercalate (style.dress words) = [s].intercalate (style.dress words') ↔
      lowered words = lowered words' := by
  have hfree : ∀ {words : List (List Char)}, (∀ w ∈ words, IsWord w) →
      ∀ w ∈ style.dress words, w ≠ [] ∧ s ∉ w := by
    intro words hwords w hw
    have hword := isWord_of_mem_dress hwords hw
    exact ⟨hword.ne_nil, fun hmem => hs (hword.isAlphanum hmem)⟩
  rw [← dress_eq_dress_iff hstyle]
  exact ⟨intercalate_inj (hfree hwords) (hfree hwords'), congrArg _⟩

/-- Two names become one in a style exactly if they are read alike. -/
theorem applyChars_eq_iff (style : Style) (name name' : List Char) :
    style.applyChars name = style.applyChars name' ↔
      style.reading name = style.reading name' := by
  have hwords : ∀ name, ∀ w ∈ splitChars name, IsWord w := fun _ _ => isWord_of_mem_splitChars
  unfold Style.applyChars
  cases style with
  | none => simp [Style.reading]
  | pascal =>
      simp only [reduceCtorEq, if_false, Style.separator, intercalate_nil_left]
      exact flatten_dress_eq_iff (Or.inl rfl) (hwords name) (hwords name')
  | camel =>
      simp only [reduceCtorEq, if_false, Style.separator, intercalate_nil_left]
      exact flatten_dress_eq_iff (Or.inr rfl) (hwords name) (hwords name')
  | snake | constant | kebab | header =>
      simp only [reduceCtorEq, if_false, Style.separator]
      exact intercalate_dress_eq_iff (by decide) (by decide) (hwords name) (hwords name')

theorem apply_eq_iff {name name' : String} :
    style.apply name = style.apply name' ↔
      style.reading name.toList = style.reading name'.toList := by
  rw [← applyChars_eq_iff]
  exact String.ofList_inj

end Styles

end TableTypes.Casing
