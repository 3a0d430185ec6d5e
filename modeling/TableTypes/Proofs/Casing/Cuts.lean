import TableTypes.Proofs.Casing.Words

/-! # Where words are cut

Whether a word ends behind a letter or digit can be told from the two characters that follow. So the
words of a name can be put together from its end, one character at a time, and two neighbours fall
into different words exactly if the case turns between them. Letters and digits are those of ASCII.
-/

namespace TableTypes.Casing

/-- A word ends between the neighbours `c` and `d`, where `next` is what follows them. -/
def Cut (c d : Char) (next : Option Char) : Prop :=
  c.isDigit ≠ d.isDigit ∨ (c.isLower ∧ d.isUpper) ∨
    (c.isUpper ∧ d.isUpper ∧ next.any Char.isLower)

instance (c d : Char) (next : Option Char) : Decidable (Cut c d next) :=
  inferInstanceAs (Decidable (_ ∨ _ ∨ _))

/-- The word of `c` goes on in the text behind it. -/
def GoesOn (c : Char) : List Char → Prop
  | [] => False
  | d :: rest => d.isAlphanum ∧ ¬ Cut c d rest.head?

/-- The first word with a character more in front of it. -/
def onFirst (c : Char) : List (List Char) → List (List Char)
  | [] => [[c]]
  | word :: words => (c :: word) :: words

section Classes

/-- The four kinds of characters. -/
inductive CharClass (c : Char) : Prop where
  | upper (hupper : c.isUpper) (hlower : ¬ c.isLower) (hdigit : ¬ c.isDigit)
  | lower (hupper : ¬ c.isUpper) (hlower : c.isLower) (hdigit : ¬ c.isDigit)
  | digit (hupper : ¬ c.isUpper) (hlower : ¬ c.isLower) (hdigit : c.isDigit)
  | other (hupper : ¬ c.isUpper) (hlower : ¬ c.isLower) (hdigit : ¬ c.isDigit)

theorem charClass (c : Char) : CharClass c := by
  by_cases hdigit : c.isDigit
  · exact .digit (not_isUpper_of_isDigit hdigit) (not_isLower_of_isDigit hdigit) hdigit
  · by_cases hupper : c.isUpper
    · exact .upper hupper (Char.not_isLower_of_isUpper hupper) hdigit
    · by_cases hlower : c.isLower
      · exact .lower hupper hlower hdigit
      · exact .other hupper hlower hdigit

theorem goesOn_cons_iff {c d : Char} {rest : List Char} (hc : c.isAlphanum) :
    GoesOn c (d :: rest) ↔ (c.isDigit ∧ d.isDigit) ∨ (c.isAlpha ∧ d.isLower) ∨
      (c.isUpper ∧ d.isUpper ∧ ∀ e ∈ rest.head?, ¬ e.isLower) := by
  simp only [GoesOn, Cut, Char.isAlphanum, Char.isAlpha] at hc ⊢
  cases charClass c with
  | upper => cases charClass d <;> simp [*, Option.any_eq_false]
  | lower => cases charClass d <;> simp [*]
  | digit => cases charClass d <;> simp [*]
  | other => simp_all

end Classes

section Runs

variable {c d e : Char} {rest : List Char}

theorem splitChars_of_not_isAlphanum (hc : ¬ c.isAlphanum) :
    splitChars (c :: rest) = splitChars rest := by
  simp only [Char.isAlphanum, Char.isAlpha, Bool.or_eq_true, not_or] at hc
  rw [splitChars, if_neg hc.1.1, if_neg hc.1.2, if_neg hc.2]

theorem splitChars_of_isDigit (hc : c.isDigit) :
    splitChars (c :: rest) =
      (c :: rest.takeWhile Char.isDigit) :: splitChars (rest.dropWhile Char.isDigit) := by
  rw [splitChars, if_neg (not_isUpper_of_isDigit hc), if_neg (not_isLower_of_isDigit hc),
    if_pos hc]

theorem splitChars_of_isLower (hc : c.isLower) :
    splitChars (c :: rest) =
      (c :: rest.takeWhile Char.isLower) :: splitChars (rest.dropWhile Char.isLower) := by
  rw [splitChars, if_neg (Char.not_isUpper_of_isLower hc), if_pos hc]

/-- Capitals that no small letter follows. -/
theorem splitChars_of_isUpper (hc : c.isUpper)
    (hsmall : ∀ e ∈ (rest.dropWhile Char.isUpper).head?, ¬ e.isLower) :
    splitChars (c :: rest) =
      (c :: rest.takeWhile Char.isUpper) :: splitChars (rest.dropWhile Char.isUpper) := by
  have hempty : ((rest.dropWhile Char.isUpper).takeWhile Char.isLower).isEmpty := by
    cases hafter : rest.dropWhile Char.isUpper with
    | nil => rfl
    | cons e after =>
        have he : ¬ e.isLower := hsmall e (by rw [hafter]; rfl)
        simp [he]
  rw [splitChars, if_pos hc]
  simp only [hempty, if_true]

/-- A small letter continues the word of a capital before it. -/
theorem splitChars_of_isUpper_isLower (hc : c.isUpper) (hd : d.isLower) :
    splitChars (c :: d :: rest) = onFirst c (splitChars (d :: rest)) := by
  have hupper : ¬ d.isUpper := Char.not_isUpper_of_isLower hd
  rw [splitChars_of_isLower hd, splitChars, if_pos hc]
  simp only [List.dropWhile_cons_of_neg hupper, List.takeWhile_cons_of_pos hd,
    List.dropWhile_cons_of_pos hd, List.isEmpty_cons, Bool.false_eq_true, if_false]
  split
  · rfl
  · rename_i last hlast
    simp [List.takeWhile_cons_of_neg hupper] at hlast

/-- The last capital before a small letter starts a word. -/
theorem splitChars_of_capitals {capitals : List Char} (hc : c.isUpper)
    (hcapitals : ∀ d ∈ capitals, d.isUpper) (hd : d.isUpper) (he : e.isLower) :
    splitChars (c :: (capitals ++ d :: e :: rest)) =
      (c :: capitals) :: splitChars (d :: e :: rest) := by
  have hupper : ¬ e.isUpper := Char.not_isUpper_of_isLower he
  have htake : (capitals ++ d :: e :: rest).takeWhile Char.isUpper = capitals ++ [d] := by
    rw [List.takeWhile_append_of_pos hcapitals, List.takeWhile_cons_of_pos hd,
      List.takeWhile_cons_of_neg hupper]
  have hdrop : (capitals ++ d :: e :: rest).dropWhile Char.isUpper = e :: rest := by
    rw [List.dropWhile_append_of_pos hcapitals, List.dropWhile_cons_of_pos hd,
      List.dropWhile_cons_of_neg hupper]
  rw [splitChars, if_pos hc]
  simp only [htake, hdrop, List.takeWhile_cons_of_pos he, List.isEmpty_cons, Bool.false_eq_true,
    if_false, List.dropLast_concat]
  split
  · rename_i hlast
    simp [htake] at hlast
  · rename_i last hlast
    obtain rfl : d = last := by simpa [htake] using hlast
    rfl

/-- A capital that no small letter follows continues the word of a capital before it. -/
theorem splitChars_of_isUpper_isUpper (hc : c.isUpper) (hd : d.isUpper)
    (hnext : ∀ e ∈ rest.head?, ¬ e.isLower) :
    splitChars (c :: d :: rest) = onFirst c (splitChars (d :: rest)) := by
  by_cases hsmall : ∀ e ∈ (rest.dropWhile Char.isUpper).head?, ¬ e.isLower
  · rw [splitChars_of_isUpper hc, splitChars_of_isUpper hd hsmall]
    · simp only [List.takeWhile_cons_of_pos hd, List.dropWhile_cons_of_pos hd, onFirst]
    · rwa [List.dropWhile_cons_of_pos hd]
  · simp only [not_forall, not_not] at hsmall
    obtain ⟨e, he, hlower⟩ := hsmall
    obtain ⟨after, hafter⟩ := List.head?_eq_some_iff.mp he
    have hrest := rest.takeWhile_append_dropWhile (p := Char.isUpper)
    rw [hafter] at hrest
    -- The small letter is not the next character, so a capital stands in front of it.
    rcases List.eq_nil_or_concat' (rest.takeWhile Char.isUpper) with hnil | ⟨capitals, last, hrun⟩
    · rw [hnil] at hrest
      subst hrest
      exact absurd hlower (hnext e rfl)
    · have hupper : ∀ f ∈ capitals ++ [last], f.isUpper := by
        rw [← hrun]
        exact fun f hf => List.mem_takeWhile_imp hf
      obtain ⟨hcapitals, hlast⟩ := List.forall_mem_append.mp hupper
      have hlast := hlast last List.mem_cons_self
      rw [hrun, List.append_assoc, List.singleton_append] at hrest
      rw [← hrest, splitChars_of_capitals hd hcapitals hlast hlower, ← List.cons_append,
        splitChars_of_capitals hc (List.forall_mem_cons.mpr ⟨hd, hcapitals⟩) hlast hlower, onFirst]

/-- A letter or digit whose word goes on belongs to the first word behind it. -/
theorem splitChars_of_goesOn (hc : c.isAlphanum) (hgoes : GoesOn c rest) :
    splitChars (c :: rest) = onFirst c (splitChars rest) := by
  cases rest with
  | nil => exact hgoes.elim
  | cons d rest =>
      rcases (goesOn_cons_iff hc).mp hgoes with ⟨hc, hd⟩ | ⟨hc, hd⟩ | ⟨hc, hd, hnext⟩
      · simp only [splitChars_of_isDigit hc, splitChars_of_isDigit hd, onFirst,
          List.takeWhile_cons_of_pos hd, List.dropWhile_cons_of_pos hd]
      · rcases Bool.or_eq_true_iff.mp hc with hc | hc
        · exact splitChars_of_isUpper_isLower hc hd
        · simp only [splitChars_of_isLower hc, splitChars_of_isLower hd, onFirst,
            List.takeWhile_cons_of_pos hd, List.dropWhile_cons_of_pos hd]
      · exact splitChars_of_isUpper_isUpper hc hd hnext

/-- A letter or digit whose word ends is the last of its word, whatever stands behind it. -/
theorem splitChars_of_not_goesOn (hc : c.isAlphanum) (hends : ¬ GoesOn c rest) :
    splitChars (c :: rest) = [c] :: splitChars rest := by
  cases rest with
  | nil =>
      cases charClass c with
      | upper hupper => exact splitChars_of_isUpper hupper (by simp)
      | lower _ hlower => exact splitChars_of_isLower hlower
      | digit _ _ hdigit => exact splitChars_of_isDigit hdigit
      | other => simp_all [Char.isAlphanum, Char.isAlpha]
  | cons d rest =>
      rw [goesOn_cons_iff hc] at hends
      simp only [not_or, not_and] at hends
      obtain ⟨hdigits, hsmall, hcapitals⟩ := hends
      cases charClass c with
      | upper hupper =>
          have hd : ¬ d.isLower := hsmall (isAlpha_of_isUpper hupper)
          by_cases hdupper : d.isUpper
          · have hnext := hcapitals hupper hdupper
            simp only [not_forall, not_not] at hnext
            obtain ⟨e, he, hlower⟩ := hnext
            obtain ⟨after, rfl⟩ := List.head?_eq_some_iff.mp he
            exact splitChars_of_capitals hupper (List.forall_mem_nil _) hdupper hlower
          · rw [splitChars_of_isUpper hupper] <;>
              simp [List.takeWhile_cons_of_neg hdupper, List.dropWhile_cons_of_neg hdupper, hd]
      | lower _ hlower =>
          have hd : ¬ d.isLower := hsmall (isAlpha_of_isLower hlower)
          rw [splitChars_of_isLower hlower, List.takeWhile_cons_of_neg hd,
            List.dropWhile_cons_of_neg hd]
      | digit _ _ hdigit =>
          have hd : ¬ d.isDigit := hdigits hdigit
          rw [splitChars_of_isDigit hdigit, List.takeWhile_cons_of_neg hd,
            List.dropWhile_cons_of_neg hd]
      | other => simp_all [Char.isAlphanum, Char.isAlpha]

end Runs

section Characters

variable {c d s : Char} {name rest : List Char} {words : List (List Char)}

theorem flatten_onFirst (c : Char) (words : List (List Char)) :
    (onFirst c words).flatten = c :: words.flatten := by
  cases words <;> rfl

theorem splitChars_cons_ne_nil (hc : c.isAlphanum) (rest : List Char) :
    splitChars (c :: rest) ≠ [] := by
  by_cases hgoes : GoesOn c rest
  · rw [splitChars_of_goesOn hc hgoes]
    cases splitChars rest <;> exact List.cons_ne_nil _ _
  · rw [splitChars_of_not_goesOn hc hgoes]
    exact List.cons_ne_nil _ _

theorem splitChars_ne_nil_of_goesOn (hgoes : GoesOn c rest) : splitChars rest ≠ [] := by
  cases rest with
  | nil => exact hgoes.elim
  | cons d rest => exact splitChars_cons_ne_nil hgoes.1 rest

theorem flatten_splitChars (name : List Char) :
    (splitChars name).flatten = name.filter Char.isAlphanum := by
  induction name with
  | nil => rw [splitChars]; rfl
  | cons c rest ih =>
      by_cases hc : c.isAlphanum
      · rw [List.filter_cons_of_pos hc, ← ih]
        by_cases hgoes : GoesOn c rest
        · rw [splitChars_of_goesOn hc hgoes, flatten_onFirst]
        · rw [splitChars_of_not_goesOn hc hgoes]
          rfl
      · rw [splitChars_of_not_isAlphanum hc, List.filter_cons_of_neg hc, ih]

/-- The number of the word that holds a character, where `place` counts the characters of all
words. -/
def wordNumber : List (List Char) → Nat → Nat
  | [], _ => 0
  | word :: words, place =>
    if place < word.length then 0 else wordNumber words (place - word.length) + 1

/-- The number of the word into which the letter or digit at a place of the name falls. -/
def wordAt (name : List Char) (place : Nat) : Nat :=
  wordNumber (splitChars name) ((name.take place).countP Char.isAlphanum)

theorem wordNumber_onFirst (c : Char) (hwords : words ≠ []) (place : Nat) :
    wordNumber (onFirst c words) (place + 1) = wordNumber words place := by
  cases words with
  | nil => exact absurd rfl hwords
  | cons word words => simp [onFirst, wordNumber]

theorem wordNumber_singleton_cons (c : Char) (words : List (List Char)) (place : Nat) :
    wordNumber ([c] :: words) (place + 1) = wordNumber words place + 1 := by
  simp [wordNumber]

theorem wordAt_zero (name : List Char) : wordAt name 0 = 0 := by
  rw [wordAt, List.take_zero, List.countP_nil]
  cases hwords : splitChars name with
  | nil => rfl
  | cons word words =>
      have hword : word ∈ splitChars name := by
        rw [hwords]
        exact List.mem_cons_self
      exact if_pos (List.length_pos_of_ne_nil (isWord_of_mem_splitChars hword).1)

theorem wordAt_succ_of_goesOn (hc : c.isAlphanum) (hgoes : GoesOn c rest) (place : Nat) :
    wordAt (c :: rest) (place + 1) = wordAt rest place := by
  rw [wordAt, splitChars_of_goesOn hc hgoes, List.take_succ_cons, List.countP_cons_of_pos hc,
    wordNumber_onFirst c (splitChars_ne_nil_of_goesOn hgoes), wordAt]

theorem wordAt_succ_of_not_goesOn (hc : c.isAlphanum) (hends : ¬ GoesOn c rest) (place : Nat) :
    wordAt (c :: rest) (place + 1) = wordAt rest place + 1 := by
  rw [wordAt, splitChars_of_not_goesOn hc hends, List.take_succ_cons, List.countP_cons_of_pos hc,
    wordNumber_singleton_cons, wordAt]

theorem wordAt_succ_of_not_isAlphanum (hc : ¬ c.isAlphanum) (place : Nat) :
    wordAt (c :: rest) (place + 1) = wordAt rest place := by
  rw [wordAt, splitChars_of_not_isAlphanum hc, List.take_succ_cons, List.countP_cons_of_neg hc,
    wordAt]

theorem getElem?_onFirst {word : List Char} {n : Nat} (c : Char) (hword : words[n]? = some word) :
    ∃ longer, (onFirst c words)[n]? = some longer ∧ word ⊆ longer := by
  cases words with
  | nil => simp at hword
  | cons first others =>
      cases n with
      | zero =>
          obtain rfl : first = word := by simpa using hword
          exact ⟨c :: first, rfl, List.subset_cons_self c first⟩
      | succ n => exact ⟨word, hword, List.Subset.refl word⟩

/-- The word with the number holds the character. -/
theorem exists_word_at {i : Nat} (hi : name[i]? = some c) (hc : c.isAlphanum) :
    ∃ word, (splitChars name)[wordAt name i]? = some word ∧ c ∈ word := by
  induction name generalizing i with
  | nil => simp at hi
  | cons first rest ih =>
      cases i with
      | zero =>
          obtain rfl : first = c := by simpa using hi
          rw [wordAt_zero]
          by_cases hgoes : GoesOn first rest
          · rw [splitChars_of_goesOn hc hgoes]
            cases splitChars rest <;> exact ⟨_, rfl, List.mem_cons_self⟩
          · rw [splitChars_of_not_goesOn hc hgoes]
            exact ⟨_, rfl, List.mem_cons_self⟩
      | succ i =>
          obtain ⟨word, hword, hmem⟩ := ih (by simpa using hi)
          by_cases hfirst : first.isAlphanum
          · by_cases hgoes : GoesOn first rest
            · obtain ⟨longer, hlonger, hsubset⟩ := getElem?_onFirst first hword
              rw [splitChars_of_goesOn hfirst hgoes, wordAt_succ_of_goesOn hfirst hgoes]
              exact ⟨longer, hlonger, hsubset hmem⟩
            · rw [splitChars_of_not_goesOn hfirst hgoes, wordAt_succ_of_not_goesOn hfirst hgoes]
              exact ⟨word, hword, hmem⟩
          · rw [splitChars_of_not_isAlphanum hfirst, wordAt_succ_of_not_isAlphanum hfirst]
            exact ⟨word, hword, hmem⟩

/-- A character in front adds to all numbers alike. -/
theorem exists_wordAt_succ (c : Char) (rest : List Char) :
    ∃ n, ∀ place, wordAt (c :: rest) (place + 1) = wordAt rest place + n := by
  by_cases hc : c.isAlphanum
  · by_cases hgoes : GoesOn c rest
    · exact ⟨0, wordAt_succ_of_goesOn hc hgoes⟩
    · exact ⟨1, wordAt_succ_of_not_goesOn hc hgoes⟩
  · exact ⟨0, wordAt_succ_of_not_isAlphanum hc⟩

theorem wordAt_ne_iff_cut {i : Nat} (hi : name[i]? = some c) (hnext : name[i + 1]? = some d)
    (hc : c.isAlphanum) (hd : d.isAlphanum) :
    wordAt name i ≠ wordAt name (i + 1) ↔ Cut c d name[i + 2]? := by
  induction name generalizing i with
  | nil => simp at hi
  | cons first rest ih =>
      cases i with
      | zero =>
          obtain rfl : first = c := by simpa using hi
          obtain ⟨after, rfl⟩ : ∃ after, rest = d :: after := by
            rw [← List.head?_eq_some_iff, List.head?_eq_getElem?]
            simpa using hnext
          have hgoes : GoesOn first (d :: after) ↔ ¬ Cut first d after[0]? := by
            rw [GoesOn, List.head?_eq_getElem?]
            exact and_iff_right hd
          rw [List.getElem?_cons_succ, List.getElem?_cons_succ, wordAt_zero]
          by_cases hcut : Cut first d after[0]?
          · rw [wordAt_succ_of_not_goesOn hc (fun h => hgoes.mp h hcut)]
            simpa using hcut
          · rw [wordAt_succ_of_goesOn hc (hgoes.mpr hcut), wordAt_zero]
            simpa using hcut
      | succ i =>
          obtain ⟨n, hshift⟩ := exists_wordAt_succ first rest
          rw [List.getElem?_cons_succ] at hi hnext ⊢
          rw [hshift, hshift, ← ih hi hnext, ne_eq, Nat.add_right_cancel_iff]

/-- Behind a separator, words are not those of the first letter or digit any more. -/
theorem wordAt_pos_of_separated {k j : Nat} (hc : c.isAlphanum) (hk : rest[k]? = some s)
    (hs : ¬ s.isAlphanum) (hkj : k ≤ j) : 0 < wordAt (c :: rest) (j + 1) := by
  induction rest generalizing c k j with
  | nil => simp at hk
  | cons d rest ih =>
      by_cases hd : d.isAlphanum
      · -- The separator is not the next character, so it is behind that one, too.
        cases k with
        | zero =>
            obtain rfl : d = s := by simpa using hk
            exact absurd hd hs
        | succ k =>
            obtain ⟨j, rfl⟩ := Nat.exists_eq_add_of_le' (Nat.le_of_add_left_le hkj)
            obtain ⟨n, hshift⟩ := exists_wordAt_succ c (d :: rest)
            rw [hshift]
            exact Nat.add_pos_left (ih hd (by simpa using hk) (Nat.le_of_succ_le_succ hkj)) n
      · have hends : ¬ GoesOn c (d :: rest) := fun h => hd h.1
        rw [wordAt_succ_of_not_goesOn hc hends]
        exact Nat.succ_pos _

theorem wordAt_lt_of_separated {i k j : Nat} (hi : name[i]? = some c) (hk : name[k]? = some s)
    (hc : c.isAlphanum) (hs : ¬ s.isAlphanum) (hik : i < k) (hkj : k < j) :
    wordAt name i < wordAt name j := by
  induction name generalizing i k j with
  | nil => simp at hi
  | cons first rest ih =>
      obtain ⟨k, rfl⟩ := Nat.exists_eq_add_of_le' (Nat.one_le_of_lt hik)
      obtain ⟨j, rfl⟩ := Nat.exists_eq_add_of_le' (Nat.one_le_of_lt hkj)
      rw [List.getElem?_cons_succ] at hk
      cases i with
      | zero =>
          obtain rfl : first = c := by simpa using hi
          rw [wordAt_zero]
          exact wordAt_pos_of_separated hc hk hs (Nat.le_of_lt (Nat.lt_of_succ_lt_succ hkj))
      | succ i =>
          obtain ⟨n, hshift⟩ := exists_wordAt_succ first rest
          rw [hshift, hshift]
          exact Nat.add_lt_add_right
            (ih hi hk (Nat.lt_of_succ_lt_succ hik) (Nat.lt_of_succ_lt_succ hkj)) n

end Characters

/-- The words of a name are its letters and digits in order, and none of them is empty. Whether two
neighbours fall into one word depends on them and on the character behind them alone, and whatever
a separator stands between falls into different words. -/
theorem splitChars_cuts_locally (name : List Char) :
    (splitChars name).flatten = name.filter Char.isAlphanum ∧
    (∀ word ∈ splitChars name, word ≠ []) ∧
    (∀ i c, name[i]? = some c → c.isAlphanum →
      ∃ word, (splitChars name)[wordAt name i]? = some word ∧ c ∈ word) ∧
    (∀ i c d, name[i]? = some c → name[i + 1]? = some d → c.isAlphanum → d.isAlphanum →
      (wordAt name i ≠ wordAt name (i + 1) ↔ Cut c d name[i + 2]?)) ∧
    ∀ i k j c s d, i < k → k < j → name[i]? = some c → name[k]? = some s → name[j]? = some d →
      c.isAlphanum → ¬ s.isAlphanum → d.isAlphanum → wordAt name i ≠ wordAt name j := by
  refine ⟨flatten_splitChars name, ?_, ?_, ?_, ?_⟩
  · exact fun word hword => (isWord_of_mem_splitChars hword).1
  · exact fun i c hi hc => exists_word_at hi hc
  · exact fun i c d hi hnext hc hd => wordAt_ne_iff_cut hi hnext hc hd
  · intro i k j c s d hik hkj hi hk _ hc hs _
    exact Nat.ne_of_lt (wordAt_lt_of_separated hi hk hc hs hik hkj)

/-- Of the capitals in `HTTPError 2`, the last alone belongs to the word behind it. -/
theorem cuts_of_acronym :
    let name := "HTTPError 2".toList
    wordAt name 2 = wordAt name 3 ∧ wordAt name 3 ≠ wordAt name 4 ∧
      wordAt name 8 ≠ wordAt name 10 := by
  intro name
  obtain ⟨_, _, _, hcut, hseparated⟩ := splitChars_cuts_locally name
  refine ⟨?_, ?_, ?_⟩
  · by_contra hne
    exact absurd ((hcut 2 'T' 'P' rfl rfl rfl rfl).mp hne) (by decide)
  · exact (hcut 3 'P' 'E' rfl rfl rfl rfl).mpr (by decide)
  · exact hseparated 8 9 10 'r' ' ' '2' (by decide) (by decide) rfl rfl rfl rfl (by decide) rfl

end TableTypes.Casing
