import TableTypes.Proofs.Casing.Conversion

/-! # Words with nothing between them

Where a style joins words by their capitals alone, two numbers in a row are read as one number and
two single letters as one word of capitals. All other words are found again.
-/

namespace TableTypes.Casing

/-- No two words in a row are both of a kind. -/
def NoTwo (kind : List Char → Bool) (words : List (List Char)) : Prop :=
  words.IsChain fun v w => ¬ (kind v ∧ kind w)

/-- A single letter. -/
def isLetter : List Char → Bool
  | [c] => c.isAlpha
  | _ => false

/-- A single capital. -/
def isCapital : List Char → Bool
  | [c] => c.isUpper
  | _ => false

section Kinds

variable {kind kind' : List Char → Bool} {v w : List Char} {words rest : List (List Char)}

instance (kind : List Char → Bool) (words : List (List Char)) : Decidable (NoTwo kind words) :=
  inferInstanceAs (Decidable (words.IsChain _))

theorem noTwo_cons_cons : NoTwo kind (v :: w :: rest) ↔
    ¬ (kind v ∧ kind w) ∧ NoTwo kind (w :: rest) :=
  List.isChain_cons_cons

theorem noTwo_cons_of_not (hv : ¬ kind v) : NoTwo kind (v :: rest) ↔ NoTwo kind rest := by
  cases rest with
  | nil => simp [NoTwo]
  | cons w rest => simp [noTwo_cons_cons, hv]

/-- Words may be written in a way that turns one kind into the other. -/
theorem noTwo_map {write : List Char → List Char}
    (hwrite : ∀ w ∈ words, kind (write w) = kind' w) :
    NoTwo kind (words.map write) ↔ NoTwo kind' words := by
  induction words with
  | nil => simp [NoTwo]
  | cons v rest ih =>
      obtain ⟨hv, hrest⟩ := List.forall_mem_cons.mp hwrite
      cases rest with
      | nil => simp [NoTwo]
      | cons w rest =>
          have hw := hrest w List.mem_cons_self
          rw [List.map_cons, List.map_cons, noTwo_cons_cons, noTwo_cons_cons, hv, hw,
            ← List.map_cons, ih hrest]

theorem noTwo_isNumber_dress (style : Style) (words : List (List Char)) :
    NoTwo isNumber (style.dress words) ↔ NoTwo isNumber words := by
  have hlowered : ∀ words, NoTwo isNumber (lowered words) ↔ NoTwo isNumber words :=
    fun words => noTwo_map fun w _ => isNumber_map_toLower w
  rw [← hlowered, lowered_dress, hlowered]

theorem isCapital_capitalize (word : List Char) : isCapital (capitalize word) = isLetter word := by
  cases word with
  | nil => rfl
  | cons c rest =>
      cases rest with
      | nil => simp [capitalize, isCapital, isLetter]
      | cons d rest => rfl

theorem isCapital_map_toLower (word : List Char) : ¬ isCapital (word.map Char.toLower) := by
  cases word with
  | nil => simp [isCapital]
  | cons c rest =>
      cases rest with
      | nil => simp [isCapital]
      | cons d rest => simp [isCapital]

end Kinds

section Seams

variable {v w text : List Char} {words : List (List Char)} {c : Char}

theorem Titled.isUpper_getLast_iff (hv : Titled v) (hc : c ∈ v.getLast?) :
    c.isUpper ↔ isCapital v := by
  rcases List.eq_nil_or_concat' v with rfl | ⟨front, last, rfl⟩
  · simp at hc
  · obtain rfl : last = c := by simpa using hc
    cases front with
    | nil => rfl
    | cons d front =>
        have hlower : ¬ last.isUpper := hv.noUpper last (by simp)
        cases front <;> simp [isCapital, hlower]

theorem IsWord.isDigit_iff (hv : IsWord v) (hc : c ∈ v) : c.isDigit ↔ isNumber v :=
  ⟨hv.isNumber_of_isDigit hc, fun hnumber => List.all_eq_true.mp hnumber c hc⟩

/-- A word goes on in the one behind it if both are numbers or both single capitals. -/
theorem goesOn_iff (hv : Titled v) (hw : Titled w) (hhead : ∀ d ∈ w.head?, ¬ d.isLower)
    (htext : ∀ e ∈ text.head?, ¬ e.isLower) (hc : c ∈ v.getLast?) :
    GoesOn c (w ++ text) ↔ (isNumber v ∧ isNumber w) ∨ (isCapital v ∧ isCapital w) := by
  have hmem : c ∈ v := List.mem_of_mem_getLast? hc
  cases w with
  | nil => exact absurd rfl hw.isWord.ne_nil
  | cons d w =>
      have hd : ¬ d.isLower := hhead d rfl
      rw [List.cons_append, goesOn_cons_iff (hv.isWord.isAlphanum hmem), hv.isWord.isDigit_iff hmem,
        hw.isWord.isDigit_iff List.mem_cons_self, hv.isUpper_getLast_iff hc]
      have hcapital : (d.isUpper ∧ ∀ e ∈ (w ++ text).head?, ¬ e.isLower) ↔ isCapital (d :: w) := by
        cases w with
        | nil => simpa [isCapital] using fun _ => htext
        | cons e w =>
            -- A capital with a small letter behind it is the start of a longer word.
            have he : ¬ e.isUpper := hw.noUpper e List.mem_cons_self
            have hsecond : e ∈ d :: e :: w := List.mem_cons_of_mem _ List.mem_cons_self
            rcases hw.isWord.alike List.mem_cons_self hsecond with ⟨hdigit, _⟩ | ⟨_, hletter⟩
            · simp [isCapital, not_isUpper_of_isDigit hdigit]
            · have hlower : e.isLower := (Bool.or_eq_true_iff.mp hletter).resolve_left he
              simp [isCapital, hlower]
      rw [hcapital]
      simp [hd]

theorem not_isLower_head?_flatten (hwords : ∀ w ∈ words, Titled w)
    (hheads : ∀ w ∈ words, ∀ c ∈ w.head?, ¬ c.isLower) :
    ∀ c ∈ words.flatten.head?, ¬ c.isLower := by
  cases words with
  | nil => simp
  | cons w rest =>
      have hne := (hwords w List.mem_cons_self).isWord.ne_nil
      rw [List.flatten_cons, List.head?_append_of_ne_nil _ hne]
      exact hheads w List.mem_cons_self

/-- Words that are written with nothing between them are found again, or there are fewer of them.
The first of them may start with a small letter. -/
theorem splitChars_flatten (hwords : ∀ w ∈ words, Titled w)
    (hheads : ∀ w ∈ words.tail, ∀ c ∈ w.head?, ¬ c.isLower) :
    (NoTwo isNumber words ∧ NoTwo isCapital words ∧ splitChars words.flatten = words) ∨
      (¬ (NoTwo isNumber words ∧ NoTwo isCapital words) ∧
        (splitChars words.flatten).length < words.length) := by
  induction words with
  | nil => exact Or.inl ⟨.nil, .nil, by rw [List.flatten_nil, splitChars]⟩
  | cons v rest ih =>
      obtain ⟨hv, hrest⟩ := List.forall_mem_cons.mp hwords
      have hih := ih hrest fun w hw => hheads w (List.mem_of_mem_tail hw)
      cases rest with
      | nil =>
          refine Or.inl ⟨.singleton v, .singleton v, ?_⟩
          rw [List.flatten_cons, List.flatten_nil, List.append_nil]
          exact hv.whole
      | cons w rest =>
          obtain ⟨hw, hothers⟩ := List.forall_mem_cons.mp hrest
          obtain ⟨hhead, htail⟩ := List.forall_mem_cons.mp hheads
          have hflatten := not_isLower_head?_flatten hothers htail
          have hfirst := not_isLower_head?_flatten hrest hheads
          have hseam : ∀ c ∈ v.getLast?, GoesOn c (w :: rest).flatten ↔
              (isNumber v ∧ isNumber w) ∨ (isCapital v ∧ isCapital w) :=
            fun c hc => goesOn_iff hv hw hhead hflatten hc
          rw [List.flatten_cons, noTwo_cons_cons, noTwo_cons_cons]
          by_cases hmeet : (isNumber v ∧ isNumber w) ∨ (isCapital v ∧ isCapital w)
          · have hlength := length_splitChars_append_of_goesOn hv.whole hfirst
              fun c hc => (hseam c hc).mpr hmeet
            refine Or.inr ⟨?_, ?_⟩
            · rintro ⟨⟨hnumbers, _⟩, hcapitals, _⟩
              exact hmeet.elim hnumbers hcapitals
            · rw [hlength, List.length_cons]
              rcases hih with ⟨_, _, hsplit⟩ | ⟨_, hshort⟩
              · rw [hsplit]
                exact Nat.lt_succ_self _
              · exact Nat.lt_succ_of_lt hshort
          · have hsplit := splitChars_append_of_not_goesOn hv.whole hfirst
              fun c hc h => hmeet ((hseam c hc).mp h)
            obtain ⟨hnumbers, hcapitals⟩ := not_or.mp hmeet
            rw [hsplit]
            rcases hih with ⟨hnumber, hcapital, hrest⟩ | ⟨hnot, hshort⟩
            · exact Or.inl ⟨⟨hnumbers, hnumber⟩, ⟨hcapitals, hcapital⟩, by rw [hrest]⟩
            · exact Or.inr ⟨fun h => hnot ⟨h.1.2, h.2.2⟩, Nat.succ_lt_succ hshort⟩

end Seams

section Joined

variable {style : Style} {words : List (List Char)}

theorem length_dress (style : Style) (words : List (List Char)) :
    (style.dress words).length = words.length := by
  have hlength := congrArg List.length (lowered_dress style words)
  simpa [lowered] using hlength

theorem titled_of_mem_dress (hstyle : style = .pascal ∨ style = .camel)
    (hwords : ∀ w ∈ words, IsWord w) : ∀ w ∈ style.dress words, Titled w := by
  cases words with
  | nil => rcases hstyle with rfl | rfl <;> simp [Style.dress]
  | cons first rest =>
      obtain ⟨hfirst, hrest⟩ := List.forall_mem_cons.mp hwords
      have htail : ∀ w ∈ rest.map capitalize, Titled w :=
        List.forall_mem_map.mpr fun w hw => titled_capitalize (hrest w hw)
      rcases hstyle with rfl | rfl
      · exact List.forall_mem_cons.mpr ⟨titled_capitalize hfirst, htail⟩
      · exact List.forall_mem_cons.mpr ⟨titled_map_toLower hfirst, htail⟩

theorem not_isLower_of_mem_tail_dress (hstyle : style = .pascal ∨ style = .camel) :
    ∀ w ∈ (style.dress words).tail, ∀ c ∈ w.head?, ¬ c.isLower := by
  have hcapitalize : ∀ word, ∀ c ∈ (capitalize word).head?, ¬ c.isLower := by
    intro word
    cases word <;> simp [capitalize]
  cases words with
  | nil => rcases hstyle with rfl | rfl <;> simp [Style.dress]
  | cons first rest =>
      have htail : ∀ w ∈ rest.map capitalize, ∀ c ∈ w.head?, ¬ c.isLower :=
        List.forall_mem_map.mpr fun w _ => hcapitalize w
      rcases hstyle with rfl | rfl <;> exact htail

/-- What a style writes with nothing between words has the words of the name, or fewer. -/
theorem splitChars_joined (hstyle : style = .pascal ∨ style = .camel) (name : List Char) :
    let words := splitChars name
    let found := splitChars (style.applyChars name)
    (lowered found = lowered words ↔
      NoTwo isNumber words ∧ NoTwo isCapital (style.dress words)) ∧
    (lowered found ≠ lowered words → found.length < words.length) := by
  intro words found
  have hne : style ≠ .none := by rcases hstyle with rfl | rfl <;> decide
  have hfound : found = splitChars (style.dress words).flatten := by
    have hseparator : style.separator = [] := by rcases hstyle with rfl | rfl <;> rfl
    rw [← intercalate_nil_left, ← hseparator]
    exact congrArg splitChars (if_neg hne)
  have hwords : ∀ w ∈ words, IsWord w := fun _ => isWord_of_mem_splitChars
  rw [hfound, ← noTwo_isNumber_dress style]
  rcases splitChars_flatten (titled_of_mem_dress hstyle hwords)
    (not_isLower_of_mem_tail_dress hstyle) with ⟨hnumber, hcapital, hsplit⟩ | ⟨hnot, hshort⟩
  · have hkept : lowered (splitChars (style.dress words).flatten) = lowered words := by
      rw [hsplit, lowered_dress]
    exact ⟨iff_of_true hkept ⟨hnumber, hcapital⟩, fun h => absurd hkept h⟩
  · rw [length_dress] at hshort
    refine ⟨iff_of_false ?_ hnot, fun _ => hshort⟩
    intro hkept
    have hlength := congrArg List.length hkept
    simp only [lowered, List.length_map] at hlength
    exact absurd hlength (Nat.ne_of_lt hshort)

/-- The words of a name are found again in what `pascal` writes exactly if no two numbers and no two
single letters follow each other. In what `camel` writes, the first word is in small letters, so it
does not count as a single letter. Whenever words are not found again, there are fewer of them. -/
theorem joined_words_kept_iff (name : String) :
    let words := splitChars name.toList
    let pascal := splitChars (Style.pascal.apply name).toList
    let camel := splitChars (Style.camel.apply name).toList
    (lowered pascal = lowered words ↔ NoTwo isNumber words ∧ NoTwo isLetter words) ∧
    (lowered camel = lowered words ↔ NoTwo isNumber words ∧ NoTwo isLetter words.tail) ∧
    (lowered pascal ≠ lowered words → pascal.length < words.length) ∧
    (lowered camel ≠ lowered words → camel.length < words.length) := by
  intro words pascal camel
  have happly : ∀ style : Style, (style.apply name).toList = style.applyChars name.toList :=
    fun style => String.toList_ofList
  have hcapitalize : ∀ words, NoTwo isCapital (words.map capitalize) ↔ NoTwo isLetter words :=
    fun words => noTwo_map fun w _ => isCapital_capitalize w
  have hcamel : NoTwo isCapital (Style.camel.dress words) ↔ NoTwo isLetter words.tail := by
    cases words with
    | nil => exact hcapitalize []
    | cons first rest =>
        exact (noTwo_cons_of_not (isCapital_map_toLower first)).trans (hcapitalize rest)
  obtain ⟨hpascalKept, hpascalShort⟩ := splitChars_joined (Or.inl rfl) name.toList
  obtain ⟨hcamelKept, hcamelShort⟩ := splitChars_joined (Or.inr rfl) name.toList
  rw [← happly] at hpascalKept hpascalShort hcamelKept hcamelShort
  refine ⟨?_, ?_, hpascalShort, hcamelShort⟩
  · rw [← hcapitalize]
    exact hpascalKept
  · rw [← hcamel]
    exact hcamelKept

/-- The letters of `x_y` stay apart as `xY` and not as `XY`. -/
theorem joined_words_of_two_letters :
    let words := splitChars "x_y".toList
    lowered (splitChars (Style.camel.apply "x_y").toList) = lowered words ∧
      (splitChars (Style.pascal.apply "x_y").toList).length < words.length := by
  intro words
  obtain ⟨hpascal, hcamel, hshort, _⟩ := joined_words_kept_iff "x_y"
  refine ⟨hcamel.mpr (by decide +kernel), hshort ?_⟩
  intro hkept
  exact absurd (hpascal.mp hkept) (by decide +kernel)

end Joined

end TableTypes.Casing
