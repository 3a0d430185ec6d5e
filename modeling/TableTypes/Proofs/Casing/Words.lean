import Mathlib
import TableTypes.Casing.Style

/-! # Words and how styles write them

A word is letters only or digits only. A style changes nothing about the words of a name but the
case of their letters, so what it writes can be told from the words in small letters, and the
small letters can be told from what it writes. The lemmas on the case of letters are reached through
the whole of Mathlib alone.
-/

namespace TableTypes.Casing

/-- At least one character, and letters only or digits only. -/
def IsWord (word : List Char) : Prop :=
  word ≠ [] ∧ ((∀ c ∈ word, c.isAlpha) ∨ ∀ c ∈ word, c.isDigit)

/-- The words in small letters. -/
def lowered (words : List (List Char)) : List (List Char) :=
  words.map (·.map Char.toLower)

section Split

variable {p : Char → Bool} {c : Char} {run : List Char}

theorem isWord_letters (hp : ∀ d, p d → d.isAlpha) (hc : c.isAlpha)
    (hrun : ∀ d ∈ run, p d) : IsWord (c :: run) := by
  refine ⟨List.cons_ne_nil _ _, Or.inl ?_⟩
  intro d hd
  rcases List.mem_cons.mp hd with rfl | hd
  · exact hc
  · exact hp d (hrun d hd)

theorem isAlpha_of_isUpper (hc : c.isUpper) : c.isAlpha := by
  simp [Char.isAlpha, hc]

theorem isAlpha_of_isLower (hc : c.isLower) : c.isAlpha := by
  simp [Char.isAlpha, hc]

theorem isWord_of_mem_splitChars {name word : List Char} (hmem : word ∈ splitChars name) :
    IsWord word := by
  -- Each case cuts one word off and leaves the others to the rest of the name.
  have hcut : ∀ {head : List Char} {others : List (List Char)}, IsWord head →
      (word ∈ others → IsWord word) → word ∈ head :: others → IsWord word := by
    intro head others hhead hothers hmem
    rcases List.mem_cons.mp hmem with rfl | hmem
    · exact hhead
    · exact hothers hmem
  fun_induction splitChars name with
  | case1 => cases hmem
  | case2 c rest hupper capitals after small hsmall ih =>
      refine hcut (isWord_letters (p := Char.isUpper) (fun _ => isAlpha_of_isUpper)
        (isAlpha_of_isUpper hupper) ?_) ih hmem
      exact fun d hd => List.mem_takeWhile_imp hd
  | case3 c rest hupper capitals after small hsmall hlast ih =>
      refine hcut (isWord_letters (p := Char.isLower) (fun _ => isAlpha_of_isLower)
        (isAlpha_of_isUpper hupper) ?_) ih hmem
      exact fun d hd => List.mem_takeWhile_imp hd
  | case4 c rest hupper capitals after small hsmall last hlast ih =>
      refine hcut (isWord_letters (p := Char.isUpper) (fun _ => isAlpha_of_isUpper)
        (isAlpha_of_isUpper hupper) ?_) ih hmem
      exact fun d hd => List.mem_takeWhile_imp (List.dropLast_subset _ hd)
  | case5 c rest hupper hlower ih =>
      refine hcut (isWord_letters (p := Char.isLower) (fun _ => isAlpha_of_isLower)
        (isAlpha_of_isLower hlower) ?_) ih hmem
      exact fun d hd => List.mem_takeWhile_imp hd
  | case6 c rest hupper hlower hdigit ih =>
      refine hcut ⟨List.cons_ne_nil _ _, Or.inr ?_⟩ ih hmem
      intro d hd
      rcases List.mem_cons.mp hd with rfl | hd
      · exact hdigit
      · exact List.mem_takeWhile_imp hd
  | case7 c rest hupper hlower hdigit ih => exact ih hmem

end Split

section Case

variable {c : Char} {word : List Char} {words : List (List Char)} {style : Style}

theorem not_isDigit_of_isAlpha (hc : c.isAlpha) : ¬ c.isDigit := by
  simp only [Char.isAlpha, Char.isUpper, Char.isLower, Char.isDigit, Bool.or_eq_true,
    Bool.and_eq_true, decide_eq_true_eq, UInt32.le_iff_toNat_le] at hc ⊢
  simp at hc ⊢
  omega

theorem not_isUpper_of_isDigit (hc : c.isDigit) : ¬ c.isUpper :=
  fun hupper => not_isDigit_of_isAlpha (isAlpha_of_isUpper hupper) hc

theorem not_isLower_of_isDigit (hc : c.isDigit) : ¬ c.isLower :=
  fun hlower => not_isDigit_of_isAlpha (isAlpha_of_isLower hlower) hc

theorem isDigit_of_case {f : Char → Char} (halpha : ∀ c, (f c).isAlpha = c.isAlpha)
    (hother : ∀ c, ¬ c.isAlpha → f c = c) (c : Char) : (f c).isDigit = c.isDigit := by
  by_cases hc : c.isAlpha
  · have hf : (f c).isAlpha := by rwa [halpha]
    rw [Bool.eq_false_iff.mpr (not_isDigit_of_isAlpha hf),
      Bool.eq_false_iff.mpr (not_isDigit_of_isAlpha hc)]
  · rw [hother c hc]

@[simp] theorem isDigit_toLower (c : Char) : c.toLower.isDigit = c.isDigit := by
  apply isDigit_of_case Char.isAlpha_toLower_eq_isAlpha
  intro c hc
  exact Char.toLower_eq_of_not_isUpper (mt isAlpha_of_isUpper hc)

@[simp] theorem isDigit_toUpper (c : Char) : c.toUpper.isDigit = c.isDigit := by
  apply isDigit_of_case Char.isAlpha_toUpper_eq_isAlpha
  intro c hc
  exact Char.toUpper_eq_of_not_isLower (mt isAlpha_of_isLower hc)

theorem isWord_map_toLower_iff : IsWord (word.map Char.toLower) ↔ IsWord word := by
  simp [IsWord]

theorem map_toLower_capitalize (word : List Char) :
    (capitalize word).map Char.toLower = word.map Char.toLower := by
  cases word with
  | nil => rfl
  | cons c rest => simp [capitalize]

theorem capitalize_map_toLower (word : List Char) :
    capitalize (word.map Char.toLower) = capitalize word := by
  cases word with
  | nil => rfl
  | cons c rest => simp [capitalize]

theorem lowered_dress (style : Style) (words : List (List Char)) :
    lowered (style.dress words) = lowered words := by
  cases style with
  | none => rfl
  | camel => cases words <;> simp [lowered, Style.dress, map_toLower_capitalize]
  | pascal | snake | constant | kebab | header =>
      simp [lowered, Style.dress, map_toLower_capitalize]

theorem dress_lowered (hstyle : style ≠ .none) (words : List (List Char)) :
    style.dress (lowered words) = style.dress words := by
  cases style with
  | none => exact absurd rfl hstyle
  | camel => cases words <;> simp [lowered, Style.dress, capitalize_map_toLower]
  | pascal | snake | constant | kebab | header =>
      simp [lowered, Style.dress, capitalize_map_toLower]

/-- A style writes words alike exactly if they differ in case only. -/
theorem dress_eq_dress_iff (hstyle : style ≠ .none) {words words' : List (List Char)} :
    style.dress words = style.dress words' ↔ lowered words = lowered words' := by
  constructor
  · intro heq
    rw [← lowered_dress style words, heq, lowered_dress]
  · intro heq
    rw [← dress_lowered hstyle, heq, dress_lowered hstyle]

theorem isWord_of_mem_dress (hwords : ∀ w ∈ words, IsWord w) (hmem : word ∈ style.dress words) :
    IsWord word := by
  have hlowered : word.map Char.toLower ∈ lowered words := by
    rw [← lowered_dress style words]
    exact List.mem_map_of_mem hmem
  obtain ⟨source, hsource, heq⟩ := List.mem_map.mp hlowered
  rw [← isWord_map_toLower_iff, ← heq, isWord_map_toLower_iff]
  exact hwords source hsource

end Case

end TableTypes.Casing
