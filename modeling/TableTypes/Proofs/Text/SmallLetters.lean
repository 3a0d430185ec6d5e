import Mathlib.Data.Char
import TableTypes.Text.LowerCase

/-! # Texts that have an ASCII small form

Only the capitals of ASCII and the sign for kelvin have a small form in ASCII other than themselves,
and no small form is one of these. So putting a text into small letters twice gives an ASCII text
exactly if doing so once gives it. Characters of ASCII that are no capitals stay where they are.
-/

namespace TableTypes.Text

/-- A character with a small form in ASCII other than itself. -/
def IsPlainCapital (c : Char) : Prop :=
  0x41 ≤ c.toNat ∧ c.toNat ≤ 0x5A ∨ c.toNat = 0x212A

instance : DecidablePred IsPlainCapital := fun _ => inferInstanceAs (Decidable (_ ∨ _))

section Characters

variable {c d : Char}

theorem ascii_forall {P : Char → Prop} (hall : ∀ n < 0x80, P (Char.ofNat n)) (c : Char)
    (hascii : c.toNat < 0x80) : P c := by
  have hc := hall c.toNat hascii
  rwa [Char.ofNat_toNat] at hc

theorem toNat_of_isDigit (hdigit : c.isDigit) : 48 ≤ c.toNat ∧ c.toNat ≤ 57 := by
  simpa [Char.isDigit, UInt32.le_iff_toNat_le] using hdigit

theorem toNat_of_isUpper (hupper : c.isUpper) : 65 ≤ c.toNat ∧ c.toNat ≤ 90 :=
  of_decide_eq_true hupper

theorem toNat_of_isLower (hlower : c.isLower) : 97 ≤ c.toNat ∧ c.toNat ≤ 122 :=
  (Bool.and_eq_true_iff.mp hlower).imp of_decide_eq_true of_decide_eq_true

theorem toNat_of_isAlpha (halpha : c.isAlpha) :
    65 ≤ c.toNat ∧ c.toNat ≤ 90 ∨ 97 ≤ c.toNat ∧ c.toNat ≤ 122 :=
  (Bool.or_eq_true_iff.mp halpha).imp toNat_of_isUpper toNat_of_isLower

theorem toNat_ofNat_cases (n : Nat) : (Char.ofNat n).toNat = n ∨ (Char.ofNat n).toNat = 0 := by
  by_cases hvalid : n.isValidChar
  · exact Or.inl (congrArg Char.toNat (dif_pos hvalid))
  · exact Or.inr (congrArg Char.toNat (dif_neg hvalid))

theorem toLower_eq_self (hascii : c.toNat < 0x80) (hcapital : ¬ IsPlainCapital c) :
    c.toLower = c :=
  ascii_forall (P := fun c => ¬ IsPlainCapital c → c.toLower = c) (by decide +kernel) c hascii
    hcapital

theorem not_isPlainCapital_toLower (hascii : c.toNat < 0x80) : ¬ IsPlainCapital c.toLower :=
  ascii_forall (P := fun c => ¬ IsPlainCapital c.toLower) (by decide +kernel) c hascii

/-- What the runs have for small letters: nothing of ASCII but for kelvin, and no plain capital. -/
theorem forall_capitalRuns : ∀ run ∈ capitalRuns,
    (0x80 ≤ run.first + run.shift ∨ run.first = 0x212A ∧ run.last = 0x212A) ∧
      0x5A < run.first + run.shift ∧
      (run.last + run.shift < 0x212A ∨ 0x212A < run.first + run.shift) := by
  decide +kernel

/-- The small forms of a character beyond ASCII. -/
theorem lowerChar_cases (hbeyond : 0x80 ≤ c.toNat) :
    lowerChar c = ['i', Char.ofNat 0x307] ∨
      (∃ run ∈ capitalRuns, run.first ≤ c.toNat ∧ c.toNat ≤ run.last ∧
        lowerChar c = [Char.ofNat (c.toNat + run.shift).toNat]) ∨
      lowerChar c = [c] ∧ c.toNat ≠ 0x212A := by
  rw [lowerChar, if_neg (Nat.not_lt.mpr hbeyond)]
  split
  · exact Or.inl rfl
  split
  · rename_i run hrun
    have hbounds := List.find?_some hrun
    simp only [Bool.and_eq_true, decide_eq_true_eq] at hbounds
    exact Or.inr (Or.inl ⟨run, List.mem_of_find?_eq_some hrun, hbounds.1.1, hbounds.1.2, rfl⟩)
  · rename_i hnone
    refine Or.inr (Or.inr ⟨rfl, fun hkelvin => ?_⟩)
    rw [hkelvin] at hnone
    revert hnone
    decide +kernel

theorem not_isPlainCapital_lowerChar (c : Char) : ∀ d ∈ lowerChar c, ¬ IsPlainCapital d := by
  by_cases hascii : c.toNat < 0x80
  · rw [lowerChar, if_pos hascii]
    simpa using not_isPlainCapital_toLower hascii
  obtain hdotted | ⟨run, hrun, hfirst, hlast, hlower⟩ | ⟨hself, hkelvin⟩ :=
    lowerChar_cases (Nat.le_of_not_lt hascii)
  · rw [hdotted, List.forall_mem_cons, List.forall_mem_singleton]
    exact ⟨by decide, by decide⟩
  · rw [hlower, List.forall_mem_singleton, IsPlainCapital]
    obtain ⟨_, habove, hkelvin⟩ := forall_capitalRuns run hrun
    have hform := toNat_ofNat_cases (c.toNat + run.shift).toNat
    omega
  · rw [hself, List.forall_mem_singleton, IsPlainCapital]
    omega

/-- A character whose small form is in ASCII is a plain capital or its own small form. -/
theorem lowerChar_eq_self (hcapital : ¬ IsPlainCapital c)
    (hsmall : ∀ d ∈ lowerChar c, 0 < d.toNat ∧ d.toNat < 0x80) : lowerChar c = [c] := by
  by_cases hascii : c.toNat < 0x80
  · rw [lowerChar, if_pos hascii, toLower_eq_self hascii hcapital]
  obtain hdotted | ⟨run, hrun, hfirst, hlast, hlower⟩ | ⟨hself, _⟩ :=
    lowerChar_cases (Nat.le_of_not_lt hascii)
  · rw [hdotted] at hsmall
    exact absurd (hsmall (Char.ofNat 0x307) (by simp)).2 (by decide)
  · rw [hlower, List.forall_mem_singleton] at hsmall
    obtain ⟨hbeyond, _⟩ := forall_capitalRuns run hrun
    have hform := toNat_ofNat_cases (c.toNat + run.shift).toNat
    rw [IsPlainCapital] at hcapital
    omega
  · exact hself

end Characters

section Texts

variable {c : Char} {before s : List Char} {name : String}

theorem not_isPlainCapital_lowerAfter (before s : List Char) :
    ∀ d ∈ lowerAfter before s, ¬ IsPlainCapital d := by
  induction s generalizing before with
  | nil => simp [lowerAfter]
  | cons c rest ih =>
      rw [lowerAfter, List.forall_mem_append]
      refine ⟨?_, ih _⟩
      split
      · split
        · exact List.forall_mem_singleton.mpr (by decide)
        · exact List.forall_mem_singleton.mpr (by decide)
      · exact not_isPlainCapital_lowerChar c

theorem lowerAfter_eq_self (hcapital : ∀ c ∈ s, ¬ IsPlainCapital c)
    (hsmall : ∀ d ∈ lowerAfter before s, 0 < d.toNat ∧ d.toNat < 0x80) :
    lowerAfter before s = s := by
  induction s generalizing before with
  | nil => rfl
  | cons c rest ih =>
      obtain ⟨hc, hrest⟩ := List.forall_mem_cons.mp hcapital
      rw [lowerAfter, List.forall_mem_append] at hsmall
      rw [lowerAfter, ih hrest hsmall.2]
      split
      · -- The forms of sigma are not in ASCII.
        rename_i hsigma
        rw [if_pos hsigma] at hsmall
        have hsigma := (hsmall.1 _ (List.mem_singleton_self _)).2
        split at hsigma
        · exact absurd hsigma (by decide)
        · exact absurd hsigma (by decide)
      · rename_i hsigma
        rw [if_neg hsigma] at hsmall
        rw [lowerChar_eq_self hc hsmall.1]
        rfl

/-- A text whose small form is put into small letters once more gives no other ASCII text. -/
theorem lower_lower_eq_iff (hname : ∀ c ∈ name.toList, 0 < c.toNat ∧ c.toNat < 0x80)
    (hsmall : lower name = name) (s : String) : lower (lower s) = name ↔ lower s = name := by
  constructor
  · intro htwice
    have hchars : lowerAfter [] (lower s).toList = name.toList := by
      rw [← String.toList_ofList (l := lowerAfter [] (lower s).toList)]
      exact congrArg String.toList htwice
    have honce : lowerAfter [] (lower s).toList = (lower s).toList := by
      refine lowerAfter_eq_self ?_ (by rw [hchars]; exact hname)
      rw [lower, String.toList_ofList]
      exact not_isPlainCapital_lowerAfter [] s.toList
    rw [← String.toList_inj, ← honce, hchars]
  · intro honce
    rw [honce, hsmall]

/-- Small letters leave the other characters of ASCII in their places. -/
theorem mem_lower_of_mem {s : String} (hmem : c ∈ s.toList) (hascii : c.toNat < 0x80)
    (hcapital : ¬ IsPlainCapital c) : c ∈ (lower s).toList := by
  rw [lower, String.toList_ofList]
  obtain ⟨first, rest, hsplit⟩ := List.append_of_mem hmem
  rw [hsplit]
  have hlower : ∀ before first, c ∈ lowerAfter before (first ++ c :: rest) := by
    intro before first
    induction first generalizing before with
    | nil =>
        have hsigma : c.toNat ≠ 0x3A3 := by omega
        simp [lowerAfter, hsigma, lowerChar, hascii, toLower_eq_self hascii hcapital]
    | cons d first ih =>
        rw [List.cons_append, lowerAfter]
        exact List.mem_append_right _ (ih _)
  exact hlower [] first

end Texts

end TableTypes.Text
