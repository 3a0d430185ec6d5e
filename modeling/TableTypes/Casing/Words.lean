/-!
# Words of an identifier

A name from any convention is read as a list of words: runs of ASCII letters or digits, cut
where the case turns. In a run of capitals before a small letter, the last capital belongs to
the word that the small letter continues, so `HTTPError` reads as `HTTP` and `Error`.
-/

namespace TableTypes.Casing

/-- The words of a name, in order. Characters other than ASCII letters and digits separate
words and belong to none. -/
def splitChars : List Char → List (List Char)
  | [] => []
  | c :: rest =>
    if c.isUpper then
      let capitals := rest.takeWhile Char.isUpper
      let after := rest.dropWhile Char.isUpper
      let small := after.takeWhile Char.isLower
      if small.isEmpty then
        (c :: capitals) :: splitChars after
      else
        match _hlast : capitals.getLast? with
        | none => (c :: small) :: splitChars (after.dropWhile Char.isLower)
        | some last => (c :: capitals.dropLast) :: splitChars (last :: after)
    else if c.isLower then
      (c :: rest.takeWhile Char.isLower) :: splitChars (rest.dropWhile Char.isLower)
    else if c.isDigit then
      (c :: rest.takeWhile Char.isDigit) :: splitChars (rest.dropWhile Char.isDigit)
    else
      splitChars rest
termination_by cs => cs.length
decreasing_by
  · have := (rest.dropWhile_suffix Char.isUpper).length_le
    simp only [List.length_cons]; omega
  · have := (rest.dropWhile_suffix Char.isUpper).length_le
    have := ((rest.dropWhile Char.isUpper).dropWhile_suffix Char.isLower).length_le
    simp only [List.length_cons]; omega
  · have hsum := congrArg List.length (rest.takeWhile_append_dropWhile (p := Char.isUpper))
    rw [List.length_append] at hsum
    have hne : rest.takeWhile Char.isUpper ≠ [] := by
      intro hnil
      simp [capitals, hnil] at _hlast
    have := List.length_pos_iff.mpr hne
    simp only [List.length_cons]; omega
  · have := (rest.dropWhile_suffix Char.isLower).length_le
    simp only [List.length_cons]; omega
  · have := (rest.dropWhile_suffix Char.isDigit).length_le
    simp only [List.length_cons]; omega
  · simp

/-- The words of a name as texts. -/
def splitWords (name : String) : List String :=
  (splitChars name.toList).map String.ofList

end TableTypes.Casing
