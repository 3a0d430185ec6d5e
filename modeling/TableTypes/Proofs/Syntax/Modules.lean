import TableTypes.Proofs.Text.Lines
import TableTypes.Syntax.Printer

/-! # Printed modules

A module is printed statement by statement, and its line breaks are written last. So its text is the
same lines whatever ends them, and a text without carriage returns can be had back from the one in
which every break is two characters.
-/

namespace TableTypes.Syntax

open Text (Clean Plain)

section NewLines

variable {text : String}

theorem withNewLines_append (newLine first second : String) :
    withNewLines newLine (first ++ second) =
      withNewLines newLine first ++ withNewLines newLine second := by
  rw [withNewLines, String.toList_append, List.flatMap_append, String.ofList_append]
  rfl

theorem withNewLines_eq_intercalate (newLine text : String) :
    withNewLines newLine text = newLine.intercalate (Text.lines text) := by
  rw [← String.toList_inj, withNewLines, String.toList_ofList,
    Text.flatMap_break_eq_intercalate, String.toList_intercalate]
  simp [Text.lines, Function.comp_def]

theorem withNewLines_break (text : String) : withNewLines "\n" text = text := by
  have hsame : (fun c => if c = '\n' then "\n".toList else [c]) = fun c : Char => [c] := by
    funext c
    split
    · rename_i hc
      rw [hc]
      rfl
    · rfl
  rw [withNewLines, hsame, List.flatMap_singleton', String.ofList_toList]

/-- What was written for the breaks of a clean text can be exchanged later. -/
theorem replaceCRLF_withNewLines (hclean : Clean text) (ending : String) :
    Text.replaceCRLF ending (withNewLines "\r\n" text) = withNewLines ending text := by
  have hchars : ∀ chars : List Char, (∀ c ∈ chars, Text.IsPlain c ∨ c = '\n') →
      Text.replaceCRLFChars ending.toList
          (chars.flatMap fun c => if c = '\n' then "\r\n".toList else [c]) =
        chars.flatMap fun c => if c = '\n' then ending.toList else [c] := by
    intro chars hchars
    induction chars with
    | nil => rfl
    | cons c rest ih =>
        obtain ⟨hc, hrest⟩ := List.forall_mem_cons.mp hchars
        rw [List.flatMap_cons, List.flatMap_cons, ← ih hrest]
        by_cases hbreak : c = '\n'
        · rw [if_pos hbreak, if_pos hbreak]
          rfl
        · have hcr : c ≠ '\r' := by
            rintro rfl
            exact absurd hc (by decide)
          rw [if_neg hbreak, if_neg hbreak, List.singleton_append, List.singleton_append,
            Text.replaceCRLFChars_cons hcr]
  rw [Text.replaceCRLF, withNewLines, withNewLines, String.toList_ofList, hchars text.toList hclean]

theorem plain_withNewLines_empty (hclean : Clean text) : Plain (withNewLines "" text) := by
  intro c hc
  rw [withNewLines, String.toList_ofList, List.mem_flatMap] at hc
  obtain ⟨d, hd, hmem⟩ := hc
  by_cases hbreak : d = '\n'
  · simp [hbreak] at hmem
  · obtain rfl : c = d := by simpa [hbreak] using hmem
    exact (hclean c hd).resolve_right hbreak

theorem withNewLines_of_plain (hplain : Plain text) (newLine : String) :
    withNewLines newLine text = text := by
  have hsame : text.toList.flatMap (fun c => if c = '\n' then newLine.toList else [c]) =
      text.toList.flatMap fun c => [c] := by
    refine List.flatMap_congr fun c hc => if_neg ?_
    rintro rfl
    exact hplain.break_notMem hc
  rw [withNewLines, hsame, List.flatMap_singleton', String.ofList_toList]

/-- One text in two spellings. The first has plain characters and line feeds and ends its last line;
the second has its lines with two characters for every break, and no other trace of either. -/
structure SameLines (lf crlf : String) : Prop where
  clean : Clean lf
  ended : lf.toList.getLast? = some '\n'
  spelled : crlf = "\r\n".intercalate (Text.lines lf)
  restored : Text.replaceCRLF "\n" crlf = lf
  noStray : Plain (Text.replaceCRLF "" crlf)

theorem sameLines_withNewLines (hclean : Clean text) (hended : text.toList.getLast? = some '\n') :
    SameLines text (withNewLines "\r\n" text) where
  clean := hclean
  ended := hended
  spelled := withNewLines_eq_intercalate "\r\n" text
  restored := (replaceCRLF_withNewLines hclean "\n").trans (withNewLines_break text)
  noStray := replaceCRLF_withNewLines hclean "" ▸ plain_withNewLines_empty hclean

end NewLines

section Statements

variable {layout : Layout} {statements rest : List Statement}

/-- Line breaks are written last. -/
theorem printModule_eq_withNewLines (layout : Layout) (statements : List Statement) :
    printModule layout statements =
      withNewLines layout.newLine (printModule { layout with newLine := "\n" } statements) := by
  rw [printModule, printModule, withNewLines_break]

/-- A module is printed part by part. -/
theorem printModule_append (layout : Layout) (first second : List Statement) :
    printModule layout (first ++ second) =
      printModule layout first ++ printModule layout second := by
  unfold printModule
  rw [← withNewLines_append, ← String.join_append, ← List.map_append]
  split
  · rw [List.filter_append]
  · rfl

theorem clean_printModule (hbreak : layout.newLine = "\n")
    (hstatements : ∀ statement ∈ statements, Clean (statement.print layout.indent)) :
    Clean (printModule layout statements) := by
  rw [printModule, hbreak, withNewLines_break]
  refine Text.composable_clean.join fun text htext => ?_
  obtain ⟨statement, hkept, rfl⟩ := List.mem_map.mp htext
  have hmem : statement ∈ statements := by
    split at hkept
    · exact (List.mem_filter.mp hkept).1
    · exact hkept
  simpa +decide using hstatements statement hmem

theorem printModule_statement {statement : Statement} (hkept : statement.isComment = false) :
    printModule layout [statement] =
      withNewLines layout.newLine (statement.print layout.indent ++ "\n") := by
  unfold printModule
  split <;> simp [hkept]

/-- A text ends in a line break if its last statement is not left out. -/
theorem ended_printModule {last : Statement} (hbreak : layout.newLine = "\n")
    (hkept : last.isComment = false) :
    (printModule layout (statements ++ [last])).toList.getLast? = some '\n' := by
  rw [printModule_append, printModule_statement hkept, hbreak, withNewLines_break]
  simp

/-- Without comments the text lacks the line of the comment in front, if there is no other. -/
theorem printModule_comment {text : String} (hplain : Plain text)
    (hrest : ∀ statement ∈ rest, statement.isComment = false) (newLine : String) :
    printModule { newLine, removeComments := false } (.comment text :: rest) =
      ("// " ++ text) ++ newLine ++
        printModule { newLine, removeComments := true } (.comment text :: rest) := by
  have hline : printModule { newLine, removeComments := false } [.comment text] =
      ("// " ++ text) ++ newLine := by
    have hprint : printModule { newLine, removeComments := false } [.comment text] =
        withNewLines newLine (("// " ++ text) ++ "\n") := by
      simp [printModule, Statement.print]
    rw [hprint, withNewLines_append,
      withNewLines_of_plain (Text.plain_append.mpr ⟨by decide, hplain⟩)]
    simp [withNewLines]
  have hrest : printModule { newLine, removeComments := true } (.comment text :: rest) =
      printModule { newLine, removeComments := false } rest := by
    have hkept : (rest.filter fun statement => !statement.isComment) = rest :=
      List.filter_eq_self.mpr fun statement hmem => by simp [hrest statement hmem]
    have hcomment : (Statement.comment text).isComment = true := rfl
    simp [printModule, hcomment, hkept]
  rw [hrest, ← hline, ← printModule_append]
  rfl

end Statements

end TableTypes.Syntax
