import TableTypes.Proofs.Declaration.Clean
import TableTypes.Proofs.Generation.Tags
import TableTypes.Proofs.Syntax.Modules

/-! # Layout of a module

The layout decides how the statements of a module are written down, and nothing decides what they
are but the rest of the plan. All texts in the schema, whatever characters they have, are printed in
plain characters and line breaks, so the text of a module is the same in all layouts up to what ends
its lines and to the line of the comment in front.
-/

namespace TableTypes.Generation

open Declaration (Draft Legible)
open Syntax (SameLines Statement)
open Text (Clean Plain)

variable {plan : Plan} {source : Source} {enums : List EnumType} {tables : List Table}

/-- The generator with another layout, which keeps the standard indentation. -/
def Generator.laidOut (g : Generator) (newLine : String) (removeComments : Bool) : Generator :=
  { g with plan := { g.plan with layout := { newLine, removeComments } } }

/-- A run does not look at the layout. -/
theorem run_laidOut (g : Generator) (newLine : String) (removeComments : Bool) :
    run (g.laidOut newLine removeComments).plan source = run g.plan source :=
  rfl

section Clean

theorem legible_of_find? (haccepts : startRegistry.Accepts (plan.requests enums tables))
    {name : String} {entry : Entry}
    (hentry : (plan.scope enums tables).types.find? name = some entry) : Legible entry := by
  rcases Registry.find?_extend_cases rfl haccepts hentry with
    ⟨type, hmem, rfl⟩ | ⟨request, hmem, rfl⟩
  · exact Declaration.legible_builtin hmem
  · exact Declaration.legible_request (declarable_of_mem_requests hmem)

theorem clean_preamble (importChecks : Bool) :
    ∀ statement ∈ Declaration.preamble importChecks,
      Clean (statement.print ({} : Syntax.Layout).indent) := by
  cases importChecks <;> decide +kernel

variable {module : List Statement} (hrun : (run plan source).result = .ok module)

include hrun

theorem drafts_of_run : ∃ enums tables declarations,
    startRegistry.Accepts (plan.requests enums tables) ∧
      module = Declaration.preamble plan.validators ++ declarations ∧
      ∀ statement ∈ declarations, ∃ draft : Draft,
        draft.build (plan.scope enums tables) = .ok statement := by
  obtain ⟨enums, tables, hreturns⟩ := returns_of_run hrun
  obtain ⟨haccepts, declarations, hbuild, rfl⟩ := (run_eq_ok_iff hreturns).mp hrun
  refine ⟨enums, tables, declarations, haccepts, rfl, fun statement hmem => ?_⟩
  obtain ⟨draft, _, hok⟩ := draft_of_mem_declarations hbuild hmem
  exact ⟨draft, hok⟩

theorem clean_of_run :
    ∀ statement ∈ module, Clean (statement.print ({} : Syntax.Layout).indent) := by
  obtain ⟨enums, tables, declarations, haccepts, rfl, hdrafts⟩ := drafts_of_run hrun
  refine List.forall_mem_append.mpr ⟨clean_preamble plan.validators, fun statement hmem => ?_⟩
  obtain ⟨draft, hok⟩ := hdrafts statement hmem
  exact draft.clean_build (by decide) (fun _ _ => legible_of_find? haccepts) hok

/-- A module starts with its comment, and what follows is something else and there at all. -/
theorem comment_of_run : ∃ rest last,
    module = .comment Declaration.headerComment :: (rest ++ [last]) ∧
      ∀ statement ∈ rest ++ [last], statement.isComment = false := by
  obtain ⟨enums, tables, declarations, -, rfl, hdrafts⟩ := drafts_of_run hrun
  have hpreamble : ∀ statement ∈ (Declaration.preamble plan.validators).tail,
      statement.isComment = false := by
    cases plan.validators <;> decide
  have hrest : ∀ statement ∈ (Declaration.preamble plan.validators).tail ++ declarations,
      statement.isComment = false := by
    refine List.forall_mem_append.mpr ⟨hpreamble, fun statement hmem => ?_⟩
    obtain ⟨draft, hok⟩ := hdrafts statement hmem
    exact draft.isComment_build hok
  have hne : (Declaration.preamble plan.validators).tail ++ declarations ≠ [] := by
    cases plan.validators <;> simp [Declaration.preamble]
  obtain ⟨rest, last, hsplit⟩ := (List.eq_nil_or_concat _).resolve_left hne
  rw [List.concat_eq_append] at hsplit
  rw [hsplit] at hrest
  refine ⟨rest, last, ?_, hrest⟩
  rw [← hsplit]
  rfl

end Clean

/-- What the layout does to the text of a module. With line feeds the text is clean; with two
characters for every break it has the same lines; without comments it lacks its first line. -/
theorem build_text_is_clean (g : Generator) {answer : Answer}
    (hbuild : (g.build source).2.result = .ok answer) :
    ∃ text : String → Bool → String,
      (∀ newLine removeComments,
        ((g.laidOut newLine removeComments).build source).2.result =
          .ok (.module (text newLine removeComments))) ∧
      (∀ removeComments, SameLines (text "\n" removeComments) (text "\r\n" removeComments)) ∧
      ∃ first, Plain first ∧
        ∀ newLine, text newLine false = first ++ newLine ++ text newLine true := by
  obtain ⟨module, hrun, -⟩ := Generator.build_eq_ok_iff.mp hbuild
  obtain ⟨rest, last, hmodule, hrest⟩ := comment_of_run hrun
  refine ⟨fun newLine removeComments => Syntax.printModule { newLine, removeComments } module,
    ?_, ?_, "// " ++ Declaration.headerComment, by decide +kernel, ?_⟩
  · intro newLine removeComments
    refine Generator.build_eq_ok_iff.mpr ⟨module, ?_, rfl⟩
    rw [run_laidOut, hrun]
  · intro removeComments
    beta_reduce
    rw [Syntax.printModule_eq_withNewLines { newLine := "\r\n", removeComments }]
    refine Syntax.sameLines_withNewLines (Syntax.clean_printModule rfl (clean_of_run hrun)) ?_
    rw [hmodule, ← List.cons_append]
    exact Syntax.ended_printModule rfl (hrest last (by simp))
  · intro newLine
    rw [hmodule]
    exact Syntax.printModule_comment (by decide +kernel) hrest newLine

/-- Breaks, quotes and characters beyond ASCII in names and labels, and a field that ends in the
break that does not count. -/
theorem clean_text_of_odd_names :
    let g : Generator := { plan := { names := { columns := .none } } }
    let type : EnumType := { name := "état\r\n", values := ["\"\\\r\n", "\u2028😀", "\x7f"] }
    let table : Table := { name := "größe\r", columns :=
      [{ name := "a\n", type := "état\r\n" }, { name := "b\r\n", type := "größe\r" }] }
    let source : Source := { enums := ⟨.ok [type], []⟩, tables := ⟨.ok [table], []⟩ }
    ∃ lf crlf first,
      ((g.laidOut "\n" false).build source).2.result = .ok (.module (first ++ "\n" ++ lf)) ∧
      ((g.laidOut "\n" true).build source).2.result = .ok (.module lf) ∧
      ((g.laidOut "\r\n" true).build source).2.result = .ok (.module crlf) ∧
      SameLines lf crlf := by
  intro g type table source
  have hreturns : source.Returns [type] [table] := ⟨rfl, rfl⟩
  obtain ⟨module, hrun⟩ := run_gives_module g.plan hreturns (by decide +kernel)
    (by decide +kernel)
  obtain ⟨text, htext, hsame, first, -, hfirst⟩ :=
    build_text_is_clean g (Generator.build_eq_ok_iff.mpr ⟨module, hrun, rfl⟩)
  refine ⟨text "\n" true, text "\r\n" true, first, ?_, htext _ _, htext _ _, hsame true⟩
  rw [← hfirst]
  exact htext "\n" false

end TableTypes.Generation
