import TableTypes.Proofs.Declaration.Exposure
import TableTypes.Proofs.Generation.Layout

/-! # Names of columns in a module

A name is printed so that it is read back, unless it ends in the line break that does not count.
What else of the names of columns could come into the declarations of a module stays in quotes.
-/

namespace TableTypes.Generation

open Casing (isIdentifierPart)
open Syntax (EndsInBreak ReadsBack Statement Template propertyName)
open Text (Settled code)

variable {source : Source} {enums : List EnumType} {tables : List Table}

/-- A name is read back from how it is printed exactly if it does not end in a line break behind a
declarable name. Whatever the columns of a table are called, the code of each declaration for it is
that of one template with the printed names of its fields in the gaps, and these bring in nothing
but characters of names exactly if none of them ends so. -/
theorem names_kept_in_quotes_iff (plan : Plan) (hreturns : source.Returns enums tables)
    {module : List Statement} (hrun : (run plan source).result = .ok module)
    (hindent : Settled plan.layout.indent) :
    (∀ name, ReadsBack name ↔ ¬ EndsInBreak name) ∧
    ∀ draft ∈ plan.drafts enums tables, ∀ table, draft.table? = some table →
      let scope := plan.scope enums tables
      let names := draft.memberNames scope
      ∃ statement ∈ module, draft.build scope = .ok statement ∧
        (∃ template : Template, template.rows.length = table.columns.length ∧
          code (statement.print plan.layout.indent) = template.fill names ∧
          ∀ rename, ∃ other, (draft.renamed rename).build scope = .ok other ∧
            code (other.print plan.layout.indent) =
              template.fill ((draft.renamed rename).memberNames scope)) ∧
        ((∀ name ∈ names, ∀ c ∈ code (propertyName name), isIdentifierPart c) ↔
          ∀ name ∈ names, ¬ EndsInBreak name) := by
  refine ⟨Syntax.readsBack_iff, fun draft hdraft table htable => ?_⟩
  intro scope names
  obtain ⟨haccepts, declarations, hbuild, rfl⟩ := (run_eq_ok_iff hreturns).mp hrun
  obtain ⟨statement, hmem, hok⟩ := declared_of_mem_drafts hbuild hdraft
  obtain ⟨template, hrows, hfill⟩ :=
    draft.exists_template hindent (fun _ _ => legible_of_find? haccepts) htable hok
  refine ⟨statement, List.mem_append_right _ hmem, hok, ⟨template, hrows, ?_, hfill⟩, ?_⟩
  · -- The names that the columns have are names that they can be given.
    obtain ⟨same, hsame, hcode⟩ := hfill (·.name)
    rw [draft.renamed_name] at hsame hcode
    obtain rfl := Except.ok.inj (hok.symm.trans hsame)
    exact hcode
  · exact forall₂_congr fun name _ => Syntax.code_part_iff name

/-- A column whose name has a quote, a break and a semicolon in it, and one whose name is kept. -/
theorem names_kept_in_quotes_of_odd_column :
    let plan : Plan := { names := { columns := .none } }
    let table : Table := { name := "t", columns :=
      [{ name := "a\";\n", type := "text" }, { name := "b", type := "text" }] }
    let source : Source := { enums := ⟨.ok [], []⟩, tables := ⟨.ok [table], []⟩ }
    ∃ module, (run plan source).result = .ok module ∧
      ∃ statement ∈ module, ∃ template : Template, template.rows.length = 2 ∧
        code (statement.print plan.layout.indent) = template.fill ["a\";\n", "b"] := by
  intro plan table source
  have hreturns : source.Returns [] [table] := ⟨rfl, rfl⟩
  obtain ⟨module, hrun⟩ := run_gives_module plan hreturns (by decide +kernel) (by decide +kernel)
  obtain ⟨-, hdrafts⟩ := names_kept_in_quotes_iff plan hreturns hrun (by decide)
  obtain ⟨statement, hmem, -, ⟨template, hrows, hfill, -⟩, -⟩ :=
    hdrafts (.interface table .primary) (by decide +kernel) table rfl
  have hnames : (Declaration.Draft.interface table .primary).memberNames (plan.scope [] [table]) =
      ["a\";\n", "b"] := by
    have hordered : table.orderedColumns = table.columns :=
      List.mergeSort_of_pairwise (by decide)
    rw [Declaration.Draft.memberNames, hordered]
    rfl
  exact ⟨module, hrun, statement, hmem, template, hrows, hnames ▸ hfill⟩

/-- A name that is neither declarable nor quoted, and its line break in the code of an interface. -/
theorem name_not_kept_in_quotes :
    let plan : Plan := { names := { columns := .none } }
    let table : Table := { name := "t", columns := [{ name := "a\n", type := "text" }] }
    ¬ ReadsBack "a\n" ∧
      (Declaration.interface (plan.scope [] [table]) table .primary).map
          (fun statement => statement.print plan.layout.indent) =
        .ok "export interface T \x7b\n    a\n: string;\n\x7d" := by
  intro plan table
  refine ⟨?_, by decide +kernel⟩
  rw [Syntax.readsBack_iff, not_not]
  exact ⟨['a'], ⟨'a', [], rfl, by decide, by simp⟩, rfl⟩

end TableTypes.Generation
