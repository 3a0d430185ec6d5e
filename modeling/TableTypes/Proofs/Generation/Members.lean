import TableTypes.Proofs.Declaration.Members
import TableTypes.Proofs.Generation.Closure

/-! # Members of a module

The registry keeps declared names apart, but nobody keeps the members of one declaration apart. So
a module names two members of a declaration alike exactly if the snapshot has two labels of one
enumerated type, or two columns of one table, that the styles read alike.
-/

namespace TableTypes.Generation

open Declaration (ColumnsApart Draft LabelsApart Scope)
open Syntax (Statement)

variable {plan : Plan} {source : Source} {enums : List EnumType} {tables : List Table}
  {module : List Statement}

section Drafts

variable {scope : Scope}

theorem enumDrafts_distinct_iff :
    (∀ draft ∈ plan.enumDrafts enums, (draft.memberNames scope).Nodup) ↔
      (plan.enums → ∀ type ∈ enums, LabelsApart scope.names type) := by
  simp only [← Draft.memberNames_enum_nodup_iff]
  unfold Plan.enumDrafts
  cases plan.enums with
  | false => simp
  | true => simp

theorem tableDrafts_distinct_iff {earlier : List Table} {table : Table} :
    (∀ draft ∈ plan.tableDrafts (earlier.map (·.name)) table,
        (draft.memberNames scope).Nodup) ↔
      (Stages plan earlier table → ColumnsApart scope.names table) := by
  -- All drafts for a table name their members alike, so one of them tells what holds of all.
  rw [← tableDrafts_ne_nil_iff]
  constructor
  · rintro hdistinct ⟨draft, hmem⟩
    exact (Draft.memberNames_nodup_iff (table?_of_mem_tableDrafts hmem)).mp (hdistinct draft hmem)
  · intro hcolumns draft hmem
    exact (Draft.memberNames_nodup_iff (table?_of_mem_tableDrafts hmem)).mpr
      (hcolumns ⟨draft, hmem⟩)

theorem drafts_distinct_iff :
    (∀ draft ∈ plan.drafts enums tables, (draft.memberNames scope).Nodup) ↔
      (plan.enums → ∀ type ∈ enums, LabelsApart scope.names type) ∧
        ∀ before table after, tables = before ++ table :: after →
          Stages plan before table → ColumnsApart scope.names table := by
  rw [Plan.drafts, List.forall_mem_append, enumDrafts_distinct_iff]
  apply and_congr_right
  intro _
  -- Each draft for a table is planned where the table stands in the list.
  simp only [← tableDrafts_distinct_iff, Plan.mem_draftsAfter_iff, List.nil_append]
  constructor
  · intro hdistinct before table after hsplit draft hmem
    exact hdistinct draft ⟨before, table, after, hsplit, hmem⟩
  · rintro hdistinct draft ⟨before, table, after, hsplit, hmem⟩
    exact hdistinct before table after hsplit draft hmem

end Drafts

theorem run_distinct_iff (hreturns : source.Returns enums tables)
    (hrun : (run plan source).result = .ok module) :
    (∀ statement ∈ module, statement.MembersDistinct) ↔
      ∀ draft ∈ plan.drafts enums tables,
        (draft.memberNames (plan.scope enums tables)).Nodup := by
  obtain ⟨_, declarations, hbuild, rfl⟩ := (run_eq_ok_iff hreturns).mp hrun
  -- The statements that no draft is for have no members.
  have hpreamble : ∀ statement ∈ Declaration.preamble plan.validators,
      statement.MembersDistinct := by
    intro statement hmem
    have hmembers : statement.memberNames = [] := by
      rcases Declaration.mem_preamble_cases hmem with rfl | rfl | rfl | rfl <;> rfl
    apply (Draft.membersDistinct_of_members hmembers _).mpr List.nodup_nil
    exact Declaration.expressions_of_preamble hmem
  rw [List.forall_mem_append, and_iff_right hpreamble]
  constructor
  · intro hdistinct draft hmem
    obtain ⟨statement, hstatement, hok⟩ := declared_of_mem_drafts hbuild hmem
    exact (Draft.membersDistinct_iff hok).mp (hdistinct statement hstatement)
  · intro hdistinct statement hmem
    obtain ⟨draft, hdraft, hok⟩ := draft_of_mem_declarations hbuild hmem
    exact (Draft.membersDistinct_iff hok).mpr (hdistinct draft hdraft)

/-- When the members of all declarations of a module have distinct names. The labels and columns
themselves may or may not be distinct. -/
theorem build_members_distinct_iff (g : Generator) (hreturns : source.Returns enums tables)
    {answer : Answer} (hbuild : (g.build source).2.result = .ok answer) :
    ∃ module, (run g.plan source).result = .ok module ∧
      answer = .module (Syntax.printModule g.plan.layout module) ∧
      ((∀ statement ∈ module, statement.MembersDistinct) ↔
        (g.plan.enums → ∀ type ∈ enums, LabelsApart g.plan.names type) ∧
          ∀ before table after, tables = before ++ table :: after →
            Stages g.plan before table → ColumnsApart g.plan.names table) := by
  obtain ⟨module, hrun, rfl⟩ := Generator.build_eq_ok_iff.mp hbuild
  refine ⟨module, hrun, rfl, ?_⟩
  rw [run_distinct_iff hreturns hrun, drafts_distinct_iff]
  rfl

/-- Names that differ in more than case and separators stay apart. -/
theorem members_distinct_of_similar_names :
    let g : Generator := { plan := { names := { columns := .camel } } }
    let type : EnumType := { name := "status", values := ["in_progress", "in_progress_2"] }
    let table : Table := { name := "users", columns :=
      [{ name := "user_id", type := "int4" }, { name := "userid", type := "status" }] }
    let source : Source := { enums := ⟨.ok [type], []⟩, tables := ⟨.ok [table], []⟩ }
    ∃ module, (g.build source).2.result = .ok (.module (Syntax.printModule g.plan.layout module)) ∧
      ∀ statement ∈ module, statement.MembersDistinct := by
  intro g type table source
  have hreturns : source.Returns [type] [table] := ⟨rfl, rfl⟩
  obtain ⟨module, hrun⟩ := run_gives_module g.plan hreturns (by decide +kernel)
    (by decide +kernel)
  have hbuild := Generator.build_eq_ok_iff.mpr ⟨module, hrun, rfl⟩
  obtain ⟨module, _, hanswer, hdistinct⟩ := build_members_distinct_iff g hreturns hbuild
  refine ⟨module, hbuild.trans (congrArg Except.ok hanswer), hdistinct.mpr ⟨?_, ?_⟩⟩
  · decide +kernel
  · intro before other after hsplit _
    have hmem : other ∈ [table] := by
      rw [hsplit]
      simp
    obtain rfl := List.mem_singleton.mp hmem
    decide +kernel

/-- The labels `in_progress` and `in-progress` become one member of an enum, and the columns
`user_id` and `userId` one property of an interface. -/
theorem members_not_distinct :
    let g : Generator := { plan := { names := { columns := .camel } } }
    let type : EnumType := { name := "status", values := ["in_progress", "in-progress"] }
    let table : Table := { name := "users", columns :=
      [{ name := "user_id", type := "int4" }, { name := "userId", type := "int4" }] }
    let source : Source := { enums := ⟨.ok [type], []⟩, tables := ⟨.ok [table], []⟩ }
    type.values.Nodup ∧ (table.columns.map (·.name)).Nodup ∧
      ∃ module,
        (g.build source).2.result = .ok (.module (Syntax.printModule g.plan.layout module)) ∧
        (∃ members, .enum "Status" members true ∈ module ∧ ¬ (members.map (·.1)).Nodup) ∧
        ∃ members, .interface "Users" members true ∈ module ∧
          ¬ (members.filterMap Syntax.Member.name?).Nodup := by
  intro g type table source
  have hreturns : source.Returns [type] [table] := ⟨rfl, rfl⟩
  obtain ⟨module, hrun⟩ := run_gives_module g.plan hreturns (by decide +kernel)
    (by decide +kernel)
  obtain ⟨_, declarations, hbuild, rfl⟩ := (run_eq_ok_iff hreturns).mp hrun
  refine ⟨by decide, by decide, _, Generator.build_eq_ok_iff.mpr ⟨_, hrun, rfl⟩, ?_, ?_⟩
  · have hdraft : .enum type ∈ g.plan.drafts [type] [table] :=
      Plan.enum_mem_drafts rfl List.mem_cons_self
    obtain ⟨_, hmem, hok⟩ := declared_of_mem_drafts hbuild hdraft
    have hlabels : ¬ LabelsApart g.plan.names type := by decide +kernel
    have hdistinct := (Draft.membersDistinct_iff hok).not.mpr
      (Draft.memberNames_enum_nodup_iff.not.mpr hlabels)
    obtain rfl := Except.ok.inj hok
    have hname : Declaration.declaredName g.plan.names type.name = "Status" := by decide +kernel
    rw [Declaration.enumType, Plan.scope, hname] at hmem
    refine ⟨_, List.mem_append_right _ hmem, ?_⟩
    intro hnodup
    exact hdistinct ((Draft.membersDistinct_of_members rfl rfl).mpr hnodup)
  · have hdraft : .interface table .primary ∈ g.plan.drafts [type] [table] :=
      Plan.primary_mem_drafts rfl List.mem_cons_self
    obtain ⟨_, hmem, hok⟩ := declared_of_mem_drafts hbuild hdraft
    have hcolumns : ¬ ColumnsApart g.plan.names table := by decide +kernel
    have hdistinct := (Draft.membersDistinct_iff hok).not.mpr
      ((Draft.memberNames_nodup_iff rfl).not.mpr hcolumns)
    obtain ⟨members, _, rfl⟩ := Declaration.interface_eq_ok hok
    have hname : Declaration.interfaceName (g.plan.scope [type] [table]) table .primary =
        "Users" := by decide +kernel
    rw [hname] at hmem
    refine ⟨members, List.mem_append_right _ hmem, ?_⟩
    intro hnodup
    exact hdistinct ((Draft.membersDistinct_of_members rfl rfl).mpr hnodup)

end TableTypes.Generation
