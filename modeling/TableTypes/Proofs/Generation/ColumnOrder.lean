import TableTypes.Proofs.Declaration.Shapes
import TableTypes.Proofs.Generation.Endings

/-! # Columns in another order

Whatever is declared for a table has its columns in ascending position, and nothing else in a run
looks at them. So the order in which a source gives the columns of a table does not count, and
neither a module nor a failure tells it, as long as no two of them have one position.
-/

namespace TableTypes

namespace Table

/-- The table with its columns in ascending position. -/
def sorted (table : Table) : Table :=
  { table with columns := table.orderedColumns }

@[simp]
theorem orderedColumns_sorted (table : Table) :
    table.sorted.orderedColumns = table.orderedColumns :=
  List.mergeSort_of_pairwise (table.orderedColumns_ascending.sorted.imp decide_eq_true)

theorem orderedColumns_eq_of_perm {table table' : Table}
    (hperm : table'.columns.Perm table.columns)
    (hdistinct : (table.columns.map (·.order)).Nodup) :
    table'.orderedColumns = table.orderedColumns := by
  have hordered := table.orderedColumns_ascending
  have hordered' := table'.orderedColumns_ascending
  have hperm' : table'.orderedColumns.Perm table.columns := hordered'.perm.trans hperm
  refine List.Perm.eq_of_pairwise ?_ hordered'.sorted hordered.sorted
    (hperm'.trans hordered.perm.symm)
  intro column other hcolumn hother hle hge
  exact List.inj_on_of_nodup_map hdistinct (hperm'.mem_iff.mp hcolumn)
    (hordered.perm.mem_iff.mp hother) (Nat.le_antisymm hle hge)

end Table

namespace Declaration.Draft

/-- The draft for the table with its columns in ascending position. -/
def sorted : Draft → Draft
  | .enum type => .enum type
  | .interface table variant => .interface table.sorted variant
  | .typeObject table => .typeObject table.sorted
  | .validator table => .validator table.sorted

theorem build_sorted (scope : Scope) (draft : Draft) :
    draft.sorted.build scope = draft.build scope := by
  cases draft with
  | enum type => rfl
  | interface table variant =>
      rw [sorted, build, build, Declaration.interface, table.orderedColumns_sorted]
      rfl
  | typeObject table =>
      rw [sorted, build, build, Declaration.typeObject, table.orderedColumns_sorted]
      rfl
  | validator table =>
      rw [sorted, build, build, Declaration.validator, table.orderedColumns_sorted]
      rfl

end Declaration.Draft

namespace Generation

open Declaration (Draft Scope)

variable {plan : Plan} {source source' : Source} {enums : List EnumType}
  {tables tables' : List Table}

section Plans

theorem Plan.requests_sorted (plan : Plan) (enums : List EnumType) (tables : List Table) :
    plan.requests enums (tables.map Table.sorted) = plan.requests enums tables := by
  rw [Plan.requests, List.map_map]
  rfl

theorem Plan.tableDrafts_sorted (plan : Plan) (seen : List String) (table : Table) :
    plan.tableDrafts seen table.sorted = (plan.tableDrafts seen table).map Draft.sorted := by
  unfold Plan.tableDrafts
  simp only [List.map_append, apply_ite (List.map Draft.sorted), List.map_cons, List.map_nil]
  rfl

theorem Plan.draftsAfter_sorted (plan : Plan) (earlier tables : List Table) :
    plan.draftsAfter (earlier.map Table.sorted) (tables.map Table.sorted) =
      (plan.draftsAfter earlier tables).map Draft.sorted := by
  induction tables generalizing earlier with
  | nil => rfl
  | cons table rest ih =>
      have hnames : (earlier.map Table.sorted).map (·.name) = earlier.map (·.name) := by
        rw [List.map_map]
        rfl
      have hrest := ih (earlier ++ [table])
      rw [List.map_append] at hrest
      rw [List.map_cons, Plan.draftsAfter, Plan.draftsAfter, List.map_append,
        ← plan.tableDrafts_sorted, ← hrest, hnames]
      rfl

theorem Plan.drafts_sorted (plan : Plan) (enums : List EnumType) (tables : List Table) :
    plan.drafts enums (tables.map Table.sorted) =
      (plan.drafts enums tables).map Draft.sorted := by
  have henums : (plan.enumDrafts enums).map Draft.sorted = plan.enumDrafts enums := by
    unfold Plan.enumDrafts
    split
    · rw [List.map_map]
      rfl
    · rfl
  rw [Plan.drafts, Plan.drafts, List.map_append, henums, ← plan.draftsAfter_sorted]
  rfl

theorem mapM_drafts_sorted (plan : Plan) (scope : Scope) (enums : List EnumType)
    (tables : List Table) :
    (plan.drafts enums (tables.map Table.sorted)).mapM (Draft.build scope) =
      (plan.drafts enums tables).mapM (Draft.build scope) := by
  rw [plan.drafts_sorted, List.mapM_map]
  exact mapM_congr fun draft _ => draft.build_sorted scope

variable (htables : tables'.map Table.sorted = tables.map Table.sorted)

include htables

theorem requests_eq_of_sorted : plan.requests enums tables' = plan.requests enums tables := by
  rw [← plan.requests_sorted enums tables', htables, plan.requests_sorted]

theorem mapM_drafts_eq_of_sorted :
    (plan.drafts enums tables').mapM (Draft.build (plan.scope enums tables')) =
      (plan.drafts enums tables).mapM (Draft.build (plan.scope enums tables)) := by
  have hscope : plan.scope enums tables' = plan.scope enums tables := by
    rw [Plan.scope, requests_eq_of_sorted htables]
    rfl
  rw [hscope, ← mapM_drafts_sorted plan _ enums tables', htables, mapM_drafts_sorted]

end Plans

/-- The sources give the same enumerated types and the same tables up to the order in which they
list columns, or fail alike. -/
structure Source.Resorted (source source' : Source) : Prop where
  enums : source'.enums.outcome = source.enums.outcome
  tables : source'.tables.outcome.map (List.map Table.sorted) =
    source.tables.outcome.map (List.map Table.sorted)

namespace Source.Resorted

variable (hsorted : source.Resorted source')

include hsorted

theorem returns (hreturns : source.Returns enums tables) :
    ∃ tables', source'.Returns enums tables' ∧
      tables'.map Table.sorted = tables.map Table.sorted := by
  have htables := hsorted.tables
  rw [hreturns.tables] at htables
  obtain ⟨tables', hanswer, hsame⟩ := map_eq_ok_iff.mp htables
  exact ⟨tables', ⟨hsorted.enums.trans hreturns.enums, hanswer⟩, hsame⟩

theorem failsAtEnums {failure : Failure} (hfails : FailsAtEnums plan source failure) :
    FailsAtEnums plan source' failure := by
  cases hfails with
  | asked hasked => exact .asked (hsorted.enums.trans hasked)
  | registered hanswer hregister => exact .registered (hsorted.enums.trans hanswer) hregister

theorem failsAtTables {failure : Failure} (hfails : FailsAtTables plan source failure) :
    FailsAtTables plan source' failure := by
  cases hfails with
  | asked hanswer hregister hasked =>
      have htables := hsorted.tables
      rw [hasked] at htables
      exact .asked (hsorted.enums.trans hanswer) hregister (map_eq_error_iff.mp htables)
  | registered hreturns henums htables =>
      obtain ⟨tables', hreturns', hsame⟩ := hsorted.returns hreturns
      have hnames := congrArg (List.map (·.name)) hsame
      rw [List.map_map, List.map_map] at hnames
      exact .registered hreturns' henums (hnames ▸ htables)
  | built hreturns haccepts hbuild =>
      obtain ⟨tables', hreturns', hsame⟩ := hsorted.returns hreturns
      exact .built hreturns' (requests_eq_of_sorted hsame ▸ haccepts)
        ((mapM_drafts_eq_of_sorted hsame).trans hbuild)

/-- A run comes to the same, whether it fails or not. -/
theorem run_result (plan : Plan) : (run plan source').result = (run plan source).result := by
  cases hresult : (run plan source).result with
  | error failure =>
      exact run_eq_error_iff.mpr
        ((run_eq_error_iff.mp hresult).imp hsorted.failsAtEnums hsorted.failsAtTables)
  | ok module =>
      obtain ⟨enums, tables, hreturns⟩ := returns_of_run hresult
      obtain ⟨tables', hreturns', hsame⟩ := hsorted.returns hreturns
      obtain ⟨haccepts, declarations, hbuild, rfl⟩ := (run_eq_ok_iff hreturns).mp hresult
      exact (run_eq_ok_iff hreturns').mpr ⟨requests_eq_of_sorted hsame ▸ haccepts, declarations,
        (mapM_drafts_eq_of_sorted hsame).trans hbuild, rfl⟩

end Source.Resorted

end Generation

end TableTypes
