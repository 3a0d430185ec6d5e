import TableTypes.Proofs.Generation.Verdict

/-! # Enumerated types that are left out

A run that declares no enums does not look at the enumerated types it is given. A column of such a
type then stops the run, unless the name of the type is also the name of a built-in type: nothing
hides that one any more, and the column silently gets its output type.
-/

namespace TableTypes.Generation

variable {plan : Plan} {source : Source} {enums : List EnumType} {tables : List Table}

/-- The column has an enumerated type, and no table has the name of the type. -/
def OfEnum (enums : List EnumType) (tables : List Table) (column : Column) : Prop :=
  column.type ∈ enums.map (·.name) ∧ column.type ∉ tables.map (·.name)

instance (enums : List EnumType) (tables : List Table) (column : Column) :
    Decidable (OfEnum enums tables column) :=
  inferInstanceAs (Decidable (_ ∧ _))

section Omitted

variable (hoff : plan.enums = false)

include hoff

theorem requests_of_omitted :
    plan.requests enums tables = plan.requestsFor .table (tables.map (·.name)) := by
  have hnone : plan.requestsFor .enum (enums.map (·.name)) = [] := by
    rw [Plan.requestsFor, Plan.registers, hoff]
    rfl
  rw [Plan.requests, hnone, List.nil_append]

theorem drafts_of_omitted : plan.drafts enums tables = plan.draftsAfter [] tables := by
  rw [Plan.drafts, Plan.enumDrafts, hoff]
  rfl

theorem notMem_requests_of_omitted {name : String} (hname : name ∉ tables.map (·.name)) :
    name ∉ (plan.requests enums tables).map (·.schemaName) := by
  rw [requests_of_omitted hoff, Plan.schemaNames_requestsFor]
  split
  · exact hname
  · exact List.not_mem_nil

theorem find?_of_omitted {name : String} (hname : name ∉ tables.map (·.name)) :
    (plan.scope enums tables).types.find? name =
      (BuiltinType.standard.lookup name).map Registry.builtinEntry :=
  Registry.find?_extend_of_notMem (notMem_requests_of_omitted hoff hname)

/-- What a run comes to is settled without the enumerated types. -/
theorem run_of_omitted {other : Source} {others : List EnumType}
    (hreturns : source.Returns enums tables) (hother : other.Returns others tables) :
    (run plan other).result = (run plan source).result := by
  have hrequests : plan.requests others tables = plan.requests enums tables := by
    rw [requests_of_omitted hoff, requests_of_omitted hoff]
  have hdrafts : plan.drafts others tables = plan.drafts enums tables := by
    rw [drafts_of_omitted hoff, drafts_of_omitted hoff]
  -- Requests and drafts are all that decides between the three ends of a run.
  rcases run_cases plan hreturns with
    ⟨refused, hregister, hrun⟩ | ⟨haccepts, ⟨unknown, hbuild, hrun⟩ | ⟨declarations, hbuild, hrun⟩⟩
  · rw [← hrequests] at hregister
    rw [hrun, run_eq_duplicate hother hregister]
  · rw [Plan.scope, ← hdrafts, ← hrequests] at hbuild
    rw [← hrequests] at haccepts
    rw [hrun, run_eq_unknown hother haccepts hbuild]
  · rw [Plan.scope, ← hdrafts, ← hrequests] at hbuild
    rw [← hrequests] at haccepts
    rw [hrun, (run_eq_module hother haccepts hbuild).1]

end Omitted

theorem Generator.build_congr {g : Generator} {other : Source}
    (hrun : (run g.plan other).result = (run g.plan source).result) :
    (g.build other).2.result = (g.build source).2.result := by
  change ((run g.plan other).result.map (Syntax.printModule g.plan.layout)).map Answer.module = _
  rw [hrun]
  rfl

/-- What becomes of a column whose enumerated type is left out. If the type has the name of a
built-in type, the column gets that one, and the run comes to what it comes to without the
enumerated types. Otherwise the run fails. -/
theorem build_of_omitted_enum (g : Generator) (hoff : g.plan.enums = false)
    (hreturns : source.Returns enums tables)
    (haccepts : ¬ AnyWith Clashes (g.plan.requests enums tables))
    {before after : List Table} {table : Table} (htables : tables = before ++ table :: after)
    (hstages : Stages g.plan before table) {column : Column} (hcolumn : column ∈ table.columns)
    (henum : OfEnum enums tables column) :
    (column.type ∉ BuiltinType.standard.map (·.1) →
      ∃ unknown, (g.build source).2.result = .error (.unknown unknown)) ∧
    ∀ builtin, BuiltinType.standard.lookup column.type = some builtin →
      (g.plan.scope enums tables).types.resolve column.type =
          .ok (Registry.builtinEntry builtin) ∧
        ∀ other : Source, other.Returns [] tables →
          (g.build other).2.result = (g.build source).2.result := by
  constructor
  · intro hbuiltin
    have hunknown : Unknown (g.plan.requests enums tables) column :=
      ⟨hbuiltin, notMem_requests_of_omitted hoff henum.2⟩
    simp only [Generator.build_eq_error_iff]
    apply (run_unknown_iff hreturns haccepts).mpr
    exact ⟨before, table, after, htables, hstages, column, hcolumn, hunknown⟩
  · intro builtin hlookup
    refine ⟨?_, ?_⟩
    · rw [Registry.resolve_eq_ok_iff, find?_of_omitted hoff henum.2, hlookup]
      rfl
    · intro other hother
      exact Generator.build_congr (run_of_omitted hoff hreturns hother)

/-- The type `status` is left out, and nothing else has its name. -/
theorem build_fails_without_enum :
    let g : Generator := { plan := { enums := false } }
    let status : EnumType := { name := "status", values := ["active"] }
    let teams : Table := { name := "teams" }
    let users : Table := { name := "users", columns := [{ name := "state", type := "status" }] }
    let source : Source := { enums := ⟨.ok [status], []⟩, tables := ⟨.ok [teams, users], []⟩ }
    ∃ unknown, (g.build source).2.result = .error (.unknown unknown) := by
  intro g status teams users source
  have hreturns : source.Returns [status] [teams, users] := ⟨rfl, rfl⟩
  have hsplit : [teams, users] = [teams] ++ users :: [] := rfl
  have hbuild := build_of_omitted_enum g rfl hreturns (by decide +kernel) hsplit (by decide)
    List.mem_cons_self (by decide)
  exact hbuild.1 (by decide +kernel)

/-- The type `name` is left out, and the built-in type of this name takes its place. -/
theorem build_gives_module_without_enum :
    let g : Generator := { plan := { enums := false } }
    let type : EnumType := { name := "name", values := ["a"] }
    let column : Column := { name := "title", type := "name" }
    let users : Table := { name := "users", columns := [column] }
    let source : Source := { enums := ⟨.ok [type], []⟩, tables := ⟨.ok [users], []⟩ }
    OfEnum [type] [users] column ∧ ∃ text, (g.build source).2.result = .ok (.module text) := by
  intro g type column users source
  have hreturns : source.Returns [type] [users] := ⟨rfl, rfl⟩
  obtain ⟨module, hrun⟩ := run_gives_module g.plan hreturns (by decide +kernel)
    (by decide +kernel)
  exact ⟨by decide, _, Generator.build_eq_ok_iff.mpr ⟨module, hrun, rfl⟩⟩

end TableTypes.Generation
