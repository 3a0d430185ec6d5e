import TableTypes.Generation.Run
import TableTypes.Proofs.Registry.Registration

/-! # What a plan asks for

The registrations and the drafts of a run follow from its plan and the snapshot alone, without a
run. A registration is for an enumerated type or for a table, and a draft is for one of them. A
table gets a validator if no earlier one has its name.
-/

namespace TableTypes.Generation

open Declaration (Draft)

namespace Plan

/-- Whether names of a kind are registered. -/
def registers (plan : Plan) : Kind → Bool
  | .builtin => false
  | .enum => plan.enums
  | .table => plan.tables

/-- What the names of a kind are registered as. -/
def requestsFor (plan : Plan) (kind : Kind) (names : List String) : List Registration :=
  if plan.registers kind then
    names.map fun name => ⟨name, Declaration.declaredName plan.names name, kind⟩
  else []

/-- The registrations of a run, in their order. -/
def requests (plan : Plan) (enums : List EnumType) (tables : List Table) : List Registration :=
  plan.requestsFor .enum (enums.map (·.name)) ++ plan.requestsFor .table (tables.map (·.name))

/-- The drafts for the enumerated types. -/
def enumDrafts (plan : Plan) (enums : List EnumType) : List Draft :=
  if plan.enums then enums.map .enum else []

/-- The drafts for tables that are listed after other ones. -/
def draftsAfter (plan : Plan) : List Table → List Table → List Draft
  | _, [] => []
  | earlier, table :: rest =>
    plan.tableDrafts (earlier.map (·.name)) table ++ plan.draftsAfter (earlier ++ [table]) rest

/-- The drafts of a run, in their order. -/
def drafts (plan : Plan) (enums : List EnumType) (tables : List Table) : List Draft :=
  plan.enumDrafts enums ++ plan.draftsAfter [] tables

variable {plan : Plan}

theorem requestsFor_nil (kind : Kind) : plan.requestsFor kind [] = [] := by
  unfold requestsFor
  split <;> rfl

theorem requestsFor_cons (kind : Kind) (name : String) (rest : List String) :
    plan.requestsFor kind (name :: rest) =
      plan.requestsFor kind [name] ++ plan.requestsFor kind rest := by
  unfold requestsFor
  split <;> rfl

theorem schemaNames_requestsFor {kind : Kind} {names : List String} :
    (plan.requestsFor kind names).map (·.schemaName) =
      if plan.registers kind then names else [] := by
  unfold requestsFor
  split
  · rw [List.map_map]
    exact List.map_id names
  · rfl

theorem identifiers_requestsFor {kind : Kind} {names : List String} :
    (plan.requestsFor kind names).map (·.identifier) =
      if plan.registers kind then names.map (Declaration.declaredName plan.names) else [] := by
  unfold requestsFor
  split
  · rw [List.map_map]
    rfl
  · rfl

theorem mem_requestsFor_iff {kind : Kind} {names : List String} {request : Registration} :
    request ∈ plan.requestsFor kind names ↔
      plan.registers kind ∧
        ∃ name ∈ names, ⟨name, Declaration.declaredName plan.names name, kind⟩ = request := by
  unfold requestsFor
  rw [List.mem_ite_nil_right, List.mem_map]

/-- A registration of a run is for one of its enumerated types or for one of its tables. -/
theorem mem_requests_cases {enums : List EnumType} {tables : List Table} {request : Registration}
    (hmem : request ∈ plan.requests enums tables) :
    (plan.enums ∧ ∃ type ∈ enums,
        ⟨type.name, Declaration.declaredName plan.names type.name, .enum⟩ = request) ∨
      (plan.tables ∧ ∃ table ∈ tables,
        ⟨table.name, Declaration.declaredName plan.names table.name, .table⟩ = request) := by
  simpa [requests, mem_requestsFor_iff, registers] using hmem

theorem enum_mem_requests {enums : List EnumType} {tables : List Table} {type : EnumType}
    (henums : plan.enums) (hmem : type ∈ enums) :
    ⟨type.name, Declaration.declaredName plan.names type.name, .enum⟩ ∈
      plan.requests enums tables :=
  List.mem_append_left _ (mem_requestsFor_iff.mpr ⟨henums, _, List.mem_map_of_mem hmem, rfl⟩)

theorem table_mem_requests {enums : List EnumType} {tables : List Table} {table : Table}
    (htables : plan.tables) (hmem : table ∈ tables) :
    ⟨table.name, Declaration.declaredName plan.names table.name, .table⟩ ∈
      plan.requests enums tables :=
  List.mem_append_right _ (mem_requestsFor_iff.mpr ⟨htables, _, List.mem_map_of_mem hmem, rfl⟩)

theorem enumDrafts_nil : plan.enumDrafts [] = [] := by
  unfold enumDrafts
  split <;> rfl

theorem enumDrafts_cons (type : EnumType) (rest : List EnumType) :
    plan.enumDrafts (type :: rest) = plan.enumDrafts [type] ++ plan.enumDrafts rest := by
  unfold enumDrafts
  split <;> rfl

theorem mem_tableDrafts_iff {seen : List String} {table : Table} {draft : Draft} :
    draft ∈ plan.tableDrafts seen table ↔
      (plan.tables ∧ draft = .interface table .primary) ∨
      ((plan.insertTypes ∧ table.canInsert) ∧ draft = .interface table .insert) ∨
      (plan.typeObjects ∧ draft = .typeObject table) ∨
      ((plan.validators ∧ table.name ∉ seen) ∧ draft = .validator table) := by
  have hone : ∀ {wanted : Bool} {only : Draft},
      draft ∈ (if wanted then [only] else []) ↔ wanted ∧ draft = only := by
    intro wanted only
    cases wanted <;> simp
  unfold tableDrafts
  rw [List.mem_append, List.mem_append, List.mem_append, hone, hone, hone, hone]
  simp only [Bool.and_eq_true, Bool.not_eq_true', List.contains_eq_mem, decide_eq_false_iff_not]
  tauto

theorem mem_draftsAfter_iff {earlier tables : List Table} {draft : Draft} :
    draft ∈ plan.draftsAfter earlier tables ↔
      AnyWith (fun before table =>
        draft ∈ plan.tableDrafts ((earlier ++ before).map (·.name)) table) tables := by
  induction tables generalizing earlier with
  | nil => exact iff_of_false List.not_mem_nil AnyWith.not_nil
  | cons table rest ih =>
      rw [draftsAfter, List.mem_append, ih, AnyWith.cons_iff, List.append_nil]
      simp only [List.append_assoc, List.singleton_append]

/-- A draft of a run is for one of its enumerated types or for one of its tables. -/
theorem mem_drafts_cases {enums : List EnumType} {tables : List Table} {draft : Draft}
    (hmem : draft ∈ plan.drafts enums tables) :
    (plan.enums ∧ ∃ type ∈ enums, draft = .enum type) ∨
      ∃ table ∈ tables, ∃ seen, draft ∈ plan.tableDrafts seen table := by
  rcases List.mem_append.mp hmem with hmem | hmem
  · rw [enumDrafts, List.mem_ite_nil_right, List.mem_map] at hmem
    obtain ⟨henums, type, htype, rfl⟩ := hmem
    exact Or.inl ⟨henums, type, htype, rfl⟩
  · obtain ⟨before, table, after, rfl, hdraft⟩ := mem_draftsAfter_iff.mp hmem
    exact Or.inr ⟨table, by simp, _, hdraft⟩

theorem enum_mem_drafts {enums : List EnumType} {tables : List Table} {type : EnumType}
    (henums : plan.enums) (hmem : type ∈ enums) : .enum type ∈ plan.drafts enums tables := by
  rw [drafts, enumDrafts, if_pos henums]
  exact List.mem_append_left _ (List.mem_map_of_mem hmem)

theorem primary_mem_drafts {enums : List EnumType} {tables : List Table} {table : Table}
    (htables : plan.tables) (hmem : table ∈ tables) :
    .interface table .primary ∈ plan.drafts enums tables := by
  obtain ⟨before, after, rfl⟩ := List.append_of_mem hmem
  apply List.mem_append_right
  exact mem_draftsAfter_iff.mpr
    ⟨before, table, after, rfl, mem_tableDrafts_iff.mpr (Or.inl ⟨htables, rfl⟩)⟩

/-- Some table of each name gets a validator, which is the first one. -/
theorem validator_mem_drafts (enums : List EnumType) {tables : List Table} {table : Table}
    (hvalidators : plan.validators) (hmem : table ∈ tables) :
    ∃ first, first.name = table.name ∧ .validator first ∈ plan.drafts enums tables := by
  obtain ⟨first, before, after, rfl, hname, hearlier⟩ := FirstWith.exists_iff.mpr
    (AnyWith.const_iff (p := fun other => other.name = table.name).mpr ⟨table, hmem, rfl⟩)
  refine ⟨first, hname, List.mem_append_right _ (mem_draftsAfter_iff.mpr
    ⟨before, first, after, rfl, mem_tableDrafts_iff.mpr ?_⟩)⟩
  refine Or.inr (Or.inr (Or.inr ⟨⟨hvalidators, ?_⟩, rfl⟩))
  intro hseen
  obtain ⟨other, hother, heq⟩ := List.mem_map.mp hseen
  obtain ⟨earlier, between, hsplit⟩ := List.append_of_mem hother
  exact hearlier earlier other between hsplit (heq.trans hname)

/-- Of the names seen before, only those of tables that could get a validator matter. -/
theorem tableDrafts_congr {seen other : List String} {table : Table}
    (hseen : plan.validators = true → (table.name ∈ seen ↔ table.name ∈ other)) :
    plan.tableDrafts seen table = plan.tableDrafts other table := by
  unfold tableDrafts
  cases hvalidators : plan.validators with
  | false => rfl
  | true =>
      have hcontains : seen.contains table.name = other.contains table.name := by
        rw [Bool.eq_iff_iff, List.contains_iff_mem, List.contains_iff_mem]
        exact hseen hvalidators
      rw [hcontains]

end Plan

section Validated

theorem validated_append (first second : List Draft) :
    validated (first ++ second) = validated first ++ validated second :=
  List.filterMap_append

theorem validated_enumDrafts (plan : Plan) (enums : List EnumType) :
    validated (plan.enumDrafts enums) = [] := by
  unfold Plan.enumDrafts
  split
  · rw [validated, List.filterMap_map, List.filterMap_eq_nil_iff]
    intro type _
    rfl
  · rfl

theorem validated_tableDrafts (plan : Plan) (seen : List String) (table : Table) :
    validated (plan.tableDrafts seen table) =
      if plan.validators && !seen.contains table.name then [table.name] else [] := by
  unfold Plan.tableDrafts
  rw [validated_append, validated_append, validated_append]
  have hnone : ∀ {wanted : Bool} {draft : Draft}, (∀ other, draft ≠ .validator other) →
      validated (if wanted then [draft] else []) = [] := by
    intro wanted draft hother
    cases wanted with
    | false => rfl
    | true =>
        cases draft with
        | validator other => exact absurd rfl (hother other)
        | enum _ | interface _ _ | typeObject _ => rfl
  rw [hnone (by simp), hnone (by simp), hnone (by simp)]
  split <;> rfl

/-- The drafts hold a validator for each of the names, if validators are wanted at all. -/
def Covers (plan : Plan) (drafts : List Draft) (tables : List Table) : Prop :=
  plan.validators = true → ∀ name, name ∈ validated drafts ↔ name ∈ tables.map (·.name)

theorem covers_enumDrafts (plan : Plan) (enums : List EnumType) :
    Covers plan (plan.enumDrafts enums) [] := by
  intro _ name
  rw [validated_enumDrafts]
  simp

theorem Covers.tableDrafts {plan : Plan} {drafts : List Draft} {earlier : List Table}
    (hcovers : Covers plan drafts earlier) (table : Table) :
    plan.tableDrafts (validated drafts) table = plan.tableDrafts (earlier.map (·.name)) table :=
  Plan.tableDrafts_congr fun hvalidators => hcovers hvalidators table.name

theorem Covers.append {plan : Plan} {drafts : List Draft} {earlier : List Table}
    (hcovers : Covers plan drafts earlier) (table : Table) :
    Covers plan (drafts ++ plan.tableDrafts (earlier.map (·.name)) table) (earlier ++ [table]) := by
  intro hvalidators name
  rw [validated_append, validated_tableDrafts, hvalidators, List.mem_append, hcovers hvalidators]
  -- A name seen before adds nothing on either side, and a new name is added on both.
  by_cases hseen : table.name ∈ earlier.map (·.name)
  · have hname : name = table.name → name ∈ earlier.map (·.name) := fun heq => heq ▸ hseen
    simp only [List.contains_iff_mem.mpr hseen, Bool.not_true, Bool.and_false,
      Bool.false_eq_true, if_false, List.not_mem_nil, or_false, List.map_append, List.map_cons,
      List.map_nil, List.mem_append, List.mem_singleton]
    tauto
  · have hcontains : (earlier.map (·.name)).contains table.name = false := by
      rw [Bool.eq_false_iff, ne_eq, List.contains_iff_mem]
      exact hseen
    simp only [hcontains, Bool.not_false, Bool.and_self, if_true, List.map_append, List.map_cons,
      List.map_nil, List.mem_append]

end Validated

end TableTypes.Generation
