import TableTypes.Proofs.Generation.Planning

/-! # Steps of a run

A step of a run counts one record, registers it if that is wanted, and stages its drafts. The
drafts for a table depend on the tables before it, and a run reads those off the drafts that it
holds, so a step is described by what the run holds before and after it.
-/

namespace TableTypes.Generation

open Declaration (Draft)

/-- What a run holds at some point, without its phase, its calls and its log. -/
structure Progress.Holds (p : Progress) (types : Registry) (drafts : List Draft) (stats : Stats) :
    Prop where
  types : p.types = types
  drafts : p.drafts = drafts
  stats : p.stats = stats

section Steps

variable {plan : Plan} {p : Progress} {types next : Registry} {drafts : List Draft} {stats : Stats}

/-- A single request is the registration itself. -/
theorem registerAll_singleton (r : Registry) (request : Registration) :
    r.registerAll [request] = r.add request.schemaName request.identifier request.kind := by
  rw [Registry.registerAll, List.foldlM_cons]
  exact bind_pure _

theorem register_eq_ok (plan : Plan) (hholds : p.Holds types drafts stats) {kind : Kind}
    {name : String}
    (hregister : types.registerAll [⟨name, Declaration.declaredName plan.names name, kind⟩] =
      .ok next) :
    ∃ q, p.register plan kind name = .ok q ∧ q.Holds next drafts stats := by
  rw [registerAll_singleton, ← hholds.types] at hregister
  rw [Progress.register, hregister]
  exact ⟨_, rfl, rfl, hholds.drafts, hholds.stats⟩

theorem register_eq_error (plan : Plan) (htypes : p.types = types) {kind : Kind} {name : String}
    {refused : DuplicateRegistration}
    (hregister : types.registerAll [⟨name, Declaration.declaredName plan.names name, kind⟩] =
      .error refused) :
    p.register plan kind name = .error ⟨.duplicate refused, p⟩ := by
  rw [registerAll_singleton, ← htypes] at hregister
  rw [Progress.register, hregister]

theorem stageEnum_eq_ok (hholds : p.Holds types drafts stats) (type : EnumType)
    (hregister : types.registerAll (plan.requestsFor .enum [type.name]) = .ok next) :
    ∃ q, stageEnum plan p type = .ok q ∧
      q.Holds next (drafts ++ plan.enumDrafts [type]) { stats with enums := stats.enums + 1 } := by
  obtain ⟨rfl, rfl, rfl⟩ := hholds
  unfold stageEnum Plan.enumDrafts
  unfold Plan.requestsFor Plan.registers at hregister
  cases hwanted : plan.enums with
  | false =>
      rw [hwanted] at hregister
      obtain rfl := Except.ok.inj hregister
      exact ⟨_, rfl, rfl, (List.append_nil _).symm, rfl⟩
  | true =>
      rw [hwanted] at hregister
      -- The record that is registered from has its counter raised already.
      obtain ⟨q, hq, hholds⟩ := register_eq_ok plan
        (p := { p with stats := { p.stats with enums := p.stats.enums + 1 } })
        ⟨rfl, rfl, rfl⟩ hregister
      rw [if_pos rfl, hq]
      refine ⟨_, rfl, hholds.types, ?_, hholds.stats⟩
      exact congrArg (· ++ [Draft.enum type]) hholds.drafts

theorem stageEnum_eq_error (htypes : p.types = types) (type : EnumType)
    {refused : DuplicateRegistration}
    (hregister : types.registerAll (plan.requestsFor .enum [type.name]) = .error refused) :
    ∃ stopped, stageEnum plan p type = .error ⟨.duplicate refused, stopped⟩ := by
  unfold stageEnum
  unfold Plan.requestsFor Plan.registers at hregister
  cases hwanted : plan.enums with
  | false =>
      rw [hwanted] at hregister
      cases hregister
  | true =>
      rw [hwanted] at hregister
      rw [if_pos rfl, register_eq_error plan
        (p := { p with stats := { p.stats with enums := p.stats.enums + 1 } }) htypes hregister]
      exact ⟨_, rfl⟩

theorem stageTable_eq_ok (hholds : p.Holds types drafts stats) (table : Table)
    (hregister : types.registerAll (plan.requestsFor .table [table.name]) = .ok next) :
    ∃ q, stageTable plan p table = .ok q ∧
      q.Holds next (drafts ++ plan.tableDrafts (validated drafts) table)
        { stats with tables := stats.tables + 1 } := by
  obtain ⟨rfl, rfl, rfl⟩ := hholds
  unfold stageTable
  unfold Plan.requestsFor Plan.registers at hregister
  cases hwanted : plan.tables with
  | false =>
      rw [hwanted] at hregister
      obtain rfl := Except.ok.inj hregister
      exact ⟨_, rfl, rfl, rfl, rfl⟩
  | true =>
      rw [hwanted] at hregister
      obtain ⟨q, hq, hholds⟩ := register_eq_ok plan
        (p := { p with stats := { p.stats with tables := p.stats.tables + 1 } })
        ⟨rfl, rfl, rfl⟩ hregister
      simp only [if_true]
      rw [hq]
      refine ⟨_, rfl, hholds.types, ?_, hholds.stats⟩
      change q.drafts ++ plan.tableDrafts (validated q.drafts) table = _
      rw [hholds.drafts]

theorem stageTable_eq_error (htypes : p.types = types) (table : Table)
    {refused : DuplicateRegistration}
    (hregister : types.registerAll (plan.requestsFor .table [table.name]) = .error refused) :
    ∃ stopped, stageTable plan p table = .error ⟨.duplicate refused, stopped⟩ := by
  unfold stageTable
  unfold Plan.requestsFor Plan.registers at hregister
  cases hwanted : plan.tables with
  | false =>
      rw [hwanted] at hregister
      cases hregister
  | true =>
      rw [hwanted] at hregister
      simp only [if_true]
      rw [register_eq_error plan
        (p := { p with stats := { p.stats with tables := p.stats.tables + 1 } }) htypes hregister]
      exact ⟨_, rfl⟩

end Steps

end TableTypes.Generation
