import TableTypes.Proofs.Generation.Staging

/-! # Phases of a run

Each phase registers and stages what its records ask for, one record after another. Over a source
that answers both questions, a run therefore fails with a registration if and only if the
registrations in a row do, and otherwise it builds the drafts against the registry that holds
all of them.
-/

namespace TableTypes.Generation

open Declaration (Draft)

/-- The source answers both questions of a run, with these records. -/
structure Source.Returns (source : Source) (enums : List EnumType) (tables : List Table) :
    Prop where
  enums : source.enums.outcome = .ok enums
  tables : source.tables.outcome = .ok tables

variable {plan : Plan} {source : Source} {enums : List EnumType} {tables : List Table}

section Rows

variable {p : Progress} {types next : Registry} {drafts : List Draft} {stats : Stats}

theorem stageEnums_eq_ok (hholds : p.Holds types drafts stats)
    (hregister : types.registerAll (plan.requestsFor .enum (enums.map (·.name))) = .ok next) :
    ∃ q, enums.foldlM (stageEnum plan) p = .ok q ∧
      q.Holds next (drafts ++ plan.enumDrafts enums)
        { stats with enums := stats.enums + enums.length } := by
  induction enums generalizing p types drafts stats with
  | nil =>
      rw [List.map_nil, Plan.requestsFor_nil] at hregister
      obtain rfl := Except.ok.inj hregister
      rw [Plan.enumDrafts_nil, List.append_nil]
      exact ⟨p, rfl, hholds⟩
  | cons type rest ih =>
      rw [List.map_cons, Plan.requestsFor_cons, Registry.registerAll_append] at hregister
      obtain ⟨middle, hhead, hrest⟩ := bind_eq_ok_iff.mp hregister
      obtain ⟨q, hq, hholds⟩ := stageEnum_eq_ok hholds type hhead
      rw [List.foldlM_cons, hq, Plan.enumDrafts_cons, ← List.append_assoc, List.length_cons,
        Nat.add_comm rest.length, ← Nat.add_assoc]
      exact ih hholds hrest

theorem stageEnums_eq_error (hholds : p.Holds types drafts stats)
    {refused : DuplicateRegistration}
    (hregister : types.registerAll (plan.requestsFor .enum (enums.map (·.name))) = .error refused) :
    ∃ stopped, enums.foldlM (stageEnum plan) p = .error ⟨.duplicate refused, stopped⟩ := by
  induction enums generalizing p types drafts stats with
  | nil =>
      rw [List.map_nil, Plan.requestsFor_nil] at hregister
      cases hregister
  | cons type rest ih =>
      rw [List.map_cons, Plan.requestsFor_cons, Registry.registerAll_append] at hregister
      rw [List.foldlM_cons]
      rcases bind_eq_error_iff.mp hregister with hhead | ⟨middle, hhead, hrest⟩
      · obtain ⟨stopped, hstep⟩ := stageEnum_eq_error hholds.types type hhead
        exact ⟨stopped, by rw [hstep]; rfl⟩
      · obtain ⟨q, hq, hholds⟩ := stageEnum_eq_ok hholds type hhead
        rw [hq]
        exact ih hholds hrest

/-- The drafts for a table depend on the tables before it, and the run reads those off the drafts
that it holds. `Covers` says that this gives the same drafts. -/
theorem stageTables_eq_ok {earlier : List Table} (hholds : p.Holds types drafts stats)
    (hcovers : Covers plan drafts earlier)
    (hregister : types.registerAll (plan.requestsFor .table (tables.map (·.name))) = .ok next) :
    ∃ q, tables.foldlM (stageTable plan) p = .ok q ∧
      q.Holds next (drafts ++ plan.draftsAfter earlier tables)
        { stats with tables := stats.tables + tables.length } := by
  induction tables generalizing p types drafts stats earlier with
  | nil =>
      rw [List.map_nil, Plan.requestsFor_nil] at hregister
      obtain rfl := Except.ok.inj hregister
      rw [Plan.draftsAfter, List.append_nil]
      exact ⟨p, rfl, hholds⟩
  | cons table rest ih =>
      rw [List.map_cons, Plan.requestsFor_cons, Registry.registerAll_append] at hregister
      obtain ⟨middle, hhead, hrest⟩ := bind_eq_ok_iff.mp hregister
      obtain ⟨q, hq, hholds⟩ := stageTable_eq_ok hholds table hhead
      rw [hcovers.tableDrafts table] at hholds
      rw [List.foldlM_cons, hq, Plan.draftsAfter, ← List.append_assoc, List.length_cons,
        Nat.add_comm rest.length, ← Nat.add_assoc]
      exact ih hholds (hcovers.append table) hrest

theorem stageTables_eq_error (hholds : p.Holds types drafts stats)
    {refused : DuplicateRegistration}
    (hregister : types.registerAll (plan.requestsFor .table (tables.map (·.name))) =
      .error refused) :
    ∃ stopped, tables.foldlM (stageTable plan) p = .error ⟨.duplicate refused, stopped⟩ := by
  induction tables generalizing p types drafts stats with
  | nil =>
      rw [List.map_nil, Plan.requestsFor_nil] at hregister
      cases hregister
  | cons table rest ih =>
      rw [List.map_cons, Plan.requestsFor_cons, Registry.registerAll_append] at hregister
      rw [List.foldlM_cons]
      rcases bind_eq_error_iff.mp hregister with hhead | ⟨middle, hhead, hrest⟩
      · obtain ⟨stopped, hstep⟩ := stageTable_eq_error hholds.types table hhead
        exact ⟨stopped, by rw [hstep]; rfl⟩
      · obtain ⟨q, hq, hholds⟩ := stageTable_eq_ok hholds table hhead
        rw [hq]
        exact ih hholds hrest

theorem ask_eq_ok {α : Type} {reply : Reply α} {answer : α} (hholds : p.Holds types drafts stats)
    (call : Call) (hanswer : reply.outcome = .ok answer) :
    ∃ q, p.ask call reply = .ok (q, answer) ∧ q.Holds types drafts stats := by
  rw [Progress.ask, hanswer]
  exact ⟨_, rfl, hholds.types, hholds.drafts, hholds.stats⟩

theorem outcome_of_ask {α : Type} {reply : Reply α} {answer : α} {call : Call} {q : Progress}
    (hask : p.ask call reply = .ok (q, answer)) : reply.outcome = .ok answer := by
  unfold Progress.ask at hask
  split at hask
  · rename_i houtcome
    cases hask
    exact houtcome
  · cases hask

end Rows

/-- The registry with which every run starts. -/
def startRegistry : Registry := Registry.standard Declaration.helperNames

theorem holds_start : Progress.Holds {} startRegistry [] {} := ⟨rfl, rfl, rfl⟩

section Accepted

variable {p : Progress} {types next : Registry} {drafts : List Draft} {stats : Stats}

theorem enumPhase_eq_ok (hanswer : source.enums.outcome = .ok enums)
    (hholds : p.Holds types drafts stats)
    (hregister : types.registerAll (plan.requestsFor .enum (enums.map (·.name))) = .ok next) :
    ∃ q, enumPhase plan source p = .ok q ∧
      q.Holds next (drafts ++ plan.enumDrafts enums)
        { stats with enums := stats.enums + enums.length } := by
  obtain ⟨q, hq, hread⟩ := ask_eq_ok (p := p.enter .enums)
    ⟨hholds.types, hholds.drafts, hholds.stats⟩ .enums hanswer
  rw [enumPhase, hq]
  exact stageEnums_eq_ok (p := q.noteRead enums.length "enums")
    ⟨hread.types, hread.drafts, hread.stats⟩ hregister

theorem enumPhase_eq_error (hanswer : source.enums.outcome = .ok enums)
    (hholds : p.Holds types drafts stats) {refused : DuplicateRegistration}
    (hregister : types.registerAll (plan.requestsFor .enum (enums.map (·.name))) = .error refused) :
    ∃ stopped, enumPhase plan source p = .error ⟨.duplicate refused, stopped⟩ := by
  obtain ⟨q, hq, hread⟩ := ask_eq_ok (p := p.enter .enums)
    ⟨hholds.types, hholds.drafts, hholds.stats⟩ .enums hanswer
  rw [enumPhase, hq]
  exact stageEnums_eq_error (p := q.noteRead enums.length "enums")
    ⟨hread.types, hread.drafts, hread.stats⟩ hregister

theorem tablePhase_eq_ok (hanswer : source.tables.outcome = .ok tables)
    (hholds : p.Holds types drafts stats) (hcovers : Covers plan drafts [])
    (hregister : types.registerAll (plan.requestsFor .table (tables.map (·.name))) = .ok next) :
    ∃ q, tablePhase plan source p = .ok q ∧
      q.Holds next (drafts ++ plan.draftsAfter [] tables)
        { stats with tables := stats.tables + tables.length } := by
  obtain ⟨q, hq, hread⟩ := ask_eq_ok (p := p.enter .tables)
    ⟨hholds.types, hholds.drafts, hholds.stats⟩ .tables hanswer
  rw [tablePhase, hq]
  exact stageTables_eq_ok (p := q.noteRead tables.length "tables")
    ⟨hread.types, hread.drafts, hread.stats⟩ hcovers hregister

theorem tablePhase_eq_error (hanswer : source.tables.outcome = .ok tables)
    (hholds : p.Holds types drafts stats) {refused : DuplicateRegistration}
    (hregister : types.registerAll (plan.requestsFor .table (tables.map (·.name))) =
      .error refused) :
    ∃ stopped, tablePhase plan source p = .error ⟨.duplicate refused, stopped⟩ := by
  obtain ⟨q, hq, hread⟩ := ask_eq_ok (p := p.enter .tables)
    ⟨hholds.types, hholds.drafts, hholds.stats⟩ .tables hanswer
  rw [tablePhase, hq]
  exact stageTables_eq_error (p := q.noteRead tables.length "tables")
    ⟨hread.types, hread.drafts, hread.stats⟩ hregister

end Accepted

theorem statements_of_enumPhase {p : Progress} (henumPhase : enumPhase plan source {} = .ok p) :
    statements plan source = (tablePhase plan source p >>= assemble plan) := by
  rw [statements, henumPhase]
  rfl

/-- If all registrations are accepted, both phases are passed, and what they leave holds all of
them with the drafts. -/
theorem phases_of_accepted (hreturns : source.Returns enums tables)
    (haccepts : startRegistry.Accepts (plan.requests enums tables)) :
    ∃ p q, enumPhase plan source {} = .ok p ∧ tablePhase plan source p = .ok q ∧
      q.Holds (startRegistry.extend (plan.requests enums tables)) (plan.drafts enums tables)
        ⟨enums.length, tables.length, 0⟩ := by
  have hregister := Registry.registerAll_eq_ok haccepts
  rw [Plan.requests, Registry.registerAll_append] at hregister
  obtain ⟨middle, henums, htables⟩ := bind_eq_ok_iff.mp hregister
  obtain ⟨p, hp, hholds⟩ := enumPhase_eq_ok hreturns.enums holds_start henums
  obtain ⟨q, hq, hholds⟩ :=
    tablePhase_eq_ok hreturns.tables hholds (covers_enumDrafts plan enums) htables
  refine ⟨p, q, hp, hq, ?_⟩
  rw [Plan.requests, Plan.drafts]
  simpa only [List.nil_append, Nat.zero_add] using hholds

/-- A run whose registrations are all accepted assembles its drafts against the registry that
holds them. -/
theorem statements_of_accepted (hreturns : source.Returns enums tables)
    (haccepts : startRegistry.Accepts (plan.requests enums tables)) :
    ∃ p, statements plan source = assemble plan p ∧
      p.Holds (startRegistry.extend (plan.requests enums tables)) (plan.drafts enums tables)
        ⟨enums.length, tables.length, 0⟩ := by
  obtain ⟨p, q, hp, hq, hholds⟩ := phases_of_accepted hreturns haccepts
  refine ⟨q, ?_, hholds⟩
  rw [statements_of_enumPhase hp, hq]
  rfl

/-- A run fails with the first registration that is refused, whatever the drafts before it. -/
theorem statements_of_refused (hreturns : source.Returns enums tables)
    {refused : DuplicateRegistration}
    (hregister : startRegistry.registerAll (plan.requests enums tables) = .error refused) :
    ∃ stopped, statements plan source = .error ⟨.duplicate refused, stopped⟩ := by
  rw [Plan.requests, Registry.registerAll_append] at hregister
  rcases bind_eq_error_iff.mp hregister with henums | ⟨middle, henums, htables⟩
  · obtain ⟨stopped, hstopped⟩ := enumPhase_eq_error hreturns.enums holds_start henums
    exact ⟨stopped, by rw [statements, hstopped]; rfl⟩
  · obtain ⟨p, hp, hholds⟩ := enumPhase_eq_ok hreturns.enums holds_start henums
    obtain ⟨stopped, hstopped⟩ := tablePhase_eq_error hreturns.tables hholds htables
    refine ⟨stopped, ?_⟩
    rw [statements_of_enumPhase hp, hstopped]
    rfl

end TableTypes.Generation
