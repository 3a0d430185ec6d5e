import TableTypes.Generation.Session
import TableTypes.Proofs.Generation.Phases

/-! # The result of a run

A run over a source that answers has one of three results: the first refused registration, the
first failure of a draft against the registry with all registrations, or the preamble and the
built drafts. In the last case its record says how many records and declarations there were. A
generator that is asked for a run answers with its result, whatever it was asked before.
-/

namespace TableTypes.Generation

open Declaration (Draft)

variable {plan : Plan} {source : Source} {enums : List EnumType} {tables : List Table}

/-- What every declaration of a run is built against: the registry after its last registration. -/
def Plan.scope (plan : Plan) (enums : List EnumType) (tables : List Table) : Declaration.Scope :=
  ⟨startRegistry.extend (plan.requests enums tables), plan.names⟩

theorem run_eq_duplicate (hreturns : source.Returns enums tables)
    {refused : DuplicateRegistration}
    (hregister : startRegistry.registerAll (plan.requests enums tables) = .error refused) :
    (run plan source).result = .error (.duplicate refused) := by
  obtain ⟨stopped, hstopped⟩ := statements_of_refused hreturns hregister
  rw [run, hstopped]

theorem run_eq_unknown (hreturns : source.Returns enums tables)
    (haccepts : startRegistry.Accepts (plan.requests enums tables)) {unknown : UnknownType}
    (hbuild : (plan.drafts enums tables).mapM (Draft.build (plan.scope enums tables)) =
      .error unknown) :
    (run plan source).result = .error (.unknown unknown) := by
  obtain ⟨p, hp, hholds⟩ := statements_of_accepted hreturns haccepts
  rw [Plan.scope, ← hholds.types, ← hholds.drafts] at hbuild
  rw [run, hp, assemble, hbuild]

theorem run_eq_module (hreturns : source.Returns enums tables)
    (haccepts : startRegistry.Accepts (plan.requests enums tables))
    {declarations : List Syntax.Statement}
    (hbuild : (plan.drafts enums tables).mapM (Draft.build (plan.scope enums tables)) =
      .ok declarations) :
    (run plan source).result = .ok (Declaration.preamble plan.validators ++ declarations) ∧
      (run plan source).progress.Holds (plan.scope enums tables).types
        (plan.drafts enums tables) ⟨enums.length, tables.length, declarations.length⟩ ∧
      (run plan source).progress.phase = .assembled := by
  obtain ⟨p, hp, hholds⟩ := statements_of_accepted hreturns haccepts
  have hlength : (plan.drafts enums tables).length = declarations.length :=
    (mapM_eq_ok_iff.mp hbuild).length_eq
  rw [Plan.scope, ← hholds.types, ← hholds.drafts] at hbuild
  rw [run, hp, assemble, hbuild]
  refine ⟨rfl, ⟨hholds.types, hholds.drafts, ?_⟩, rfl⟩
  change { p.stats with declarations := p.drafts.length } = _
  rw [hholds.stats, hholds.drafts, hlength]

/-- Which of the three results a run has is settled by its registrations and its drafts. -/
theorem run_cases (plan : Plan) (hreturns : source.Returns enums tables) :
    (∃ refused, startRegistry.registerAll (plan.requests enums tables) = .error refused ∧
        (run plan source).result = .error (.duplicate refused)) ∨
      startRegistry.Accepts (plan.requests enums tables) ∧
        ((∃ unknown, (plan.drafts enums tables).mapM (Draft.build (plan.scope enums tables)) =
            .error unknown ∧ (run plan source).result = .error (.unknown unknown)) ∨
          ∃ declarations,
            (plan.drafts enums tables).mapM (Draft.build (plan.scope enums tables)) =
              .ok declarations ∧
            (run plan source).result =
              .ok (Declaration.preamble plan.validators ++ declarations)) := by
  cases hregister : startRegistry.registerAll (plan.requests enums tables) with
  | error refused => exact Or.inl ⟨refused, rfl, run_eq_duplicate hreturns hregister⟩
  | ok types =>
      have haccepts := (Registry.registerAll_eq_ok_iff.mp hregister).1
      refine Or.inr ⟨haccepts, ?_⟩
      cases hbuild : (plan.drafts enums tables).mapM (Draft.build (plan.scope enums tables)) with
      | error unknown => exact Or.inl ⟨unknown, rfl, run_eq_unknown hreturns haccepts hbuild⟩
      | ok declarations =>
          exact Or.inr ⟨declarations, rfl, (run_eq_module hreturns haccepts hbuild).1⟩

theorem run_eq_duplicate_iff (hreturns : source.Returns enums tables)
    {refused : DuplicateRegistration} :
    (run plan source).result = .error (.duplicate refused) ↔
      startRegistry.registerAll (plan.requests enums tables) = .error refused := by
  refine ⟨?_, run_eq_duplicate hreturns⟩
  intro hresult
  rcases run_cases plan hreturns with
    ⟨refused', hregister, hrun⟩ | ⟨_, ⟨unknown, _, hrun⟩ | ⟨declarations, _, hrun⟩⟩
  · rw [hrun] at hresult
    cases hresult
    exact hregister
  · rw [hrun] at hresult
    cases hresult
  · rw [hrun] at hresult
    cases hresult

theorem run_eq_unknown_iff (hreturns : source.Returns enums tables) {unknown : UnknownType} :
    (run plan source).result = .error (.unknown unknown) ↔
      startRegistry.Accepts (plan.requests enums tables) ∧
        (plan.drafts enums tables).mapM (Draft.build (plan.scope enums tables)) =
          .error unknown := by
  refine ⟨?_, fun h => run_eq_unknown hreturns h.1 h.2⟩
  intro hresult
  rcases run_cases plan hreturns with
    ⟨refused, _, hrun⟩ | ⟨haccepts, ⟨unknown', hbuild, hrun⟩ | ⟨declarations, _, hrun⟩⟩
  · rw [hrun] at hresult
    cases hresult
  · rw [hrun] at hresult
    cases hresult
    exact ⟨haccepts, hbuild⟩
  · rw [hrun] at hresult
    cases hresult

/-- A run that gives a module has accepted all registrations and built all drafts, and its module
is the preamble and what the drafts became. -/
theorem run_eq_ok_iff (hreturns : source.Returns enums tables)
    {module : List Syntax.Statement} :
    (run plan source).result = .ok module ↔
      startRegistry.Accepts (plan.requests enums tables) ∧
        ∃ declarations,
          (plan.drafts enums tables).mapM (Draft.build (plan.scope enums tables)) =
            .ok declarations ∧
          module = Declaration.preamble plan.validators ++ declarations := by
  constructor
  · intro hresult
    rcases run_cases plan hreturns with
      ⟨refused, _, hrun⟩ | ⟨haccepts, ⟨unknown, _, hrun⟩ | ⟨declarations, hbuild, hrun⟩⟩
    · rw [hrun] at hresult
      cases hresult
    · rw [hrun] at hresult
      cases hresult
    · rw [hrun] at hresult
      cases hresult
      exact ⟨haccepts, declarations, hbuild, rfl⟩
  · rintro ⟨haccepts, declarations, hbuild, rfl⟩
    exact (run_eq_module hreturns haccepts hbuild).1

/-- A source whose run gives a module has answered both questions. -/
theorem returns_of_run {module : List Syntax.Statement}
    (hrun : (run plan source).result = .ok module) :
    ∃ enums tables, source.Returns enums tables := by
  unfold run at hrun
  cases hstatements : statements plan source with
  | error stopped =>
      rw [hstatements] at hrun
      cases hrun
  | ok ran =>
      obtain ⟨p, henumPhase, hrest⟩ := bind_eq_ok_iff.mp hstatements
      obtain ⟨q, htablePhase, _⟩ := bind_eq_ok_iff.mp hrest
      obtain ⟨⟨_, enums⟩, henums, _⟩ := bind_eq_ok_iff.mp henumPhase
      obtain ⟨⟨_, tables⟩, htables, _⟩ := bind_eq_ok_iff.mp htablePhase
      exact ⟨enums, tables, outcome_of_ask henums, outcome_of_ask htables⟩

namespace Generator

variable {g : Generator}

theorem build_eq_error_iff {failure : Failure} :
    (g.build source).2.result = .error failure ↔ (run g.plan source).result = .error failure := by
  change (((run g.plan source).result.map _).map Answer.module) = _ ↔ _
  rw [map_eq_error_iff, map_eq_error_iff]

theorem build_eq_ok_iff {answer : Answer} :
    (g.build source).2.result = .ok answer ↔
      ∃ module, (run g.plan source).result = .ok module ∧
        .module (Syntax.printModule g.plan.layout module) = answer := by
  change (((run g.plan source).result.map _).map Answer.module) = _ ↔ _
  rw [map_eq_ok_iff]
  simp only [map_eq_ok_iff]
  constructor
  · rintro ⟨_, ⟨module, hrun, rfl⟩, rfl⟩
    exact ⟨module, hrun, rfl⟩
  · rintro ⟨module, hrun, rfl⟩
    exact ⟨_, ⟨module, hrun, rfl⟩, rfl⟩

end Generator

end TableTypes.Generation
