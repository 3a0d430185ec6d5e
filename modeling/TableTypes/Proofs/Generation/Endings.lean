import TableTypes.Proofs.Generation.History
import TableTypes.Proofs.Generation.Result
import TableTypes.Proofs.Syntax.Tagged

/-! # Where a run ends

A run ends in the phase of the enumerated types, in the phase of the tables, or assembled. No step
within a phase changes where the record stands, so the phase, the calls, the counted declarations
and the reported errors are those of the point that the run had come to, and each failure belongs to
one point.
-/

namespace TableTypes.Generation

open Declaration (Draft)
open Journal (Note)

variable {plan : Plan} {source : Source}

/-- What a source logs while it answers a call. -/
def Source.notes (source : Source) : Call → List Note
  | .enums => source.enums.notes
  | .tables => source.tables.notes
  | .release => source.release.notes

/-- The errors that a source reports itself while it answers calls. -/
def Source.errors (source : Source) (calls : List Call) : List Note :=
  errorsOf (calls.flatMap source.notes)

/-- The run has come to this phase and made these calls, and it has neither counted declarations
nor reported an error. -/
structure Progress.At (source : Source) (phase : Phase) (made : List Call) (p : Progress) :
    Prop where
  phase : p.phase = phase
  calls : p.calls = made
  declarations : p.stats.declarations = 0
  errors : p.errors = source.errors made

section Phases

variable {phase : Phase} {made : List Call} {p q : Progress}

theorem Progress.At.of_samePoint (hp : p.At source phase made) (hsame : p.SamePoint q) :
    q.At source phase made where
  phase := hsame.phase.trans hp.phase
  calls := hsame.calls.trans hp.calls
  declarations := hsame.declarations.trans hp.declarations
  errors := hsame.errors.trans hp.errors

theorem Source.errors_append (source : Source) (first second : List Call) :
    source.errors (first ++ second) = source.errors first ++ source.errors second := by
  rw [Source.errors, List.flatMap_append, errorsOf_append]
  rfl

/-- A phase asks the source once and then goes through the rows of the answer. -/
theorem Progress.At.phase_leaves {α : Type} {call : Call} {reply : Reply (List α)}
    (hp : p.At source phase made) (hreply : source.notes call = reply.notes) (next : Phase)
    {step : Progress → α → Ran Progress} (what : String)
    (hstep : ∀ q a, Leaves q.SamePoint (step q a)) :
    Leaves (Progress.At source next (made ++ [call]))
      ((p.enter next).ask call reply >>= fun (q, rows) =>
        rows.foldlM step (q.noteRead rows.length what)) := by
  let asked : Progress := { p.enter next with
    calls := p.calls ++ [call]
    log := p.log ++ reply.notes.map (·.within (phaseContext next)) }
  have hasked : asked.At source next (made ++ [call]) := by
    have hnotes : (reply.notes.map (·.within (phaseContext next))).map (·.toNote) =
        [call].flatMap source.notes := by
      rw [List.map_map, List.flatMap_singleton, hreply]
      exact List.map_id _
    refine ⟨rfl, congrArg (· ++ [call]) hp.calls, hp.declarations, ?_⟩
    rw [Source.errors_append, ← hp.errors, Progress.errors, List.map_append, hnotes,
      errorsOf_append]
    rfl
  have hrow : ∀ q a, q.At source next (made ++ [call]) →
      Leaves (Progress.At source next (made ++ [call])) (step q a) := fun q a hq =>
    (hstep q a).imp fun _ => hq.of_samePoint
  unfold Progress.ask
  cases reply.outcome with
  | error failure => exact hasked
  | ok rows =>
      exact leaves_foldlM hrow rows (hasked.of_samePoint (samePoint_note _ (by decide) _ _ _ _))

theorem enumPhase_leaves (plan : Plan) (source : Source) :
    Leaves (Progress.At source .enums [.enums]) (enumPhase plan source {}) := by
  have hstart : Progress.At source .idle [] {} := ⟨rfl, rfl, rfl, rfl⟩
  exact hstart.phase_leaves rfl .enums "enums" (stageEnum_leaves plan)

theorem Progress.At.tablePhase_leaves (hp : p.At source .enums [.enums]) (plan : Plan) :
    Leaves (Progress.At source .tables [.enums, .tables]) (tablePhase plan source p) :=
  hp.phase_leaves rfl .tables "tables" (stageTable_leaves plan)

end Phases

/-- What ends a run while it reads and registers the enumerated types. -/
inductive FailsAtEnums (plan : Plan) (source : Source) : Failure → Prop where
  | asked {failure : SourceFailure} (hasked : source.enums.outcome = .error failure) :
      FailsAtEnums plan source (.source failure)
  | registered {enums : List EnumType} {refused : DuplicateRegistration}
      (hanswer : source.enums.outcome = .ok enums)
      (hregister : startRegistry.registerAll (plan.requestsFor .enum (enums.map (·.name))) =
        .error refused) :
      FailsAtEnums plan source (.duplicate refused)

/-- What ends a run after that: the tables are not given, one of them is not registered, or a
declaration is not built. -/
inductive FailsAtTables (plan : Plan) (source : Source) : Failure → Prop where
  | asked {enums : List EnumType} {types : Registry} {failure : SourceFailure}
      (hanswer : source.enums.outcome = .ok enums)
      (hregister : startRegistry.registerAll (plan.requestsFor .enum (enums.map (·.name))) =
        .ok types)
      (hasked : source.tables.outcome = .error failure) :
      FailsAtTables plan source (.source failure)
  | registered {enums : List EnumType} {tables : List Table} {types : Registry}
      {refused : DuplicateRegistration} (hreturns : source.Returns enums tables)
      (henums : startRegistry.registerAll (plan.requestsFor .enum (enums.map (·.name))) =
        .ok types)
      (htables : types.registerAll (plan.requestsFor .table (tables.map (·.name))) =
        .error refused) :
      FailsAtTables plan source (.duplicate refused)
  | built {enums : List EnumType} {tables : List Table} {unknown : UnknownType}
      (hreturns : source.Returns enums tables)
      (haccepts : startRegistry.Accepts (plan.requests enums tables))
      (hbuild : (plan.drafts enums tables).mapM (Draft.build (plan.scope enums tables)) =
        .error unknown) :
      FailsAtTables plan source (.unknown unknown)

section Endings

variable {failure : Failure} {p : Progress}

theorem statements_of_failsAtEnums (hfails : FailsAtEnums plan source failure) :
    ∃ p, statements plan source = .error ⟨failure, p⟩ ∧ p.At source .enums [.enums] := by
  have hphase : ∃ p, enumPhase plan source {} = .error ⟨failure, p⟩ := by
    cases hfails with
    | asked hasked =>
        rw [enumPhase, Progress.ask, hasked]
        exact ⟨_, rfl⟩
    | registered hanswer hregister => exact enumPhase_eq_error hanswer holds_start hregister
  obtain ⟨p, hp⟩ := hphase
  refine ⟨p, ?_, (enumPhase_leaves plan source).of_error hp⟩
  rw [statements, hp]
  rfl

/-- With all registrations accepted, the run comes to the end of the tables and assembles. -/
theorem assembles_of_accepted {enums : List EnumType} {tables : List Table}
    (hreturns : source.Returns enums tables)
    (haccepts : startRegistry.Accepts (plan.requests enums tables)) :
    ∃ p : Progress, p.At source .tables [.enums, .tables] ∧
      statements plan source = assemble plan p ∧
      p.drafts.mapM (Draft.build ⟨p.types, plan.names⟩) =
        (plan.drafts enums tables).mapM (Draft.build (plan.scope enums tables)) := by
  obtain ⟨p, q, hp, hq, hholds⟩ := phases_of_accepted hreturns haccepts
  have hat := (enumPhase_leaves plan source).of_ok hp
  refine ⟨q, (hat.tablePhase_leaves plan).of_ok hq, ?_, ?_⟩
  · rw [statements_of_enumPhase hp, hq]
    rfl
  · rw [hholds.types, hholds.drafts]
    rfl

theorem statements_of_failsAtTables (hfails : FailsAtTables plan source failure) :
    ∃ p, statements plan source = .error ⟨failure, p⟩ ∧
      p.At source .tables [.enums, .tables] := by
  -- A phase that fails is the last, and one that does not hands its record on.
  have hstops : ∀ p q, enumPhase plan source {} = .ok p →
      tablePhase plan source p = .error ⟨failure, q⟩ →
      statements plan source = .error ⟨failure, q⟩ ∧ q.At source .tables [.enums, .tables] := by
    intro p q hp hq
    have hat := (enumPhase_leaves plan source).of_ok hp
    refine ⟨?_, (hat.tablePhase_leaves plan).of_error hq⟩
    rw [statements_of_enumPhase hp, hq]
    rfl
  cases hfails with
  | @asked _ _ refused hanswer hregister hasked =>
      obtain ⟨p, hp, -⟩ := enumPhase_eq_ok hanswer holds_start hregister
      have hphase : ∃ q, tablePhase plan source p = .error ⟨.source refused, q⟩ := by
        rw [tablePhase, Progress.ask, hasked]
        exact ⟨_, rfl⟩
      obtain ⟨q, hq⟩ := hphase
      exact ⟨q, hstops p q hp hq⟩
  | registered hreturns henums htables =>
      obtain ⟨p, hp, hholds⟩ := enumPhase_eq_ok hreturns.enums holds_start henums
      obtain ⟨q, hq⟩ := tablePhase_eq_error hreturns.tables hholds htables
      exact ⟨q, hstops p q hp hq⟩
  | built hreturns haccepts hbuild =>
      obtain ⟨p, hp, hassemble, hsame⟩ := assembles_of_accepted hreturns haccepts
      refine ⟨p, ?_, hp⟩
      rw [hassemble, assemble, hsame, hbuild]

/-- A run that fails at neither point is assembled. -/
theorem fails_or_assembles (plan : Plan) (source : Source) :
    (∃ failure, FailsAtEnums plan source failure) ∨ (∃ failure, FailsAtTables plan source failure) ∨
      ∃ p : Progress, p.At source .tables [.enums, .tables] ∧ ∃ module,
        statements plan source =
          .ok ({ p with stats := { p.stats with declarations := p.drafts.length } }, module) := by
  cases henums : source.enums.outcome with
  | error refused => exact Or.inl ⟨_, .asked henums⟩
  | ok enums =>
  cases hregister : startRegistry.registerAll (plan.requestsFor .enum (enums.map (·.name))) with
  | error refused => exact Or.inl ⟨_, .registered henums hregister⟩
  | ok types =>
  cases htables : source.tables.outcome with
  | error refused => exact Or.inr (Or.inl ⟨_, .asked henums hregister htables⟩)
  | ok tables =>
  have hreturns : source.Returns enums tables := ⟨henums, htables⟩
  cases hrest : types.registerAll (plan.requestsFor .table (tables.map (·.name))) with
  | error refused => exact Or.inr (Or.inl ⟨_, .registered hreturns hregister hrest⟩)
  | ok all =>
  have hall : startRegistry.registerAll (plan.requests enums tables) = .ok all := by
    rw [Plan.requests, Registry.registerAll_append, hregister]
    exact hrest
  have haccepts := (Registry.registerAll_eq_ok_iff.mp hall).1
  cases hbuild : (plan.drafts enums tables).mapM (Draft.build (plan.scope enums tables)) with
  | error unknown => exact Or.inr (Or.inl ⟨_, .built hreturns haccepts hbuild⟩)
  | ok declarations =>
      obtain ⟨p, hp, hassemble, hsame⟩ := assembles_of_accepted hreturns haccepts
      refine Or.inr (Or.inr ⟨p, hp, Declaration.preamble plan.validators ++ declarations, ?_⟩)
      rw [hassemble, assemble, hsame, hbuild]

end Endings

/-- What a run reports as an error of its own: why it failed, if it did. -/
def reported {α : Type} : Except Failure α → List Note
  | .ok _ => []
  | .error failure => [runLogger.note Journal.Level.error failure.message []]

theorem reported_map {α β : Type} (result : Except Failure α) (f : α → β) :
    reported (result.map f) = reported result := by
  cases result <;> rfl

/-- The run ended in this phase after these calls. It reports no error but its failure, and it
counts declarations only if it was assembled. -/
structure Outcome.Ends {α : Type} (source : Source) (last : Phase) (made : List Call)
    (outcome : Outcome α) : Prop where
  phase : outcome.progress.phase = last
  calls : outcome.progress.calls = made
  errors : outcome.progress.errors = source.errors made ++ reported outcome.result
  declarations : last ≠ .assembled → outcome.progress.stats.declarations = 0

section Runs

variable {failure : Failure} {p : Progress} {phase : Phase} {made : List Call}

theorem run_of_error (hp : p.At source phase made)
    (hstatements : statements plan source = .error ⟨failure, p⟩) :
    (run plan source).result = .error failure ∧ (run plan source).Ends source phase made := by
  rw [run, hstatements]
  refine ⟨rfl, hp.phase, hp.calls, ?_, fun _ => hp.declarations⟩
  rw [← hp.errors]
  exact errors_note ..

theorem run_of_failsAtEnums (hfails : FailsAtEnums plan source failure) :
    (run plan source).result = .error failure ∧ (run plan source).Ends source .enums [.enums] := by
  obtain ⟨p, hstatements, hp⟩ := statements_of_failsAtEnums hfails
  exact run_of_error hp hstatements

theorem run_of_failsAtTables (hfails : FailsAtTables plan source failure) :
    (run plan source).result = .error failure ∧
      (run plan source).Ends source .tables [.enums, .tables] := by
  obtain ⟨p, hstatements, hp⟩ := statements_of_failsAtTables hfails
  exact run_of_error hp hstatements

theorem run_of_assembled (hp : p.At source .tables [.enums, .tables])
    {module : List Syntax.Statement} (hstatements : statements plan source =
      .ok ({ p with stats := { p.stats with declarations := p.drafts.length } }, module)) :
    (run plan source).result = .ok module ∧
      (run plan source).Ends source .assembled [.enums, .tables] := by
  rw [run, hstatements]
  refine ⟨rfl, rfl, hp.calls, ?_, fun hphase => absurd rfl hphase⟩
  rw [← hp.errors]
  exact errors_note ..

/-- The three ways in which a run can end. -/
theorem run_ends (plan : Plan) (source : Source) :
    (∃ failure, FailsAtEnums plan source failure ∧ (run plan source).result = .error failure ∧
        (run plan source).Ends source .enums [.enums]) ∨
      (∃ failure, FailsAtTables plan source failure ∧ (run plan source).result = .error failure ∧
        (run plan source).Ends source .tables [.enums, .tables]) ∨
      ∃ module, (run plan source).result = .ok module ∧
        (run plan source).Ends source .assembled [.enums, .tables] := by
  rcases fails_or_assembles plan source with
    ⟨failure, hfails⟩ | ⟨failure, hfails⟩ | ⟨p, hp, module, hstatements⟩
  · exact Or.inl ⟨failure, hfails, run_of_failsAtEnums hfails⟩
  · exact Or.inr (Or.inl ⟨failure, hfails, run_of_failsAtTables hfails⟩)
  · exact Or.inr (Or.inr ⟨module, run_of_assembled hp hstatements⟩)

theorem exists_ends (plan : Plan) (source : Source) :
    ∃ phase, (run plan source).Ends source phase
      (if phase = .enums then [.enums] else [.enums, .tables]) := by
  rcases run_ends plan source with ⟨_, _, _, hends⟩ | ⟨_, _, _, hends⟩ | ⟨_, _, hends⟩
  · exact ⟨.enums, hends⟩
  · exact ⟨.tables, hends⟩
  · exact ⟨.assembled, hends⟩

theorem phase_eq_assembled_iff :
    (run plan source).progress.phase = .assembled ↔
      ∃ module, (run plan source).result = .ok module := by
  constructor
  · intro hphase
    rcases run_ends plan source with ⟨_, _, _, hends⟩ | ⟨_, _, _, hends⟩ | ⟨module, hresult, _⟩
    · cases hends.phase.symm.trans hphase
    · cases hends.phase.symm.trans hphase
    · exact ⟨module, hresult⟩
  · rintro ⟨module, hmodule⟩
    rcases run_ends plan source with ⟨_, _, hresult, _⟩ | ⟨_, _, hresult, _⟩ | ⟨_, _, hends⟩
    · cases hresult.symm.trans hmodule
    · cases hresult.symm.trans hmodule
    · exact hends.phase

theorem phase_eq_enums_iff :
    (run plan source).progress.phase = .enums ↔ ∃ failure, FailsAtEnums plan source failure := by
  constructor
  · intro hphase
    rcases run_ends plan source with ⟨failure, hfails, _⟩ | ⟨_, _, _, hends⟩ | ⟨_, _, hends⟩
    · exact ⟨failure, hfails⟩
    · cases hends.phase.symm.trans hphase
    · cases hends.phase.symm.trans hphase
  · rintro ⟨failure, hfails⟩
    exact (run_of_failsAtEnums hfails).2.phase

theorem phase_eq_tables_iff :
    (run plan source).progress.phase = .tables ↔ ∃ failure, FailsAtTables plan source failure := by
  constructor
  · intro hphase
    rcases run_ends plan source with ⟨_, _, _, hends⟩ | ⟨failure, hfails, _⟩ | ⟨_, _, hends⟩
    · cases hends.phase.symm.trans hphase
    · exact ⟨failure, hfails⟩
    · cases hends.phase.symm.trans hphase
  · rintro ⟨failure, hfails⟩
    exact (run_of_failsAtTables hfails).2.phase

theorem run_eq_error_iff :
    (run plan source).result = .error failure ↔
      FailsAtEnums plan source failure ∨ FailsAtTables plan source failure := by
  constructor
  · intro herror
    rcases run_ends plan source with ⟨_, hfails, hresult, _⟩ | ⟨_, hfails, hresult, _⟩ |
      ⟨_, hresult, _⟩
    · cases hresult.symm.trans herror
      exact Or.inl hfails
    · cases hresult.symm.trans herror
      exact Or.inr hfails
    · cases hresult.symm.trans herror
  · rintro (hfails | hfails)
    · exact (run_of_failsAtEnums hfails).1
    · exact (run_of_failsAtTables hfails).1

end Runs

/-- A run tells the truth about where it ended, whatever was asked of the generator before. The
phase says what failed, a run that fails on the enumerated types does not ask for tables, only a
run with a module counts declarations, and the only error that a run adds to those of the source
is the one that it answers with. A module is always printed: none of its nodes is refused. -/
theorem build_phase_tells_truth (plan : Plan) (history : List (Source × Request))
    (source : Source) :
    let used : Workbench := Workbench.serveAll { generator := { plan } } history
    let left := (used.serve source .build).1.generator
    let served := (used.serve source .build).2
    (left.phase = .assembled ↔ ∃ text, served.result = .ok (.module text)) ∧
    (left.phase = .enums ↔ ∃ failure, FailsAtEnums plan source failure) ∧
    (left.phase = .tables ↔ ∃ failure, FailsAtTables plan source failure) ∧
    (∀ failure, served.result = .error failure ↔
      FailsAtEnums plan source failure ∨ FailsAtTables plan source failure) ∧
    served.calls = (if left.phase = .enums then [.enums] else [.enums, .tables]) ∧
    (left.phase ≠ .assembled → left.stats.map (·.declarations) = some 0) ∧
    errorsOf (served.log.map (·.toNote)) = source.errors served.calls ++ reported served.result ∧
    ∀ module, (run plan source).result = .ok module →
      (module.map Syntax.Statement.toTagged).mapM Syntax.Statement.ofTagged = .ok module ∧
        served.result = .ok (.module (Syntax.printModule plan.layout module)) := by
  intro used left served
  obtain ⟨-, hclosed⟩ := serveAll_refines (s := { generator := { plan } }) rfl history
  obtain ⟨hserved, hleft, -⟩ := serve_refines hclosed source .build
  have hplan : used.generator.plan = plan := plan_after rfl history
  have hanswer : served.result =
      ((run plan source).result.map (Syntax.printModule plan.layout)).map .module := by
    rw [← hplan]
    exact congrArg Served.result hserved
  have hcalls : served.calls = (run plan source).progress.calls := by
    rw [← hplan]
    exact congrArg Served.calls hserved
  have hlog : served.log = (run plan source).progress.log := by
    rw [← hplan]
    exact congrArg Served.log hserved
  have hphase : left.phase = (run plan source).progress.phase := by
    rw [← hplan]
    exact congrArg Generator.phase hleft
  have hstats : left.stats = some (run plan source).progress.stats := by
    rw [← hplan]
    exact congrArg Generator.stats hleft
  have hreported : reported served.result = reported (run plan source).result := by
    rw [hanswer, reported_map, reported_map]
  obtain ⟨phase, hends⟩ := exists_ends plan source
  rw [hphase, hstats, hcalls, hlog, hreported, hanswer]
  refine ⟨phase_eq_assembled_iff.trans ?_, phase_eq_enums_iff, phase_eq_tables_iff, ?_, ?_, ?_, ?_,
    ?_⟩
  · simp only [map_eq_ok_iff]
    constructor
    · rintro ⟨module, hmodule⟩
      exact ⟨_, _, ⟨module, hmodule, rfl⟩, rfl⟩
    · rintro ⟨text, _, ⟨module, hmodule, -⟩, -⟩
      exact ⟨module, hmodule⟩
  · intro failure
    rw [map_eq_error_iff, map_eq_error_iff]
    exact run_eq_error_iff
  · rw [hends.phase]
    exact hends.calls
  · intro hincomplete
    rw [hends.phase] at hincomplete
    exact congrArg some (hends.declarations hincomplete)
  · rw [hends.calls]
    exact hends.errors
  · intro module hmodule
    rw [hmodule]
    exact ⟨Syntax.mapM_taggedStatements module, rfl⟩

/-- An enum and a table of one name: the run ends while it registers the table, and what it reports
is what it answers. -/
theorem phase_of_clashing_table :
    let type : EnumType := { name := "users", values := ["admin"] }
    let table : Table := { name := "users", columns := [{ name := "id", type := "int4" }] }
    let source : Source := { enums := ⟨.ok [type], []⟩, tables := ⟨.ok [table], []⟩ }
    let used : Workbench := Workbench.serveAll { generator := { plan := {} } } [(source, .session)]
    let left := (used.serve source .build).1.generator
    let served := (used.serve source .build).2
    left.phase = .tables ∧ served.calls = [.enums, .tables] ∧
      left.stats.map (·.declarations) = some 0 ∧
      ∃ failure : Failure, served.result = .error failure ∧
        errorsOf (served.log.map (·.toNote)) =
          [runLogger.note Journal.Level.error failure.message []] := by
  intro type table source
  -- with its names put in, the goal is what the theorem says of `source`
  dsimp only
  obtain ⟨-, -, htables, herror, hcalls, hcounted, hlog, -⟩ :=
    build_phase_tells_truth {} [(source, .session)] source
  let asEnum : Registration := ⟨"users", "Users", .enum⟩
  let asTable : Registration := ⟨"users", "Users", .table⟩
  have henumRequests : ({} : Plan).requestsFor .enum ["users"] = [asEnum] := by decide +kernel
  have htableRequests : ({} : Plan).requestsFor .table ["users"] = [asTable] := by decide +kernel
  have hfree : ¬ startRegistry.Refuses asEnum := by
    rw [Registry.Refuses]
    decide +kernel
  have htaken : (startRegistry.extend [asEnum]).Refuses asTable := Or.inl (by decide +kernel)
  have hregistered : startRegistry.registerAll (({} : Plan).requestsFor .enum ["users"]) =
      .ok (startRegistry.extend [asEnum]) := by
    rw [henumRequests]
    exact (registerAll_singleton _ _).trans (Registry.add_eq_ok hfree)
  obtain ⟨owner, hrefused⟩ : ∃ owner, (startRegistry.extend [asEnum]).registerAll
      (({} : Plan).requestsFor .table ["users"]) = .error ⟨"users", "Users", owner⟩ := by
    rw [htableRequests]
    exact Registry.registerAll_eq_error (FirstWith.cons_iff.mpr (.inl ⟨rfl, htaken⟩))
  have hfails : FailsAtTables {} source (.duplicate ⟨"users", "Users", owner⟩) :=
    .registered ⟨rfl, rfl⟩ hregistered hrefused
  have hphase := htables.mpr ⟨_, hfails⟩
  have hresult := (herror _).mpr (Or.inr hfails)
  have hcalled := hcalls.trans (if_neg (by rw [hphase]; decide))
  refine ⟨hphase, hcalled, hcounted (by rw [hphase]; decide), _, hresult, ?_⟩
  rw [hlog, hresult, hcalled]
  rfl

end TableTypes.Generation
