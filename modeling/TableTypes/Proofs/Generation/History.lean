import TableTypes.Proofs.Generation.InPlace
import TableTypes.Proofs.Generation.Keeping

/-! # Runs do not depend on earlier ones

A task does in place what a step does to the record of a run, if the innermost block of the log is
the position that the step writes to. This holds for every step, so a request leaves on the bench
what the generator keeps, and no block open. Whatever was asked before, a run therefore gives,
reports, logs and leaves what it would with a new generator.
-/

namespace TableTypes.Generation

open Declaration (Draft)
open Journal (Context Contexts)
open Syntax (Statement)

section Steps

variable {α β : Type} {g : Generator} {contexts : Contexts} {p : Progress}

/-- The bench in the middle of a run. -/
def bench (g : Generator) (contexts : Contexts) (p : Progress) : Workbench where
  generator := { g with phase := p.phase, types := p.types, stats := some p.stats }
  drafts := p.drafts
  contexts := contexts
  calls := p.calls
  log := p.log

/-- What a step comes to in place. A failure leaves the record that it stopped with. -/
def landed (g : Generator) (contexts : Contexts) :
    Ran (Progress × α) → Except Failure α × Workbench
  | .ok (p, a) => (.ok a, bench g contexts p)
  | .error stopped => (.error stopped.cause, bench g contexts stopped.progress)

/-- The task does in place what a step does to the record. -/
def Realizes (g : Generator) (contexts : Contexts) (task : Task α) (p : Progress)
    (ran : Ran (Progress × α)) : Prop :=
  task.outcome (bench g contexts p) = landed g contexts ran

/-- A step that gives nothing but the record. -/
def quietly (ran : Ran Progress) : Ran (Progress × Unit) :=
  ran.map (·, ())

theorem Realizes.bind {task : Task α} {ran : Ran (Progress × α)} {rest : α → Task β}
    {next : Progress × α → Ran (Progress × β)} (htask : Realizes g contexts task p ran)
    (hrest : ∀ q a, ran = .ok (q, a) → Realizes g contexts (rest a) q (next (q, a))) :
    Realizes g contexts (task >>= rest) p (ran >>= next) := by
  rw [Realizes, Work.outcome_bind, htask]
  cases ran with
  | error stopped => rfl
  | ok done => exact hrest done.1 done.2 rfl

theorem outcome_inside (fields : List (String × Value)) (task : Task α) (s : Workbench) :
    (Task.inside fields task).outcome s =
      let opened := (s.contexts.enter fields).toOption.getD (s.contexts.current :: s.contexts)
      let done := task.outcome { s with contexts := opened }
      (done.1, { done.2 with contexts := done.2.contexts.leave }) := rfl

/-- A block is closed after the task, whether that failed or not. -/
theorem Realizes.inside {task : Task α} {ran : Ran (Progress × α)} {fields : List (String × Value)}
    {position : Context} (hfields : contexts.current.within fields = .ok position)
    (htask : Realizes g (position :: contexts) task p ran) :
    Realizes g contexts (Task.inside fields task) p ran := by
  have hopened : (bench g contexts p).contexts.enter fields = .ok (position :: contexts) := by
    change (contexts.current.within fields).map (· :: contexts) = _
    rw [hfields]
    rfl
  rw [Realizes, outcome_inside, hopened]
  change (let done := task.outcome (bench g (position :: contexts) p)
    ((done.1, { done.2 with contexts := done.2.contexts.leave }) : _ × Workbench)) = _
  rw [htask]
  cases ran with
  | error stopped => rfl
  | ok done => rfl

/-- A task that cannot fail does its part, and the rest goes on from there. -/
theorem Realizes.andThen {first : Task Unit} {rest : Task α} {q : Progress}
    {ran : Ran (Progress × α)} (hfirst : Realizes g contexts first p (.ok (q, ())))
    (hrest : Realizes g contexts rest q ran) :
    Realizes g contexts (first >>= fun _ => rest) p ran := by
  rw [Realizes, Work.outcome_bind, hfirst]
  exact hrest

theorem quietly_bind {ran : Ran β} {next : β → Ran Progress} :
    quietly (ran >>= next) = (ran >>= fun b => quietly (next b)) := by
  cases ran <;> rfl

theorem Realizes.seq {task : Task Unit} {rest : Task α} {ran : Ran Progress}
    {next : Progress → Ran (Progress × α)} (htask : Realizes g contexts task p (quietly ran))
    (hrest : ∀ q, ran = .ok q → Realizes g contexts rest q (next q)) :
    Realizes g contexts (task >>= fun _ => rest) p (ran >>= next) := by
  rw [Realizes, Work.outcome_bind, htask]
  cases ran with
  | error stopped => rfl
  | ok q => exact hrest q rfl

theorem ask_realizes {call : Call} {reply : Reply α}
    (hcurrent : contexts.current = phaseContext p.phase) :
    Realizes g contexts (Task.ask call reply) p (p.ask call reply) := by
  rw [Realizes, Task.ask, Work.outcome_bind, Work.outcome_modify, Work.continued_ok]
  unfold Progress.ask
  cases reply.outcome with
  | ok a => simp [landed, bench, hcurrent]
  | error failure => simp [landed, bench, hcurrent]

theorem register_realizes {kind : Kind} {name : String}
    (hcurrent : contexts.current = entityContext p.phase name) :
    Realizes g contexts (Task.register kind name) p (quietly (p.register g.plan kind name)) := by
  rw [Realizes, Task.register, Work.outcome_bind, Work.outcome_get, Work.continued_ok]
  unfold Progress.register
  dsimp only [bench]
  cases p.types.add name (Declaration.declaredName g.plan.names name) kind with
  | ok types =>
      dsimp only
      rw [← hcurrent]
      rfl
  | error registration => rfl

theorem phase_register {plan : Plan} {kind : Kind} {name : String} {q : Progress}
    (hregister : p.register plan kind name = .ok q) : q.phase = p.phase :=
  ((register_leaves plan p kind name).of_ok hregister).phase

theorem stageEnum_realizes (type : EnumType) (hcurrent : contexts.current = phaseContext p.phase) :
    Realizes g contexts (Task.stageEnum type) p (quietly (stageEnum g.plan p type)) := by
  let counted : Progress := { p with stats := { p.stats with enums := p.stats.enums + 1 } }
  have hfields : contexts.current.within [("entity", .text type.name)] =
      .ok (entityContext p.phase type.name) := by
    rw [hcurrent]
    rfl
  refine Realizes.andThen (q := counted) rfl ?_
  change Realizes g contexts (if g.plan.enums then _ else pure ()) counted _
  unfold stageEnum
  cases g.plan.enums with
  | false => rfl
  | true =>
      refine Realizes.inside hfields ?_
      rw [if_pos rfl, quietly_bind]
      refine Realizes.seq (register_realizes (p := counted) rfl) fun q hregister => ?_
      -- The last line is written in the block, and its position was taken when that was opened.
      have hphase : q.phase = counted.phase := phase_register hregister
      rw [hphase]
      rfl

theorem stageTable_realizes (table : Table) (hcurrent : contexts.current = phaseContext p.phase) :
    Realizes g contexts (Task.stageTable table) p (quietly (stageTable g.plan p table)) := by
  let counted : Progress := { p with stats := { p.stats with tables := p.stats.tables + 1 } }
  have hfields : contexts.current.within [("entity", .text table.name)] =
      .ok (entityContext p.phase table.name) := by
    rw [hcurrent]
    rfl
  refine Realizes.andThen (q := counted) rfl (Realizes.inside hfields ?_)
  change Realizes g _ (if g.plan.tables then _ else _) counted _
  unfold stageTable
  cases g.plan.tables with
  | false => rfl
  | true =>
      simp only [if_true, quietly_bind]
      refine Realizes.seq (register_realizes (p := counted) rfl) fun q hregister => ?_
      have hphase : q.phase = counted.phase := phase_register hregister
      rw [hphase]
      rfl

theorem phase_stageEnum {plan : Plan} {type : EnumType} {q : Progress}
    (hstage : stageEnum plan p type = .ok q) : q.phase = p.phase :=
  ((stageEnum_leaves plan p type).of_ok hstage).phase

theorem phase_stageTable {plan : Plan} {table : Table} {q : Progress}
    (hstage : stageTable plan p table = .ok q) : q.phase = p.phase :=
  ((stageTable_leaves plan p table).of_ok hstage).phase

/-- One row after another, if each is staged in place as in the record. -/
theorem rows_realizes {one : α → Task Unit} {step : Progress → α → Ran Progress}
    (hone : ∀ {p : Progress} a, contexts.current = phaseContext p.phase →
      Realizes g contexts (one a) p (quietly (step p a)))
    (hphase : ∀ {p q : Progress} {a}, step p a = .ok q → q.phase = p.phase)
    (hcurrent : contexts.current = phaseContext p.phase) (rows : List α) :
    Realizes g contexts (forM rows one) p (quietly (rows.foldlM step p)) := by
  induction rows generalizing p with
  | nil => rfl
  | cons a rest ih =>
      rw [List.forM_cons, List.foldlM_cons, quietly_bind]
      refine Realizes.seq (hone a hcurrent) fun q hstep => ih ?_
      rw [hphase hstep, hcurrent]

theorem phase_ask {call : Call} {reply : Reply α} {q : Progress} {a : α}
    (hask : p.ask call reply = .ok (q, a)) : q.phase = p.phase := by
  unfold Progress.ask at hask
  dsimp only at hask
  split at hask
  · cases hask
    rfl
  · cases hask

theorem readPhase_realizes {phase : Phase} {call : Call} {reply : Reply (List α)} {what : String}
    {one : α → Task Unit} {step : Progress → α → Ran Progress}
    (hone : ∀ {contexts : Contexts} {p : Progress} a, contexts.current = phaseContext p.phase →
      Realizes g contexts (one a) p (quietly (step p a)))
    (hphase : ∀ {p q : Progress} {a}, step p a = .ok q → q.phase = p.phase)
    (hcurrent : contexts.current = runContext) :
    Realizes g contexts (Task.readPhase phase call reply what one) p
      (quietly ((p.enter phase).ask call reply >>= fun (q, rows) =>
        rows.foldlM step (q.noteRead rows.length what))) := by
  have hfields : contexts.current.within [("phase", .text phase.name)] =
      .ok (phaseContext phase) := by
    rw [hcurrent]
    rfl
  refine Realizes.andThen (q := p.enter phase) rfl (Realizes.inside hfields ?_)
  rw [quietly_bind]
  refine Realizes.bind (ask_realizes rfl) fun q rows hask => ?_
  -- The block was opened for the phase, so the rows need that asking did not leave it.
  let noted := q.noteRead rows.length what
  have hentered : q.phase = phase := phase_ask hask
  have hnow : Contexts.current (phaseContext phase :: contexts) = phaseContext noted.phase := by
    rw [show noted.phase = phase from hentered]
    rfl
  refine Realizes.andThen (q := noted) ?_ (rows_realizes hone hphase hnow rows)
  rw [show noted = q.note (phaseContext q.phase) _ _ _ from rfl, hentered]
  rfl

/-- What a run over drafts comes to, which changes no record. -/
def drafted (p : Progress) : Except UnknownType α → Ran (Progress × α)
  | .ok a => .ok (p, a)
  | .error unknown => .error ⟨.unknown unknown, p⟩

theorem buildDraft_realizes (draft : Draft) :
    Realizes g contexts (Task.buildDraft draft) p
      (drafted p (draft.build ⟨p.types, g.plan.names⟩)) := by
  have hfields : contexts.current.within
      [("entity", .text draft.schemaName), ("builder", .text draft.builder)] =
      .ok { contexts.current with
        entity := .text draft.schemaName, builder := .text draft.builder } := rfl
  refine Realizes.inside hfields ?_
  rw [Realizes, Work.outcome_bind, Work.outcome_get, Work.continued_ok]
  dsimp only [bench]
  cases draft.build ⟨p.types, g.plan.names⟩ with
  | ok statement => rfl
  | error unknown => rfl

theorem buildDrafts_realizes (drafts : List Draft) :
    Realizes g contexts (drafts.mapM Task.buildDraft) p
      (drafted p (drafts.mapM (Draft.build ⟨p.types, g.plan.names⟩))) := by
  induction drafts with
  | nil => rfl
  | cons draft rest ih =>
      rw [List.mapM_cons, List.mapM_cons, Realizes, Work.outcome_bind, buildDraft_realizes]
      cases draft.build ⟨p.types, g.plan.names⟩ with
      | error unknown => rfl
      | ok statement =>
          change (rest.mapM Task.buildDraft >>= _).outcome (bench g contexts p) = _
          rw [Work.outcome_bind, ih]
          cases rest.mapM (Draft.build ⟨p.types, g.plan.names⟩) with
          | error unknown => rfl
          | ok statements => rfl

theorem assemble_realizes : Realizes g contexts Task.assemble p (assemble g.plan p) := by
  rw [Realizes, Task.assemble, Work.outcome_bind, Work.outcome_get, Work.continued_ok,
    Work.outcome_bind]
  change Work.continued _ ((p.drafts.mapM Task.buildDraft).outcome (bench g contexts p)) = _
  rw [buildDrafts_realizes, assemble]
  cases p.drafts.mapM (Draft.build ⟨p.types, g.plan.names⟩) with
  | ok declarations => rfl
  | error unknown => rfl

theorem statements_realizes (hcurrent : contexts.current = runContext) (source : Source) :
    Realizes g contexts (Task.statements source) {} (statements g.plan source) := by
  refine Realizes.seq (readPhase_realizes stageEnum_realizes phase_stageEnum hcurrent)
    fun p _ => ?_
  refine Realizes.seq (readPhase_realizes stageTable_realizes phase_stageTable hcurrent)
    fun q _ => ?_
  exact assemble_realizes

end Steps

section Requests

variable {s : Workbench}

/-- A run clears the bench, so it starts from the record with which every run starts. -/
theorem outcome_build (hidle : s.contexts = []) (hcalls : s.calls = []) (hlog : s.log = [])
    (source : Source) :
    (Task.build source).outcome s =
      ((Generation.build s.generator.plan source).result.map .module,
        bench s.generator [] (Generation.build s.generator.plan source).progress) := by
  obtain ⟨g, drafts, contexts, calls, log⟩ := s
  obtain rfl := hidle
  obtain rfl := hcalls
  obtain rfl := hlog
  -- Whatever an earlier run left is overwritten before the first block is opened.
  have hstart : Task.clear.outcome ⟨g, drafts, [], [], []⟩ = (.ok (), bench g [] {}) := rfl
  rw [Task.build, Work.outcome_bind, hstart, Work.continued_ok, outcome_inside]
  change (let done := Work.outcome _ (bench g [runContext] {})
    ((done.1, { done.2 with contexts := done.2.contexts.leave }) : _ × Workbench)) = _
  rw [Work.outcome_bind, Task.reporting, Work.outcome_tryCatch, statements_realizes rfl source]
  unfold Generation.build run
  cases statements g.plan source with
  | error stopped => rfl
  | ok ran => rfl

theorem outcome_destroy (hidle : s.contexts = []) (source : Source) :
    (Task.destroy source).outcome s =
      let (g, freed) := s.generator.destroy source
      (freed.result, { s with
        generator := g, calls := s.calls ++ freed.calls, log := s.log ++ freed.log }) := by
  obtain ⟨g, drafts, contexts, calls, log⟩ := s
  obtain rfl := hidle
  unfold Task.destroy Generator.destroy
  rw [Work.outcome_bind, Work.outcome_get, Work.continued_ok]
  dsimp only
  cases g.released with
  | true => simp
  | false =>
      simp only [Bool.false_eq_true, if_false, Work.outcome_bind, Task.update, Task.ask,
        Work.outcome_modify, Work.continued_ok]
      cases source.release.outcome with
      | ok _ =>
          simp only [Work.outcome_pure, Work.continued_ok, Task.say, Work.outcome_bind,
            Work.outcome_modify, List.append_assoc]
          rfl
      | error failure =>
          simp only [Work.outcome_throw, Work.continued_error]
          rfl

theorem serve_of_outcome {source : Source} {request : Request} {result : Except Failure Answer}
    {next : Workbench}
    (houtcome : (Task.perform source request).outcome { s with calls := [], log := [] } =
      (result, next)) : s.serve source request = (next, ⟨result, next.calls, next.log⟩) := by
  rw [Workbench.serve, houtcome]

/-- Serving a request in place gives what the generator gives, leaves what it keeps, and closes
every block. -/
theorem serve_refines (hidle : s.contexts = []) (source : Source) (request : Request) :
    (s.serve source request).2 = (s.generator.serve source request).2 ∧
      (s.serve source request).1.generator = (s.generator.serve source request).1 ∧
      (s.serve source request).1.contexts = [] := by
  let fresh : Workbench := { s with calls := [], log := [] }
  have hbuild : (Task.build source).outcome fresh = _ :=
    outcome_build (s := fresh) hidle rfl rfl source
  cases request with
  | build =>
      have hperform : (Task.perform source .build).outcome fresh = _ := hbuild
      rw [serve_of_outcome (s := s) hperform]
      exact ⟨rfl, rfl, rfl⟩
  | session =>
      have hsession : (Task.perform source .session).outcome fresh = _ :=
        Work.outcome_lastly (Task.build source) (Task.destroy source) fresh
      rw [hbuild] at hsession
      dsimp only at hsession
      rw [outcome_destroy rfl source] at hsession
      rw [serve_of_outcome (s := s) hsession]
      exact ⟨rfl, rfl, rfl⟩
  | destroy =>
      have hdestroy : (Task.perform source .destroy).outcome fresh = _ :=
        outcome_destroy (s := fresh) hidle source
      dsimp only at hdestroy
      rw [serve_of_outcome (s := s) hdestroy]
      exact ⟨rfl, rfl, hidle⟩
  | status => exact ⟨rfl, rfl, hidle⟩
  | names => exact ⟨rfl, rfl, hidle⟩

/-- The same for requests in a row. -/
theorem serveAll_refines (hidle : s.contexts = []) (history : List (Source × Request)) :
    (s.serveAll history).generator = s.generator.serveAll history ∧
      (s.serveAll history).contexts = [] := by
  induction history generalizing s with
  | nil => exact ⟨rfl, hidle⟩
  | cons step rest ih =>
      obtain ⟨_, hgenerator, hidle'⟩ := serve_refines hidle step.1 step.2
      obtain ⟨hrest, hclosed⟩ := ih hidle'
      refine ⟨?_, hclosed⟩
      rw [hgenerator] at hrest
      exact hrest

theorem plan_serve (g : Generator) (source : Source) (request : Request) :
    (g.serve source request).1.plan = g.plan := by
  have hdestroy : ∀ g : Generator, (g.destroy source).1.plan = g.plan := by
    intro g
    unfold Generator.destroy
    split <;> rfl
  cases request with
  | session => exact hdestroy (g.build source).1
  | destroy => exact hdestroy g
  | build | status | names => rfl

theorem plan_serveAll (g : Generator) (history : List (Source × Request)) :
    (g.serveAll history).plan = g.plan := by
  induction history generalizing g with
  | nil => rfl
  | cons step rest ih => exact (ih _).trans (plan_serve g step.1 step.2)

theorem plan_after (hidle : s.contexts = []) (history : List (Source × Request)) :
    (s.serveAll history).generator.plan = s.generator.plan := by
  rw [(serveAll_refines hidle history).1]
  exact plan_serveAll s.generator history

end Requests

/-- A run comes to the same whatever was asked of the generator before, in any order and with any
sources: to one answer, one list of calls and one log. It leaves the same phase, counters and
registry, and only whether the source was let go is remembered. -/
theorem build_forgets_history (plan : Plan) (history : List (Source × Request))
    (source : Source) :
    let new : Workbench := { generator := { plan } }
    let used := new.serveAll history
    let first := new.serve source .build
    let next := used.serve source .build
    next.2 = first.2 ∧
    next.1.generator = { first.1.generator with released := used.generator.released } ∧
    next.1.generator.status = first.1.generator.status ∧
    next.1.generator.names = first.1.generator.names ∧
    next.1.contexts = [] ∧
    used.generator = Generator.serveAll { plan } history ∧
    next.2 = (used.generator.build source).2 ∧
    next.1.generator = (used.generator.build source).1 := by
  intro new used first next
  obtain ⟨hused, hclosed⟩ := serveAll_refines (s := new) rfl history
  obtain ⟨hfirst, hfirstLeft, _⟩ := serve_refines (s := new) rfl source .build
  obtain ⟨hnext, hnextLeft, hnextClosed⟩ := serve_refines hclosed source .build
  have hplan : used.generator.plan = plan := by
    rw [hused]
    exact plan_serveAll { plan } history
  have hserved : (used.generator.build source).2 = (Generator.build { plan } source).2 := by
    unfold Generator.build
    rw [hplan]
  have hleft : (used.generator.build source).1 =
      { (Generator.build { plan } source).1 with released := used.generator.released } := by
    unfold Generator.build
    rw [hplan]
  refine ⟨?_, ?_, ?_, ?_, hnextClosed, hused, hnext, hnextLeft⟩
  · exact hnext.trans (hserved.trans hfirst.symm)
  · rw [hnextLeft, hfirstLeft]
    exact hleft
  · rw [hnextLeft, hfirstLeft]
    exact (congrArg Generator.status hleft :)
  · rw [hnextLeft, hfirstLeft]
    exact (congrArg Generator.names hleft :)

end TableTypes.Generation
