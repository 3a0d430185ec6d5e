import TableTypes.Generation.Run

/-! # What a step leaves alone

A step within a phase adds to the registry, the drafts, the counted records and the log. It stays
in the phase, makes no call, counts no declaration and logs no error, and if it fails, this holds
of the record that it leaves behind.
-/

namespace TableTypes.Generation

open Journal (Note)

def errorsOf (notes : List Note) : List Note :=
  notes.filter fun note => note.level = Journal.Level.error

theorem errorsOf_append (first second : List Note) :
    errorsOf (first ++ second) = errorsOf first ++ errorsOf second :=
  List.filter_append ..

/-- The errors in the log of a run. -/
def Progress.errors (p : Progress) : List Note :=
  errorsOf (p.log.map (·.toNote))

theorem errors_note (p : Progress) (context : Journal.Context) (logger : Journal.Logger)
    (level : Int) (message : String) (data : List (String × Value)) :
    (p.note context logger level message data).errors =
      p.errors ++ errorsOf [logger.note level message data] := by
  rw [Progress.errors, Progress.note, List.map_append, errorsOf_append]
  rfl

/-- The record has the property after the step, whether that failed or not. -/
def Leaves (P : Progress → Prop) : Ran Progress → Prop
  | .ok p => P p
  | .error stopped => P stopped.progress

section Leaves

variable {P Q : Progress → Prop} {step : Ran Progress} {p : Progress}

theorem Leaves.of_ok (hleaves : Leaves P step) (hok : step = .ok p) : P p := by
  rw [hok] at hleaves
  exact hleaves

theorem Leaves.of_error (hleaves : Leaves P step) {failure : Failure}
    (herror : step = .error ⟨failure, p⟩) : P p := by
  rw [herror] at hleaves
  exact hleaves

theorem Leaves.imp (hleaves : Leaves P step) (himp : ∀ q, P q → Q q) : Leaves Q step := by
  cases step with
  | error stopped => exact himp _ hleaves
  | ok q => exact himp q hleaves

theorem Leaves.bind {next : Progress → Ran Progress} (hstep : Leaves P step)
    (hnext : ∀ q, P q → Leaves P (next q)) : Leaves P (step >>= next) := by
  cases step with
  | error stopped => exact hstep
  | ok q => exact hnext q hstep

theorem leaves_foldlM {α : Type} {one : Progress → α → Ran Progress}
    (hone : ∀ q a, P q → Leaves P (one q a)) (rows : List α) (hp : P p) :
    Leaves P (rows.foldlM one p) := by
  induction rows generalizing p with
  | nil => exact hp
  | cons a rest ih =>
      rw [List.foldlM_cons]
      exact (hone p a hp).bind fun q hq => ih hq

end Leaves

/-- The second record is of the same point of a run as the first. -/
structure Progress.SamePoint (p q : Progress) : Prop where
  phase : q.phase = p.phase
  calls : q.calls = p.calls
  declarations : q.stats.declarations = p.stats.declarations
  errors : q.errors = p.errors

section Steps

variable {p q r : Progress}

theorem Progress.SamePoint.trans (hfirst : p.SamePoint q) (hsecond : q.SamePoint r) :
    p.SamePoint r where
  phase := hsecond.phase.trans hfirst.phase
  calls := hsecond.calls.trans hfirst.calls
  declarations := hsecond.declarations.trans hfirst.declarations
  errors := hsecond.errors.trans hfirst.errors

theorem samePoint_note (p : Progress) {level : Int} (hlevel : level ≠ Journal.Level.error)
    (context : Journal.Context) (logger : Journal.Logger) (message : String)
    (data : List (String × Value)) :
    p.SamePoint (p.note context logger level message data) := by
  have hquiet : errorsOf [logger.note level message data] = [] :=
    List.filter_cons_of_neg (mt of_decide_eq_true hlevel)
  refine ⟨rfl, rfl, rfl, ?_⟩
  rw [errors_note, hquiet, List.append_nil]

theorem register_leaves (plan : Plan) (p : Progress) (kind : Kind) (name : String) :
    Leaves p.SamePoint (p.register plan kind name) := by
  unfold Progress.register
  dsimp only
  split
  · rename_i types _
    have hentered : p.SamePoint { p with types } := ⟨rfl, rfl, rfl, rfl⟩
    exact hentered.trans (samePoint_note _ (by decide) _ _ _ _)
  · exact ⟨rfl, rfl, rfl, rfl⟩

theorem stageEnum_leaves (plan : Plan) (p : Progress) (type : EnumType) :
    Leaves p.SamePoint (stageEnum plan p type) := by
  have hcounted : p.SamePoint { p with stats := { p.stats with enums := p.stats.enums + 1 } } :=
    ⟨rfl, rfl, rfl, rfl⟩
  unfold stageEnum
  dsimp only
  split
  · refine ((register_leaves plan _ .enum type.name).imp fun q => hcounted.trans).bind ?_
    intro q hq
    have hstaged : q.SamePoint (q.stage [.enum type]) := ⟨rfl, rfl, rfl, rfl⟩
    exact (hq.trans hstaged).trans (samePoint_note _ (by decide) _ _ _ _)
  · exact hcounted

theorem stageTable_leaves (plan : Plan) (p : Progress) (table : Table) :
    Leaves p.SamePoint (stageTable plan p table) := by
  have hcounted : p.SamePoint { p with stats := { p.stats with tables := p.stats.tables + 1 } } :=
    ⟨rfl, rfl, rfl, rfl⟩
  have hstaged : ∀ q : Progress, q.SamePoint
      ((q.stage (plan.tableDrafts (validated q.drafts) table)).note
        (entityContext q.phase table.name) runLogger Journal.Level.debug "Staged table"
        [("columns", .int table.columns.length)]) := by
    intro q
    have hdrafted : q.SamePoint (q.stage (plan.tableDrafts (validated q.drafts) table)) :=
      ⟨rfl, rfl, rfl, rfl⟩
    exact hdrafted.trans (samePoint_note _ (by decide) _ _ _ _)
  unfold stageTable
  dsimp only
  split
  · refine ((register_leaves plan _ .table table.name).imp fun q => hcounted.trans).bind ?_
    exact fun q hq => hq.trans (hstaged q)
  · exact hcounted.trans (hstaged _)

end Steps

end TableTypes.Generation
