/-! # Work in place

Work on a state can fail, and a failure leaves the state as the work had it: what was written
before it stays written. The outcome of a piece of work is read off its parts, one equation for
each way to put work together.
-/

namespace TableTypes

/-- Work on a state of type `σ` that can fail with an `ε`. -/
abbrev Work (ε σ : Type) := ExceptT ε (StateM σ)

namespace Work

variable {ε σ α β : Type}

/-- What the work gives, and the state that it leaves. -/
def outcome (work : Work ε σ α) (s : σ) : Except ε α × σ :=
  work.run.run s

/-- Go on with the result, unless there is none. -/
def continued (rest : α → Work ε σ β) : Except ε α × σ → Except ε β × σ
  | (.ok a, s) => (rest a).outcome s
  | (.error e, s) => (.error e, s)

/-- Do some last work after the work, whether that failed or not. If the last work fails, its
failure is the outcome. -/
def lastly {γ : Type} (work : Work ε σ α) (last : Work ε σ γ) : Work ε σ α :=
  ExceptT.mk fun s =>
    let (result, s) := work.outcome s
    let (done, s) := last.outcome s
    (done.bind fun _ => result, s)

/-- Go on with a failure, unless there is a result. -/
def recovered (handler : ε → Work ε σ α) : Except ε α × σ → Except ε α × σ
  | (.ok a, s) => (.ok a, s)
  | (.error e, s) => (handler e).outcome s

@[simp] theorem outcome_pure (a : α) (s : σ) : (pure a : Work ε σ α).outcome s = (.ok a, s) := rfl

@[simp] theorem outcome_throw (e : ε) (s : σ) :
    (throw e : Work ε σ α).outcome s = (.error e, s) := rfl

@[simp] theorem outcome_get (s : σ) : (get : Work ε σ σ).outcome s = (.ok s, s) := rfl

@[simp] theorem outcome_modify (f : σ → σ) (s : σ) :
    (modify f : Work ε σ Unit).outcome s = (.ok (), f s) := rfl

theorem outcome_bind (work : Work ε σ α) (rest : α → Work ε σ β) (s : σ) :
    (work >>= rest).outcome s = continued rest (work.outcome s) := by
  change (match work.outcome s with
    | (result, s) => ExceptT.bindCont rest result s) = _
  rcases work.outcome s with ⟨_ | a, s⟩
  · rfl
  · rfl

theorem outcome_lastly {γ : Type} (work : Work ε σ α) (last : Work ε σ γ) (s : σ) :
    (lastly work last).outcome s =
      let (result, s) := work.outcome s
      let (done, s) := last.outcome s
      (done.bind fun _ => result, s) := rfl

theorem outcome_tryCatch (work : Work ε σ α) (handler : ε → Work ε σ α) (s : σ) :
    (tryCatch work handler).outcome s = recovered handler (work.outcome s) := by
  change (match work.outcome s with
    | (result, s) => (match result with
      | .ok a => pure (.ok a)
      | .error e => handler e : StateM σ (Except ε α)) s) = _
  rcases work.outcome s with ⟨_ | a, s⟩
  · rfl
  · rfl

@[simp] theorem continued_ok (rest : α → Work ε σ β) (a : α) (s : σ) :
    continued rest (.ok a, s) = (rest a).outcome s := rfl

@[simp] theorem continued_error (rest : α → Work ε σ β) (e : ε) (s : σ) :
    continued rest (.error e, s) = (.error e, s) := rfl

end Work

end TableTypes
