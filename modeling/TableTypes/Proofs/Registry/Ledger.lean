import Mathlib.Logic.Function.Basic
import TableTypes.Proofs.Registry.Registration
import TableTypes.Proofs.Work
import TableTypes.Registry.Attempt

/-! # A registry in two dictionaries

A registry finds the owner of an identifier by searching what it holds. A ledger keeps the owners
in a dictionary of their own and works in place: it writes the owners of built-in types, then
those of helper types over them, and with every registration both dictionaries. Nothing undoes a
write, so an attempt that fails must fail before the first one. The two stay in step over any
sequence of attempts.
-/

namespace TableTypes

/-- Entries by schema name in the order of registration, and owners by identifier. -/
structure Ledger where
  builtins : List (String × BuiltinType)
  entries : List (String × Entry)
  owners : String → Option Owner

namespace Ledger

def own (owners : String → Option Owner) (identifier : String) (owner : Owner) :
    String → Option Owner :=
  Function.update owners identifier (some owner)

/-- Write down what an output type takes. -/
def ownBuiltin (owners : String → Option Owner) (builtin : String × BuiltinType) :
    String → Option Owner :=
  match builtin.2.reserves? with
  | some name => own owners name (.builtinType name)
  | none => owners

/-- The ledger before any attempt. -/
def start (builtins : List (String × BuiltinType)) (reserved : List String) : Ledger where
  builtins := builtins
  entries := []
  owners := reserved.foldl (fun owners name => own owners name (.helper name))
    (builtins.foldl ownBuiltin fun _ => none)

def kindOf (a : Attempt) : Work AttemptRefusal Ledger Kind :=
  match choose "TypeKind" Kind.all Kind.name a.kind with
  | .ok kind => pure kind
  | .error refused => throw (.kind refused)

/-- Refuse what one of the dictionaries has. -/
def refuse (a : Attempt) (owner : Owner) : Work AttemptRefusal Ledger Unit :=
  throw (.duplicate ⟨a.schemaName, a.identifier, owner⟩)

/-- Write an accepted attempt into both dictionaries, one after the other. -/
def record (a : Attempt) (kind : Kind) : Work AttemptRefusal Ledger Unit := do
  modify fun ledger => { ledger with
    entries := ledger.entries ++ [(a.schemaName, ⟨a.identifier, kind, .named a.identifier⟩)] }
  modify fun ledger => { ledger with
    owners := own ledger.owners a.identifier (.registered kind a.schemaName) }

def attempt (a : Attempt) : Work AttemptRefusal Ledger Unit := do
  let kind ← kindOf a
  match (← get).entries.lookup a.schemaName with
  | some entry => refuse a (.registered entry.kind a.schemaName)
  | none =>
    match (← get).owners a.identifier with
    | some owner => refuse a owner
    | none => record a kind

def attempted (ledger : Ledger) (a : Attempt) : Except AttemptRefusal Unit × Ledger :=
  (attempt a).outcome ledger

/-- The ledger after one attempt and then the next. -/
def afterAll (ledger : Ledger) (attempts : List Attempt) : Ledger :=
  attempts.foldl (fun ledger a => (ledger.attempted a).2) ledger

/-- The ledger holds what the registry holds, and its owners are those that the registry finds. -/
structure InStep (ledger : Ledger) (r : Registry) : Prop where
  builtins : ledger.builtins = r.builtins
  entries : ledger.entries = r.entries
  owners : ledger.owners = r.owner?

section Start

theorem own_apply (owners : String → Option Owner) (name identifier : String) (owner : Owner) :
    own owners name owner identifier = if identifier = name then some owner
      else owners identifier :=
  Function.update_apply owners name (some owner) identifier

end Start

section Attempts

variable {ledger : Ledger} {r : Registry}

theorem attempted_of_noKind {a : Attempt} {refused : NoChoice}
    (hkind : choose "TypeKind" Kind.all Kind.name a.kind = .error refused) :
    ledger.attempted a = (.error (.kind refused), ledger) := by
  simp [attempted, attempt, kindOf, hkind]

/-- An attempt that names a kind comes to what the dictionaries say. -/
theorem attempted_of_kind {a : Attempt} {kind : Kind}
    (hkind : choose "TypeKind" Kind.all Kind.name a.kind = .ok kind) :
    ledger.attempted a =
      match ledger.entries.lookup a.schemaName with
      | some entry => (refuse a (.registered entry.kind a.schemaName)).outcome ledger
      | none => match ledger.owners a.identifier with
        | some owner => (refuse a owner).outcome ledger
        | none => (record a kind).outcome ledger := by
  rw [attempted, attempt, Work.outcome_bind, kindOf, hkind]
  simp only [Work.outcome_pure, Work.continued_ok, Work.outcome_bind, Work.outcome_get]
  cases ledger.entries.lookup a.schemaName with
  | some entry => rfl
  | none =>
      simp only [Work.continued_ok, Work.outcome_bind, Work.outcome_get]
      cases ledger.owners a.identifier with
      | some owner => rfl
      | none => rfl

/-- The search finds a new entry for its own identifier, and otherwise what it found before. -/
theorem owner?_extend_singleton {request : Registration}
    (hfree : r.owner? request.identifier = none) :
    (r.extend [request]).owner? =
      own r.owner? request.identifier (.registered request.kind request.schemaName) := by
  funext identifier
  have hold := (Registry.owner?_eq_none_iff.mp hfree).1
  rw [own_apply]
  unfold Registry.owner?
  rw [Registry.entries_extend, List.find?_append]
  by_cases hself : identifier = request.identifier
  · subst hself
    have hnone : (r.entries.find? fun entry => entry.2.identifier = request.identifier) = none := by
      rw [List.find?_eq_none]
      intro entry hmem
      simpa using fun heq => hold (List.mem_map.mpr ⟨entry, hmem, heq⟩)
    rw [hnone]
    simp [Registration.entry]
  · have hnew : ([request].map fun request => (request.schemaName, request.entry)).find?
        (fun entry => entry.2.identifier = identifier) = none := by
      simp [Registration.entry, Ne.symm hself]
    rw [hnew, Option.or_none, if_neg hself]
    rfl

/-- An attempt comes to the same on both sides and keeps them in step: a refused one because it
writes nothing, an accepted one because both dictionaries get what the registry gets. -/
theorem InStep.attempted (hstep : InStep ledger r) (a : Attempt) :
    (ledger.attempted a).1 = (r.attempt a).map (fun _ => ()) ∧
      InStep (ledger.attempted a).2 (r.after a) := by
  obtain ⟨hbuiltins, hentries, howners⟩ := id hstep
  unfold Registry.after Registry.attempt Registry.add
  cases hkind : choose "TypeKind" Kind.all Kind.name a.kind with
  | error refused =>
      rw [attempted_of_noKind hkind]
      exact ⟨rfl, hstep⟩
  | ok kind =>
      rw [attempted_of_kind hkind, hentries, howners]
      dsimp only
      cases hname : r.entries.lookup a.schemaName with
      | some entry => exact ⟨rfl, hstep⟩
      | none =>
          cases howner : r.owner? a.identifier with
          | some owner => exact ⟨rfl, hstep⟩
          | none =>
              have hextend := @owner?_extend_singleton r ⟨a.schemaName, a.identifier, kind⟩
              refine ⟨rfl, hbuiltins, ?_, ?_⟩
              · exact congrArg (· ++ [_]) hentries
              · exact (congrArg (own · a.identifier _) howners).trans
                  (hextend howner).symm

/-- The ledger and the registry stay in step over attempts in a row. -/
theorem InStep.afterAll (hstep : InStep ledger r) (attempts : List Attempt) :
    InStep (ledger.afterAll attempts) (r.afterAll attempts) := by
  induction attempts generalizing ledger r with
  | nil => exact hstep
  | cons a rest ih => exact ih (hstep.attempted a).2

end Attempts

end Ledger

end TableTypes
