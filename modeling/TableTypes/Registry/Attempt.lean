import TableTypes.Registry.Basic
import TableTypes.Value.Choice

/-!
# Attempts to register

A registration is asked for with its kind by name. A value that names no kind is refused before
the registry is looked at, and a refused attempt leaves the registry as it was.
-/

namespace TableTypes

/-- A registration as it is asked for. -/
structure Attempt where
  schemaName : String
  identifier : String
  /-- The name of the kind, if it is one. -/
  kind : Value

/-- Why an attempt is refused. -/
inductive AttemptRefusal where
  /-- There is no such kind. -/
  | kind (refused : NoChoice)
  /-- The name or the identifier is taken. -/
  | duplicate (registration : DuplicateRegistration)

namespace Registry

/-- Register a name with the kind that a value names. -/
def attempt (r : Registry) (a : Attempt) : Except AttemptRefusal Registry :=
  match choose "TypeKind" Kind.all Kind.name a.kind with
  | .error refused => .error (.kind refused)
  | .ok kind => (r.add a.schemaName a.identifier kind).mapError .duplicate

/-- What is left after an attempt, whether it was accepted or not. -/
def after (r : Registry) (a : Attempt) : Registry :=
  match r.attempt a with
  | .ok next => next
  | .error _ => r

/-- What is left after one attempt and then the next. -/
def afterAll (r : Registry) (attempts : List Attempt) : Registry :=
  attempts.foldl after r

end Registry

end TableTypes
