/-!
# Faults of snapshot records

What can be wrong with a value, where in its record the value stands, and results that collect
all faults that stand in their way.
-/

namespace TableTypes

/-- What is wrong with a value. -/
inductive Issue where
  | missing
  | notText
  | emptyText
  | notFlag
  | unclearFlag
  | notInteger
  | unclearInteger
  | fraction
  | hugeInteger
  | notFinite
  | negative
  | notList
  /-- The value is no record of the named kind. -/
  | notRecord (name : String)
  deriving DecidableEq, Repr

namespace Issue

/-- The short name of an issue. -/
def code : Issue → String
  | missing => "missing"
  | notText => "string_type"
  | emptyText => "string_too_short"
  | notFlag => "bool_type"
  | unclearFlag => "bool_parsing"
  | notInteger => "int_type"
  | unclearInteger => "int_parsing"
  | fraction => "int_from_float"
  | hugeInteger => "int_parsing_size"
  | notFinite => "finite_number"
  | negative => "greater_than_equal"
  | notList => "tuple_type"
  | notRecord _ => "model_type"

/-- The text that explains an issue. -/
def message : Issue → String
  | missing => "Field required"
  | notText => "Input should be a valid string"
  | emptyText => "String should have at least 1 character"
  | notFlag => "Input should be a valid boolean"
  | unclearFlag => "Input should be a valid boolean, unable to interpret input"
  | notInteger => "Input should be a valid integer"
  | unclearInteger => "Input should be a valid integer, unable to parse string as an integer"
  | fraction => "Input should be a valid integer, got a number with a fractional part"
  | hugeInteger => "Unable to parse input string as an integer, exceeded maximum size"
  | notFinite => "Input should be a finite number"
  | negative => "Input should be greater than or equal to 0"
  | notList => "Input should be a valid tuple"
  | notRecord name => "Input should be a valid dictionary or instance of " ++ name

end Issue

/-- One step on the way from a record to a value inside it. -/
inductive Step where
  | field (name : String)
  | index (n : Nat)
  deriving DecidableEq, Repr

/-- An issue with the value at a path. -/
structure Fault where
  path : List Step
  issue : Issue
  deriving DecidableEq, Repr

/-- A result, or all the faults that stand in its way. -/
abbrev Checked (α : Type) := Except (List Fault) α

namespace Checked

/-- Give a checked function its next argument; the faults of both are kept in order. -/
def give {α β : Type} : Checked α → Checked (α → β) → Checked β
  | .ok a, .ok f => .ok (f a)
  | .error faults, .ok _ => .error faults
  | .ok _, .error faults => .error faults
  | .error later, .error earlier => .error (earlier ++ later)

/-- Faults as seen from one step further out. -/
def under {α : Type} (step : Step) : Checked α → Checked α
  | .ok a => .ok a
  | .error faults => .error (faults.map fun fault => { fault with path := step :: fault.path })

/-- A single issue with the value itself. -/
def fault {α : Type} (issue : Issue) : Checked α :=
  .error [⟨[], issue⟩]

end Checked

end TableTypes
