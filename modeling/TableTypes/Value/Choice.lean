import TableTypes.Value.Text

/-!
# Choosing by name

Several settings choose among a few alternatives by name. A value that names none of them is
refused with its literal and the name of the family of alternatives.
-/

namespace TableTypes

/-- A value that names no member of a family of alternatives. -/
structure NoChoice where
  value : Value
  family : String

/-- The text that refuses the value. -/
def NoChoice.message (refused : NoChoice) : String :=
  refused.value.literal ++ " is not a valid " ++ refused.family

/-- The alternative that a value names exactly. -/
def choose {α : Type} (family : String) (alternatives : List α) (name : α → String)
    (v : Value) : Except NoChoice α :=
  match v.text?.bind fun chosen => alternatives.find? fun a => name a = chosen with
  | some a => .ok a
  | none => .error ⟨v, family⟩

end TableTypes
