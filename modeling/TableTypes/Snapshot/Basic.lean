/-!
# Schema snapshots

What one run knows of a database schema: its enumerated types and its tables, each read once and
not changed afterwards.
-/

namespace TableTypes

/-- A column of a table. -/
structure Column where
  name : String
  /-- The schema's name for the type, or for the element type of an array. -/
  type : String
  nullable : Bool := false
  /-- The database supplies a value if an insert leaves the column out. -/
  hasDefault : Bool := false
  isArray : Bool := false
  /-- The position of the column in its table. -/
  order : Nat := 0
  deriving DecidableEq, Repr

/-- A table or a view. -/
structure Table where
  name : String
  /-- False for views that take no rows. -/
  canInsert : Bool := true
  columns : List Column := []
  deriving DecidableEq, Repr

/-- An enumerated type with its labels in their order. -/
structure EnumType where
  name : String
  values : List String := []
  deriving DecidableEq, Repr

/-- The columns in ascending position; columns with one position keep their order. -/
def Table.orderedColumns (table : Table) : List Column :=
  table.columns.mergeSort fun a b => a.order ≤ b.order

/-- The two declarations that one table can have. -/
inductive Variant where
  /-- A row as it is read. -/
  | primary
  /-- A row as it is inserted, where columns with a default may be left out. -/
  | insert
  deriving DecidableEq, Repr

namespace Variant

/-- The name by which a variant is chosen. -/
def name : Variant → String
  | primary => "primary"
  | insert => "insert"

/-- The variant with a name. -/
def ofName? (name : String) : Option Variant :=
  [primary, insert].find? fun variant => variant.name = name

/-- What the variant adds to the name of a table's type. -/
def suffix : Variant → String
  | primary => ""
  | insert => "$Insert"

end Variant

end TableTypes
