import TableTypes.Declaration.Column

/-!
# Tables as validators

A validator checks a row at run time. It has one check for each column: a primitive check for a
built-in type, a check against the declared enum, or a deferred reference to the validator of
another table, so that tables may refer to each other in any order.
-/

namespace TableTypes.Declaration

open Syntax (Expression Statement)

/-- The library of checks that validators are built from. -/
def checks : Expression := .identifier "z"

/-- The check for the values of a built-in type, by the name of its output type. -/
def primitiveCheck (identifier : String) : String :=
  match identifier with
  | "number" => "number"
  | "string" => "string"
  | "boolean" => "boolean"
  | "Date" => "date"
  | _ => "unknown"

/-- The name of the validator that belongs to a declared type. -/
def validatorOf (typeName : String) : String :=
  typeName ++ "Schema"

/-- The name of a table's validator. -/
def validatorName (scope : Scope) (table : Table) : String :=
  validatorOf (declaredName scope.names table.name)

/-- The check for a single value of a type. -/
def entryCheck (entry : Entry) : Expression :=
  match entry.kind with
  | .enum => checks.method "nativeEnum" [.identifier entry.identifier]
  | .table => checks.method "lazy" [.arrow (.identifier (validatorOf entry.identifier))]
  | .builtin => checks.method (primitiveCheck entry.identifier) []

/-- The check for a column around the check for a single value. -/
def wrapCheck (column : Column) (check : Expression) : Expression :=
  let listed := if column.isArray then checks.method "array" [check] else check
  if column.nullable then listed.method "nullable" [] else listed

/-- The check for a column. -/
def columnCheck (types : Registry) (column : Column) : Except UnknownType Expression :=
  (types.resolve column.type).map fun entry => wrapCheck column (entryCheck entry)

/-- A column as a property of the validator. -/
def checkProperty (scope : Scope) (column : Column) : Except UnknownType (String × Expression) :=
  (columnCheck scope.types column).map fun check => (fieldName scope.names column, check)

/-- A table's validator. -/
def validator (scope : Scope) (table : Table) : Except UnknownType Statement := do
  let properties ← table.orderedColumns.mapM (checkProperty scope)
  return .constant (validatorName scope table) (checks.method "object" [.object properties]) true

end TableTypes.Declaration
