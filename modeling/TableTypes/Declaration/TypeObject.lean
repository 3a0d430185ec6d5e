import TableTypes.Declaration.Column
import TableTypes.Syntax.Printer

/-!
# Tables as type objects

A type object holds the shape of a table at run time: for each column, the text of its type.
-/

namespace TableTypes.Declaration

open Syntax (Expression Statement)

/-- The name of a table's type object. -/
def typeObjectName (scope : Scope) (table : Table) : String :=
  declaredName scope.names table.name ++ "Type"

/-- The text of a column's type in the standard layout. -/
def typeTag (types : Registry) (column : Column) : Except UnknownType String :=
  (columnType types column).map fun type =>
    type.print ({} : Syntax.Layout).indent 0

/-- A column as a property of the type object. -/
def typeProperty (scope : Scope) (column : Column) : Except UnknownType (String × Expression) :=
  (typeTag scope.types column).map fun tag => (fieldName scope.names column, .string tag)

/-- A table's type object. -/
def typeObject (scope : Scope) (table : Table) : Except UnknownType Statement := do
  let properties ← table.orderedColumns.mapM (typeProperty scope)
  return .constant (typeObjectName scope table) (.asConst (.object properties)) true

end TableTypes.Declaration
