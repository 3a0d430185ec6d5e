import TableTypes.Declaration.Column

/-!
# Tables as interfaces

A table becomes an interface with one member for each column, in the order of the columns. The
variant for inserts has the same members, but those of columns with a default may be left out.
-/

namespace TableTypes.Declaration

open Syntax (Member Statement)

/-- The name of a table's interface. -/
def interfaceName (scope : Scope) (table : Table) (variant : Variant) : String :=
  declaredName scope.names table.name ++ variant.suffix

/-- A column as a member of the interface for a variant. -/
def interfaceMember (scope : Scope) (variant : Variant) (column : Column) :
    Except UnknownType Member :=
  (columnType scope.types column).map fun type =>
    .property (fieldName scope.names column) type (variant = .insert && column.hasDefault)

/-- A table's interface for a variant. -/
def interface (scope : Scope) (table : Table) (variant : Variant) :
    Except UnknownType Statement := do
  let members ← table.orderedColumns.mapM (interfaceMember scope variant)
  return .interface (interfaceName scope table variant) members true

end TableTypes.Declaration
