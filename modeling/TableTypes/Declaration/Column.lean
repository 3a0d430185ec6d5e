import TableTypes.Casing.Identifier
import TableTypes.Casing.Style
import TableTypes.Registry.Basic
import TableTypes.Snapshot.Basic

/-!
# Columns as members

One column becomes one member of an interface. Its type comes out of the registry; an array is
wrapped before a missing value is allowed, so a nullable list of texts is `string[] | null`.
-/

namespace TableTypes.Declaration

open Syntax (TypeNode Member)
open Casing (Transformations)

/-- What every declaration is built against. -/
structure Scope where
  types : Registry
  names : Transformations

/-- The name under which an enum or a table is declared. -/
def declaredName (names : Transformations) (schemaName : String) : String :=
  Casing.toIdentifier (names.typeNames.apply schemaName)

/-- The name of a column's field. -/
def fieldName (names : Transformations) (column : Column) : String :=
  names.columns.apply column.name

/-- A column's type around the type of one value: first the array, then the missing value. -/
def wrap (column : Column) (type : TypeNode) : TypeNode :=
  let listed := if column.isArray then .array type else type
  if column.nullable then .union [listed, .null] else listed

/-- The type of a column's field. -/
def columnType (types : Registry) (column : Column) : Except UnknownType TypeNode :=
  (types.typeOf column.type).map (wrap column)

/-- The type of a column's field; a given type replaces the one that the registry knows. -/
def columnTypeOr (given : Option TypeNode) (types : Registry) (column : Column) :
    Except UnknownType TypeNode :=
  match given with
  | some type => .ok (wrap column type)
  | none => columnType types column

/-- A column as a member that may not be left out. -/
def columnMember (scope : Scope) (given : Option TypeNode) (column : Column) :
    Except UnknownType Member :=
  (columnTypeOr given scope.types column).map fun type =>
    .property (fieldName scope.names column) type false

end TableTypes.Declaration
