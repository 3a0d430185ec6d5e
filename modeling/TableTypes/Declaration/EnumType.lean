import TableTypes.Declaration.Column

/-!
# Enumerated types as enums

An enumerated type becomes an enum whose members take their names from the labels and keep the
labels as their values, so a value comes back to the database unchanged.
-/

namespace TableTypes.Declaration

/-- The name and the value of the member for a label. -/
def enumMember (scope : Scope) (label : String) : String × String :=
  (Casing.toIdentifier (scope.names.enumMembers.apply label), label)

/-- The enum of an enumerated type. -/
def enumType (scope : Scope) (type : EnumType) : Syntax.Statement :=
  .enum (declaredName scope.names type.name) (type.values.map (enumMember scope)) true

end TableTypes.Declaration
