import TableTypes.Declaration.EnumType
import TableTypes.Declaration.Interface
import TableTypes.Declaration.TypeObject
import TableTypes.Declaration.Validator
import TableTypes.Text.Literal

/-!
# Drafts

A draft is a declaration that is planned but not built. A run collects drafts while it registers
names and builds them afterwards, so that a declaration can refer to what is registered later.
-/

namespace TableTypes.Declaration

/-- A planned declaration. -/
inductive Draft where
  | enum (type : EnumType)
  | interface (table : Table) (variant : Variant)
  | typeObject (table : Table)
  | validator (table : Table)
  deriving DecidableEq, Repr

namespace Draft

/-- The schema name of what is declared. -/
def schemaName : Draft → String
  | enum type => type.name
  | interface table _ | typeObject table | validator table => table.name

/-- The name of the kind of draft in log lines. -/
def builder : Draft → String
  | enum _ => "EnumBuilder"
  | interface .. => "TableBuilder"
  | typeObject _ => "TypeObjectBuilder"
  | validator _ => "ZodSchemaBuilder"

/-- The declared name. -/
def declaredName (scope : Scope) : Draft → String
  | enum type => Declaration.declaredName scope.names type.name
  | interface table variant => interfaceName scope table variant
  | typeObject table => typeObjectName scope table
  | validator table => validatorName scope table

/-- Build the declaration. -/
def build (scope : Scope) : Draft → Except UnknownType Syntax.Statement
  | enum type => .ok (enumType scope type)
  | interface table variant => Declaration.interface scope table variant
  | typeObject table => Declaration.typeObject scope table
  | validator table => Declaration.validator scope table

end Draft

/-- A builder as messages show it. -/
def builderLabel (builder schemaName : String) : String :=
  builder ++ "(" ++ Text.literal schemaName ++ ")"

end TableTypes.Declaration
