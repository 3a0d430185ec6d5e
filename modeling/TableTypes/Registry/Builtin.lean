import TableTypes.Registry.Basic
import TableTypes.Syntax.Tagged.Read

/-!
# Built-in types

The scalar types of the database and the output types of their values. Numbers that do not fit a
double come back from drivers as texts, so 64-bit and arbitrary-precision types are texts here.
-/

namespace TableTypes

namespace BuiltinType

/-- Numbers that fit a double. -/
def number : BuiltinType := .keyword "number"

/-- Texts, and all that is read as a text. -/
def string : BuiltinType := .keyword "string"

/-- Truth values. -/
def boolean : BuiltinType := .keyword "boolean"

/-- Days and moments. -/
def date : BuiltinType := .reference "Date" []

/-- JSON documents. -/
def json : BuiltinType := .reference "Json" []

/-- The type names whose values are read as each output type; the schema's short names and the
long names of the standard both appear. -/
def groups : List (BuiltinType × List String) :=
  [(number, ["int2", "int4", "int", "integer", "smallint", "float4", "float8", "real",
      "double precision", "oid"]),
    (string, ["int8", "bigint", "numeric", "decimal", "money"]),
    (string, ["text", "varchar", "character varying", "bpchar", "char", "character", "name",
      "citext", "uuid", "inet", "cidr", "macaddr", "time", "timetz", "time without time zone",
      "time with time zone", "interval", "bytea", "tsvector", "xml"]),
    (boolean, ["bool", "boolean"]),
    (date, ["date", "timestamp", "timestamptz", "timestamp without time zone",
      "timestamp with time zone"]),
    (json, ["json", "jsonb"])]

/-- The built-in types by schema name. -/
def standard : List (String × BuiltinType) :=
  groups.flatMap fun (type, names) => names.map (·, type)

end BuiltinType

/-- Why a value cannot be a built-in type. -/
inductive BuiltinRefusal where
  /-- A node or value of this kind is neither a keyword nor a named type. -/
  | wrongKind (kind : String)
  /-- The arguments of a named type are no types. -/
  | misplaced (node : Syntax.Misplaced)
  deriving DecidableEq, Repr

/-- The text that explains the refusal. -/
def BuiltinRefusal.message : BuiltinRefusal → String
  | wrongKind kind => "Built-in types must be keywords or references, got " ++ kind
  | misplaced node => node.message

/-- A built-in type from a tagged node. -/
def BuiltinType.ofTagged (v : Value) : Except BuiltinRefusal BuiltinType :=
  if Syntax.kindOf v = "KeywordType" ∨ Syntax.kindOf v = "TypeReference" then
    match Syntax.TypeNode.ofTagged v with
    | .ok (.keyword word) => .ok (.keyword word)
    | .ok (.reference name arguments) => .ok (.reference name arguments)
    | .ok _ => .error (.wrongKind (Syntax.kindOf v))
    | .error node => .error (.misplaced node)
  else .error (.wrongKind (Syntax.kindOf v))

/-- A registry of the standard built-in types. -/
def Registry.standard (reserved : List String := []) : Registry :=
  ⟨BuiltinType.standard, reserved, []⟩

end TableTypes
