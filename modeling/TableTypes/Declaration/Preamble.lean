import TableTypes.Syntax.Node

/-!
# The preamble of a module

Every module starts with a comment, the import that validators need, and the helper types that
other declarations refer to. None of it depends on the schema.
-/

namespace TableTypes.Declaration

open Syntax (TypeNode Statement)

/-- The helper types, whose names no table or enum may take. -/
def helperNames : List String := ["Json", "Nullable"]

/-- What the first line of a module says. -/
def headerComment : String :=
  "This file is generated by pgtypegen. Do not edit by hand."

/-- The type of any JSON document. -/
def jsonAlias : Statement :=
  .typeAlias "Json" []
    (.union [.string, .number, .boolean, .null, .array (.named "Json"),
      .literal [.index "key" .string (.named "Json")]]) true

/-- The type of a value that may be missing. -/
def nullableAlias : Statement :=
  .typeAlias "Nullable" ["T"] (.union [.named "T", .null]) true

/-- The statements in front of all declarations. -/
def preamble (importChecks : Bool) : List Statement :=
  .comment headerComment ::
    (if importChecks then [.importNames ["z"] "zod"] else []) ++ [jsonAlias, nullableAlias]

end TableTypes.Declaration
