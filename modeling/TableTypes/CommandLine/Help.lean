import TableTypes.CommandLine.Flag
import TableTypes.Text.Filled

/-!
# Help

The text that explains the program: how it is called, what it does, its flags by section, and
examples. It is laid out for a terminal of eighty columns, of which two stay free. What is said
about a flag stands in a column of its own, on the flag's line where there is room.
-/

namespace TableTypes.CommandLine

/-- The name by which the program is called. -/
def programName : String := "pgtypegen"

/-- The version of the program. -/
def programVersion : String := "0.3.1"

/-- The line that tells the version. -/
def versionText : String := programName ++ " " ++ programVersion ++ "\n"

/-- The columns that help uses. -/
def helpWidth : Nat := 78

/-- The column at which explanations start. -/
def noteColumn : Nat := 24

namespace Flag

/-- A flag with what it takes, by one of its spellings. -/
def withPlaceholder (flag : Flag) (spelling : String) : String :=
  match flag.placeholder? with
  | some placeholder => spelling ++ " " ++ placeholder
  | none => spelling

/-- A flag as the line on usage shows it. -/
def usage (flag : Flag) : String :=
  "[" ++ flag.withPlaceholder (flag.spellings.headD "") ++ "]"

/-- The lines that explain a flag. -/
def helpLines (flag : Flag) : List String :=
  let head := "  " ++ ", ".intercalate (flag.spellings.map flag.withPlaceholder)
  match (flag.note?.map (Text.filled (helpWidth - noteColumn))).getD [] with
  | [] => [head]
  | first :: rest =>
    let indented := Text.space noteColumn
    (if head.length + 2 ≤ noteColumn then
      [head ++ Text.space (noteColumn - head.length) ++ first]
    else [head, indented ++ first]) ++ rest.map (indented ++ ·)

end Flag

/-- How the program is called. Flags that do not fit on the first line stand below its first
flag. -/
def usageLines : List String :=
  let start := "usage: " ++ programName
  let lines := Text.fillFrom helpWidth (start.length + 1) start.length [start]
    (Flag.all.map Flag.usage)
  lines.mapIdx fun n pieces =>
    (if n = 0 then "" else Text.space (start.length + 1)) ++ " ".intercalate pieces

/-- What the program does. -/
def description : String := "Generate TypeScript types from a PostgreSQL schema"

/-- Examples, and the variables that the program reads. -/
def closingLines : List String :=
  ["Examples:",
    "  python scripts/generate_types.py                         # Print to stdout",
    "  python scripts/generate_types.py -o types.ts             # Write to file",
    "  python scripts/generate_types.py --transform-columns camel --no-type-objects",
    "",
    "Environment Variables:",
    "  DATABASE_URL          Full PostgreSQL connection string",
    "  POSTGRES_HOST         Database host (default: localhost)",
    "  POSTGRES_DB           Database name (default: postgres)",
    "  POSTGRES_USER         Database user (default: postgres)",
    "  POSTGRES_PASSWORD     Database password",
    "  POSTGRES_PORT         Database port (default: 5432)",
    "  PGTYPEGEN_*           Any generator option, e.g. PGTYPEGEN_GEN_ENUMS=false",
    "        "]

/-- The lines of a section. -/
def Section.lines (group : Section) : List String :=
  (group.title ++ ":") :: (Flag.all.filter (·.group = group)).flatMap Flag.helpLines

/-- The text that explains the program. -/
def helpText : String :=
  let blocks := [usageLines, [description], Section.options.lines, Section.generation.lines,
    Section.naming.lines, closingLines]
  "\n\n".intercalate (blocks.map ("\n".intercalate ·)) ++ "\n"

end TableTypes.CommandLine
