import TableTypes.Casing.Style

/-!
# Flags

The options of the command line: how they are spelled, what they take, and what is said about
them. The order of the flags is the one in which they are listed.
-/

namespace TableTypes.CommandLine

/-- A kind of declaration that can be left out. -/
inductive Part where
  | enums
  | insertTypes
  | tables
  | typeObjects
  | schemaObjects
  deriving DecidableEq, Repr

namespace Part

/-- Every kind of declaration, in order. -/
def all : List Part := [enums, insertTypes, tables, typeObjects, schemaObjects]

/-- The option that switches the declarations on and off. -/
def option : Part → String
  | enums => "gen_enums"
  | insertTypes => "gen_insert_types"
  | tables => "gen_tables"
  | typeObjects => "gen_type_objects"
  | schemaObjects => "gen_schema_objects"

end Part

/-- A kind of name that is given a style. -/
inductive Named where
  | columns
  | enumMembers
  | typeNames
  deriving DecidableEq, Repr

namespace Named

/-- Every kind of name, in order. -/
def all : List Named := [columns, enumMembers, typeNames]

/-- The option that gives the names a style. -/
def option : Named → String
  | columns => "transform_columns"
  | enumMembers => "transform_enum_members"
  | typeNames => "transform_type_names"

end Named

/-- An option of the command line. -/
inductive Flag where
  | help
  | version
  | connection
  | schema
  | config
  | output
  /-- Leave out a kind of declaration. -/
  | leaveOut (part : Part)
  /-- Choose the style of a kind of name. -/
  | style (named : Named)
  | verbose
  | jsonLogs
  deriving DecidableEq, Repr

/-- The headings under which flags are explained. -/
inductive Section where
  | options
  | generation
  | naming
  deriving DecidableEq, Repr

/-- What stands over the flags of a section. -/
def Section.title : Section → String
  | options => "options"
  | generation => "generation"
  | naming => "naming"

namespace Flag

/-- Every flag, in order. -/
def all : List Flag :=
  [help, version, connection, schema, config, output] ++ Part.all.map leaveOut ++
    Named.all.map style ++ [verbose, jsonLogs]

/-- An option's name as a long flag. -/
def dashed (option : String) : String :=
  "--" ++ String.ofList (option.toList.map fun c => if c = '_' then '-' else c)

/-- The spellings of a flag. -/
def spellings : Flag → List String
  | help => ["-h", "--help"]
  | version => ["--version"]
  | connection => ["--connection"]
  | schema => ["--schema"]
  | config => ["--config"]
  | output => ["--output", "-o"]
  | leaveOut .enums => ["--no-enums"]
  | leaveOut .insertTypes => ["--no-insert-types"]
  | leaveOut .tables => ["--no-tables"]
  | leaveOut .typeObjects => ["--no-type-objects"]
  | leaveOut .schemaObjects => ["--no-schema-objects"]
  | style named => [dashed named.option]
  | verbose => ["--verbose", "-v"]
  | jsonLogs => ["--json-logs"]

/-- The names of the styles in alphabetical order. -/
def styleNames : List String :=
  (Casing.Style.all.map Casing.Style.name).mergeSort (· ≤ ·)

/-- What stands for the text that a flag takes, if it takes one. -/
def placeholder? : Flag → Option String
  | connection => some "CONNECTION"
  | schema => some "SCHEMA"
  | config => some "CONFIG"
  | output => some "OUTPUT"
  | style _ => some ("\x7b" ++ ",".intercalate styleNames ++ "\x7d")
  | help | version | leaveOut _ | verbose | jsonLogs => none

/-- The flag takes a text. -/
def takesText (flag : Flag) : Bool :=
  flag.placeholder?.isSome

/-- The section in which a flag is explained. -/
def group : Flag → Section
  | leaveOut _ => .generation
  | style _ => .naming
  | _ => .options

/-- What is said about a flag. Some explain themselves. -/
def note? : Flag → Option String
  | help => some "show this help message and exit"
  | version => some "show program's version number and exit"
  | connection => some "PostgreSQL connection string (overrides environment)"
  | schema => some "PostgreSQL schema to introspect (default: public)"
  | config => some "YAML file with generator options (environment is used when omitted)"
  | output => some "Output file (default: stdout)"
  | leaveOut _ | style _ => none
  | verbose => some "Enable verbose logging"
  | jsonLogs => some "Emit logs as JSON"

/-- A flag as complaints name it. -/
def label (flag : Flag) : String :=
  "/".intercalate flag.spellings

/-- Every spelling with its flag, in order. -/
def spelled : List (String × Flag) :=
  all.flatMap fun flag => flag.spellings.map fun spelling => (spelling, flag)

/-- The flag with exactly this spelling. -/
def ofSpelling? (text : String) : Option Flag :=
  spelled.lookup text

/-- The spellings that begin with a text, with their flags. -/
def completions (start : String) : List (String × Flag) :=
  spelled.filter fun s => start.toList.isPrefixOf s.1.toList

end Flag

end TableTypes.CommandLine
