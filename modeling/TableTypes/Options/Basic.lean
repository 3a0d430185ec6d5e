import TableTypes.Casing.Choice
import TableTypes.Generation.Plan
import TableTypes.Value.Text

/-!
# Generator options

Five switches say what is generated and three styles say how it is named. Options are set by
named values over a base. Switches keep the value they were given and are read by whether it
counts as given; styles are chosen at once, so that options never hold a style that is none.
-/

namespace TableTypes

/-- The options of a generator. -/
structure Options where
  genEnums : Value := .bool true
  genInsertTypes : Value := .bool true
  genTables : Value := .bool true
  genTypeObjects : Value := .bool true
  genSchemaObjects : Value := .bool true
  transformColumns : Casing.Style := .none
  transformEnumMembers : Casing.Style := .pascal
  transformTypeNames : Casing.Style := .pascal
  deriving Inhabited

/-- Why options are refused. -/
inductive OptionsRefusal where
  /-- An option for a style is given by a text that no style has for its name. -/
  | unknownStyle (option given : String)
  /-- A switch is given by a value that is neither on nor off. -/
  | unclearSwitch (literal : String)
  /-- Settings have names that no option has. -/
  | unknownKeys (keys : List String)
  /-- A setting is named by a value of this kind, which cannot be listed among texts. -/
  | unlistable (index : Nat) (kind : String)
  /-- Settings are named by values that have no common order. -/
  | unordered (later earlier : String)
  /-- There is no such option. -/
  | unexpected (option : String)
  /-- The name is taken by the options that are built or changed. -/
  | repeated (whileChanging : Bool)
  deriving DecidableEq, Repr

namespace OptionsRefusal

/-- The text that explains the refusal. -/
def message : OptionsRefusal → String
  | unknownStyle option given =>
    option ++ ": unknown case transformation '" ++ given ++ "'. Expected one of: " ++
      ", ".intercalate (Casing.Style.all.map Casing.Style.name)
  | unclearSwitch literal => "Invalid boolean value: " ++ literal
  | unknownKeys keys => "Unknown configuration keys: " ++ ", ".intercalate keys
  | unlistable index kind =>
    "sequence item " ++ toString index ++ ": expected str instance, " ++ kind ++ " found"
  | unordered later earlier =>
    "'<' not supported between instances of '" ++ later ++ "' and '" ++ earlier ++ "'"
  | unexpected option => "GeneratorOptions.__init__() got an unexpected keyword argument '" ++
    option ++ "'"
  | repeated whileChanging =>
    "GeneratorOptions." ++ (if whileChanging then "with_overrides" else "__init__") ++
      "() got multiple values for argument 'self'"

/-- The settings are wrong, rather than the way in which they were passed. -/
def isConfiguration : OptionsRefusal → Bool
  | unknownStyle .. | unclearSwitch _ | unknownKeys _ => true
  | _ => false

end OptionsRefusal

namespace Options

/-- The names of the switches, in their order. -/
def switchNames : List String :=
  ["gen_enums", "gen_insert_types", "gen_tables", "gen_type_objects", "gen_schema_objects"]

/-- The names of the options for styles, in their order. -/
def styleNames : List String :=
  ["transform_columns", "transform_enum_members", "transform_type_names"]

/-- The names of all options, in their order. -/
def names : List String :=
  switchNames ++ styleNames

/-- The style that a value gives: itself, or the one whose name is the value's text. -/
def styleOf? : Value → Option Casing.Style
  | .style s => some s
  | v => Casing.Style.find? v.plain

/-- A style by its option, or the one of the base. -/
def styleField (fields : List (String × Value)) (option : String) (base : Casing.Style) :
    Except OptionsRefusal Casing.Style :=
  match fields.lookup option with
  | none => .ok base
  | some v => match styleOf? v with
    | some style => .ok style
    | none => .error (.unknownStyle option v.plain)

/-- Set options over a base. -/
def set (base : Options) (fields : List (String × Value)) : Except OptionsRefusal Options := do
  let columns ← styleField fields "transform_columns" base.transformColumns
  let enumMembers ← styleField fields "transform_enum_members" base.transformEnumMembers
  let typeNames ← styleField fields "transform_type_names" base.transformTypeNames
  let switch (option : String) (base : Value) : Value := (fields.lookup option).getD base
  return {
    genEnums := switch "gen_enums" base.genEnums
    genInsertTypes := switch "gen_insert_types" base.genInsertTypes
    genTables := switch "gen_tables" base.genTables
    genTypeObjects := switch "gen_type_objects" base.genTypeObjects
    genSchemaObjects := switch "gen_schema_objects" base.genSchemaObjects
    transformColumns := columns
    transformEnumMembers := enumMembers
    transformTypeNames := typeNames }

/-- Refuse the first name that is no option. -/
def checkNames (fields : List (String × Value)) : Except OptionsRefusal Unit :=
  match fields.find? fun field => !names.contains field.1 with
  | some ("self", _) => .error (.repeated false)
  | some (option, _) => .error (.unexpected option)
  | none => .ok ()

/-- Options by name; what is not given has its default. -/
def ofFields (fields : List (String × Value)) : Except OptionsRefusal Options := do
  checkNames fields
  set {} fields

/-- Options changed by name; a null changes nothing. -/
def override (base : Options) (fields : List (String × Value)) :
    Except OptionsRefusal Options := do
  if fields.any fun field => field.1 = "self" then throw (.repeated true)
  let given := fields.filter fun field => match field.2 with
    | .null => false
    | _ => true
  checkNames given
  set base given

/-- All options with their names, in their order. -/
def toFields (options : Options) : List (String × Value) :=
  [("gen_enums", options.genEnums), ("gen_insert_types", options.genInsertTypes),
    ("gen_tables", options.genTables), ("gen_type_objects", options.genTypeObjects),
    ("gen_schema_objects", options.genSchemaObjects),
    ("transform_columns", .text options.transformColumns.name),
    ("transform_enum_members", .text options.transformEnumMembers.name),
    ("transform_type_names", .text options.transformTypeNames.name)]

/-- The styles of the three kinds of names. -/
def transformations (options : Options) : Casing.Transformations :=
  ⟨options.transformColumns, options.transformEnumMembers, options.transformTypeNames⟩

/-- The plan of a run with these options. -/
def plan (options : Options) (layout : Syntax.Layout) : Generation.Plan where
  enums := options.genEnums.truthy
  insertTypes := options.genInsertTypes.truthy
  tables := options.genTables.truthy
  typeObjects := options.genTypeObjects.truthy
  validators := options.genSchemaObjects.truthy
  names := options.transformations
  layout := layout

end Options

end TableTypes
