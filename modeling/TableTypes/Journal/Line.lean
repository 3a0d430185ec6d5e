import TableTypes.Journal.Entry
import TableTypes.Json.Render

/-!
# Log lines

An entry is written in one of two formats. The human format is a line for a terminal that shows
the phase, the entity and the builder; the structured format is one JSON object.
-/

namespace TableTypes.Journal

/-- The place in the program that an entry names as its origin. -/
structure Origin where
  file : String
  line : Nat
  function : String

/-- How entries are written. -/
inductive Format where
  | human
  | structured (includeContext : Bool)
  deriving DecidableEq, Repr

/-- The name of a logger; the logger without a name is the root. -/
def loggerName (name : String) : String :=
  if name = "" then "root" else name

/-- Date and time as the human format shows them. -/
def humanTime (now : Moment) : String :=
  toString now.date.year ++ "-" ++ padded 2 now.date.month ++ "-" ++ padded 2 now.date.day ++ " " ++
    now.clock

/-- Date and time as the structured format shows them, in universal time. -/
def structuredTime (now : Moment) : String :=
  { now with offset := none }.toText "T" ++ "Z"

/-- A text filled up with spaces on its right. -/
def padRight (width : Nat) (s : String) : String :=
  s ++ String.ofList (List.replicate (width - s.length) ' ')

/-- The position as the human format shows it. -/
def humanContext (context : Context) : String :=
  let parts := [("phase", context.phase), ("entity", context.entity), ("builder", context.builder)]
    |>.filter (fun part => part.2.truthy)
    |>.map fun part => part.1 ++ "=" ++ part.2.plain
  if parts.isEmpty then "" else " [" ++ ", ".intercalate parts ++ "]"

/-- What the caller added as the human format shows it; the component is left out. -/
def humanData (data : List (String × Value)) : String :=
  let shown := data.filter fun field => field.1 ≠ "component"
  if shown.isEmpty then "" else " " ++ (Value.ofFields shown).literal

/-- An entry in the human format. -/
def humanLine (now : Moment) (entry : Entry) : String :=
  humanTime now ++ " " ++ padRight 8 (Level.name entry.level) ++ " " ++ loggerName entry.logger ++
    humanContext entry.context ++ ": " ++ entry.message ++ humanData entry.data ++
    (match entry.exception with
      | some text => "\n" ++ text
      | none => "")

/-- A field that is only there if the value is. -/
def optionalField (name : String) (fields : List (String × Value)) : List (String × Value) :=
  if fields.isEmpty then [] else [(name, .ofFields fields)]

/-- An entry as the object that the structured format writes. -/
def structuredFields (includeContext : Bool) (now : Moment) (origin : Origin) (entry : Entry) :
    List (String × Value) :=
  [("timestamp", .text (structuredTime now)), ("level", .text (Level.name entry.level)),
    ("logger", .text (loggerName entry.logger)), ("message", .text entry.message)] ++
  (if includeContext then optionalField "context" entry.context.toFields else []) ++
  optionalField "data" entry.data ++
  (match entry.exception with
    | some text => [("exception", Value.text text)]
    | none => []) ++
  [("source", .ofFields [("file", .text origin.file), ("line", .int origin.line),
    ("function", .text origin.function)])]

/-- An entry in the structured format. -/
def structuredLine (includeContext : Bool) (now : Moment) (origin : Origin) (entry : Entry) :
    String :=
  Json.render (.ofFields (structuredFields includeContext now origin entry))

/-- An entry as a line without its end. -/
def Format.line (format : Format) (now : Moment) (origin : Origin) (entry : Entry) : String :=
  match format with
  | human => humanLine now entry
  | structured includeContext => structuredLine includeContext now origin entry

end TableTypes.Journal
