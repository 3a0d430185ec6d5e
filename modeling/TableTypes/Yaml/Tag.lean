import TableTypes.Yaml.Number
import TableTypes.Yaml.Timestamp

/-!
# Tags

A tag says what a node is. A plain scalar without a tag gets one by its form.
-/

namespace TableTypes.Yaml

/-- What a node is. -/
inductive Tag where
  | null
  | bool
  | int
  | float
  | binary
  | timestamp
  | str
  | seq
  | map
  /-- A list of single entries. -/
  | omap
  | pairs
  | set
  /-- The key whose value is laid under the other entries of its map. -/
  | merge
  /-- The key for the scalar that a map stands for. -/
  | value
  /-- Something that is no plain value. -/
  | foreign
  deriving DecidableEq, Repr

namespace Tag

/-- What the names of all tags begin with. -/
def stem : String := "tag:yaml.org,2002:"

/-- The tags by the ends of their names. -/
def byName : List (String × Tag) :=
  [("null", null), ("bool", bool), ("int", int), ("float", float), ("binary", binary),
    ("timestamp", timestamp), ("str", str), ("seq", seq), ("map", map), ("omap", omap),
    ("pairs", pairs), ("set", set), ("merge", merge), ("value", value)]

/-- The tag with a full name. -/
def ofName (name : String) : Tag :=
  match byName.find? fun entry => stem ++ entry.1 = name with
  | some (_, tag) => tag
  | none => foreign

/-- The words for truth values. -/
def flagWords : List String :=
  ["yes", "Yes", "YES", "no", "No", "NO", "true", "True", "TRUE", "false", "False", "FALSE",
    "on", "On", "ON", "off", "Off", "OFF"]

/-- The words for nothing. -/
def nullWords : List String :=
  ["", "~", "null", "Null", "NULL"]

/-- The tag of a scalar by its form. -/
def ofForm (s : String) : Tag :=
  if flagWords.contains s then bool
  else if isFloat s.toList then float
  else if isInteger s.toList then int
  else if s = "<<" then merge
  else if nullWords.contains s then null
  else if isTimestamp s.toList then timestamp
  else if s = "=" then value
  else str

/-- The tag of a plain scalar. One line break at the end of a text does not count. -/
def ofPlain (s : String) : Tag :=
  match s.toList.getLast? with
  | some '\n' => if s = "\n" then str else ofForm (String.ofList s.toList.dropLast)
  | _ => ofForm s

end Tag

end TableTypes.Yaml
