import TableTypes.Text.Quoted
import TableTypes.Value.Text

/-!
# Values as JSON

A value on one line of printable ASCII. Items and fields are separated by a comma and a space, a
field name by a colon and a space, and fields keep their order. Values that JSON does not have
are written as the plain text they stand for.
-/

namespace TableTypes.Json

/-- The name under which an entry of a map is written. -/
def keyText : Value → String
  | .null => "null"
  | .bool b => if b then "true" else "false"
  | key => key.plain

mutual

/-- A value on one line. -/
def render : Value → String
  | .null => "null"
  | .bool true => "true"
  | .bool false => "false"
  | .int n => toString n
  | .float x => floatText x ⟨"Infinity", "NaN"⟩
  | .text s => Text.quote s
  | .list items => "[" ++ ", ".intercalate (renderItems items) ++ "]"
  | .tuple items => "[" ++ ", ".intercalate (renderItems items) ++ "]"
  | .map entries => "\x7b" ++ ", ".intercalate (renderEntries entries) ++ "\x7d"
  | .style s => Text.quote s.name
  | v => Text.quote v.plain

/-- The items of a list, each on one line. -/
def renderItems : List Value → List String
  | [] => []
  | item :: rest => render item :: renderItems rest

/-- The entries of a map, each on one line. -/
def renderEntries : List (Value × Value) → List String
  | [] => []
  | (key, v) :: rest => (Text.quote (keyText key) ++ ": " ++ render v) :: renderEntries rest

end

end TableTypes.Json
