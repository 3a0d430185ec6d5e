import TableTypes.Text.LowerCase
import TableTypes.Yaml.Binary
import TableTypes.Yaml.Nesting
import TableTypes.Yaml.Node

/-!
# Values of a YAML document

The value that a text denotes. Entries under the merge key are laid under those of their map, and
a key that comes again takes the last value. Of several faults the one nearest to the root
counts, and of equally near ones the first.
-/

namespace TableTypes.Yaml

/-! ## Merged entries -/

/-- An entry that denotes nothing. -/
def badEntry : Node × Node :=
  (.scalar .foreign "", .empty)

/-- The entries of a map; any other node has none that can be merged. -/
def Node.entries? : Node → Option (List (Node × Node))
  | .map _ entries => some entries
  | .again true => some []
  | _ => none

/-- The entries that a merge key lays under its map: those of a map, or of several in a list,
where the first map has the last word. -/
def mergedEntries (v : Node) : List (Node × Node) :=
  match v.entries?, v with
  | some entries, _ => entries
  | none, .list _ items => match items.mapM Node.entries? with
    | some merged => merged.reverse.flatten
    | none => [badEntry]
  | none, _ => [badEntry]

/-- The key asks for a merge. -/
def Node.isMergeKey : Node → Bool
  | .scalar .merge _ => true
  | _ => false

mutual

/-- A node without merge keys. -/
def Node.spread : Node → Node
  | .map tag entries =>
    .map tag (spreadMerged entries ++ spreadOwn entries)
  | .list tag items => .list tag (spreadItems items)
  | n => n

/-- Items without merge keys. -/
def spreadItems : List Node → List Node
  | [] => []
  | item :: rest => item.spread :: spreadItems rest

/-- What the merge keys among the entries bring in. -/
def spreadMerged : List (Node × Node) → List (Node × Node)
  | [] => []
  | (key, v) :: rest =>
    (if key.isMergeKey then mergedEntries v.spread else []) ++ spreadMerged rest

/-- The entries with other keys. -/
def spreadOwn : List (Node × Node) → List (Node × Node)
  | [] => []
  | (key, v) :: rest =>
    if key.isMergeKey then spreadOwn rest else (key.spread, v.spread) :: spreadOwn rest

end

/-! ## Values -/

/-- A fault and its distance from the root. -/
structure Placed where
  level : Nat
  fault : Fault

/-- A value, or the fault that counts. -/
abbrev Found := Except Placed

namespace Found

/-- Two parts in their order. -/
def both {α β γ : Type} (join : α → β → γ) : Found α → Found β → Found γ
  | .ok a, .ok b => .ok (join a b)
  | .error first, .ok _ => .error first
  | .ok _, .error second => .error second
  | .error first, .error second =>
    if second.level < first.level then .error second else .error first

/-- A fault at a level. -/
def at_ {α : Type} (level : Nat) (checked : Except Fault α) : Found α :=
  checked.mapError (⟨level, ·⟩)

/-- No value at a level. -/
def none_ {α : Type} (level : Nat) : Found α :=
  .error ⟨level, .malformed⟩

end Found

/-- The truth value that a word denotes. -/
def flagOf (text : String) : Except Fault Bool :=
  let word := Text.lower text
  if ["yes", "true", "on"].contains word then .ok true
  else if ["no", "false", "off"].contains word then .ok false
  else .error (.noFlag word)

/-- The value of a scalar. -/
def scalarValue (tag : Tag) (text : String) : Except Fault Value :=
  match tag with
  | .null => .ok .null
  | .bool => (flagOf text).map .bool
  | .int => (integerOf text).map .int
  | .float => (floatOf text).map .float
  | .str => .ok (.text text)
  | .timestamp => timestampOf text
  | .binary => match bytesOf? text with
    | some bytes => .ok (.bytes bytes)
    | none => .error .malformed
  | _ => .error .malformed

/-- The text of the scalar that a map stands for: the value of its key `=`. -/
def standsFor? : List (Node × Node) → Option String
  | [] => none
  | (.scalar .value _, .scalar _ text) :: _ => some text
  | (.scalar .value _, _) :: _ => none
  | _ :: rest => standsFor? rest

/-- The value of a key. The key `=` is a text here. -/
def keyValue : Node → Except Fault Value
  | .scalar .value text => .ok (.text text)
  | .scalar tag text => scalarValue tag text
  | .map tag entries => match tag, standsFor? entries with
    | .map, _ | .set, _ | _, none => .error .malformed
    | tag, some text => scalarValue tag text
  | _ => .error .malformed

mutual

/-- The value of a node without merge keys, met at a level. -/
def Node.value (level : Nat) : Node → Found Value
  | .scalar tag text => Found.at_ level (scalarValue tag text)
  | .again isMap => .ok (.again isMap)
  | .list tag items =>
    match tag with
    | .seq => (itemValues (level + 1) items).map .list
    | .omap | .pairs => (pairValues (level + 1) items).map .list
    | _ => Found.none_ level
  | .map tag entries =>
    match tag with
    | .map => (entryValues (level + 1) entries).map fun entries =>
        .map (entries.foldl (fun before entry => Value.put entry.1 entry.2 before) [])
    | .set => (entryValues (level + 1) entries).map fun entries =>
        .set ((entries.foldl (fun before entry => Value.put entry.1 entry.2 before) []).map (·.1))
    | tag => match standsFor? entries with
      | some text => Found.at_ level (scalarValue tag text)
      | none => Found.none_ level

/-- The values of items. -/
def itemValues (level : Nat) : List Node → Found (List Value)
  | [] => .ok []
  | item :: rest => Found.both List.cons (item.value level) (itemValues level rest)

/-- The values of maps of one entry each, as pairs. -/
def pairValues (level : Nat) : List Node → Found (List Value)
  | [] => .ok []
  | .map _ [(key, v)] :: rest =>
    Found.both List.cons
      (Found.both (fun key v => .tuple [key, v]) (key.value level) (v.value level))
      (pairValues level rest)
  | _ :: _ => Found.none_ level

/-- The values of entries. -/
def entryValues (level : Nat) : List (Node × Node) → Found (List (Value × Value))
  | [] => .ok []
  | (key, v) :: rest =>
    Found.both List.cons
      (Found.both Prod.mk (Found.at_ level (keyValue key)) (v.value level))
      (entryValues level rest)

end

/-- A text with one line feed for each end of a line. -/
def unifyLines : List Char → List Char
  | [] => []
  | '\r' :: '\n' :: rest => '\n' :: unifyLines rest
  | '\r' :: rest => '\n' :: unifyLines rest
  | c :: rest => c :: unifyLines rest

/-- The value that a text denotes; a text without a document denotes null. -/
def read (text : String) : Except Fault Value := do
  let ls ← lexemes (unifyLines text.toList)
  match ← Node.ofLexemes? ls with
  | some node => (node.spread.value 0).mapError (·.fault)
  | none => return .null

end TableTypes.Yaml
