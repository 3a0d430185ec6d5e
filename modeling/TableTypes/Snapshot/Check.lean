import TableTypes.Snapshot.Basic
import TableTypes.Snapshot.Fault
import TableTypes.Text.Blank
import TableTypes.Value.Basic

/-!
# Checking snapshot fields

A snapshot record is built from named values. Texts are taken as they are, while truth values
and positions are also understood in a few other spellings. All faults of a record are reported
together, in the order in which the record declares its fields.
-/

namespace TableTypes

/-- A text of any length. -/
def checkLabel : Value → Checked String
  | .text s => .ok s
  | _ => Checked.fault .notText

/-- A text that is not empty. -/
def checkName (v : Value) : Checked String := do
  let name ← checkLabel v
  if name = "" then Checked.fault .emptyText else .ok name

/-- The truth value that a word stands for in any letter case. -/
def flagWord? (word : String) : Option Bool :=
  let small := word.map Char.toLower
  if ["1", "on", "t", "true", "y", "yes"].contains small then some true
  else if ["0", "off", "f", "false", "n", "no"].contains small then some false
  else none

/-- The integer in a word-sized range that a whole number stands for. -/
def wholeNumber? (x : Float) : Option Int :=
  if x.floor == x && -0x8000000000000000 < x && x < 0x8000000000000000 then
    some x.toInt64.toInt
  else none

/-- One and zero stand for the truth values. -/
def flagOfInteger (n : Int) : Checked Bool :=
  if n = 0 then .ok false else if n = 1 then .ok true else Checked.fault .unclearFlag

/-- A truth value, also as a word or as one or zero. -/
def checkFlag : Value → Checked Bool
  | .bool b => .ok b
  | .text word => match flagWord? word with
    | some b => .ok b
    | none => Checked.fault .unclearFlag
  | .int n =>
    if -0x8000000000000000 ≤ n ∧ n < 0x8000000000000000 then flagOfInteger n
    else Checked.fault .notFlag
  | .float x => match wholeNumber? x with
    | some n => flagOfInteger n
    | none => Checked.fault .notFlag
  | _ => Checked.fault .notFlag

/-- The number that decimal digits denote; one underscore may stand between two digits. -/
def digitsValue? : List Char → Option Nat
  | [] => none
  | cs =>
    if cs.all (fun c => c.isDigit || c = '_') && cs.head? ≠ some '_' && cs.getLast? ≠ some '_' &&
        (cs.zip (cs.drop 1)).all (· ≠ ('_', '_')) then
      some ((cs.filter Char.isDigit).foldl (fun n c => 10 * n + (c.toNat - 48)) 0)
    else none

/-- The integer that a text denotes: blanks around it, a sign, and a point that only zeros follow
are allowed. -/
def integerText? (s : String) : Option Int :=
  let cs := Text.trimBy Text.isSpace s.toList
  let (negative, cs) := match cs with
    | '+' :: rest => (false, rest)
    | '-' :: rest => (true, rest)
    | rest => (false, rest)
  let whole := cs.takeWhile (· ≠ '.')
  let zeros := (cs.dropWhile (· ≠ '.')).drop 1
  if zeros.all (· = '0') then
    (digitsValue? whole).map fun (n : Nat) => if negative then -(n : Int) else (n : Int)
  else none

/-- An integer, also as a truth value, a whole number or a text. -/
def checkInteger : Value → Checked Int
  | .int n => .ok n
  | .bool b => .ok (if b then 1 else 0)
  | .float x =>
    if x.isNaN || x.isInf then Checked.fault .notFinite
    else if x.floor != x then Checked.fault .fraction
    else match wholeNumber? x with
      | some n => .ok n
      | none => Checked.fault .hugeInteger
  | .text s => match integerText? s with
    | some n => .ok n
    | none => Checked.fault .unclearInteger
  | _ => Checked.fault .notInteger

/-- An integer that is not negative. -/
def checkPosition (v : Value) : Checked Nat := do
  let n ← checkInteger v
  if n < 0 then Checked.fault .negative else .ok n.toNat

/-- The items of a list, each checked; `start` is the index of the first. -/
def checkItems {α : Type} (check : Value → Checked α) (start : Nat) :
    List Value → Checked (List α)
  | [] => .ok []
  | item :: rest =>
    .ok List.cons
      |> Checked.give (Checked.under (.index start) (check item))
      |> Checked.give (checkItems check (start + 1) rest)

/-- A list whose items are all checked. -/
def checkList {α : Type} (check : Value → Checked α) : Value → Checked (List α)
  | .list items | .tuple items => checkItems check 0 items
  | _ => Checked.fault .notList

/-- A field that has to be given. -/
def required {α : Type} (name : String) (check : Value → Checked α)
    (fields : List (String × Value)) : Checked α :=
  Checked.under (.field name) <| match fields.lookup name with
    | some v => check v
    | none => Checked.fault .missing

/-- A field with a value for when it is not given. -/
def optional {α : Type} (name : String) (default : α) (check : Value → Checked α)
    (fields : List (String × Value)) : Checked α :=
  Checked.under (.field name) <| match fields.lookup name with
    | some v => check v
    | none => .ok default

/-- A record of named fields. -/
def checkRecord {α : Type} (name : String) (check : List (String × Value) → Checked α) :
    Value → Checked α
  | .map entries => check (Value.textEntries entries)
  | _ => Checked.fault (.notRecord name)

/-- A column from named values. -/
def Column.ofFields (fields : List (String × Value)) : Checked Column :=
  .ok Column.mk
    |> Checked.give (required "name" checkName fields)
    |> Checked.give (required "type" checkName fields)
    |> Checked.give (optional "nullable" false checkFlag fields)
    |> Checked.give (optional "has_default" false checkFlag fields)
    |> Checked.give (optional "is_array" false checkFlag fields)
    |> Checked.give (optional "order" 0 checkPosition fields)

/-- The name of the kind of record that describes a column. -/
def Column.recordName : String := "ColumnInfo"

/-- A column from a record. -/
def Column.ofValue : Value → Checked Column :=
  checkRecord Column.recordName Column.ofFields

/-- A table from named values. -/
def Table.ofFields (fields : List (String × Value)) : Checked Table :=
  .ok Table.mk
    |> Checked.give (required "name" checkName fields)
    |> Checked.give (optional "can_insert" true checkFlag fields)
    |> Checked.give (optional "columns" [] (checkList Column.ofValue) fields)

/-- The name of the kind of record that describes a table. -/
def Table.recordName : String := "TableInfo"

/-- A table from a record. -/
def Table.ofValue : Value → Checked Table :=
  checkRecord Table.recordName Table.ofFields

/-- An enumerated type from named values. -/
def EnumType.ofFields (fields : List (String × Value)) : Checked EnumType :=
  .ok EnumType.mk
    |> Checked.give (required "name" checkName fields)
    |> Checked.give (optional "values" [] (checkList checkLabel) fields)

/-- The name of the kind of record that describes an enumerated type. -/
def EnumType.recordName : String := "EnumInfo"

/-- An enumerated type from a record. -/
def EnumType.ofValue : Value → Checked EnumType :=
  checkRecord EnumType.recordName EnumType.ofFields

end TableTypes
