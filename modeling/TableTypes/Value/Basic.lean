import TableTypes.Casing.Style

/-!
# Values

The values that reach the library from outside: settings out of a file, an environment or a
caller, fields of query rows, and what a caller adds to a log line. A map keeps the order in
which its keys were first given.
-/

namespace TableTypes

/-- A day of the calendar. -/
structure Date where
  year : Nat
  month : Nat
  day : Nat
  deriving DecidableEq, Repr

/-- A time of day on a date; `offset` is its distance from universal time in seconds, if known. -/
structure Moment where
  date : Date
  hour : Nat
  minute : Nat
  second : Nat
  microsecond : Nat
  offset : Option Int
  deriving DecidableEq, Repr

/-- A value of a kind that is only known when it is met. -/
inductive Value where
  | null
  | bool (b : Bool)
  | int (n : Int)
  | float (x : Float)
  | text (s : String)
  | list (items : List Value)
  | map (entries : List (Value × Value))
  | tuple (items : List Value)
  | set (items : List Value)
  | date (d : Date)
  | moment (m : Moment)
  | bytes (b : List UInt8)
  | style (s : Casing.Style)
  /-- A list or a map that is met again inside itself. -/
  | again (isMap : Bool)
  deriving Inhabited

namespace Value

/-- The kind of a value as messages name it. -/
def kind : Value → String
  | null => "NoneType"
  | bool _ => "bool"
  | int _ => "int"
  | float _ => "float"
  | text _ => "str"
  | list _ => "list"
  | map _ => "dict"
  | tuple _ => "tuple"
  | set _ => "set"
  | date _ => "date"
  | moment _ => "datetime"
  | bytes _ => "bytes"
  | style _ => "CaseStyle"
  | again true => "dict"
  | again false => "list"

/-- Whether a value counts as given: nothing, zero and whatever is empty do not. -/
def truthy : Value → Bool
  | null => false
  | bool b => b
  | int n => n ≠ 0
  | float x => x != 0
  | text s => s ≠ ""
  | list items | tuple items | set items => !items.isEmpty
  | map entries => !entries.isEmpty
  | bytes b => !b.isEmpty
  | date _ | moment _ | style _ | again _ => true

/-- The text in a value that is a text. -/
def text? : Value → Option String
  | text s => some s
  | _ => none

/-- The entries of a map whose keys are texts; other keys are left out. -/
def textEntries : List (Value × Value) → List (String × Value)
  | [] => []
  | (text key, v) :: rest => (key, v) :: textEntries rest
  | _ :: rest => textEntries rest

/-- The fields of a map; any other value has none. -/
def fields : Value → List (String × Value)
  | map entries => textEntries entries
  | _ => []

/-- The field of a map by its name. -/
def field? (v : Value) (name : String) : Option Value :=
  v.fields.lookup name

/-- A map of named fields. -/
def ofFields (fields : List (String × Value)) : Value :=
  map (fields.map fun (key, v) => (text key, v))

/-- The number that a truth value or a number stands for when keys are compared. -/
def number? : Value → Option Float
  | bool b => some (if b then 1 else 0)
  | int n => some (Float.ofInt n)
  | float x => some x
  | _ => none

/-- The whole number that a truth value or an integer stands for. -/
def integer? : Value → Option Int
  | bool b => some (if b then 1 else 0)
  | int n => some n
  | _ => none

/-- Two values are the same key of a map. Numbers are compared by value, whatever their kind. -/
def sameKey : Value → Value → Bool
  | null, null => true
  | text a, text b => a = b
  | date a, date b => a = b
  | moment a, moment b => a = b
  | bytes a, bytes b => a = b
  | style a, style b => a = b
  | tuple as, tuple bs => sameKeys as bs
  | a, b =>
    match a.integer?, b.integer? with
    | some m, some n => m = n
    | _, _ =>
      match a.number?, b.number? with
      | some x, some y => x == y
      | _, _ => false
where
  /-- Two rows of values are the same keys one by one. -/
  sameKeys : List Value → List Value → Bool
    | [], [] => true
    | a :: as, b :: bs => sameKey a b && sameKeys as bs
    | _, _ => false

/-- Enter a key: a key that is there already keeps its place and takes the new value. -/
def put (key v : Value) : List (Value × Value) → List (Value × Value)
  | [] => [(key, v)]
  | (k, old) :: rest => if sameKey k key then (k, v) :: rest else (k, old) :: put key v rest

/-- The first part of a value that keeps it from being a key of a map. -/
def notKey? : Value → Option Value
  | tuple items => items.attach.findSome? fun ⟨item, _⟩ => notKey? item
  | v@(list _) | v@(map _) | v@(set _) | v@(again _) => some v
  | _ => none

/-- The value can be a key of a map. -/
def isKey (v : Value) : Bool :=
  v.notKey?.isNone

end Value

/-- Set a named field: a name that is there already keeps its place and takes the new value. -/
def setField {α : Type} (name : String) (v : α) : List (String × α) → List (String × α)
  | [] => [(name, v)]
  | (key, old) :: rest =>
    if key = name then (key, v) :: rest else (key, old) :: setField name v rest

end TableTypes
