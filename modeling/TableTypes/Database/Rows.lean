import TableTypes.Generation.Source

/-!
# Query rows

The answers to the catalog queries are rows of named values. Rows of columns come for all tables
of a schema together and are gathered in one pass under the names of their tables; each table then
takes what stands under its name. The values of a row are looked up one after another, so the first
that is missing decides the failure; after that the row's record is checked as a whole.
-/

namespace TableTypes.Database

open Generation (SourceFailure)

/-- A value of a row. -/
def lookUp (row : Value) (name : String) : Except SourceFailure Value :=
  match row.field? name with
  | some v => .ok v
  | none => .error (.missingField name)

/-- A record, with its faults as a failure. -/
def checkedAs {α : Type} (record : String) (checked : Checked α) : Except SourceFailure α :=
  checked.mapError (.invalid record)

/-- The labels in a value: the items of a list, the characters of a text or the keys of a map. -/
def labelsOf : Value → Except SourceFailure (List Value)
  | .list items | .tuple items | .set items => .ok items
  | .text s => .ok (s.toList.map fun c => .text (String.singleton c))
  | .map entries => .ok (entries.map (·.1))
  | v => .error (.notList v.kind)

/-- The enumerated type in a row. -/
def enumOfRow (row : Value) : Except SourceFailure EnumType := do
  let name ← lookUp row "name"
  let labels ← labelsOf (← lookUp row "labels")
  checkedAs EnumType.recordName (EnumType.ofFields [("name", name), ("values", .list labels)])

/-- A value by which rows are told apart. -/
def keyOf (v : Value) : Except SourceFailure Value :=
  match v.notKey? with
  | none => .ok v
  | some part => .error (.notKey part.kind)

/-- A column and the name of its table. -/
structure OwnedColumn where
  owner : Value
  column : Column

/-- The column in a row. -/
def columnOfRow (row : Value) : Except SourceFailure OwnedColumn := do
  let owner ← keyOf (← lookUp row "table_name")
  let name ← lookUp row "name"
  let type ← lookUp row "type"
  let nullable ← lookUp row "nullable"
  let hasDefault ← lookUp row "has_default"
  let isArray ← lookUp row "is_array"
  let ordinal ← lookUp row "ordinal"
  let column ← checkedAs Column.recordName (Column.ofFields
    [("name", name), ("type", type), ("nullable", nullable), ("has_default", hasDefault),
      ("is_array", isArray), ("order", ordinal)])
  return ⟨owner, column⟩

/-- Columns under the names of their tables. -/
abbrev Gathered := List (Value × List Column)

/-- Put a column behind the others of its table, or under a new name. -/
def Gathered.add (c : OwnedColumn) : Gathered → Gathered
  | [] => [(c.owner, [c.column])]
  | (name, columns) :: rest =>
    if name.sameKey c.owner then (name, columns ++ [c.column]) :: rest
    else (name, columns) :: Gathered.add c rest

/-- The columns under a name. There are none under a name that was not met. -/
def Gathered.under (gathered : Gathered) (name : Value) : List Column :=
  match gathered.find? fun entry => entry.1.sameKey name with
  | some (_, columns) => columns
  | none => []

/-- Read the columns in rows one after another and put each to its table. -/
def gather (rows : List Value) : Except SourceFailure Gathered :=
  rows.foldlM (fun gathered row => do return gathered.add (← columnOfRow row)) []

/-- A table out of checked parts; it needs no columns, and its columns are not checked again. -/
def tableOf (name canInsert : Value) (columns : List Column) : Checked Table :=
  (Table.ofFields [("name", name), ("can_insert", canInsert)]).map fun table =>
    { table with columns }

/-- The table in a row, with its columns. -/
def tableOfRow (gathered : Gathered) (row : Value) : Except SourceFailure Table := do
  let name ← lookUp row "name"
  let canInsert ← lookUp row "can_insert"
  let key ← keyOf name
  checkedAs Table.recordName (tableOf name canInsert (gathered.under key))

/-- The enumerated types in rows. -/
def enumsOfRows (rows : List Value) : Except SourceFailure (List EnumType) :=
  rows.mapM enumOfRow

/-- The tables in rows. All columns are read first, also those of tables that have no row. -/
def tablesOfRows (tableRows columnRows : List Value) : Except SourceFailure (List Table) := do
  let gathered ← gather columnRows
  tableRows.mapM (tableOfRow gathered)

end TableTypes.Database
