import TableTypes.Proofs.Database.Gathering

/-! # What reading the tables comes to

The tables of a schema are read from two answers: the rows of the tables and the rows of all their
columns. Every row of a column is checked, whether its table is listed or not, and the first that is
invalid is reported. Then the rows of the tables are checked, and the first that is invalid is
reported. Otherwise every row of a table is read as a table with exactly the columns whose rows
carry its name, in the order of their rows.

A row of a table is looked up by its name before it is checked. So a name by which nothing can be
looked up, such as a list, is reported as such and not as a fault of the record.
-/

namespace TableTypes.Database

open Generation (SourceFailure)

/-- The cells of a row of a column. -/
structure ColumnCells where
  table : String
  name : Value
  type : Value
  nullable : Value
  hasDefault : Value
  isArray : Value
  ordinal : Value

namespace ColumnCells

/-- The row has the cells under the names that the query gives them, and perhaps others. -/
structure In (cells : ColumnCells) (row : Value) : Prop where
  table : row.field? "table_name" = some (.text cells.table)
  name : row.field? "name" = some cells.name
  type : row.field? "type" = some cells.type
  nullable : row.field? "nullable" = some cells.nullable
  hasDefault : row.field? "has_default" = some cells.hasDefault
  isArray : row.field? "is_array" = some cells.isArray
  ordinal : row.field? "ordinal" = some cells.ordinal

/-- The row of the cells alone. -/
def row (cells : ColumnCells) : Value :=
  .ofFields [("table_name", .text cells.table), ("name", cells.name), ("type", cells.type),
    ("nullable", cells.nullable), ("has_default", cells.hasDefault), ("is_array", cells.isArray),
    ("ordinal", cells.ordinal)]

theorem in_row (cells : ColumnCells) : cells.In cells.row :=
  ⟨rfl, rfl, rfl, rfl, rfl, rfl, rfl⟩

/-- Every cell is valid and gives its own part of the column. -/
structure Gives (cells : ColumnCells) (column : Column) : Prop where
  name : checkName cells.name = .ok column.name
  type : checkName cells.type = .ok column.type
  nullable : checkFlag cells.nullable = .ok column.nullable
  hasDefault : checkFlag cells.hasDefault = .ok column.hasDefault
  isArray : checkFlag cells.isArray = .ok column.isArray
  order : checkPosition cells.ordinal = .ok column.order

/-- The record of the cells, with all its faults if it has some. -/
def checked (cells : ColumnCells) : Checked Column :=
  Column.ofFields [("name", cells.name), ("type", cells.type), ("nullable", cells.nullable),
    ("has_default", cells.hasDefault), ("is_array", cells.isArray), ("order", cells.ordinal)]

end ColumnCells

/-- The cells of a row of a table. -/
structure TableCells where
  name : Value
  canInsert : Value

namespace TableCells

/-- The row has the cells under the names that the query gives them, and perhaps others. -/
structure In (cells : TableCells) (row : Value) : Prop where
  name : row.field? "name" = some cells.name
  canInsert : row.field? "can_insert" = some cells.canInsert

/-- The row of the cells alone. -/
def row (cells : TableCells) : Value :=
  .ofFields [("name", cells.name), ("can_insert", cells.canInsert)]

theorem in_row (cells : TableCells) : cells.In cells.row :=
  ⟨rfl, rfl⟩

/-- Both cells are valid and give their parts of the table. -/
structure Gives (cells : TableCells) (table : Table) : Prop where
  name : checkName cells.name = .ok table.name
  canInsert : checkFlag cells.canInsert = .ok table.canInsert

/-- The record of the cells, with all its faults if it has some. -/
def checked (cells : TableCells) : Checked Table :=
  Table.ofFields [("name", cells.name), ("can_insert", cells.canInsert)]

end TableCells

theorem checkedAs_eq_ok_iff {α : Type} {record : String} {checked : Checked α} {a : α} :
    checkedAs record checked = .ok a ↔ checked = .ok a :=
  mapError_eq_ok_iff

theorem keyOf_eq_ok_iff {v key : Value} : keyOf v = .ok key ↔ v.isKey = true ∧ v = key := by
  unfold keyOf Value.isKey
  cases v.notKey? <;> simp

section Columns

variable {cells : ColumnCells} {row : Value} {column : Column}

theorem ColumnCells.checked_eq_ok_iff : cells.checked = .ok column ↔ cells.Gives column := by
  constructor
  · intro hchecked
    obtain ⟨_, _, hfive, horder, rfl⟩ := Checked.give_eq_ok_iff.mp hchecked
    obtain ⟨_, _, hfour, hisArray, rfl⟩ := Checked.give_eq_ok_iff.mp hfive
    obtain ⟨_, _, hthree, hhasDefault, rfl⟩ := Checked.give_eq_ok_iff.mp hfour
    obtain ⟨_, _, htwo, hnullable, rfl⟩ := Checked.give_eq_ok_iff.mp hthree
    obtain ⟨_, _, hone, htype, rfl⟩ := Checked.give_eq_ok_iff.mp htwo
    obtain ⟨_, _, hnone, hname, rfl⟩ := Checked.give_eq_ok_iff.mp hone
    obtain rfl := Except.ok.inj hnone
    exact ⟨Checked.under_eq_ok_iff.mp hname, Checked.under_eq_ok_iff.mp htype,
      Checked.under_eq_ok_iff.mp hnullable, Checked.under_eq_ok_iff.mp hhasDefault,
      Checked.under_eq_ok_iff.mp hisArray, Checked.under_eq_ok_iff.mp horder⟩
  · obtain ⟨name, type, nullable, hasDefault, isArray, order⟩ := column
    rintro ⟨hname, htype, hnullable, hhasDefault, hisArray, horder⟩
    refine Checked.give_eq_ok_iff.mpr ⟨_, _, ?_, Checked.under_eq_ok_iff.mpr horder, rfl⟩
    refine Checked.give_eq_ok_iff.mpr ⟨_, _, ?_, Checked.under_eq_ok_iff.mpr hisArray, rfl⟩
    refine Checked.give_eq_ok_iff.mpr ⟨_, _, ?_, Checked.under_eq_ok_iff.mpr hhasDefault, rfl⟩
    refine Checked.give_eq_ok_iff.mpr ⟨_, _, ?_, Checked.under_eq_ok_iff.mpr hnullable, rfl⟩
    refine Checked.give_eq_ok_iff.mpr ⟨_, _, ?_, Checked.under_eq_ok_iff.mpr htype, rfl⟩
    exact Checked.give_eq_ok_iff.mpr ⟨_, _, rfl, Checked.under_eq_ok_iff.mpr hname, rfl⟩

/-- The column of the cells with the name of its table, or the report of its faults. -/
def ColumnCells.owned (cells : ColumnCells) : Except SourceFailure OwnedColumn :=
  (checkedAs Column.recordName cells.checked).map (⟨.text cells.table, ·⟩)

theorem columnOfRow_eq (hin : cells.In row) : columnOfRow row = cells.owned := by
  obtain ⟨htable, hname, htype, hnullable, hhasDefault, hisArray, hordinal⟩ := hin
  unfold columnOfRow lookUp
  rw [htable, hname, htype, hnullable, hhasDefault, hisArray, hordinal]
  unfold ColumnCells.owned ColumnCells.checked
  simp only [bind, Except.bind, keyOf, Value.notKey?]
  cases checkedAs Column.recordName _ <;> rfl

theorem ColumnCells.owned_eq_ok_iff {c : OwnedColumn} :
    cells.owned = .ok c ↔ c.owner = .text cells.table ∧ cells.Gives c.column := by
  rw [owned, map_eq_ok_iff]
  simp only [checkedAs_eq_ok_iff, ColumnCells.checked_eq_ok_iff]
  constructor
  · rintro ⟨column, hgives, rfl⟩
    exact ⟨rfl, hgives⟩
  · rintro ⟨howner, hgives⟩
    exact ⟨c.column, hgives, by rw [← howner]⟩

end Columns

section ColumnRows

variable {columnCells : List ColumnCells} {rows : List Value}

theorem mapM_columnOfRow_eq (hrows : List.Forall₂ ColumnCells.In columnCells rows) :
    rows.mapM columnOfRow = columnCells.mapM ColumnCells.owned :=
  mapM_eq_of_forall₂ (hrows.flip.imp fun _ _ hin => columnOfRow_eq hin)

variable {columns : List OwnedColumn}

end ColumnRows

section TableRows

variable {cells : TableCells} {row : Value} {table : Table} {gathered : Gathered}

theorem TableCells.checked_eq_ok_iff :
    cells.checked = .ok table ↔ cells.Gives table ∧ table.columns = [] := by
  constructor
  · intro hchecked
    obtain ⟨_, _, htwo, hcolumns, rfl⟩ := Checked.give_eq_ok_iff.mp hchecked
    obtain ⟨_, _, hone, hcanInsert, rfl⟩ := Checked.give_eq_ok_iff.mp htwo
    obtain ⟨_, _, hnone, hname, rfl⟩ := Checked.give_eq_ok_iff.mp hone
    obtain rfl := Except.ok.inj hnone
    obtain rfl := Except.ok.inj hcolumns
    exact ⟨⟨Checked.under_eq_ok_iff.mp hname, Checked.under_eq_ok_iff.mp hcanInsert⟩, rfl⟩
  · obtain ⟨name, canInsert, columns⟩ := table
    rintro ⟨⟨hname, hcanInsert⟩, rfl⟩
    refine Checked.give_eq_ok_iff.mpr ⟨_, _, ?_, rfl, rfl⟩
    refine Checked.give_eq_ok_iff.mpr ⟨_, _, ?_, Checked.under_eq_ok_iff.mpr hcanInsert, rfl⟩
    exact Checked.give_eq_ok_iff.mpr ⟨_, _, rfl, Checked.under_eq_ok_iff.mpr hname, rfl⟩

/-- The table of the cells with what stands under its name, or their report. -/
def TableCells.read (gathered : Gathered) (cells : TableCells) : Except SourceFailure Table := do
  let key ← keyOf cells.name
  checkedAs Table.recordName (cells.checked.map fun table =>
    { table with columns := gathered.under key })

theorem tableOfRow_eq (hin : cells.In row) : tableOfRow gathered row = cells.read gathered := by
  unfold tableOfRow lookUp
  rw [hin.name, hin.canInsert]
  rfl

theorem isKey_of_gives (hgives : cells.Gives table) : cells.name.isKey = true := by
  rw [eq_text_of_checkName hgives.name]
  simp only [Value.isKey, Value.notKey?, Option.isNone_none]

theorem TableCells.read_eq_ok_iff :
    cells.read gathered = .ok table ↔
      cells.Gives table ∧ table.columns = gathered.under (.text table.name) := by
  rw [read, bind_eq_ok_iff]
  simp only [checkedAs_eq_ok_iff, map_eq_ok_iff, TableCells.checked_eq_ok_iff, keyOf_eq_ok_iff]
  constructor
  · rintro ⟨_, ⟨_, rfl⟩, header, ⟨hgives, _⟩, rfl⟩
    exact ⟨⟨hgives.name, hgives.canInsert⟩, by rw [eq_text_of_checkName hgives.name]⟩
  · rintro ⟨hgives, hcolumns⟩
    refine ⟨cells.name, ⟨isKey_of_gives hgives, rfl⟩, { table with columns := [] },
      ⟨⟨hgives.name, hgives.canInsert⟩, rfl⟩, ?_⟩
    rw [eq_text_of_checkName hgives.name, ← hcolumns]

theorem mapM_tableOfRow_eq {tableCells : List TableCells} {rows : List Value}
    (hrows : List.Forall₂ TableCells.In tableCells rows) :
    rows.mapM (tableOfRow gathered) = tableCells.mapM (TableCells.read gathered) :=
  mapM_eq_of_forall₂ (hrows.flip.imp fun _ _ hin => tableOfRow_eq hin)

end TableRows

/-- Cells that are valid give tables with the columns of their names. -/
theorem outcome_tables_of_gives {catalog : Catalog} {tableRows columnRows : List Value}
    {tableCells : List TableCells} {columnCells : List ColumnCells} {columns : List OwnedColumn}
    {tables : List Table} (htables : catalog.answer .tables = .ok tableRows)
    (hcolumns : catalog.answer .columns = .ok columnRows)
    (htableRows : List.Forall₂ TableCells.In tableCells tableRows)
    (hcolumnRows : List.Forall₂ ColumnCells.In columnCells columnRows)
    (howned : List.Forall₂ (fun cells c => cells.owned = .ok c) columnCells columns)
    (hgives : List.Forall₂ (fun cells table => cells.Gives table ∧
      table.columns = columnsOf columns (.text table.name)) tableCells tables) :
    catalog.tables.outcome = .ok tables := by
  obtain ⟨gathered, hunder, hread⟩ := tablesOfRows_of_columns
    ((mapM_columnOfRow_eq hcolumnRows).trans (mapM_eq_ok_iff.mpr howned))
  rw [Catalog.outcome_tables htables hcolumns, hread, mapM_tableOfRow_eq htableRows,
    mapM_eq_ok_iff]
  refine hgives.imp fun cells table hgiven => TableCells.read_eq_ok_iff.mpr ⟨hgiven.1, ?_⟩
  rw [hgiven.2, hunder]

end TableTypes.Database
