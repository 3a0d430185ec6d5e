import TableTypes.Database.Catalog
import TableTypes.Proofs.Database.TablesRead
import TableTypes.Proofs.Generation.ColumnOrder
import TableTypes.Proofs.Generation.OmittedEnums

/-! # Column rows in another order

The rows of columns come for all tables together and are gathered by the name of their table. In
another order they give every table the same columns in another order, which a run does not tell
apart. A table whose name is no text is refused, whatever columns were gathered for it.
-/

namespace TableTypes

namespace Database

open Generation (Generator SourceFailure)

section Tables

variable {columns columns' : List OwnedColumn} {name canInsert : Value} {given given' : List Column}

theorem name_of_header {table : Table}
    (htable : Table.ofFields [("name", name), ("can_insert", canInsert)] = .ok table) :
    ∃ s, name = .text s := by
  obtain ⟨_, _, hrest, _, _⟩ := Checked.give_eq_ok_iff.mp htable
  obtain ⟨_, _, hrest, _, _⟩ := Checked.give_eq_ok_iff.mp hrest
  obtain ⟨_, _, _, hname, _⟩ := Checked.give_eq_ok_iff.mp hrest
  have hchecked : checkName name = .ok _ := Checked.under_eq_ok_iff.mp hname
  exact ⟨_, eq_text_of_checkName hchecked⟩

/-- Of the columns that a table is given, only their order by position counts, and nothing at all if
the table is refused. -/
theorem tableOf_sorted (hgiven : ∀ s, name = .text s → ∀ table : Table,
      { table with columns := given' }.orderedColumns =
        { table with columns := given }.orderedColumns) :
    (tableOf name canInsert given').map Table.sorted =
      (tableOf name canInsert given).map Table.sorted := by
  unfold tableOf
  cases hheader : Table.ofFields [("name", name), ("can_insert", canInsert)] with
  | error faults => rfl
  | ok table =>
      obtain ⟨s, hname⟩ := name_of_header hheader
      have hordered := hgiven s hname table
      simp only [Except.map, Table.sorted, hordered]

/-- No two columns of one table have the same position. -/
def OrdersDiffer (columns : List OwnedColumn) : Prop :=
  columns.Pairwise fun a b => a.owner.sameKey b.owner → a.column.order ≠ b.column.order

theorem columnsOf_perm (hperm : columns'.Perm columns) (name : Value) :
    (columnsOf columns' name).Perm (columnsOf columns name) :=
  (hperm.filter _).map _

theorem orders_nodup (hdiffer : OrdersDiffer columns) (s : String) :
    ((columnsOf columns (.text s)).map (·.order)).Nodup := by
  rw [columnsOf, List.map_map, List.Nodup, List.pairwise_map, List.pairwise_filter]
  refine hdiffer.imp fun {a b} horder ha hb => horder ?_
  rw [eq_text_of_sameKey ha, eq_text_of_sameKey hb, sameKey_text]
  exact decide_eq_true rfl

theorem map_checkedAs {α β : Type} (record : String) (checked : Checked α) (f : α → β) :
    (checkedAs record checked).map f = checkedAs record (checked.map f) := by
  cases checked <;> rfl

theorem tableOfRow_sorted {gathered gathered' : Gathered}
    (hunder : ∀ s, gathered.under (.text s) = columnsOf columns (.text s))
    (hunder' : ∀ s, gathered'.under (.text s) = columnsOf columns' (.text s))
    (hperm : columns'.Perm columns) (hdiffer : OrdersDiffer columns) (row : Value) :
    (tableOfRow gathered' row).map Table.sorted = (tableOfRow gathered row).map Table.sorted := by
  have hsorted : ∀ name canInsert : Value,
      (tableOf name canInsert (gathered'.under name)).map Table.sorted =
        (tableOf name canInsert (gathered.under name)).map Table.sorted := by
    intro name canInsert
    apply tableOf_sorted
    rintro s rfl table
    rw [hunder, hunder']
    exact Table.orderedColumns_eq_of_perm (columnsOf_perm hperm _) (orders_nodup hdiffer s)
  unfold tableOfRow keyOf
  cases lookUp row "name" with
  | error failure => rfl
  | ok name =>
  cases lookUp row "can_insert" with
  | error failure => rfl
  | ok canInsert =>
      cases hkey : name.notKey? with
      | none => simp only [bind, Except.bind, hkey, map_checkedAs, hsorted]
      | some part => simp only [bind, Except.bind, hkey]

theorem tablesOfRows_sorted {tableRows rows rows' : List Value} (hperm : rows'.Perm rows)
    (hcolumns : rows.mapM columnOfRow = .ok columns) (hdiffer : OrdersDiffer columns) :
    (tablesOfRows tableRows rows').map (List.map Table.sorted) =
      (tablesOfRows tableRows rows).map (List.map Table.sorted) := by
  obtain ⟨columns', hcolumns', hperm'⟩ := mapM_eq_ok_of_perm hperm hcolumns
  obtain ⟨gathered, hunder, hread⟩ := tablesOfRows_of_columns hcolumns
  obtain ⟨gathered', hunder', hread'⟩ := tablesOfRows_of_columns hcolumns'
  rw [hread, hread', map_mapM, map_mapM]
  exact mapM_congr fun row _ => tableOfRow_sorted hunder hunder' hperm' hdiffer row

end Tables

namespace Catalog

/-- The catalog with other rows of columns. -/
def withColumns (catalog : Catalog) (rows : List Value) : Catalog :=
  { catalog with answer := fun
      | .columns => .ok rows
      | query => catalog.answer query }

theorem resorted_withColumns (catalog : Catalog) {rows rows' : List Value}
    {columns : List OwnedColumn} (hperm : rows'.Perm rows)
    (hcolumns : rows.mapM columnOfRow = .ok columns) (hdiffer : OrdersDiffer columns) :
    (catalog.withColumns rows).source.Resorted (catalog.withColumns rows').source where
  enums := by
    change ((catalog.withColumns rows').reply _ _).outcome =
      ((catalog.withColumns rows).reply _ _).outcome
    rw [outcome_reply, outcome_reply]
    rfl
  tables := by
    change ((catalog.withColumns rows').reply _ _).outcome.map _ =
      ((catalog.withColumns rows).reply _ _).outcome.map _
    rw [outcome_reply, outcome_reply]
    change (catalog.rows .tables >>= fun tableRows => tablesOfRows tableRows rows').map _ =
      (catalog.rows .tables >>= fun tableRows => tablesOfRows tableRows rows).map _
    cases catalog.rows .tables with
    | error failure => rfl
    | ok tableRows => exact tablesOfRows_sorted hperm hcolumns hdiffer

end Catalog

/-- The order of the column rows does not count. If all of them are valid and no two columns of one
table have the same position, every permutation of them gives the same text or the same failure,
whatever the other answers of the database are. -/
theorem build_eq_of_permuted_rows (g : Generator) (catalog : Catalog) {rows rows' : List Value}
    {columns : List OwnedColumn} (hperm : rows'.Perm rows)
    (hcolumns : rows.mapM columnOfRow = .ok columns) (hdiffer : OrdersDiffer columns) :
    (g.build (catalog.withColumns rows').source).2.result =
      (g.build (catalog.withColumns rows).source).2.result :=
  Generator.build_congr
    ((catalog.resorted_withColumns hperm hcolumns hdiffer).run_result g.plan)

/-- Rows of two tables and of one that is not listed, in the order of their positions and mixed up.
The tables are read with other columns, and the text is the same. -/
theorem text_of_mixed_rows :
    let row := fun (table name type : String) (ordinal : Int) => Value.ofFields
      [("table_name", .text table), ("name", .text name), ("type", .text type),
        ("nullable", .bool false), ("has_default", .bool false), ("is_array", .bool false),
        ("ordinal", .int ordinal)]
    let table := fun (name : String) =>
      Value.ofFields [("name", .text name), ("can_insert", .bool true)]
    let rows := [row "teams" "id" "int4" 1, row "teams" "lead" "users" 2, row "users" "id" "int4" 1,
      row "users" "team" "teams" 4, row "hidden" "x" "unknown" 1]
    let rows' := [row "users" "team" "teams" 4, row "teams" "lead" "users" 2,
      row "hidden" "x" "unknown" 1, row "users" "id" "int4" 1, row "teams" "id" "int4" 1]
    let catalog : Catalog := ⟨"public", fun
      | .tables => .ok [table "users", table "teams"]
      | _ => .ok []⟩
    let users : List Column := [{ name := "id", type := "int4", order := 1 },
      { name := "team", type := "teams", order := 4 }]
    let teams : List Column := [{ name := "id", type := "int4", order := 1 },
      { name := "lead", type := "users", order := 2 }]
    let g : Generator := { plan := {} }
    (catalog.withColumns rows).source.tables.outcome =
        .ok [{ name := "users", columns := users }, { name := "teams", columns := teams }] ∧
      (catalog.withColumns rows').source.tables.outcome =
        .ok [{ name := "users", columns := users.reverse },
          { name := "teams", columns := teams.reverse }] ∧
      (g.build (catalog.withColumns rows').source).2.result =
        (g.build (catalog.withColumns rows).source).2.result := by
  intro row table rows rows' catalog users teams g
  let cells (owner name type : String) (ordinal : Int) : ColumnCells :=
    ⟨owner, .text name, .text type, .bool false, .bool false, .bool false, .int ordinal⟩
  have howned : ∀ (owner name type : String) (n : Nat),
      checkName (.text name) = .ok name → checkName (.text type) = .ok type →
      (cells owner name type n).owned = .ok ⟨.text owner, { name, type, order := n }⟩ := by
    intro owner name type n hname htype
    rw [ColumnCells.owned_eq_ok_iff]
    exact ⟨rfl, hname, htype, rfl, rfl, rfl, rfl⟩
  have hteam := howned "teams" "id" "int4" 1 rfl rfl
  have hlead := howned "teams" "lead" "users" 2 rfl rfl
  have huser := howned "users" "id" "int4" 1 rfl rfl
  have hmember := howned "users" "team" "teams" 4 rfl rfl
  have hhidden := howned "hidden" "x" "unknown" 1 rfl rfl
  have hread : ∀ columnCells : List ColumnCells,
      List.Forall₂ ColumnCells.In columnCells (columnCells.map ColumnCells.row) := fun _ =>
    List.forall₂_map_right_iff.mpr (List.forall₂_same.mpr fun cells _ => cells.in_row)
  have htables : List.Forall₂ TableCells.In [⟨.text "users", .bool true⟩,
      ⟨.text "teams", .bool true⟩] [table "users", table "teams"] :=
    .cons (TableCells.in_row _) (.cons (TableCells.in_row _) .nil)
  have hcolumns : rows.mapM columnOfRow = .ok
      ((teams.map (⟨.text "teams", ·⟩)) ++ users.map (⟨.text "users", ·⟩) ++
        [⟨.text "hidden", { name := "x", type := "unknown", order := 1 }⟩]) :=
    (mapM_columnOfRow_eq (hread _)).trans (mapM_eq_ok_iff.mpr (.cons hteam (.cons hlead
      (.cons huser (.cons hmember (.cons hhidden .nil))))))
  have hindices : [3, 1, 4, 2, 0].Perm [0, 1, 2, 3, 4] := by decide
  have hperm : rows'.Perm rows := hindices.map (rows.getD · .null)
  refine ⟨?_, ?_, build_eq_of_permuted_rows g catalog hperm hcolumns ?_⟩
  · exact outcome_tables_of_gives rfl rfl htables (hread _)
      (.cons hteam (.cons hlead (.cons huser (.cons hmember (.cons hhidden .nil)))))
      (.cons ⟨⟨rfl, rfl⟩, rfl⟩ (.cons ⟨⟨rfl, rfl⟩, rfl⟩ .nil))
  · exact outcome_tables_of_gives rfl rfl htables (hread _)
      (.cons hmember (.cons hlead (.cons hhidden (.cons huser (.cons hteam .nil)))))
      (.cons ⟨⟨rfl, rfl⟩, rfl⟩ (.cons ⟨⟨rfl, rfl⟩, rfl⟩ .nil))
  · simp [OrdersDiffer, teams, users, sameKey_text]

end Database

end TableTypes
