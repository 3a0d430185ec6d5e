import TableTypes.Database.Catalog
import TableTypes.Proofs.FirstFailure

/-! # Columns by table

The rows of columns come for all tables together. One pass puts each column behind the others of its
table, and every table then takes what stands under its name. Under a name that is a text stand
exactly the columns whose rows name that text, in the order of the rows, however the rows of several
tables are mixed. So a table gets its own columns and no others, whether it has one row, several
rows or none.
-/

namespace TableTypes

namespace Checked

variable {α β : Type}

theorem give_eq_ok_iff {a : Checked α} {f : Checked (α → β)} {b : β} :
    give a f = .ok b ↔ ∃ g x, f = .ok g ∧ a = .ok x ∧ g x = b := by
  cases a <;> cases f <;> simp [give]

theorem under_eq_ok_iff {step : Step} {a : Checked α} {x : α} :
    under step a = .ok x ↔ a = .ok x := by
  cases a <;> simp [under]

end Checked

namespace Database

open Generation (SourceFailure)

section Keys

variable {name : Value} {s : String}

theorem sameKey_text (s t : String) :
    (Value.text s).sameKey (.text t) = decide (s = t) := by
  rw [Value.sameKey]

theorem eq_text_of_sameKey (hsame : name.sameKey (.text s) = true) : name = .text s := by
  cases name <;> simp_all [Value.sameKey, Value.integer?, Value.number?]

theorem sameKey_text_iff : name.sameKey (.text s) = true ↔ name = .text s := by
  refine ⟨eq_text_of_sameKey, ?_⟩
  rintro rfl
  rw [sameKey_text, decide_eq_true rfl]

theorem text_sameKey_iff : (Value.text s).sameKey name = true ↔ name = .text s := by
  constructor
  · intro hsame
    cases name <;> simp_all [Value.sameKey, Value.integer?, Value.number?]
  · rintro rfl
    rw [sameKey_text, decide_eq_true rfl]

/-- A valid name is the text itself. -/
theorem eq_text_of_checkName (hname : checkName name = .ok s) : name = .text s := by
  obtain ⟨t, hlabel, hnonempty⟩ := bind_eq_ok_iff.mp hname
  cases name with
  | text u =>
      obtain rfl := Except.ok.inj hlabel
      split at hnonempty
      · cases hnonempty
      · rw [Except.ok.inj hnonempty]
  | _ => cases hlabel

end Keys

section Gathering

/-- The columns of one table, in the order of their rows. -/
def columnsOf (columns : List OwnedColumn) (name : Value) : List Column :=
  (columns.filter fun c => c.owner.sameKey name).map (·.column)

theorem under_cons (name key : Value) (columns : List Column) (rest : Gathered) :
    Gathered.under ((name, columns) :: rest) key =
      if name.sameKey key then columns else rest.under key := by
  unfold Gathered.under
  rw [List.find?_cons]
  cases name.sameKey key <;> rfl

theorem columnsOf_cons (c : OwnedColumn) (columns : List OwnedColumn) (key : Value) :
    columnsOf (c :: columns) key =
      (if c.owner.sameKey key then [c.column] else []) ++ columnsOf columns key := by
  rw [columnsOf, List.filter_cons]
  by_cases howner : c.owner.sameKey key = true
  · rw [if_pos howner, if_pos howner]
    rfl
  · rw [if_neg howner, if_neg howner]
    rfl

/-- A column is found behind the others of its own table, and under no other name. -/
theorem under_add (gathered : Gathered) (c : OwnedColumn) (s : String) :
    (gathered.add c).under (.text s) = gathered.under (.text s) ++
      (if c.owner.sameKey (.text s) then [c.column] else []) := by
  induction gathered with
  | nil =>
      rw [Gathered.add, under_cons]
      rfl
  | cons entry rest ih =>
      obtain ⟨name, columns⟩ := entry
      rw [Gathered.add]
      by_cases hname : name = .text s
      · subst hname
        by_cases howner : c.owner = .text s
        · simp [under_cons, howner, sameKey_text]
        · simp [under_cons, howner, sameKey_text, text_sameKey_iff, sameKey_text_iff]
      · have hother : ¬ name.sameKey (.text s) = true := mt sameKey_text_iff.mp hname
        by_cases hsame : name.sameKey c.owner = true
        · have howner : ¬ c.owner.sameKey (.text s) = true :=
            fun howner => hother (eq_text_of_sameKey howner ▸ hsame)
          rw [if_pos hsame, under_cons, under_cons, if_neg hother, if_neg hother, if_neg howner,
            List.append_nil]
        · rw [if_neg hsame, under_cons, under_cons, if_neg hother, if_neg hother, ih]

/-- After one pass over the columns stand under a name the columns of the table with that name. -/
theorem under_foldl_add (columns : List OwnedColumn) (gathered : Gathered) (s : String) :
    (columns.foldl (fun gathered c => gathered.add c) gathered).under (.text s) =
      gathered.under (.text s) ++ columnsOf columns (.text s) := by
  induction columns generalizing gathered with
  | nil => exact (List.append_nil _).symm
  | cons c rest ih => rw [List.foldl_cons, ih, under_add, columnsOf_cons, List.append_assoc]

theorem gather_eq (rows : List Value) :
    gather rows = (rows.mapM columnOfRow).map fun columns =>
      columns.foldl (fun (gathered : Gathered) c => gathered.add c) [] :=
  foldlM_eq_map_mapM _ _ rows

/-- Once all rows of columns are read, every table is given the columns of its name. -/
theorem tablesOfRows_of_columns {rows : List Value} {columns : List OwnedColumn}
    (hcolumns : rows.mapM columnOfRow = .ok columns) :
    ∃ gathered : Gathered, (∀ s, gathered.under (.text s) = columnsOf columns (.text s)) ∧
      ∀ tableRows, tablesOfRows tableRows rows = tableRows.mapM (tableOfRow gathered) := by
  refine ⟨columns.foldl (fun (gathered : Gathered) c => gathered.add c) [], ?_, ?_⟩
  · exact fun s => under_foldl_add columns [] s
  · intro tableRows
    rw [tablesOfRows, gather_eq, hcolumns]
    rfl

end Gathering

namespace Catalog

theorem outcome_reply {α : Type} (catalog : Catalog) (what : String)
    (read : Except SourceFailure (List α)) : (catalog.reply what read).outcome = read := by
  cases read <;> rfl

theorem outcome_tables {catalog : Catalog} {tableRows columnRows : List Value}
    (htables : catalog.answer .tables = .ok tableRows)
    (hcolumns : catalog.answer .columns = .ok columnRows) :
    catalog.tables.outcome = tablesOfRows tableRows columnRows := by
  rw [tables, outcome_reply, rows, rows, htables, hcolumns]
  rfl

end Catalog

end Database

end TableTypes
