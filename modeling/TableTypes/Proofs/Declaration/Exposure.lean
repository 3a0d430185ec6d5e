import TableTypes.Proofs.Declaration.Clean
import TableTypes.Proofs.Declaration.Members
import TableTypes.Proofs.Syntax.Templates

/-! # What names of columns show

Give the columns of a table other names, and nothing changes in the code of a declaration for it but
what stands in the gaps for its members. So all that the name of a column shows outside quotes is
what the printed name of its field shows: the field itself if it is taken for an identifier, and
nothing otherwise.
-/

namespace TableTypes

section Renaming

variable (rename : Column → String)

/-- The column under another name. -/
def Column.renamed (column : Column) : Column :=
  { column with name := rename column }

/-- The table with its columns under other names. -/
def Table.renamed (table : Table) : Table :=
  { table with columns := table.columns.map (Column.renamed rename) }

theorem Table.orderedColumns_renamed (table : Table) :
    (table.renamed rename).orderedColumns =
      table.orderedColumns.map (Column.renamed rename) := by
  unfold orderedColumns Table.renamed
  refine (List.map_mergeSort ?_).symm
  exact fun _ _ _ _ => rfl

theorem Table.renamed_name (table : Table) : table.renamed (·.name) = table := by
  unfold Table.renamed
  have hcolumn : Column.renamed (·.name) = id := rfl
  rw [hcolumn, List.map_id]

end Renaming

namespace Syntax

open Casing (Declarable isIdentifierPart)
open Text (code)

variable {name : String}

/-- The name is declarable but for one line break behind it. -/
def EndsInBreak (name : String) : Prop :=
  ∃ part, Declarable part ∧ name.toList = part ++ ['\n']

/-- The name is declarable and printed as it is, or printed as a JSON text that denotes it. -/
def ReadsBack (name : String) : Prop :=
  (propertyName name = name ∧ Declarable name.toList) ∨
    (Text.unquote? (propertyName name) = some name ∧
      Json.read? (propertyName name) = some (.text name))

theorem isIdentifier_iff_declarable :
    isIdentifier name ↔ Declarable name.toList ∨ EndsInBreak name := by
  rw [isIdentifier_iff]
  constructor
  · rintro ⟨part, ending, htext, hpart, rfl | rfl⟩
    · rw [List.append_nil] at htext
      exact Or.inl (htext ▸ hpart)
    · exact Or.inr ⟨part, hpart, htext⟩
  · rintro (hname | ⟨part, hpart, htext⟩)
    · exact ⟨_, [], (List.append_nil _).symm, hname, Or.inl rfl⟩
    · exact ⟨part, ['\n'], htext, hpart, Or.inr rfl⟩

theorem EndsInBreak.break_mem (hname : EndsInBreak name) : '\n' ∈ name.toList := by
  obtain ⟨part, -, htext⟩ := hname
  simp [htext]

theorem EndsInBreak.not_part (hname : EndsInBreak name) :
    ¬ ∀ c ∈ name.toList, isIdentifierPart c :=
  fun hpart => absurd (hpart _ hname.break_mem) (by decide)

theorem unquote?_of_declarable {part ending : List Char} (hpart : Declarable part)
    (htext : name.toList = part ++ ending) : Text.unquote? name = none := by
  obtain ⟨c, rest, rfl, hstart, -⟩ := hpart
  have hquote : c ≠ '"' := by
    rintro rfl
    exact absurd hstart (by decide)
  rw [Text.unquote?, htext, List.cons_append, Text.unquoteChars?]
  · rfl
  · exact fun _ heq => hquote (List.cons.inj heq).1

/-- All names are read back but those that end in the line break that does not count. -/
theorem readsBack_iff (name : String) : ReadsBack name ↔ ¬ EndsInBreak name := by
  by_cases hname : isIdentifier name
  · have hprint : propertyName name = name := if_pos hname
    rw [ReadsBack, hprint]
    rcases isIdentifier_iff_declarable.mp hname with hdeclarable | hends
    · exact iff_of_true (Or.inl ⟨rfl, hdeclarable⟩) fun hends => hends.not_part hdeclarable.part
    · refine iff_of_false ?_ (not_not_intro hends)
      rintro (⟨-, hdeclarable⟩ | ⟨hquoted, -⟩)
      · exact hends.not_part hdeclarable.part
      · obtain ⟨part, hpart, htext⟩ := hends
        rw [unquote?_of_declarable hpart htext] at hquoted
        cases hquoted
  · have hprint : propertyName name = Text.quote name := if_neg hname
    rw [ReadsBack, hprint]
    exact iff_of_true (Or.inr ⟨Text.unquote?_quote name, Json.read?_quote name⟩)
      fun hends => hname (isIdentifier_iff_declarable.mpr (Or.inr hends))

/-- Only such a name shows anything outside quotes that is no character of names. -/
theorem code_part_iff (name : String) :
    (∀ c ∈ code (propertyName name), isIdentifierPart c) ↔ ¬ EndsInBreak name := by
  rw [code_propertyName]
  split
  · rename_i hname
    rcases isIdentifier_iff_declarable.mp hname with hdeclarable | hends
    · exact iff_of_true hdeclarable.part fun hends => hends.not_part hdeclarable.part
    · exact iff_of_false hends.not_part (not_not_intro hends)
  · rename_i hname
    exact iff_of_true (by simp) fun hends =>
      hname (isIdentifier_iff_declarable.mpr (Or.inr hends))

end Syntax

namespace Declaration

open Syntax (Expression Template Statement TypeNode interfaceTemplate objectTemplate)
open Text (Bare Settled code)

/-- The draft with the columns of its table under other names. -/
def Draft.renamed (rename : Column → String) : Draft → Draft
  | .enum type => .enum type
  | .interface table variant => .interface (table.renamed rename) variant
  | .typeObject table => .typeObject (table.renamed rename)
  | .validator table => .validator (table.renamed rename)

theorem Draft.renamed_name (draft : Draft) : draft.renamed (·.name) = draft := by
  cases draft with
  | enum type => rfl
  | interface table | typeObject table | validator table =>
      rw [Draft.renamed, Table.renamed_name]

section Cells

variable {scope : Scope} {table : Table} {cells : List (Column × Entry)}

/-- The columns of the table in their order, each with the entry that its type stands for. -/
structure Cells (scope : Scope) (table : Table) (cells : List (Column × Entry)) : Prop where
  columns : cells.map Prod.fst = table.orderedColumns
  entry : ∀ cell ∈ cells, scope.types.find? cell.1.type = some cell.2

/-- Where every column has a part made from an entry, the entries can stand beside the columns. -/
theorem exists_cells {β : Type} {part : Column → Entry → β} {columns : List Column}
    {parts : List β} (hparts : List.Forall₂ (fun column made => ∃ entry,
      scope.types.find? column.type = some entry ∧ part column entry = made) columns parts) :
    ∃ cells : List (Column × Entry), cells.map Prod.fst = columns ∧
      ∀ cell ∈ cells, scope.types.find? cell.1.type = some cell.2 := by
  induction hparts with
  | nil => exact ⟨[], rfl, by simp⟩
  | cons hpart _ ih =>
      obtain ⟨entry, hentry, -⟩ := hpart
      obtain ⟨cells, rfl, hentries⟩ := ih
      exact ⟨(_, entry) :: cells, rfl, List.forall_mem_cons.mpr ⟨hentry, hentries⟩⟩

theorem cells_of_build {draft : Draft} (htable : draft.table? = some table) {statement : Statement}
    (hbuild : draft.build scope = .ok statement) : ∃ cells, Cells scope table cells := by
  cases draft with
  | enum type => cases htable
  | interface table variant =>
      obtain rfl := Option.some.inj htable
      obtain ⟨members, hmembers, -⟩ := interface_eq_ok hbuild
      obtain ⟨cells, hcolumns, hentries⟩ := exists_cells hmembers
      exact ⟨cells, hcolumns, hentries⟩
  | typeObject table =>
      obtain rfl := Option.some.inj htable
      obtain ⟨properties, hproperties, -⟩ := typeObject_eq_ok hbuild
      obtain ⟨cells, hcolumns, hentries⟩ := exists_cells hproperties
      exact ⟨cells, hcolumns, hentries⟩
  | validator table =>
      obtain rfl := Option.some.inj htable
      obtain ⟨properties, hproperties, -⟩ := validator_eq_ok hbuild
      obtain ⟨cells, hcolumns, hentries⟩ := exists_cells hproperties
      exact ⟨cells, hcolumns, hentries⟩

/-- A run over renamed columns gives a part for each, made from the entry of its type. -/
theorem Cells.mapM_renamed (hcells : Cells scope table cells) {β : Type}
    {f : Column → Except UnknownType β} {part : Column → Entry → β}
    (hf : ∀ column, f column = (scope.types.resolve column.type).map (part column))
    (rename : Column → String) :
    (table.renamed rename).orderedColumns.mapM f =
      .ok (cells.map fun cell => part (cell.1.renamed rename) cell.2) := by
  rw [Table.orderedColumns_renamed, ← hcells.columns, mapM_columns_eq_ok_iff hf,
    List.forall₂_map_left_iff, List.forall₂_map_left_iff, List.forall₂_map_right_iff,
    List.forall₂_same]
  intro cell hcell
  exact ⟨_, hcells.entry cell hcell, rfl⟩

/-- The name that a column gives its field when the columns of the table are renamed. -/
def renamedField (scope : Scope) (rename : Column → String) (cell : Column × Entry) : String :=
  fieldName scope.names (cell.1.renamed rename)

theorem Cells.memberNames_renamed (hcells : Cells scope table cells) {draft : Draft}
    (htable : draft.table? = some table) (rename : Column → String) :
    (draft.renamed rename).memberNames scope = cells.map (renamedField scope rename) := by
  have hnames : (table.renamed rename).orderedColumns.map (fieldName scope.names) =
      cells.map (renamedField scope rename) := by
    rw [Table.orderedColumns_renamed, ← hcells.columns, List.map_map, List.map_map]
    rfl
  cases draft with
  | enum type => cases htable
  | interface table variant | typeObject table | validator table =>
      obtain rfl := Option.some.inj htable
      exact hnames

end Cells

section Templates

variable {scope : Scope} {table : Table} {cells : List (Column × Entry)} {unit : String}

theorem bare_declaredName (names : Casing.Transformations) (name : String) :
    Bare (declaredName names name) :=
  Syntax.bare_of_part (Casing.declarable_toIdentifier _).part

theorem bare_print_wrap {entry : Entry} (hlegible : Legible entry) (column : Column) (depth : Nat) :
    Bare ((wrap column entry.type).print unit depth) := by
  rw [print_wrap_eq hlegible.plain.isName, hlegible.plain.print]
  refine (Syntax.bare_of_part hlegible.plain.part).append ?_
  unfold tagEnding
  cases column.isArray <;> cases column.nullable <;> decide

/-- Behind bare text, and in front of it, a template goes on. -/
theorem code_within {before behind text : String} {template : Template} {names : List String}
    (hbefore : Bare before) (hbehind : Bare behind)
    (htext : Settled text ∧ code text = template.fill names) :
    code (before ++ text ++ behind) = (template.within before.toList behind.toList).fill names := by
  have hfirst := Syntax.settled_bare hbefore
  rw [(hfirst.append htext.1).code_append, hfirst.code_append, htext.2, Syntax.code_bare hbefore,
    Syntax.code_bare hbehind, Template.fill_within]

/-- There is a template for what is built of the table, whatever its columns are called. -/
def HasTemplate (scope : Scope) (unit : String) (cells : List (Column × Entry))
    (built : (Column → String) → Except UnknownType Statement) : Prop :=
  ∃ template : Template, template.rows.length = cells.length ∧ ∀ rename, ∃ statement,
    built rename = .ok statement ∧
      code (statement.print unit) = template.fill (cells.map (renamedField scope rename))

variable (hcells : Cells scope table cells) (hunit : Settled unit)

include hcells hunit

theorem template_typeObject :
    HasTemplate scope unit cells fun rename => typeObject scope (table.renamed rename) := by
  let value (cell : Column × Entry) : Expression :=
    .string ((wrap cell.1 cell.2.type).print ({} : Syntax.Layout).indent 0)
  let before := "export const " ++ typeObjectName scope table ++ " = "
  have hbefore : Bare before :=
    (Bare.append (by decide) ((bare_declaredName _ _).append (by decide))).append (by decide)
  have hbehind : Bare " as const;" := by decide
  have hbuild : ∀ rename, typeObject scope (table.renamed rename) =
      .ok (.constant (typeObjectName scope table) (.asConst (.object
        (cells.map fun cell => (renamedField scope rename cell, value cell)))) true) := by
    intro rename
    rw [typeObject, hcells.mapM_renamed (typeProperty_eq scope) rename]
    rfl
  have hprint : ∀ object : Expression,
      (Statement.constant (typeObjectName scope table) (.asConst object) true).print unit =
        before ++ object.print unit 0 ++ " as const;" := by
    intro object
    rw [Statement.print, Expression.print]
    simp [Syntax.exportMark, before, String.append_assoc]
  refine ⟨(objectTemplate unit 0 (cells.map value)).within before.toList " as const;".toList, ?_,
    fun rename => ⟨_, hbuild rename, ?_⟩⟩
  · rw [Template.rows_within, Syntax.length_rows_objectTemplate, List.length_map]
  · have hobject := Syntax.code_object hunit 0 cells (renamedField scope rename) value
      fun cell _ => Text.settled_quote _
    rw [hprint, code_within hbefore hbehind hobject]

variable (hlegible : ∀ name entry, scope.types.find? name = some entry → Legible entry)

include hlegible

theorem template_interface (variant : Variant) :
    HasTemplate scope unit cells fun rename => interface scope (table.renamed rename) variant := by
  let type (cell : Column × Entry) : TypeNode := wrap cell.1 cell.2.type
  let optional (cell : Column × Entry) : Bool := variant = .insert && cell.1.hasDefault
  have hname : Bare (interfaceName scope table variant) :=
    (bare_declaredName _ _).append (by cases variant <;> decide)
  have hbuild : ∀ rename, interface scope (table.renamed rename) variant =
      .ok (.interface (interfaceName scope table variant) (cells.map fun cell =>
        .property (renamedField scope rename cell) (type cell) (optional cell)) true) := by
    intro rename
    rw [interface, hcells.mapM_renamed (interfaceMember_eq scope variant) rename]
    rfl
  let header := "export interface " ++ interfaceName scope table variant ++ " \x7b\n"
  refine ⟨interfaceTemplate unit header (cells.map fun cell => (type cell, optional cell)), ?_,
    fun rename => ⟨_, hbuild rename, ?_⟩⟩
  · simp [interfaceTemplate]
  · exact Syntax.code_interface hunit hname cells _ type optional fun cell hcell =>
      bare_print_wrap (hlegible _ _ (hcells.entry cell hcell)) cell.1 1

theorem template_validator :
    HasTemplate scope unit cells fun rename => validator scope (table.renamed rename) := by
  let value (cell : Column × Entry) : Expression := wrapCheck cell.1 (entryCheck cell.2)
  let before := "export const " ++ validatorName scope table ++ " = " ++ "z.object("
  have hbefore : Bare before :=
    ((Bare.append (by decide) ((bare_declaredName _ _).append (by decide))).append
      (by decide)).append (by decide)
  have hbehind : Bare ");" := by decide
  have hvalue : ∀ cell ∈ cells, Settled ((value cell).print unit 1) := by
    intro cell hcell
    have hnamed := named_wrapCheck cell.1 (hlegible _ _ (hcells.entry cell hcell)).check
    exact (value cell).composed_print Text.composable_settled hunit 1 hnamed
  have hbuild : ∀ rename, validator scope (table.renamed rename) =
      .ok (.constant (validatorName scope table) (checks.method "object" [.object
        (cells.map fun cell => (renamedField scope rename cell, value cell))]) true) := by
    intro rename
    rw [validator, hcells.mapM_renamed (checkProperty_eq scope) rename]
    rfl
  have hprint : ∀ object : Expression,
      (Statement.constant (validatorName scope table) (checks.method "object" [object])
        true).print unit = before ++ object.print unit 0 ++ ");" := by
    intro object
    have hmark : ∀ text : String, " = " ++ ("z.object(" ++ text) = " = z.object(" ++ text := by
      intro text
      rw [← String.append_assoc]
      rfl
    simp [Statement.print, Expression.method, checks, Expression.print, Syntax.printArguments,
      Syntax.exportMark, before, String.append_assoc, hmark]
  refine ⟨(objectTemplate unit 0 (cells.map value)).within before.toList ");".toList, ?_,
    fun rename => ⟨_, hbuild rename, ?_⟩⟩
  · rw [Template.rows_within, Syntax.length_rows_objectTemplate, List.length_map]
  · have hobject := Syntax.code_object hunit 0 cells (renamedField scope rename) value
      fun cell hcell => hvalue cell hcell
    rw [hprint, code_within hbefore hbehind hobject]

omit hcells in
/-- Every declaration for a table has a template, which the names of its columns have no part in. -/
theorem Draft.exists_template {draft : Draft} (htable : draft.table? = some table)
    {statement : Statement} (hbuild : draft.build scope = .ok statement) :
    ∃ template : Template, template.rows.length = table.columns.length ∧ ∀ rename,
      ∃ statement, (draft.renamed rename).build scope = .ok statement ∧
        code (statement.print unit) =
          template.fill ((draft.renamed rename).memberNames scope) := by
  obtain ⟨cells, hcells⟩ := cells_of_build htable hbuild
  have hlength : cells.length = table.columns.length := by
    rw [← List.length_mergeSort table.columns]
    exact (List.length_map Prod.fst).symm.trans (congrArg List.length hcells.columns)
  have htemplate : HasTemplate scope unit cells fun rename =>
      (draft.renamed rename).build scope := by
    cases draft with
    | enum type => cases htable
    | interface table variant =>
        obtain rfl := Option.some.inj htable
        exact template_interface hcells hunit hlegible variant
    | typeObject table =>
        obtain rfl := Option.some.inj htable
        exact template_typeObject hcells hunit
    | validator table =>
        obtain rfl := Option.some.inj htable
        exact template_validator hcells hunit hlegible
  obtain ⟨template, hrows, hfill⟩ := htemplate
  refine ⟨template, hrows.trans hlength, fun rename => ?_⟩
  rw [hcells.memberNames_renamed htable rename]
  exact hfill rename

end Templates

end Declaration

end TableTypes
