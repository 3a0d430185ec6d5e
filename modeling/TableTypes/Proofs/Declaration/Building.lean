import TableTypes.Declaration.Draft
import TableTypes.Proofs.FirstFailure

/-! # What a draft becomes

All declarations for a table resolve the types of its columns in the order of the columns. They
fail alike, with the first type that stands for nothing, and otherwise hold one part for each
column, which the registry's entry for its type determines.
-/

namespace TableTypes

namespace Registry

theorem resolve_eq_ok_iff {r : Registry} {name : String} {entry : Entry} :
    r.resolve name = .ok entry ↔ r.find? name = some entry := by
  unfold resolve
  cases r.find? name with
  | none => simp
  | some found => simp

theorem resolve_eq_error_iff {r : Registry} {name : String} {unknown : UnknownType} :
    r.resolve name = .error unknown ↔ r.find? name = none ∧ unknown = ⟨name⟩ := by
  unfold resolve
  cases r.find? name with
  | none => simp [eq_comm]
  | some found => simp

end Registry

namespace Declaration

open Syntax (Expression Member Statement)

/-- The type of the column stands for nothing. -/
def Unresolved (types : Registry) (column : Column) : Prop :=
  types.find? column.type = none

section Columns

variable {β : Type} {types : Registry} {f : Column → Except UnknownType β}
  {part : Column → Entry → β}

/-- A run over columns that resolves their types fails with the first unresolved one. -/
theorem mapM_columns_eq_error_iff
    (hf : ∀ column, f column = (types.resolve column.type).map (part column))
    {columns : List Column} {unknown : UnknownType} :
    columns.mapM f = .error unknown ↔
      ∃ column, FirstWith (fun _ => Unresolved types) columns column ∧
        unknown = ⟨column.type⟩ := by
  have hfails : ∀ column unknown, f column = .error unknown ↔
      Unresolved types column ∧ unknown = ⟨column.type⟩ := by
    intro column unknown
    rw [hf, map_eq_error_iff, Registry.resolve_eq_error_iff]
    rfl
  rw [mapM_eq_error_iff]
  have hfirst : ∀ column, FirstWith (fun _ column => ∃ unknown, f column = .error unknown)
      columns column ↔ FirstWith (fun _ => Unresolved types) columns column := by
    intro column
    apply FirstWith.congr
    intro _ column
    constructor
    · rintro ⟨unknown, hunknown⟩
      exact ((hfails column unknown).mp hunknown).1
    · intro hunresolved
      exact ⟨⟨column.type⟩, (hfails column _).mpr ⟨hunresolved, rfl⟩⟩
  constructor
  · rintro ⟨column, hcolumn, hunknown⟩
    exact ⟨column, (hfirst column).mp hcolumn, ((hfails column unknown).mp hunknown).2⟩
  · rintro ⟨column, hcolumn, hunknown⟩
    obtain ⟨_, _, _, hunresolved, _⟩ := id hcolumn
    exact ⟨column, (hfirst column).mpr hcolumn,
      (hfails column unknown).mpr ⟨hunresolved, hunknown⟩⟩

/-- Otherwise it gives one part for each column. -/
theorem mapM_columns_eq_ok_iff
    (hf : ∀ column, f column = (types.resolve column.type).map (part column))
    {columns : List Column} {parts : List β} :
    columns.mapM f = .ok parts ↔
      List.Forall₂ (fun column result =>
        ∃ entry, types.find? column.type = some entry ∧ part column entry = result)
        columns parts := by
  rw [mapM_eq_ok_iff]
  have hok : ∀ column result, f column = .ok result ↔
      ∃ entry, types.find? column.type = some entry ∧ part column entry = result := by
    intro column result
    rw [hf, map_eq_ok_iff]
    simp only [Registry.resolve_eq_ok_iff]
  simp only [hok]

/-- What it gives depends on nothing but what the types of the columns stand for. -/
theorem mapM_columns_congr {types' : Registry} {f' : Column → Except UnknownType β}
    (hf : ∀ column, f column = (types.resolve column.type).map (part column))
    (hf' : ∀ column, f' column = (types'.resolve column.type).map (part column))
    {columns : List Column}
    (hfind : ∀ column ∈ columns, types.find? column.type = types'.find? column.type) :
    columns.mapM f = columns.mapM f' := by
  apply mapM_congr
  intro column hcolumn
  rw [hf, hf', Registry.resolve, Registry.resolve, hfind column hcolumn]

end Columns

/-- A column as a member, from the entry of its type. -/
def memberOf (scope : Scope) (variant : Variant) (column : Column) (entry : Entry) : Member :=
  .property (fieldName scope.names column) (wrap column entry.type)
    (variant = .insert && column.hasDefault)

/-- A column as a property of the type object, from the entry of its type. -/
def tagOf (scope : Scope) (column : Column) (entry : Entry) : String × Expression :=
  (fieldName scope.names column,
    .string ((wrap column entry.type).print ({} : Syntax.Layout).indent 0))

/-- A column as a property of the validator, from the entry of its type. -/
def checkOf (scope : Scope) (column : Column) (entry : Entry) : String × Expression :=
  (fieldName scope.names column, wrapCheck column (entryCheck entry))

theorem interfaceMember_eq (scope : Scope) (variant : Variant) (column : Column) :
    interfaceMember scope variant column =
      (scope.types.resolve column.type).map (memberOf scope variant column) := by
  unfold interfaceMember columnType Registry.typeOf
  cases scope.types.resolve column.type <;> rfl

theorem typeProperty_eq (scope : Scope) (column : Column) :
    typeProperty scope column = (scope.types.resolve column.type).map (tagOf scope column) := by
  unfold typeProperty typeTag columnType Registry.typeOf
  cases scope.types.resolve column.type <;> rfl

theorem checkProperty_eq (scope : Scope) (column : Column) :
    checkProperty scope column = (scope.types.resolve column.type).map (checkOf scope column) := by
  unfold checkProperty columnCheck
  cases scope.types.resolve column.type <;> rfl

section Built

variable {scope : Scope} {table : Table} {statement : Statement}

/-- A built interface has one member for each column. -/
theorem interface_eq_ok {variant : Variant}
    (hbuild : interface scope table variant = .ok statement) :
    ∃ members,
      List.Forall₂ (fun column member => ∃ entry, scope.types.find? column.type = some entry ∧
        memberOf scope variant column entry = member) table.orderedColumns members ∧
      statement = .interface (interfaceName scope table variant) members true := by
  obtain ⟨members, hmembers, hstatement⟩ := bind_eq_ok_iff.mp hbuild
  exact ⟨members, (mapM_columns_eq_ok_iff (interfaceMember_eq scope variant)).mp hmembers,
    (Except.ok.inj hstatement).symm⟩

/-- A built type object has one property for each column. -/
theorem typeObject_eq_ok (hbuild : typeObject scope table = .ok statement) :
    ∃ properties,
      List.Forall₂ (fun column property => ∃ entry, scope.types.find? column.type = some entry ∧
        tagOf scope column entry = property) table.orderedColumns properties ∧
      statement = .constant (typeObjectName scope table) (.asConst (.object properties)) true := by
  obtain ⟨properties, hproperties, hstatement⟩ := bind_eq_ok_iff.mp hbuild
  exact ⟨properties, (mapM_columns_eq_ok_iff (typeProperty_eq scope)).mp hproperties,
    (Except.ok.inj hstatement).symm⟩

/-- A built validator has one property for each column. -/
theorem validator_eq_ok (hbuild : validator scope table = .ok statement) :
    ∃ properties,
      List.Forall₂ (fun column property => ∃ entry, scope.types.find? column.type = some entry ∧
        checkOf scope column entry = property) table.orderedColumns properties ∧
      statement = .constant (validatorName scope table)
        (checks.method "object" [.object properties]) true := by
  obtain ⟨properties, hproperties, hstatement⟩ := bind_eq_ok_iff.mp hbuild
  exact ⟨properties, (mapM_columns_eq_ok_iff (checkProperty_eq scope)).mp hproperties,
    (Except.ok.inj hstatement).symm⟩

end Built

namespace Draft

/-- The table that a draft is for. -/
def table? : Draft → Option Table
  | .enum _ => none
  | .interface table _ | .typeObject table | .validator table => some table

private theorem bind_return_eq_error_iff {α β ε : Type} {x : Except ε α} {g : α → β} {e : ε} :
    (x >>= fun a => (pure (g a) : Except ε β)) = .error e ↔ x = .error e := by
  cases x with
  | error e' => simp [bind, Except.bind]
  | ok a => simp [bind, Except.bind, pure, Except.pure]

/-- A draft for a table fails with the first unresolved type of the table's columns, and a draft
for an enumerated type does not fail. -/
theorem build_eq_error_iff {scope : Scope} {draft : Draft} {unknown : UnknownType} :
    draft.build scope = .error unknown ↔
      ∃ table, draft.table? = some table ∧
        ∃ column, FirstWith (fun _ => Unresolved scope.types) table.orderedColumns column ∧
          unknown = ⟨column.type⟩ := by
  cases draft with
  | enum type => simp [build, table?]
  | interface table variant =>
      rw [build, Declaration.interface, bind_return_eq_error_iff,
        mapM_columns_eq_error_iff (interfaceMember_eq scope variant)]
      simp [table?]
  | typeObject table =>
      rw [build, Declaration.typeObject, bind_return_eq_error_iff,
        mapM_columns_eq_error_iff (typeProperty_eq scope)]
      simp [table?]
  | validator table =>
      rw [build, Declaration.validator, bind_return_eq_error_iff,
        mapM_columns_eq_error_iff (checkProperty_eq scope)]
      simp [table?]

/-- Of a registry, a draft looks at nothing but what the types of its columns stand for. -/
theorem build_congr {types types' : Registry} (names : Casing.Transformations) {draft : Draft}
    (hfind : ∀ table, draft.table? = some table → ∀ column ∈ table.columns,
      types.find? column.type = types'.find? column.type) :
    draft.build ⟨types, names⟩ = draft.build ⟨types', names⟩ := by
  have hordered : ∀ table, draft.table? = some table → ∀ column ∈ table.orderedColumns,
      types.find? column.type = types'.find? column.type := by
    intro table htable column hcolumn
    exact hfind table htable column (List.mem_mergeSort.mp hcolumn)
  cases draft with
  | enum type => rfl
  | interface table variant =>
      rw [build, build, Declaration.interface, Declaration.interface,
        mapM_columns_congr (interfaceMember_eq ⟨types, names⟩ variant)
          (interfaceMember_eq ⟨types', names⟩ variant) (hordered table rfl)]
      rfl
  | typeObject table =>
      rw [build, build, Declaration.typeObject, Declaration.typeObject,
        mapM_columns_congr (typeProperty_eq ⟨types, names⟩) (typeProperty_eq ⟨types', names⟩)
          (hordered table rfl)]
      rfl
  | validator table =>
      rw [build, build, Declaration.validator, Declaration.validator,
        mapM_columns_congr (checkProperty_eq ⟨types, names⟩) (checkProperty_eq ⟨types', names⟩)
          (hordered table rfl)]
      rfl

end Draft

end Declaration

end TableTypes
