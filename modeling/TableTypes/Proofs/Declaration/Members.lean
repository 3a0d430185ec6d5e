import TableTypes.Proofs.Casing.Declared
import TableTypes.Proofs.Declaration.References
import TableTypes.Proofs.Declaration.Shapes

/-! # Members of declarations

An enum names its members, an interface its properties, and an object its keys. A declaration has
one member for each label or for each column that it is made from, and names it in a style. So the
names of its members are distinct exactly if the style reads no two labels, or no two columns,
alike.
-/

namespace TableTypes

namespace Syntax

/-- The name of a property. Other members have none. -/
def Member.name? : Member → Option String
  | .property name _ _ => some name
  | .index .. => none

namespace Statement

/-- The names of the members of an enum or of an interface. -/
def memberNames : Statement → List String
  | .enum _ members _ => members.map (·.1)
  | .interface _ members _ => members.filterMap Member.name?
  | .constant .. | .typeAlias .. | .importNames .. | .comment _ => []

/-- No two members of the statement share a name, and neither do two keys of an object in it. -/
structure MembersDistinct (statement : Statement) : Prop where
  members : statement.memberNames.Nodup
  keys : ∀ properties, .object properties ∈ statement.expressions →
    (properties.map (·.1)).Nodup

end Statement

end Syntax

namespace Declaration

open Casing (Transformations)
open Syntax (Expression Statement)

/-- No two labels of the enumerated type are read alike. -/
def LabelsApart (names : Transformations) (type : EnumType) : Prop :=
  type.values.Pairwise fun label other =>
    names.enumMembers.declaredReading label.toList ≠ names.enumMembers.declaredReading other.toList

/-- No two columns of the table are read alike. -/
def ColumnsApart (names : Transformations) (table : Table) : Prop :=
  table.columns.Pairwise fun column other =>
    names.columns.reading column.name.toList ≠ names.columns.reading other.name.toList

instance (names : Transformations) (type : EnumType) : Decidable (LabelsApart names type) :=
  inferInstanceAs (Decidable (List.Pairwise _ _))

instance (names : Transformations) (table : Table) : Decidable (ColumnsApart names table) :=
  inferInstanceAs (Decidable (List.Pairwise _ _))

section Objects

variable {properties others : List (String × Expression)}

theorem object_mem_object
    (hinner : ∀ property ∈ properties, .object others ∉ property.2.subterms) :
    .object others ∈ (Expression.object properties).subterms ↔ others = properties := by
  rw [Expression.subterms, List.mem_cons, Syntax.mem_subtermsOfProperties,
    Expression.object.injEq]
  apply or_iff_left
  rintro ⟨property, hproperty, hmem⟩
  exact hinner property hproperty hmem

theorem object_notMem_method {name : String} {arguments : List Expression}
    (harguments : ∀ argument ∈ arguments, .object properties ∉ argument.subterms) :
    .object properties ∉ (checks.method name arguments).subterms := by
  rw [Syntax.mem_subterms_method]
  rintro (heq | heq | hmem | ⟨argument, hargument, hmem⟩)
  · cases heq
  · cases heq
  · cases List.mem_singleton.mp hmem
  · exact harguments argument hargument hmem

theorem object_notMem_check (column : Column) (entry : Entry) :
    .object properties ∉ (wrapCheck column (entryCheck entry)).subterms := by
  have hentry : .object properties ∉ (entryCheck entry).subterms := by
    unfold entryCheck
    split
    all_goals
      apply object_notMem_method
      simp [Expression.subterms]
  have hlisted : .object properties ∉ (if column.isArray then
      checks.method "array" [entryCheck entry] else entryCheck entry).subterms := by
    split
    · exact object_notMem_method (by simpa using hentry)
    · exact hentry
  unfold wrapCheck
  dsimp only
  split
  · rw [Syntax.mem_subterms_method]
    rintro (heq | heq | hmem | ⟨_, hargument, _⟩)
    · cases heq
    · cases heq
    · exact hlisted hmem
    · cases hargument
  · exact hlisted

end Objects

namespace Draft

variable {scope : Scope} {draft : Draft} {statement : Statement}

/-- The names that the members of the declaration will have. -/
def memberNames (scope : Scope) : Draft → List String
  | .enum type => type.values.map fun label => (enumMember scope label).1
  | .interface table _ | .typeObject table | .validator table =>
    table.orderedColumns.map (fieldName scope.names)

theorem keys_of_properties {part : Column → Entry → String × Expression}
    (hpart : ∀ column entry, (part column entry).1 = fieldName scope.names column)
    {columns : List Column} {properties : List (String × Expression)}
    (hproperties : List.Forall₂ (fun column property => ∃ entry,
      scope.types.find? column.type = some entry ∧ part column entry = property)
      columns properties) :
    properties.map (·.1) = columns.map (fieldName scope.names) := by
  rw [← List.filterMap_eq_map']
  apply filterMap_eq_of_forall₂ hproperties
  rintro column _ ⟨entry, _, rfl⟩
  exact congrArg some (hpart column entry)

theorem membersDistinct_of_members {names : List String} (hmembers : statement.memberNames = names)
    (hexpressions : statement.expressions = []) : statement.MembersDistinct ↔ names.Nodup := by
  rw [← hmembers]
  refine ⟨fun hdistinct => hdistinct.members, fun hnodup => ⟨hnodup, ?_⟩⟩
  intro properties hmem
  rw [hexpressions] at hmem
  cases hmem

theorem membersDistinct_of_object {properties : List (String × Expression)}
    (hmembers : statement.memberNames = [])
    (honly : ∀ others, .object others ∈ statement.expressions ↔ others = properties) :
    statement.MembersDistinct ↔ (properties.map (·.1)).Nodup := by
  constructor
  · intro hdistinct
    exact hdistinct.keys properties ((honly properties).mpr rfl)
  · intro hnodup
    refine ⟨by simp [hmembers], ?_⟩
    intro others hmem
    rwa [(honly others).mp hmem]

/-- The members of a built declaration are distinct exactly if these names are. -/
theorem membersDistinct_iff (hbuild : draft.build scope = .ok statement) :
    statement.MembersDistinct ↔ (draft.memberNames scope).Nodup := by
  cases draft with
  | enum type =>
      obtain rfl := Except.ok.inj hbuild
      apply membersDistinct_of_members _ rfl
      exact List.map_map
  | interface table variant =>
      obtain ⟨members, hmembers, rfl⟩ := interface_eq_ok hbuild
      apply membersDistinct_of_members _ rfl
      apply filterMap_eq_of_forall₂ hmembers
      rintro column _ ⟨entry, _, rfl⟩
      rfl
  | typeObject table =>
      obtain ⟨properties, hproperties, rfl⟩ := typeObject_eq_ok hbuild
      rw [memberNames, ← keys_of_properties (fun _ _ => rfl) hproperties]
      apply membersDistinct_of_object rfl
      intro others
      rw [Statement.expressions, Expression.subterms, List.mem_cons, or_iff_right (by simp)]
      apply object_mem_object
      intro property hproperty hmem
      obtain ⟨column, _, entry, _, rfl⟩ := exists_of_mem_right hproperties hproperty
      cases List.mem_singleton.mp hmem
  | validator table =>
      obtain ⟨properties, hproperties, rfl⟩ := validator_eq_ok hbuild
      rw [memberNames, ← keys_of_properties (fun _ _ => rfl) hproperties]
      apply membersDistinct_of_object rfl
      intro others
      have hobject : .object others ∈ (Expression.object properties).subterms ↔
          others = properties := by
        apply object_mem_object
        intro property hproperty
        obtain ⟨column, _, entry, _, rfl⟩ := exists_of_mem_right hproperties hproperty
        exact object_notMem_check column entry
      rw [← hobject, Statement.expressions, Syntax.mem_subterms_method]
      simp [checks, Expression.method, Expression.subterms]

theorem memberNames_enum_nodup_iff {type : EnumType} :
    (memberNames scope (.enum type)).Nodup ↔ LabelsApart scope.names type := by
  rw [memberNames, List.nodup_iff_pairwise_ne, List.pairwise_map, LabelsApart]
  simp only [enumMember, ne_eq, Casing.toIdentifier_apply_eq_iff]

theorem memberNames_nodup_iff {table : Table} (htable : draft.table? = some table) :
    (draft.memberNames scope).Nodup ↔ ColumnsApart scope.names table := by
  have hfields : draft.memberNames scope = table.orderedColumns.map (fieldName scope.names) := by
    cases draft with
    | enum type => cases htable
    | interface other variant | typeObject other | validator other =>
        obtain rfl := Option.some.inj htable
        rfl
  -- Columns are put in order first, which moves them but does not change which there are.
  have hperm : (table.orderedColumns.map (fieldName scope.names)).Perm
      (table.columns.map (fieldName scope.names)) := table.orderedColumns_ascending.perm.map _
  rw [hfields, hperm.nodup_iff, List.nodup_iff_pairwise_ne, List.pairwise_map, ColumnsApart]
  simp only [fieldName, ne_eq, Casing.apply_eq_iff]

end Draft

end Declaration

end TableTypes
