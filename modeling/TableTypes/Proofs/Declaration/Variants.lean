import TableTypes.Proofs.Declaration.Shapes

/-! # The two interfaces of a table

What is read from a table and what is inserted into it have the same fields of the same types, one
for each column in its position. They differ in the declared name and in which fields may be left
out, and if the type of a column is unknown, neither of them can be declared.
-/

namespace TableTypes.Declaration

open Syntax (Member Statement TypeNode)
open Casing (Transformations)

/-- How the type of a field is made from the type of one value: the array is inside the union. -/
inductive Wrapped (type : TypeNode) : (isArray nullable : Bool) → TypeNode → Prop where
  | plain : Wrapped type false false type
  | array : Wrapped type true false (.array type)
  | nullable : Wrapped type false true (.union [type, .null])
  | nullableArray : Wrapped type true true (.union [.array type, .null])

/-- The members of both interfaces, column by column. -/
inductive Variants (scope : Scope) : List Column → List Member → List Member → Prop where
  | nil : Variants scope [] [] []
  | cons {column : Column} {type node : TypeNode} {columns : List Column}
      {primary insert : List Member} (htype : scope.types.typeOf column.type = .ok type)
      (hnode : Wrapped type column.isArray column.nullable node)
      (hrest : Variants scope columns primary insert) :
      Variants scope (column :: columns)
        (.property (scope.names.columns.apply column.name) node false :: primary)
        (.property (scope.names.columns.apply column.name) node column.hasDefault :: insert)

section Members

variable {scope : Scope} {columns : List Column} {primary insert : List Member}

theorem wrapped_wrap (column : Column) (type : TypeNode) :
    Wrapped type column.isArray column.nullable (wrap column type) := by
  unfold wrap
  cases column.isArray <;> cases column.nullable <;> constructor

theorem Variants.length (hvariants : Variants scope columns primary insert) :
    primary.length = columns.length ∧ insert.length = columns.length := by
  induction hvariants with
  | nil => exact ⟨rfl, rfl⟩
  | cons _ _ _ ih => exact ⟨congrArg Nat.succ ih.1, congrArg Nat.succ ih.2⟩

/-- Columns whose types are known have members in both interfaces. -/
theorem exists_variants (scope : Scope) {nodes : List TypeNode}
    (hnodes : columns.mapM (columnType scope.types) = .ok nodes) :
    ∃ primary insert, columns.mapM (interfaceMember scope .primary) = .ok primary ∧
      columns.mapM (interfaceMember scope .insert) = .ok insert ∧
      Variants scope columns primary insert := by
  simp only [mapM_columns_eq_ok_iff (interfaceMember_eq scope _)]
  rw [mapM_columns_eq_ok_iff (columnType_eq scope.types)] at hnodes
  induction hnodes with
  | nil => exact ⟨[], [], .nil, .nil, .nil⟩
  | @cons column _ _ _ hcolumn _ ih =>
      obtain ⟨entry, hentry, rfl⟩ := hcolumn
      obtain ⟨primary, insert, hprimary, hinsert, hvariants⟩ := ih
      have htype : scope.types.typeOf column.type = .ok entry.type := by
        rw [Registry.typeOf, Registry.resolve_eq_ok_iff.mpr hentry]
        rfl
      exact ⟨memberOf scope .primary column entry :: primary,
        memberOf scope .insert column entry :: insert,
        .cons ⟨entry, hentry, rfl⟩ hprimary, .cons ⟨entry, hentry, rfl⟩ hinsert,
        .cons htype (wrapped_wrap column entry.type) hvariants⟩

end Members

/-- Whatever the registry, both interfaces of a table report the first unknown type in the order of
the columns, or both are declared: the one for inserts under the name of the other with `$Insert`
behind it. Then they have one member for each column, with the same name and the same type. None of
the one may be left out, and of the other, those of columns with a default. -/
theorem variants_agree (types : Registry) (names : Transformations) (table : Table) :
    Ascending table.columns table.orderedColumns ∧
    ((∃ column, FirstWith (fun _ => Unresolved types) table.orderedColumns column ∧
      ∀ variant, interface ⟨types, names⟩ table variant = .error ⟨column.type⟩) ∨
    ∃ primary insert,
      interface ⟨types, names⟩ table .primary = .ok (.interface
        (Casing.toIdentifier (names.typeNames.apply table.name)) primary true) ∧
      interface ⟨types, names⟩ table .insert = .ok (.interface
        (Casing.toIdentifier (names.typeNames.apply table.name) ++ "$Insert") insert true) ∧
      primary.length = table.columns.length ∧ insert.length = table.columns.length ∧
      Variants ⟨types, names⟩ table.orderedColumns primary insert) := by
  refine ⟨table.orderedColumns_ascending, ?_⟩
  cases hnodes : table.orderedColumns.mapM (columnType types) with
  | error unknown =>
      obtain ⟨column, hfirst, rfl⟩ := (mapM_columns_eq_error_iff (columnType_eq types)).mp hnodes
      exact Or.inl ⟨column, hfirst, fun variant => (shapes_eq_error variant hnodes).1⟩
  | ok nodes =>
      obtain ⟨primary, insert, hprimary, hinsert, hvariants⟩ :=
        exists_variants ⟨types, names⟩ hnodes
      obtain ⟨hlength, hlength'⟩ := hvariants.length
      have hcolumns : table.orderedColumns.length = table.columns.length :=
        table.orderedColumns_ascending.perm.length_eq
      refine Or.inr ⟨primary, insert, ?_, ?_, hlength.trans hcolumns, hlength'.trans hcolumns,
        hvariants⟩
      · rw [Declaration.interface, hprimary, interfaceName, Variant.suffix, String.append_empty]
        rfl
      · rw [Declaration.interface, hinsert]
        rfl

end TableTypes.Declaration
