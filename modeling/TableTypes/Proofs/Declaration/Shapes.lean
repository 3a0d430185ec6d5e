import Mathlib.Data.List.Zip
import TableTypes.Proofs.Declaration.Building
import TableTypes.Proofs.Registry.Greedy

/-! # Three shapes of a table

The interface, the type object and the validator of a table are made from one list of types, one
for each column in its position. The interface holds the types, the type object their texts, and
the validator their checks. A validator is built from the entries of the registry and not from
the types; that the type alone tells the check is due to the identifiers, of which no two
registrations and no registration and built-in type have the same.
-/

namespace TableTypes

/-- The columns in ascending position, where columns with one position keep their order. -/
structure Ascending (columns ordered : List Column) : Prop where
  perm : ordered.Perm columns
  sorted : ordered.Pairwise (·.order ≤ ·.order)
  stable : ∀ position, ordered.filter (·.order = position) = columns.filter (·.order = position)

theorem Table.orderedColumns_ascending (table : Table) :
    Ascending table.columns table.orderedColumns := by
  let le : Column → Column → Bool := fun a b => a.order ≤ b.order
  have htrans : ∀ a b c, le a b → le b c → le a c := by
    intro a b c hab hbc
    exact decide_eq_true (Nat.le_trans (of_decide_eq_true hab) (of_decide_eq_true hbc))
  have htotal : ∀ a b, (le a b || le b a) = true := by
    intro a b
    simpa [le] using Nat.le_total a.order b.order
  have hperm : table.orderedColumns.Perm table.columns := List.mergeSort_perm _ _
  refine ⟨hperm, ?_, ?_⟩
  · exact (List.pairwise_mergeSort htrans htotal table.columns).imp of_decide_eq_true
  · intro position
    -- The columns at one position are sorted already, so sorting keeps them as a sublist.
    have hlevel : (table.columns.filter (·.order = position)).Pairwise fun a b => le a b := by
      rw [List.pairwise_filter]
      refine List.pairwise_of_forall fun a b ha hb => decide_eq_true (Nat.le_of_eq ?_)
      rw [of_decide_eq_true ha, of_decide_eq_true hb]
    have hkept := (List.sublist_mergeSort htrans htotal hlevel List.filter_sublist).filter
      (·.order = position)
    rw [List.filter_filter] at hkept
    simp only [Bool.and_self] at hkept
    exact (hkept.eq_of_length (hperm.filter _).length_eq.symm).symm

namespace Declaration

open Syntax (Expression Member Statement TypeNode)
open Casing (Transformations)

mutual

/-- The check for the values of a type. A name that somebody registered stands for the entry, and
any other name for a built-in type. -/
def nodeCheck (types : Registry) : TypeNode → Expression
  | .keyword word => checks.method (primitiveCheck word) []
  | .reference name _ =>
    match types.entries.find? fun entry => entry.2.identifier = name with
    | some (_, entry) => entryCheck entry
    | none => checks.method (primitiveCheck name) []
  | .array element => checks.method "array" [nodeCheck types element]
  | .union alternatives => (alternativeCheck types alternatives).method "nullable" []
  | .literal _ => checks.method "unknown" []

/-- The check for the first alternative, which is the one that is not the missing value. -/
def alternativeCheck (types : Registry) : List TypeNode → Expression
  | [] => checks.method "unknown" []
  | type :: _ => nodeCheck types type

end

/-- The check for the values of an output type, by their names. A type without one is unknown to the
library of checks. -/
inductive PrimitiveOf : String → String → Prop
  | number : PrimitiveOf "number" "number"
  | string : PrimitiveOf "string" "string"
  | boolean : PrimitiveOf "boolean" "boolean"
  | date : PrimitiveOf "Date" "date"
  | unknown {identifier : String} :
      identifier ∉ ["number", "string", "boolean", "Date"] → PrimitiveOf identifier "unknown"

/-- A function from types to checks does what validators are documented to do, with the library of
checks under the name that it is imported with. -/
structure ChecksTypes (types : Registry) (check : TypeNode → Expression) : Prop where
  builtin : ∀ builtin ∈ types.builtins, ∃ primitive,
    PrimitiveOf builtin.2.identifier primitive ∧
      check builtin.2.node = (Expression.identifier "z").method primitive []
  enum : ∀ registered ∈ types.entries, registered.2.kind = .enum →
    check (.named registered.2.identifier) =
      (Expression.identifier "z").method "nativeEnum" [.identifier registered.2.identifier]
  table : ∀ registered ∈ types.entries, registered.2.kind = .table →
    check (.named registered.2.identifier) = (Expression.identifier "z").method "lazy"
      [.arrow (.identifier (registered.2.identifier ++ "Schema"))]
  primitive : ∀ registered ∈ types.entries, registered.2.kind = .builtin → ∃ primitive,
    PrimitiveOf registered.2.identifier primitive ∧
      check (.named registered.2.identifier) = (Expression.identifier "z").method primitive []
  array : ∀ type, check (.array type) = (Expression.identifier "z").method "array" [check type]
  nullable : ∀ type, check (.union [type, .null]) = (check type).method "nullable" []

section Checks

variable {seed : Registry} {requests : List Registration}

theorem primitiveOf_primitiveCheck (identifier : String) :
    PrimitiveOf identifier (primitiveCheck identifier) := by
  unfold primitiveCheck
  split
  · exact .number
  · exact .string
  · exact .boolean
  · exact .date
  · rename_i hnumber hstring hboolean hdate
    refine .unknown ?_
    simp only [List.mem_cons, List.not_mem_nil, or_false, not_or]
    exact ⟨hnumber, hstring, hboolean, hdate⟩

/-- A registered identifier is found with its own entry. -/
theorem nodeCheck_registered (hempty : seed.entries = []) (hapart : seed.Apart requests)
    {request : Registration} (hmem : request ∈ requests) :
    nodeCheck (seed.extend requests) (.named request.identifier) = entryCheck request.entry := by
  rw [TypeNode.named, nodeCheck, Registry.entries_extend_of_empty hempty]
  cases hfind : (requests.map fun request => (request.schemaName, request.entry)).find?
      fun entry => entry.2.identifier = request.identifier with
  | none =>
      rw [List.find?_eq_none] at hfind
      exact absurd (decide_eq_true rfl) (hfind _ (List.mem_map_of_mem hmem))
  | some found =>
      obtain ⟨other, hother, rfl⟩ := List.mem_map.mp (List.mem_of_find?_eq_some hfind)
      have hfound := List.find?_some hfind
      have hidentifier : other.identifier = request.identifier := of_decide_eq_true hfound
      obtain rfl := List.inj_on_of_nodup_map hapart.identifiers hother hmem hidentifier
      rfl

/-- The identifier of a built-in type is nobody else's, if the type takes it. -/
theorem nodeCheck_builtin (hempty : seed.entries = []) (hapart : seed.Apart requests)
    {name : String} {type : BuiltinType} (hmem : (name, type) ∈ seed.builtins) :
    nodeCheck (seed.extend requests) type.node =
      checks.method (primitiveCheck type.identifier) [] := by
  cases type with
  | keyword word => rw [BuiltinType.node, nodeCheck, BuiltinType.identifier]
  | reference identifier arguments =>
      have hfind : (seed.extend requests).entries.find?
          (fun entry => entry.2.identifier = identifier) = none := by
        rw [Registry.entries_extend_of_empty hempty, List.find?_eq_none]
        intro entry hentry
        obtain ⟨request, hrequest, rfl⟩ := List.mem_map.mp hentry
        have htaken : identifier ∈ seed.builtins.filterMap (·.2.reserves?) :=
          List.mem_filterMap.mpr ⟨_, hmem, rfl⟩
        intro heq
        rw [← of_decide_eq_true heq] at htaken
        exact (hapart.free request hrequest).2 htaken
      rw [BuiltinType.node, nodeCheck, hfind, BuiltinType.identifier]

/-- Whatever a name stands for, its type tells its check. -/
theorem nodeCheck_entry (hempty : seed.entries = []) (hapart : seed.Apart requests)
    {name : String} {entry : Entry} (hentry : (seed.extend requests).find? name = some entry) :
    nodeCheck (seed.extend requests) entry.type = entryCheck entry := by
  rcases Registry.find?_extend_cases hempty (hapart.accepts hempty) hentry with
    ⟨type, hmem, rfl⟩ | ⟨request, hmem, rfl⟩
  · exact nodeCheck_builtin hempty hapart hmem
  · exact nodeCheck_registered hempty hapart hmem

theorem nodeCheck_wrap (types : Registry) (column : Column) (type : TypeNode) :
    nodeCheck types (wrap column type) = wrapCheck column (nodeCheck types type) := by
  unfold wrap wrapCheck
  cases column.isArray <;> cases column.nullable <;> simp [nodeCheck, alternativeCheck]

theorem nodeCheck_checksTypes (hempty : seed.entries = []) (hapart : seed.Apart requests) :
    ChecksTypes (seed.extend requests) (nodeCheck (seed.extend requests)) := by
  have hregistered : ∀ registered ∈ (seed.extend requests).entries,
      nodeCheck (seed.extend requests) (.named registered.2.identifier) =
        entryCheck registered.2 := by
    intro registered hmem
    rw [Registry.entries_extend_of_empty hempty] at hmem
    obtain ⟨request, hrequest, rfl⟩ := List.mem_map.mp hmem
    exact nodeCheck_registered hempty hapart hrequest
  refine ⟨?_, ?_, ?_, ?_, ?_, ?_⟩
  · intro builtin hmem
    exact ⟨_, primitiveOf_primitiveCheck _, nodeCheck_builtin hempty hapart hmem⟩
  · intro registered hmem hkind
    rw [hregistered registered hmem, entryCheck, hkind]
    rfl
  · intro registered hmem hkind
    rw [hregistered registered hmem, entryCheck, hkind]
    rfl
  · intro registered hmem hkind
    refine ⟨_, primitiveOf_primitiveCheck _, ?_⟩
    rw [hregistered registered hmem, entryCheck, hkind]
    rfl
  · intro type
    rw [nodeCheck]
    rfl
  · intro type
    rw [nodeCheck, alternativeCheck]

end Checks

section Texts

/-- The type is a word of the language, or a name that is applied to nothing. -/
def IsName : TypeNode → Prop
  | .keyword _ => True
  | .reference _ arguments => arguments = []
  | _ => False

/-- The text of a column's type does not depend on the layout. -/
theorem print_wrap {type : TypeNode} (hname : IsName type) (column : Column) (unit : String)
    (depth : Nat) :
    (wrap column type).print ({} : Syntax.Layout).indent 0 =
      (wrap column type).print unit depth := by
  have htext : type.print ({} : Syntax.Layout).indent 0 = type.print unit depth ∧
      (TypeNode.array type).print ({} : Syntax.Layout).indent 0 =
        (TypeNode.array type).print unit depth := by
    cases type with
    | keyword word => simp [TypeNode.print]
    | reference name arguments =>
        obtain rfl : arguments = [] := hname
        simp [TypeNode.print]
    | array element => exact hname.elim
    | union types => exact hname.elim
    | literal members => exact hname.elim
  unfold wrap
  cases column.isArray <;> cases column.nullable <;>
    simp [TypeNode.print, Syntax.printTypes, TypeNode.null, htext]

/-- The standard built-in types are applied to nothing. -/
theorem isName_standard {name : String} {type : BuiltinType}
    (hmem : (name, type) ∈ BuiltinType.standard) : IsName type.node := by
  rcases Registry.mem_standard_cases hmem with rfl | rfl | rfl | rfl | rfl <;> trivial

theorem isName_entry {reserved : List String} {requests : List Registration}
    (haccepts : (Registry.standard reserved).Accepts requests) {name : String} {entry : Entry}
    (hentry : ((Registry.standard reserved).extend requests).find? name = some entry) :
    IsName entry.type := by
  rcases Registry.find?_extend_cases rfl haccepts hentry with ⟨type, hmem, rfl⟩ | ⟨_, _, rfl⟩
  · exact isName_standard hmem
  · rfl

end Texts

section Images

variable {types : Registry} {columns : List Column} {nodes : List TypeNode}

theorem columnType_eq (types : Registry) (column : Column) :
    columnType types column =
      (types.resolve column.type).map fun entry => wrap column entry.type := by
  unfold columnType Registry.typeOf
  cases types.resolve column.type <;> rfl

/-- A run over columns fails as the run that gives their types. -/
theorem mapM_columns_eq_error {β : Type} {f : Column → Except UnknownType β}
    {part : Column → Entry → β}
    (hf : ∀ column, f column = (types.resolve column.type).map (part column))
    {unknown : UnknownType} (herror : columns.mapM (columnType types) = .error unknown) :
    columns.mapM f = .error unknown :=
  (mapM_columns_eq_error_iff hf).mpr ((mapM_columns_eq_error_iff (columnType_eq types)).mp herror)

/-- A run over columns whose parts are made from the types gives their images. -/
theorem mapM_columns_eq_zipWith {β : Type} {f : Column → Except UnknownType β}
    {part : Column → Entry → β} (image : Column → TypeNode → β)
    (hf : ∀ column, f column = (types.resolve column.type).map (part column))
    (himage : ∀ column entry, types.find? column.type = some entry →
      part column entry = image column (wrap column entry.type))
    (hnodes : columns.mapM (columnType types) = .ok nodes) :
    columns.mapM f = .ok (List.zipWith image columns nodes) := by
  rw [mapM_columns_eq_ok_iff (columnType_eq types)] at hnodes
  rw [mapM_columns_eq_ok_iff hf]
  induction hnodes with
  | nil => exact .nil
  | cons hhead _ ih =>
      obtain ⟨entry, hentry, rfl⟩ := hhead
      exact .cons ⟨entry, hentry, himage _ entry hentry⟩ ih

end Images

/-- The shapes of a table are made from the types of its columns: the members have the types, the
tags are their texts however they are laid out, and the checks their images under one function. -/
structure Mirrors (scope : Scope) (check : TypeNode → Expression) (table : Table)
    (variant : Variant) (nodes : List TypeNode) : Prop where
  length : nodes.length = table.orderedColumns.length
  interface : interface scope table variant =
    .ok (.interface (interfaceName scope table variant)
      (List.zipWith (fun column type => .property (fieldName scope.names column) type
        (variant = .insert && column.hasDefault)) table.orderedColumns nodes) true)
  typeObject : ∀ unit depth, typeObject scope table =
    .ok (.constant (typeObjectName scope table) (.asConst (.object (List.zipWith
      (fun column type => (fieldName scope.names column, .string (type.print unit depth)))
      table.orderedColumns nodes))) true)
  validator : validator scope table =
    .ok (.constant (validatorName scope table)
      ((Expression.identifier "z").method "object" [.object (List.zipWith
        (fun column type => (fieldName scope.names column, check type))
        table.orderedColumns nodes)]) true)

section Shapes

variable {scope : Scope} {table : Table}

/-- The shapes fail alike if a type is unknown. -/
theorem shapes_eq_error {unknown : UnknownType} (variant : Variant)
    (herror : table.orderedColumns.mapM (columnType scope.types) = .error unknown) :
    interface scope table variant = .error unknown ∧ typeObject scope table = .error unknown ∧
      validator scope table = .error unknown := by
  have hmembers := mapM_columns_eq_error (interfaceMember_eq scope variant) herror
  have htags := mapM_columns_eq_error (typeProperty_eq scope) herror
  have hchecks := mapM_columns_eq_error (checkProperty_eq scope) herror
  refine ⟨?_, ?_, ?_⟩
  · rw [Declaration.interface, hmembers]
    rfl
  · rw [Declaration.typeObject, htags]
    rfl
  · rw [Declaration.validator, hchecks]
    rfl

/-- Otherwise they mirror each other, if the type of an entry is laid out on one line and tells its
check. -/
theorem shapes_mirrors {check : TypeNode → Expression} {nodes : List TypeNode} (variant : Variant)
    (hname : ∀ name entry, scope.types.find? name = some entry → IsName entry.type)
    (hcheck : ∀ column entry, scope.types.find? column.type = some entry →
      wrapCheck column (entryCheck entry) = check (wrap column entry.type))
    (hnodes : table.orderedColumns.mapM (columnType scope.types) = .ok nodes) :
    Mirrors scope check table variant nodes := by
  have hmembers := mapM_columns_eq_zipWith
    (fun column type => Member.property (fieldName scope.names column) type
      (variant = .insert && column.hasDefault))
    (interfaceMember_eq scope variant) (fun _ _ _ => rfl) hnodes
  have htags := fun unit depth => mapM_columns_eq_zipWith
    (fun column type => (fieldName scope.names column,
      Expression.string (type.print unit depth)))
    (typeProperty_eq scope)
    (fun column entry hentry =>
      congrArg (fun text => (fieldName scope.names column, Expression.string text))
        (print_wrap (hname column.type entry hentry) column unit depth)) hnodes
  have hchecks := mapM_columns_eq_zipWith
    (fun column type => (fieldName scope.names column, check type))
    (checkProperty_eq scope)
    (fun column entry hentry => congrArg (Prod.mk _) (hcheck column entry hentry)) hnodes
  refine ⟨(mapM_eq_ok_iff.mp hnodes).length_eq.symm, ?_, ?_, ?_⟩
  · rw [Declaration.interface, hmembers]
    rfl
  · intro unit depth
    rw [Declaration.typeObject, htags unit depth]
    rfl
  · rw [Declaration.validator, hchecks]
    rfl

end Shapes

/-- The shapes of all tables mirror each other in any registry that attempts in a row make of the
standard one. Either all three shapes of a table report the same unknown type, or they list one
field for each column, in ascending position and under the same names. The tag of a field is then
the text of the member's type, and its check is the image of that type under one function for the
registry. -/
theorem shapes_mirror_each_other (attempts : List Attempt) :
    let types := (Registry.standard helperNames).afterAll attempts
    ∃ check : TypeNode → Expression, ChecksTypes types check ∧
      ∀ (names : Transformations) (table : Table) (variant : Variant),
        Ascending table.columns table.orderedColumns ∧
        ((∃ unknown : UnknownType,
          interface ⟨types, names⟩ table variant = .error unknown ∧
          typeObject ⟨types, names⟩ table = .error unknown ∧
          validator ⟨types, names⟩ table = .error unknown) ∨
        ∃ nodes, Mirrors ⟨types, names⟩ check table variant nodes) := by
  intro types
  have hempty : (Registry.standard helperNames).entries = [] := rfl
  have hapart := Registry.apart_greedy (Registry.standard helperNames) attempts
  have htypes : types = (Registry.standard helperNames).extend
      ((Registry.standard helperNames).greedy attempts) :=
    Registry.afterAll_eq_extend_greedy hempty attempts
  have hcheck : ∀ column entry, types.find? column.type = some entry →
      wrapCheck column (entryCheck entry) = nodeCheck types (wrap column entry.type) := by
    intro column entry hentry
    rw [htypes] at hentry ⊢
    rw [nodeCheck_wrap, nodeCheck_entry hempty hapart hentry]
  have hname : ∀ name entry, types.find? name = some entry → IsName entry.type := by
    intro name entry hentry
    rw [htypes] at hentry
    exact isName_entry (hapart.accepts hempty) hentry
  refine ⟨nodeCheck types, ?_, fun names table variant =>
    ⟨table.orderedColumns_ascending, ?_⟩⟩
  · rw [htypes]
    exact nodeCheck_checksTypes hempty hapart
  · cases hnodes : table.orderedColumns.mapM (columnType types) with
    | error unknown => exact Or.inl ⟨unknown, shapes_eq_error variant hnodes⟩
    | ok nodes => exact Or.inr ⟨nodes, shapes_mirrors variant hname hcheck hnodes⟩

end Declaration

end TableTypes
