import TableTypes.Declaration.Preamble
import TableTypes.Proofs.Declaration.Building
import TableTypes.Proofs.Syntax.Names

/-! # What built declarations refer to

A built declaration refers to nothing but what the registry gives for the types of its columns.
An interface refers to the output types of their entries, and a validator to the enum or to the
validator of their entries. A type object holds texts only. The preamble refers to its own types.
-/

namespace TableTypes.Declaration

open Syntax (Expression Statement TypeNode)

variable {scope : Scope} {table : Table} {statement : Statement}

theorem references_wrap (column : Column) (type : TypeNode) :
    (wrap column type).references = type.references := by
  unfold wrap
  cases column.isArray <;> cases column.nullable <;>
    simp [TypeNode.references, Syntax.referencesOfTypes, TypeNode.null]

/-- An interface refers to the output types of its columns. -/
theorem mem_references_of_interface {variant : Variant}
    (hbuild : interface scope table variant = .ok statement) {name : String}
    (hname : name ∈ statement.typeReferences) :
    ∃ schemaName entry, scope.types.find? schemaName = some entry ∧
      name ∈ entry.type.references := by
  obtain ⟨members, hmembers, rfl⟩ := interface_eq_ok hbuild
  obtain ⟨member, hmember, hname⟩ := Syntax.mem_referencesOfMembers.mp hname
  obtain ⟨column, _, entry, hentry, rfl⟩ := exists_of_mem_right hmembers hmember
  rw [memberOf, Syntax.Member.references, references_wrap] at hname
  exact ⟨column.type, entry, hentry, hname⟩

/-- A type object holds texts, so it neither mentions the library of checks nor calls it. -/
theorem checks_notMem_typeObject (hbuild : typeObject scope table = .ok statement)
    {e : Expression} (hmem : e ∈ statement.expressions) :
    e ≠ checks ∧ ∀ method arguments, e ≠ checks.method method arguments := by
  obtain ⟨properties, hproperties, rfl⟩ := typeObject_eq_ok hbuild
  simp only [Statement.expressions, Expression.subterms, List.mem_cons,
    Syntax.mem_subtermsOfProperties] at hmem
  rcases hmem with rfl | rfl | ⟨property, hproperty, hmem⟩
  · simp [checks, Expression.method]
  · simp [checks, Expression.method]
  · obtain ⟨column, _, entry, _, rfl⟩ := exists_of_mem_right hproperties hproperty
    obtain rfl := List.mem_singleton.mp hmem
    simp [checks, Expression.method]

section Calls

variable {method : String} {arguments : List Expression}

theorem call_notMem_checks : checks.method method arguments ∉ checks.subterms := by
  intro hmem
  have heq := List.mem_singleton.mp hmem
  cases heq

/-- Wrapping a check adds calls of two methods only. -/
theorem call_mem_wrapCheck (harray : method ≠ "array") (hnullable : method ≠ "nullable")
    {column : Column} {check : Expression} :
    checks.method method arguments ∈ (wrapCheck column check).subterms ↔
      checks.method method arguments ∈ check.subterms := by
  have hlisted : checks.method method arguments ∈
      (if column.isArray then checks.method "array" [check] else check).subterms ↔
        checks.method method arguments ∈ check.subterms := by
    split
    · rw [Syntax.call_mem_subterms_method harray, or_iff_right call_notMem_checks]
      simp
    · rfl
  unfold wrapCheck
  cases column.nullable with
  | false => exact hlisted
  | true =>
      rw [← hlisted]
      exact (Syntax.call_mem_subterms_method hnullable).trans (by simp)

theorem primitiveCheck_mem (identifier : String) :
    primitiveCheck identifier ∈ ["number", "string", "boolean", "date", "unknown"] := by
  unfold primitiveCheck
  split <;> simp

/-- The check for a value is the only call in it. -/
theorem call_mem_entryCheck {entry : Entry} :
    checks.method method arguments ∈ (entryCheck entry).subterms ↔
      checks.method method arguments = entryCheck entry := by
  have honly : ∀ {name inner}, (∀ argument ∈ inner,
      checks.method method arguments ∉ argument.subterms) →
      (checks.method method arguments ∈ (checks.method name inner).subterms ↔
        checks.method method arguments = checks.method name inner) := by
    intro name inner hinner
    rw [Syntax.mem_subterms_method]
    constructor
    · rintro (heq | haccess | hchecks | ⟨argument, hargument, hmem⟩)
      · exact heq
      · cases haccess
      · exact absurd hchecks call_notMem_checks
      · exact absurd hmem (hinner argument hargument)
    · exact Or.inl
  unfold entryCheck
  cases entry.kind with
  | enum => exact honly (by simp [Expression.subterms, Expression.method])
  | table => exact honly (by simp [Expression.subterms, Expression.method])
  | builtin => exact honly (by simp)

/-- A call in a validator that is none of its own is the check for a value. -/
theorem call_mem_validator (hobject : method ≠ "object") (harray : method ≠ "array")
    (hnullable : method ≠ "nullable") (hbuild : validator scope table = .ok statement)
    (hmem : checks.method method arguments ∈ statement.expressions) :
    ∃ schemaName entry, scope.types.find? schemaName = some entry ∧
      checks.method method arguments = entryCheck entry := by
  obtain ⟨properties, hproperties, rfl⟩ := validator_eq_ok hbuild
  rcases (Syntax.call_mem_subterms_method hobject).mp hmem with hchecks | ⟨_, hproperty, hmem⟩
  · exact absurd hchecks call_notMem_checks
  · obtain rfl := List.mem_singleton.mp hproperty
    obtain ⟨property, hproperty, hmem⟩ := Syntax.call_mem_subterms_object.mp hmem
    obtain ⟨column, _, entry, hentry, rfl⟩ := exists_of_mem_right hproperties hproperty
    exact ⟨column.type, entry, hentry,
      call_mem_entryCheck.mp ((call_mem_wrapCheck harray hnullable).mp hmem)⟩

theorem eq_of_nativeEnum {entry : Entry}
    (hcheck : checks.method "nativeEnum" arguments = entryCheck entry) :
    entry.kind = .enum ∧ arguments = [.identifier entry.identifier] := by
  unfold entryCheck at hcheck
  split at hcheck
  · rename_i hkind
    exact ⟨hkind, (Syntax.method_inj.mp hcheck).2.2⟩
  · exact absurd (Syntax.method_inj.mp hcheck).2.1 (by decide)
  · have hprimitive := primitiveCheck_mem entry.identifier
    rw [← (Syntax.method_inj.mp hcheck).2.1] at hprimitive
    exact absurd hprimitive (by decide)

theorem eq_of_lazy {entry : Entry} (hcheck : checks.method "lazy" arguments = entryCheck entry) :
    entry.kind = .table ∧
      arguments = [.arrow (.identifier (validatorOf entry.identifier))] := by
  unfold entryCheck at hcheck
  split at hcheck
  · exact absurd (Syntax.method_inj.mp hcheck).2.1 (by decide)
  · rename_i hkind
    exact ⟨hkind, (Syntax.method_inj.mp hcheck).2.2⟩
  · have hprimitive := primitiveCheck_mem entry.identifier
    rw [← (Syntax.method_inj.mp hcheck).2.1] at hprimitive
    exact absurd hprimitive (by decide)

end Calls

namespace Draft

variable {draft : Draft}

/-- The names that the declaration will bind for values. -/
def boundValues (scope : Scope) : Draft → List String
  | .enum type => [Declaration.declaredName scope.names type.name]
  | .interface .. => []
  | .typeObject table => [typeObjectName scope table]
  | .validator table => [validatorName scope table]

/-- The names that the declaration will bind for types. -/
def boundTypes (scope : Scope) : Draft → List String
  | .enum type => [Declaration.declaredName scope.names type.name]
  | .interface table variant => [interfaceName scope table variant]
  | .typeObject _ | .validator _ => []

theorem bound_of_build (hbuild : draft.build scope = .ok statement) :
    statement.boundValues = draft.boundValues scope ∧
      statement.boundTypes = draft.boundTypes scope := by
  cases draft with
  | enum type =>
      obtain rfl := Except.ok.inj hbuild
      exact ⟨rfl, rfl⟩
  | interface table variant =>
      obtain ⟨_, _, rfl⟩ := interface_eq_ok hbuild
      exact ⟨rfl, rfl⟩
  | typeObject table =>
      obtain ⟨_, _, rfl⟩ := typeObject_eq_ok hbuild
      exact ⟨rfl, rfl⟩
  | validator table =>
      obtain ⟨_, _, rfl⟩ := validator_eq_ok hbuild
      exact ⟨rfl, rfl⟩

/-- A declaration refers to the output types of entries, if to any types. -/
theorem entry_of_reference (hbuild : draft.build scope = .ok statement) {name : String}
    (hname : name ∈ statement.typeReferences) :
    ∃ schemaName entry, scope.types.find? schemaName = some entry ∧
      name ∈ entry.type.references := by
  cases draft with
  | enum type =>
      obtain rfl := Except.ok.inj hbuild
      cases hname
  | interface table variant => exact mem_references_of_interface hbuild hname
  | typeObject table =>
      obtain ⟨_, _, rfl⟩ := typeObject_eq_ok hbuild
      cases hname
  | validator table =>
      obtain ⟨_, _, rfl⟩ := validator_eq_ok hbuild
      cases hname

/-- What mentions the library of checks, or calls it, is a validator: enums and interfaces hold
no expressions, and type objects hold texts only. -/
theorem validator_of_mention (hbuild : draft.build scope = .ok statement) {e : Expression}
    (he : e ∈ statement.expressions)
    (hmention : e = checks ∨ ∃ method arguments, e = checks.method method arguments) :
    ∃ table, draft = .validator table := by
  cases draft with
  | enum type =>
      obtain rfl := Except.ok.inj hbuild
      cases he
  | interface table variant =>
      obtain ⟨_, _, rfl⟩ := interface_eq_ok hbuild
      cases he
  | typeObject table =>
      obtain ⟨hchecks, hcalls⟩ := checks_notMem_typeObject hbuild he
      rcases hmention with rfl | ⟨method, arguments, rfl⟩
      · exact absurd rfl hchecks
      · exact absurd rfl (hcalls method arguments)
  | validator table => exact ⟨table, rfl⟩

end Draft

section Preamble

variable {importChecks : Bool}

theorem boundValues_preamble :
    (preamble importChecks).flatMap (·.boundValues) = if importChecks then ["z"] else [] := by
  cases importChecks <;> rfl

theorem boundTypes_preamble :
    (preamble importChecks).flatMap (·.boundTypes) = helperNames := by
  cases importChecks <;> rfl

theorem mem_preamble_cases (hmem : statement ∈ preamble importChecks) :
    statement = .comment headerComment ∨ statement = .importNames ["z"] "zod" ∨
      statement = jsonAlias ∨ statement = nullableAlias := by
  unfold preamble at hmem
  simp only [List.cons_append, List.mem_cons, List.mem_append, List.mem_ite_nil_right,
    List.not_mem_nil, or_false] at hmem
  tauto

theorem expressions_of_preamble (hmem : statement ∈ preamble importChecks) :
    statement.expressions = [] := by
  rcases mem_preamble_cases hmem with rfl | rfl | rfl | rfl <;> rfl

theorem references_of_preamble (hmem : statement ∈ preamble importChecks) {name : String}
    (hname : name ∈ statement.typeReferences) :
    name = "Json" ∨ name ∈ statement.typeParameters := by
  rcases mem_preamble_cases hmem with rfl | rfl | rfl | rfl
  · cases hname
  · cases hname
  · have hreferences : jsonAlias.typeReferences = ["Json", "Json"] := rfl
    rw [hreferences] at hname
    exact Or.inl (by simpa using hname)
  · exact Or.inr hname

end Preamble

end TableTypes.Declaration
