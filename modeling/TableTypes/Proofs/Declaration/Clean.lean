import TableTypes.Proofs.Declaration.Labels
import TableTypes.Proofs.Declaration.References
import TableTypes.Proofs.Syntax.Clean

/-! # Clean declarations

Schema text comes into a declaration in four ways: a declared name is made of the characters of
names, the name of a field is quoted unless it is an identifier, a label and a tag are quoted, and a
type or a check names an entry of the registry. None of them brings more into the printed text than
plain characters and line breaks.
-/

namespace TableTypes.Declaration

open Syntax (Expression Member NamedArguments NamedProperties Statement)
open Text (Clean)

section Entries

variable {unit : String} {entry : Entry} {target check : Expression} {name : String}
  {arguments : List Expression}

/-- The entry is printed as a name in types, and as names in checks. -/
structure Legible (entry : Entry) : Prop where
  plain : Plain entry
  check : (entryCheck entry).Named

theorem named_method (htarget : target.Named) (hname : Syntax.isIdentifier name)
    (harguments : NamedArguments arguments) : (target.method name arguments).Named :=
  ⟨⟨htarget, hname⟩, harguments⟩

theorem named_checks : checks.Named := by
  rw [checks, Expression.Named]
  decide

theorem named_primitiveCheck (identifier : String) :
    (checks.method (primitiveCheck identifier) []).Named := by
  refine named_method named_checks ?_ trivial
  have hmem := primitiveCheck_mem identifier
  revert hmem
  generalize primitiveCheck identifier = method
  revert method
  decide

theorem named_wrapCheck (column : Column) (hcheck : check.Named) :
    (wrapCheck column check).Named := by
  have hlisted : (checks.method "array" [check]).Named :=
    named_method named_checks (by decide) ⟨hcheck, trivial⟩
  have hnullable : ∀ {listed : Expression}, listed.Named →
      (listed.method "nullable" []).Named :=
    fun hlisted => named_method hlisted (by decide) trivial
  unfold wrapCheck
  cases column.isArray <;> cases column.nullable <;> simp [hcheck, hlisted, hnullable]

theorem legible_builtin {type : BuiltinType} (hmem : (name, type) ∈ BuiltinType.standard) :
    Legible (Registry.builtinEntry type) :=
  ⟨plain_builtin hmem, named_primitiveCheck _⟩

theorem legible_request {request : Registration}
    (hdeclarable : Casing.Declarable request.identifier.toList) : Legible request.entry := by
  have hidentifier : ∀ suffix : String, (∀ c ∈ suffix.toList, Casing.isIdentifierPart c) →
      Syntax.isIdentifier (request.identifier ++ suffix) := by
    intro suffix hsuffix
    refine Syntax.isIdentifier_iff.mpr ⟨_, [], ?_, hdeclarable.append hsuffix, Or.inl rfl⟩
    rw [String.toList_append, List.append_nil]
  have hname : Syntax.isIdentifier request.identifier := by
    simpa using hidentifier "" (by simp)
  refine ⟨plain_request hdeclarable.part, ?_⟩
  unfold entryCheck
  split
  · exact named_method named_checks (by decide) ⟨hname, trivial⟩
  · have hvalidator : Syntax.isIdentifier (validatorOf request.identifier) :=
      hidentifier "Schema" (by simp [Casing.isIdentifierPart])
    exact named_method named_checks (by decide) ⟨hvalidator, trivial⟩
  · exact named_primitiveCheck _

theorem clean_tagEnding (column : Column) : Clean (tagEnding column) := by
  unfold tagEnding
  cases column.isArray <;> cases column.nullable <;> decide

theorem clean_print_wrap (hlegible : Legible entry) (column : Column) (depth : Nat) :
    Clean ((wrap column entry.type).print unit depth) := by
  have hidentifier : Clean entry.identifier :=
    fun c hc => Or.inl (Text.isPlain_of_part (hlegible.plain.part c hc))
  simp [print_wrap_eq hlegible.plain.isName, hlegible.plain.print, hidentifier, clean_tagEnding]

end Entries

section Declarations

variable {unit : String} {scope : Scope} {table : Table} {statement : Statement}

theorem clean_declaredName (names : Casing.Transformations) (name : String) :
    Clean (declaredName names name) :=
  (plain_toIdentifier _).clean

theorem clean_memberOf {entry : Entry} (hlegible : Legible entry) (variant : Variant)
    (column : Column) (depth : Nat) :
    Clean ((memberOf scope variant column entry).print unit depth) := by
  have htype : Clean ((wrap column entry.type).print unit depth) :=
    clean_print_wrap hlegible column depth
  rw [memberOf, Member.print]
  split <;> simp +decide [Syntax.clean_propertyName, htype]

theorem namedProperties_of_forall {properties : List (String × Expression)}
    (hproperties : ∀ property ∈ properties, property.2.Named) : NamedProperties properties := by
  induction properties with
  | nil => trivial
  | cons property rest ih =>
      obtain ⟨hproperty, hrest⟩ := List.forall_mem_cons.mp hproperties
      exact ⟨hproperty, ih hrest⟩

variable (hunit : Clean unit)

include hunit

theorem clean_enumType (type : EnumType) : Clean ((enumType scope type).print unit) :=
  Syntax.clean_print_enum hunit (clean_declaredName _ _) _ _

theorem clean_typeObject (hbuild : typeObject scope table = .ok statement) :
    Clean (statement.print unit) := by
  obtain ⟨properties, hproperties, rfl⟩ := typeObject_eq_ok hbuild
  have hname : Clean (typeObjectName scope table) := by
    simp +decide [typeObjectName, clean_declaredName]
  refine Syntax.clean_print_constant hunit hname ?_ true
  refine namedProperties_of_forall fun property hmem => ?_
  obtain ⟨column, _, entry, _, rfl⟩ := exists_of_mem_right hproperties hmem
  trivial

variable (hlegible : ∀ name entry, scope.types.find? name = some entry → Legible entry)

include hlegible

theorem clean_interface {variant : Variant}
    (hbuild : interface scope table variant = .ok statement) : Clean (statement.print unit) := by
  obtain ⟨members, hmembers, rfl⟩ := interface_eq_ok hbuild
  have hname : Clean (interfaceName scope table variant) := by
    cases variant <;> simp +decide [interfaceName, clean_declaredName, Variant.suffix]
  refine Syntax.clean_print_interface hunit hname (fun member hmember => ?_) true
  obtain ⟨column, _, entry, hentry, rfl⟩ := exists_of_mem_right hmembers hmember
  exact clean_memberOf (hlegible _ entry hentry) variant column 1

theorem clean_validator (hbuild : validator scope table = .ok statement) :
    Clean (statement.print unit) := by
  obtain ⟨properties, hproperties, rfl⟩ := validator_eq_ok hbuild
  have hname : Clean (validatorName scope table) := by
    simp +decide [validatorName, validatorOf, clean_declaredName]
  have harguments : NamedArguments [.object properties] := by
    refine ⟨namedProperties_of_forall fun property hmem => ?_, trivial⟩
    obtain ⟨column, _, entry, hentry, rfl⟩ := exists_of_mem_right hproperties hmem
    exact named_wrapCheck column (hlegible _ entry hentry).check
  exact Syntax.clean_print_constant hunit hname
    (named_method named_checks (by decide) harguments) true

theorem Draft.clean_build {draft : Draft} (hbuild : draft.build scope = .ok statement) :
    Clean (statement.print unit) := by
  cases draft with
  | enum type =>
      obtain rfl := Except.ok.inj hbuild
      exact clean_enumType hunit type
  | interface table variant => exact clean_interface hunit hlegible hbuild
  | typeObject table => exact clean_typeObject hunit hbuild
  | validator table => exact clean_validator hunit hlegible hbuild

omit hunit hlegible in
theorem Draft.isComment_build {draft : Draft} (hbuild : draft.build scope = .ok statement) :
    statement.isComment = false := by
  cases draft with
  | enum type =>
      obtain rfl := Except.ok.inj hbuild
      rfl
  | interface table variant =>
      obtain ⟨_, _, rfl⟩ := interface_eq_ok hbuild
      rfl
  | typeObject table =>
      obtain ⟨_, _, rfl⟩ := typeObject_eq_ok hbuild
      rfl
  | validator table =>
      obtain ⟨_, _, rfl⟩ := validator_eq_ok hbuild
      rfl

end Declarations

end TableTypes.Declaration
