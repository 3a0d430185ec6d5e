import TableTypes.Declaration.Validator

/-! # Names in a module

A statement binds names for values, for types or for both; an enum is both. It refers to types in
its members, and its expressions mention values. A module is closed if nothing that it refers to
is missing from it. Expressions are searched with all their parts, so a name counts wherever in
an expression it stands.
-/

namespace TableTypes.Syntax

mutual

/-- The names of all types that a type refers to. -/
def TypeNode.references : TypeNode → List String
  | .keyword _ => []
  | .reference name arguments => name :: referencesOfTypes arguments
  | .array element => element.references
  | .union types => referencesOfTypes types
  | .literal members => referencesOfMembers members

def referencesOfTypes : List TypeNode → List String
  | [] => []
  | type :: rest => type.references ++ referencesOfTypes rest

def Member.references : Member → List String
  | .property _ type _ => type.references
  | .index _ parameterType type => parameterType.references ++ type.references

def referencesOfMembers : List Member → List String
  | [] => []
  | member :: rest => member.references ++ referencesOfMembers rest

end

mutual

/-- An expression and all its parts. -/
def Expression.subterms : Expression → List Expression
  | .identifier text => [.identifier text]
  | .string value => [.string value]
  | .access target name => .access target name :: target.subterms
  | .call callee arguments =>
    .call callee arguments :: (callee.subterms ++ subtermsOfArguments arguments)
  | .arrow body => .arrow body :: body.subterms
  | .object properties => .object properties :: subtermsOfProperties properties
  | .asConst operand => .asConst operand :: operand.subterms

def subtermsOfArguments : List Expression → List Expression
  | [] => []
  | argument :: rest => argument.subterms ++ subtermsOfArguments rest

def subtermsOfProperties : List (String × Expression) → List Expression
  | [] => []
  | (_, initializer) :: rest => initializer.subterms ++ subtermsOfProperties rest

end

namespace Statement

/-- The names that the statement binds for values. -/
def boundValues : Statement → List String
  | .importNames names _ => names
  | .enum name _ _ | .constant name _ _ => [name]
  | .interface .. | .typeAlias .. | .comment _ => []

/-- The names that the statement binds for types. -/
def boundTypes : Statement → List String
  | .interface name _ _ | .typeAlias name _ _ _ | .enum name _ _ => [name]
  | .importNames .. | .constant .. | .comment _ => []

/-- The type parameters that the statement binds for itself. -/
def typeParameters : Statement → List String
  | .typeAlias _ parameters _ _ => parameters
  | .interface .. | .enum .. | .importNames .. | .constant .. | .comment _ => []

/-- The names of all types that the statement refers to. -/
def typeReferences : Statement → List String
  | .interface _ members _ => referencesOfMembers members
  | .typeAlias _ _ type _ => type.references
  | .enum .. | .importNames .. | .constant .. | .comment _ => []

/-- All expressions of the statement, with their parts. -/
def expressions : Statement → List Expression
  | .constant _ initializer _ => initializer.subterms
  | .interface .. | .typeAlias .. | .enum .. | .importNames .. | .comment _ => []

end Statement

open Declaration (checks validatorOf)

/-- Nothing that the module refers to is missing from it. -/
structure Closed (module : List Statement) : Prop where
  /-- A type is built in, or a parameter of its statement, or declared. -/
  types : ∀ statement ∈ module, ∀ name ∈ statement.typeReferences,
    name = "Date" ∨ name ∈ statement.typeParameters ∨ name ∈ module.flatMap (·.boundTypes)
  /-- A check against an enum is against one that is declared. -/
  enums : ∀ statement ∈ module, ∀ arguments,
    checks.method "nativeEnum" arguments ∈ statement.expressions →
    ∃ name members exported, arguments = [.identifier name] ∧
      .enum name members exported ∈ module
  /-- A deferred check is by a validator that is declared. -/
  validators : ∀ statement ∈ module, ∀ arguments,
    checks.method "lazy" arguments ∈ statement.expressions →
    ∃ typeName initializer exported,
      arguments = [.arrow (.identifier (validatorOf typeName))] ∧
      .constant (validatorOf typeName) initializer exported ∈ module
  /-- The library of checks is imported if it is mentioned. -/
  library : ∀ statement ∈ module, checks ∈ statement.expressions →
    ∃ names source, .importNames names source ∈ module ∧ "z" ∈ names
  /-- The built-in type is not declared again. -/
  date : "Date" ∉ module.flatMap (·.boundTypes)

theorem mem_referencesOfMembers {name : String} {members : List Member} :
    name ∈ referencesOfMembers members ↔ ∃ member ∈ members, name ∈ member.references := by
  induction members with
  | nil => simp [referencesOfMembers]
  | cons member rest ih => simp [referencesOfMembers, ih]

section Subterms

variable {e : Expression}

theorem mem_subtermsOfArguments {arguments : List Expression} :
    e ∈ subtermsOfArguments arguments ↔ ∃ argument ∈ arguments, e ∈ argument.subterms := by
  induction arguments with
  | nil => simp [subtermsOfArguments]
  | cons argument rest ih => simp [subtermsOfArguments, ih]

theorem mem_subtermsOfProperties {properties : List (String × Expression)} :
    e ∈ subtermsOfProperties properties ↔ ∃ property ∈ properties, e ∈ property.2.subterms := by
  induction properties with
  | nil => simp [subtermsOfProperties]
  | cons property rest ih => simp [subtermsOfProperties, ih]

theorem mem_subterms_method {target : Expression} {name : String} {arguments : List Expression} :
    e ∈ (target.method name arguments).subterms ↔
      e = target.method name arguments ∨ e = .access target name ∨ e ∈ target.subterms ∨
        ∃ argument ∈ arguments, e ∈ argument.subterms := by
  simp only [Expression.method, Expression.subterms, List.mem_cons, List.mem_append,
    List.cons_append, mem_subtermsOfArguments]

theorem method_inj {target target' : Expression} {name name' : String}
    {arguments arguments' : List Expression} :
    target.method name arguments = target'.method name' arguments' ↔
      target = target' ∧ name = name' ∧ arguments = arguments' := by
  simp [Expression.method, and_assoc]

/-- A call of one method stands in a call of another one only inside its operands. -/
theorem call_mem_subterms_method {caller target : Expression} {method name : String}
    {inner arguments : List Expression} (hne : method ≠ name) :
    caller.method method inner ∈ (target.method name arguments).subterms ↔
      caller.method method inner ∈ target.subterms ∨
        ∃ argument ∈ arguments, caller.method method inner ∈ argument.subterms := by
  rw [mem_subterms_method]
  have hcall : caller.method method inner ≠ target.method name arguments :=
    fun heq => hne (method_inj.mp heq).2.1
  have haccess : caller.method method inner ≠ .access target name := by
    intro heq
    cases heq
  rw [or_iff_right hcall, or_iff_right haccess]

theorem call_mem_subterms_object {caller : Expression} {method : String}
    {inner : List Expression} {properties : List (String × Expression)} :
    caller.method method inner ∈ (Expression.object properties).subterms ↔
      ∃ property ∈ properties, caller.method method inner ∈ property.2.subterms := by
  rw [Expression.subterms, List.mem_cons, mem_subtermsOfProperties]
  apply or_iff_right
  intro heq
  cases heq

end Subterms

end TableTypes.Syntax
