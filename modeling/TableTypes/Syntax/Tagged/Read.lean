import TableTypes.Syntax.Node
import TableTypes.Value.Parts

/-!
# Reading tagged nodes

A node as a map whose field `node` names its kind. Such a map may put any node anywhere; reading
it walks the nodes in the order in which they are printed and refuses the first that stands in a
place not meant for it. Fields that have a default may be missing.
-/

namespace TableTypes.Syntax

/-- Where a node stands. -/
inductive Place where
  | statement
  | type
  | expression
  | member
  deriving DecidableEq, Repr

/-- A node or another value stands in a place that is not meant for its kind. -/
structure Misplaced where
  place : Place
  kind : String
  deriving DecidableEq, Repr

namespace Misplaced

/-- The text that refuses the node. -/
def message (m : Misplaced) : String :=
  "Cannot print " ++ (match m.place with
    | .statement => "statement"
    | .type => "type node"
    | .expression => "expression"
    | .member => "member") ++ " of type " ++ m.kind

end Misplaced

/-- The kind of a tagged node; a value that is no node has the kind of the value. -/
def kindOf (v : Value) : String :=
  match v.field? "node" with
  | some (.text kind) => kind
  | _ => if v.kind = "list" then "tuple" else v.kind

/-- A field that holds a text. -/
def textField (v : Value) (name : String) : String :=
  ((v.field? name).bind Value.text?).getD ""

/-- The name in a field that holds an identifier. -/
def nameField (v : Value) : String :=
  ((v.field? "name").map (textField · "text")).getD ""

/-- The texts in a field that holds a list of them. -/
def textsField (v : Value) (name : String) : List String :=
  match v.field? name with
  | some (.list items) => items.filterMap Value.text?
  | _ => []

/-- A flag, given by any value that counts as given. -/
def flagField (v : Value) (name : String) (absent : Bool) : Bool :=
  ((v.field? name).map Value.truthy).getD absent

mutual

/-- Read a type. -/
def TypeNode.ofTagged (v : Value) : Except Misplaced TypeNode :=
  if kindOf v = "KeywordType" then .ok (.keyword (textField v "keyword"))
  else if kindOf v = "TypeReference" then do
    let arguments ← typesIn v "type_arguments"
    return .reference (textField v "name") arguments
  else if kindOf v = "ArrayType" then do
    let element ← typeIn v "element"
    return .array element
  else if kindOf v = "UnionType" then do
    let types ← typesIn v "types"
    return .union types
  else if kindOf v = "TypeLiteral" then do
    let members ← membersIn v
    return .literal members
  else .error ⟨.type, kindOf v⟩
termination_by (sizeOf v, 2)

/-- Read the type in a field. -/
def typeIn (v : Value) (name : String) : Except Misplaced TypeNode :=
  match v.part? name with
  | some ⟨part, _⟩ => TypeNode.ofTagged part
  | none => .error ⟨.type, Value.null.kind⟩
termination_by (sizeOf v, 1)

/-- Read the types in a field that holds a list. -/
def typesIn (v : Value) (name : String) : Except Misplaced (List TypeNode) :=
  match v.part? name with
  | some ⟨part, _⟩ => part.parts.mapM fun ⟨item, _⟩ => TypeNode.ofTagged item
  | none => .ok []
termination_by (sizeOf v, 1)

/-- Read the members of an interface or an object type. -/
def membersIn (v : Value) : Except Misplaced (List Member) :=
  match v.part? "members" with
  | some ⟨part, _⟩ => part.parts.mapM fun ⟨item, _⟩ => Member.ofTagged item
  | none => .ok []
termination_by (sizeOf v, 1)

/-- Read a member. -/
def Member.ofTagged (v : Value) : Except Misplaced Member :=
  if kindOf v = "PropertySignature" then do
    let type ← typeIn v "type"
    return .property (textField v "name") type (flagField v "optional" false)
  else if kindOf v = "IndexSignature" then do
    let parameterType ← typeIn v "parameter_type"
    let type ← typeIn v "type"
    return .index (textField v "parameter") parameterType type
  else .error ⟨.member, kindOf v⟩
termination_by (sizeOf v, 2)

end

mutual

/-- Read an expression. -/
def Expression.ofTagged (v : Value) : Except Misplaced Expression :=
  if kindOf v = "Identifier" then .ok (.identifier (textField v "text"))
  else if kindOf v = "StringLiteral" then .ok (.string (textField v "value"))
  else if kindOf v = "PropertyAccess" then do
    let target ← expressionIn v "expression"
    return .access target (textField v "name")
  else if kindOf v = "Call" then do
    let arguments ← argumentsIn v
    let callee ← expressionIn v "callee"
    return .call callee arguments
  else if kindOf v = "ArrowFunction" then do
    let body ← expressionIn v "body"
    return .arrow body
  else if kindOf v = "ObjectLiteral" then do
    let properties ← propertiesIn v
    return .object properties
  else if kindOf v = "AsConst" then do
    let operand ← expressionIn v "expression"
    return .asConst operand
  else .error ⟨.expression, kindOf v⟩
termination_by (sizeOf v, 2)

/-- Read the expression in a field. -/
def expressionIn (v : Value) (name : String) : Except Misplaced Expression :=
  match v.part? name with
  | some ⟨part, _⟩ => Expression.ofTagged part
  | none => .error ⟨.expression, Value.null.kind⟩
termination_by (sizeOf v, 1)

/-- Read the arguments of a call. -/
def argumentsIn (v : Value) : Except Misplaced (List Expression) :=
  match v.part? "arguments" with
  | some ⟨part, _⟩ => part.parts.mapM fun ⟨item, _⟩ => Expression.ofTagged item
  | none => .ok []
termination_by (sizeOf v, 1)

/-- Read the properties of an object. -/
def propertiesIn (v : Value) : Except Misplaced (List (String × Expression)) :=
  match v.part? "properties" with
  | some ⟨part, _⟩ => part.parts.mapM fun ⟨item, _⟩ => do
      let initializer ← expressionIn item "initializer"
      return (textField item "name", initializer)
  | none => .ok []
termination_by (sizeOf v, 1)

end

/-- The name and the value of a member of an enum. -/
def enumMember (v : Value) : String × String :=
  (textField v "name", ((v.field? "initializer").map (textField · "value")).getD "")

/-- Read a statement. -/
def Statement.ofTagged (v : Value) : Except Misplaced Statement := do
  let exported := flagField v "exported" true
  match kindOf v with
  | "InterfaceDeclaration" => return .interface (nameField v) (← membersIn v) exported
  | "EnumDeclaration" =>
    let members := match v.field? "members" with
      | some (.list items) => items.map enumMember
      | _ => []
    return .enum (nameField v) members exported
  | "TypeAliasDeclaration" =>
    return .typeAlias (nameField v) (textsField v "type_parameters") (← typeIn v "type") exported
  | "ConstDeclaration" =>
    return .constant (nameField v) (← expressionIn v "initializer") exported
  | "ImportDeclaration" => return .importNames (textsField v "names") (textField v "module")
  | "Comment" => return .comment (textField v "text")
  | kind => .error ⟨.statement, kind⟩

end TableTypes.Syntax
