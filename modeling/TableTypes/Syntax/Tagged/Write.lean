import TableTypes.Syntax.Node
import TableTypes.Value.Basic

/-!
# Writing tagged nodes

A node as a map whose field `node` names its kind. Every field of the node is given.
-/

namespace TableTypes.Syntax

/-- A node of a kind with its other fields. -/
def tagged (kind : String) (fields : List (String × Value)) : Value :=
  .ofFields (("node", .text kind) :: fields)

/-- A list of texts as a value. -/
def textList (texts : List String) : Value :=
  .list (texts.map .text)

mutual

/-- A type as a tagged node. -/
def TypeNode.toTagged : TypeNode → Value
  | .keyword word => tagged "KeywordType" [("keyword", .text word)]
  | .reference name arguments =>
    tagged "TypeReference" [("name", .text name), ("type_arguments", .list (taggedTypes arguments))]
  | .array element => tagged "ArrayType" [("element", element.toTagged)]
  | .union types => tagged "UnionType" [("types", .list (taggedTypes types))]
  | .literal members => tagged "TypeLiteral" [("members", .list (taggedMembers members))]

/-- Types as tagged nodes. -/
def taggedTypes : List TypeNode → List Value
  | [] => []
  | type :: rest => type.toTagged :: taggedTypes rest

/-- A member as a tagged node. -/
def Member.toTagged : Member → Value
  | .property name type optional =>
    tagged "PropertySignature"
      [("name", .text name), ("type", type.toTagged), ("optional", .bool optional)]
  | .index parameter parameterType type =>
    tagged "IndexSignature" [("parameter", .text parameter),
      ("parameter_type", parameterType.toTagged), ("type", type.toTagged)]

/-- Members as tagged nodes. -/
def taggedMembers : List Member → List Value
  | [] => []
  | member :: rest => member.toTagged :: taggedMembers rest

end

mutual

/-- An expression as a tagged node. -/
def Expression.toTagged : Expression → Value
  | .identifier text => tagged "Identifier" [("text", .text text)]
  | .string value => tagged "StringLiteral" [("value", .text value)]
  | .access target name =>
    tagged "PropertyAccess" [("expression", target.toTagged), ("name", .text name)]
  | .call callee arguments =>
    tagged "Call" [("callee", callee.toTagged), ("arguments", .list (taggedArguments arguments))]
  | .arrow body => tagged "ArrowFunction" [("body", body.toTagged)]
  | .object properties =>
    tagged "ObjectLiteral" [("properties", .list (taggedProperties properties))]
  | .asConst operand => tagged "AsConst" [("expression", operand.toTagged)]

/-- Expressions as tagged nodes. -/
def taggedArguments : List Expression → List Value
  | [] => []
  | argument :: rest => argument.toTagged :: taggedArguments rest

/-- Properties of an object as tagged nodes. -/
def taggedProperties : List (String × Expression) → List Value
  | [] => []
  | (name, initializer) :: rest =>
    tagged "PropertyAssignment" [("name", .text name), ("initializer", initializer.toTagged)] ::
      taggedProperties rest

end

/-- A declared name as a tagged node. -/
def taggedName (name : String) : Value :=
  tagged "Identifier" [("text", .text name)]

/-- A member of an enum as a tagged node. -/
def taggedEnumMember (member : String × String) : Value :=
  tagged "EnumMember" [("name", .text member.1),
    ("initializer", tagged "StringLiteral" [("value", .text member.2)])]

/-- A statement as a tagged node. -/
def Statement.toTagged : Statement → Value
  | .importNames names source =>
    tagged "ImportDeclaration" [("names", textList names), ("module", .text source)]
  | .interface name members exported =>
    tagged "InterfaceDeclaration" [("name", taggedName name),
      ("members", .list (taggedMembers members)), ("exported", .bool exported)]
  | .typeAlias name parameters type exported =>
    tagged "TypeAliasDeclaration" [("name", taggedName name), ("type", type.toTagged),
      ("type_parameters", textList parameters), ("exported", .bool exported)]
  | .enum name members exported =>
    tagged "EnumDeclaration" [("name", taggedName name),
      ("members", .list (members.map taggedEnumMember)), ("exported", .bool exported)]
  | .constant name initializer exported =>
    tagged "ConstDeclaration" [("name", taggedName name),
      ("initializer", initializer.toTagged), ("exported", .bool exported)]
  | .comment text => tagged "Comment" [("text", .text text)]

end TableTypes.Syntax
