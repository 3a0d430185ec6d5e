/-!
# Declarations of a module

The part of the TypeScript language that describes database tables: types, expressions that
check and tag values at run time, and the statements that declare both. Each kind of node has
its own type, so a node can stand only where the language allows it.
-/

namespace TableTypes.Syntax

mutual

/-- A type. -/
inductive TypeNode where
  /-- A type with a name of its own in the language, such as `number`. -/
  | keyword (word : String)
  /-- A named type, with the types it is applied to. -/
  | reference (name : String) (arguments : List TypeNode)
  /-- A list of elements. -/
  | array (element : TypeNode)
  /-- One of several types. -/
  | union (types : List TypeNode)
  /-- An object with the given members. -/
  | literal (members : List Member)

/-- A member of an interface or of an object type. -/
inductive Member where
  /-- A named property, which may be left out if it is optional. -/
  | property (name : String) (type : TypeNode) (optional : Bool)
  /-- Any number of properties whose names and values have the given types. -/
  | index (parameter : String) (parameterType : TypeNode) (type : TypeNode)

end

/-- An expression. -/
inductive Expression where
  | identifier (text : String)
  | string (value : String)
  /-- A property of an object. -/
  | access (target : Expression) (name : String)
  | call (callee : Expression) (arguments : List Expression)
  /-- A function without parameters. -/
  | arrow (body : Expression)
  | object (properties : List (String × Expression))
  /-- An expression whose type is as narrow as its value. -/
  | asConst (operand : Expression)

/-- A statement of a module. -/
inductive Statement where
  | importNames (names : List String) (source : String)
  | interface (name : String) (members : List Member) (exported : Bool)
  | typeAlias (name : String) (parameters : List String) (type : TypeNode) (exported : Bool)
  /-- An enum with the names and the values of its members. -/
  | enum (name : String) (members : List (String × String)) (exported : Bool)
  | constant (name : String) (initializer : Expression) (exported : Bool)
  | comment (text : String)

namespace TypeNode

/-- The type of numbers that fit a double. -/
def number : TypeNode := .keyword "number"

/-- The type of texts. -/
def string : TypeNode := .keyword "string"

/-- The type of truth values. -/
def boolean : TypeNode := .keyword "boolean"

/-- The type of the missing value. -/
def null : TypeNode := .keyword "null"

/-- A named type that is applied to nothing. -/
def named (name : String) : TypeNode := .reference name []

end TypeNode

/-- The call of a method of an expression. -/
def Expression.method (target : Expression) (name : String) (arguments : List Expression) :
    Expression :=
  .call (.access target name) arguments

end TableTypes.Syntax
