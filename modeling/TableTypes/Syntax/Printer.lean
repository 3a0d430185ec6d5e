import TableTypes.Casing.Identifier
import TableTypes.Syntax.Node
import TableTypes.Text.Quoted

/-!
# Printing a module

Every node as source text: one statement after another, members and properties each on a line of
their own, indented by their depth. A name that is no identifier is quoted, and a union inside
an array is put in parentheses, because the array binds tighter.
-/

namespace TableTypes.Syntax

/-- How a module is laid out. -/
structure Layout where
  /-- What ends a line. -/
  newLine : String := "\n"
  /-- Whether comments are left out. -/
  removeComments : Bool := false
  /-- One step of indentation. -/
  indent : String := "    "
  deriving DecidableEq, Repr

/-- The name may stand without quotes. One line break after an identifier does not count. -/
def isIdentifier (name : String) : Bool :=
  match name.toList with
  | [] => false
  | c :: rest =>
    Casing.isIdentifierStart c &&
      (rest.dropWhile Casing.isIdentifierPart = [] ||
        rest.dropWhile Casing.isIdentifierPart = ['\n'])

/-- A property name, quoted if it is no identifier. -/
def propertyName (name : String) : String :=
  if isIdentifier name then name else Text.quote name

/-- Indentation for a depth. -/
def indentation (unit : String) (depth : Nat) : String :=
  String.join (List.replicate depth unit)

mutual

/-- A type whose first line stands at the given depth. -/
def TypeNode.print (unit : String) (depth : Nat) : TypeNode → String
  | .keyword word => word
  | .reference name [] => name
  | .reference name (first :: rest) =>
    name ++ "<" ++ ", ".intercalate (printTypes unit depth (first :: rest)) ++ ">"
  | .array (.union types) => "(" ++ " | ".intercalate (printTypes unit depth types) ++ ")[]"
  | .array element => element.print unit depth ++ "[]"
  | .union types => " | ".intercalate (printTypes unit depth types)
  | .literal [] => "\x7b\x7d"
  | .literal (first :: rest) =>
    "\x7b\n" ++ printMembers unit (depth + 1) (first :: rest) ++ indentation unit depth ++ "\x7d"

/-- Several types at the same depth. -/
def printTypes (unit : String) (depth : Nat) : List TypeNode → List String
  | [] => []
  | type :: rest => type.print unit depth :: printTypes unit depth rest

/-- A member at the given depth, without the semicolon. -/
def Member.print (unit : String) (depth : Nat) : Member → String
  | .property name type optional =>
    propertyName name ++ (if optional then "?" else "") ++ ": " ++ type.print unit depth
  | .index parameter parameterType type =>
    "[" ++ parameter ++ ": " ++ parameterType.print unit depth ++ "]: " ++ type.print unit depth

/-- Members, each on a line of its own. -/
def printMembers (unit : String) (depth : Nat) : List Member → String
  | [] => ""
  | member :: rest =>
    indentation unit depth ++ member.print unit depth ++ ";\n" ++ printMembers unit depth rest

end

mutual

/-- An expression whose first line stands at the given depth. -/
def Expression.print (unit : String) (depth : Nat) : Expression → String
  | .identifier text => text
  | .string value => Text.quote value
  | .access target name => target.print unit depth ++ "." ++ name
  | .call callee arguments =>
    callee.print unit depth ++ "(" ++ ", ".intercalate (printArguments unit depth arguments) ++ ")"
  | .arrow body => "() => " ++ body.print unit depth
  | .object [] => "\x7b\x7d"
  | .object (first :: rest) =>
    "\x7b\n" ++ ",\n".intercalate (printProperties unit (depth + 1) (first :: rest)) ++ "\n" ++
      indentation unit depth ++ "\x7d"
  | .asConst operand => operand.print unit depth ++ " as const"

/-- The arguments of a call. -/
def printArguments (unit : String) (depth : Nat) : List Expression → List String
  | [] => []
  | argument :: rest => argument.print unit depth :: printArguments unit depth rest

/-- Properties of an object, each indented to its depth. -/
def printProperties (unit : String) (depth : Nat) : List (String × Expression) → List String
  | [] => []
  | (name, initializer) :: rest =>
    (indentation unit depth ++ propertyName name ++ ": " ++ initializer.print unit depth) ::
      printProperties unit depth rest

end

/-- One member of an enum. -/
def printEnumMember (unit : String) (member : String × String) : String :=
  indentation unit 1 ++ propertyName member.1 ++ " = " ++ Text.quote member.2

/-- What marks an exported declaration. -/
def exportMark (exported : Bool) : String :=
  if exported then "export " else ""

/-- A statement without its final line break. -/
def Statement.print (unit : String) : Statement → String
  | .interface name members exported =>
    exportMark exported ++ "interface " ++ name ++ " \x7b\n" ++
      printMembers unit 1 members ++ "\x7d"
  | .enum name members exported =>
    exportMark exported ++ "enum " ++ name ++ " \x7b\n" ++
      (if members.isEmpty then ""
        else ",\n".intercalate (members.map (printEnumMember unit)) ++ "\n") ++ "\x7d"
  | .typeAlias name parameters type exported =>
    exportMark exported ++ "type " ++ name ++
      (if parameters.isEmpty then "" else "<" ++ ", ".intercalate parameters ++ ">") ++
      " = " ++ type.print unit 0 ++ ";"
  | .constant name initializer exported =>
    exportMark exported ++ "const " ++ name ++ " = " ++ initializer.print unit 0 ++ ";"
  | .importNames names source =>
    "import \x7b " ++ ", ".intercalate names ++ " \x7d from " ++ Text.quote source ++ ";"
  | .comment text => "// " ++ text

/-- The statement is a comment. -/
def Statement.isComment : Statement → Bool
  | .comment _ => true
  | _ => false

/-- A text with `newLine` for every line break. -/
def withNewLines (newLine : String) (text : String) : String :=
  String.ofList (text.toList.flatMap fun c => if c = '\n' then newLine.toList else [c])

/-- A module: its statements in order, each ended by a line break. -/
def printModule (layout : Layout) (statements : List Statement) : String :=
  let kept := if layout.removeComments then statements.filter (!·.isComment) else statements
  withNewLines layout.newLine
    (String.join (kept.map fun statement => statement.print layout.indent ++ "\n"))

end TableTypes.Syntax
