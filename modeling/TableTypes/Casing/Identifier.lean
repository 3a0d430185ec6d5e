/-!
# Declarable names

A declared name starts with an ASCII letter, underscore or dollar sign and goes on with those
and digits. Any text becomes one by putting underscores for the other characters and in front
of a leading digit.
-/

namespace TableTypes.Casing

/-- May start a declared name. -/
def isIdentifierStart (c : Char) : Bool :=
  c.isAlpha || c = '_' || c = '$'

/-- May stand in a declared name after its start. -/
def isIdentifierPart (c : Char) : Bool :=
  c.isAlphanum || c = '_' || c = '$'

/-- A declarable name that keeps every character it can. -/
def identifierChars (name : List Char) : List Char :=
  let safe := name.map fun c => if isIdentifierPart c then c else '_'
  match safe with
  | [] => ['_']
  | c :: _ => if c.isDigit then '_' :: safe else safe

/-- A text as a declarable name. -/
def toIdentifier (name : String) : String :=
  String.ofList (identifierChars name.toList)

/-- The whole text is one start character and then part characters. -/
def Declarable (name : List Char) : Prop :=
  ∃ c rest, name = c :: rest ∧ isIdentifierStart c ∧ ∀ d ∈ rest, isIdentifierPart d

end TableTypes.Casing
