import TableTypes.Casing.Words
import TableTypes.Text.LowerCase

/-!
# Naming styles

A style joins the words of a name in one convention, or leaves the name alone. A style is found
by its name in any letter case; a name that no style has is refused with the list of styles.
-/

namespace TableTypes.Casing

/-- The naming conventions, in the order in which option messages list them. -/
inductive Style where
  | none
  | pascal
  | camel
  | snake
  | constant
  | kebab
  | header
  deriving DecidableEq, Repr, Inhabited

/-- The first letter as a capital and the others small. -/
def capitalize : List Char → List Char
  | [] => []
  | c :: rest => c.toUpper :: rest.map Char.toLower

namespace Style

/-- Every style, in the order of declaration. -/
def all : List Style := [none, pascal, camel, snake, constant, kebab, header]

/-- The name by which a style is chosen. -/
def name : Style → String
  | none => "none"
  | pascal => "pascal"
  | camel => "camel"
  | snake => "snake"
  | constant => "constant"
  | kebab => "kebab"
  | header => "header"

/-- The style with exactly this name. -/
def ofName? (name : String) : Option Style :=
  all.find? fun style => style.name = name

/-- The style that a name denotes in any letter case. -/
def find? (name : String) : Option Style :=
  ofName? (Text.lower name)

/-- Words in the style, before they are joined. -/
def dress : Style → List (List Char) → List (List Char)
  | pascal, words | header, words => words.map capitalize
  | snake, words | kebab, words => words.map (·.map Char.toLower)
  | constant, words => words.map (·.map Char.toUpper)
  | camel, first :: rest => first.map Char.toLower :: rest.map capitalize
  | camel, [] => []
  | none, words => words

/-- What stands between two words. -/
def separator : Style → List Char
  | snake | constant => ['_']
  | kebab | header => ['-']
  | none | pascal | camel => []

/-- A name in the style, character by character. -/
def applyChars (style : Style) (name : List Char) : List Char :=
  if style = none then name
  else style.separator.intercalate (style.dress (splitChars name))

/-- A name in the style. -/
def apply (style : Style) (name : String) : String :=
  String.ofList (style.applyChars name.toList)

/-- The text that refuses a name which no style has; it lists the styles alphabetically. -/
def unknownMessage (name : String) : String :=
  "Unknown case transformation '" ++ name ++ "'. Expected one of: " ++
    ", ".intercalate ["camel", "constant", "header", "kebab", "none", "pascal", "snake"]

end Style

/-- The styles for the three kinds of emitted names. -/
structure Transformations where
  /-- For column names. -/
  columns : Style := .none
  /-- For the members of an enum. -/
  enumMembers : Style := .pascal
  /-- For the names of enums and tables. -/
  typeNames : Style := .pascal
  deriving DecidableEq, Repr

/-- Every name stays as it is. -/
def Transformations.identity : Transformations := ⟨.none, .none, .none⟩

end TableTypes.Casing
