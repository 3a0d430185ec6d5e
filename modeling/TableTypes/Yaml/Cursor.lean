/-!
# Places in a YAML text

What is left of a text, and where that is. YAML looks at characters a few at a time: at the end
of a line, at what may follow an indicator, and at the column, which decides how a text nests.
-/

namespace TableTypes.Yaml

/-- Ends a line. -/
def isBreak (c : Char) : Bool :=
  c = '\n' || c = '\r' || c = '\u0085' || c = '\u2028' || c = '\u2029'

/-- What a line break stands for inside a scalar. -/
def breakOf (c : Char) : Char :=
  if c = '\u2028' ∨ c = '\u2029' then c else '\n'

/-- May stand in a document at all. -/
def isAllowed (c : Char) : Bool :=
  let n := c.toNat
  n = 0x9 || n = 0xA || n = 0xD || (0x20 ≤ n && n ≤ 0x7E) || n = 0x85 ||
    (0xA0 ≤ n && n ≤ 0xD7FF) || (0xE000 ≤ n && n ≤ 0xFFFD) || 0x10000 ≤ n

/-- The line is at its end. -/
def atLineEnd : List Char → Bool
  | [] => true
  | c :: _ => isBreak c

/-- A space or the end of the line follows. -/
def atSpace : List Char → Bool
  | [] => true
  | c :: _ => c = ' ' || isBreak c

/-- A space, a tab or the end of the line follows. -/
def atBlank : List Char → Bool
  | [] => true
  | c :: _ => c = ' ' || c = '\t' || isBreak c

/-- Three dashes or three points stand alone: a document begins or ends here. -/
def atBoundary : List Char → Bool
  | '-' :: '-' :: '-' :: rest => atBlank rest
  | '.' :: '.' :: '.' :: rest => atBlank rest
  | _ => false

/-- May stand in the name of an anchor, a tag handle or a directive. -/
def isWordChar (c : Char) : Bool :=
  c.isAlphanum || c = '-' || c = '_'

/-- The rest after spaces. -/
def dropSpaces (s : List Char) : List Char :=
  s.dropWhile (· = ' ')

/-- The rest after a comment, if there is one. -/
def dropComment (s : List Char) : List Char :=
  match s with
  | '#' :: _ => s.dropWhile fun c => !isBreak c
  | s => s

/-- What is left of a text, and where that is. The mark of the byte order takes no column. -/
structure Cursor where
  rest : List Char
  index : Nat := 0
  line : Nat := 0
  column : Nat := 0

namespace Cursor

/-- The place after the next character. -/
def step (at_ : Cursor) : Cursor :=
  match at_.rest with
  | [] => at_
  | c :: rest =>
    if isBreak c then ⟨rest, at_.index + 1, at_.line + 1, 0⟩
    else ⟨rest, at_.index + 1, at_.line, if c = '\uFEFF' then at_.column else at_.column + 1⟩

/-- The place after a number of characters. -/
def skip : (count : Nat) → Cursor → Cursor
  | 0, at_ => at_
  | count + 1, at_ => skip count at_.step

/-- The place at which a later rest of the same text begins. -/
def goTo (at_ : Cursor) (rest : List Char) : Cursor :=
  at_.skip (at_.rest.length - rest.length)

/-- The next character. -/
def peek? (at_ : Cursor) : Option Char :=
  at_.rest.head?

end Cursor

end TableTypes.Yaml
