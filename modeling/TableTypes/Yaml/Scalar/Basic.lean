import TableTypes.Yaml.Cursor

/-!
# Scalars in a YAML text

A scalar is written plainly, in single or double quotes, or as a block of lines. Wherever a
scalar goes over several lines, a single line break is folded into a space and of several breaks
the first is dropped.
-/

namespace TableTypes.Yaml

/-- A line break and those after it, folded. -/
def foldBreaks (first : Char) (more : List Char) : List Char :=
  if breakOf first ≠ '\n' then breakOf first :: more
  else if more.isEmpty then [' '] else more

/-- A scalar that was read: its text, the place after it, and whether the last thing read was
the end of a line. -/
structure Scalar where
  text : List Char
  after : Cursor
  broken : Bool := false

end TableTypes.Yaml
