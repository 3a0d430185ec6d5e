import TableTypes.Text.Hex
import TableTypes.Text.Printable

/-!
# Text literals

A text as messages show it: in single quotes, or in double quotes if it holds a single quote and
no double one. Characters that are not printable are escaped with as few digits as they need.
-/

namespace TableTypes.Text

/-- A character inside a literal whose quotes are `mark`. -/
def literalChar (mark c : Char) : List Char :=
  if c = mark ∨ c = '\\' then ['\\', c]
  else if c = '\n' then ['\\', 'n']
  else if c = '\r' then ['\\', 'r']
  else if c = '\t' then ['\\', 't']
  else if isPrintable c then [c]
  else if c.toNat < 0x100 then '\\' :: 'x' :: hex 2 c.toNat
  else if c.toNat < 0x10000 then '\\' :: 'u' :: hex 4 c.toNat
  else '\\' :: 'U' :: hex 8 c.toNat

/-- The quotes that a text takes: single ones unless only they would need an escape. -/
def literalMark (s : List Char) : Char :=
  if s.contains '\'' && !s.contains '"' then '"' else '\''

/-- A text as a literal. -/
def literal (s : String) : String :=
  let chars := s.toList
  let mark := literalMark chars
  String.ofList (mark :: chars.flatMap (literalChar mark) ++ [mark])

/-- A literal in which characters outside ASCII are escaped too. -/
def onlyAscii (written : String) : String :=
  String.ofList <| written.toList.flatMap fun c =>
    if c.toNat < 0x80 then [c]
    else if c.toNat < 0x100 then '\\' :: 'x' :: hex 2 c.toNat
    else if c.toNat < 0x10000 then '\\' :: 'u' :: hex 4 c.toNat
    else '\\' :: 'U' :: hex 8 c.toNat

/-- A row of bytes as a literal, which has only ASCII as it is. -/
def bytesLiteral (bytes : List UInt8) : String :=
  let chars := bytes.map fun b => Char.ofNat b.toNat
  let mark := literalMark chars
  let written := chars.flatMap fun c =>
    if c.toNat < 0x7F then literalChar mark c else '\\' :: 'x' :: hex 2 c.toNat
  String.ofList ('b' :: mark :: written ++ [mark])

end TableTypes.Text
