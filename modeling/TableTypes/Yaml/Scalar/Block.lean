import TableTypes.Yaml.Fault
import TableTypes.Yaml.Scalar.Basic

/-!
# Block scalars

A block scalar is the lines below its mark that share an indentation. Indicators behind the mark
set the indentation and say what is done with the line breaks at the end.
-/

namespace TableTypes.Yaml

/-- What is done with the line breaks at the end of a block. -/
inductive Chomping where
  | strip
  | clip
  | keep
  deriving DecidableEq, Repr

/-- The chomping that an indicator asks for. -/
def chomping? : Char → Option Chomping
  | '+' => some .keep
  | '-' => some .strip
  | _ => none

/-- The indentation that an indicator asks for. -/
def increment? (c : Char) : Option Nat :=
  if c.isDigit then some (c.toNat - 48) else none

/-- The indicators of a block, which may come in either order. -/
def blockIndicators (s : List Char) : Except Fault (Chomping × Option Nat × List Char) := do
  let (chomping, s) := match s with
    | c :: rest => match chomping? c with
      | some chomping => (some chomping, rest)
      | none => (none, s)
    | [] => (none, [])
  let (increment, s) := match s with
    | c :: rest => match increment? c with
      | some n => (some n, rest)
      | none => (none, s)
    | [] => (none, [])
  let (chomping, s) := match chomping, increment, s with
    | none, some _, c :: rest => match chomping? c with
      | some chomping => (some chomping, rest)
      | none => (none, s)
    | chomping, _, s => (chomping, s)
  if increment = some 0 || !atSpace s then throw .malformed
  return (chomping.getD .clip, increment, s)

/-- The rest after the end of a line on which only a comment may stand. -/
def dropLine (s : List Char) : Except Fault (List Char) :=
  match dropComment (dropSpaces s) with
  | [] => .ok []
  | c :: rest => if isBreak c then .ok rest else .error .malformed

/-- The blank lines in front of a block, the greatest column reached in them and in front of the
first character that follows, and the column of that character. -/
def leadingLines (column widest : Nat) : List Char → List Char × Nat × Nat × List Char
  | [] => ([], widest, column, [])
  | c :: rest =>
    if c = ' ' then leadingLines (column + 1) (max widest (column + 1)) rest
    else if isBreak c then
      let (breaks, widest, column, rest) := leadingLines 0 widest rest
      (breakOf c :: breaks, widest, column, rest)
    else ([], widest, column, c :: rest)

/-- The blank lines between two lines of a block that is indented by `indent`, and the column of
the character that follows. -/
def blockBreaks (indent column : Nat) : List Char → List Char × Nat × List Char
  | [] => ([], column, [])
  | c :: rest =>
    if c = ' ' ∧ column < indent then blockBreaks indent (column + 1) rest
    else if isBreak c then
      let (breaks, column, rest) := blockBreaks indent 0 rest
      (breakOf c :: breaks, column, rest)
    else ([], column, c :: rest)

/-- The line starts with more blank space than its block. -/
def startsBlank (s : List Char) : Bool :=
  s.head?.any fun c => c = ' ' || c = '\t'

/-- The lines of a block: their text, the break after the last of them, the blank lines after
that, and the rest. `before` holds the blank lines in front. -/
def blockLines (folded : Bool) (indent : Nat) :
    (fuel : Nat) → (column : Nat) → (before s : List Char) →
      List Char × List Char × List Char × List Char
  | 0, _, before, s => ([], [], before, s)
  | fuel + 1, column, before, s =>
    if column ≠ indent ∨ s.isEmpty then ([], [], before, s)
    else
      let line := s.takeWhile fun c => !isBreak c
      let after := s.dropWhile fun c => !isBreak c
      let ending := (after.take 1).map breakOf
      let (breaks, next, rest) := blockBreaks indent 0 (after.drop 1)
      if next = indent ∧ !rest.isEmpty then
        let joint :=
          if folded ∧ ending = ['\n'] ∧ !startsBlank s ∧ !startsBlank rest then
            (if breaks.isEmpty then [' '] else [])
          else ending
        let (text, last, trailing, rest) := blockLines folded indent fuel next breaks rest
        (before ++ line ++ joint ++ text, last, trailing, rest)
      else (before ++ line, ending, breaks, rest)

/-- Read a block scalar after its first indicator, inside a collection at `indent`. -/
def readBlock (folded : Bool) (indent : Int) (at_ : Cursor) : Except Fault Scalar := do
  let (chomping, increment, s) ← blockIndicators at_.rest
  let s ← dropLine s
  let least := max 1 (indent + 1).toNat
  let (indent, column, breaks, s) := match increment with
    | some n =>
      let indent := least + n - 1
      let (breaks, column, s) := blockBreaks indent 0 s
      (indent, column, breaks, s)
    | none =>
      let (breaks, widest, column, s) := leadingLines 0 0 s
      (max least widest, column, breaks, s)
  let (text, last, trailing, rest) := blockLines folded indent (s.length + 1) column breaks s
  let text := text ++ (if chomping = .strip then [] else last) ++
    (if chomping = .keep then trailing else [])
  return ⟨text, at_.goTo rest, false⟩

end TableTypes.Yaml
