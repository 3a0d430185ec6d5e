import TableTypes.Text.Hex
import TableTypes.Yaml.Fault
import TableTypes.Yaml.Scalar.Basic

/-!
# Quoted scalars

In single quotes only the quote itself is escaped, by writing it twice. In double quotes a
backslash starts an escape. Blanks around a line break are dropped in both.
-/

namespace TableTypes.Yaml

/-- The character that a letter after a backslash stands for. -/
def escapeOf? (c : Char) : Option Char :=
  [('0', '\x00'), ('a', '\x07'), ('b', '\x08'), ('t', '\t'), ('\t', '\t'), ('n', '\n'),
    ('v', '\x0b'), ('f', '\x0c'), ('r', '\r'), ('e', '\x1b'), (' ', ' '), ('"', '"'),
    ('\\', '\\'), ('/', '/'), ('N', '\u0085'), ('_', '\u00a0'), ('L', '\u2028'),
    ('P', '\u2029')].lookup c

/-- How many hexadecimal digits follow a letter after a backslash. -/
def escapeWidth? (c : Char) : Option Nat :=
  [('x', 2), ('u', 4), ('U', 8)].lookup c

/-- The character with a number. A number that is half of a pair stands for no character and is
replaced. -/
def charOf (number : Nat) : Except Fault Char :=
  if 0x10FFFF < number then .error (.noCharacter number)
  else if 0xD800 ≤ number ∧ number < 0xE000 then .ok '\uFFFD'
  else .ok (Char.ofNat number)

/-- The blank lines at the beginning of a line inside quotes. A document must not end here. -/
def quotedBreaks (s : List Char) : Except Fault (List Char × List Char) :=
  if atBoundary s then .error .malformed
  else
    match _h : s.dropWhile fun c => c = ' ' || c = '\t' with
    | [] => .ok ([], [])
    | c :: rest =>
      if isBreak c then
        (quotedBreaks rest).map fun (breaks, rest) => (breakOf c :: breaks, rest)
      else .ok ([], c :: rest)
termination_by s.length
decreasing_by
  have := (s.dropWhile_suffix fun c => c = ' ' || c = '\t').length_le
  rw [_h, List.length_cons] at this
  omega

/-- Read a quoted scalar up to its closing quote, which is left out. -/
def readQuoted (double : Bool) : (fuel : Nat) → List Char → Except Fault (List Char × List Char)
  | 0, _ | _, [] => .error .malformed
  | fuel + 1, c :: rest => do
    let quote := if double then '"' else '\''
    if c = quote then
      match double, rest with
      | false, '\'' :: rest =>
        let (text, rest) ← readQuoted double fuel rest
        return ('\'' :: text, rest)
      | _, rest => return ([], rest)
    else if double ∧ c = '\\' then
      match rest with
      | [] => throw .malformed
      | e :: rest =>
        if let some c := escapeOf? e then
          let (text, rest) ← readQuoted double fuel rest
          return (c :: text, rest)
        else if let some width := escapeWidth? e then
          let digits := rest.take width
          match Text.ofHex? digits with
          | some number =>
            if digits.length < width then throw .malformed
            let c ← charOf number
            let (text, rest) ← readQuoted double fuel (rest.drop width)
            return (c :: text, rest)
          | none => throw .malformed
        else if isBreak e then
          let (breaks, rest) ← quotedBreaks rest
          let (text, rest) ← readQuoted double fuel rest
          return (breaks ++ text, rest)
        else throw .malformed
    else if c = ' ' ∨ c = '\t' ∨ isBreak c then
      let isSpace (c : Char) : Bool := c = ' ' || c = '\t'
      match (c :: rest).dropWhile isSpace with
      | [] => throw .malformed
      | d :: after =>
        if isBreak d then
          let (breaks, rest) ← quotedBreaks after
          let (text, rest) ← readQuoted double fuel rest
          return (foldBreaks d breaks ++ text, rest)
        else
          let (text, rest) ← readQuoted double fuel (d :: after)
          return ((c :: rest).takeWhile isSpace ++ text, rest)
    else
      let (text, rest) ← readQuoted double fuel rest
      return (c :: text, rest)

end TableTypes.Yaml
