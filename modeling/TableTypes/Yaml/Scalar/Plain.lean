import TableTypes.Yaml.Scalar.Basic

/-!
# Plain scalars

A plain scalar is a row of words. It ends in front of a mark that structures a collection, at a
comment, and where a line is indented less than the collection around it.
-/

namespace TableTypes.Yaml

/-- One of the characters that structure a collection in brackets. -/
def isBracket (c : Char) : Bool :=
  [',', '[', ']', '\x7b', '\x7d'].contains c

/-- A word of a plain scalar is at its end. -/
def endsPlain (inFlow : Bool) : List Char → Bool
  | [] => true
  | c :: rest =>
    c = ' ' || c = '\t' || isBreak c ||
      (c = ':' && (atBlank rest || (inFlow && rest.head?.any isBracket))) ||
      (inFlow && (c = '?' || isBracket c))

/-- A word of a plain scalar, and the rest. -/
def plainWord (inFlow : Bool) : List Char → List Char × List Char
  | [] => ([], [])
  | c :: rest =>
    if endsPlain inFlow (c :: rest) then ([], c :: rest)
    else
      let (word, rest) := plainWord inFlow rest
      (c :: word, rest)

/-- Spaces and line breaks after a first line break. There is no text if a document ends here. -/
def plainBreaks : List Char → Option (List Char) × List Char
  | [] => (some [], [])
  | c :: rest =>
    if c = ' ' then plainBreaks rest
    else if isBreak c then
      if atBoundary rest then (none, rest)
      else
        let (breaks, rest) := plainBreaks rest
        (breaks.map (breakOf c :: ·), rest)
    else (some [], c :: rest)

/-- What stands between two words of a plain scalar. -/
structure Gap where
  /-- What the gap stands for; nothing if the scalar cannot go on. -/
  text : List Char
  rest : List Char
  /-- The gap goes over the end of a line. -/
  broken : Bool

/-- The gap at the end of a word. -/
def plainGap (s : List Char) : Gap :=
  let spaces := s.takeWhile (· = ' ')
  match dropSpaces s with
  | [] => ⟨spaces, [], false⟩
  | c :: rest =>
    if isBreak c then
      if atBoundary rest then ⟨[], rest, true⟩
      else
        let (breaks, rest) := plainBreaks rest
        ⟨(breaks.map (foldBreaks c)).getD [], rest, true⟩
    else ⟨spaces, c :: rest, false⟩

/-- Read a plain scalar. Outside brackets, a line that is indented less than `indent` ends it. -/
def readPlain (inFlow : Bool) (indent : Int) : (fuel : Nat) → Cursor → Scalar
  | 0, at_ => ⟨[], at_, false⟩
  | fuel + 1, at_ =>
    let (word, rest) := plainWord inFlow at_.rest
    let gap := plainGap rest
    let next := at_.goTo gap.rest
    if gap.text.isEmpty || next.peek? = some '#' || (!inFlow && next.column < indent) then
      ⟨word, next, gap.broken⟩
    else if (plainWord inFlow next.rest).1.isEmpty then ⟨word, next, gap.broken⟩
    else
      let more := readPlain inFlow indent fuel next
      ⟨word ++ gap.text ++ more.text, more.after, more.broken⟩

end TableTypes.Yaml
