import TableTypes.Yaml.Lexeme

/-!
# Nesting by indentation

Reading a text into lexemes. Outside brackets the column at which a lexeme begins opens and
closes collections. A key need not be marked: whatever could be one is remembered, and if a colon
follows on the same line, the mark is put in front of it afterwards.
-/

namespace TableTypes.Yaml

/-- A lexeme that turns out to be a key if a colon follows. -/
structure Candidate where
  /-- How many lexemes precede it. -/
  position : Nat
  /-- It stands where only a key can. -/
  required : Bool
  start : Cursor

/-- A text that is read up to a place. -/
structure Nesting where
  at_ : Cursor
  /-- How many brackets are open. -/
  depth : Nat := 0
  /-- The column of the innermost collection by indentation; -1 outside all of them. -/
  indent : Int := -1
  /-- The columns of the collections around it. -/
  outer : List Int := []
  /-- A key may begin here. -/
  keyAllowed : Bool := true
  /-- At most one candidate for each depth. -/
  candidates : List (Nat × Candidate) := []
  lexemes : List Lexeme := []

namespace Nesting

/-- Add a lexeme. -/
def add (n : Nesting) (l : Lexeme) : Nesting :=
  { n with lexemes := n.lexemes ++ [l] }

/-- Go on at a later rest. -/
def goTo (n : Nesting) (rest : List Char) : Nesting :=
  { n with at_ := n.at_.goTo rest }

/-- Allow or forbid a key. -/
def allowKey (n : Nesting) (allowed : Bool) : Nesting :=
  { n with keyAllowed := allowed }

/-- The rest after blank space and comments, and whether a line ended there. -/
def skipBlank : (fuel : Nat) → List Char → Bool × List Char
  | 0, s => (false, s)
  | fuel + 1, s =>
    match dropComment (dropSpaces s) with
    | [] => (false, [])
    | c :: rest => if isBreak c then (true, (skipBlank fuel rest).2) else (false, c :: rest)

/-- Go to the next lexeme. -/
def toNext (n : Nesting) : Nesting :=
  let s := match n.at_.index, n.at_.rest with
    | 0, '\uFEFF' :: rest => rest
    | _, s => s
  let (ended, rest) := skipBlank (s.length + 1) s
  (n.goTo rest).allowKey (n.keyAllowed || (ended && n.depth = 0))

/-- A candidate has to be followed by its colon on the same line and soon. -/
def isStale (at_ : Cursor) (c : Candidate) : Bool :=
  c.start.line ≠ at_.line || c.start.index + 1024 < at_.index

/-- Forget the candidates that can no longer be keys. -/
def dropStale (n : Nesting) : Except Fault Nesting :=
  if n.candidates.any fun c => isStale n.at_ c.2 && c.2.required then .error .malformed
  else .ok { n with candidates := n.candidates.filter fun c => !isStale n.at_ c.2 }

/-- Forget the candidate at this depth. -/
def dropCandidate (n : Nesting) : Except Fault Nesting :=
  match n.candidates.lookup n.depth with
  | some c =>
    if c.required then .error .malformed
    else .ok { n with candidates := n.candidates.filter fun c => c.1 ≠ n.depth }
  | none => .ok n

/-- Remember that a key may begin here. -/
def saveCandidate (n : Nesting) : Except Fault Nesting := do
  if !n.keyAllowed then return n
  let required := n.depth = 0 && n.indent = n.at_.column
  let n ← n.dropCandidate
  return { n with
    candidates := (n.depth, ⟨n.lexemes.length, required, n.at_⟩) :: n.candidates }

/-- Close the collections that are indented more than a column. -/
def closeWhile (column : Int) : List Int → Int → List Lexeme → List Int × Int × List Lexeme
  | [], indent, lexemes => ([], indent, lexemes)
  | next :: outer, indent, lexemes =>
    if column < indent then closeWhile column outer next (lexemes ++ [.blockEnd])
    else (next :: outer, indent, lexemes)

/-- Close the collections that are indented more than a column; inside brackets none is. -/
def closeTo (n : Nesting) (column : Int) : Nesting :=
  if n.depth ≠ 0 then n
  else
    let (outer, indent, lexemes) := closeWhile column n.outer n.indent n.lexemes
    { n with outer, indent, lexemes }

/-- Open a collection at a column that is indented more than all that are open. Its lexeme is put
at a position among the others. -/
def openAt (n : Nesting) (column position : Nat) (l : Lexeme) : Nesting :=
  if n.depth = 0 ∧ n.indent < column then
    { n with
      outer := n.indent :: n.outer, indent := column, lexemes := n.lexemes.insertIdx position l }
  else n

/-- Open a collection here. -/
def openHere (n : Nesting) (l : Lexeme) : Nesting :=
  n.openAt n.at_.column n.lexemes.length l

/-- End all collections by indentation, before a line that concerns documents. -/
def endAll (n : Nesting) : Except Fault Nesting := do
  let n ← (n.closeTo (-1)).dropCandidate
  return n.allowKey false

/-- An indicator that opens a bracket. -/
def openBracket (n : Nesting) (l : Lexeme) (rest : List Char) : Except Fault Nesting := do
  let n ← n.saveCandidate
  return (({ n with depth := n.depth + 1 }.allowKey true).goTo rest).add l

/-- An indicator that closes a bracket. -/
def closeBracket (n : Nesting) (l : Lexeme) (rest : List Char) : Except Fault Nesting := do
  let n ← n.dropCandidate
  if n.depth = 0 then throw .malformed
  return (({ n with depth := n.depth - 1 }.allowKey false).goTo rest).add l

/-- A comma. -/
def comma (n : Nesting) (rest : List Char) : Except Fault Nesting := do
  let n ← (n.allowKey true).dropCandidate
  return (n.goTo rest).add .comma

/-- A dash in front of an item. -/
def item (n : Nesting) (rest : List Char) : Except Fault Nesting := do
  if n.depth = 0 ∧ !n.keyAllowed then throw .malformed
  let n ← ((n.openHere .blockList).allowKey true).dropCandidate
  return (n.goTo rest).add .item

/-- A question mark in front of a key. -/
def key (n : Nesting) (rest : List Char) : Except Fault Nesting := do
  if n.depth = 0 ∧ !n.keyAllowed then throw .malformed
  let n ← ((n.openHere .blockMap).allowKey (n.depth = 0)).dropCandidate
  return (n.goTo rest).add .key

/-- A colon: what precedes it becomes a key if it can be one. -/
def value (n : Nesting) (rest : List Char) : Except Fault Nesting :=
  match n.candidates.lookup n.depth with
  | some c =>
    let marked := { n with
      candidates := n.candidates.filter fun c => c.1 ≠ n.depth
      lexemes := n.lexemes.insertIdx c.position .key }
    let n := (marked.openAt c.start.column c.position .blockMap).allowKey false
    .ok ((n.goTo rest).add .value)
  | none => do
    if n.depth = 0 ∧ !n.keyAllowed then throw .malformed
    let n ← ((n.openHere .blockMap).allowKey (n.depth = 0)).dropCandidate
    return (n.goTo rest).add .value

/-- A lexeme that may be a key. -/
def word (n : Nesting) (l : Lexeme) (rest : List Char) : Except Fault Nesting := do
  let n ← n.saveCandidate
  return ((n.allowKey false).goTo rest).add l

/-- A scalar as a block of lines. -/
def block (n : Nesting) (folded : Bool) (rest : List Char) : Except Fault Nesting := do
  let n ← (n.allowKey true).dropCandidate
  let scalar ← readBlock folded n.indent (n.at_.goTo rest)
  return { n with at_ := scalar.after }.add (.scalar (String.ofList scalar.text) false)

/-- A plain scalar may begin here. -/
def startsPlain (n : Nesting) (c : Char) (rest : List Char) : Bool :=
  let indicators := ['-', '?', ':', ',', '[', ']', '\x7b', '\x7d', '#', '&', '*', '!', '|', '>',
    '\'', '"', '%', '@', '\x60']
  if atBlank [c] then false
  else !indicators.contains c ||
    (!atBlank rest && (c = '-' || (n.depth = 0 && (c = '?' || c = ':'))))

/-- A plain scalar. -/
def plain (n : Nesting) : Except Fault Nesting := do
  let n ← n.saveCandidate
  let scalar := readPlain (n.depth ≠ 0) (n.indent + 1) n.at_.rest.length n.at_
  return ({ n with at_ := scalar.after }.allowKey scalar.broken).add
    (.scalar (String.ofList scalar.text) true)

/-- Read the lexeme that begins with a character. -/
def readOne (n : Nesting) (c : Char) (rest : List Char) : Except Fault Nesting := do
  let first := n.at_.column = 0
  if c = '%' ∧ first then
    let n ← n.endAll
    let (directive, rest) ← readDirective rest
    return (n.goTo rest).add (.directive directive)
  else if (c = '-' ∨ c = '.') ∧ first ∧ atBoundary (c :: rest) then
    let n ← n.endAll
    return (n.goTo (rest.drop 2)).add (if c = '-' then .documentStart else .documentEnd)
  else if c = '[' then n.openBracket .openList rest
  else if c = '\x7b' then n.openBracket .openMap rest
  else if c = ']' then n.closeBracket .closeList rest
  else if c = '\x7d' then n.closeBracket .closeMap rest
  else if c = ',' then n.comma rest
  else if c = '-' ∧ atBlank rest then n.item rest
  else if c = '?' ∧ (n.depth ≠ 0 ∨ atBlank rest) then n.key rest
  else if c = ':' ∧ (n.depth ≠ 0 ∨ atBlank rest) then n.value rest
  else if c = '*' then
    let (name, rest) ← readName rest
    n.word (.alias name) rest
  else if c = '&' then
    let (name, rest) ← readName rest
    n.word (.anchor name) rest
  else if c = '!' then
    let (tag, rest) ← readTag rest
    n.word (.tag tag) rest
  else if (c = '|' ∨ c = '>') ∧ n.depth = 0 then n.block (c = '>') rest
  else if c = '\'' ∨ c = '"' then
    let (text, rest) ← readQuoted (c = '"') (rest.length + 1) rest
    n.word (.scalar (String.ofList text) false) rest
  else if n.startsPlain c rest then n.plain
  else throw .malformed

/-- Read lexemes up to the end of the text. Each takes at least one character, so `fuel`
characters suffice. -/
def readAll : (fuel : Nat) → Nesting → Except Fault (List Lexeme)
  | 0, _ => .error .malformed
  | fuel + 1, n => do
    let n ← n.toNext.dropStale
    let n := n.closeTo n.at_.column
    match n.at_.rest with
    | [] => return (← n.endAll).lexemes
    | c :: rest => readAll fuel (← n.readOne c rest)

end Nesting

/-- A text as lexemes. -/
def lexemes (s : List Char) : Except Fault (List Lexeme) :=
  if s.all isAllowed then Nesting.readAll (s.length + 1) { at_ := ⟨s, 0, 0, 0⟩ }
  else .error .malformed

end TableTypes.Yaml
