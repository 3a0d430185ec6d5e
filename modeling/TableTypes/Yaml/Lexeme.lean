import TableTypes.Yaml.Scalar.Block
import TableTypes.Yaml.Scalar.Plain
import TableTypes.Yaml.Scalar.Quoted

/-!
# Lexemes

The pieces of a YAML text between white space: indicators, names, tags and scalars. Where a
collection begins or ends only by its indentation, a lexeme without characters stands for that.
-/

namespace TableTypes.Yaml

/-- A tag as it is written: a handle that stands for the first part of a name, and the rest. -/
structure WrittenTag where
  handle : Option String
  suffix : String
  deriving DecidableEq, Repr

/-- A line about the document as a whole. -/
inductive Directive where
  | version (major : Nat)
  | handle (name stem : String)
  | unknown
  deriving DecidableEq, Repr

/-- A piece of a text. -/
inductive Lexeme where
  | directive (d : Directive)
  | documentStart
  | documentEnd
  /-- A list by indentation begins. -/
  | blockList
  /-- A map by indentation begins. -/
  | blockMap
  /-- What began by indentation ends. -/
  | blockEnd
  | openList
  | closeList
  | openMap
  | closeMap
  /-- A dash in front of an item. -/
  | item
  | comma
  /-- A key follows. -/
  | key
  /-- A value follows. -/
  | value
  | alias (name : String)
  | anchor (name : String)
  | tag (t : WrittenTag)
  | scalar (text : String) (plain : Bool)
  deriving DecidableEq, Repr

/-- Read the name after an anchor's or an alias's indicator. -/
def readName (s : List Char) : Except Fault (String × List Char) :=
  let name := s.takeWhile isWordChar
  let rest := s.dropWhile isWordChar
  let ends := atBlank rest ||
    rest.head?.any fun c => ['?', ':', ',', ']', '\x7d', '%', '@', '\x60'].contains c
  if name.isEmpty || !ends then .error .malformed else .ok (String.ofList name, rest)

/-! ## Tags -/

/-- May stand in a tag as it is. -/
def isTagChar (c : Char) : Bool :=
  c.isAlphanum || "-;/?:@&=+$,_.!~*'()[]".toList.contains c

/-- Read bytes that are written as a percent sign and two hexadecimal digits each. -/
def readEscapes : List Char → Except Fault (List UInt8 × List Char)
  | '%' :: a :: b :: rest =>
    match Text.ofHex? [a, b] with
    | some n => (readEscapes rest).map fun (bytes, rest) => (n.toUInt8 :: bytes, rest)
    | none => .error .malformed
  | '%' :: _ => .error .malformed
  | s => .ok ([], s)

/-- Read the characters of a tag. -/
def readTagChars : (fuel : Nat) → List Char → Except Fault (List Char × List Char)
  | 0, s => .ok ([], s)
  | _ + 1, [] => .ok ([], [])
  | fuel + 1, c :: rest =>
    if c = '%' then do
      let (bytes, rest) ← readEscapes (c :: rest)
      match String.fromUTF8? ⟨bytes.toArray⟩ with
      | some text =>
        let (more, rest) ← readTagChars fuel rest
        return (text.toList ++ more, rest)
      | none => throw .malformed
    else if isTagChar c then
      (readTagChars fuel rest).map fun (more, rest) => (c :: more, rest)
    else .ok ([], c :: rest)

/-- Read the part of a tag that may not be empty. -/
def readTagText (s : List Char) : Except Fault (String × List Char) := do
  let (text, rest) ← readTagChars s.length s
  if rest.length = s.length then throw .malformed
  return (String.ofList text, rest)

/-- Read a handle: an exclamation mark, two of them, or two around a name. -/
def readHandle (s : List Char) : Except Fault (String × List Char) :=
  match s with
  | '!' :: ' ' :: rest => .ok ("!", ' ' :: rest)
  | '!' :: rest =>
    let name := rest.takeWhile isWordChar
    match rest.dropWhile isWordChar with
    | '!' :: rest => .ok (String.ofList ('!' :: name ++ ['!']), rest)
    | _ => .error .malformed
  | _ => .error .malformed

/-- The word goes on with a second exclamation mark. -/
def hasHandle (s : List Char) : Bool :=
  (s.takeWhile fun c => !(c = ' ' || isBreak c)).contains '!'

/-- Read a tag after its exclamation mark. -/
def readTag (s : List Char) : Except Fault (WrittenTag × List Char) := do
  let (tag, rest) ← match s with
    | '<' :: rest => do
      let (suffix, rest) ← readTagText rest
      match rest with
      | '>' :: rest => pure (⟨none, suffix⟩, rest)
      | _ => throw .malformed
    | s =>
      if atBlank s then pure (⟨none, "!"⟩, s)
      else if hasHandle s then do
        let (handle, rest) ← readHandle ('!' :: s)
        let (suffix, rest) ← readTagText rest
        pure (⟨some handle, suffix⟩, rest)
      else do
        let (suffix, rest) ← readTagText s
        pure (⟨some "!", suffix⟩, rest)
  if !atSpace rest then throw .malformed
  return (tag, rest)

/-! ## Directives -/

/-- Read decimal digits; there must be at least one. -/
def readDigits (s : List Char) : Except Fault (Nat × List Char) :=
  let digits := s.takeWhile Char.isDigit
  if digits.isEmpty then .error .malformed
  else .ok (digits.foldl (fun n c => 10 * n + (c.toNat - 48)) 0, s.dropWhile Char.isDigit)

/-- Read a directive after its percent sign, up to the beginning of the next line. -/
def readDirective (s : List Char) : Except Fault (Directive × List Char) := do
  let name := s.takeWhile isWordChar
  let rest := s.dropWhile isWordChar
  if name.isEmpty || !atSpace rest then throw .malformed
  let (directive, rest) ← if name = "YAML".toList then do
      let (major, rest) ← readDigits (dropSpaces rest)
      match rest with
      | '.' :: rest => do
        let (_, rest) ← readDigits rest
        if !atSpace rest then throw .malformed
        pure (Directive.version major, rest)
      | _ => throw .malformed
    else if name = "TAG".toList then do
      let (handle, rest) ← readHandle (dropSpaces rest)
      if rest.head? ≠ some ' ' then throw .malformed
      let (stem, rest) ← readTagText (dropSpaces rest)
      if !atSpace rest then throw .malformed
      pure (Directive.handle handle stem, rest)
    else pure (Directive.unknown, rest.dropWhile fun c => !isBreak c)
  let rest ← dropLine rest
  return (directive, rest)

end TableTypes.Yaml
