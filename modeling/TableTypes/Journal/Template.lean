import TableTypes.Journal.Written

/-!
# Message templates

A message may be a template with places that arguments fill: a percent sign, an optional name in
parentheses, flags, a width, a precision and a letter that says how the argument is written. Two
percent signs stand for one. A template without arguments is not looked at. One that does not fit
its arguments gives no text.
-/

namespace TableTypes.Journal

/-- A width or a precision: a number, or a star that takes the next argument. -/
inductive Amount where
  | given (n : Nat)
  | argument
  deriving DecidableEq, Repr

/-- A place in a template. -/
structure Place where
  name : Option String
  flags : List Char
  width : Option Amount
  precision : Option Amount
  letter : Char

/-- A part of a template. -/
inductive Piece where
  | char (c : Char)
  | place (p : Place)

namespace Place

/-- Read a name in parentheses, which may nest; the first one is read already. -/
def readName? : (depth : Nat) → List Char → Option (List Char × List Char)
  | _, [] => none
  | 0, ')' :: rest => some ([], rest)
  | depth + 1, ')' :: rest => (readName? depth rest).map fun (name, rest) => (')' :: name, rest)
  | depth, '(' :: rest => (readName? (depth + 1) rest).map fun (name, rest) => ('(' :: name, rest)
  | depth, c :: rest => (readName? depth rest).map fun (name, rest) => (c :: name, rest)

/-- Read a width or a precision. -/
def readAmount : List Char → Option Amount × List Char
  | '*' :: rest => (some .argument, rest)
  | s =>
    let digits := s.takeWhile Char.isDigit
    if digits.isEmpty then (none, s)
    else (some (.given (digits.foldl (fun n c => 10 * n + (c.toNat - 48)) 0)),
      s.dropWhile Char.isDigit)

/-- Read a precision with its point; a point alone stands for zero. -/
def readPrecision : List Char → Option Amount × List Char
  | '.' :: rest =>
    match readAmount rest with
    | (none, rest) => (some (.given 0), rest)
    | found => found
  | s => (none, s)

/-- The character is a flag. -/
def isFlag (c : Char) : Bool :=
  ['-', '+', ' ', '#', '0'].contains c

/-- One of these letters may stand in front of the last one and means nothing. -/
def isSize (c : Char) : Bool :=
  ['h', 'l', 'L'].contains c

/-- Read a place after its percent sign. -/
def read? (s : List Char) : Option (Place × List Char) := do
  let (name, s) ← match s with
    | '(' :: rest => (readName? 0 rest).map fun (name, rest) => (some (String.ofList name), rest)
    | s => some (none, s)
  let flags := s.takeWhile isFlag
  let (width, s) := readAmount (s.dropWhile isFlag)
  let (precision, s) := readPrecision s
  let s := match s with
    | c :: rest => if isSize c then rest else s
    | [] => []
  match s with
  | letter :: rest => some (⟨name, flags, width, precision, letter⟩, rest)
  | [] => none

end Place

/-- The parts of a template; each step reads at least one character, so `fuel` characters
suffice. -/
def readPieces? : (fuel : Nat) → List Char → Option (List Piece)
  | _, [] => some []
  | 0, _ => none
  | fuel + 1, '%' :: '%' :: rest => (readPieces? fuel rest).map (.char '%' :: ·)
  | fuel + 1, '%' :: rest =>
    match Place.read? rest with
    | some (place, rest) => (readPieces? fuel rest).map (.place place :: ·)
    | none => none
  | fuel + 1, c :: rest => (readPieces? fuel rest).map (.char c :: ·)

/-- What the places of a template are filled with. -/
structure Arguments where
  /-- The fields for places with names, if the argument is a map. -/
  named : Option (List (String × Value))
  /-- The arguments that are left for places without a name. -/
  left : List Value

namespace Arguments

/-- A single map that is not empty gives its fields; all else is taken in order. -/
def ofValues : List Value → Arguments
  | [.map (entry :: rest)] =>
    ⟨some (Value.textEntries (entry :: rest)), [.map (entry :: rest)]⟩
  | values => ⟨none, values⟩

/-- The next argument. -/
def next? (arguments : Arguments) : Option (Value × Arguments) :=
  match arguments.left with
  | v :: left => some (v, { arguments with left })
  | [] => none

/-- Turn to the argument with a name. -/
def turnTo? (arguments : Arguments) (name : Option String) : Option Arguments :=
  match name with
  | none => some arguments
  | some name => (arguments.named.bind (·.lookup name)).map fun v => { arguments with left := [v] }

/-- A number for a width or a precision. -/
def amount? (arguments : Arguments) : Option Amount → Option (Option Int × Arguments)
  | none => some (none, arguments)
  | some (.given n) => some (some n, arguments)
  | some .argument =>
    match arguments.next? with
    | some (v, arguments) => v.integer?.map fun n => (some n, arguments)
    | none => none

/-- No argument was left out. Fields of a map may be. -/
def spent (arguments : Arguments) : Bool :=
  arguments.named.isSome || arguments.left.isEmpty

end Arguments

/-- Fill one place. -/
def Place.fill? (place : Place) (arguments : Arguments) : Option (String × Arguments) := do
  let arguments ← arguments.turnTo? place.name
  let (width, arguments) ← arguments.amount? place.width
  let (precision, arguments) ← arguments.amount? place.precision
  let (v, arguments) ← arguments.next?
  let written ← write? place.letter (place.flags.contains '#') (precision.map Int.toNat) v
  let width := width.getD 0
  return (written.fill place.flags width.natAbs (place.flags.contains '-' || width < 0), arguments)

/-- Fill the parts of a template one after another. -/
def fillPieces? : List Piece → Arguments → Option (String × Arguments)
  | [], arguments => some ("", arguments)
  | .char c :: rest, arguments =>
    (fillPieces? rest arguments).map fun (s, arguments) => (String.singleton c ++ s, arguments)
  | .place place :: rest, arguments =>
    match place.fill? arguments with
    | some (first, arguments) =>
      (fillPieces? rest arguments).map fun (s, arguments) => (first ++ s, arguments)
    | none => none

/-- The message that a template gives with its arguments. Without arguments it is the template
itself. -/
def message? (template : String) (values : List Value) : Option String :=
  if values.isEmpty then some template
  else do
    let chars := template.toList
    let pieces ← readPieces? chars.length chars
    let (text, arguments) ← fillPieces? pieces (Arguments.ofValues values)
    if arguments.spent then some text else none

end TableTypes.Journal
