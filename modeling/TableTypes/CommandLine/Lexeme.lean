import TableTypes.CommandLine.Flag
import TableTypes.Text.Digit
import TableTypes.Text.Literal

/-!
# Lexemes of a command line

Each argument is told apart by itself: it is a flag, which may be shortened as long as no other
begins like it and may carry a text, or it is a plain text. Flags with one dash and one letter may
stand together behind one dash.
-/

namespace TableTypes.CommandLine

/-- What is wrong with a command line. -/
inductive Misuse where
  /-- A shortened flag may stand for several. -/
  | ambiguous (argument : String) (spellings : List String)
  /-- A flag takes a text and none follows. -/
  | noText (flag : Flag)
  /-- A flag takes no text and carries one. -/
  | needlessText (flag : Flag) (text : String)
  /-- A flag takes the name of a style, and this is none. -/
  | noStyle (flag : Flag) (text : String)
  /-- Nothing takes these arguments. -/
  | unrecognized (arguments : List String)
  deriving DecidableEq, Repr

/-- The text that explains the misuse. -/
def Misuse.message : Misuse → String
  | ambiguous argument spellings =>
    "ambiguous option: " ++ argument ++ " could match " ++ ", ".intercalate spellings
  | noText flag => "argument " ++ flag.label ++ ": expected one argument"
  | needlessText flag text =>
    "argument " ++ flag.label ++ ": ignored explicit argument " ++ Text.literal text
  | noStyle flag text =>
    "argument " ++ flag.label ++ ": invalid choice: " ++ Text.literal text ++ " (choose from " ++
      ", ".intercalate (Flag.styleNames.map Text.literal) ++ ")"
  | unrecognized arguments => "unrecognized arguments: " ++ " ".intercalate arguments

/-- What one argument is by itself. -/
inductive Lexeme where
  /-- A flag; `short` tells that it has one dash, `carried` is the text behind it. -/
  | flag (flag : Flag) (short : Bool) (carried : Option (List Char))
  /-- What has the form of a flag and is none. -/
  | unknown
  /-- A text. -/
  | plain
  /-- Two dashes, after which all is text. -/
  | divider
  deriving DecidableEq, Repr

/-- A number with a minus sign; one line end may follow. -/
def isNegativeNumber (s : List Char) : Bool :=
  match if s.getLast? = some '\n' then s.dropLast else s with
  | '-' :: digits =>
    match digits.dropWhile Text.isDecimalDigit with
    | [] => !digits.isEmpty
    | '.' :: fraction => !fraction.isEmpty && fraction.all Text.isDecimalDigit
    | _ => false
  | _ => false

/-- What precedes the first equals sign, and what follows it if there is one. -/
def splitEquals (s : List Char) : List Char × Option (List Char) :=
  match s.dropWhile (· ≠ '=') with
  | [] => (s, none)
  | _ :: rest => (s.takeWhile (· ≠ '='), some rest)

namespace Lexeme

/-- A flag that an argument spells in full, alone or in front of an equals sign. -/
def spelled? (s : List Char) : Option Lexeme :=
  let short (s : List Char) : Bool := s[1]? ≠ some '-'
  match Flag.ofSpelling? (String.ofList s), splitEquals s with
  | some found, _ => some (.flag found (short s) none)
  | none, (start, some rest) =>
    (Flag.ofSpelling? (String.ofList start)).map fun found =>
      .flag found (short start) (some rest)
  | none, (_, none) => none

/-- A flag with one dash and the text behind its letter. -/
def clustered? : List Char → Option Lexeme
  | '-' :: c :: rest =>
    (Flag.ofSpelling? (String.ofList ['-', c])).map fun found => .flag found true (some rest)
  | _ => none

/-- What an argument that begins with a dash is if it is no flag. -/
def ofUnknown (s : List Char) : Lexeme :=
  if isNegativeNumber s || s.contains ' ' then .plain else .unknown

/-- What an argument is by itself. -/
def ofText (text : String) : Except Misuse Lexeme :=
  let s := text.toList
  match s, spelled? s with
  | '-' :: _ :: _, some lexeme => .ok lexeme
  | '-' :: '-' :: _, none =>
    let (start, carried) := splitEquals s
    match Flag.completions (String.ofList start) with
    | [] => .ok (ofUnknown s)
    | [(_, found)] => .ok (.flag found false carried)
    | several => .error (.ambiguous text (several.map (·.1)))
  | '-' :: _ :: _, none => .ok ((clustered? s).getD (ofUnknown s))
  | _, _ => .ok .plain

/-- What each of the arguments is. -/
def ofTexts : List String → Except Misuse (List (Lexeme × String))
  | [] => .ok []
  | text :: rest =>
    if text = "--" then .ok ((.divider, text) :: rest.map fun text => (.plain, text))
    else do
      let lexeme ← ofText text
      return (lexeme, text) :: (← ofTexts rest)

end Lexeme

/-- A flag and the text that its own argument carries for it. -/
structure Use where
  flag : Flag
  text : Option String := none
  deriving DecidableEq, Repr

/-- The flags of an argument that carries a text: behind a flag with one dash that takes no text,
the letters of further flags may follow. -/
def Use.ofCarried (flag : Flag) (short : Bool) (carried : List Char) :
    Except Misuse (List Use) :=
  if flag.takesText then .ok [⟨flag, some (String.ofList carried)⟩]
  else match short, carried with
    | true, c :: rest =>
      match Flag.ofSpelling? (String.ofList ['-', c]), rest with
      | some next, [] => .ok [⟨flag, none⟩, ⟨next, none⟩]
      | some next, rest => (Use.ofCarried next true rest).map (⟨flag, none⟩ :: ·)
      | none, _ => .error (.needlessText flag (String.ofList carried))
    | _, _ => .error (.needlessText flag (String.ofList carried))
termination_by carried.length

/-- The flags of an argument. -/
def Use.ofFlag (flag : Flag) (short : Bool) : Option (List Char) → Except Misuse (List Use)
  | none => .ok [⟨flag, none⟩]
  | some carried => Use.ofCarried flag short carried

end TableTypes.CommandLine
