import TableTypes.Decimal.Rounded
import TableTypes.Value.Text

/-!
# Written arguments

An argument of a message template is written as a letter asks for it: as a text, as a whole
number in some base, or as a number with a point. The parts of what is written stay apart until
it is filled up to a width, since zeros go between the sign and the digits.
-/

namespace TableTypes.Journal

/-- A written argument: its sign, what stands in front of its digits, and the rest. -/
structure Written where
  sign : String := ""
  mark : String := ""
  body : String
  /-- Zeros may fill it up. -/
  isNumber : Bool := false

/-- The letters after which an argument is written. -/
def wholeLetters : List Char := ['d', 'i', 'u', 'o', 'x', 'X']

/-- The letters for numbers with a point. -/
def floatLetters : List Char := ['e', 'E', 'f', 'F', 'g', 'G']

/-- The integer in a number; a fraction is cut off where `cut` allows it. -/
def wholePart? (cut : Bool) : Value → Option Int
  | .float x =>
    if cut && !x.isNaN && !x.isInf then
      let n : Int := (Decimal.Binary.ofFields (.ofFloat x.abs.floor)).roundAt 0
      some (if x < 0 then -n else n)
    else none
  | v => v.integer?

/-- The number in a number. -/
def numberIn? (v : Value) : Option Float :=
  v.number?.bind fun x =>
    if x.isInf && v.integer?.isSome then none else some x

/-- Digits after `places` moved behind a point. -/
def withPoint (places : Nat) (alternate : Bool) (digits : List Char) : String :=
  let digits := List.replicate (places + 1 - digits.length) '0' ++ digits
  let whole := digits.take (digits.length - places)
  String.ofList whole ++
    (if places = 0 then (if alternate then "." else "")
      else "." ++ String.ofList (digits.drop (digits.length - places)))

/-- A fraction without the zeros at its end. -/
def dropZeros (s : String) : String :=
  let cs := s.toList
  if cs.contains '.' then
    let cut := (cs.reverse.dropWhile (· = '0')).dropWhile (· = '.')
    String.ofList cut.reverse
  else s

/-- A positive number, or zero as none, with a fixed count of places. -/
def fixedText (x : Option Decimal.Binary) (places : Nat) (alternate : Bool) : String :=
  let n := (x.map (·.roundAt (-places))).getD 0
  withPoint places alternate (Nat.toDigits 10 n)

/-- A positive number, or zero as none, with one digit in front of the point and an exponent. -/
def exponentText (x : Option Decimal.Binary) (places : Nat) (alternate short : Bool) : String :=
  let lead : Decimal.Leading := (x.map (·.leading places)).getD ⟨0, 0⟩
  let body := withPoint places alternate (Nat.toDigits 10 lead.digits)
  (if short then dropZeros body else body) ++
    "e" ++ (if lead.top < 0 then "-" else "+") ++ padded 2 lead.top.natAbs

/-- A positive number, or zero as none, with a count of digits, in the shorter notation. -/
def generalText (x : Option Decimal.Binary) (digits : Nat) (alternate : Bool) : String :=
  let digits := max 1 digits
  let top : Int := (x.map fun x => (x.leading (digits - 1)).top).getD 0
  if -4 ≤ top ∧ top < digits then
    let body := fixedText x ((digits : Int) - 1 - top).toNat alternate
    if alternate then body else dropZeros body
  else exponentText x (digits - 1) alternate (!alternate)

/-- A number with a point as a letter asks for it. -/
def writeFloat (letter : Char) (alternate : Bool) (precision : Option Nat) (x : Float) : Written :=
  let fields := Decimal.Fields.ofFloat x
  let positive := if fields.isZero then none else some (Decimal.Binary.ofFields fields)
  let places := precision.getD 6
  let body :=
    if x.isNaN then "nan" else if x.isInf then "inf"
    else match letter.toLower with
      | 'f' => fixedText positive places alternate
      | 'e' => exponentText positive places alternate false
      | _ => generalText positive places alternate
  ⟨if fields.negative && !x.isNaN then "-" else "", "",
    if letter.isUpper then body.toUpper else body, true⟩

/-- An integer as a letter asks for it, with at least as many digits as the precision. -/
def writeInteger (letter : Char) (alternate : Bool) (precision : Option Nat) (n : Int) : Written :=
  let (base, mark) := match letter with
    | 'o' => (8, "0o")
    | 'x' => (16, "0x")
    | 'X' => (16, "0X")
    | _ => (10, "")
  let digits := Nat.toDigits base n.natAbs
  let digits := List.replicate (precision.getD 0 - digits.length) '0' ++ digits
  ⟨if n < 0 then "-" else "", if alternate then mark else "",
    String.ofList (if letter = 'X' then digits.map Char.toUpper else digits), true⟩

/-- A single character, given itself or by its number. -/
def oneChar? : Value → Option String
  | .text s => if s.length = 1 then some s else none
  | v => match v.integer? with
    | some n =>
      if 0 ≤ n ∧ n.toNat.isValidChar then some (String.singleton (Char.ofNat n.toNat)) else none
    | none => none

/-- A text at most as long as the precision. -/
def cutTo (precision : Option Nat) (s : String) : String :=
  match precision with
  | some n => String.ofList (s.toList.take n)
  | none => s

/-- An argument as a place asks for it. -/
def write? (letter : Char) (alternate : Bool) (precision : Option Nat) (v : Value) :
    Option Written :=
  if letter = 's' then some ⟨"", "", cutTo precision v.plain, false⟩
  else if letter = 'r' then some ⟨"", "", cutTo precision v.literal, false⟩
  else if letter = 'a' then some ⟨"", "", cutTo precision (Text.onlyAscii v.literal), false⟩
  else if letter = 'c' then (oneChar? v).map fun s => ⟨"", "", s, false⟩
  else if wholeLetters.contains letter then
    (wholePart? (!(['o', 'x', 'X'].contains letter)) v).map
      (writeInteger letter alternate precision)
  else if floatLetters.contains letter then
    (numberIn? v).map (writeFloat letter alternate precision)
  else none

/-- A written argument filled up to a width. -/
def Written.fill (written : Written) (flags : List Char) (width : Nat) (toLeft : Bool) : String :=
  let sign :=
    if written.sign ≠ "" ∨ !written.isNumber then written.sign
    else if flags.contains '+' then "+"
    else if flags.contains ' ' then " "
    else ""
  let count := width - (sign.length + written.mark.length + written.body.length)
  let fill (c : Char) := String.ofList (List.replicate count c)
  if toLeft then sign ++ written.mark ++ written.body ++ fill ' '
  else if flags.contains '0' && written.isNumber then
    sign ++ written.mark ++ fill '0' ++ written.body
  else fill ' ' ++ sign ++ written.mark ++ written.body

end TableTypes.Journal
