import TableTypes.Decimal.Nearest
import TableTypes.Text.Blank
import TableTypes.Text.Digit
import TableTypes.Text.Hex
import TableTypes.Text.LowerCase
import TableTypes.Yaml.Fault

/-!
# Numbers in YAML

Which plain scalars are numbers, and what number a text is. Whole numbers are written in base
two, eight, ten or sixteen, and both kinds of numbers may be written in base sixty with colons.
Underscores may stand between digits and mean nothing.
-/

namespace TableTypes.Yaml

/-- A sign, if there is one, and the rest. -/
def splitSign : List Char → Bool × List Char
  | '-' :: rest => (true, rest)
  | '+' :: rest => (false, rest)
  | s => (false, s)

/-- The parts between colons. -/
def splitColons (s : List Char) : List (List Char) :=
  s.foldr (fun c parts => match parts with
    | part :: rest => if c = ':' then [] :: part :: rest else (c :: part) :: rest
    | [] => [[c]]) [[]]

/-! ## Forms -/

/-- A digit or an underscore. -/
def isDigitMark (c : Char) : Bool :=
  c.isDigit || c = '_'

/-- Digits and underscores that begin with a digit. -/
def isDigits (s : List Char) : Bool :=
  s.head?.any Char.isDigit && s.all isDigitMark

/-- Digits and underscores that begin with a digit other than zero. -/
def isLeadingDigits (s : List Char) : Bool :=
  isDigits s && s.head? ≠ some '0'

/-- A number below sixty, in one or two digits. -/
def isSixtieth : List Char → Bool
  | [c] => c.isDigit
  | [c, d] => '0' ≤ c && c ≤ '5' && d.isDigit
  | _ => false

/-- A whole number as plain scalars have it. -/
def isInteger (s : List Char) : Bool :=
  let body := (splitSign s).2
  let isIn (digits : String) (s : List Char) : Bool := !s.isEmpty && s.all digits.toList.contains
  match body with
  | ['0'] => true
  | '0' :: 'b' :: rest => isIn "01_" rest
  | '0' :: 'x' :: rest => isIn "0123456789abcdefABCDEF_" rest
  | '0' :: rest => isIn "01234567_" rest
  | _ => match splitColons body with
    | [whole] => isLeadingDigits whole
    | whole :: parts => isLeadingDigits whole && parts.all isSixtieth
    | [] => false

/-- An exponent with its sign, or nothing. -/
def isExponent : List Char → Bool
  | [] => true
  | e :: sign :: digits =>
    (e = 'e' || e = 'E') && (sign = '-' || sign = '+') && !digits.isEmpty &&
      digits.all Char.isDigit
  | _ => false

/-- A number with a point as plain scalars have it. -/
def isFloat (s : List Char) : Bool :=
  let (_, body) := splitSign s
  let signed := body.length < s.length
  let whole := body.takeWhile (· ≠ '.')
  match body.dropWhile (· ≠ '.') with
  | [] => false
  | _ :: rest =>
    let fraction := rest.takeWhile isDigitMark
    let ending := rest.dropWhile isDigitMark
    if whole.isEmpty then
      ["inf", "Inf", "INF"].contains (String.ofList rest) ||
        (!signed && ["nan", "NaN", "NAN"].contains (String.ofList rest)) ||
        (!signed && isDigits fraction && isExponent ending)
    else match splitColons whole with
      | [whole] => isDigits whole && isExponent ending
      | whole :: parts => isDigits whole && parts.all isSixtieth && ending.isEmpty
      | [] => false

/-! ## Values -/

/-- The value of a digit in a base; the decimal digits of every script count. -/
def digit? (base : Nat) (c : Char) : Option Nat :=
  ((Text.digitValue? c).or (Text.hexValue? c)).bind fun n => if n < base then some n else none

/-- The letter that marks a base after a zero. -/
def baseMark? (base : Nat) : Option Char :=
  [(2, 'b'), (8, 'o'), (16, 'x')].lookup base

/-- The digits without the mark of their base. -/
def dropBaseMark (base : Nat) (s : List Char) : List Char :=
  match s with
  | '0' :: mark :: rest => if baseMark? base = some mark.toLower then rest else s
  | _ => s

/-- The whole number that a text denotes in a base; blanks may stand around it. -/
def integerIn (base : Nat) (s : List Char) : Except Fault Int :=
  let (negative, body) := splitSign (Text.trimBy Text.isBlank s)
  let digits := dropBaseMark base body
  let number := digits.foldlM (fun n c => (digit? base c).map (base * n + ·)) 0
  match number, digits with
  | some n, _ :: _ => .ok (if negative then -(n : Int) else n)
  | _, _ => .error (.noInteger base (String.ofList s))

/-- A number in base sixty, from its most significant part on. -/
def ofSixtieths (parts : List Int) : Int :=
  parts.foldl (fun n part => 60 * n + part) 0

/-- The whole number that a scalar denotes. -/
def integerOf (text : String) : Except Fault Int := do
  let s := text.toList.filter (· ≠ '_')
  if s.isEmpty then throw .emptyNumber
  let (negative, body) := splitSign s
  let n ← match body with
    | [] => throw .emptyNumber
    | ['0'] => pure 0
    | '0' :: 'b' :: rest => integerIn 2 rest
    | '0' :: 'x' :: rest => integerIn 16 rest
    | '0' :: _ => integerIn 8 body
    | _ =>
      if body.contains ':' then
        return ofSixtieths (← (splitColons body).mapM (integerIn 10)) * (if negative then -1 else 1)
      else integerIn 10 body
  return if negative then -n else n

/-- The digits and the exponent of a decimal number, if the text is one. -/
def decimal? (s : List Char) : Option (Nat × Int) :=
  let isDigit := Text.isDecimalDigit
  let whole := s.takeWhile isDigit
  let (fraction, ending) := match s.dropWhile isDigit with
    | '.' :: rest => (rest.takeWhile isDigit, rest.dropWhile isDigit)
    | rest => ([], rest)
  let number (digits : List Char) : Nat :=
    digits.foldl (fun n c => 10 * n + (Text.digitValue? c).getD 0) 0
  let digits := whole ++ fraction
  let exponent? : Option Int := match ending with
    | [] => some 0
    | e :: rest =>
      let (negative, power) := splitSign rest
      if e ≠ 'e' || power.isEmpty || !power.all isDigit then none
      else some (if negative then -(number power : Int) else number power)
  if digits.isEmpty then none
  else exponent?.map fun exponent => (number digits, exponent - fraction.length)

/-- The number that a text in small letters denotes; blanks may stand around it. -/
def numberIn (s : List Char) : Except Fault Float :=
  let (negative, body) := splitSign (Text.trimBy Text.isBlank s)
  let size : Except Fault Float :=
    if ["inf", "infinity"].contains (String.ofList body) then .ok (1 / 0)
    else if body = "nan".toList then .ok (0 / 0)
    else match decimal? body with
      | some (digits, exponent) => .ok (Decimal.nearest digits exponent)
      | none => .error (.noNumber (String.ofList s))
  size.map fun x => if negative then -x else x

/-- A number in base sixty, from its least significant part on. -/
def addSixtieths (scale : Nat) (sum : Float) : List Float → Float
  | [] => sum
  | part :: rest => addSixtieths (60 * scale) (sum + part * Float.ofNat scale) rest

/-- The number that a scalar denotes. -/
def floatOf (text : String) : Except Fault Float := do
  let s := (Text.lower text).toList.filter (· ≠ '_')
  if s.isEmpty then throw .emptyNumber
  let (negative, body) := splitSign s
  let x ← if body = ".inf".toList then pure (1 / 0)
    else if body = ".nan".toList then return 0 / 0
    else if body.contains ':' then do
      let parts ← (splitColons body).mapM numberIn
      pure (addSixtieths 1 0 parts.reverse)
    else numberIn body
  return if negative then -x else x

end TableTypes.Yaml
