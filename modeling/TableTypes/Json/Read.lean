import TableTypes.Decimal.Nearest
import TableTypes.Text.Quoted
import TableTypes.Value.Basic

/-!
# Reading JSON

One JSON text as a value. A number with neither point nor exponent is an integer of any size;
the others are floating-point numbers. The fields of an object keep their order, and a name that
comes again takes the last value.
-/

namespace TableTypes.Json

/-- Drop the white space that may stand between tokens. -/
def skipSpace (s : List Char) : List Char :=
  s.dropWhile fun c => c = ' ' || c = '\n' || c = '\r' || c = '\t'

/-- The number that a row of decimal digits denotes. -/
def ofDigits (digits : List Char) : Nat :=
  digits.foldl (fun n c => 10 * n + (c.toNat - 48)) 0

/-- Read digits; there must be at least one. -/
def readDigits? (s : List Char) : Option (List Char × List Char) :=
  let digits := s.takeWhile Char.isDigit
  if digits.isEmpty then none else some (digits, s.dropWhile Char.isDigit)

/-- Read the fraction of a number, if there is one. -/
def readFraction? : List Char → Option (List Char × List Char)
  | '.' :: rest => readDigits? rest
  | s => some ([], s)

/-- Read the exponent of a number, if there is one. -/
def readExponent? (s : List Char) : Option (Option Int × List Char) :=
  match s with
  | [] => some (none, [])
  | c :: rest =>
    if c = 'e' ∨ c = 'E' then
      let (negative, rest) := match rest with
        | '-' :: rest => (true, rest)
        | '+' :: rest => (false, rest)
        | rest => (false, rest)
      (readDigits? rest).map fun (digits, rest) =>
        let n : Int := ofDigits digits
        (some (if negative then -n else n), rest)
    else some (none, s)

/-- Read a number. -/
def readNumber? (s : List Char) : Option (Value × List Char) :=
  let (negative, s) := match s with
    | '-' :: rest => (true, rest)
    | s => (false, s)
  match readDigits? s with
  | none => none
  | some (whole, s) =>
    match readFraction? s with
    | none => none
    | some (fraction, s) =>
      match readExponent? s with
      | none => none
      | some (exponent, rest) =>
        if fraction.isEmpty ∧ exponent = none then
          let n : Int := ofDigits whole
          some (.int (if negative then -n else n), rest)
        else
          let x := Decimal.nearest (ofDigits (whole ++ fraction))
            (exponent.getD 0 - fraction.length)
          some (.float (if negative then -x else x), rest)

/-- Read a text in double quotes. -/
def readText? : List Char → Option (String × List Char)
  | '"' :: rest =>
    (Text.readChars? rest.length rest).map fun (s, rest) => (String.ofList s, rest)
  | _ => none

mutual

/-- Read one value. -/
def readValue? : (fuel : Nat) → List Char → Option (Value × List Char)
  | 0, _ => none
  | fuel + 1, s =>
    match skipSpace s with
    | 'n' :: 'u' :: 'l' :: 'l' :: rest => some (.null, rest)
    | 't' :: 'r' :: 'u' :: 'e' :: rest => some (.bool true, rest)
    | 'f' :: 'a' :: 'l' :: 's' :: 'e' :: rest => some (.bool false, rest)
    | '[' :: rest =>
      match skipSpace rest with
      | ']' :: rest => some (.list [], rest)
      | rest => (readItems? fuel rest).map fun (items, rest) => (.list items, rest)
    | '\x7b' :: rest =>
      match skipSpace rest with
      | '\x7d' :: rest => some (.map [], rest)
      | rest => (readFields? fuel [] rest).map fun (fields, rest) => (.map fields, rest)
    | '"' :: rest => (readText? ('"' :: rest)).map fun (s, rest) => (.text s, rest)
    | s => readNumber? s

/-- Read the items of a list up to its closing bracket. -/
def readItems? : (fuel : Nat) → List Char → Option (List Value × List Char)
  | 0, _ => none
  | fuel + 1, s =>
    match readValue? fuel s with
    | none => none
    | some (item, rest) =>
      match skipSpace rest with
      | ',' :: rest => (readItems? fuel rest).map fun (items, rest) => (item :: items, rest)
      | ']' :: rest => some ([item], rest)
      | _ => none

/-- Read the fields of an object up to its closing brace; `before` holds those already read. -/
def readFields? : (fuel : Nat) → List (Value × Value) → List Char →
    Option (List (Value × Value) × List Char)
  | 0, _, _ => none
  | fuel + 1, before, s =>
    match readText? (skipSpace s) with
    | none => none
    | some (name, rest) =>
      match skipSpace rest with
      | ':' :: rest =>
        match readValue? fuel rest with
        | none => none
        | some (v, rest) =>
          let fields := Value.put (.text name) v before
          match skipSpace rest with
          | ',' :: rest => readFields? fuel fields rest
          | '\x7d' :: rest => some (fields, rest)
          | _ => none
      | _ => none

end

/-- The value that a JSON text denotes. -/
def read? (s : String) : Option Value :=
  let chars := s.toList
  match readValue? (chars.length + 1) chars with
  | some (v, rest) => if (skipSpace rest).isEmpty then some v else none
  | none => none

end TableTypes.Json
