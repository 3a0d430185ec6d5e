import TableTypes.Decimal.Shortest
import TableTypes.Text.Literal
import TableTypes.Value.Basic

/-!
# Values as texts

A value has a literal, which shows its kind, and a plain text, which for a text is the text
itself. Messages use both. Floating-point numbers take the fewest digits that read back.
-/

namespace TableTypes

/-- A natural number in decimal, padded with zeros to a width. -/
def padded (width n : Nat) : String :=
  let digits := Nat.toDigits 10 n
  String.ofList (List.replicate (width - digits.length) '0' ++ digits)

/-- How a floating-point number is written. -/
structure FloatStyle where
  /-- Positional notation is used for leading digits from `10 ^ lowest` on … -/
  lowest : Int
  /-- … and below `10 ^ highest`. -/
  highest : Int
  /-- The least number of digits of an exponent. -/
  exponentWidth : Nat

/-- Numbers from one ten-thousandth up to, not including, `10 ^ 16` are written positionally. -/
def floatStyle : FloatStyle := ⟨-4, 16, 2⟩

/-- A decimal without its sign. A whole number keeps one zero after its point. -/
def FloatStyle.render (style : FloatStyle) (d : Decimal.Scaled) : String :=
  let digits := Nat.toDigits 10 d.digits
  let top := d.exponent + digits.length - 1
  if style.lowest ≤ top ∧ top < style.highest then
    if top < 0 then
      "0." ++ String.ofList (List.replicate (-top - 1).toNat '0' ++ digits)
    else
      let whole := digits.take (top.toNat + 1)
      let fraction := digits.drop (top.toNat + 1)
      String.ofList (whole ++ List.replicate (top.toNat + 1 - whole.length) '0') ++ "." ++
        (if fraction.isEmpty then "0" else String.ofList fraction)
  else
    String.ofList (digits.take 1) ++
      (if digits.length = 1 then "" else "." ++ String.ofList (digits.drop 1)) ++
      "e" ++ (if top < 0 then "-" else "+") ++ padded style.exponentWidth top.natAbs

/-- The text of a floating-point number that is not finite. -/
structure NotFinite where
  infinity : String
  notANumber : String

/-- A floating-point number with the fewest digits that read back. -/
def floatText (x : Float) (special : NotFinite := ⟨"inf", "nan"⟩) : String :=
  let fields := Decimal.Fields.ofFloat x
  let sign := if fields.negative then "-" else ""
  if !fields.isFinite then
    if fields.fraction = 0 then sign ++ special.infinity else special.notANumber
  else if fields.isZero then sign ++ "0.0"
  else sign ++ floatStyle.render (Decimal.Binary.ofFields fields).shortest

/-- A span of time as a constructor call that keeps seconds and days apart. -/
def spanLiteral (seconds : Int) : String :=
  let days := seconds.fdiv 86400
  let rest := seconds.fmod 86400
  let parts := (if days = 0 then [] else ["days=" ++ toString days]) ++
    (if rest = 0 then [] else ["seconds=" ++ toString rest])
  "datetime.timedelta(" ++ (if parts.isEmpty then "0" else ", ".intercalate parts) ++ ")"

/-- A distance from universal time as a constructor call. -/
def offsetLiteral (seconds : Int) : String :=
  if seconds = 0 then "datetime.timezone.utc"
  else "datetime.timezone(" ++ spanLiteral seconds ++ ")"

/-- A distance from universal time in hours and minutes. -/
def offsetText (seconds : Int) : String :=
  let n := seconds.natAbs
  (if seconds < 0 then "-" else "+") ++ padded 2 (n / 3600) ++ ":" ++ padded 2 (n / 60 % 60) ++
    (if n % 60 = 0 then "" else ":" ++ padded 2 (n % 60))

namespace Date

/-- Year, month and day with dashes. -/
def toText (d : Date) : String :=
  padded 4 d.year ++ "-" ++ padded 2 d.month ++ "-" ++ padded 2 d.day

end Date

namespace Moment

/-- Hours, minutes and seconds with colons. -/
def clock (m : Moment) : String :=
  padded 2 m.hour ++ ":" ++ padded 2 m.minute ++ ":" ++ padded 2 m.second

/-- Date and time with `between` between them; microseconds are left out if there are none. -/
def toText (m : Moment) (between : String := " ") : String :=
  m.date.toText ++ between ++ m.clock ++
    (if m.microsecond = 0 then "" else "." ++ padded 6 m.microsecond) ++
    (m.offset.map offsetText).getD ""

end Moment

namespace Value

/-- A day as a constructor call. -/
def dateLiteral (d : Date) : String :=
  "datetime.date(" ++ ", ".intercalate ([d.year, d.month, d.day].map toString) ++ ")"

/-- A moment as a constructor call that leaves out zero seconds and microseconds. -/
def momentLiteral (m : Moment) : String :=
  let fixed := [m.date.year, m.date.month, m.date.day, m.hour, m.minute]
  let fine := if m.microsecond ≠ 0 then [m.second, m.microsecond]
    else if m.second ≠ 0 then [m.second] else []
  "datetime.datetime(" ++ ", ".intercalate
    ((fixed ++ fine).map toString ++
      (m.offset.map fun seconds => "tzinfo=" ++ offsetLiteral seconds).toList) ++ ")"

mutual

/-- A value as a literal. -/
def literal : Value → String
  | null => "None"
  | bool true => "True"
  | bool false => "False"
  | int n => toString n
  | float x => floatText x
  | text s => Text.literal s
  | list items => "[" ++ ", ".intercalate (literals items) ++ "]"
  | map entries => "\x7b" ++ ", ".intercalate (entryLiterals entries) ++ "\x7d"
  | tuple [item] => "(" ++ literal item ++ ",)"
  | tuple items => "(" ++ ", ".intercalate (literals items) ++ ")"
  | set [] => "set()"
  | set items => "\x7b" ++ ", ".intercalate (literals items) ++ "\x7d"
  | date d => dateLiteral d
  | moment m => momentLiteral m
  | bytes b => Text.bytesLiteral b
  | style s => "<CaseStyle." ++ s.name.toUpper ++ ": " ++ Text.literal s.name ++ ">"
  | again true => "\x7b...\x7d"
  | again false => "[...]"

/-- The literals of the items of a list. -/
def literals : List Value → List String
  | [] => []
  | item :: rest => literal item :: literals rest

/-- The literals of the entries of a map. -/
def entryLiterals : List (Value × Value) → List String
  | [] => []
  | (key, v) :: rest => (literal key ++ ": " ++ literal v) :: entryLiterals rest

end

/-- A value as a plain text: a text stands for itself, a date is written with dashes, and any
other value is its literal. -/
def plain : Value → String
  | text s => s
  | date d => d.toText
  | moment m => m.toText
  | style s => "CaseStyle." ++ s.name.toUpper
  | v => v.literal

end Value

end TableTypes
