import TableTypes.Text.Literal

/-!
# Faults of YAML texts

Nearly every fault is that the text is no document. A few concern a single value: it has the form
of a number, a date or a character, but there is no such value.
-/

namespace TableTypes.Yaml

/-- A part of a moment that is out of its range. -/
inductive TimePart where
  | year (given : Nat)
  | month
  | day
  | hour
  | minute
  | second
  /-- The distance from universal time, as a literal. -/
  | offset (literal : String)
  deriving DecidableEq, Repr

/-- What is wrong with a text. -/
inductive Fault where
  /-- It is no document of plain values. -/
  | malformed
  /-- There is no character with this number. -/
  | noCharacter (number : Nat)
  /-- A whole number in this base is written by other characters than digits. -/
  | noInteger (base : Nat) (given : String)
  /-- A number is written by something else. -/
  | noNumber (given : String)
  /-- A number has no characters. -/
  | emptyNumber
  /-- A truth value is given by another word. -/
  | noFlag (word : String)
  /-- A moment has not the form of one. -/
  | noMoment
  /-- A part of a moment is out of its range. -/
  | outOfRange (part : TimePart)
  deriving DecidableEq, Repr

/-- The text that reports a part out of its range. -/
def TimePart.message : TimePart → String
  | year given => "year " ++ toString given ++ " is out of range"
  | month => "month must be in 1..12"
  | day => "day is out of range for month"
  | hour => "hour must be in 0..23"
  | minute => "minute must be in 0..59"
  | second => "second must be in 0..59"
  | offset literal => "offset must be a timedelta strictly between -timedelta(hours=24) and " ++
      "timedelta(hours=24), not " ++ literal ++ "."

/-- The text that reports the fault. -/
def Fault.message : Fault → String
  | malformed => "Invalid YAML"
  | noCharacter number =>
    if number < 0x80000000 then "chr() arg not in range(0x110000)"
    else "Python int too large to convert to C int"
  | noInteger base given =>
    "invalid literal for int() with base " ++ toString base ++ ": " ++ Text.literal given
  | noNumber given => "could not convert string to float: " ++ Text.literal given
  | emptyNumber => "string index out of range"
  | noFlag word => Text.literal word
  | noMoment => "'NoneType' object has no attribute 'groupdict'"
  | outOfRange part => part.message

end TableTypes.Yaml
