import TableTypes.Value.Text

/-!
# Log levels

A level is a number; some numbers have names. Settings give a level as a number or by a name in
any letter case. A text that names nothing means the level for information. Two texts are names
of something that is no level, and those are refused.
-/

namespace TableTypes.Journal

namespace Level

/-- For everything that is done. -/
def debug : Int := 10

/-- For the course of a run. -/
def info : Int := 20

/-- For what may be wrong. -/
def warning : Int := 30

/-- For what went wrong. -/
def error : Int := 40

/-- For what makes it impossible to go on. -/
def critical : Int := 50

/-- A level as log lines show it. -/
def name (level : Int) : String :=
  if level = 50 then "CRITICAL"
  else if level = 40 then "ERROR"
  else if level = 30 then "WARNING"
  else if level = 20 then "INFO"
  else if level = 10 then "DEBUG"
  else if level = 0 then "NOTSET"
  else "Level " ++ toString level

/-- The levels by name. -/
def byName : List (String × Int) :=
  [("CRITICAL", 50), ("FATAL", 50), ("ERROR", 40), ("WARN", 30), ("WARNING", 30), ("INFO", 20),
    ("DEBUG", 10), ("NOTSET", 0)]

end Level

/-- Why a value gives no level. -/
inductive LevelRefusal where
  /-- The text names another text, which names no level. -/
  | unknown (name : String)
  /-- What the value stands for, here as a literal, is neither a number nor a text. -/
  | notLevel (literal : String)
  deriving DecidableEq, Repr

/-- The text that explains the refusal. -/
def LevelRefusal.message : LevelRefusal → String
  | unknown name => "Unknown level: " ++ Text.literal name
  | notLevel literal => "Level not an integer or a valid string: " ++ literal

namespace Level

/-- The pattern of a plain log line. -/
def plainPattern : String := "%(levelname)s:%(name)s:%(message)s"

/-- The known styles of patterns with their plain patterns, as a literal. -/
def patternStyles : String :=
  let row (mark style pattern : String) :=
    Text.literal mark ++ ": (<class 'logging." ++ style ++ "'>, " ++ Text.literal pattern ++ ")"
  "\x7b" ++ ", ".intercalate
    [row "%" "PercentStyle" plainPattern,
      row "\x7b" "StrFormatStyle" "\x7blevelname\x7d:\x7bname\x7d:\x7bmessage\x7d",
      row "$" "StringTemplateStyle" "$\x7blevelname\x7d:$\x7bname\x7d:$\x7bmessage\x7d"] ++ "\x7d"

/-- The capital form of a character, if it is in ASCII. -/
def asciiCapitals? (c : Char) : Option (List Char) :=
  if c.toNat < 0x80 then some [c.toUpper]
  else
    [(0xDF, "SS"), (0x131, "I"), (0x17F, "S"), (0xFB00, "FF"), (0xFB01, "FI"), (0xFB02, "FL"),
      (0xFB03, "FFI"), (0xFB04, "FFL"), (0xFB05, "ST"), (0xFB06, "ST")].lookup c.toNat
      |>.map String.toList

/-- The capital form of a text, if it is in ASCII. -/
def capitals? (s : String) : Option String :=
  (s.toList.mapM asciiCapitals?).map fun parts => String.ofList parts.flatten

/-- The level that a text names in any letter case, or the level for information. -/
def ofText (s : String) : Except LevelRefusal Int :=
  match capitals? s with
  | some "BASIC_FORMAT" => .error (.unknown plainPattern)
  | some "_STYLES" => .error (.notLevel patternStyles)
  | some name => .ok ((byName.lookup name).getD info)
  | none => .ok info

/-- The level that a value gives. -/
def ofValue : Value → Except LevelRefusal Int
  | .text s => ofText s
  | .int n => .ok n
  | .bool b => .ok (if b then 1 else 0)
  | v => .error (.notLevel v.literal)

/-- A line of the level is written if the level is above zero and reaches the threshold. -/
def passes (threshold level : Int) : Bool :=
  0 < level && threshold ≤ level

end Level

end TableTypes.Journal
