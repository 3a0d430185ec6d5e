import TableTypes.Options.Basic
import TableTypes.Text.Blank

/-!
# Options out of settings

Settings come as a map out of a file or as variables out of an environment. There a switch may
be given by a word, and every name has to be one of an option. Names that are not are reported
together before any value is looked at.
-/

namespace TableTypes.Options

/-- The switch position that a value stands for. -/
def switchOf (v : Value) : Except OptionsRefusal Bool :=
  match v with
  | .bool b => .ok b
  | v =>
    let word := Text.lower (Text.trim v.plain)
    if ["1", "true", "yes", "on"].contains word then .ok true
    else if ["0", "false", "no", "off"].contains word then .ok false
    else .error (.unclearSwitch v.literal)

/-- Values of two kinds are ordered among each other. -/
def comparable (a b : Value) : Bool :=
  (a.number?.isSome && b.number?.isSome) || (a.kind = b.kind && a.kind ≠ "NoneType")

/-- The first two neighbours that have no order. -/
def unordered? : List Value → Option (Value × Value)
  | a :: b :: rest => if comparable a b then unordered? (b :: rest) else some (b, a)
  | _ => none

/-- Refuse keys that are no names of options. -/
def refuseKeys (keys : List Value) : Except OptionsRefusal Unit :=
  match keys, unordered? keys with
  | [], _ => .ok ()
  | _, some (later, earlier) => .error (.unordered later.kind earlier.kind)
  | keys, none =>
    match keys.findIdx? fun key => key.text?.isNone with
    | some index => .error (.unlistable index ((keys.map Value.kind).getD index ""))
    | none => .error (.unknownKeys ((keys.filterMap Value.text?).mergeSort (· ≤ ·)))

/-- The key names an option. -/
def isKnown (key : Value) : Bool :=
  key.text?.any names.contains

/-- A setting with its value as the option takes it. -/
def readSetting (field : String × Value) : Except OptionsRefusal (String × Value) :=
  if switchNames.contains field.1 then
    (switchOf field.2).map fun b => (field.1, .bool b)
  else .ok (field.1, .text (Text.lower field.2.plain))

/-- Options out of a map of settings. -/
def ofMapping (entries : List (Value × Value)) : Except OptionsRefusal Options := do
  refuseKeys ((entries.map (·.1)).filter fun key => !isKnown key)
  let fields ← (Value.textEntries entries).mapM readSetting
  ofFields fields

/-- The variable that sets an option. -/
def variableName (option : String) : String :=
  "PGTYPEGEN_" ++ option.toUpper

/-- The settings in an environment; all other variables are left aside. -/
def inEnvironment (environment : List (String × Value)) : List (String × Value) :=
  names.filterMap fun option =>
    (environment.lookup (variableName option)).map fun v => (option, v)

/-- Options out of an environment. -/
def ofEnvironment (environment : List (String × Value)) : Except OptionsRefusal Options :=
  ofMapping ((inEnvironment environment).map fun field => (.text field.1, field.2))

end TableTypes.Options
