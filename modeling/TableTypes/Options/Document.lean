import TableTypes.Options.Mapping
import TableTypes.Yaml.Document

/-!
# Options out of a YAML text

A settings file holds one map. A file that holds nothing leaves every option at its default.
-/

namespace TableTypes

/-- Why the text of a settings file gives no options. -/
inductive DocumentRefusal where
  /-- It is no document. -/
  | malformed
  /-- A value in it has the form of a number or a date but is none. -/
  | noValue (fault : Yaml.Fault)
  /-- It holds something other than a map. -/
  | notMap
  /-- Its settings are refused. -/
  | options (refused : OptionsRefusal)
  deriving DecidableEq, Repr

/-- The text that explains the refusal of the file at a path. -/
def DocumentRefusal.message (path : String) : DocumentRefusal → String
  | malformed => "Invalid YAML in " ++ path
  | noValue fault => fault.message
  | notMap => path ++ ": expected a mapping at top level"
  | options refused => refused.message

/-- The file is wrong in a way that is reported as a wrong setting. -/
def DocumentRefusal.isConfiguration : DocumentRefusal → Bool
  | malformed | notMap => true
  | noValue _ => false
  | options refused => refused.isConfiguration

namespace Options

/-- Options out of the value that a settings file holds. -/
def ofValue : Value → Except DocumentRefusal Options
  | .null => .ok {}
  | .map entries => (ofMapping entries).mapError .options
  | _ => .error .notMap

/-- Options out of the text of a settings file. -/
def ofDocument (text : String) : Except DocumentRefusal Options :=
  match Yaml.read text with
  | .ok v => ofValue v
  | .error .malformed => .error .malformed
  | .error fault => .error (.noValue fault)

end Options

end TableTypes
