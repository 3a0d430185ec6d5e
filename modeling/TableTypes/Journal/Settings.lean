import TableTypes.Journal.Line
import TableTypes.Text.LowerCase

/-!
# Log settings

Which entries are written, and how. Setting up the log replaces the format first and the
threshold second, so a level that is refused leaves the new format with the old threshold.
-/

namespace TableTypes.Journal

/-- The state of the log. -/
structure Settings where
  format : Format := .human
  /-- The least level that is written. -/
  threshold : Int := Level.warning
  deriving DecidableEq, Repr

/-- Why the log is not set up as asked. -/
inductive SettingsRefusal where
  | level (refused : LevelRefusal)
  /-- There is no such setting. -/
  | unexpected (setting : String)
  deriving DecidableEq, Repr

/-- The text that explains the refusal. -/
def SettingsRefusal.message : SettingsRefusal → String
  | level refused => refused.message
  | unexpected setting =>
    "configure_logging() got an unexpected keyword argument '" ++ setting ++ "'"

namespace Settings

/-- The environment asks for the structured format. -/
def wantsJson (environment : List (String × String)) : Bool :=
  Text.lower ((environment.lookup "LOG_FORMAT").getD "") = "json"

/-- Set up the log for a level and a format. -/
def configure (settings : Settings) (environment : List (String × String)) (level : Value)
    (json : Bool) : Settings × Except SettingsRefusal Unit :=
  let format := if json || wantsJson environment then .structured true else .human
  match Level.ofValue level with
  | .ok threshold => (⟨format, threshold⟩, .ok ())
  | .error refused => ({ settings with format }, .error (.level refused))

/-- Set up the log by named values. -/
def configureBy (settings : Settings) (environment : List (String × String))
    (fields : List (String × Value)) : Settings × Except SettingsRefusal Unit :=
  match fields.find? fun field => !(["level", "json_output", "stream"].contains field.1) with
  | some (setting, _) => (settings, .error (.unexpected setting))
  | none =>
    settings.configure environment ((fields.lookup "level").getD (.text "INFO"))
      (((fields.lookup "json_output").map Value.truthy).getD false)

/-- What is written for an entry. -/
def write (settings : Settings) (now : Moment) (origin : Origin) (entry : Entry) : String :=
  if Level.passes settings.threshold entry.level then
    settings.format.line now origin entry ++ "\n"
  else ""

/-- What is written for several entries. -/
def writeAll (settings : Settings) (now : Moment) (origin : Origin) (entries : List Entry) :
    String :=
  String.join (entries.map (settings.write now origin))

end Settings

end TableTypes.Journal
