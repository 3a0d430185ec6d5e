import TableTypes.CommandLine.Arguments
import TableTypes.CommandLine.Help
import TableTypes.Database.Catalog
import TableTypes.Files.Tree
import TableTypes.Generation.Session
import TableTypes.Journal.Settings
import TableTypes.Options.Document

/-!
# The program

A command line is read, options are loaded and laid under those of the command line, the database
is reached, a run is made in one session, and its module goes to a file or to the standard output.
Wrong options and a run without a module end in failure and are logged; only then is nothing
written.
-/

namespace TableTypes.CommandLine

open Database (Catalog Connection Environment Query)
open Files (Path Tree Trouble)
open Generation (Failure Generator Served)
open Journal (Context Logger Settings)

/-- What the program is started with. -/
structure Start where
  arguments : List String
  environment : Environment := []
  files : Tree := {}
  /-- The answers of the database, or why it cannot be reached. -/
  database : Except String (Query → Except String (List Value))
  /-- Whether the connection can be closed, or why it cannot. -/
  closing : Except String Unit := .ok ()

/-- Why there are no options. -/
inductive SetupFailure where
  /-- The settings file cannot be read. -/
  | file (trouble : Trouble)
  /-- The settings file is refused. -/
  | document (path : Path) (refused : DocumentRefusal)
  /-- The settings of the environment or of the command line are refused. -/
  | options (refused : OptionsRefusal)
  deriving DecidableEq, Repr

namespace SetupFailure

/-- The text that explains the failure. -/
def message : SetupFailure → String
  | file trouble => trouble.message
  | document path refused => refused.message path.text
  | options refused => refused.message

/-- The failure is one of settings or of the file system, which the program expects. -/
def isExpected : SetupFailure → Bool
  | file trouble => trouble.isSystemError
  | document _ refused => refused.isConfiguration
  | options refused => refused.isConfiguration

end SetupFailure

/-- Options below those of the command line: a settings file if one is named, or else the
environment. -/
def baseOptions (start : Start) (arguments : Arguments) : Except SetupFailure Options :=
  match arguments.config with
  | some path =>
    match start.files.read path with
    | .ok text => (Options.ofDocument text).mapError (.document path)
    | .error trouble => .error (.file trouble)
  | none =>
    (Options.ofEnvironment (start.environment.map fun e => (e.1, .text e.2))).mapError .options

/-- Options of the command line over the others. -/
def resolveOptions (start : Start) (arguments : Arguments) : Except SetupFailure Options := do
  let base ← baseOptions start arguments
  (base.override arguments.overrides).mapError .options

/-- A fault that the program does not expect. -/
inductive Breakdown where
  | setup (failure : SetupFailure)
  /-- The module cannot be written. -/
  | output (trouble : Trouble)
  deriving DecidableEq, Repr

/-- The text that explains the fault. -/
def Breakdown.message : Breakdown → String
  | setup failure => failure.message
  | output trouble => trouble.message

/-- How the program ends. -/
inductive Ending where
  | done
  | failed
  | misused (misuse : Misuse)
  | broken (breakdown : Breakdown)
  deriving DecidableEq, Repr

/-- The exit code; a fault that is not expected has none. -/
def Ending.code? : Ending → Option Nat
  | done => some 0
  | failed => some 1
  | misused _ => some 2
  | broken _ => none

/-- What the program did. -/
structure Report where
  ending : Ending
  /-- The files afterwards. Directories that were made for nothing are left out. -/
  files : Tree
  stdout : String := ""
  settings : Settings := {}
  log : List Journal.Entry := []
  connections : List Connection := []

/-- The usage and the complaint about a command line. -/
def Misuse.complaint (misuse : Misuse) : String :=
  "\n".intercalate usageLines ++ "\n" ++ programName ++ ": error: " ++ misuse.message ++ "\n"

/-- What goes to the standard error output. -/
def Report.stderr (report : Report) (now : Moment) (origin : Journal.Origin) : String :=
  (match report.ending with
    | .misused misuse => misuse.complaint
    | _ => "") ++
  report.settings.writeAll now origin report.log

/-- The log of the program. -/
def programLogger : Logger := ⟨"scripts.generate_types", some .cli⟩

/-- An entry of the program outside any run. -/
def programEntry (level : Int) (message : String) : Journal.Entry :=
  (programLogger.note level message []).within {}

/-- The log settings that the arguments ask for. -/
def logSettings (start : Start) (arguments : Arguments) : Settings :=
  (Settings.configure {} start.environment
    (.text (if arguments.verbose then "DEBUG" else "INFO")) arguments.jsonLogs).1

/-- One session over the database, at whose end the connection is closed or fails to be. -/
def serve (start : Start) (schema : String) (options : Options) : Served :=
  match start.database with
  | .error message => ⟨.error (.source (.unreachable message)), [], []⟩
  | .ok answer =>
    let generator : Generator := { plan := options.plan {} }
    (generator.session (Catalog.source ⟨schema, answer⟩ start.closing)).2

/-- What the program says about a run without a module. What the registry refuses was logged by
the run itself. -/
def failureEntries : Failure → List Journal.Entry
  | .source failure =>
    [programEntry Journal.Level.error ("Generation failed: " ++ failure.message)]
  | .duplicate _ | .unknown _ => []

/-- Where the text of a module goes. -/
def Report.deliver (report : Report) (output : Option Path) (text : String) : Report :=
  match output with
  | none => { report with stdout := text }
  | some path =>
    let written := do
      let files ← report.files.ensureDirectories path.parent
      files.write path text
    match written with
    | .ok files => { report with
        files
        log := report.log ++ [programEntry Journal.Level.info ("Wrote " ++ path.text)] }
    | .error trouble => { report with ending := .broken (.output trouble) }

/-- What the program does with options. -/
def generate (start : Start) (arguments : Arguments) (options : Options) : Report :=
  let connection := Connection.choose start.environment arguments.connection arguments.schema
  let served := serve start arguments.schema options
  let report : Report := {
    ending := .done
    files := start.files
    settings := logSettings start arguments
    log := connection.note.within {} :: served.log
    connections := [connection] }
  match served.result with
  | .ok (.module text) => report.deliver arguments.output text
  | .ok _ => report
  | .error failure =>
    { report with ending := .failed, log := report.log ++ failureEntries failure }

/-- What the program does with arguments. -/
def perform (start : Start) (arguments : Arguments) : Report :=
  match resolveOptions start arguments with
  | .ok options => generate start arguments options
  | .error failure =>
    let settings := logSettings start arguments
    if failure.isExpected then
      { ending := .failed, files := start.files, settings
        log := [programEntry Journal.Level.error ("Invalid configuration: " ++ failure.message)] }
    else { ending := .broken (.setup failure), files := start.files, settings }

/-- What the program does. -/
def report (start : Start) : Report :=
  match Arguments.read start.arguments with
  | .ok arguments => perform start arguments
  | .error .help => { ending := .done, files := start.files, stdout := helpText }
  | .error .version => { ending := .done, files := start.files, stdout := versionText }
  | .error (.misuse misuse) => { ending := .misused misuse, files := start.files }

end TableTypes.CommandLine
