import TableTypes.Declaration.Preamble
import TableTypes.Generation.Plan
import TableTypes.Generation.Source
import TableTypes.Registry.Builtin

/-!
# Runs

A run goes through fixed phases: it reads the enumerated types and registers them, reads the
tables, registers them and plans their declarations, and at last builds every planned
declaration behind the preamble. The first failure stops it, and then there is no module. A
record of the run's progress is kept either way.
-/

namespace TableTypes.Generation

open Declaration (Draft)
open Journal (Context Logger)

/-- The phases of a run. -/
inductive Phase where
  | idle
  | enums
  | tables
  | assembled
  deriving DecidableEq, Repr

/-- A phase as log lines and reports show it. -/
def Phase.name : Phase → String
  | idle => "idle"
  | enums => "enum_phase"
  | tables => "table_phase"
  | assembled => "assembled"

/-- The counters of a run. -/
structure Stats where
  enums : Nat := 0
  tables : Nat := 0
  declarations : Nat := 0
  deriving DecidableEq, Repr

/-- Why a run stopped. -/
inductive Failure where
  | source (failure : SourceFailure)
  | duplicate (registration : DuplicateRegistration)
  | unknown (type : UnknownType)
  deriving DecidableEq, Repr

/-- The text that reports the failure. -/
def Failure.message : Failure → String
  | source failure => failure.message
  | duplicate registration => registration.message
  | unknown type => type.message

/-- What a run has done so far. -/
structure Progress where
  phase : Phase := .idle
  types : Registry := Registry.standard Declaration.helperNames
  stats : Stats := {}
  /-- What is planned and not built yet. -/
  drafts : List Draft := []
  calls : List Call := []
  log : List Journal.Entry := []

/-- A failure and what was done before it. -/
structure Stopped where
  cause : Failure
  progress : Progress

/-- One step of a run, or the failure at which it stopped. -/
abbrev Ran := Except Stopped

/-- The log of the runs themselves. -/
def runLogger : Logger := ⟨"core.schema.generator", some .generator⟩

/-- The log of the registry. -/
def registryLogger : Logger := ⟨"core.schema.registry", none⟩

/-- The number by which log lines name a run. -/
def runId : String := "0123456789ab"

/-- The position of a run. -/
def runContext : Context := { runId := .text runId }

/-- The position of a phase of a run. -/
def phaseContext (phase : Phase) : Context :=
  { runContext with phase := .text phase.name }

/-- The position of one enumerated type or table in a phase. -/
def entityContext (phase : Phase) (schemaName : String) : Context :=
  { phaseContext phase with entity := .text schemaName }

namespace Progress

/-- Write an entry into the record. -/
def note (p : Progress) (context : Context) (logger : Logger) (level : Int) (message : String)
    (data : List (String × Value) := []) : Progress :=
  { p with log := p.log ++ [(logger.note level message data).within context] }

/-- Go into the next phase. -/
def enter (p : Progress) (phase : Phase) : Progress :=
  { p with phase }

/-- Ask the source and keep what it logs. -/
def ask {α : Type} (p : Progress) (call : Call) (reply : Reply α) : Ran (Progress × α) :=
  let p := { p with
    calls := p.calls ++ [call]
    log := p.log ++ reply.notes.map (·.within (phaseContext p.phase)) }
  match reply.outcome with
  | .ok a => .ok (p, a)
  | .error failure => .error ⟨.source failure, p⟩

/-- Report how much of something was read. -/
def noteRead (p : Progress) (count : Nat) (what : String) : Progress :=
  p.note (phaseContext p.phase) runLogger Journal.Level.info
    ("Fetched " ++ toString count ++ " " ++ what)

/-- Register a schema name under the name that is declared for it. -/
def register (p : Progress) (plan : Plan) (kind : Kind) (schemaName : String) : Ran Progress :=
  let identifier := Declaration.declaredName plan.names schemaName
  match p.types.add schemaName identifier kind with
  | .ok types =>
    .ok <| { p with types }.note (entityContext p.phase schemaName) registryLogger
      Journal.Level.debug
      ("Registered " ++ kind.name ++ ": " ++ schemaName ++ " -> " ++ identifier)
  | .error registration => .error ⟨.duplicate registration, p⟩

/-- Plan further declarations. -/
def stage (p : Progress) (drafts : List Draft) : Progress :=
  { p with drafts := p.drafts ++ drafts }

end Progress

/-- Count an enumerated type; if enums are wanted, register it and plan its enum. -/
def stageEnum (plan : Plan) (p : Progress) (type : EnumType) : Ran Progress :=
  let p := { p with stats := { p.stats with enums := p.stats.enums + 1 } }
  if plan.enums then do
    let p ← p.register plan .enum type.name
    return (p.stage [.enum type]).note (entityContext p.phase type.name) runLogger
      Journal.Level.debug "Staged enum"
  else return p

/-- The phase of the enumerated types. -/
def enumPhase (plan : Plan) (source : Source) (p : Progress) : Ran Progress := do
  let (p, enums) ← (p.enter .enums).ask .enums source.enums
  enums.foldlM (stageEnum plan) (p.noteRead enums.length "enums")

/-- Names of tables that got a validator. -/
def validated (drafts : List Draft) : List String :=
  drafts.filterMap fun
    | .validator table => some table.name
    | _ => none

/-- Count a table, register it if interfaces are wanted, and plan its declarations. -/
def stageTable (plan : Plan) (p : Progress) (table : Table) : Ran Progress := do
  let p := { p with stats := { p.stats with tables := p.stats.tables + 1 } }
  let p ← if plan.tables then p.register plan .table table.name else pure p
  return (p.stage (plan.tableDrafts (validated p.drafts) table)).note
    (entityContext p.phase table.name) runLogger Journal.Level.debug "Staged table"
    [("columns", .int table.columns.length)]

/-- The phase of the tables. -/
def tablePhase (plan : Plan) (source : Source) (p : Progress) : Ran Progress := do
  let (p, tables) ← (p.enter .tables).ask .tables source.tables
  tables.foldlM (stageTable plan) (p.noteRead tables.length "tables")

/-- Build what is planned behind the preamble. -/
def assemble (plan : Plan) (p : Progress) : Ran (Progress × List Syntax.Statement) :=
  match p.drafts.mapM (Draft.build ⟨p.types, plan.names⟩) with
  | .ok declarations =>
    .ok ({ p with stats := { p.stats with declarations := p.drafts.length } },
      Declaration.preamble plan.validators ++ declarations)
  | .error unknown => .error ⟨.unknown unknown, p⟩

/-- What a run came to, and its record. -/
structure Outcome (α : Type) where
  result : Except Failure α
  progress : Progress

/-- The whole run up to the statements of the module. -/
def statements (plan : Plan) (source : Source) : Ran (Progress × List Syntax.Statement) := do
  let p ← enumPhase plan source {}
  let p ← tablePhase plan source p
  assemble plan p

/-- Report what a module holds. -/
def Progress.noteGenerated (p : Progress) (count : Nat) : Progress :=
  p.note runContext runLogger Journal.Level.info
    ("Generated " ++ toString count ++ " declarations (" ++ toString p.stats.enums ++ " enums, " ++
      toString p.stats.tables ++ " tables)")

/-- Report why there is no module. -/
def Progress.noteFailed (p : Progress) (cause : Failure) : Progress :=
  p.note runContext runLogger Journal.Level.error cause.message

/-- A run: the statements of the module, or why there are none. -/
def run (plan : Plan) (source : Source) : Outcome (List Syntax.Statement) :=
  match statements plan source with
  | .ok (p, module) => ⟨.ok module, (p.enter .assembled).noteGenerated module.length⟩
  | .error stopped => ⟨.error stopped.cause, stopped.progress.noteFailed stopped.cause⟩

/-- The text of the module that a plan makes of a source. -/
def build (plan : Plan) (source : Source) : Outcome String :=
  let outcome := run plan source
  ⟨outcome.result.map (Syntax.printModule plan.layout), outcome.progress⟩

end TableTypes.Generation
