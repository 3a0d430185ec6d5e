import TableTypes.Generation.Session
import TableTypes.Proofs.FirstFailure
import TableTypes.Proofs.Work

/-! # A generator in place

The record of a run is handed from step to step, so a run cannot see an earlier one. A generator
at work has no such record: it writes its phase, its registry and its counters into itself, and a
log line takes its position from the blocks that are open when it is written. A failure leaves
everything as it was written so far, and only the blocks are closed. This is the same generator,
provided that every block is closed at the end and that a run clears what it counts on.
-/

namespace TableTypes.Generation

open Declaration (Draft)
open Journal (Context Contexts Logger)
open Syntax (Statement)

/-- A generator at work and everything that it writes to. -/
structure Workbench where
  generator : Generator
  /-- What the last run planned. -/
  drafts : List Draft := []
  /-- The open blocks of the log. -/
  contexts : Contexts := []
  calls : List Call := []
  log : List Journal.Entry := []

abbrev Task := Work Failure Workbench

namespace Task

variable {α : Type}

/-! ## Single writes -/

def update (f : Generator → Generator) : Task Unit :=
  modify fun s => { s with generator := f s.generator }

/-- Write a log line at the position of the innermost block. -/
def say (logger : Logger) (level : Int) (message : String) (data : List (String × Value) := []) :
    Task Unit :=
  modify fun s => { s with
    log := s.log ++ [(logger.note level message data).within s.contexts.current] }

/-- Work inside a block of the log. The block is closed in any case. -/
def inside (fields : List (String × Value)) (task : Task α) : Task α := do
  -- The fields that a run gives are never refused.
  modify fun s => { s with
    contexts := (s.contexts.enter fields).toOption.getD (s.contexts.current :: s.contexts) }
  Work.lastly task (modify fun s => { s with contexts := s.contexts.leave })

/-- Report a failure where it passes. -/
def reporting (task : Task α) : Task α :=
  tryCatch task fun failure => do
    say runLogger Journal.Level.error failure.message
    throw failure

def ask (call : Call) (reply : Reply α) : Task α := do
  modify fun s => { s with
    calls := s.calls ++ [call]
    log := s.log ++ reply.notes.map (·.within s.contexts.current) }
  match reply.outcome with
  | .ok a => pure a
  | .error failure => throw (.source failure)

def count (f : Stats → Stats) : Task Unit :=
  update fun g => { g with stats := g.stats.map f }

def stage (drafts : List Draft) : Task Unit :=
  modify fun s => { s with drafts := s.drafts ++ drafts }

def register (kind : Kind) (schemaName : String) : Task Unit := do
  let g := (← get).generator
  let identifier := Declaration.declaredName g.plan.names schemaName
  match g.types.add schemaName identifier kind with
  | .ok types =>
    update fun g => { g with types }
    say registryLogger Journal.Level.debug
      ("Registered " ++ kind.name ++ ": " ++ schemaName ++ " -> " ++ identifier)
  | .error registration => throw (.duplicate registration)

/-! ## A run -/

def stageEnum (type : EnumType) : Task Unit := do
  count fun stats => { stats with enums := stats.enums + 1 }
  if (← get).generator.plan.enums then
    inside [("entity", .text type.name)] do
      register .enum type.name
      stage [.enum type]
      say runLogger Journal.Level.debug "Staged enum"

def stageTable (table : Table) : Task Unit := do
  count fun stats => { stats with tables := stats.tables + 1 }
  inside [("entity", .text table.name)] do
    if (← get).generator.plan.tables then register .table table.name
    -- The tables with a validator are those among the drafts that are planned by now.
    let s ← get
    stage (s.generator.plan.tableDrafts (validated s.drafts) table)
    say runLogger Journal.Level.debug "Staged table" [("columns", .int table.columns.length)]

/-- Read something and stage each part of it. -/
def readPhase (phase : Phase) (call : Call) (reply : Reply (List α)) (what : String)
    (stageOne : α → Task Unit) : Task Unit := do
  update fun g => { g with phase }
  inside [("phase", .text phase.name)] do
    let rows ← ask call reply
    say runLogger Journal.Level.info ("Fetched " ++ toString rows.length ++ " " ++ what)
    forM rows stageOne

def buildDraft (draft : Draft) : Task Statement :=
  inside [("entity", .text draft.schemaName), ("builder", .text draft.builder)] do
    let g := (← get).generator
    match draft.build ⟨g.types, g.plan.names⟩ with
    | .ok statement => pure statement
    | .error unknown => throw (.unknown unknown)

def assemble : Task (List Statement) := do
  let s ← get
  let declarations ← s.drafts.mapM buildDraft
  count fun stats => { stats with declarations := s.drafts.length }
  return Declaration.preamble s.generator.plan.validators ++ declarations

def statements (source : Source) : Task (List Statement) := do
  readPhase .enums .enums source.enums "enums" stageEnum
  readPhase .tables .tables source.tables "tables" stageTable
  assemble

/-- Clear what a run counts on. -/
def clear : Task Unit :=
  modify fun s => { s with
    generator := { s.generator with
      types := Registry.standard Declaration.helperNames
      phase := .idle
      stats := some {} }
    drafts := [] }

def build (source : Source) : Task Answer := do
  clear
  inside [("run_id", .text runId)] do
    let module ← reporting (statements source)
    update fun g => { g with phase := .assembled }
    let g := (← get).generator
    let stats := g.stats.getD {}
    say runLogger Journal.Level.info
      ("Generated " ++ toString module.length ++ " declarations (" ++ toString stats.enums ++
        " enums, " ++ toString stats.tables ++ " tables)")
    return .module (Syntax.printModule g.plan.layout module)

/-! ## Requests -/

def destroy (source : Source) : Task Answer := do
  if (← get).generator.released then
    return .nothing
  else
    -- The source counts as let go even if it refuses.
    update fun g => { g with released := true }
    ask .release source.release
    say runLogger Journal.Level.debug "Schema source disconnected"
    return .nothing

def perform (source : Source) : Request → Task Answer
  | .build => build source
  | .session => Work.lastly (build source) (destroy source)
  | .destroy => destroy source
  | .status => return .status (← get).generator.status
  | .names => return .names (← get).generator.names

end Task

/-- Serve a request on the bench. The calls and the log lines of earlier ones are put aside. -/
def Workbench.serve (s : Workbench) (source : Source) (request : Request) : Workbench × Served :=
  let (result, s) := (Task.perform source request).outcome { s with calls := [], log := [] }
  (s, ⟨result, s.calls, s.log⟩)

/-- Serve one request after another, each with the source as it is then. -/
def Workbench.serveAll (s : Workbench) (history : List (Source × Request)) : Workbench :=
  history.foldl (fun s step => (s.serve step.1 step.2).1) s

/-- The same of the generator by itself. -/
def Generator.serveAll (g : Generator) (history : List (Source × Request)) : Generator :=
  history.foldl (fun g step => (g.serve step.1 step.2).1) g

end TableTypes.Generation
