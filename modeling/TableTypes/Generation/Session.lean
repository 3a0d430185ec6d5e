import TableTypes.Generation.Run

/-!
# Sessions

A generator keeps one plan over one source and can be asked for several runs. Each run starts
afresh; what stays between them is the record of the last run and whether the source was let
go, which happens at most once.
-/

namespace TableTypes.Generation

/-- A generator between two requests. -/
structure Generator where
  plan : Plan
  /-- The source was let go. -/
  released : Bool := false
  phase : Phase := .idle
  types : Registry := Registry.standard Declaration.helperNames
  /-- The counters of the last run, if there was one. -/
  stats : Option Stats := none

/-- What a generator can be asked. -/
inductive Request where
  /-- A run. -/
  | build
  /-- A run, and then to let the source go in any case. -/
  | session
  /-- To let the source go. -/
  | destroy
  | status
  | names
  deriving DecidableEq, Repr

/-- The phase and the counters of a generator. -/
structure Status where
  phase : Phase
  /-- How many enumerated types and tables are registered. -/
  registered : Nat
  stats : Option Stats

/-- What a request gives. -/
inductive Answer where
  | nothing
  | module (text : String)
  | status (status : Status)
  | names (names : List String)

/-- A request's answer, the calls it made and what it logged. -/
structure Served where
  result : Except Failure Answer
  calls : List Call := []
  log : List Journal.Entry := []

namespace Generator

/-- Registered names, enumerated types first. -/
def names (g : Generator) : List String :=
  g.types.namesOf .enum ++ g.types.namesOf .table

/-- The phase and the counters. -/
def status (g : Generator) : Status :=
  ⟨g.phase, g.names.length, g.stats⟩

/-- A run from the start, whatever was asked before. -/
def build (g : Generator) (source : Source) : Generator × Served :=
  let outcome := Generation.build g.plan source
  let p := outcome.progress
  ({ g with phase := p.phase, types := p.types, stats := some p.stats },
    ⟨outcome.result.map .module, p.calls, p.log⟩)

/-- Let the source go, unless that was tried before. -/
def destroy (g : Generator) (source : Source) : Generator × Served :=
  if g.released then (g, ⟨.ok .nothing, [], []⟩)
  else
    let notes := source.release.notes.map (·.within {})
    ({ g with released := true },
      match source.release.outcome with
      | .ok () =>
        ⟨.ok .nothing, [.release],
          notes ++ [(runLogger.note Journal.Level.debug "Schema source disconnected" []).within {}]⟩
      | .error failure => ⟨.error (.source failure), [.release], notes⟩)

/-- A run after which the source is let go. If that fails, its failure is the answer. -/
def session (g : Generator) (source : Source) : Generator × Served :=
  let (g, run) := g.build source
  let (g, freed) := g.destroy source
  (g, ⟨freed.result.bind fun _ => run.result, run.calls ++ freed.calls, run.log ++ freed.log⟩)

/-- Serve a request. -/
def serve (g : Generator) (source : Source) : Request → Generator × Served
  | .build => g.build source
  | .session => g.session source
  | .destroy => g.destroy source
  | .status => (g, ⟨.ok (.status g.status), [], []⟩)
  | .names => (g, ⟨.ok (.names g.names), [], []⟩)

end Generator

end TableTypes.Generation
