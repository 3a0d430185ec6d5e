import TableTypes.CommandLine.Program
import TableTypes.Proofs.Generation.Endings

/-! # A source is let go once

A request that lets the source go does so after its run, whether that failed or not, and only if
no request before it did: the generator remembers the attempt and not its outcome. The program
puts its queries in one such request, so its connection is closed once, after the last of them.
-/

namespace TableTypes.Generation

open Database (Catalog Query)

/-- The request lets the source go, unless that was tried before. -/
def Request.releases : Request → Bool
  | .session | .destroy => true
  | .build | .status | .names => false

/-- The calls of the request's own run. -/
def Request.asks (request : Request) (plan : Plan) (source : Source) : List Call :=
  match request with
  | .build | .session => (run plan source).progress.calls
  | .destroy | .status | .names => []

section Steps

variable {g : Generator} {source : Source} {request : Request}

theorem release_notMem_asks (request : Request) (plan : Plan) (source : Source) :
    .release ∉ request.asks plan source := by
  have hrun : .release ∉ (run plan source).progress.calls := by
    obtain ⟨phase, hends⟩ := exists_ends plan source
    rw [hends.calls]
    split <;> decide
  cases request with
  | build | session => exact hrun
  | destroy | status | names => exact List.not_mem_nil

theorem calls_destroy (g : Generator) (source : Source) :
    (g.destroy source).2.calls = if g.released then [] else [.release] := by
  unfold Generator.destroy
  cases g.released with
  | true => rfl
  | false =>
      rw [if_neg Bool.false_ne_true, if_neg Bool.false_ne_true]
      dsimp only
      cases source.release.outcome <;> rfl

theorem released_destroy (g : Generator) (source : Source) :
    (g.destroy source).1.released = true := by
  unfold Generator.destroy
  split
  · assumption
  · rfl

theorem calls_serve (g : Generator) (source : Source) (request : Request) :
    (g.serve source request).2.calls = request.asks g.plan source ++
      if request.releases && !g.released then [.release] else [] := by
  cases request with
  | build => exact (List.append_nil _).symm
  | session =>
      change (run g.plan source).progress.calls ++ ((g.build source).1.destroy source).2.calls = _
      rw [calls_destroy]
      cases hreleased : g.released <;>
        simp [Request.asks, Request.releases, Generator.build, hreleased]
  | destroy =>
      change (g.destroy source).2.calls = _
      rw [calls_destroy]
      cases hreleased : g.released <;> rfl
  | status | names => rfl

theorem released_serve (g : Generator) (source : Source) (request : Request) :
    (g.serve source request).1.released = (g.released || request.releases) := by
  cases request with
  | build | status | names => exact (Bool.or_false _).symm
  | session => exact (released_destroy _ source).trans (Bool.or_true _).symm
  | destroy => exact (released_destroy g source).trans (Bool.or_true _).symm

end Steps

/-- What requests in a row are answered. -/
def Workbench.transcript (s : Workbench) : List (Source × Request) → List Served
  | [] => []
  | step :: rest =>
    let (next, served) := s.serve step.1 step.2
    served :: next.transcript rest

section Histories

variable {s : Workbench}

theorem transcript_append (s : Workbench) (before after : List (Source × Request)) :
    s.transcript (before ++ after) =
      s.transcript before ++ (s.serveAll before).transcript after := by
  induction before generalizing s with
  | nil => rfl
  | cons step rest ih => exact congrArg ((s.serve step.1 step.2).2 :: ·) (ih _)

theorem length_transcript (s : Workbench) (history : List (Source × Request)) :
    (s.transcript history).length = history.length := by
  induction history generalizing s with
  | nil => rfl
  | cons step rest ih => exact congrArg (· + 1) (ih _)

theorem released_serveAll (hidle : s.contexts = []) (history : List (Source × Request)) :
    (s.serveAll history).generator.released =
      (s.generator.released || history.any (·.2.releases)) := by
  induction history generalizing s with
  | nil => exact (Bool.or_false _).symm
  | cons step rest ih =>
      obtain ⟨-, hleft, hclosed⟩ := serve_refines hidle step.1 step.2
      change ((s.serve step.1 step.2).1.serveAll rest).generator.released = _
      rw [ih hclosed, hleft, released_serve, List.any_cons, Bool.or_assoc]

/-- However many requests let the source go, it is let go once. -/
theorem count_release_transcript (hidle : s.contexts = []) (history : List (Source × Request)) :
    ((s.transcript history).flatMap (·.calls)).count .release =
      if history.any (·.2.releases) && !s.generator.released then 1 else 0 := by
  induction history generalizing s with
  | nil => rfl
  | cons step rest ih =>
      obtain ⟨hserved, hleft, hclosed⟩ := serve_refines hidle step.1 step.2
      have hasks := List.count_eq_zero_of_not_mem
        (release_notMem_asks step.2 s.generator.plan step.1)
      change (((s.serve step.1 step.2).2 :: (s.serve step.1 step.2).1.transcript rest).flatMap
        (·.calls)).count .release = _
      rw [List.flatMap_cons, List.count_append, ih hclosed, hserved, hleft, calls_serve,
        released_serve, List.count_append, hasks, List.any_cons]
      cases step.2.releases <;> cases s.generator.released <;>
        cases rest.any (·.2.releases) <;> rfl

end Histories

section Connections

/-- What is done with a connection. -/
inductive Operation where
  | put (query : Query)
  | close
  deriving DecidableEq, Repr

/-- What a call does with the connection of the catalog. -/
def operations (catalog : Catalog) : Call → List Operation
  | .enums => (catalog.queries .enums).map .put
  | .tables => (catalog.queries .tables).map .put
  | .release => [.close]

theorem operations_of_notMem (catalog : Catalog) {calls : List Call} (hcalls : .release ∉ calls) :
    calls.flatMap (operations catalog) = (calls.flatMap catalog.queries).map .put := by
  induction calls with
  | nil => rfl
  | cons call rest ih =>
      have hrest := ih (List.not_mem_of_not_mem_cons hcalls)
      rw [List.flatMap_cons, List.flatMap_cons, List.map_append, hrest]
      cases call with
      | enums | tables => rfl
      | release => exact absurd List.mem_cons_self hcalls

/-- A style is found by its name, so options that hold styles always name a plan. -/
theorem transformations_of_names (options : Options) :
    Casing.Transformations.ofFields [("columns", .text options.transformColumns.name),
      ("enum_members", .text options.transformEnumMembers.name),
      ("type_names", .text options.transformTypeNames.name)] = .ok options.transformations := by
  have hstyle : ∀ style : Casing.Style, Casing.Style.ofValue (.text style.name) = .ok style := by
    intro style
    cases style <;> rfl
  change (do
    let columns ← Casing.Style.ofValue (.text options.transformColumns.name)
    let enumMembers ← Casing.Style.ofValue (.text options.transformEnumMembers.name)
    let typeNames ← Casing.Style.ofValue (.text options.transformTypeNames.name)
    return Casing.Transformations.mk columns enumMembers typeNames) = _
  rw [hstyle, hstyle, hstyle]
  rfl

/-- The session of the program: the connection is closed after what the run asked, and the run
comes to what it comes to by itself unless it cannot be closed. -/
theorem serve_connected (start : CommandLine.Start) (schema : String) (options : Options)
    {answer : Query → Except String (List Value)} (hconnected : start.database = .ok answer) :
    let source := Catalog.source ⟨schema, answer⟩ start.closing
    (CommandLine.serve start schema options).calls =
        (run (options.plan {}) source).progress.calls ++ [.release] ∧
      (CommandLine.serve start schema options).result = (match start.closing with
        | .ok () => (build (options.plan {}) source).result.map .module
        | .error message => .error (.source (.disconnected message))) := by
  rw [CommandLine.serve, hconnected]
  refine ⟨calls_serve { plan := options.plan {} } _ .session, ?_⟩
  cases start.closing <;> rfl

end Connections

/-- However often a source is to be let go, it is let go once: by the first request that is to do
so, after that request's own run and whatever came of it. A program that reaches its database can
make its generator, and it closes the connection once, after its last query. It ends as its run did,
unless the connection cannot be closed. -/
theorem source_released_once (plan : Plan) (history : List (Source × Request)) :
    let new : Workbench := { generator := { plan } }
    ((new.transcript history).flatMap (·.calls)).count .release =
        (if history.any (·.2.releases) then 1 else 0) ∧
    (∀ before source request after, history = before ++ (source, request) :: after →
      before.any (·.2.releases) = false → request.releases = true →
      ∃ served, (new.transcript history)[before.length]? = some served ∧
        served.calls = request.asks plan source ++ [.release] ∧
        .release ∉ request.asks plan source) ∧
    ∀ (start : CommandLine.Start) (schema : String) (options : Options),
      Casing.Transformations.ofFields [("columns", .text options.transformColumns.name),
        ("enum_members", .text options.transformEnumMembers.name),
        ("type_names", .text options.transformTypeNames.name)] = .ok (options.plan {}).names ∧
      match start.database with
      | .error _ => (CommandLine.serve start schema options).calls = []
      | .ok answer =>
        let catalog : Catalog := ⟨schema, answer⟩
        let source := catalog.source start.closing
        (CommandLine.serve start schema options).calls.flatMap (operations catalog) =
            ((run (options.plan {}) source).progress.calls.flatMap catalog.queries).map .put ++
              [.close] ∧
          (CommandLine.serve start schema options).result = (match start.closing with
            | .ok () => (build (options.plan {}) source).result.map .module
            | .error message => .error (.source (.disconnected message))) := by
  intro new
  refine ⟨?_, ?_, ?_⟩
  · have hnew : new.generator.released = false := rfl
    rw [count_release_transcript (s := new) rfl history, hnew, Bool.not_false, Bool.and_true]
  · intro before source request after hhistory hbefore hreleases
    obtain ⟨-, hclosed⟩ := serveAll_refines (s := new) rfl before
    obtain ⟨hserved, -, -⟩ := serve_refines hclosed source request
    have hfree : (new.serveAll before).generator.released = false := by
      rw [released_serveAll rfl before, hbefore]
      rfl
    have hplan : (new.serveAll before).generator.plan = plan := plan_after rfl before
    refine ⟨((new.serveAll before).serve source request).2, ?_, ?_,
      release_notMem_asks request plan source⟩
    · rw [hhistory, transcript_append, ← length_transcript new before, List.getElem?_append_right
        (Nat.le_refl _), Nat.sub_self]
      rfl
    · rw [hserved, calls_serve, hplan, hfree, hreleases]
      rfl
  · intro start schema options
    refine ⟨transformations_of_names options, ?_⟩
    cases hdatabase : start.database with
    | error message =>
        dsimp only
        rw [CommandLine.serve, hdatabase]
    | ok answer =>
        obtain ⟨hcalls, hresult⟩ := serve_connected start schema options hdatabase
        refine ⟨?_, hresult⟩
        have hqueries := operations_of_notMem ⟨schema, answer⟩
          (release_notMem_asks .session (options.plan {})
            (Catalog.source ⟨schema, answer⟩ start.closing))
        rw [hcalls, List.flatMap_append]
        exact congrArg (· ++ [Operation.close]) hqueries

/-- A source that answers nothing and does not let itself go is let go by the first of two sessions,
and neither the failures nor the requests behind it have it tried again. A program that cannot close
its connection closes it behind the queries of its run, and fails. -/
theorem release_of_failing_session :
    let lost : Source := {
      enums := ⟨.error (.disconnected "lost"), []⟩
      tables := ⟨.ok [], []⟩
      release := ⟨.error (.disconnected "gone"), []⟩ }
    let new : Workbench := { generator := { plan := {} } }
    let history := [(lost, .build), (lost, .session), (lost, .destroy), (lost, .session)]
    let start : CommandLine.Start :=
      { arguments := [], database := .ok fun _ => .ok [], closing := .error "gone" }
    ((new.transcript history).flatMap (·.calls)).count .release = 1 ∧
      (∃ served, (new.transcript history)[1]? = some served ∧
        served.calls = [.enums, .release]) ∧
      (CommandLine.serve start "public" {}).calls.flatMap
          (operations ⟨"public", fun _ => .ok []⟩) =
        [.put .enums, .put .tables, .put .columns, .close] ∧
      (CommandLine.serve start "public" {}).result = .error (.source (.disconnected "gone")) := by
  intro lost new history start
  obtain ⟨hcount, hfirst, hprogram⟩ := source_released_once {} history
  obtain ⟨served, hserved, hcalls, -⟩ := hfirst [(lost, .build)] lost .session
    [(lost, .destroy), (lost, .session)] rfl rfl rfl
  obtain ⟨-, hoperations, hresult⟩ := hprogram start "public" {}
  exact ⟨hcount, ⟨served, hserved, hcalls⟩, hoperations, hresult⟩

end TableTypes.Generation
