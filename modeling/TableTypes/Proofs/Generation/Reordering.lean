import TableTypes.Proofs.Generation.Bindings
import TableTypes.Proofs.Generation.Contents

/-! # Snapshots in another order

A run registers everything before it builds anything. The order in which a snapshot lists its
enumerated types and its tables therefore decides where a declaration stands, and neither what it
says nor whether there is a module at all, wherever tables refer to each other. Tables of one name
are an exception, because only the first of them gets a validator.
-/

namespace TableTypes

namespace Registry

variable {r : Registry} {requests requests' : List Registration}

theorem Accepts.perm (hperm : requests.Perm requests') (haccepts : r.Accepts requests) :
    r.Accepts requests' := by
  obtain ⟨hnames, hidentifiers, hrefuses⟩ := accepts_iff.mp haccepts
  refine accepts_iff.mpr ⟨?_, ?_, ?_⟩
  · exact (hperm.map _).nodup_iff.mp hnames
  · exact (hperm.map _).nodup_iff.mp hidentifiers
  · exact fun request hmem => hrefuses request (hperm.mem_iff.mpr hmem)

/-- Accepted registrations give every name the same entry in any order. -/
theorem find?_extend_perm (hperm : requests.Perm requests') (haccepts : r.Accepts requests)
    (name : String) : (r.extend requests).find? name = (r.extend requests').find? name := by
  by_cases hname : name ∈ requests.map (·.schemaName)
  · obtain ⟨request, hmem, rfl⟩ := List.mem_map.mp hname
    rw [find?_extend_of_mem haccepts hmem,
      find?_extend_of_mem (haccepts.perm hperm) (hperm.mem_iff.mp hmem)]
  · have hname' : name ∉ requests'.map (·.schemaName) := by
      rwa [← (hperm.map _).mem_iff]
    rw [find?_extend_of_notMem hname, find?_extend_of_notMem hname']

end Registry

namespace Generation

open Declaration (Draft Scope)
open Syntax (Statement)

variable {plan : Plan} {source source' : Source} {enums enums' : List EnumType}
  {tables tables' : List Table}

section Plans

theorem Plan.requestsFor_perm {names names' : List String} (hperm : names.Perm names')
    (kind : Kind) : (plan.requestsFor kind names).Perm (plan.requestsFor kind names') := by
  unfold Plan.requestsFor
  split
  · exact hperm.map _
  · exact .nil

theorem Plan.requests_perm (plan : Plan) (henums : enums.Perm enums')
    (htables : tables.Perm tables') :
    (plan.requests enums tables).Perm (plan.requests enums' tables') :=
  (Plan.requestsFor_perm (henums.map _) .enum).append
    (Plan.requestsFor_perm (htables.map _) .table)

theorem Plan.drafts_perm (plan : Plan) (henums : enums.Perm enums') (htables : tables.Perm tables')
    (hnodup : (tables.map (·.name)).Nodup) :
    (plan.drafts enums tables).Perm (plan.drafts enums' tables') := by
  rw [plan.drafts_of_nodup enums hnodup,
    plan.drafts_of_nodup enums' ((htables.map _).nodup_iff.mp hnodup)]
  refine .append ?_ (htables.flatMap_right _)
  unfold Plan.enumDrafts
  split
  · exact henums.map _
  · exact .nil

/-- If the registrations are accepted, a draft is built alike in both orders. -/
theorem Plan.build_perm (plan : Plan) (henums : enums.Perm enums') (htables : tables.Perm tables')
    (haccepts : startRegistry.Accepts (plan.requests enums tables)) :
    Draft.build (plan.scope enums tables) = Draft.build (plan.scope enums' tables') := by
  funext draft
  refine Draft.build_congr plan.names ?_
  intro _ _ column _
  exact Registry.find?_extend_perm (plan.requests_perm henums htables) haccepts column.type

end Plans

section Blocks

variable {scope : Scope}

/-- The declarations for a table, if it is the only one of its name. -/
def builtBlock (plan : Plan) (scope : Scope) (table : Table) : List Statement :=
  ((plan.tableDrafts [] table).mapM (Draft.build scope)).toOption.getD []

/-- If the drafts for all tables are built, the declarations are their blocks in a row. -/
theorem flatMap_builtBlock {declarations : List Statement}
    (hbuild : (tables.flatMap (plan.tableDrafts [])).mapM (Draft.build scope) =
      .ok declarations) :
    (∀ table ∈ tables, TableBlock plan scope [] table (builtBlock plan scope table)) ∧
      declarations = tables.flatMap (builtBlock plan scope) := by
  induction tables generalizing declarations with
  | nil =>
      obtain rfl := Except.ok.inj hbuild
      exact ⟨by simp, rfl⟩
  | cons table rest ih =>
      rw [List.flatMap_cons] at hbuild
      obtain ⟨block, blocks, hblock, hblocks, rfl⟩ := mapM_append_eq_ok_iff.mp hbuild
      obtain ⟨hrest, rfl⟩ := ih hblocks
      have hbuilt : builtBlock plan scope table = block := by
        rw [builtBlock, hblock]
        rfl
      refine ⟨?_, by rw [List.flatMap_cons, hbuilt]⟩
      rw [List.forall_mem_cons, hbuilt]
      exact ⟨tableBlock_of_mapM hblock, hrest⟩

end Blocks

section Runs

/-- The declarations of a module in the order of the snapshot. -/
def arranged (plan : Plan) (scope : Scope) (enums : List EnumType) (tables : List Table) :
    List Statement :=
  enumBlock plan scope enums ++ tables.flatMap (builtBlock plan scope)

theorem arranged_perm (plan : Plan) (scope : Scope) (henums : enums.Perm enums')
    (htables : tables.Perm tables') :
    (arranged plan scope enums tables).Perm (arranged plan scope enums' tables') := by
  refine .append ?_ (htables.flatMap_right _)
  unfold enumBlock
  split
  · exact henums.map _
  · exact .nil

/-- A run that gives a module has arranged what each enum and table gets. -/
theorem arranged_of_drafts {scope : Scope} (hnodup : (tables.map (·.name)).Nodup)
    {declarations : List Statement}
    (hbuild : (plan.drafts enums tables).mapM (Draft.build scope) = .ok declarations) :
    (∀ table ∈ tables, TableBlock plan scope [] table (builtBlock plan scope table)) ∧
      declarations = arranged plan scope enums tables := by
  rw [plan.drafts_of_nodup enums hnodup] at hbuild
  obtain ⟨enumPart, blocks, henums, hblocks, rfl⟩ := mapM_append_eq_ok_iff.mp hbuild
  obtain ⟨htables, rfl⟩ := flatMap_builtBlock hblocks
  rw [arranged, ← enumBlock_of_mapM henums]
  exact ⟨htables, rfl⟩

/-- The drafts can be built in both orders or in none. -/
theorem mapM_drafts_perm (henums : enums.Perm enums') (htables : tables.Perm tables')
    (hnodup : (tables.map (·.name)).Nodup)
    (haccepts : startRegistry.Accepts (plan.requests enums tables)) :
    (∃ unknown, (plan.drafts enums tables).mapM (Draft.build (plan.scope enums tables)) =
        .error unknown) ↔
      ∃ unknown, (plan.drafts enums' tables').mapM (Draft.build (plan.scope enums' tables')) =
        .error unknown := by
  rw [exists_mapM_eq_error_iff, exists_mapM_eq_error_iff,
    plan.build_perm henums htables haccepts]
  simp only [(plan.drafts_perm henums htables hnodup).mem_iff]

/-- A run over the snapshot in another order fails with the same kind of failure or gives the same
declarations, each enum and each block of a table at its place in that order. -/
theorem run_perm (plan : Plan) (hreturns : source.Returns enums tables)
    (hreturns' : source'.Returns enums' tables') (henums : enums.Perm enums')
    (htables : tables.Perm tables') (hnodup : (tables.map (·.name)).Nodup) :
    (∃ refused refused', (run plan source).result = .error (.duplicate refused) ∧
        (run plan source').result = .error (.duplicate refused')) ∨
      (∃ unknown unknown', (run plan source).result = .error (.unknown unknown) ∧
        (run plan source').result = .error (.unknown unknown')) ∨
      ((run plan source).result = .ok (Declaration.preamble plan.validators ++
          arranged plan (plan.scope enums tables) enums tables) ∧
        (run plan source').result = .ok (Declaration.preamble plan.validators ++
          arranged plan (plan.scope enums tables) enums' tables') ∧
        ∀ table ∈ tables, TableBlock plan (plan.scope enums tables) [] table
          (builtBlock plan (plan.scope enums tables) table)) := by
  have hrequests := plan.requests_perm henums htables
  have hrefuses : ∀ {requests requests' : List Registration} {refused}, requests.Perm requests' →
      startRegistry.registerAll requests = .error refused →
      ¬ startRegistry.Accepts requests' := by
    intro requests requests' refused hperm hregister haccepts
    rw [Registry.registerAll_eq_ok (haccepts.perm hperm.symm)] at hregister
    cases hregister
  rcases run_cases plan hreturns with ⟨refused, hregister, hrun⟩ | ⟨haccepts, hbuilt⟩
  · rcases run_cases plan hreturns' with ⟨refused', _, hrun'⟩ | ⟨haccepts', _⟩
    · exact Or.inl ⟨refused, refused', hrun, hrun'⟩
    · exact absurd haccepts' (hrefuses hrequests hregister)
  rcases run_cases plan hreturns' with ⟨refused', hregister', _⟩ | ⟨haccepts', hbuilt'⟩
  · exact absurd haccepts (hrefuses hrequests.symm hregister')
  have hfails := mapM_drafts_perm henums htables hnodup haccepts
  rcases hbuilt with ⟨unknown, hbuild, hrun⟩ | ⟨declarations, hbuild, hrun⟩
  · rcases hbuilt' with ⟨unknown', _, hrun'⟩ | ⟨declarations', hbuild', _⟩
    · exact Or.inr (Or.inl ⟨unknown, unknown', hrun, hrun'⟩)
    · obtain ⟨unknown', hbuild''⟩ := hfails.mp ⟨unknown, hbuild⟩
      rw [hbuild'] at hbuild''
      cases hbuild''
  · rcases hbuilt' with ⟨unknown', hbuild', _⟩ | ⟨declarations', hbuild', hrun'⟩
    · obtain ⟨unknown, hbuild''⟩ := hfails.mpr ⟨unknown', hbuild'⟩
      rw [hbuild] at hbuild''
      cases hbuild''
    · rw [← plan.build_perm henums htables haccepts] at hbuild'
      obtain ⟨hblocks, rfl⟩ := arranged_of_drafts hnodup hbuild
      obtain ⟨_, rfl⟩ := arranged_of_drafts ((htables.map _).nodup_iff.mp hnodup) hbuild'
      exact Or.inr (Or.inr ⟨hrun, hrun', hblocks⟩)

end Runs

/-- A snapshot in another order fails with the same kind of failure or gives the same module up to
the order of its declarations: one for each enumerated type, which is the same in both modules,
and a block for each table, which is the same and in one piece in both. -/
theorem build_order_independent (g : Generator) (hreturns : source.Returns enums tables)
    (hreturns' : source'.Returns enums' tables') (henums : enums.Perm enums')
    (htables : tables.Perm tables') (hnodup : (tables.map (·.name)).Nodup) :
    (∃ refused refused', (g.build source).2.result = .error (.duplicate refused) ∧
      (g.build source').2.result = .error (.duplicate refused')) ∨
    (∃ unknown unknown', (g.build source).2.result = .error (.unknown unknown) ∧
      (g.build source').2.result = .error (.unknown unknown')) ∨
    ∃ (enumNode : EnumType → Statement) (block : Table → List Statement),
      let declarations := fun (enums : List EnumType) (tables : List Table) =>
        (if g.plan.enums then enums.map enumNode else []) ++ tables.flatMap block
      let module := fun (enums : List EnumType) (tables : List Table) =>
        Declaration.preamble g.plan.validators ++ declarations enums tables
      (∀ type, enumNode type = Declaration.enumType (g.plan.scope enums tables) type) ∧
      (∀ table ∈ tables, TableBlock g.plan (g.plan.scope enums tables) [] table (block table)) ∧
      (run g.plan source).result = .ok (module enums tables) ∧
      (run g.plan source').result = .ok (module enums' tables') ∧
      (g.build source).2.result =
        .ok (.module (Syntax.printModule g.plan.layout (module enums tables))) ∧
      (g.build source').2.result =
        .ok (.module (Syntax.printModule g.plan.layout (module enums' tables'))) ∧
      (declarations enums tables).Perm (declarations enums' tables') := by
  simp only [Generator.build_eq_error_iff, Generator.build_eq_ok_iff]
  rcases run_perm g.plan hreturns hreturns' henums htables hnodup with
    hduplicate | hunknown | ⟨hrun, hrun', hblocks⟩
  · exact Or.inl hduplicate
  · exact Or.inr (Or.inl hunknown)
  · refine Or.inr (Or.inr ⟨Declaration.enumType (g.plan.scope enums tables),
      builtBlock g.plan (g.plan.scope enums tables), fun _ => rfl, hblocks, hrun, hrun',
      ⟨_, hrun, rfl⟩, ⟨_, hrun', rfl⟩, ?_⟩)
    exact arranged_perm g.plan (g.plan.scope enums tables) henums htables

/-- Two tables that refer to each other and to an enum, in both orders. -/
theorem blocks_of_mutual_tables :
    let g : Generator := { plan := {} }
    let users : Table := { name := "users", columns :=
      [{ name := "team", type := "teams" }, { name := "state", type := "state" }] }
    let teams : Table := { name := "teams", columns := [{ name := "lead", type := "users" }] }
    let state : EnumType := { name := "state", values := ["on"] }
    let role : EnumType := { name := "role", values := ["owner"] }
    let source : Source := { enums := ⟨.ok [state, role], []⟩, tables := ⟨.ok [users, teams], []⟩ }
    let source' : Source :=
      { enums := ⟨.ok [role, state], []⟩, tables := ⟨.ok [teams, users], []⟩ }
    ∃ (enumNode : EnumType → Statement) (block : Table → List Statement),
      (run g.plan source).result = .ok (Declaration.preamble true ++
        ([enumNode state, enumNode role] ++ (block users ++ block teams))) ∧
      (run g.plan source').result = .ok (Declaration.preamble true ++
        ([enumNode role, enumNode state] ++ (block teams ++ block users))) := by
  intro g users teams state role source source'
  have hreturns : source.Returns [state, role] [users, teams] := ⟨rfl, rfl⟩
  have hreturns' : source'.Returns [role, state] [teams, users] := ⟨rfl, rfl⟩
  obtain ⟨module, hrun⟩ := run_gives_module g.plan hreturns (by decide +kernel)
    (by decide +kernel)
  have hbuild := Generator.build_eq_ok_iff.mpr ⟨module, hrun, rfl⟩
  rcases build_order_independent g hreturns hreturns' (.swap _ _ _) (.swap _ _ _) (by decide) with
    ⟨refused, _, hduplicate, _⟩ | ⟨unknown, _, hunknown, _⟩ |
      ⟨enumNode, block, _, _, hrun, hrun', _⟩
  · rw [hbuild] at hduplicate
    cases hduplicate
  · rw [hbuild] at hunknown
    cases hunknown
  · have horder : ∀ first second, [first, second].flatMap block = block first ++ block second := by
      simp
    simp only [horder] at hrun hrun'
    exact ⟨enumNode, block, hrun, hrun'⟩

end Generation

end TableTypes
