import TableTypes.Proofs.Generation.Bindings
import TableTypes.Proofs.Generation.Reordering
import TableTypes.Proofs.Syntax.Modules

/-! # A table more

A further table takes a name in the registry and may hide a built-in type there. Columns of other
types do not see it, so every other declaration is built as before, and the module has one more
block at the place of the table. A module is printed statement by statement, so its text has the
text of the block more, at the same place.
-/

namespace TableTypes

namespace Registry

/-- A registration changes what its own name stands for, and no other. -/
theorem find?_extend_insert {r : Registry} {before after : List Registration}
    {request : Registration} {name : String} (hname : name ≠ request.schemaName) :
    (r.extend (before ++ request :: after)).find? name =
      (r.extend (before ++ after)).find? name := by
  have hbeq : (name == request.schemaName) = false := beq_eq_false_iff_ne.mpr hname
  have hlookup : (r.extend (before ++ request :: after)).entries.lookup name =
      (r.extend (before ++ after)).entries.lookup name := by
    simp only [entries_extend, List.map_append, List.map_cons, List.lookup_append,
      List.lookup_cons, hbeq]
  rw [find?, find?, hlookup]
  rfl

end Registry

namespace Generation

open Declaration (Draft Scope)
open Syntax (Statement)

variable {plan : Plan} {source source' : Source} {enums : List EnumType}
  {before after tables : List Table} {table : Table}

section Plans

theorem Plan.requestsFor_append (kind : Kind) (first second : List String) :
    plan.requestsFor kind (first ++ second) =
      plan.requestsFor kind first ++ plan.requestsFor kind second := by
  unfold Plan.requestsFor
  split
  · rw [List.map_append]
  · rfl

/-- Names that the further table does not have stand for what they stood for. -/
theorem Plan.find?_scope_insert (htables : plan.tables = true) {name : String}
    (hname : name ≠ table.name) :
    (plan.scope enums (before ++ table :: after)).types.find? name =
      (plan.scope enums (before ++ after)).types.find? name := by
  have hrequest : plan.requestsFor .table [table.name] =
      [⟨table.name, Declaration.declaredName plan.names table.name, .table⟩] :=
    if_pos htables
  rw [Plan.scope, Plan.scope, Plan.requests, Plan.requests, List.map_append, List.map_append,
    List.map_cons, Plan.requestsFor_append, Plan.requestsFor_append, Plan.requestsFor_cons,
    hrequest, List.singleton_append, ← List.append_assoc, ← List.append_assoc]
  exact Registry.find?_extend_insert hname

/-- A table gets the same block if all its types stand for the same. -/
theorem builtBlock_congr {types types' : Registry}
    (hfind : ∀ column ∈ table.columns, types.find? column.type = types'.find? column.type) :
    builtBlock plan ⟨types, plan.names⟩ table = builtBlock plan ⟨types', plan.names⟩ table := by
  rw [builtBlock, builtBlock, mapM_congr]
  intro draft hdraft
  refine Draft.build_congr plan.names ?_
  intro other hother column hcolumn
  obtain rfl : table = other :=
    Option.some.inj ((table?_of_mem_tableDrafts hdraft).symm.trans hother)
  exact hfind column hcolumn

end Plans

theorem nodup_of_accepted (htables : plan.tables = true)
    (haccepts : startRegistry.Accepts (plan.requests enums tables)) :
    (tables.map (·.name)).Nodup := by
  have hnames := (Registry.accepts_iff.mp haccepts).1
  have htable : (plan.requestsFor .table (tables.map (·.name))).map (·.schemaName) =
      tables.map (·.name) := by
    rw [Plan.schemaNames_requestsFor, Plan.registers, if_pos htables]
  rw [Plan.requests, List.map_append, htable] at hnames
  exact (List.nodup_append.mp hnames).2.1

/-- A run over the snapshot with the further table declares what it declared without it, and the
block of the table behind those of the tables before it. -/
theorem run_insert (htables : plan.tables = true)
    (hreturns : source.Returns enums (before ++ after))
    (hreturns' : source'.Returns enums (before ++ table :: after))
    (hunrelated : ∀ other ∈ before ++ after, ∀ column ∈ other.columns, column.type ≠ table.name)
    {module module' : List Statement} (hrun : (run plan source).result = .ok module)
    (hrun' : (run plan source').result = .ok module') :
    let scope := plan.scope enums (before ++ table :: after)
    module = Declaration.preamble plan.validators ++ arranged plan scope enums (before ++ after) ∧
      module' = Declaration.preamble plan.validators ++
        arranged plan scope enums (before ++ table :: after) ∧
      (∀ other ∈ before ++ after, TableBlock plan (plan.scope enums (before ++ after)) [] other
        (builtBlock plan scope other)) ∧
      TableBlock plan scope [] table (builtBlock plan scope table) := by
  intro scope
  obtain ⟨haccepts, declarations, hbuild, rfl⟩ := (run_eq_ok_iff hreturns).mp hrun
  obtain ⟨haccepts', declarations', hbuild', rfl⟩ := (run_eq_ok_iff hreturns').mp hrun'
  obtain ⟨hblocks, rfl⟩ := arranged_of_drafts (nodup_of_accepted htables haccepts) hbuild
  obtain ⟨hblocks', rfl⟩ := arranged_of_drafts (nodup_of_accepted htables haccepts') hbuild'
  have hsame : ∀ other ∈ before ++ after,
      builtBlock plan (plan.scope enums (before ++ after)) other = builtBlock plan scope other := by
    intro other hother
    apply builtBlock_congr
    intro column hcolumn
    exact (Plan.find?_scope_insert htables (hunrelated other hother column hcolumn)).symm
  refine ⟨?_, rfl, ?_, hblocks' table (by simp)⟩
  · unfold arranged
    rw [List.flatMap_congr hsame]
    rfl
  · intro other hother
    rw [← hsame other hother]
    exact hblocks other hother

/-- If both builds succeed and no column has the type of the further table, the second module is
the first one with the block of the table inserted, as statements and as text. -/
theorem build_inserts_block (g : Generator) (htables : g.plan.tables = true)
    (hreturns : source.Returns enums (before ++ after))
    (hreturns' : source'.Returns enums (before ++ table :: after))
    (hunrelated : ∀ other ∈ before ++ after, ∀ column ∈ other.columns, column.type ≠ table.name)
    {answer answer' : Answer} (hbuild : (g.build source).2.result = .ok answer)
    (hbuild' : (g.build source').2.result = .ok answer') :
    ∃ block : Table → List Statement,
      let head := Declaration.preamble g.plan.validators ++
        (enumBlock g.plan (g.plan.scope enums (before ++ after)) enums ++ before.flatMap block)
      let tail := after.flatMap block
      let print := Syntax.printModule g.plan.layout
      (∀ other ∈ before ++ after,
        TableBlock g.plan (g.plan.scope enums (before ++ after)) [] other (block other)) ∧
      TableBlock g.plan (g.plan.scope enums (before ++ table :: after)) [] table (block table) ∧
      (run g.plan source).result = .ok (head ++ tail) ∧
      (run g.plan source').result = .ok (head ++ (block table ++ tail)) ∧
      answer = .module (print head ++ print tail) ∧
      answer' = .module (print head ++ (print (block table) ++ print tail)) := by
  obtain ⟨module, hrun, rfl⟩ := Generator.build_eq_ok_iff.mp hbuild
  obtain ⟨module', hrun', rfl⟩ := Generator.build_eq_ok_iff.mp hbuild'
  obtain ⟨hmodule, hmodule', hblocks, hblock⟩ :=
    run_insert htables hreturns hreturns' hunrelated hrun hrun'
  let block := builtBlock g.plan (g.plan.scope enums (before ++ table :: after))
  let head := Declaration.preamble g.plan.validators ++
    (enumBlock g.plan (g.plan.scope enums (before ++ after)) enums ++ before.flatMap block)
  have hsplit : module = head ++ after.flatMap block := by
    rw [hmodule]
    simp only [arranged, List.flatMap_append, head, List.append_assoc]
    rfl
  have hsplit' : module' = head ++ (block table ++ after.flatMap block) := by
    rw [hmodule']
    simp only [arranged, List.flatMap_append, List.flatMap_cons, head, List.append_assoc]
    rfl
  refine ⟨block, hblocks, hblock, ?_, ?_, ?_, ?_⟩
  · rw [hrun, hsplit]
  · rw [hrun', hsplit']
  · rw [hsplit, Syntax.printModule_append]
  · rw [hsplit', Syntax.printModule_append _ head, Syntax.printModule_append _ (block table)]

/-- A table that hides a built-in type and refers to itself, between two that refer to each
other. -/
theorem block_of_hiding_table :
    let g : Generator := { plan := {} }
    let users : Table := { name := "users", columns :=
      [{ name := "team", type := "teams", nullable := true }, { name := "title", type := "text" }] }
    let teams : Table := { name := "teams", columns := [{ name := "lead", type := "users" }] }
    let name : Table := { name := "name", columns :=
      [{ name := "owner", type := "users" }, { name := "parent", type := "name" }] }
    let source : Source := { enums := ⟨.ok [], []⟩, tables := ⟨.ok [users, teams], []⟩ }
    let source' : Source := { enums := ⟨.ok [], []⟩, tables := ⟨.ok [users, name, teams], []⟩ }
    let print := Syntax.printModule g.plan.layout
    ∃ head block tail,
      TableBlock g.plan (g.plan.scope [] [users, name, teams]) [] name block ∧
      (g.build source).2.result = .ok (.module (print head ++ print tail)) ∧
      (g.build source').2.result = .ok (.module (print head ++ (print block ++ print tail))) := by
  intro g users teams name source source' print
  have hreturns : source.Returns [] ([users] ++ [teams]) := ⟨rfl, rfl⟩
  have hreturns' : source'.Returns [] ([users] ++ name :: [teams]) := ⟨rfl, rfl⟩
  obtain ⟨module, hrun⟩ := run_gives_module g.plan hreturns (by decide +kernel)
    (by decide +kernel)
  obtain ⟨module', hrun'⟩ := run_gives_module g.plan hreturns' (by decide +kernel)
    (by decide +kernel)
  have hbuild := Generator.build_eq_ok_iff.mpr ⟨module, hrun, rfl⟩
  have hbuild' := Generator.build_eq_ok_iff.mpr ⟨module', hrun', rfl⟩
  obtain ⟨block, _, hblock, _, _, hanswer, hanswer'⟩ :=
    build_inserts_block g rfl hreturns hreturns' (by decide +kernel) hbuild hbuild'
  exact ⟨_, block name, _, hblock, hbuild.trans (congrArg Except.ok hanswer),
    hbuild'.trans (congrArg Except.ok hanswer')⟩

end Generation

end TableTypes
