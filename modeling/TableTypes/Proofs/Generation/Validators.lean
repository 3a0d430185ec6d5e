import TableTypes.Proofs.Casing.Declared
import TableTypes.Proofs.Declaration.References
import TableTypes.Proofs.Generation.Verdict

/-! # Names of validators

A run plans one validator for each name of a table. If tables become interfaces, the registry keeps
their declared names apart, and those of the validators with them. If they do not, nothing is
registered, and two tables whose names are read alike get two validators of one name.
-/

namespace TableTypes.Syntax

open Declaration (checks)

/-- The name of a validator, which is a constant that checks objects. -/
def Statement.validatorName? : Statement → Option String
  | .constant name (.call (.access (.identifier "z") "object") _) _ => some name
  | _ => none

end TableTypes.Syntax

namespace TableTypes.Generation

open Declaration (Draft Scope checks validatorOf)
open Syntax (Statement)

variable {plan : Plan} {source : Source} {enums : List EnumType} {tables : List Table}
  {module : List Statement}

section Drafts

variable {scope : Scope} {drafts : List Draft} {declarations : List Statement}

theorem validatorNames_of_mapM (hbuild : drafts.mapM (Draft.build scope) = .ok declarations) :
    declarations.filterMap Statement.validatorName? =
      (validated drafts).map fun name =>
        validatorOf (Declaration.declaredName scope.names name) := by
  have hbuilt := mapM_eq_ok_iff.mp hbuild
  clear hbuild
  induction hbuilt with
  | nil => rfl
  | @cons draft statement rest declarations hhead _ ih =>
      cases draft with
      | enum type =>
          obtain rfl := Except.ok.inj hhead
          exact ih
      | interface table variant =>
          obtain ⟨_, _, rfl⟩ := Declaration.interface_eq_ok hhead
          exact ih
      | typeObject table =>
          obtain ⟨_, _, rfl⟩ := Declaration.typeObject_eq_ok hhead
          exact ih
      | validator table =>
          obtain ⟨_, _, rfl⟩ := Declaration.validator_eq_ok hhead
          exact congrArg (List.cons _) ih

theorem validated_draftsAfter (hvalidators : plan.validators = true)
    (earlier tables : List Table) :
    (validated (plan.draftsAfter earlier tables)).Nodup ∧
      ∀ name, name ∈ validated (plan.draftsAfter earlier tables) ↔
        name ∈ tables.map (·.name) ∧ name ∉ earlier.map (·.name) := by
  induction tables generalizing earlier with
  | nil => simp [Plan.draftsAfter, validated]
  | cons table rest ih =>
      obtain ⟨hnodup, hmem⟩ := ih (earlier ++ [table])
      rw [Plan.draftsAfter, validated_append, validated_tableDrafts, hvalidators, Bool.true_and]
      simp only [List.map_append, List.map_cons, List.map_nil, List.mem_append,
        List.mem_singleton, not_or] at hmem
      simp only [List.mem_append, hmem, List.map_cons, List.mem_cons]
      -- A table whose name was seen adds no name.
      by_cases hseen : table.name ∈ earlier.map (·.name)
      · rw [List.contains_iff_mem.mpr hseen]
        refine ⟨hnodup, ?_⟩
        intro name
        have hname : name = table.name → name ∈ earlier.map (·.name) := fun heq => heq ▸ hseen
        simp only [Bool.not_true, Bool.false_eq_true, if_false, List.not_mem_nil, false_or]
        tauto
      · rw [Bool.eq_false_iff.mpr (mt List.contains_iff_mem.mp hseen)]
        refine ⟨List.nodup_cons.mpr ⟨?_, hnodup⟩, ?_⟩
        · intro hagain
          exact ((hmem table.name).mp hagain).2.2 rfl
        · intro name
          have hname : name = table.name → name ∉ earlier.map (·.name) := fun heq => heq ▸ hseen
          simp only [Bool.not_false, if_true, List.mem_singleton]
          tauto

theorem validated_drafts (hvalidators : plan.validators = true) (enums : List EnumType)
    (tables : List Table) :
    (validated (plan.drafts enums tables)).Nodup ∧
      ∀ name, name ∈ validated (plan.drafts enums tables) ↔ name ∈ tables.map (·.name) := by
  obtain ⟨hnodup, hmem⟩ := validated_draftsAfter hvalidators [] tables
  rw [Plan.drafts, validated_append, validated_enumDrafts, List.nil_append]
  exact ⟨hnodup, fun name => (hmem name).trans (and_iff_left List.not_mem_nil)⟩

end Drafts

/-- No two tables of different names have names that are read alike. -/
def TablesApart (plan : Plan) (tables : List Table) : Prop :=
  ∀ first ∈ tables, ∀ second ∈ tables,
    plan.names.typeNames.declaredReading first.name.toList =
      plan.names.typeNames.declaredReading second.name.toList → first.name = second.name

instance (plan : Plan) (tables : List Table) : Decidable (TablesApart plan tables) :=
  inferInstanceAs (Decidable (∀ first ∈ tables, ∀ second ∈ tables, _))

theorem validatorOf_declaredName_eq_iff {names : Casing.Transformations} {name name' : String} :
    validatorOf (Declaration.declaredName names name) =
        validatorOf (Declaration.declaredName names name') ↔
      names.typeNames.declaredReading name.toList =
        names.typeNames.declaredReading name'.toList := by
  rw [← Casing.toIdentifier_apply_eq_iff]
  exact String.append_left_inj _

theorem run_validators_nodup_iff (hvalidators : plan.validators = true)
    (hreturns : source.Returns enums tables) (hrun : (run plan source).result = .ok module) :
    (module.filterMap Statement.validatorName?).Nodup ↔ TablesApart plan tables := by
  obtain ⟨_, declarations, hbuild, rfl⟩ := (run_eq_ok_iff hreturns).mp hrun
  have hpreamble :
      (Declaration.preamble plan.validators).filterMap Statement.validatorName? = [] := by
    rw [hvalidators]
    rfl
  -- Each name of a table is planned once, so validators share a name only if declared names do.
  obtain ⟨hnodup, hmem⟩ := validated_drafts hvalidators enums tables
  rw [List.filterMap_append, hpreamble, List.nil_append, validatorNames_of_mapM hbuild,
    List.nodup_map_iff_inj_on hnodup]
  simp only [hmem, List.forall_mem_map, validatorOf_declaredName_eq_iff]
  rfl

/-- The registry refuses tables whose names are read alike. -/
theorem tablesApart_of_accepted (htables : plan.tables = true)
    (haccepts : startRegistry.Accepts (plan.requests enums tables)) : TablesApart plan tables := by
  intro first hfirst second hsecond hread
  have hidentifiers := (Registry.accepts_iff.mp haccepts).2.1
  have hsame : Declaration.declaredName plan.names first.name =
      Declaration.declaredName plan.names second.name :=
    Casing.toIdentifier_apply_eq_iff.mpr hread
  have hrequest := List.inj_on_of_nodup_map hidentifiers
    (Plan.table_mem_requests htables hfirst) (Plan.table_mem_requests htables hsecond) hsame
  exact congrArg Registration.schemaName hrequest

/-- When the validators of a module have distinct names: always if tables are declared, and
otherwise as long as tables of different names are told apart. -/
theorem build_validators_distinct_iff (g : Generator) (hvalidators : g.plan.validators = true)
    (hreturns : source.Returns enums tables) {answer : Answer}
    (hbuild : (g.build source).2.result = .ok answer) :
    ∃ module, (run g.plan source).result = .ok module ∧
      answer = .module (Syntax.printModule g.plan.layout module) ∧
      ((module.filterMap Statement.validatorName?).Nodup ↔
        g.plan.tables = true ∨ TablesApart g.plan tables) := by
  obtain ⟨module, hrun, rfl⟩ := Generator.build_eq_ok_iff.mp hbuild
  refine ⟨module, hrun, rfl, ?_⟩
  rw [run_validators_nodup_iff hvalidators hreturns hrun]
  constructor
  · exact Or.inr
  · rintro (htables | hapart)
    · exact tablesApart_of_accepted htables ((run_eq_ok_iff hreturns).mp hrun).1
    · exact hapart

/-- A repeated table gets one validator, and similar names are told apart. -/
theorem validators_distinct_of_repeated_table :
    let g : Generator := { plan := { tables := false } }
    let users : Table := { name := "users", columns := [{ name := "id", type := "int4" }] }
    let source : Source :=
      { enums := ⟨.ok [], []⟩, tables := ⟨.ok [users, { name := "user_s" }, users], []⟩ }
    ∃ module, (g.build source).2.result = .ok (.module (Syntax.printModule g.plan.layout module)) ∧
      (module.filterMap Statement.validatorName?).Nodup := by
  intro g users source
  have hreturns : source.Returns [] [users, { name := "user_s" }, users] := ⟨rfl, rfl⟩
  obtain ⟨module, hrun⟩ := run_gives_module g.plan hreturns (by decide +kernel)
    (by decide +kernel)
  have hbuild := Generator.build_eq_ok_iff.mpr ⟨module, hrun, rfl⟩
  obtain ⟨module, _, hanswer, hdistinct⟩ := build_validators_distinct_iff g rfl hreturns hbuild
  refine ⟨module, hbuild.trans (congrArg Except.ok hanswer), hdistinct.mpr (Or.inr ?_)⟩
  decide +kernel

/-- The tables `order_items` and `orderItems` get two validators of one name. -/
theorem validators_not_distinct :
    let g : Generator := { plan := { tables := false } }
    let source : Source :=
      { enums := ⟨.ok [], []⟩
        tables := ⟨.ok [{ name := "order_items" }, { name := "orderItems" }], []⟩ }
    ∃ module, (g.build source).2.result = .ok (.module (Syntax.printModule g.plan.layout module)) ∧
      ¬ (module.filterMap Statement.validatorName?).Nodup := by
  intro g source
  have hreturns : source.Returns [] [{ name := "order_items" }, { name := "orderItems" }] :=
    ⟨rfl, rfl⟩
  obtain ⟨module, hrun⟩ := run_gives_module g.plan hreturns (by decide +kernel)
    (by decide +kernel)
  refine ⟨module, Generator.build_eq_ok_iff.mpr ⟨module, hrun, rfl⟩, ?_⟩
  rw [run_validators_nodup_iff rfl hreturns hrun]
  decide +kernel

end TableTypes.Generation
