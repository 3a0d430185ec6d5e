import TableTypes.Proofs.Declaration.References
import TableTypes.Proofs.Generation.Verdict

/-! # Modules are closed

Declarations resolve names through the registry, while what a module declares comes from the
drafts. The two agree because a run that registers a name also stages the declaration it stands
for: enums with their registrations, interfaces with those of tables. So whatever a module refers
to is in it, whichever declarations were asked for.
-/

namespace TableTypes.Generation

open Declaration (Draft checks)
open Syntax (Closed Expression Statement)

variable {plan : Plan} {source : Source} {enums : List EnumType} {tables : List Table}
  {declarations : List Statement}

section Declared

variable (hbuild : (plan.drafts enums tables).mapM (Draft.build (plan.scope enums tables)) =
  .ok declarations)

include hbuild

theorem declared_of_mem_drafts {draft : Draft} (hmem : draft ∈ plan.drafts enums tables) :
    ∃ statement ∈ declarations, draft.build (plan.scope enums tables) = .ok statement :=
  exists_of_mem_left (mapM_eq_ok_iff.mp hbuild) hmem

theorem draft_of_mem_declarations {statement : Statement} (hmem : statement ∈ declarations) :
    ∃ draft ∈ plan.drafts enums tables, draft.build (plan.scope enums tables) = .ok statement :=
  exists_of_mem_right (mapM_eq_ok_iff.mp hbuild) hmem

/-- A registered enumerated type is declared as an enum under its identifier. -/
theorem enum_declared {request : Registration} (hmem : request ∈ plan.requests enums tables)
    (hkind : request.kind = .enum) :
    ∃ members, .enum request.identifier members true ∈ declarations := by
  rcases Plan.mem_requests_cases hmem with ⟨henums, type, htype, rfl⟩ | ⟨_, table, _, rfl⟩
  · obtain ⟨statement, hstatement, hok⟩ :=
      declared_of_mem_drafts hbuild (Plan.enum_mem_drafts henums htype)
    obtain rfl := Except.ok.inj hok
    exact ⟨_, hstatement⟩
  · cases hkind

/-- A registered table is declared as an interface under its identifier. -/
theorem interface_declared {request : Registration} (hmem : request ∈ plan.requests enums tables)
    (hkind : request.kind = .table) :
    ∃ members, .interface request.identifier members true ∈ declarations := by
  rcases Plan.mem_requests_cases hmem with ⟨_, type, _, rfl⟩ | ⟨htables, table, htable, rfl⟩
  · cases hkind
  · obtain ⟨statement, hstatement, hok⟩ :=
      declared_of_mem_drafts hbuild (Plan.primary_mem_drafts htables htable)
    obtain ⟨members, _, rfl⟩ := Declaration.interface_eq_ok hok
    rw [Declaration.interfaceName, Variant.suffix, String.append_empty] at hstatement
    exact ⟨members, hstatement⟩

/-- If there are validators at all, a registered table has one. -/
theorem validator_declared (hvalidators : plan.validators) {request : Registration}
    (hmem : request ∈ plan.requests enums tables) (hkind : request.kind = .table) :
    ∃ initializer,
      .constant (Declaration.validatorOf request.identifier) initializer true ∈ declarations := by
  rcases Plan.mem_requests_cases hmem with ⟨_, type, _, rfl⟩ | ⟨_, table, htable, rfl⟩
  · cases hkind
  · obtain ⟨first, hfirst, hdraft⟩ := Plan.validator_mem_drafts enums hvalidators htable
    obtain ⟨statement, hstatement, hok⟩ := declared_of_mem_drafts hbuild hdraft
    obtain ⟨properties, _, rfl⟩ := Declaration.validator_eq_ok hok
    rw [Declaration.validatorName, hfirst] at hstatement
    exact ⟨_, hstatement⟩

theorem identifier_declared {request : Registration}
    (hmem : request ∈ plan.requests enums tables) :
    request.identifier ∈ declarations.flatMap (·.boundTypes) := by
  rw [List.mem_flatMap]
  rcases Plan.mem_requests_cases hmem with ⟨_, type, _, hrequest⟩ | ⟨_, table, _, hrequest⟩
  · obtain ⟨members, hdeclared⟩ := enum_declared hbuild hmem (by rw [← hrequest])
    exact ⟨_, hdeclared, List.mem_singleton_self _⟩
  · obtain ⟨members, hdeclared⟩ := interface_declared hbuild hmem (by rw [← hrequest])
    exact ⟨_, hdeclared, List.mem_singleton_self _⟩

/-- What mentions the library of checks, or calls it, is a validator that was asked for. -/
theorem validator_of_mention {statement : Statement} (hmem : statement ∈ declarations)
    {e : Expression} (he : e ∈ statement.expressions)
    (hmention : e = checks ∨ ∃ method arguments, e = checks.method method arguments) :
    plan.validators ∧
      ∃ table, Declaration.validator (plan.scope enums tables) table = .ok statement := by
  obtain ⟨draft, hdraft, hok⟩ := draft_of_mem_declarations hbuild hmem
  obtain ⟨table, rfl⟩ := Draft.validator_of_mention hok he hmention
  refine ⟨?_, table, hok⟩
  rcases Plan.mem_drafts_cases hdraft with ⟨_, type, _, heq⟩ | ⟨other, _, seen, hdraft⟩
  · cases heq
  · have hwanted : (plan.validators ∧ other.name ∉ seen) ∧ table = other := by
      simpa [Plan.mem_tableDrafts_iff] using hdraft
    exact hwanted.1.1

/-- No declaration takes the name of the built-in type: registered names differ from it, and
interfaces for inserts end differently. -/
theorem date_notMem_declarations (haccepts : startRegistry.Accepts (plan.requests enums tables)) :
    "Date" ∉ declarations.flatMap (·.boundTypes) := by
  have hregistered : ∀ request ∈ plan.requests enums tables, request.identifier ≠ "Date" := by
    intro request hmem heq
    have hfree := (Registry.accepts_iff.mp haccepts).2.2 request hmem
    rw [startRegistry, Registry.standard_refuses_iff, heq] at hfree
    exact hfree List.mem_cons_self
  intro hmem
  obtain ⟨statement, hstatement, hdate⟩ := List.mem_flatMap.mp hmem
  obtain ⟨draft, hdraft, hok⟩ := draft_of_mem_declarations hbuild hstatement
  rw [(Draft.bound_of_build hok).2] at hdate
  rcases Plan.mem_drafts_cases hdraft with
    ⟨henums, type, htype, rfl⟩ | ⟨table, htable, seen, hdraft⟩
  · have hname : Declaration.declaredName plan.names type.name = "Date" :=
      (List.mem_singleton.mp hdate).symm
    exact hregistered _ (Plan.enum_mem_requests henums htype) hname
  · rcases Plan.mem_tableDrafts_iff.mp hdraft with
      ⟨htables, rfl⟩ | ⟨_, rfl⟩ | ⟨_, rfl⟩ | ⟨_, rfl⟩
    · have hname : Declaration.declaredName plan.names table.name ++ "" = "Date" :=
        (List.mem_singleton.mp hdate).symm
      rw [String.append_empty] at hname
      exact hregistered _ (Plan.table_mem_requests htables htable) hname
    · have hname : "Date" = Declaration.declaredName plan.names table.name ++ "$Insert" :=
        List.mem_singleton.mp hdate
      have hlast := congrArg (fun name => name.toList.getLast?) hname
      rw [String.toList_append, List.getLast?_append] at hlast
      cases hlast
    · cases hdate
    · cases hdate

end Declared

/-- The types of built-in types refer to two names. -/
theorem references_of_builtin {name schemaName : String} {type : BuiltinType}
    (hmem : (schemaName, type) ∈ BuiltinType.standard) (hname : name ∈ type.node.references) :
    name = "Date" ∨ name = "Json" := by
  have hall : ∀ builtin ∈ BuiltinType.standard, ∀ name ∈ builtin.2.node.references,
      name = "Date" ∨ name = "Json" := by decide
  exact hall (schemaName, type) hmem name hname

theorem references_of_entry {registrations : List Registration}
    (haccepts : startRegistry.Accepts registrations) {name schemaName : String} {entry : Entry}
    (hentry : (startRegistry.extend registrations).find? schemaName = some entry)
    (hname : name ∈ entry.type.references) :
    name = "Date" ∨ name = "Json" ∨ ∃ request ∈ registrations, name = request.identifier := by
  rcases Registry.find?_extend_cases rfl haccepts hentry with
    ⟨type, hbuiltin, rfl⟩ | ⟨request, hmem, rfl⟩
  · rcases references_of_builtin hbuiltin hname with hdate | hjson
    · exact Or.inl hdate
    · exact Or.inr (Or.inl hjson)
  · exact Or.inr (Or.inr ⟨request, hmem, List.mem_singleton.mp hname⟩)

/-- What the check for a value compares with was registered, if it is not built in. -/
theorem request_of_entry {registrations : List Registration}
    (haccepts : startRegistry.Accepts registrations) {schemaName : String} {entry : Entry}
    (hentry : (startRegistry.extend registrations).find? schemaName = some entry)
    (hkind : entry.kind ≠ .builtin) : ∃ request ∈ registrations, entry = request.entry := by
  rcases Registry.find?_extend_cases rfl haccepts hentry with ⟨type, _, rfl⟩ | hrequest
  · exact absurd rfl hkind
  · exact hrequest

section Module

variable (haccepts : startRegistry.Accepts (plan.requests enums tables))
  (hbuild : (plan.drafts enums tables).mapM (Draft.build (plan.scope enums tables)) =
    .ok declarations)
  {statement : Statement} (hmem : statement ∈ Declaration.preamble plan.validators ++ declarations)

include hbuild hmem

theorem validator_of_expression {e : Expression} (he : e ∈ statement.expressions)
    (hmention : e = checks ∨ ∃ method arguments, e = checks.method method arguments) :
    plan.validators ∧
      ∃ table, Declaration.validator (plan.scope enums tables) table = .ok statement := by
  rcases List.mem_append.mp hmem with hmem | hmem
  · rw [Declaration.expressions_of_preamble hmem] at he
    cases he
  · exact validator_of_mention hbuild hmem he hmention

theorem library_imported (hchecks : checks ∈ statement.expressions) :
    .importNames ["z"] "zod" ∈ Declaration.preamble plan.validators := by
  have hvalidators := (validator_of_expression hbuild hmem hchecks (Or.inl rfl)).1
  rw [Declaration.preamble, if_pos hvalidators]
  simp

include haccepts

theorem type_declared {name : String} (hname : name ∈ statement.typeReferences) :
    name = "Date" ∨ name ∈ statement.typeParameters ∨
      name ∈ (Declaration.preamble plan.validators ++ declarations).flatMap (·.boundTypes) := by
  rw [List.flatMap_append, Declaration.boundTypes_preamble]
  have hjson : "Json" ∈ Declaration.helperNames ++ declarations.flatMap (·.boundTypes) :=
    List.mem_cons_self
  rcases List.mem_append.mp hmem with hmem | hmem
  · rcases Declaration.references_of_preamble hmem hname with rfl | hparameter
    · exact Or.inr (Or.inr hjson)
    · exact Or.inr (Or.inl hparameter)
  · obtain ⟨draft, _, hok⟩ := draft_of_mem_declarations hbuild hmem
    obtain ⟨schemaName, entry, hentry, hname⟩ := Draft.entry_of_reference hok hname
    rcases references_of_entry haccepts hentry hname with hdate | rfl | ⟨request, hrequest, rfl⟩
    · exact Or.inl hdate
    · exact Or.inr (Or.inr hjson)
    · exact Or.inr (Or.inr (List.mem_append_right _ (identifier_declared hbuild hrequest)))

theorem nativeEnum_declared {arguments : List Expression}
    (hcall : checks.method "nativeEnum" arguments ∈ statement.expressions) :
    ∃ name members, arguments = [.identifier name] ∧ .enum name members true ∈ declarations := by
  obtain ⟨_, table, hok⟩ := validator_of_expression hbuild hmem hcall (Or.inr ⟨_, _, rfl⟩)
  obtain ⟨schemaName, entry, hentry, hcheck⟩ :=
    Declaration.call_mem_validator (by decide) (by decide) (by decide) hok hcall
  obtain ⟨hkind, harguments⟩ := Declaration.eq_of_nativeEnum hcheck
  obtain ⟨request, hrequest, rfl⟩ := request_of_entry haccepts hentry (by rw [hkind]; decide)
  obtain ⟨members, hdeclared⟩ := enum_declared hbuild hrequest hkind
  exact ⟨_, members, harguments, hdeclared⟩

theorem lazy_declared {arguments : List Expression}
    (hcall : checks.method "lazy" arguments ∈ statement.expressions) :
    ∃ typeName initializer,
      arguments = [.arrow (.identifier (Declaration.validatorOf typeName))] ∧
      .constant (Declaration.validatorOf typeName) initializer true ∈ declarations := by
  obtain ⟨hvalidators, table, hok⟩ :=
    validator_of_expression hbuild hmem hcall (Or.inr ⟨_, _, rfl⟩)
  obtain ⟨schemaName, entry, hentry, hcheck⟩ :=
    Declaration.call_mem_validator (by decide) (by decide) (by decide) hok hcall
  obtain ⟨hkind, harguments⟩ := Declaration.eq_of_lazy hcheck
  -- This validator exists, so validators were asked for, and then the other table has one too.
  obtain ⟨request, hrequest, rfl⟩ := request_of_entry haccepts hentry (by rw [hkind]; decide)
  obtain ⟨initializer, hdeclared⟩ := validator_declared hbuild hvalidators hrequest hkind
  exact ⟨_, initializer, harguments, hdeclared⟩

end Module

/-- The module of a run is closed. -/
theorem closed_of_declarations (haccepts : startRegistry.Accepts (plan.requests enums tables))
    (hbuild : (plan.drafts enums tables).mapM (Draft.build (plan.scope enums tables)) =
      .ok declarations) :
    Closed (Declaration.preamble plan.validators ++ declarations) := by
  constructor
  case types =>
    intro statement hmem name hname
    exact type_declared haccepts hbuild hmem hname
  case enums =>
    intro statement hmem arguments hcall
    obtain ⟨name, members, harguments, hdeclared⟩ :=
      nativeEnum_declared haccepts hbuild hmem hcall
    exact ⟨name, members, true, harguments, List.mem_append_right _ hdeclared⟩
  case validators =>
    intro statement hmem arguments hcall
    obtain ⟨typeName, initializer, harguments, hdeclared⟩ :=
      lazy_declared haccepts hbuild hmem hcall
    exact ⟨typeName, initializer, true, harguments, List.mem_append_right _ hdeclared⟩
  case library =>
    intro statement hmem hchecks
    exact ⟨["z"], "zod", List.mem_append_left _ (library_imported hbuild hmem hchecks),
      List.mem_singleton_self _⟩
  case date =>
    rw [List.flatMap_append, Declaration.boundTypes_preamble, List.mem_append, not_or]
    exact ⟨by decide, date_notMem_declarations hbuild haccepts⟩

/-- Every module that a generator prints is closed, whatever the source answers. -/
theorem build_prints_closed_module (g : Generator) (source : Source) {answer : Answer}
    (hbuild : (g.build source).2.result = .ok answer) :
    ∃ module, (run g.plan source).result = .ok module ∧
      answer = .module (Syntax.printModule g.plan.layout module) ∧ Closed module := by
  obtain ⟨module, hrun, rfl⟩ := Generator.build_eq_ok_iff.mp hbuild
  obtain ⟨enums, tables, hreturns⟩ := returns_of_run hrun
  obtain ⟨haccepts, declarations, hdeclarations, rfl⟩ := (run_eq_ok_iff hreturns).mp hrun
  exact ⟨_, hrun, rfl, closed_of_declarations haccepts hdeclarations⟩

/-- Tables that refer to themselves and to later tables, and an enum that hides a built-in type. -/
theorem closed_module_of_forward_references :
    let g : Generator := { plan := {} }
    let source : Source :=
      { enums := ⟨.ok [{ name := "name", values := ["a"] }], []⟩
        tables := ⟨.ok [
          { name := "users", columns :=
            [{ name := "team", type := "teams" }, { name := "name", type := "name" }] },
          { name := "teams", columns := [{ name := "parent", type := "teams" }] }], []⟩ }
    ∃ module, (g.build source).2.result = .ok (.module (Syntax.printModule {} module)) ∧
      Closed module := by
  intro g source
  have hreturns : source.Returns _ _ := ⟨rfl, rfl⟩
  obtain ⟨module, hrun⟩ := run_gives_module g.plan hreturns (by decide +kernel)
    (by decide +kernel)
  have hbuild := Generator.build_eq_ok_iff.mpr ⟨module, hrun, rfl⟩
  obtain ⟨module, _, hanswer, hclosed⟩ := build_prints_closed_module g source hbuild
  exact ⟨module, hbuild.trans (congrArg Except.ok hanswer), hclosed⟩

end TableTypes.Generation
