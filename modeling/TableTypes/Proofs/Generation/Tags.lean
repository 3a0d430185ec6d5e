import TableTypes.Proofs.Casing.Declared
import TableTypes.Proofs.Declaration.Tags
import TableTypes.Proofs.Generation.Closure

/-! # Tags and checks of a module

A module may show each column twice: with a tag in a type object and with a check in a validator.
The tag tells the check as long as the run declares no enum and no table under the keyword of a
built-in type. Styles that start names with a capital never do so, but the registry does not keep
the others from it.
-/

namespace TableTypes.Generation

open Casing (Style)
open Declaration (AllDeclared Draft KeywordTaken Scope checks declaredName fieldName typeObjectName
  validatorName)
open Syntax (Expression Statement)

variable {plan : Plan} {source : Source} {enums : List EnumType} {tables : List Table}
  {declarations module : List Statement}

/-- The module holds the type object and the validator of a table, with these properties. -/
structure ShowsTable (scope : Scope) (module : List Statement) (table : Table)
    (tags checkers : List (String × Expression)) : Prop where
  typeObject : Declaration.typeObject scope table =
    .ok (.constant (typeObjectName scope table) (.asConst (.object tags)) true)
  typeObject_mem : .constant (typeObjectName scope table) (.asConst (.object tags)) true ∈ module
  validator : Declaration.validator scope table =
    .ok (.constant (validatorName scope table) (checks.method "object" [.object checkers]) true)
  validator_mem :
    .constant (validatorName scope table) (checks.method "object" [.object checkers]) true ∈ module

/-- The module shows a column of a table with the tag and with the check. -/
def Shown (scope : Scope) (module : List Statement) (column : Column) (tag : String)
    (check : Expression) : Prop :=
  ∃ table tags checkers, ShowsTable scope module table tags checkers ∧
    ∃ position : Nat, table.orderedColumns[position]? = some column ∧
      tags[position]? = some (fieldName scope.names column, .string tag) ∧
      checkers[position]? = some (fieldName scope.names column, check)

section Shown

variable {scope : Scope} {column : Column} {tag : String} {check : Expression}

theorem entry_of_shown (hshown : Shown scope module column tag check) :
    ∃ entry, scope.types.find? column.type = some entry ∧
      tag = (Declaration.wrap column entry.type).print ({} : Syntax.Layout).indent 0 ∧
      check = Declaration.wrapCheck column (Declaration.entryCheck entry) := by
  obtain ⟨table, tags, checkers, hshows, position, hcolumn, htag, hcheck⟩ := hshown
  obtain ⟨_, htags, heq⟩ := Declaration.typeObject_eq_ok hshows.typeObject
  obtain rfl : tags = _ := by simpa using heq
  obtain ⟨_, hcheckers, heq⟩ := Declaration.validator_eq_ok hshows.validator
  obtain rfl : checkers = _ := by simpa [Expression.method] using heq
  -- Both objects were made from one list of columns, so one position leads to one entry.
  obtain ⟨_, hfound, entry, hentry, rfl⟩ := exists_of_getElem? htags hcolumn
  obtain ⟨_, hfound', entry', hentry', rfl⟩ := exists_of_getElem? hcheckers hcolumn
  obtain rfl := Option.some.inj (hentry.symm.trans hentry')
  refine ⟨entry, hentry, ?_, ?_⟩
  · have heq := Option.some.inj (htag.symm.trans hfound)
    exact Expression.string.inj (congrArg Prod.snd heq)
  · have heq := Option.some.inj (hcheck.symm.trans hfound')
    exact congrArg Prod.snd heq

theorem shown_of_shapes {table : Table} {typeObject validator : Statement}
    (htypeObject : Declaration.typeObject scope table = .ok typeObject)
    (htypeObject_mem : typeObject ∈ module)
    (hvalidator : Declaration.validator scope table = .ok validator)
    (hvalidator_mem : validator ∈ module) (hcolumn : column ∈ table.columns) :
    ∃ tag check, Shown scope module column tag check := by
  obtain ⟨tags, htags, rfl⟩ := Declaration.typeObject_eq_ok htypeObject
  obtain ⟨checkers, hcheckers, rfl⟩ := Declaration.validator_eq_ok hvalidator
  have hordered : column ∈ table.orderedColumns :=
    table.orderedColumns_ascending.perm.mem_iff.mpr hcolumn
  obtain ⟨position, hposition⟩ := List.mem_iff_getElem?.mp hordered
  obtain ⟨_, htag, _, _, rfl⟩ := exists_of_getElem? htags hposition
  obtain ⟨_, hcheck, _, _, rfl⟩ := exists_of_getElem? hcheckers hposition
  exact ⟨_, _, table, tags, checkers,
    ⟨htypeObject, htypeObject_mem, hvalidator, hvalidator_mem⟩, position, hposition, htag, hcheck⟩

end Shown

/-- Every column of the first table of a name is shown, if there are tags and checks at all. -/
theorem shown_of_mem (hobjects : plan.typeObjects = true) (hvalidators : plan.validators = true)
    (hbuild : (plan.drafts enums tables).mapM (Draft.build (plan.scope enums tables)) =
      .ok declarations)
    {before after : List Table} {table : Table} (htables : tables = before ++ table :: after)
    (hfirst : ∀ other ∈ before, other.name ≠ table.name) {column : Column}
    (hcolumn : column ∈ table.columns) :
    ∃ tag check, Shown (plan.scope enums tables)
      (Declaration.preamble plan.validators ++ declarations) column tag check := by
  have hdrafts : ∀ draft ∈ [Draft.typeObject table, .validator table],
      draft ∈ plan.drafts enums tables := by
    intro draft hdraft
    apply List.mem_append_right
    refine Plan.mem_draftsAfter_iff.mpr ⟨before, table, after, htables, ?_⟩
    have hnew : table.name ∉ (([] : List Table) ++ before).map (·.name) := by simpa using hfirst
    apply Plan.mem_tableDrafts_iff.mpr
    rcases List.mem_pair.mp hdraft with rfl | rfl
    · exact Or.inr (Or.inr (Or.inl ⟨hobjects, rfl⟩))
    · exact Or.inr (Or.inr (Or.inr ⟨⟨hvalidators, hnew⟩, rfl⟩))
  obtain ⟨typeObject, hmem, htypeObject⟩ :=
    declared_of_mem_drafts hbuild (hdrafts _ List.mem_cons_self)
  obtain ⟨validator, hmem', hvalidator⟩ := declared_of_mem_drafts hbuild
    (hdrafts _ (List.mem_cons_of_mem _ List.mem_cons_self))
  exact shown_of_shapes htypeObject (List.mem_append_right _ hmem) hvalidator
    (List.mem_append_right _ hmem') hcolumn

section Keywords

theorem declarable_of_mem_requests {request : Registration}
    (hmem : request ∈ plan.requests enums tables) :
    Casing.Declarable request.identifier.toList := by
  rcases Plan.mem_requests_cases hmem with ⟨_, type, _, rfl⟩ | ⟨_, table, _, rfl⟩
  · exact Casing.declarable_toIdentifier _
  · exact Casing.declarable_toIdentifier _

/-- What a run registers are enums and tables, under declarable names. -/
theorem allDeclared_requests : AllDeclared (plan.requests enums tables) := by
  constructor
  · intro request hmem
    rcases Plan.mem_requests_cases hmem with ⟨_, _, _, rfl⟩ | ⟨_, _, _, rfl⟩
    · exact Kind.noConfusion
    · exact Kind.noConfusion
  · intro request hmem
    exact (declarable_of_mem_requests hmem).part

theorem declaredName_notMem_keywordNames {names : Casing.Transformations}
    (hstyle : names.typeNames ∈ [Style.pascal, .constant, .header]) (name : String) :
    declaredName names name ∉ Declaration.keywordNames := by
  have hhead := Casing.not_isLower_of_head hstyle name.toList
  have htext : (declaredName names name).toList =
      Casing.identifierChars (names.typeNames.applyChars name.toList) := by
    simp only [declaredName, Casing.toIdentifier, Style.apply, String.toList_ofList]
  rw [← htext] at hhead
  simp only [Declaration.keywordNames, List.mem_cons, List.not_mem_nil, or_false]
  rintro (heq | heq | heq)
  · exact hhead 'n' (by rw [heq]; rfl) (by decide)
  · exact hhead 's' (by rw [heq]; rfl) (by decide)
  · exact hhead 'b' (by rw [heq]; rfl) (by decide)

theorem not_keywordTaken_of_style
    (hstyle : plan.names.typeNames ∈ [Style.pascal, .constant, .header]) (name name' : String) :
    ¬ KeywordTaken (plan.requests enums tables) name name' := by
  rintro ⟨request, hmem, hkeyword, _⟩
  rcases Plan.mem_requests_cases hmem with ⟨_, type, _, rfl⟩ | ⟨_, table, _, rfl⟩
  · exact declaredName_notMem_keywordNames hstyle type.name hkeyword
  · exact declaredName_notMem_keywordNames hstyle table.name hkeyword

end Keywords

theorem print_check_eq_iff_of_shown
    (haccepts : startRegistry.Accepts (plan.requests enums tables)) {column column' : Column}
    {tag : String} {check check' : Expression}
    (hshown : Shown (plan.scope enums tables) module column tag check)
    (hshown' : Shown (plan.scope enums tables) module column' tag check') (unit : String)
    (depth : Nat) :
    check.print unit depth = check'.print unit depth ↔
      ¬ KeywordTaken (plan.requests enums tables) column.type column'.type := by
  obtain ⟨entry, hentry, htag, rfl⟩ := entry_of_shown hshown
  obtain ⟨entry', hentry', htag', rfl⟩ := entry_of_shown hshown'
  exact Declaration.print_check_eq_iff haccepts allDeclared_requests hentry hentry'
    (htag.symm.trans htag')

/-- When the tags of a module tell its checks: columns that are shown with one tag have one check,
unless the type of only one of them is declared under the keyword of a built-in type. -/
theorem build_tags_tell_checks (g : Generator) (hobjects : g.plan.typeObjects = true)
    (hvalidators : g.plan.validators = true) (hreturns : source.Returns enums tables)
    {answer : Answer} (hbuild : (g.build source).2.result = .ok answer) :
    ∃ module, (run g.plan source).result = .ok module ∧
      answer = .module (Syntax.printModule g.plan.layout module) ∧
      (∀ before table after, tables = before ++ table :: after →
        (∀ other ∈ before, other.name ≠ table.name) → ∀ column ∈ table.columns,
          ∃ tag check, Shown (g.plan.scope enums tables) module column tag check) ∧
      (∀ column column' tag check check',
        Shown (g.plan.scope enums tables) module column tag check →
        Shown (g.plan.scope enums tables) module column' tag check' → ∀ unit depth,
          (check.print unit depth = check'.print unit depth ↔
            ¬ KeywordTaken (g.plan.requests enums tables) column.type column'.type)) ∧
      (g.plan.names.typeNames ∈ [Style.pascal, .constant, .header] →
        ∀ name name', ¬ KeywordTaken (g.plan.requests enums tables) name name') := by
  obtain ⟨module, hrun, rfl⟩ := Generator.build_eq_ok_iff.mp hbuild
  obtain ⟨haccepts, declarations, hdeclarations, rfl⟩ := (run_eq_ok_iff hreturns).mp hrun
  refine ⟨_, hrun, rfl, ?_, ?_, not_keywordTaken_of_style⟩
  · intro before table after hsplit hfirst column hcolumn
    exact shown_of_mem hobjects hvalidators hdeclarations hsplit hfirst hcolumn
  · intro column column' tag check check' hshown hshown' unit depth
    exact print_check_eq_iff_of_shown haccepts hshown hshown' unit depth

/-- Columns of built-in types, of an enum, of a table and of arrays. -/
theorem tags_tell_checks_of_mixed_columns :
    let g : Generator := { plan := {} }
    let status : EnumType := { name := "status", values := ["active"] }
    let users : Table := { name := "users", columns :=
      [{ name := "team", type := "teams", nullable := true }, { name := "state", type := "status" },
        { name := "tags", type := "text", isArray := true, nullable := true }] }
    let teams : Table := { name := "teams", columns := [{ name := "lead", type := "users" }] }
    let source : Source := { enums := ⟨.ok [status], []⟩, tables := ⟨.ok [users, teams], []⟩ }
    ∃ module, (g.build source).2.result = .ok (.module (Syntax.printModule g.plan.layout module)) ∧
      ∀ column column' tag check check',
        Shown (g.plan.scope [status] [users, teams]) module column tag check →
        Shown (g.plan.scope [status] [users, teams]) module column' tag check' →
          check.print "" 0 = check'.print "" 0 := by
  intro g status users teams source
  have hreturns : source.Returns [status] [users, teams] := ⟨rfl, rfl⟩
  obtain ⟨module, hrun⟩ := run_gives_module g.plan hreturns (by decide +kernel)
    (by decide +kernel)
  have hbuild := Generator.build_eq_ok_iff.mpr ⟨module, hrun, rfl⟩
  obtain ⟨module, _, hanswer, _, hchecks, hstyle⟩ :=
    build_tags_tell_checks g rfl rfl hreturns hbuild
  refine ⟨module, hbuild.trans (congrArg Except.ok hanswer), ?_⟩
  intro column column' tag check check' hshown hshown'
  apply (hchecks column column' tag check check' hshown hshown' "" 0).mpr
  exact hstyle (by decide) column.type column'.type

/-- An enum that is declared as `string` has the tag of texts and a check of its own. -/
theorem tags_do_not_tell_checks :
    let g : Generator := { plan := { names := { typeNames := .none } } }
    let type : EnumType := { name := "string", values := ["a"] }
    let title : Column := { name := "title", type := "text" }
    let state : Column := { name := "state", type := "string" }
    let table : Table := { name := "t", columns := [title, state] }
    let source : Source := { enums := ⟨.ok [type], []⟩, tables := ⟨.ok [table], []⟩ }
    ∃ module, (g.build source).2.result = .ok (.module (Syntax.printModule g.plan.layout module)) ∧
      ∃ check check', Shown (g.plan.scope [type] [table]) module title "string" check ∧
        Shown (g.plan.scope [type] [table]) module state "string" check' ∧
        check.print "" 0 = "z.string()" ∧ check'.print "" 0 = "z.nativeEnum(string)" := by
  intro g type title state table source
  have hreturns : source.Returns [type] [table] := ⟨rfl, rfl⟩
  obtain ⟨module, hrun⟩ := run_gives_module g.plan hreturns (by decide +kernel)
    (by decide +kernel)
  have hbuild := Generator.build_eq_ok_iff.mpr ⟨module, hrun, rfl⟩
  obtain ⟨_, declarations, hdeclarations, rfl⟩ := (run_eq_ok_iff hreturns).mp hrun
  have hshown : ∀ column ∈ table.columns, ∃ tag check, Shown (g.plan.scope [type] [table])
      (Declaration.preamble g.plan.validators ++ declarations) column tag check := by
    intro column hcolumn
    have hsplit : [table] = [] ++ table :: [] := rfl
    exact shown_of_mem rfl rfl hdeclarations hsplit (by simp) hcolumn
  have htext : (g.plan.scope [type] [table]).types.find? "text" =
      some (Registry.builtinEntry .string) := rfl
  have hstring : (g.plan.scope [type] [table]).types.find? "string" =
      some ⟨declaredName g.plan.names "string", .enum,
        .named (declaredName g.plan.names "string")⟩ := rfl
  have hname : declaredName g.plan.names "string" = "string" := by decide +kernel
  rw [hname] at hstring
  obtain ⟨tag, check, htitle⟩ := hshown title List.mem_cons_self
  obtain ⟨tag', check', hstate⟩ := hshown state (List.mem_cons_of_mem _ List.mem_cons_self)
  obtain ⟨entry, hentry, rfl, rfl⟩ := entry_of_shown htitle
  obtain ⟨entry', hentry', rfl, rfl⟩ := entry_of_shown hstate
  obtain rfl := Option.some.inj (htext.symm.trans hentry)
  obtain rfl := Option.some.inj (hstring.symm.trans hentry')
  exact ⟨_, hbuild, _, _, htitle, hstate, rfl, rfl⟩

end TableTypes.Generation
