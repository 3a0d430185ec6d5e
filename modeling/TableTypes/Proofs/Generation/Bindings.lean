import Mathlib.Data.List.Perm.Basic
import TableTypes.Proofs.Declaration.References
import TableTypes.Proofs.Generation.Verdict

/-! # Names that a module binds

The registry keeps the declared names of enums and tables apart, from each other and from the
helper types. A module also binds names that are not registered: the library of checks, and what
is derived from the declared name of a table by an ending. Two derived names never meet, so a
module binds a name twice exactly when a declared name is the same as such a name.
-/

namespace TableTypes.Generation

open Declaration (Draft Scope declaredName)
open Syntax (Statement)

variable {plan : Plan} {source : Source} {enums : List EnumType} {tables : List Table}

section Drafts

variable {scope : Scope}

theorem bound_of_mapM {drafts : List Draft} {declarations : List Statement}
    (hbuild : drafts.mapM (Draft.build scope) = .ok declarations) :
    declarations.flatMap (·.boundValues) = drafts.flatMap (Draft.boundValues scope) ∧
      declarations.flatMap (·.boundTypes) = drafts.flatMap (Draft.boundTypes scope) := by
  have hbuilt := mapM_eq_ok_iff.mp hbuild
  clear hbuild
  induction hbuilt with
  | nil => exact ⟨rfl, rfl⟩
  | cons hhead _ ih =>
      obtain ⟨hvalues, htypes⟩ := Draft.bound_of_build hhead
      rw [List.flatMap_cons, List.flatMap_cons, List.flatMap_cons, List.flatMap_cons, hvalues,
        htypes, ih.1, ih.2]
      exact ⟨rfl, rfl⟩

theorem values_of_tableDrafts (names : Casing.Transformations) (types : Registry) (table : Table) :
    (plan.tableDrafts [] table).flatMap (Draft.boundValues ⟨types, names⟩) =
      (if plan.typeObjects then [declaredName names table.name ++ "Type"] else []) ++
        if plan.validators then [declaredName names table.name ++ "Schema"] else [] := by
  unfold Plan.tableDrafts
  cases plan.tables <;> cases plan.insertTypes && table.canInsert <;> cases plan.typeObjects <;>
    cases plan.validators <;> rfl

theorem types_of_tableDrafts (names : Casing.Transformations) (types : Registry) (table : Table)
    (htables : plan.tables = true) :
    (plan.tableDrafts [] table).flatMap (Draft.boundTypes ⟨types, names⟩) =
      [declaredName names table.name] ++
        if plan.insertTypes && table.canInsert then [declaredName names table.name ++ "$Insert"]
        else [] := by
  unfold Plan.tableDrafts
  cases plan.insertTypes && table.canInsert <;> cases plan.typeObjects <;>
    cases plan.validators <;>
      simp [htables, Draft.boundTypes, Declaration.interfaceName, Variant.suffix]

end Drafts

theorem draftsAfter_of_nodup (earlier : List Table)
    (hnodup : ((earlier ++ tables).map (·.name)).Nodup) :
    plan.draftsAfter earlier tables = tables.flatMap (plan.tableDrafts []) := by
  induction tables generalizing earlier with
  | nil => rfl
  | cons table rest ih =>
      have hnew : table.name ∉ earlier.map (·.name) := by
        rw [List.map_append, List.nodup_append] at hnodup
        intro hmem
        exact hnodup.2.2 _ hmem table.name List.mem_cons_self rfl
      have hdrafts : plan.tableDrafts (earlier.map (·.name)) table = plan.tableDrafts [] table :=
        Plan.tableDrafts_congr fun _ => iff_of_false hnew List.not_mem_nil
      rw [Plan.draftsAfter, hdrafts, List.flatMap_cons, ih]
      rwa [List.append_assoc]

/-- Tables with distinct names get their drafts independently of each other. -/
theorem Plan.drafts_of_nodup (plan : Plan) (enums : List EnumType)
    (hnodup : (tables.map (·.name)).Nodup) :
    plan.drafts enums tables = plan.enumDrafts enums ++ tables.flatMap (plan.tableDrafts []) := by
  rw [Plan.drafts, draftsAfter_of_nodup [] hnodup]

section Derived

/-- The names that a module binds for values and that nobody registers. -/
def Plan.derivedValues (plan : Plan) (tables : List Table) : List String :=
  (if plan.validators then ["z"] else []) ++
    ((if plan.typeObjects then tables.map (declaredName plan.names ·.name ++ "Type") else []) ++
      if plan.validators then tables.map (declaredName plan.names ·.name ++ "Schema") else [])

/-- The names that a module binds for types and that nobody registers. -/
def Plan.derivedTypes (plan : Plan) (tables : List Table) : List String :=
  Declaration.helperNames ++
    if plan.insertTypes then
      (tables.filter (·.canInsert)).map (declaredName plan.names ·.name ++ "$Insert")
    else []

theorem flatMap_if_const {α β : Type} {flag : Bool} {f : α → β} {l : List α} :
    (l.flatMap fun a => if flag then [f a] else []) = if flag then l.map f else [] := by
  cases flag with
  | false => simp
  | true => simp [List.map_eq_flatMap]

theorem flatMap_if_filter {α β : Type} {flag : α → Bool} {f : α → β} {l : List α} :
    (l.flatMap fun a => if flag a then [f a] else []) = (l.filter flag).map f := by
  induction l with
  | nil => rfl
  | cons a l ih =>
      rw [List.flatMap_cons, ih, List.filter_cons]
      cases flag a <;> rfl

/-- Names that end in a character are apart from names that do not. -/
theorem nodup_append_of_lastChar {l l' : List String} {c : Char} (hl : l.Nodup) (hl' : l'.Nodup)
    (hends : ∀ name ∈ l, name.toList.getLast? = some c)
    (hother : ∀ name ∈ l', name.toList.getLast? ≠ some c) : (l ++ l').Nodup := by
  refine List.nodup_append.mpr ⟨hl, hl', ?_⟩
  rintro name hmem _ hmem' rfl
  exact hother name hmem' (hends name hmem)

theorem lastChar_append {name ending : String} {c : Char}
    (hending : ending.toList.getLast? = some c) : (name ++ ending).toList.getLast? = some c := by
  rw [String.toList_append, List.getLast?_append, hending]
  rfl

theorem nodup_if {flag : Bool} {l : List String} (hl : l.Nodup) :
    (if flag then l else []).Nodup := by
  split
  · exact hl
  · exact List.nodup_nil

section Endings

variable {names : Casing.Transformations} {ending : String} {c : Char}

theorem nodup_map_append (hnodup : (tables.map (declaredName names ·.name)).Nodup) :
    (tables.map (declaredName names ·.name ++ ending)).Nodup := by
  have hmap := hnodup.map (f := (· ++ ending)) fun _ _ heq => (String.append_left_inj _).mp heq
  rwa [List.map_map] at hmap

theorem lastChar_of_mem (hending : ending.toList.getLast? = some c) {flag : Bool} {name : String}
    (hmem : name ∈ if flag then tables.map (declaredName names ·.name ++ ending) else []) :
    name.toList.getLast? = some c := by
  obtain ⟨_, hmem⟩ := List.mem_ite_nil_right.mp hmem
  obtain ⟨table, _, rfl⟩ := List.mem_map.mp hmem
  exact lastChar_append hending

end Endings

/-- The three groups end in different characters. -/
theorem derivedValues_nodup (hnodup : (tables.map (declaredName plan.names ·.name)).Nodup) :
    (plan.derivedValues tables).Nodup := by
  refine nodup_append_of_lastChar (c := 'z') (nodup_if (List.nodup_singleton _)) ?_ ?_ ?_
  · refine nodup_append_of_lastChar (c := 'e') (nodup_if (nodup_map_append hnodup))
      (nodup_if (nodup_map_append hnodup)) ?_ ?_
    · intro name hmem
      exact lastChar_of_mem rfl hmem
    · intro name hmem
      rw [lastChar_of_mem (c := 'a') rfl hmem]
      decide
  · intro name hmem
    obtain ⟨_, hmem⟩ := List.mem_ite_nil_right.mp hmem
    obtain rfl := List.mem_singleton.mp hmem
    rfl
  · intro name hmem
    rcases List.mem_append.mp hmem with hmem | hmem
    · rw [lastChar_of_mem (c := 'e') rfl hmem]
      decide
    · rw [lastChar_of_mem (c := 'a') rfl hmem]
      decide

theorem derivedTypes_nodup (hnodup : (tables.map (declaredName plan.names ·.name)).Nodup) :
    (plan.derivedTypes tables).Nodup := by
  have hinserts : ((tables.filter (·.canInsert)).map
      (declaredName plan.names ·.name ++ "$Insert")).Nodup :=
    (nodup_map_append hnodup).sublist (List.filter_sublist.map _)
  refine List.nodup_append_comm.mp
    (nodup_append_of_lastChar (c := 't') (nodup_if hinserts) (by decide) ?_ (by decide))
  intro name hmem
  exact lastChar_of_mem rfl hmem

end Derived

section Module

variable {module : List Statement}

/-- The declared names of the enums and of the tables. -/
def Plan.identifiers (plan : Plan) (enums : List EnumType) (tables : List Table) : List String :=
  enums.map (declaredName plan.names ·.name) ++ tables.map (declaredName plan.names ·.name)

theorem identifiers_of_requests (henums : plan.enums = true) (htables : plan.tables = true) :
    (plan.requests enums tables).map (·.identifier) = plan.identifiers enums tables := by
  rw [Plan.requests, List.map_append, Plan.identifiers_requestsFor, Plan.identifiers_requestsFor,
    Plan.registers, Plan.registers, if_pos henums, if_pos htables, List.map_map, List.map_map]
  rfl

theorem schemaNames_of_requests (henums : plan.enums = true) (htables : plan.tables = true) :
    (plan.requests enums tables).map (·.schemaName) =
      enums.map (·.name) ++ tables.map (·.name) := by
  rw [Plan.requests, List.map_append, Plan.schemaNames_requestsFor, Plan.schemaNames_requestsFor,
    Plan.registers, Plan.registers, if_pos henums, if_pos htables]

theorem drafts_of_accepted (henums : plan.enums = true) (htables : plan.tables = true)
    (haccepts : startRegistry.Accepts (plan.requests enums tables)) :
    plan.drafts enums tables = enums.map .enum ++ tables.flatMap (plan.tableDrafts []) := by
  have hnames := (Registry.accepts_iff.mp haccepts).1
  rw [schemaNames_of_requests henums htables] at hnames
  rw [plan.drafts_of_nodup enums (List.nodup_append.mp hnames).2.1, Plan.enumDrafts,
    if_pos henums]

theorem flatMap_enum_drafts (names : Casing.Transformations) {f : Draft → List String}
    (hf : ∀ type, f (.enum type) = [declaredName names type.name]) :
    (enums.map Draft.enum).flatMap f = enums.map (declaredName names ·.name) := by
  rw [List.flatMap_map, List.map_eq_flatMap]
  simp only [hf]

/-- The names for values of a module are the declared names of its enums and what it derives. -/
theorem values_perm (hreturns : source.Returns enums tables) (henums : plan.enums = true)
    (htables : plan.tables = true) (hrun : (run plan source).result = .ok module) :
    (module.flatMap (·.boundValues)).Perm
      (enums.map (declaredName plan.names ·.name) ++ plan.derivedValues tables) := by
  obtain ⟨haccepts, declarations, hbuild, rfl⟩ := (run_eq_ok_iff hreturns).mp hrun
  rw [List.flatMap_append, (bound_of_mapM hbuild).1, drafts_of_accepted henums htables haccepts,
    List.flatMap_append, List.flatMap_assoc, Declaration.boundValues_preamble, Plan.scope,
    flatMap_enum_drafts plan.names fun _ => rfl]
  simp only [values_of_tableDrafts]
  refine (List.perm_append_comm_assoc _ _ _).trans (.append_left _ (.append_left _ ?_))
  rw [← flatMap_if_const, ← flatMap_if_const]
  exact (List.flatMap_append_perm _ _ _).symm

/-- Its names for types are those of the interfaces besides. -/
theorem types_perm (hreturns : source.Returns enums tables) (henums : plan.enums = true)
    (htables : plan.tables = true) (hrun : (run plan source).result = .ok module) :
    (module.flatMap (·.boundTypes)).Perm
      (plan.identifiers enums tables ++ plan.derivedTypes tables) := by
  obtain ⟨haccepts, declarations, hbuild, rfl⟩ := (run_eq_ok_iff hreturns).mp hrun
  rw [List.flatMap_append, (bound_of_mapM hbuild).2, drafts_of_accepted henums htables haccepts,
    List.flatMap_append, List.flatMap_assoc, Declaration.boundTypes_preamble, Plan.scope,
    flatMap_enum_drafts plan.names fun _ => rfl]
  simp only [types_of_tableDrafts _ _ _ htables]
  rw [Plan.identifiers, Plan.derivedTypes, List.append_assoc]
  -- The module has both interfaces of a table next to each other; here all primary ones come first.
  refine (List.perm_append_comm_assoc _ _ _).trans (.append_left _ ?_)
  refine .trans (.append_left _ ?_) (List.perm_append_comm_assoc _ _ _)
  refine (List.flatMap_append_perm _ _ _).symm.trans ?_
  rw [← List.map_eq_flatMap, flatMap_if_filter]
  refine .append_left _ ?_
  cases plan.insertTypes with
  | false => simp
  | true => simp

theorem identifiers_nodup (henums : plan.enums = true) (htables : plan.tables = true)
    (haccepts : startRegistry.Accepts (plan.requests enums tables)) :
    (plan.identifiers enums tables).Nodup := by
  rw [← identifiers_of_requests henums htables]
  exact (Registry.accepts_iff.mp haccepts).2.1

theorem identifier_notMem_helperNames (henums : plan.enums = true) (htables : plan.tables = true)
    (haccepts : startRegistry.Accepts (plan.requests enums tables)) {identifier : String}
    (hmem : identifier ∈ plan.identifiers enums tables) :
    identifier ∉ Declaration.helperNames := by
  rw [← identifiers_of_requests henums htables] at hmem
  obtain ⟨request, hrequest, rfl⟩ := List.mem_map.mp hmem
  have hfree := (Registry.accepts_iff.mp haccepts).2.2 request hrequest
  rw [startRegistry, Registry.standard_refuses_iff] at hfree
  intro hhelper
  exact hfree (List.mem_cons_of_mem _ hhelper)

/-- A module binds no name for values twice, unless an enum takes a name that it derives. -/
theorem values_nodup_iff (hreturns : source.Returns enums tables) (henums : plan.enums = true)
    (htables : plan.tables = true) (hrun : (run plan source).result = .ok module) :
    (module.flatMap (·.boundValues)).Nodup ↔
      ∀ type ∈ enums, declaredName plan.names type.name ∉ plan.derivedValues tables := by
  have hids := identifiers_nodup henums htables ((run_eq_ok_iff hreturns).mp hrun).1
  obtain ⟨hidsEnums, hidsTables, _⟩ := List.nodup_append.mp hids
  rw [(values_perm hreturns henums htables hrun).nodup_iff, List.nodup_append']
  constructor
  · rintro ⟨_, _, hdisjoint⟩ type hmem hderived
    exact hdisjoint (List.mem_map.mpr ⟨type, hmem, rfl⟩) hderived
  · intro hapart
    refine ⟨hidsEnums, derivedValues_nodup hidsTables, ?_⟩
    intro name hmem hderived
    obtain ⟨type, htype, rfl⟩ := List.mem_map.mp hmem
    exact hapart type htype hderived

/-- It binds no name for types twice, unless an enum or a table takes a name that it derives. -/
theorem types_nodup_iff (hreturns : source.Returns enums tables) (henums : plan.enums = true)
    (htables : plan.tables = true) (hrun : (run plan source).result = .ok module) :
    (module.flatMap (·.boundTypes)).Nodup ↔
      ∀ identifier ∈ plan.identifiers enums tables, identifier ∉ plan.derivedTypes tables := by
  have hids := identifiers_nodup henums htables ((run_eq_ok_iff hreturns).mp hrun).1
  rw [(types_perm hreturns henums htables hrun).nodup_iff, List.nodup_append']
  constructor
  · rintro ⟨_, _, hdisjoint⟩ identifier hmem hderived
    exact hdisjoint hmem hderived
  · intro hapart
    refine ⟨hids, derivedTypes_nodup (List.nodup_append.mp hids).2.1, ?_⟩
    intro identifier hmem hderived
    exact hapart identifier hmem hderived

/-- The enum is declared under the name of the library of checks, of a type object or of a
validator. -/
def TakesValue (plan : Plan) (tables : List Table) (type : EnumType) : Prop :=
  (plan.validators ∧ declaredName plan.names type.name = "z") ∨
  ∃ table ∈ tables,
    (plan.typeObjects ∧
      declaredName plan.names type.name = declaredName plan.names table.name ++ "Type") ∨
    (plan.validators ∧
      declaredName plan.names type.name = declaredName plan.names table.name ++ "Schema")

/-- The enum or table is declared under the name of an interface for inserts. -/
def TakesType (plan : Plan) (tables : List Table) (schemaName : String) : Prop :=
  plan.insertTypes ∧ ∃ table ∈ tables, table.canInsert ∧
    declaredName plan.names schemaName = declaredName plan.names table.name ++ "$Insert"

instance (type : EnumType) : Decidable (TakesValue plan tables type) :=
  inferInstanceAs (Decidable (_ ∨ _))

instance (schemaName : String) : Decidable (TakesType plan tables schemaName) :=
  inferInstanceAs (Decidable (_ ∧ _))

theorem takesValue_iff {type : EnumType} :
    TakesValue plan tables type ↔
      declaredName plan.names type.name ∈ plan.derivedValues tables := by
  unfold TakesValue Plan.derivedValues
  simp only [List.mem_append, List.mem_ite_nil_right, List.mem_singleton, List.mem_map]
  constructor
  · rintro (hcheck | ⟨table, hmem, ⟨hwanted, heq⟩ | ⟨hwanted, heq⟩⟩)
    · exact Or.inl hcheck
    · exact Or.inr (Or.inl ⟨hwanted, table, hmem, heq.symm⟩)
    · exact Or.inr (Or.inr ⟨hwanted, table, hmem, heq.symm⟩)
  · rintro (hcheck | ⟨hwanted, table, hmem, heq⟩ | ⟨hwanted, table, hmem, heq⟩)
    · exact Or.inl hcheck
    · exact Or.inr ⟨table, hmem, Or.inl ⟨hwanted, heq.symm⟩⟩
    · exact Or.inr ⟨table, hmem, Or.inr ⟨hwanted, heq.symm⟩⟩

theorem takesType_iff {schemaName : String}
    (hhelper : declaredName plan.names schemaName ∉ Declaration.helperNames) :
    TakesType plan tables schemaName ↔
      declaredName plan.names schemaName ∈ plan.derivedTypes tables := by
  unfold TakesType Plan.derivedTypes
  rw [List.mem_append, or_iff_right hhelper]
  simp only [List.mem_ite_nil_right, List.mem_map, List.mem_filter, and_assoc, eq_comm]

/-- When a module binds no name twice. All other ways in which declarations could take the same
name are excluded by the registry or by the endings of derived names. -/
theorem module_names_nodup_iff (hreturns : source.Returns enums tables)
    (henums : plan.enums = true) (htables : plan.tables = true)
    (hrun : (run plan source).result = .ok module) :
    ((module.flatMap (·.boundValues)).Nodup ∧ (module.flatMap (·.boundTypes)).Nodup) ↔
      (∀ type ∈ enums, ¬ TakesValue plan tables type) ∧
        ∀ schemaName ∈ enums.map (·.name) ++ tables.map (·.name),
          ¬ TakesType plan tables schemaName := by
  have haccepts := ((run_eq_ok_iff hreturns).mp hrun).1
  have hnames : plan.identifiers enums tables =
      (enums.map (·.name) ++ tables.map (·.name)).map (declaredName plan.names) := by
    rw [List.map_append, List.map_map, List.map_map]
    rfl
  have htypes : ∀ schemaName ∈ enums.map (·.name) ++ tables.map (·.name),
      TakesType plan tables schemaName ↔
        declaredName plan.names schemaName ∈ plan.derivedTypes tables := by
    intro schemaName hmem
    apply takesType_iff
    apply identifier_notMem_helperNames henums htables haccepts
    rw [hnames]
    exact List.mem_map_of_mem hmem
  rw [values_nodup_iff hreturns henums htables hrun, types_nodup_iff hreturns henums htables hrun,
    hnames]
  simp only [takesValue_iff, List.forall_mem_map]
  apply and_congr_right
  intro _
  constructor
  · intro hapart schemaName hmem htakes
    exact hapart schemaName hmem ((htypes schemaName hmem).mp htakes)
  · intro hfree schemaName hmem hderived
    exact hfree schemaName hmem ((htypes schemaName hmem).mpr hderived)

/-- An enum and two tables that refer to it and to each other bind each name once. -/
theorem module_names_nodup_of_mutual_tables :
    let users : Table := { name := "users", columns :=
      [{ name := "team", type := "teams" }, { name := "state", type := "state" }] }
    let teams : Table := { name := "teams", columns := [{ name := "lead", type := "users" }] }
    let source : Source :=
      { enums := ⟨.ok [{ name := "state" }], []⟩, tables := ⟨.ok [users, teams], []⟩ }
    ∃ module, (run {} source).result = .ok module ∧
      (module.flatMap (·.boundValues)).Nodup ∧ (module.flatMap (·.boundTypes)).Nodup := by
  intro users teams source
  have hreturns : source.Returns [{ name := "state" }] [users, teams] := ⟨rfl, rfl⟩
  obtain ⟨module, hrun⟩ := run_gives_module {} hreturns (by decide +kernel)
    (by decide +kernel)
  exact ⟨module, hrun, (module_names_nodup_iff hreturns rfl rfl hrun).mpr (by decide +kernel)⟩

/-- An enum `users_type` is declared as `UsersType`, and so is the type object of a table `users`.
Both are registered, as `UsersType` and `Users`, and the module binds the name twice. -/
theorem module_names_not_nodup :
    let users : Table := { name := "users", columns := [{ name := "id", type := "int4" }] }
    let source : Source :=
      { enums := ⟨.ok [{ name := "users_type", values := ["a"] }], []⟩
        tables := ⟨.ok [users], []⟩ }
    ∃ module, (run {} source).result = .ok module ∧ ¬ (module.flatMap (·.boundValues)).Nodup := by
  intro users source
  have hreturns : source.Returns [{ name := "users_type", values := ["a"] }] [users] := ⟨rfl, rfl⟩
  obtain ⟨module, hrun⟩ := run_gives_module {} hreturns (by decide +kernel)
    (by decide +kernel)
  refine ⟨module, hrun, ?_⟩
  rw [values_nodup_iff hreturns rfl rfl hrun]
  decide +kernel

end Module

end TableTypes.Generation
