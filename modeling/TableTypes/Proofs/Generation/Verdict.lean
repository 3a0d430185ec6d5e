import TableTypes.Proofs.Declaration.Building
import TableTypes.Proofs.Generation.Result
import TableTypes.Proofs.Registry.Resolution

/-! # When a run fails, and with what

The conditions are read off the snapshot. A run fails with a registration if and only if some
name or identifier is taken, wherever in the snapshot that happens. Otherwise it fails with a
type if and only if a table for which it declares anything has a column whose type stands for
nothing after all registrations. In both cases it reports the first culprit, and there is no
third case in which it gives no text.
-/

namespace TableTypes.Generation

open Declaration (Draft Unresolved)

variable {plan : Plan} {source : Source} {enums : List EnumType} {tables : List Table}

/-- The registration repeats the name or the identifier of an earlier one, or takes an identifier
that modules use themselves. -/
def Clashes (earlier : List Registration) (registration : Registration) : Prop :=
  (∃ other ∈ earlier, other.schemaName = registration.schemaName ∨
    other.identifier = registration.identifier) ∨
  registration.identifier ∈ ["Date", "Json", "Nullable"]

/-- The run declares something for the table. -/
def Stages (plan : Plan) (earlier : List Table) (table : Table) : Prop :=
  plan.tables ∨ (plan.insertTypes ∧ table.canInsert) ∨ plan.typeObjects ∨
    (plan.validators ∧ ∀ other ∈ earlier, other.name ≠ table.name)

/-- The type of the column is neither built in nor a registered name. -/
def Unknown (registrations : List Registration) (column : Column) : Prop :=
  column.type ∉ BuiltinType.standard.map (·.1) ∧ column.type ∉ registrations.map (·.schemaName)

/-- The run declares something for the table and cannot, because of one of its columns. -/
def Dangles (plan : Plan) (registrations : List Registration) (earlier : List Table)
    (table : Table) : Prop :=
  Stages plan earlier table ∧ ∃ column ∈ table.columns, Unknown registrations column

instance (earlier : List Registration) (registration : Registration) :
    Decidable (Clashes earlier registration) :=
  inferInstanceAs (Decidable (_ ∨ _))

instance (registrations : List Registration) (column : Column) :
    Decidable (Unknown registrations column) :=
  inferInstanceAs (Decidable (_ ∧ _))

instance (earlier : List Table) (table : Table) : Decidable (Stages plan earlier table) :=
  inferInstanceAs (Decidable (_ ∨ _))

instance (registrations : List Registration) (earlier : List Table) (table : Table) :
    Decidable (Dangles plan registrations earlier table) :=
  inferInstanceAs (Decidable (_ ∧ _))

theorem refuses_iff_clashes {earlier : List Registration} {registration : Registration} :
    (startRegistry.extend earlier).Refuses registration ↔ Clashes earlier registration := by
  rw [Registry.refuses_extend_iff, startRegistry, Registry.standard_refuses_iff, Clashes, or_comm]

theorem refuses_eq_clashes :
    (fun before => (startRegistry.extend before).Refuses) = Clashes :=
  funext fun _ => funext fun _ => propext refuses_iff_clashes

theorem accepts_iff_not_clashes {registrations : List Registration} :
    startRegistry.Accepts registrations ↔ ¬ AnyWith Clashes registrations := by
  rw [Registry.Accepts, refuses_eq_clashes]

theorem unresolved_iff_unknown {registrations : List Registration} {column : Column} :
    Unresolved (startRegistry.extend registrations) column ↔ Unknown registrations column := by
  unfold Unresolved Unknown
  rw [Registry.find?_eq_none_iff, and_comm]
  simp [startRegistry, Registry.standard, Registry.extend]

theorem unresolved_eq_unknown {registrations : List Registration} :
    Unresolved (startRegistry.extend registrations) = Unknown registrations :=
  funext fun _ => propext unresolved_iff_unknown

theorem exists_mem_orderedColumns_iff {table : Table} {p : Column → Prop} :
    (∃ column ∈ table.orderedColumns, p column) ↔ ∃ column ∈ table.columns, p column := by
  simp only [Table.orderedColumns, List.mem_mergeSort]

section Drafts

variable {scope : Declaration.Scope} {unknown : UnknownType}

theorem tableDrafts_ne_nil_iff {earlier : List Table} {table : Table} :
    (∃ draft, draft ∈ plan.tableDrafts (earlier.map (·.name)) table) ↔
      Stages plan earlier table := by
  have hseen : table.name ∉ earlier.map (·.name) ↔ ∀ other ∈ earlier, other.name ≠ table.name := by
    simp
  simp only [Plan.mem_tableDrafts_iff, exists_or, exists_and_left, exists_eq, and_true]
  rw [hseen, Stages]

theorem table?_of_mem_tableDrafts {seen : List String} {table : Table} {draft : Draft}
    (hmem : draft ∈ plan.tableDrafts seen table) : draft.table? = some table := by
  rcases Plan.mem_tableDrafts_iff.mp hmem with ⟨_, rfl⟩ | ⟨_, rfl⟩ | ⟨_, rfl⟩ | ⟨_, rfl⟩ <;> rfl

/-- All drafts for a table fail alike, so if there is one, the first unresolved column decides. -/
theorem mapM_tableDrafts_eq_error_iff {earlier : List Table} {table : Table} :
    (plan.tableDrafts (earlier.map (·.name)) table).mapM (Draft.build scope) = .error unknown ↔
      Stages plan earlier table ∧
        ∃ column, FirstWith (fun _ => Unresolved scope.types) table.orderedColumns column ∧
          unknown = ⟨column.type⟩ := by
  constructor
  · intro hfails
    obtain ⟨draft, hfirst, hbuild⟩ := mapM_eq_error_iff.mp hfails
    obtain ⟨table', htable, hcolumn⟩ := Draft.build_eq_error_iff.mp hbuild
    rw [table?_of_mem_tableDrafts hfirst.mem] at htable
    obtain rfl := Option.some.inj htable
    exact ⟨tableDrafts_ne_nil_iff.mp ⟨draft, hfirst.mem⟩, hcolumn⟩
  · rintro ⟨hstages, hcolumn⟩
    obtain ⟨draft, hmem⟩ := tableDrafts_ne_nil_iff.mpr hstages
    -- Whichever draft comes first, it is for this table and fails with its first column.
    cases hdrafts : plan.tableDrafts (earlier.map (·.name)) table with
    | nil =>
        rw [hdrafts] at hmem
        cases hmem
    | cons head rest =>
        have htable : head.table? = some table :=
          table?_of_mem_tableDrafts (by rw [hdrafts]; exact List.mem_cons_self)
        have hbuild : head.build scope = .error unknown :=
          Draft.build_eq_error_iff.mpr ⟨table, htable, hcolumn⟩
        rw [List.mapM_cons, hbuild]
        rfl

theorem mapM_draftsAfter_eq_error_iff {earlier : List Table} :
    (plan.draftsAfter earlier tables).mapM (Draft.build scope) = .error unknown ↔
      ∃ table, FirstWith (fun before table => Stages plan (earlier ++ before) table ∧
          ∃ column ∈ table.columns, Unresolved scope.types column) tables table ∧
        ∃ column, FirstWith (fun _ => Unresolved scope.types) table.orderedColumns column ∧
          unknown = ⟨column.type⟩ := by
  induction tables generalizing earlier with
  | nil =>
      rw [Plan.draftsAfter, List.mapM_nil]
      constructor
      · intro h
        cases h
      · rintro ⟨table, hfirst, _⟩
        exact absurd hfirst (FirstWith.not_nil table)
  | cons table rest ih =>
      have hcolumns : (∃ unknown : UnknownType, ∃ column,
          FirstWith (fun _ => Unresolved scope.types) table.orderedColumns column ∧
            unknown = ⟨column.type⟩) ↔
          ∃ column ∈ table.columns, Unresolved scope.types column := by
        rw [← exists_mem_orderedColumns_iff, ← AnyWith.const_iff, ← FirstWith.exists_iff,
          exists_comm]
        simp
      -- The tail is judged with this table among the earlier ones, as `FirstWith` does it.
      rw [Plan.draftsAfter, mapM_append_eq_error_iff, ih]
      simp only [mapM_tableDrafts_eq_error_iff, exists_and_left, hcolumns, FirstWith.cons_iff,
        List.append_nil, List.append_assoc, List.singleton_append]
      constructor
      · rintro (⟨hstages, hcolumn⟩ | ⟨hhead, later, hfirst, hcolumn⟩)
        · exact ⟨table, Or.inl ⟨rfl, hstages, hcolumns.mp ⟨unknown, hcolumn⟩⟩, hcolumn⟩
        · exact ⟨later, Or.inr ⟨hhead, hfirst⟩, hcolumn⟩
      · rintro ⟨later, ⟨rfl, hstages, _⟩ | ⟨hhead, hfirst⟩, hcolumn⟩
        · exact Or.inl ⟨hstages, hcolumn⟩
        · exact Or.inr ⟨hhead, later, hfirst, hcolumn⟩

theorem mapM_drafts_eq_error_iff :
    (plan.drafts enums tables).mapM (Draft.build (plan.scope enums tables)) = .error unknown ↔
      ∃ table, FirstWith (Dangles plan (plan.requests enums tables)) tables table ∧
        ∃ column, FirstWith (fun _ => Unknown (plan.requests enums tables))
            table.orderedColumns column ∧
          unknown = ⟨column.type⟩ := by
  have henums : ¬ ∃ unknown,
      (plan.enumDrafts enums).mapM (Draft.build (plan.scope enums tables)) = .error unknown := by
    rw [exists_mapM_eq_error_iff]
    rintro ⟨draft, hmem, unknown, hfails⟩
    obtain ⟨table, htable, _⟩ := Draft.build_eq_error_iff.mp hfails
    unfold Plan.enumDrafts at hmem
    split at hmem
    · obtain ⟨type, _, rfl⟩ := List.mem_map.mp hmem
      cases htable
    · cases hmem
  rw [Plan.drafts, mapM_append_eq_error_iff, mapM_draftsAfter_eq_error_iff]
  simp only [Plan.scope, List.nil_append, unresolved_eq_unknown]
  constructor
  · rintro (hfails | ⟨_, htable⟩)
    · exact absurd ⟨unknown, hfails⟩ henums
    · exact htable
  · intro htable
    exact Or.inr ⟨henums, htable⟩

end Drafts

section Run

theorem run_refuses_iff (hreturns : source.Returns enums tables) :
    (∃ refused, (run plan source).result = .error (.duplicate refused)) ↔
      AnyWith Clashes (plan.requests enums tables) := by
  simp only [run_eq_duplicate_iff hreturns]
  rw [← not_iff_not, ← accepts_iff_not_clashes]
  constructor
  · intro hnone
    cases hregister : startRegistry.registerAll (plan.requests enums tables) with
    | error refused => exact absurd ⟨refused, hregister⟩ hnone
    | ok types => exact (Registry.registerAll_eq_ok_iff.mp hregister).1
  · rintro haccepts ⟨refused, hregister⟩
    rw [Registry.registerAll_eq_ok haccepts] at hregister
    cases hregister

/-- The unknown type that a run reports is the first one of the first table that dangles. -/
theorem run_unknown_first (hreturns : source.Returns enums tables) {unknown : UnknownType}
    (hresult : (run plan source).result = .error (.unknown unknown)) :
    ∃ table, FirstWith (Dangles plan (plan.requests enums tables)) tables table ∧
      ∃ column, FirstWith (fun _ => Unknown (plan.requests enums tables))
          table.orderedColumns column ∧
        unknown = ⟨column.type⟩ :=
  mapM_drafts_eq_error_iff.mp ((run_eq_unknown_iff hreturns).mp hresult).2

theorem run_unknown_iff (hreturns : source.Returns enums tables)
    (haccepts : ¬ AnyWith Clashes (plan.requests enums tables)) :
    (∃ unknown, (run plan source).result = .error (.unknown unknown)) ↔
      AnyWith (Dangles plan (plan.requests enums tables)) tables := by
  constructor
  · rintro ⟨unknown, hresult⟩
    obtain ⟨table, hfirst, _⟩ := run_unknown_first hreturns hresult
    exact FirstWith.exists_iff.mp ⟨table, hfirst⟩
  · intro hdangles
    obtain ⟨table, hfirst⟩ := FirstWith.exists_iff.mpr hdangles
    obtain ⟨_, _, _, ⟨_, hcolumns⟩, _⟩ := id hfirst
    obtain ⟨column, hcolumn⟩ := FirstWith.exists_iff.mpr
      (AnyWith.const_iff.mpr (exists_mem_orderedColumns_iff.mpr hcolumns))
    refine ⟨⟨column.type⟩, (run_eq_unknown_iff hreturns).mpr ⟨?_, ?_⟩⟩
    · exact accepts_iff_not_clashes.mpr haccepts
    · exact mapM_drafts_eq_error_iff.mpr ⟨table, hfirst, column, hcolumn, rfl⟩

theorem run_gives_module (plan : Plan) (hreturns : source.Returns enums tables)
    (haccepts : ¬ AnyWith Clashes (plan.requests enums tables))
    (hdangles : ¬ AnyWith (Dangles plan (plan.requests enums tables)) tables) :
    ∃ module, (run plan source).result = .ok module := by
  rcases run_cases plan hreturns with
    ⟨refused, _, hrun⟩ | ⟨_, ⟨unknown, _, hrun⟩ | ⟨declarations, _, hrun⟩⟩
  · exact absurd ((run_refuses_iff hreturns).mp ⟨refused, hrun⟩) haccepts
  · exact absurd ((run_unknown_iff hreturns haccepts).mp ⟨unknown, hrun⟩) hdangles
  · exact ⟨_, hrun⟩

end Run

end TableTypes.Generation
