import Mathlib.Data.List.Nodup
import TableTypes.Proofs.Options.Calls
import TableTypes.Proofs.Work

/-! # Changes of options

A change puts the values that it gives in the places of others, and a null gives nothing. Two
changes in a row come to one, in which the later value counts: what the first has stored is taken
by the second as if it were given with it. Names of no option are refused before any value is
looked at, so the first change, if it is taken, has none of them.

Options in place are changed in a copy: a new object is filled with the old values and the new
ones, and the styles in it are settled one after another. A refusal in the midst of this leaves
the copy as it is by then. No object that was there before is touched.
-/

namespace TableTypes.Options

open Casing (Style)

/-- A null gives nothing. -/
def isGiven : Value → Bool
  | .null => false
  | _ => true

/-- Values by names, each name once; the name of what is changed is not among them. -/
structure Keywords where
  fields : Stored
  nodup : (fields.map (·.1)).Nodup := by decide
  self_notMem : "self" ∉ fields.map (·.1) := by decide

namespace Keywords

def given (keywords : Keywords) : Stored :=
  keywords.fields.filter fun field => isGiven field.2

/-- The value that is given by a name. -/
def gives (keywords : Keywords) (name : String) : Option Value :=
  (keywords.fields.lookup name).filter isGiven

/-- The given names that no option has, in their order. -/
def unknown (keywords : Keywords) : List String :=
  (keywords.given.map (·.1)).filter fun name => !names.contains name

variable {keywords later earlier : Keywords} {name : String}

theorem lookup_given (keywords : Keywords) (name : String) :
    keywords.given.lookup name = keywords.gives name :=
  lookup_filter keywords.nodup _ name

theorem mem_given_iff : name ∈ keywords.given.map (·.1) ↔ (keywords.gives name).isSome := by
  rw [← lookup_given, ← not_iff_not, ← Registry.lookup_eq_none_iff_notMem,
    Option.not_isSome_iff_eq_none]

theorem mem_unknown_iff :
    name ∈ keywords.unknown ↔ (keywords.gives name).isSome ∧ name ∉ names := by
  simp [unknown, mem_given_iff]

/-- What the later ones give, and what else the earlier ones hold. -/
def atopFields (later earlier : Keywords) : Stored :=
  later.given ++ earlier.fields.filter fun field => (later.gives field.1).isNone

theorem nodup_atopFields (later earlier : Keywords) :
    ((atopFields later earlier).map (·.1)).Nodup := by
  rw [atopFields, List.map_append]
  refine (later.nodup.sublist (List.filter_sublist.map _)).append
    (earlier.nodup.sublist (List.filter_sublist.map _)) fun name hlater hearlier => ?_
  obtain ⟨field, hfield, rfl⟩ := List.mem_map.mp hearlier
  have hnone := (List.mem_filter.mp hfield).2
  have hsome := mem_given_iff.mp hlater
  simp [Option.isNone_iff_eq_none.mp hnone] at hsome

theorem self_notMem_atopFields (later earlier : Keywords) :
    "self" ∉ (atopFields later earlier).map (·.1) := by
  rw [atopFields, List.map_append, List.mem_append, not_or]
  exact ⟨fun h => later.self_notMem ((List.filter_sublist.map _).subset h),
    fun h => earlier.self_notMem ((List.filter_sublist.map _).subset h)⟩

def atop (later earlier : Keywords) : Keywords :=
  ⟨atopFields later earlier, nodup_atopFields later earlier, self_notMem_atopFields later earlier⟩

theorem gives_atop (later earlier : Keywords) (name : String) :
    (later.atop earlier).gives name = (later.gives name).or (earlier.gives name) := by
  have hgiven : ∀ v, later.gives name = some v → isGiven v = true :=
    fun v hv => (Option.filter_eq_some_iff.mp hv).2
  change ((atopFields later earlier).lookup name).filter isGiven = _
  rw [atopFields, List.lookup_append, lookup_given, lookup_filter earlier.nodup]
  cases hlater : later.gives name with
  | none =>
      change _ = (earlier.fields.lookup name).filter isGiven
      cases earlier.fields.lookup name <;> simp [hlater]
  | some v => simp [hgiven v hlater]

theorem unknown_atop (hearlier : earlier.unknown = []) :
    (later.atop earlier).unknown = later.unknown := by
  have hknown : ∀ name, name ∉ earlier.unknown := by simp [hearlier]
  have hrest : (((earlier.fields.filter fun field => (later.gives field.1).isNone).filter
      fun field => isGiven field.2).map (·.1)).filter (fun name => !names.contains name) = [] := by
    rw [List.filter_eq_nil_iff]
    intro name hname hunknown
    obtain ⟨field, hfield, rfl⟩ := List.mem_map.mp hname
    obtain ⟨hfield, hgiven⟩ := List.mem_filter.mp hfield
    refine hknown field.1 (List.mem_filter.mpr ⟨?_, hunknown⟩)
    exact List.mem_map_of_mem (List.mem_filter.mpr ⟨List.mem_of_mem_filter hfield, hgiven⟩)
  have hgiven : later.given.filter (fun field => isGiven field.2) = later.given := by
    simp [given]
  change (((atopFields later earlier).filter fun field => isGiven field.2).map (·.1)).filter _ = _
  rw [atopFields, List.filter_append, hgiven, List.map_append, List.filter_append, hrest,
    List.append_nil, unknown]

end Keywords

section Pure

variable {base options : Options} {fields fields' earlier : Stored} {keywords : Keywords}

theorem override_given (base : Options) (fields : Stored) :
    base.override fields =
      if fields.any fun field => field.1 = "self" then .error (.repeated true)
      else checkNames (fields.filter fun field => isGiven field.2) >>= fun _ =>
        set base (fields.filter fun field => isGiven field.2) := by
  have hgiven : (fields.filter fun field => isGiven field.2) =
      fields.filter fun field => match field.2 with
        | .null => false
        | _ => true := by
    refine List.filter_congr fun field _ => ?_
    cases field.2 <;> rfl
  rw [override, hgiven]
  split
  · rfl
  · rfl

theorem override_keywords (base : Options) (keywords : Keywords) :
    base.override keywords.fields = (do
      checkNames keywords.given
      set base keywords.given) := by
  have hself : ¬ keywords.fields.any (fun field => field.1 = "self") = true := by
    simp only [List.any_eq_true, decide_eq_true_eq, not_exists, not_and]
    intro field hfield hname
    exact keywords.self_notMem (hname ▸ List.mem_map_of_mem hfield)
  rw [override_given, if_neg hself]
  rfl

theorem checkNames_given (keywords : Keywords) :
    checkNames keywords.given = match keywords.unknown.head? with
      | some name => .error (.unexpected name)
      | none => .ok () := by
  have hhead : keywords.unknown.head? =
      (keywords.given.find? fun field => !names.contains field.1).map (·.1) := by
    rw [Keywords.unknown, List.head?_filter, List.find?_map]
    rfl
  rw [hhead, checkNames]
  cases hfirst : keywords.given.find? fun field => !names.contains field.1 with
  | none => rfl
  | some field =>
      obtain ⟨option, v⟩ := field
      have hother : option ≠ "self" := by
        rintro rfl
        have hmem := List.mem_of_mem_filter (List.mem_of_find?_eq_some hfirst)
        exact keywords.self_notMem (List.mem_map_of_mem (f := (·.1)) hmem)
      dsimp only [Option.map_some]
      split
      · rename_i heq
        obtain ⟨rfl, -⟩ := Prod.mk.inj (Option.some.inj heq)
        exact absurd rfl hother
      · rename_i heq
        obtain ⟨rfl, -⟩ := Prod.mk.inj (Option.some.inj heq)
        rfl
      · rename_i heq
        cases heq

/-- A change is refused for the first unknown name, or else made. -/
theorem override_eq (base : Options) (keywords : Keywords) :
    base.override keywords.fields = match keywords.unknown.head? with
      | some name => .error (.unexpected name)
      | none => set base keywords.given := by
  rw [override_keywords, checkNames_given]
  cases keywords.unknown.head? <;> rfl

theorem styleField_over {option : String} {style there : Style}
    (hstyle : styleField earlier option there = .ok style)
    (hover : fields'.lookup option = (fields.lookup option).or (earlier.lookup option)) :
    styleField fields' option there = styleField fields option style := by
  cases hlater : fields.lookup option with
  | none =>
      rw [hlater, Option.none_or] at hover
      have hsame : styleField fields' option there = styleField earlier option there := by
        rw [styleField, styleField, hover]
      rw [hsame, hstyle, styleField, hlater]
  | some v => rw [styleField, styleField, hover, hlater, Option.some_or]

/-- Values over stored ones are set as if they were given with those that were stored. -/
theorem set_over (hset : set base earlier = .ok options) (hover : ∀ option ∈ names,
    fields'.lookup option = (fields.lookup option).or (earlier.lookup option)) :
    set base fields' = set options fields := by
  obtain ⟨columns, hcolumns, hset⟩ := bind_eq_ok_iff.mp hset
  obtain ⟨enumMembers, hmembers, hset⟩ := bind_eq_ok_iff.mp hset
  obtain ⟨typeNames, htypes, hset⟩ := bind_eq_ok_iff.mp hset
  obtain rfl := Except.ok.inj hset
  have hswitch : ∀ option ∈ names, ∀ there : Value, (fields'.lookup option).getD there =
      (fields.lookup option).getD ((earlier.lookup option).getD there) := by
    intro option hoption there
    rw [hover option hoption]
    cases fields.lookup option <;> rfl
  simp only [names, switchNames, styleNames, List.cons_append, List.nil_append,
    List.forall_mem_cons] at hover hswitch
  obtain ⟨-, -, -, -, -, hcolumnsOver, hmembersOver, htypesOver, -⟩ := hover
  obtain ⟨henums, hinserts, htables, hobjects, hchecks, -⟩ := hswitch
  simp only [set, styleField_over hcolumns hcolumnsOver, styleField_over hmembers hmembersOver,
    styleField_over htypes htypesOver, henums, hinserts, htables, hobjects, hchecks]

end Pure

section InPlace

/-- What is stored in each object. -/
abbrev Objects := List Stored

/-- Settle a style in an object. -/
def settleIn (address : Nat) (option : String) : Work OptionsRefusal Objects Unit := do
  match ((← get)[address]?.getD []).settle option with
  | .ok stored => modify fun objects => objects.set address stored
  | .error refused => throw refused

/-- Change what is stored in an object, and say where it is stored now. -/
def changeIn (address : Nat) (fields : Stored) : Work OptionsRefusal Objects Nat := do
  if fields.any fun field => field.1 = "self" then throw (.repeated true)
  let given := fields.filter fun field => isGiven field.2
  -- Nothing is copied for no values.
  if given.isEmpty then return address
  match checkNames given with
  | .error refused => throw refused
  | .ok () =>
    let objects ← get
    let old := objects[address]?.getD []
    modify fun objects =>
      objects ++ [old.map fun (option, v) => (option, (given.lookup option).getD v)]
    forM styleNames (settleIn objects.length)
    return objects.length

variable {base : Options} {objects : Objects} {address : Nat}

theorem outcome_settleIn (objects : Objects) (stored : Stored) (option : String) :
    (settleIn objects.length option).outcome (objects ++ [stored]) =
      match stored.settle option with
      | .ok settled => (.ok (), objects ++ [settled])
      | .error refused => (.error refused, objects ++ [stored]) := by
  have hthere : (objects ++ [stored])[objects.length]?.getD [] = stored := by simp
  rw [settleIn, Work.outcome_bind, Work.outcome_get, Work.continued_ok, hthere]
  cases stored.settle option with
  | ok settled =>
      change (Except.ok (), (objects ++ [stored]).set objects.length settled) = _
      rw [List.set_append_right _ _ (Nat.le_refl _), Nat.sub_self]
      rfl
  | error refused => rfl

/-- The styles in the last object are settled one after another, and no other object is touched. -/
theorem outcome_settleAll (objects : Objects) (stored : Stored) (options : List String) :
    ∃ after, (forM options (settleIn objects.length)).outcome (objects ++ [stored]) =
        ((options.foldlM Stored.settle stored).map fun _ => (), objects ++ [after]) ∧
      ∀ settled, options.foldlM Stored.settle stored = .ok settled → after = settled := by
  induction options generalizing stored with
  | nil => exact ⟨stored, rfl, fun settled hsettled => Except.ok.inj hsettled⟩
  | cons option rest ih =>
      rw [List.forM_cons, Work.outcome_bind, outcome_settleIn, List.foldlM_cons]
      cases stored.settle option with
      | error refused => exact ⟨stored, rfl, fun settled hsettled => by cases hsettled⟩
      | ok settled => exact ih settled

/-- A change in place gives what a change gives, and leaves every object that was there as it was.
-/
theorem outcome_changeIn (hbase : objects[address]? = some base.toFields) (fields : Stored) :
    ∃ result copies, (changeIn address fields).outcome objects = (result, objects ++ copies) ∧
      result.map (fun there => (objects ++ copies)[there]?) =
        (base.override fields).map fun options => some options.toFields := by
  have hold : objects[address]?.getD [] = base.toFields := by rw [hbase, Option.getD_some]
  rw [override_given, changeIn]
  by_cases hself : fields.any (fun field => field.1 = "self") = true
  · rw [if_pos hself, if_pos hself]
    exact ⟨.error (.repeated true), [], by rw [List.append_nil]; rfl, rfl⟩
  rw [if_neg hself, if_neg hself]
  generalize fields.filter (fun field => isGiven field.2) = given
  by_cases hnothing : given.isEmpty = true
  · obtain rfl := List.isEmpty_iff.mp hnothing
    refine ⟨.ok address, [], by rw [List.append_nil]; rfl, ?_⟩
    change Except.ok (objects ++ [])[address]? = (set base []).map _
    rw [List.append_nil, hbase, set_nil]
    rfl
  dsimp only
  rw [if_neg hnothing]
  cases checkNames given with
  | error refused => exact ⟨.error refused, [], by rw [List.append_nil]; rfl, rfl⟩
  | ok _ =>
      obtain ⟨after, hsettled, hafter⟩ := outcome_settleAll objects
        (base.toFields.map fun (option, v) => (option, (given.lookup option).getD v)) styleNames
      have hreplace := replace_toFields base given
      rw [Stored.replace] at hreplace
      rw [hreplace] at hsettled hafter
      refine ⟨(set base given).map fun _ => objects.length, [after], ?_, ?_⟩
      · dsimp only
        rw [Work.outcome_bind, Work.outcome_get, Work.continued_ok, hold, Work.outcome_bind,
          Work.outcome_modify, Work.continued_ok, Work.outcome_bind, hsettled]
        cases set base given <;> rfl
      · cases hset : set base given with
        | error refused => rfl
        | ok options =>
            rw [hset] at hafter
            obtain rfl := hafter _ rfl
            exact congrArg Except.ok List.getElem?_concat_length

end InPlace

section Composition

variable {base options : Options} {a b c : Keywords}

theorem unknown_eq_nil (hfirst : base.override a.fields = .ok options) : a.unknown = [] := by
  rw [override_eq] at hfirst
  cases hunknown : a.unknown with
  | nil => rfl
  | cons name rest =>
      rw [hunknown] at hfirst
      cases hfirst

/-- A change for both gives names of no option exactly as far as the second does. -/
theorem mem_unknown_merged (hfirst : base.override a.fields = .ok options)
    (hgives : ∀ name, c.gives name = (b.gives name).or (a.gives name)) (name : String) :
    name ∈ c.unknown ↔ name ∈ b.unknown := by
  have ha : name ∉ a.unknown := by simp [unknown_eq_nil hfirst]
  rw [Keywords.mem_unknown_iff] at ha ⊢
  rw [Keywords.mem_unknown_iff, hgives]
  cases hb : b.gives name with
  | some v => simp
  | none =>
      rw [Option.none_or]
      exact ⟨fun hboth => absurd hboth ha, fun hnone => by cases hnone.1⟩

/-- Without names of no option, both changes set the same. -/
theorem set_merged (hfirst : base.override a.fields = .ok options)
    (hgives : ∀ name, c.gives name = (b.gives name).or (a.gives name)) :
    set base c.given = set options b.given := by
  have hset : set base a.given = .ok options := by
    rw [← hfirst, override_eq, unknown_eq_nil hfirst]
    rfl
  refine set_over hset fun option _ => ?_
  rw [Keywords.lookup_given, Keywords.lookup_given, Keywords.lookup_given, hgives]

/-- A change of changed options is one change, in which the later values count. Values under the
same names are taken or refused alike; only the first of several names of no option can be another
one. A change in place never touches an object that was there before, whether it is refused or
not.
-/
theorem overrides_compose (hfirst : base.override a.fields = .ok options) :
    (∀ name, (b.atop a).gives name = (b.gives name).or (a.gives name)) ∧
    base.override (b.atop a).fields = options.override b.fields ∧
    (∀ c : Keywords, (∀ name, c.gives name = (b.gives name).or (a.gives name)) →
      (c.unknown.head? = b.unknown.head? →
        base.override c.fields = options.override b.fields) ∧
      (base.override c.fields = options.override b.fields ∨
        ∃ x ∈ b.unknown, ∃ y ∈ b.unknown, base.override c.fields = .error (.unexpected x) ∧
          options.override b.fields = .error (.unexpected y))) ∧
    ∀ (o : Options) (objects : Objects) (address : Nat) (fields : Stored),
      objects[address]? = some o.toFields →
      ∃ result copies, (changeIn address fields).outcome objects = (result, objects ++ copies) ∧
        result.map (fun there => (objects ++ copies)[there]?) =
          (o.override fields).map fun options => some options.toFields := by
  have hmerged : ∀ c : Keywords, (∀ name, c.gives name = (b.gives name).or (a.gives name)) →
      c.unknown.head? = b.unknown.head? → base.override c.fields = options.override b.fields := by
    intro c hgives hhead
    rw [override_eq, override_eq, hhead, set_merged hfirst hgives]
  refine ⟨fun name => Keywords.gives_atop b a name, hmerged _ (Keywords.gives_atop b a) ?_,
    fun c hgives => ⟨hmerged c hgives, ?_⟩, fun o objects address fields hbase =>
      outcome_changeIn hbase fields⟩
  · rw [Keywords.unknown_atop (unknown_eq_nil hfirst)]
  · cases hx : c.unknown with
    | nil =>
        refine Or.inl (hmerged c hgives ?_)
        have hnone : b.unknown = [] := by
          refine List.eq_nil_iff_forall_not_mem.mpr fun name hname => ?_
          rw [← mem_unknown_merged hfirst hgives, hx] at hname
          cases hname
        rw [hx, hnone]
    | cons x rest =>
        have hmem : x ∈ b.unknown := by simp [← mem_unknown_merged hfirst hgives, hx]
        cases hy : b.unknown with
        | nil => simp [hy] at hmem
        | cons y rest' =>
            refine Or.inr ⟨x, hy ▸ hmem, y, List.mem_cons_self, ?_, ?_⟩
            · rw [override_eq, hx]
              rfl
            · rw [override_eq, hy]
              rfl

/-- A style in capitals and an unknown null, then a style that is no text, a switch that is a
list, and a null for the style that the first has set: one change, in either order of the names. A
refused change leaves a copy with the style that it has settled before, and the object as it was.
-/
theorem overrides_of_odd_values :
    let a : Keywords := ⟨[("transform_columns", .text "KEBAB"), ("gen_flags", .null),
      ("gen_enums", .bool false)], by decide, by decide⟩
    let b : Keywords := ⟨[("transform_columns", .null), ("gen_enums", .list []),
      ("transform_type_names", .style .camel)], by decide, by decide⟩
    let c : Keywords := ⟨[("gen_enums", .list []), ("transform_columns", .text "KEBAB"),
      ("transform_type_names", .style .camel)], by decide, by decide⟩
    let first : Options := { genEnums := .bool false, transformColumns := .kebab }
    override {} a.fields = .ok first ∧
      override {} (b.atop a).fields = first.override b.fields ∧
      override {} c.fields = first.override b.fields ∧
      first.override b.fields =
        .ok { first with genEnums := .list [], transformTypeNames := .camel } ∧
      ∃ copies, (changeIn 0 [("transform_columns", .text "CAMEL"),
          ("transform_type_names", .text "upper")]).outcome [first.toFields] =
        (.error (.unknownStyle "transform_type_names" "upper"), first.toFields :: copies) := by
  intro a b c first
  have hfirst : override {} a.fields = .ok first := rfl
  have hgives : ∀ name, c.gives name = (b.gives name).or (a.gives name) := by
    intro name
    by_cases hcolumns : name = "transform_columns"
    · subst hcolumns
      rfl
    by_cases henums : name = "gen_enums"
    · subst henums
      rfl
    by_cases htypes : name = "transform_type_names"
    · subst htypes
      rfl
    by_cases hflags : name = "gen_flags"
    · subst hflags
      rfl
    simp [Keywords.gives, a, b, c, List.lookup_cons, beq_eq_false_iff_ne.mpr hcolumns,
      beq_eq_false_iff_ne.mpr henums, beq_eq_false_iff_ne.mpr htypes,
      beq_eq_false_iff_ne.mpr hflags]
  obtain ⟨-, hover, hmerged, hplace⟩ := overrides_compose (b := b) hfirst
  obtain ⟨result, copies, houtcome, hresult⟩ := hplace first [first.toFields] 0
    [("transform_columns", .text "CAMEL"), ("transform_type_names", .text "upper")] rfl
  have hrefused : result = .error (.unknownStyle "transform_type_names" "upper") := by
    cases result with
    | ok there => cases hresult
    | error refused => exact congrArg Except.error (Except.error.inj hresult)
  exact ⟨hfirst, hover, (hmerged c hgives).1 (by decide), rfl, copies, hrefused ▸ houtcome⟩

end Composition

end TableTypes.Options
