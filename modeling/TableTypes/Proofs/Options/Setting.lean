import TableTypes.Options.Document
import TableTypes.Proofs.FirstFailure

/-! # Setting options

Options are set by putting the given values in the places of those that are there, and each of the
three places for a style then holds the name of the style that its value stands for. So what an
option comes to is told by its own values alone: the given one, or else the one that is there.
-/

namespace TableTypes.Options

open Casing (Style)

section Styles

/-- The name of a style by which a value would be stored. -/
def styleName : Value → String
  | .style s => s.name
  | v => Text.lower v.plain

theorem styleOf?_eq (v : Value) : styleOf? v = Style.ofName? (styleName v) := by
  cases v with
  | style s => cases s <;> rfl
  | _ => rfl

theorem ofName?_eq_some_iff {name : String} {style : Style} :
    Style.ofName? name = some style ↔ name = style.name := by
  constructor
  · intro hname
    have heq : style.name = name := by simpa using List.find?_some hname
    exact heq.symm
  · rintro rfl
    cases style <;> rfl

theorem lower_name (style : Style) : Text.lower style.name = style.name := by
  cases style <;> decide +kernel

theorem styleName_name (style : Style) : styleName (.text style.name) = style.name :=
  lower_name style

end Styles

/-- The values of all options by their names. -/
abbrev Stored := List (String × Value)

namespace Stored

/-- Put the name of its style in the place of a value. -/
def settle (stored : Stored) (option : String) : Except OptionsRefusal Stored :=
  match stored.lookup option with
  | some v =>
    if (Style.ofName? (styleName v)).isSome then
      .ok (setField option (.text (styleName v)) stored)
    else .error (.unknownStyle option v.plain)
  | none => .ok stored

/-- Values in the places of those that are stored. -/
def replace (stored fields : Stored) : Except OptionsRefusal Stored :=
  styleNames.foldlM settle (stored.map fun (option, v) => (option, (fields.lookup option).getD v))

variable {stored fields : Stored} {option : String} {v : Value}

/-- What follows a place goes on with the name of its style, if it has one. -/
theorem settle_bind (hlookup : stored.lookup option = some v)
    (next : Stored → Except OptionsRefusal Stored) :
    stored.settle option >>= next =
      match Style.ofName? (styleName v) with
      | some style => next (setField option (.text style.name) stored)
      | none => .error (.unknownStyle option v.plain) := by
  rw [settle, hlookup]
  cases hstyle : Style.ofName? (styleName v) with
  | none =>
      dsimp only
      rw [if_neg (by simp [hstyle])]
      rfl
  | some style =>
      dsimp only
      rw [if_pos (by simp [hstyle]), ofName?_eq_some_iff.mp hstyle]
      rfl

end Stored

section Setting

variable {base options : Options} {fields : Stored} {option : String}

theorem styleField_eq (fields : Stored) (option : String) (base : Style) :
    styleField fields option base =
      let v := (fields.lookup option).getD (.text base.name)
      match Style.ofName? (styleName v) with
      | some style => .ok style
      | none => .error (.unknownStyle option v.plain) := by
  unfold styleField
  cases fields.lookup option with
  | none => simp [styleName_name, ofName?_eq_some_iff.mpr rfl]
  | some v =>
      let toStyle (found : Option Style) : Except OptionsRefusal Style := match found with
        | some style => .ok style
        | none => .error (.unknownStyle option v.plain)
      exact congrArg toStyle (styleOf?_eq v)

/-- Options are set as values are stored. -/
theorem replace_toFields (base : Options) (fields : Stored) :
    Stored.replace base.toFields fields = (set base fields).map toFields := by
  simp only [set, styleField_eq, Stored.replace, styleNames, toFields, List.map,
    List.foldlM_cons, List.foldlM_nil]
  generalize (fields.lookup "transform_columns").getD _ = columns
  generalize (fields.lookup "transform_enum_members").getD _ = enumMembers
  generalize (fields.lookup "transform_type_names").getD _ = typeNames
  -- The places are settled in their order, and the first that names no style ends it.
  rw [Stored.settle_bind rfl]
  cases Style.ofName? (styleName columns) with
  | none => rfl
  | some columns =>
      dsimp only
      rw [Stored.settle_bind rfl]
      cases Style.ofName? (styleName enumMembers) with
      | none => rfl
      | some enumMembers =>
          dsimp only
          rw [Stored.settle_bind rfl]
          cases Style.ofName? (styleName typeNames) with
          | none => rfl
          | some typeNames => rfl

/-- Each switch is the given one, and each style the one that stands for the given value. -/
structure SetOver (base : Options) (fields : Stored) (options : Options) : Prop where
  switch : ∀ option ∈ switchNames,
    options.toFields.lookup option = (fields.lookup option).or (base.toFields.lookup option)
  style : ∀ option ∈ styleNames,
    options.toFields.lookup option =
      ((fields.lookup option).or (base.toFields.lookup option)).map fun v => .text (styleName v)

theorem styleField_eq_ok_iff {base style : Style} :
    styleField fields option base = .ok style ↔
      some (.text style.name) =
        ((fields.lookup option).or (some (.text base.name))).map
          fun v => Value.text (styleName v) := by
  have hstyle : ∀ v, (match Style.ofName? (styleName v) with
      | some style => .ok style
      | none => .error (OptionsRefusal.unknownStyle option v.plain)) = Except.ok style ↔
        styleName v = style.name := by
    intro v
    rw [← ofName?_eq_some_iff]
    cases Style.ofName? (styleName v) <;> simp
  rw [styleField_eq]
  cases fields.lookup option with
  | none => simp [hstyle, eq_comm]
  | some v => simp [hstyle, eq_comm]

theorem set_eq_ok_iff : set base fields = .ok options ↔ SetOver base fields options := by
  constructor
  · intro hset
    obtain ⟨columns, hcolumns, hset⟩ := bind_eq_ok_iff.mp hset
    obtain ⟨enumMembers, henumMembers, hset⟩ := bind_eq_ok_iff.mp hset
    obtain ⟨typeNames, htypeNames, hset⟩ := bind_eq_ok_iff.mp hset
    obtain rfl := Except.ok.inj hset
    constructor
    · simp only [switchNames, List.forall_mem_cons]
      exact ⟨Option.or_some.symm, Option.or_some.symm, Option.or_some.symm, Option.or_some.symm,
        Option.or_some.symm, by simp⟩
    · simp only [styleNames, List.forall_mem_cons]
      exact ⟨styleField_eq_ok_iff.mp hcolumns, styleField_eq_ok_iff.mp henumMembers,
        styleField_eq_ok_iff.mp htypeNames, by simp⟩
  · intro hset
    have hcolumns := styleField_eq_ok_iff.mpr (hset.style "transform_columns" (by decide))
    have henumMembers := styleField_eq_ok_iff.mpr (hset.style "transform_enum_members" (by decide))
    have htypeNames := styleField_eq_ok_iff.mpr (hset.style "transform_type_names" (by decide))
    have hswitch : ∀ option ∈ switchNames, ∀ v v',
        options.toFields.lookup option = some v → base.toFields.lookup option = some v' →
        (fields.lookup option).getD v' = v := by
      intro option hoption v v' hv hv'
      rw [← Option.some_inj, ← Option.or_some, ← hv', ← hv, hset.switch option hoption]
    simp only [switchNames, List.forall_mem_cons] at hswitch
    obtain ⟨henums, hinserts, htables, hobjects, hchecks, -⟩ := hswitch
    rw [set, hcolumns, henumMembers, htypeNames]
    simp only [bind, Except.bind, pure, Except.pure, henums _ _ rfl rfl, hinserts _ _ rfl rfl,
      htables _ _ rfl rfl, hobjects _ _ rfl rfl, hchecks _ _ rfl rfl]

/-- Values that stand for styles are never refused. -/
theorem exists_set (base : Options) (hstyle : ∀ option ∈ styleNames, ∀ v,
    fields.lookup option = some v → ∃ style : Style, styleName v = style.name) :
    ∃ options, set base fields = .ok options := by
  have hfield : ∀ option ∈ styleNames, ∀ there : Style,
      ∃ style, styleField fields option there = .ok style := by
    intro option hoption there
    cases hgiven : fields.lookup option with
    | none => exact ⟨there, by rw [styleField, hgiven]⟩
    | some v =>
        obtain ⟨style, hname⟩ := hstyle option hoption v hgiven
        refine ⟨style, ?_⟩
        simp only [styleField_eq, hgiven, Option.getD_some, hname, ofName?_eq_some_iff.mpr rfl]
  obtain ⟨columns, hcolumns⟩ := hfield "transform_columns" (by decide) base.transformColumns
  obtain ⟨enumMembers, henumMembers⟩ :=
    hfield "transform_enum_members" (by decide) base.transformEnumMembers
  obtain ⟨typeNames, htypeNames⟩ :=
    hfield "transform_type_names" (by decide) base.transformTypeNames
  rw [set, hcolumns, henumMembers, htypeNames]
  exact ⟨_, rfl⟩

end Setting

end TableTypes.Options
