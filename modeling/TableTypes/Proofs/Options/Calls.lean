import TableTypes.Proofs.Generation.Release
import TableTypes.Proofs.Options.Setting

/-! # Chains of calls

Options come out of named values, a map, an environment or a file, and are changed by further
values. All these calls do one thing: they hand over values, which are put in the places of those
that are stored. So whatever chain of calls has led to what is stored, the three places for styles
hold names of styles, a generator can be made, and what is stored can be handed over once more.
-/

namespace TableTypes.Options

open Casing (Style StyleRefusal Transformations)
open Generation (Generator)

/-- The settings of a map, if all of them are settings of options. -/
def readSettings (entries : List (Value × Value)) : Except OptionsRefusal Stored := do
  refuseKeys ((entries.map (·.1)).filter fun key => !isKnown key)
  (Value.textEntries entries).mapM readSetting

/-- A call that makes options, or changes those that there are. -/
inductive Call where
  | make (fields : List (String × Value))
  | mapping (entries : List (Value × Value))
  | environment (settings : List (String × Value))
  | document (text : String)
  | override (fields : List (String × Value))

namespace Call

/-- The options after a call. -/
def apply (options : Options) : Call → Except DocumentRefusal Options
  | make fields => (ofFields fields).mapError .options
  | mapping entries => (ofMapping entries).mapError .options
  | environment settings => (ofEnvironment settings).mapError .options
  | document text => ofDocument text
  | override fields => (options.override fields).mapError .options

/-- The values that a call hands over. -/
def handed : Call → Except DocumentRefusal Stored
  | make fields => .ok fields
  | mapping entries => (readSettings entries).mapError .options
  | environment settings =>
    (readSettings ((inEnvironment settings).map fun field => (.text field.1, field.2))).mapError
      .options
  | document text =>
    match Yaml.read text with
    | .ok .null => .ok []
    | .ok (.map entries) => (readSettings entries).mapError .options
    | .ok _ => .error .notMap
    | .error .malformed => .error .malformed
    | .error fault => .error (.noValue fault)
  | override fields =>
    if fields.any fun field => field.1 = "self" then .error (.options (.repeated true))
    else .ok (fields.filter fun field => match field.2 with
      | .null => false
      | _ => true)

/-- The call changes options that there are. -/
def isChange : Call → Bool
  | override _ => true
  | make _ | mapping _ | environment _ | document _ => false

/-- What the values that a call hands over are put into. -/
def base {α : Type} (call : Call) (there new : α) : α :=
  if call.isChange then there else new

end Call

namespace Stored

/-- What is stored after a call. A change by no values leaves everything as it is. -/
def call (stored : Stored) (call : Call) : Except DocumentRefusal Stored := do
  let fields ← call.handed
  (checkNames fields).mapError .options
  if call.isChange && fields.isEmpty then return stored
  ((call.base stored (toFields {})).replace fields).mapError .options

/-- The styles that are found by the names in their places. -/
def transformations (stored : Stored) : Except StyleRefusal Transformations :=
  let named (option : String) : Value := (stored.lookup option).getD .null
  Transformations.ofFields [("columns", named "transform_columns"),
    ("enum_members", named "transform_enum_members"), ("type_names", named "transform_type_names")]

/-- A generator, whose switches are read by whether they count as given. -/
def generator (stored : Stored) (layout : Syntax.Layout) : Except StyleRefusal Generator := do
  let names ← stored.transformations
  let switch (option : String) : Bool := ((stored.lookup option).getD .null).truthy
  return { plan := {
    enums := switch "gen_enums"
    insertTypes := switch "gen_insert_types"
    tables := switch "gen_tables"
    typeObjects := switch "gen_type_objects"
    validators := switch "gen_schema_objects"
    names
    layout } }

end Stored

section Steps

variable {options : Options} {call : Call}

theorem mapError_ofMapping (entries : List (Value × Value)) :
    (ofMapping entries).mapError DocumentRefusal.options = (do
      let fields ← (readSettings entries).mapError .options
      (checkNames fields).mapError .options
      (set {} fields).mapError .options) := by
  have hread : ofMapping entries = readSettings entries >>= ofFields := by
    rw [ofMapping, readSettings, bind_assoc]
  simp only [hread, ofFields, mapError_bind]

/-- Every call sets what it hands over. -/
theorem apply_eq (options : Options) (call : Call) :
    call.apply options = (do
      let fields ← call.handed
      (checkNames fields).mapError .options
      (set (call.base options {}) fields).mapError .options) := by
  cases call with
  | make fields => exact mapError_bind _ _ _
  | mapping entries => exact mapError_ofMapping entries
  | environment settings => exact mapError_ofMapping _
  | document text =>
      rw [Call.apply, ofDocument, Call.handed]
      cases Yaml.read text with
      | error fault => cases fault <;> rfl
      | ok v =>
          cases v with
          | map entries => exact mapError_ofMapping entries
          | _ => rfl
  | override fields =>
      rw [Call.apply, override, Call.handed]
      split
      · rfl
      · simp only [mapError_bind]
        rfl

theorem set_nil (base : Options) : set base [] = .ok base :=
  rfl

/-- What is stored follows the options call by call. -/
theorem call_toFields (options : Options) (call : Call) :
    Stored.call options.toFields call = (call.apply options).map toFields := by
  have hbase : call.base options.toFields (toFields {}) = (call.base options {}).toFields :=
    (apply_ite toFields _ _ _).symm
  rw [apply_eq, Stored.call]
  cases call.handed with
  | error refused => rfl
  | ok fields =>
      simp only [bind, Except.bind, hbase, replace_toFields]
      cases (checkNames fields).mapError DocumentRefusal.options with
      | error refused => rfl
      | ok _ =>
          dsimp only
          split
          · rename_i hnothing
            simp only [Bool.and_eq_true, List.isEmpty_iff] at hnothing
            rw [hnothing.2, Call.base, if_pos hnothing.1, set_nil]
            rfl
          · cases set (call.base options {}) fields <;> rfl

theorem calls_toFields (options : Options) (calls : List Call) :
    calls.foldlM Stored.call options.toFields = (calls.foldlM Call.apply options).map toFields := by
  induction calls generalizing options with
  | nil => rfl
  | cons call rest ih =>
      rw [List.foldlM_cons, List.foldlM_cons, call_toFields]
      cases call.apply options with
      | error refused => rfl
      | ok options => exact ih options

end Steps

section Own

variable {options : Options} {fields : Stored}

theorem lookup_filter {α : Type} {l : List (String × α)} (hkeys : (l.map (·.1)).Nodup)
    (keep : String × α → Bool) (key : String) :
    (l.filter keep).lookup key = (l.lookup key).filter fun v => keep (key, v) := by
  induction l with
  | nil => rfl
  | cons entry rest ih =>
      obtain ⟨name, v⟩ := entry
      obtain ⟨hname, hrest⟩ := List.nodup_cons.mp hkeys
      by_cases hkey : key = name
      · subst hkey
        have hnone : rest.lookup key = none := Registry.lookup_eq_none_iff_notMem.mpr hname
        by_cases hkeep : keep (key, v) <;> simp [hkeep, ih hrest, hnone, Option.filter]
      · have hother : (key == name) = false := by simpa using hkey
        by_cases hkeep : keep (name, v) <;>
          simp [hkeep, ih hrest, List.lookup_cons, hother]

theorem checkNames_of_known (hknown : ∀ field ∈ fields, field.1 ∈ names) :
    checkNames fields = .ok () := by
  have hnone : fields.find? (fun field => !names.contains field.1) = none := by
    simpa [List.find?_eq_none] using hknown
  rw [checkNames, hnone]

theorem keys_toFields (options : Options) : options.toFields.map (·.1) = names :=
  rfl

theorem known_toFields (options : Options) : ∀ field ∈ options.toFields, field.1 ∈ names := by
  intro field hfield
  rw [← keys_toFields options]
  exact List.mem_map_of_mem hfield

theorem lookup_styleName (options : Options) : ∀ option ∈ styleNames, ∃ style : Style,
    options.toFields.lookup option = some (.text style.name) := by
  simp only [styleNames, List.forall_mem_cons]
  exact ⟨⟨options.transformColumns, rfl⟩, ⟨options.transformEnumMembers, rfl⟩,
    ⟨options.transformTypeNames, rfl⟩, by simp⟩

theorem lookup_switchName (options : Options) :
    ∀ option ∈ switchNames, ∃ v, options.toFields.lookup option = some v := by
  simp only [switchNames, List.forall_mem_cons]
  exact ⟨⟨_, rfl⟩, ⟨_, rfl⟩, ⟨_, rfl⟩, ⟨_, rfl⟩, ⟨_, rfl⟩, by simp⟩

theorem exists_lookup (options : Options) {option : String} (hoption : option ∈ names) :
    ∃ v, options.toFields.lookup option = some v := by
  rcases List.mem_append.mp hoption with hoption | hoption
  · exact lookup_switchName options option hoption
  · obtain ⟨style, hstyle⟩ := lookup_styleName options option hoption
    exact ⟨_, hstyle⟩

/-- Values that are those of the options, as far as they are given, give these options. -/
theorem set_own {base : Options} (hown : ∀ option ∈ names,
    (fields.lookup option).or (base.toFields.lookup option) = options.toFields.lookup option) :
    set base fields = .ok options := by
  refine set_eq_ok_iff.mpr ⟨fun option hoption => ?_, fun option hoption => ?_⟩
  · exact (hown option (List.mem_append_left _ hoption)).symm
  · obtain ⟨style, hstyle⟩ := lookup_styleName options option hoption
    rw [hown option (List.mem_append_right _ hoption), hstyle, Option.map_some, styleName_name]

theorem ofFields_toFields (options : Options) : ofFields options.toFields = .ok options := by
  rw [ofFields, checkNames_of_known (known_toFields options)]
  refine set_own fun option hoption => ?_
  obtain ⟨v, hv⟩ := exists_lookup options hoption
  rw [hv, Option.some_or]

/-- A change by values of options is never refused for their names, and sets what is no null. -/
theorem override_of_known (base : Options) (hknown : ∀ field ∈ fields, field.1 ∈ names) :
    base.override fields = set base (fields.filter fun field => match field.2 with
      | .null => false
      | _ => true) := by
  have hself : ¬ fields.any (fun field => field.1 = "self") = true := by
    simp only [List.any_eq_true, decide_eq_true_eq, not_exists, not_and]
    intro field hfield heq
    have hname := hknown field hfield
    rw [heq] at hname
    revert hname
    decide
  rw [override, if_neg hself]
  dsimp only
  rw [checkNames_of_known fun field hfield => hknown field (List.mem_of_mem_filter hfield)]
  rfl

theorem override_toFields (options : Options) :
    options.override options.toFields = .ok options := by
  rw [override_of_known options (known_toFields options)]
  refine set_own fun option _ => ?_
  rw [lookup_filter (by rw [keys_toFields]; decide)]
  cases options.toFields.lookup option with
  | none => rfl
  | some v => cases v <;> rfl

end Own

section Given

variable {options options' : Options} {fields : Stored} {option : String} {v : Value}

/-- A value is stored by the name of the style that it stands for. -/
theorem lookup_set (hset : set options fields = .ok options') (hoption : option ∈ styleNames)
    (hgiven : fields.lookup option = some v) :
    options'.toFields.lookup option = some (.text (styleName v)) := by
  rw [(set_eq_ok_iff.mp hset).style option hoption, hgiven, Option.some_or, Option.map_some]

theorem replace_style {style : Style} (hoption : option ∈ styleNames)
    (hstyle : styleName v = style.name) :
    Stored.replace options.toFields [(option, v)] =
      .ok (setField option (.text style.name) options.toFields) := by
  have hgiven := ofName?_eq_some_iff.mpr hstyle
  have hthere : ∀ style : Style, Style.ofName? style.name = some style :=
    fun _ => ofName?_eq_some_iff.mpr rfl
  rw [replace_toFields]
  simp only [styleNames, List.mem_cons, List.not_mem_nil, or_false] at hoption
  rcases hoption with rfl | rfl | rfl <;>
    simp [set, styleField_eq, List.lookup_cons, hgiven, hthere, styleName_name, toFields, setField,
      bind, Except.bind, pure, Except.pure, Except.map]

end Given

/-- Whatever calls there were, the places for styles hold names of styles in small letters. They are
found again, so a generator can be made, and all that is stored can be handed over once more and
gives the same. A value stands for a style in whatever case it names it, and is stored by its name.
-/
theorem stored_options_are_usable (calls : List Call) {stored : Stored}
    (hstored : calls.foldlM Stored.call (toFields {}) = .ok stored) :
    (∀ option ∈ styleNames, ∃ style : Style,
      stored.lookup option = some (.text style.name) ∧ Text.lower style.name = style.name) ∧
    (∃ options : Options, calls.foldlM Call.apply {} = .ok options ∧ stored = options.toFields ∧
      stored.transformations = .ok options.transformations ∧
      ∀ layout, stored.generator layout = .ok { plan := options.plan layout }) ∧
    (∀ other : Stored, other.call (.make stored) = .ok stored) ∧
    stored.call (.override stored) = .ok stored ∧
    (∀ option ∈ styleNames, ∀ (v : Value) (style : Style), styleName v = style.name →
      stored.replace [(option, v)] = .ok (setField option (.text style.name) stored)) ∧
    ∀ call fields after, call.handed = .ok fields → stored.call call = .ok after →
      ∀ option ∈ styleNames, ∀ v, fields.lookup option = some v →
        after.lookup option = some (.text (styleName v)) := by
  rw [calls_toFields, map_eq_ok_iff] at hstored
  obtain ⟨options, hoptions, rfl⟩ := hstored
  have hfound : Stored.transformations options.toFields = .ok options.transformations :=
    Generation.transformations_of_names options
  refine ⟨fun option hoption => ?_, ⟨options, hoptions, rfl, hfound, fun layout => ?_⟩,
    fun other => ?_, ?_, fun option hoption v style => replace_style hoption,
    fun call fields after hhanded hafter option hoption v hgiven => ?_⟩
  · obtain ⟨style, hstyle⟩ := lookup_styleName options option hoption
    exact ⟨style, hstyle, lower_name style⟩
  · rw [Stored.generator, hfound]
    rfl
  · -- What the call is made over does not count.
    change Stored.call (toFields {}) (.make options.toFields) = _
    rw [call_toFields, Call.apply, ofFields_toFields]
    rfl
  · rw [call_toFields, Call.apply, override_toFields]
    rfl
  · rw [call_toFields, map_eq_ok_iff] at hafter
    obtain ⟨options', hafter, rfl⟩ := hafter
    rw [apply_eq, hhanded] at hafter
    obtain ⟨_, hfields, hafter⟩ := bind_eq_ok_iff.mp hafter
    obtain rfl := Except.ok.inj hfields
    obtain ⟨_, -, hset⟩ := bind_eq_ok_iff.mp hafter
    rw [mapError_eq_ok_iff] at hset
    exact lookup_set hset hoption hgiven

/-- A style in capitals out of a map, one with a kelvin sign for its first letter, and one that is
itself the value; a switch that is an empty list, and one that a change leaves as it is. -/
theorem stored_options_of_odd_values :
    let calls : List Call := [
      .mapping [(.text "transform_columns", .text "CAMEL"), (.text "gen_tables", .text "off")],
      .override [("transform_type_names", .text "\u212Aebab"), ("gen_enums", .list []),
        ("gen_tables", .null)],
      .override [("transform_enum_members", .style .constant)]]
    let stored : Stored := [("gen_enums", .list []), ("gen_insert_types", .bool true),
      ("gen_tables", .bool false), ("gen_type_objects", .bool true),
      ("gen_schema_objects", .bool true), ("transform_columns", .text "camel"),
      ("transform_enum_members", .text "constant"), ("transform_type_names", .text "kebab")]
    calls.foldlM Stored.call (toFields {}) = .ok stored ∧
      stored.call (.override stored) = .ok stored := by
  intro calls stored
  have hstored : calls.foldlM Stored.call (toFields {}) = .ok stored := by
    rfl
  obtain ⟨-, -, -, hagain, -⟩ := stored_options_are_usable calls hstored
  exact ⟨hstored, hagain⟩

end TableTypes.Options
