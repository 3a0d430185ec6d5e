import TableTypes.CommandLine.Program
import TableTypes.Proofs.Options.Calls
import TableTypes.Proofs.Options.Words
import TableTypes.Proofs.Value.Fields

/-! # Layers of options

The settings of a file, or else those of the environment, lie below the command line, and the
defaults below both. Settings that can be read leave no option without a value, and the values of
the command line are never refused. So only the layer below can fail, and option by option the
topmost layer counts that has a value for it.
-/

namespace TableTypes.Options

section Reading

variable {fields settings : Stored} {option : String}

/-- What is read of a map has the same names, and each value is that of its own setting. -/
theorem lookup_readSetting (hread : settings.mapM readSetting = .ok fields) (option : String) :
    match settings.lookup option with
    | some v => ∃ w, readSetting (option, v) = .ok (option, w) ∧ fields.lookup option = some w
    | none => fields.lookup option = none := by
  induction settings generalizing fields with
  | nil =>
      obtain rfl := Except.ok.inj hread
      rfl
  | cons setting rest ih =>
      obtain ⟨name, v⟩ := setting
      rw [List.mapM_cons] at hread
      obtain ⟨field, hfield, hread⟩ := bind_eq_ok_iff.mp hread
      obtain ⟨others, hothers, hread⟩ := bind_eq_ok_iff.mp hread
      obtain rfl := Except.ok.inj hread
      have hname : ∃ w, field = (name, w) := by
        unfold readSetting at hfield
        split at hfield
        · obtain ⟨b, -, rfl⟩ := map_eq_ok_iff.mp hfield
          exact ⟨_, rfl⟩
        · exact ⟨_, (Except.ok.inj hfield).symm⟩
      obtain ⟨w, rfl⟩ := hname
      by_cases hoption : option = name
      · subst hoption
        simp [hfield]
      · have hother : (option == name) = false := by simpa using hoption
        simpa only [List.lookup_cons, hother] using ih hothers

/-- An option that is not given stays as it is. -/
theorem SetOver.lookup_of_none {base options : Options} (hover : SetOver base fields options)
    (hoption : option ∈ names) (hnone : fields.lookup option = none) :
    options.toFields.lookup option = base.toFields.lookup option := by
  rcases List.mem_append.mp hoption with hoption | hoption
  · rw [hover.switch option hoption, hnone, Option.none_or]
  · obtain ⟨style, hstyle⟩ := lookup_styleName base option hoption
    rw [hover.style option hoption, hnone, Option.none_or, hstyle, Option.map_some,
      styleName_name]

end Reading

/-- What a setting is read as. A style is put into small letters when it is loaded, and once more
when it is set. -/
def ReadAs (option : String) (v w : Value) : Prop :=
  if option ∈ switchNames then ∃ b, SwitchedTo v b ∧ w = .bool b
  else w = .text (Text.lower (Text.lower v.plain))

/-- The value that settings give an option: the one that is read of them, or else the default. -/
def Below (settings : Stored) (option : String) (w : Value) : Prop :=
  match settings.lookup option with
  | some v => ReadAs option v w
  | none => ({} : Options).toFields.lookup option = some w

theorem notMem_switchNames {option : String} (hoption : option ∈ styleNames) :
    option ∉ switchNames := by
  have hapart : ∀ option ∈ styleNames, option ∉ switchNames := by decide
  exact hapart option hoption

theorem readAs_of_setOver {base options : Options} {fields : Stored} {option : String} {v w : Value}
    (hread : readSetting (option, v) = .ok (option, w)) (hfield : fields.lookup option = some w)
    (hover : SetOver base fields options) (hoption : option ∈ names) :
    ∃ w, options.toFields.lookup option = some w ∧ ReadAs option v w := by
  rcases List.mem_append.mp hoption with hoption | hoption
  · rw [readSetting, if_pos (by simpa using hoption)] at hread
    obtain ⟨b, hb, hread⟩ := map_eq_ok_iff.mp hread
    obtain ⟨-, rfl⟩ := Prod.mk.inj hread
    refine ⟨.bool b, ?_, ?_⟩
    · rw [hover.switch option hoption, hfield, Option.some_or]
    · rw [ReadAs, if_pos hoption]
      exact ⟨b, switchedTo_of_switchOf hb, rfl⟩
  · have hother := notMem_switchNames hoption
    rw [readSetting, if_neg (by simpa using hother)] at hread
    obtain ⟨-, rfl⟩ := Prod.mk.inj (Except.ok.inj hread)
    refine ⟨.text (Text.lower (Text.lower v.plain)), ?_, ?_⟩
    · rw [hover.style option hoption, hfield, Option.some_or]
      rfl
    · rw [ReadAs, if_neg hother]

/-- Options that are read of settings have the values that these give. -/
theorem below_of_read {settings fields : Stored} {base : Options}
    (hread : settings.mapM readSetting = .ok fields) (hset : set {} fields = .ok base)
    {option : String} (hoption : option ∈ names) :
    ∃ w, base.toFields.lookup option = some w ∧ Below settings option w := by
  have hfield := lookup_readSetting hread option
  unfold Below
  cases hlookup : settings.lookup option with
  | none =>
      rw [hlookup] at hfield
      obtain ⟨w, hw⟩ := exists_lookup base hoption
      exact ⟨w, hw, ((set_eq_ok_iff.mp hset).lookup_of_none hoption hfield).symm.trans hw⟩
  | some v =>
      rw [hlookup] at hfield
      obtain ⟨w, hw, hfield⟩ := hfield
      exact readAs_of_setOver hw hfield (set_eq_ok_iff.mp hset) hoption

theorem below_of_ofMapping {entries : List (Value × Value)} {base : Options}
    (hbase : ofMapping entries = .ok base) {option : String} (hoption : option ∈ names) :
    ∃ w, base.toFields.lookup option = some w ∧ Below (Value.textEntries entries) option w := by
  obtain ⟨_, -, hbase⟩ := bind_eq_ok_iff.mp hbase
  obtain ⟨fields, hread, hbase⟩ := bind_eq_ok_iff.mp hbase
  obtain ⟨_, -, hset⟩ := bind_eq_ok_iff.mp hbase
  exact below_of_read hread hset hoption

/-- Of an environment only the variables of options are read. -/
theorem inEnvironment_congr {environment other : List (String × Value)}
    (hsame : ∀ option ∈ names,
      other.lookup (variableName option) = environment.lookup (variableName option)) :
    inEnvironment other = inEnvironment environment := by
  unfold inEnvironment
  refine List.filterMap_congr fun option hoption => ?_
  rw [hsame option hoption]

end TableTypes.Options

namespace TableTypes.CommandLine

open Files (Path)
open Options (Below Stored)

/-- The settings that lie below the command line: those of the file that it names, or else those of
the environment. -/
inductive SettingsBelow (start : Start) : Option Path → Stored → Prop
  | emptyFile {path : Path} {text : String} (hfile : start.files.read path = .ok text)
      (hdocument : Yaml.read text = .ok .null) : SettingsBelow start (some path) []
  | file {path : Path} {text : String} {entries : List (Value × Value)}
      (hfile : start.files.read path = .ok text)
      (hdocument : Yaml.read text = .ok (.map entries)) :
      SettingsBelow start (some path) (Value.textEntries entries)
  | environment : SettingsBelow start none
      (Options.inEnvironment (start.environment.map fun e => (e.1, .text e.2)))

theorem settingsBelow_of_base {start : Start} {arguments : Arguments} {base : Options}
    (hbase : baseOptions start arguments = .ok base) :
    ∃ settings, SettingsBelow start arguments.config settings ∧
      ∀ option ∈ Options.names, ∃ w,
        base.toFields.lookup option = some w ∧ Below settings option w := by
  unfold baseOptions at hbase
  cases hconfig : arguments.config with
  | none =>
      rw [hconfig] at hbase
      have hbase := mapError_eq_ok_iff.mp hbase
      refine ⟨_, .environment, fun option hoption => ?_⟩
      rw [← Value.textEntries_map (Options.inEnvironment _)]
      exact Options.below_of_ofMapping hbase hoption
  | some path =>
      rw [hconfig] at hbase
      dsimp only at hbase
      cases hfile : start.files.read path with
      | error trouble => simp [hfile] at hbase
      | ok text =>
          rw [hfile] at hbase
          have hbase := mapError_eq_ok_iff.mp hbase
          unfold Options.ofDocument at hbase
          cases hdocument : Yaml.read text with
          | error fault => cases fault <;> simp [hdocument] at hbase
          | ok v =>
              rw [hdocument] at hbase
              cases v with
              | null =>
                  obtain rfl := Except.ok.inj hbase
                  refine ⟨[], .emptyFile hfile hdocument, fun option hoption => ?_⟩
                  exact Options.below_of_read rfl (Options.set_nil {}) hoption
              | map entries =>
                  have hbase := mapError_eq_ok_iff.mp hbase
                  exact ⟨_, .file hfile hdocument,
                    fun option hoption => Options.below_of_ofMapping hbase hoption⟩
              | _ => simp [Options.ofValue] at hbase

section Overrides

variable {arguments : Arguments}

/-- The values that the command line gives. -/
def Arguments.given (arguments : Arguments) : Stored :=
  arguments.overrides.filter fun field => match field.2 with
    | .null => false
    | _ => true

theorem option_mem_switchNames (part : Part) : part.option ∈ Options.switchNames := by
  cases part <;> decide

theorem option_mem_styleNames (named : Named) : named.option ∈ Options.styleNames := by
  cases named <;> decide

theorem keys_overrides (arguments : Arguments) :
    arguments.overrides.map (·.1) = Options.names :=
  rfl

theorem lookup_given (arguments : Arguments) (option : String) :
    arguments.given.lookup option = (arguments.overrides.lookup option).filter fun v =>
      match v with
      | .null => false
      | _ => true := by
  have hkeys : (arguments.overrides.map (·.1)).Nodup := by
    rw [keys_overrides]
    decide
  exact Options.lookup_filter hkeys _ option

theorem lookup_given_part (arguments : Arguments) (part : Part) :
    arguments.given.lookup part.option =
      if part ∈ arguments.leftOut then some (.bool false) else none := by
  have hlookup : arguments.overrides.lookup part.option =
      some (if arguments.leftOut.contains part then .bool false else .null) := by
    cases part <;> rfl
  rw [lookup_given, hlookup]
  by_cases hleft : part ∈ arguments.leftOut <;> simp [hleft, Option.filter]

theorem lookup_overrides_named (arguments : Arguments) (named : Named) :
    arguments.overrides.lookup named.option = some (match arguments.styles.lookup named with
      | some (some style) => .text style.name
      | some none => .list []
      | none => .null) := by
  cases named <;> rfl

theorem lookup_given_named {named : Named} (hnamed : arguments.styles.lookup named ≠ some none) :
    arguments.given.lookup named.option =
      (arguments.styles.lookup named).join.map fun style => .text style.name := by
  rw [lookup_given, lookup_overrides_named]
  cases hchosen : arguments.styles.lookup named with
  | none => rfl
  | some chosen =>
      cases chosen with
      | none => exact absurd hchosen hnamed
      | some style => rfl

/-- The values of the command line are never refused. -/
theorem exists_override (hnamed : ∀ named, arguments.styles.lookup named ≠ some none)
    (base : Options) :
    ∃ options, base.override arguments.overrides = .ok options ∧
      Options.SetOver base arguments.given options := by
  have hknown : ∀ field ∈ arguments.overrides, field.1 ∈ Options.names := by
    intro field hfield
    rw [← keys_overrides arguments]
    exact List.mem_map_of_mem hfield
  have hstyles : Options.styleNames = Named.all.map Named.option := rfl
  obtain ⟨options, hset⟩ : ∃ options, Options.set base arguments.given = .ok options := by
    refine Options.exists_set base fun option hoption v hgiven => ?_
    rw [hstyles] at hoption
    obtain ⟨named, -, rfl⟩ := List.mem_map.mp hoption
    rw [lookup_given_named (hnamed named), Option.map_eq_some_iff] at hgiven
    obtain ⟨style, -, rfl⟩ := hgiven
    exact ⟨style, Options.styleName_name style⟩
  exact ⟨options, (Options.override_of_known base hknown).trans hset, Options.set_eq_ok_iff.mp hset⟩

variable {base options : Options} {settings : Stored}

/-- A switch is off if the command line turns it off, and else what it is below. -/
theorem lookup_part (hover : Options.SetOver base arguments.given options)
    (hbelow : ∀ option ∈ Options.names, ∃ w,
      base.toFields.lookup option = some w ∧ Below settings option w) (part : Part) :
    ∃ w, options.toFields.lookup part.option = some w ∧
      if part ∈ arguments.leftOut then w = .bool false else Below settings part.option w := by
  have hoption := option_mem_switchNames part
  obtain ⟨w, hw, hread⟩ := hbelow _ (List.mem_append_left _ hoption)
  rw [hover.switch _ hoption, lookup_given_part]
  split
  · exact ⟨_, rfl, rfl⟩
  · exact ⟨w, hw, hread⟩

/-- A style is the one that the command line names, and else the one below. -/
theorem lookup_named (hover : Options.SetOver base arguments.given options)
    (hbelow : ∀ option ∈ Options.names, ∃ w,
      base.toFields.lookup option = some w ∧ Below settings option w) {named : Named}
    (hnamed : arguments.styles.lookup named ≠ some none) :
    ∃ w, options.toFields.lookup named.option = some w ∧
      match arguments.styles.lookup named with
      | some chosen => ∃ style, chosen = some style ∧ w = .text style.name
      | none => Below settings named.option w := by
  have hoption := option_mem_styleNames named
  have hgiven := lookup_given_named hnamed
  match hchosen : arguments.styles.lookup named with
  | none =>
      rw [hchosen] at hgiven
      have hmem := List.mem_append_right Options.switchNames hoption
      obtain ⟨w, hw, hread⟩ := hbelow _ hmem
      exact ⟨w, (hover.lookup_of_none hmem hgiven).trans hw, hread⟩
  | some (some style) =>
      rw [hchosen] at hgiven
      refine ⟨_, ?_, style, rfl, rfl⟩
      rw [hover.style _ hoption, hgiven, Option.join_some, Option.map_some, Option.some_or,
        Option.map_some, Options.styleName_name]
  | some none => exact absurd hchosen hnamed

end Overrides

section Independence

variable {start other : Start} {arguments : Arguments}

theorem lookup_map_text (environment : Database.Environment) (name : String) :
    (environment.map fun e => (e.1, Value.text e.2)).lookup name =
      (environment.lookup name).map Value.text :=
  lookup_map_values Value.text environment name

theorem resolveOptions_congr (hbase : baseOptions other arguments = baseOptions start arguments) :
    resolveOptions other arguments = resolveOptions start arguments := by
  rw [resolveOptions, hbase, resolveOptions]

theorem baseOptions_of_file {path : Path} (hconfig : arguments.config = some path)
    (hsame : other.files.read path = start.files.read path) :
    baseOptions other arguments = baseOptions start arguments := by
  rw [baseOptions, baseOptions, hconfig]
  dsimp only
  rw [hsame]

theorem baseOptions_of_environment (hconfig : arguments.config = none)
    (hsame : ∀ option ∈ Options.names, other.environment.lookup (Options.variableName option) =
      start.environment.lookup (Options.variableName option)) :
    baseOptions other arguments = baseOptions start arguments := by
  rw [baseOptions, baseOptions, hconfig]
  dsimp only
  rw [Options.ofEnvironment, Options.ofEnvironment, Options.inEnvironment_congr]
  intro option hoption
  rw [lookup_map_text, lookup_map_text, hsame option hoption]

end Independence

/-- Only the layer below the command line can fail, and then its failure is that of all. If it does
not, each option has the value that the command line gives it, or else the one that is read of the
settings below, or else its default. A settings file that is named hides the environment; without
one, only the variables of the options count. -/
theorem options_by_layer (start : Start) (arguments : Arguments)
    (hnamed : ∀ named, arguments.styles.lookup named ≠ some none) :
    (∀ failure, resolveOptions start arguments = .error failure ↔
      baseOptions start arguments = .error failure) ∧
    (∀ options, resolveOptions start arguments = .ok options →
      ∃ settings, SettingsBelow start arguments.config settings ∧
        (∀ part : Part, ∃ w, options.toFields.lookup part.option = some w ∧
          if part ∈ arguments.leftOut then w = .bool false else Below settings part.option w) ∧
        ∀ named : Named, ∃ w, options.toFields.lookup named.option = some w ∧
          match arguments.styles.lookup named with
          | some chosen => ∃ style, chosen = some style ∧ w = .text style.name
          | none => Below settings named.option w) ∧
    (∀ path, arguments.config = some path → ∀ other : Start,
      other.files.read path = start.files.read path →
      resolveOptions other arguments = resolveOptions start arguments) ∧
    (arguments.config = none → ∀ other : Start,
      (∀ option ∈ Options.names, other.environment.lookup (Options.variableName option) =
        start.environment.lookup (Options.variableName option)) →
      resolveOptions other arguments = resolveOptions start arguments) := by
  refine ⟨fun failure => ?_, fun options hoptions => ?_, fun path hconfig other hsame => ?_,
    fun hconfig other hsame => ?_⟩
  · rw [resolveOptions, bind_eq_error_iff]
    refine or_iff_left ?_
    rintro ⟨base, -, hrefused⟩
    obtain ⟨options, hoptions, -⟩ := exists_override hnamed base
    rw [hoptions] at hrefused
    simp [Except.mapError] at hrefused
  · obtain ⟨base, hbase, hoptions⟩ := bind_eq_ok_iff.mp hoptions
    obtain ⟨settings, hsettings, hbelow⟩ := settingsBelow_of_base hbase
    obtain ⟨options', hoverride, hover⟩ := exists_override hnamed base
    obtain rfl := Except.ok.inj (hoverride.symm.trans (mapError_eq_ok_iff.mp hoptions))
    exact ⟨settings, hsettings, lookup_part hover hbelow,
      fun named => lookup_named hover hbelow (hnamed named)⟩
  · exact resolveOptions_congr (baseOptions_of_file hconfig hsame)
  · exact resolveOptions_congr (baseOptions_of_environment hconfig hsame)

/-- A command line over two variables, of which it hides one, with and without a variable that sets
no option. -/
theorem options_by_layer_of_environment :
    let arguments : Arguments := { leftOut := [.enums], styles := [(.typeNames, some .kebab)] }
    let environment : Database.Environment :=
      [("PGTYPEGEN_GEN_ENUMS", "yes"), ("PGTYPEGEN_TRANSFORM_COLUMNS", "Camel")]
    let start : Start := { arguments := [], environment, database := .error "" }
    let other : Start := { start with environment := ("PGTYPEGEN_SCHEMA", "app") :: environment }
    let options : Options :=
      { genEnums := .bool false, transformColumns := .camel, transformTypeNames := .kebab }
    (∀ named, arguments.styles.lookup named ≠ some none) ∧
      resolveOptions other arguments = .ok options ∧
      ∀ failure, baseOptions start arguments ≠ .error failure := by
  intro arguments environment start other options
  have hnamed : ∀ named, arguments.styles.lookup named ≠ some none := by
    intro named
    cases named <;> decide
  have hsettings : Options.inEnvironment (environment.map fun e => (e.1, .text e.2)) =
      [("gen_enums", .text "yes"), ("transform_columns", .text "Camel")] := by
    have hread : ∀ option ∈ Options.names, environment.lookup (Options.variableName option) =
        [("gen_enums", "yes"), ("transform_columns", "Camel")].lookup option := by
      decide +kernel
    rw [Options.inEnvironment, List.filterMap_congr fun option hoption => by
      rw [lookup_map_text, hread option hoption]]
    rfl
  have hbase : baseOptions start arguments = .ok { transformColumns := .camel } := by
    change Except.mapError _ (Options.ofMapping ((Options.inEnvironment _).map _)) = _
    rw [hsettings]
    rfl
  have hgiven : arguments.overrides = [("gen_enums", .bool false), ("gen_insert_types", .null),
      ("gen_tables", .null), ("gen_type_objects", .null), ("gen_schema_objects", .null),
      ("transform_columns", .null), ("transform_enum_members", .null),
      ("transform_type_names", .text "kebab")] := rfl
  have hstart : resolveOptions start arguments = .ok options := by
    rw [resolveOptions, hbase, hgiven]
    rfl
  obtain ⟨hfailure, -, -, henvironment⟩ := options_by_layer start arguments hnamed
  have hsame : ∀ option ∈ Options.names, other.environment.lookup (Options.variableName option) =
      start.environment.lookup (Options.variableName option) := by
    decide +kernel
  refine ⟨hnamed, (henvironment rfl other hsame).trans hstart, fun failure hbase => ?_⟩
  have hfailed := (hfailure failure).mpr hbase
  rw [hstart] at hfailed
  cases hfailed

end TableTypes.CommandLine
