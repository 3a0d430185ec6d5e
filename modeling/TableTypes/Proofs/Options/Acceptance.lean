import TableTypes.Proofs.CommandLine.Layers
import TableTypes.Proofs.Options.Words

/-! # Settings that are taken

A map of settings gives options exactly if all its keys are names of options, every switch is given
by a truth value or by a word for one, and every style by its name in any letter case or by nothing
at all: the word for nothing is the name of the style that changes nothing. Any other map is refused
as wrong settings, unless a key is no text. Such keys cannot be listed in the refusal, which then is
one that the program does not expect.
-/

namespace TableTypes.Options

open Casing (Style)

section Keys

variable {keys : List Value}

theorem isKnown_iff {key : Value} :
    isKnown key = true ↔ ∃ option ∈ names, key = .text option := by
  cases key <;> simp [isKnown, Value.text?]

theorem eq_text_of_isSome {key : Value} (htext : key.text?.isSome) : ∃ s, key = .text s := by
  cases key with
  | text s => exact ⟨s, rfl⟩
  | _ => cases htext

theorem unordered?_of_texts (htexts : ∀ key ∈ keys, key.text?.isSome) :
    unordered? keys = none := by
  induction keys with
  | nil => rfl
  | cons a rest ih =>
      cases rest with
      | nil => rfl
      | cons b rest =>
          simp only [List.forall_mem_cons] at htexts
          obtain ⟨s, rfl⟩ := eq_text_of_isSome htexts.1
          obtain ⟨t, rfl⟩ := eq_text_of_isSome htexts.2.1
          have hordered : comparable (.text s) (.text t) = true := by
            simp [comparable, Value.kind]
          rw [unordered?, if_pos hordered]
          exact ih (List.forall_mem_cons.mpr htexts.2)

theorem refuseKeys_eq_ok_iff : refuseKeys keys = .ok () ↔ keys = [] := by
  unfold refuseKeys
  cases keys with
  | nil => simp
  | cons key rest =>
      cases unordered? (key :: rest) with
      | some pair => simp
      | none =>
          dsimp only
          cases List.findIdx? (fun key : Value => key.text?.isNone) (key :: rest) <;> simp

/-- Unknown keys are listed in the refusal as long as they are texts. -/
theorem isConfiguration_of_refuseKeys {refused : OptionsRefusal}
    (hrefused : refuseKeys keys = .error refused) :
    refused.isConfiguration = keys.all fun key => key.text?.isSome := by
  cases keys with
  | nil => cases hrefused
  | cons key rest =>
      by_cases htexts : ∀ k ∈ key :: rest, k.text?.isSome
      · have hnone : List.findIdx? (fun key : Value => key.text?.isNone) (key :: rest) = none := by
          rw [List.findIdx?_eq_none_iff]
          intro k hk
          simpa using htexts k hk
        simp only [refuseKeys, unordered?_of_texts htexts, hnone] at hrefused
        obtain rfl := Except.error.inj hrefused
        exact (List.all_eq_true.mpr htexts).symm
      · have hall : (key :: rest).all (fun key => key.text?.isSome) = false := by
          simpa only [Bool.eq_false_iff, ne_eq, List.all_eq_true] using htexts
        rw [hall]
        unfold refuseKeys at hrefused
        cases hordered : unordered? (key :: rest) with
        | some pair =>
            rw [hordered] at hrefused
            obtain rfl := Except.error.inj hrefused
            rfl
        | none =>
            rw [hordered] at hrefused
            dsimp only at hrefused
            cases hindex : List.findIdx? (fun key : Value => key.text?.isNone) (key :: rest) with
            | some index =>
                rw [hindex] at hrefused
                obtain rfl := Except.error.inj hrefused
                rfl
            | none =>
                rw [List.findIdx?_eq_none_iff] at hindex
                exact absurd (fun k hk => by simpa using hindex k hk) htexts

end Keys

section Maps

variable {entries : List (Value × Value)} {settings fields : Stored} {option : String} {v : Value}

theorem lookup_eq_some_of_mem (hkeys : (settings.map (·.1)).Nodup) (hmem : (option, v) ∈ settings) :
    settings.lookup option = some v := by
  induction settings with
  | nil => cases hmem
  | cons setting rest ih =>
      obtain ⟨name, w⟩ := setting
      obtain ⟨hname, hrest⟩ := List.nodup_cons.mp hkeys
      rcases List.mem_cons.mp hmem with hhead | hlater
      · obtain ⟨rfl, rfl⟩ := Prod.mk.inj hhead
        exact List.lookup_cons_self
      · have hother : (option == name) = false := by
          refine beq_eq_false_iff_ne.mpr ?_
          rintro rfl
          exact hname (List.mem_map_of_mem (f := (·.1)) hlater)
        rw [List.lookup_cons, hother]
        exact ih hrest hlater

/-- Settings that are taken. -/
structure Taken (entries : List (Value × Value)) : Prop where
  known : ∀ entry ∈ entries, ∃ option ∈ names, entry.1 = .text option
  switch : ∀ option ∈ switchNames, ∀ v, (.text option, v) ∈ entries → IsSwitch v
  style : ∀ option ∈ styleNames, ∀ v, (.text option, v) ∈ entries → NamesStyle v

theorem refuseKeys_unknown_eq_ok_iff :
    refuseKeys ((entries.map (·.1)).filter fun key => !isKnown key) = .ok () ↔
      ∀ entry ∈ entries, ∃ option ∈ names, entry.1 = .text option := by
  rw [refuseKeys_eq_ok_iff]
  simp [List.filter_eq_nil_iff, isKnown_iff]

theorem name_of_readSetting {setting field : String × Value}
    (hread : readSetting setting = .ok field) : field.1 = setting.1 := by
  unfold readSetting at hread
  split at hread
  · obtain ⟨b, -, rfl⟩ := map_eq_ok_iff.mp hread
    rfl
  · obtain rfl := Except.ok.inj hread
    rfl

theorem readSetting_switch (hoption : option ∈ switchNames) (v : Value) :
    readSetting (option, v) = (switchOf v).map fun b => (option, .bool b) := by
  rw [readSetting, if_pos (List.contains_iff_mem.mpr hoption)]

theorem readSetting_style (hoption : option ∈ styleNames) (v : Value) :
    readSetting (option, v) = .ok (option, .text (Text.lower v.plain)) := by
  rw [readSetting, if_neg (by simpa using notMem_switchNames hoption)]

theorem known_of_read (hread : settings.mapM readSetting = .ok fields)
    (hknown : ∀ setting ∈ settings, setting.1 ∈ names) : ∀ field ∈ fields, field.1 ∈ names := by
  intro field hfield
  obtain ⟨setting, hsetting, hread⟩ := exists_of_mem_right (mapM_eq_ok_iff.mp hread) hfield
  rw [name_of_readSetting hread]
  exact hknown setting hsetting

theorem known_textEntries (hknown : ∀ entry ∈ entries, ∃ option ∈ names, entry.1 = .text option) :
    ∀ setting ∈ Value.textEntries entries, setting.1 ∈ names := by
  rintro ⟨name, v⟩ hsetting
  obtain ⟨option, hoption, heq⟩ := hknown _ (Value.mem_textEntries_iff.mp hsetting)
  obtain rfl := Value.text.inj heq
  exact hoption

theorem taken_of_ofMapping (hkeys : (entries.map (·.1)).Nodup) {options : Options}
    (hoptions : ofMapping entries = .ok options) : Taken entries := by
  obtain ⟨_, hrefuse, hoptions⟩ := bind_eq_ok_iff.mp hoptions
  obtain ⟨fields, hread, hoptions⟩ := bind_eq_ok_iff.mp hoptions
  obtain ⟨_, -, hset⟩ := bind_eq_ok_iff.mp hoptions
  refine ⟨refuseKeys_unknown_eq_ok_iff.mp hrefuse, fun option hoption v hmem => ?_,
    fun option hoption v hmem => ?_⟩
  · obtain ⟨field, -, hfield⟩ :=
      exists_of_mem_left (mapM_eq_ok_iff.mp hread) (Value.mem_textEntries_iff.mpr hmem)
    rw [readSetting_switch hoption] at hfield
    obtain ⟨b, hb, -⟩ := map_eq_ok_iff.mp hfield
    exact exists_switchOf_iff.mp ⟨b, hb⟩
  · have hfield := lookup_readSetting hread option
    have hgiven := Value.mem_textEntries_iff.mpr hmem
    rw [lookup_eq_some_of_mem (Value.nodup_textEntries hkeys) hgiven] at hfield
    obtain ⟨w, hw, hfield⟩ := hfield
    rw [readSetting_style hoption] at hw
    obtain ⟨-, rfl⟩ := Prod.mk.inj (Except.ok.inj hw)
    obtain ⟨style, hstyle⟩ := lookup_styleName options option hoption
    have hnamed := lookup_set hset hoption hfield
    rw [hstyle] at hnamed
    exact exists_style_iff.mp ⟨style, (Value.text.inj (Option.some.inj hnamed)).symm⟩

theorem exists_ofMapping (htaken : Taken entries) : ∃ options, ofMapping entries = .ok options := by
  have hrefuse := refuseKeys_unknown_eq_ok_iff.mpr htaken.known
  obtain ⟨fields, hread⟩ : ∃ fields, (Value.textEntries entries).mapM readSetting = .ok fields := by
    cases hread : (Value.textEntries entries).mapM readSetting with
    | ok fields => exact ⟨fields, rfl⟩
    | error refused =>
        obtain ⟨⟨option, v⟩, hmem, e, hfails⟩ := exists_mapM_eq_error_iff.mp ⟨refused, hread⟩
        rcases List.mem_append.mp (known_textEntries htaken.known _ hmem) with hoption | hoption
        · obtain ⟨b, hb⟩ := exists_switchOf_iff.mpr
            (htaken.switch option hoption v (Value.mem_textEntries_iff.mp hmem))
          rw [readSetting_switch hoption, hb] at hfails
          cases hfails
        · rw [readSetting_style hoption] at hfails
          cases hfails
  have hnames := checkNames_of_known (known_of_read hread (known_textEntries htaken.known))
  obtain ⟨options, hset⟩ : ∃ options, set {} fields = .ok options := by
    refine exists_set {} fun option hoption w hw => ?_
    have hfield := lookup_readSetting hread option
    cases hlookup : (Value.textEntries entries).lookup option with
    | none =>
        rw [hlookup] at hfield
        rw [hfield] at hw
        cases hw
    | some v =>
        rw [hlookup] at hfield
        obtain ⟨u, hu, hfield⟩ := hfield
        rw [readSetting_style hoption] at hu
        obtain ⟨-, rfl⟩ := Prod.mk.inj (Except.ok.inj hu)
        obtain rfl := Option.some.inj (hfield.symm.trans hw)
        obtain ⟨before, after, hsplit, -⟩ := List.lookup_eq_some_iff.mp hlookup
        refine exists_style_iff.mpr
          (htaken.style option hoption v (Value.mem_textEntries_iff.mp ?_))
        rw [hsplit]
        simp
  refine ⟨options, ?_⟩
  rw [ofMapping, hrefuse]
  change ((Value.textEntries entries).mapM readSetting >>= ofFields) = _
  rw [hread]
  change ofFields fields = _
  rw [ofFields, hnames]
  exact hset

theorem isConfiguration_of_styleField {base : Style} {refused : OptionsRefusal}
    (hrefused : styleField fields option base = .error refused) :
    refused.isConfiguration = true := by
  rw [styleField_eq] at hrefused
  dsimp only at hrefused
  split at hrefused
  · cases hrefused
  · obtain rfl := Except.error.inj hrefused
    rfl

theorem isConfiguration_of_set {base : Options} {refused : OptionsRefusal}
    (hrefused : set base fields = .error refused) : refused.isConfiguration = true := by
  rcases bind_eq_error_iff.mp hrefused with hcolumns | ⟨_, -, hrefused⟩
  · exact isConfiguration_of_styleField hcolumns
  rcases bind_eq_error_iff.mp hrefused with hmembers | ⟨_, -, hrefused⟩
  · exact isConfiguration_of_styleField hmembers
  rcases bind_eq_error_iff.mp hrefused with htypes | ⟨_, -, hrefused⟩
  · exact isConfiguration_of_styleField htypes
  · cases hrefused

/-- A map is refused as wrong settings exactly if all its keys are texts. -/
theorem isConfiguration_of_ofMapping {refused : OptionsRefusal}
    (hrefused : ofMapping entries = .error refused) :
    refused.isConfiguration = entries.all fun entry => entry.1.text?.isSome := by
  rcases bind_eq_error_iff.mp hrefused with hkeys | ⟨_, hkeys, hrefused⟩
  · -- The keys that are options are texts, so the others decide.
    rw [isConfiguration_of_refuseKeys hkeys, Bool.eq_iff_iff, List.all_eq_true, List.all_eq_true]
    constructor
    · intro htexts entry hentry
      by_cases hknown : isKnown entry.1
      · obtain ⟨option, -, hkey⟩ := isKnown_iff.mp hknown
        rw [hkey]
        rfl
      · refine htexts entry.1 (List.mem_filter.mpr ⟨List.mem_map_of_mem hentry, ?_⟩)
        simpa using hknown
    · intro htexts key hkey
      obtain ⟨entry, hentry, rfl⟩ := List.mem_map.mp (List.mem_of_mem_filter hkey)
      exact htexts entry hentry
  have hknown := refuseKeys_unknown_eq_ok_iff.mp hkeys
  have htexts : (entries.all fun entry => entry.1.text?.isSome) = true := by
    refine List.all_eq_true.mpr fun entry hentry => ?_
    obtain ⟨option, -, hkey⟩ := hknown entry hentry
    rw [hkey]
    rfl
  rw [htexts]
  rcases bind_eq_error_iff.mp hrefused with hread | ⟨fields, hread, hrefused⟩
  · obtain ⟨⟨option, v⟩, hfirst, hfails⟩ := mapM_eq_error_iff.mp hread
    rcases List.mem_append.mp (known_textEntries hknown _ hfirst.mem) with hoption | hoption
    · rw [readSetting_switch hoption, map_eq_error_iff] at hfails
      exact isConfiguration_of_switchOf hfails
    · rw [readSetting_style hoption] at hfails
      cases hfails
  · rw [ofFields, checkNames_of_known (known_of_read hread (known_textEntries hknown))] at hrefused
    exact isConfiguration_of_set hrefused

end Maps

section Program

open CommandLine (Arguments Start report)

variable {entries : List (Value × Value)}

/-- A settings file that is refused as wrong settings ends the program with code 1; any other
refusal is a fault that leaves it without a code. -/
theorem code?_of_refused {start : Start} {arguments : Arguments} {path : Files.Path} {text : String}
    {refused : OptionsRefusal} (harguments : Arguments.read start.arguments = .ok arguments)
    (hconfig : arguments.config = some path) (hfile : start.files.read path = .ok text)
    (hdocument : Yaml.read text = .ok (.map entries))
    (hrefused : ofMapping entries = .error refused) :
    (report start).ending.code? = if refused.isConfiguration then some 1 else none := by
  have hoptions : ofDocument text = .error (.options refused) := by
    rw [ofDocument, hdocument]
    dsimp only
    rw [ofValue, hrefused]
    rfl
  have hfailure : CommandLine.resolveOptions start arguments =
      .error (.document path (.options refused)) := by
    rw [CommandLine.resolveOptions, CommandLine.baseOptions, hconfig]
    dsimp only
    rw [hfile]
    dsimp only
    rw [hoptions]
    rfl
  rw [report, harguments]
  dsimp only
  have hexpected : (CommandLine.SetupFailure.document path (.options refused)).isExpected =
      refused.isConfiguration := rfl
  rw [CommandLine.perform, hfailure]
  dsimp only
  rw [hexpected]
  split
  · rfl
  · rfl

/-- Which maps of settings give options. All others are refused as wrong settings, so that a file
with them ends the program with code 1, unless a key is no text. -/
theorem mapping_taken_iff (hkeys : (entries.map (·.1)).Nodup) :
    ((∃ options, ofMapping entries = .ok options) ↔ Taken entries) ∧
    ∀ refused, ofMapping entries = .error refused →
      (refused.isConfiguration = entries.all fun entry => entry.1.text?.isSome) ∧
      ∀ (start : Start) (arguments : Arguments) (path : Files.Path) (text : String),
        Arguments.read start.arguments = .ok arguments → arguments.config = some path →
        start.files.read path = .ok text → Yaml.read text = .ok (.map entries) →
        (report start).ending.code? =
          if entries.all fun entry => entry.1.text?.isSome then some 1 else none := by
  refine ⟨⟨fun ⟨_, hoptions⟩ => taken_of_ofMapping hkeys hoptions, exists_ofMapping⟩, ?_⟩
  intro refused hrefused
  have hconfiguration := isConfiguration_of_ofMapping hrefused
  refine ⟨hconfiguration, fun start arguments path text harguments hconfig hfile hdocument => ?_⟩
  rw [code?_of_refused harguments hconfig hfile hdocument hrefused, hconfiguration]

/-- Nothing for a style, a kelvin sign in the name of another, and switches given by a number and
by a word between blanks. -/
theorem taken_mapping_of_odd_values :
    let entries : List (Value × Value) := [(.text "transform_type_names", .null),
      (.text "transform_columns", .text "\u212AEBAB"), (.text "gen_enums", .int 1),
      (.text "gen_tables", .text "\tOff\n")]
    (entries.map (·.1)).Nodup ∧ Taken entries ∧ ∃ options, ofMapping entries = .ok options := by
  intro entries
  have hkeys : (entries.map (·.1)).Nodup := by simp [entries]
  have hoptions : ∃ options, ofMapping entries = .ok options := ⟨_, rfl⟩
  exact ⟨hkeys, (mapping_taken_iff hkeys).1.mp hoptions, hoptions⟩

/-- A number for a key is refused in a way that the program does not expect, and nothing at all
counts as the name of a style. -/
theorem mapping_not_refused_as_settings :
    let start : Start := {
      arguments := ["--config", "options.yaml"]
      files := Files.Tree.leadingTo (Files.Path.ofText "options.yaml") (.file "1: true\n")
      database := .ok fun _ => .ok [] }
    ofMapping [(.int 1, .bool true)] = .error (.unlistable 0 "int") ∧
      (OptionsRefusal.unlistable 0 "int").isConfiguration = false ∧
      (report start).ending.code? = none ∧
      ofMapping [(.text "transform_type_names", .null)] = .ok { transformTypeNames := .none } := by
  exact ⟨rfl, rfl, by decide +kernel, rfl⟩

end Program

end TableTypes.Options
