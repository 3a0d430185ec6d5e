import Mathlib.Data.List.MinMax
import TableTypes.Journal.Settings
import TableTypes.Proofs.Value.Fields
import TableTypes.Proofs.Work

/-! # Setting up the log in place

The root of the log holds handlers and a threshold. To set it up, every handler is taken away, a
new one with the format asked for is put in, and the threshold is set last. The level is looked up
by its name in capitals among all that the log has names in capitals for, and two of these are no
levels. A text that names one of them is refused, but only when the threshold is set: the handlers
have been replaced by then, and the threshold is that of the last level that was taken. With any
other text all is as it was asked for.
-/

namespace TableTypes.Journal

namespace Level

/-- The texts are the same but for the case of their letters, and have capital forms in ASCII. -/
def SameButCase (a b : String) : Prop :=
  ∃ capitals, capitals? a = some capitals ∧ capitals? b = some capitals

/-- The text names a level in some letter case. -/
def Named (text : String) (level : Int) : Prop :=
  ∃ name, (name, level) ∈ byName ∧ SameButCase text name

/-- The text names something that is no level in some letter case. -/
def NamesOther (text : String) : Prop :=
  SameButCase text "basic_format" ∨ SameButCase text "_styles"

variable {text : String} {level : Int}

theorem named_iff :
    Named text level ↔ ∃ name, capitals? text = some name ∧ byName.lookup name = some level := by
  have hnames : ∀ entry ∈ byName, capitals? entry.1 = some entry.1 ∧
      byName.lookup entry.1 = some entry.2 := by decide +kernel
  constructor
  · rintro ⟨name, hmem, capitals, htext, hname⟩
    obtain ⟨hcapitals, hlookup⟩ := hnames _ hmem
    obtain rfl := Option.some.inj (hname.symm.trans hcapitals)
    exact ⟨capitals, htext, hlookup⟩
  · rintro ⟨name, htext, hlookup⟩
    obtain ⟨before, after, hsplit, -⟩ := List.lookup_eq_some_iff.mp hlookup
    have hmem : (name, level) ∈ byName := by rw [hsplit]; simp
    exact ⟨name, hmem, name, htext, (hnames _ hmem).1⟩

theorem namesOther_iff :
    NamesOther text ↔ capitals? text = some "BASIC_FORMAT" ∨ capitals? text = some "_STYLES" := by
  have hpattern : capitals? "basic_format" = some "BASIC_FORMAT" := by decide +kernel
  have hstyles : capitals? "_styles" = some "_STYLES" := by decide +kernel
  simp [NamesOther, SameButCase, hpattern, hstyles]

/-- What comes of a text: it names something else, it has a name that may be one of a level, or it
has no capital form that could be a name. -/
theorem ofText_cases (text : String) :
    (capitals? text = some "BASIC_FORMAT" ∧ ofText text = .error (.unknown plainPattern)) ∨
    (capitals? text = some "_STYLES" ∧ ofText text = .error (.notLevel patternStyles)) ∨
    (∃ name, capitals? text = some name ∧ name ≠ "BASIC_FORMAT" ∧ name ≠ "_STYLES" ∧
      ofText text = .ok ((byName.lookup name).getD info)) ∨
    (capitals? text = none ∧ ofText text = .ok info) := by
  cases hcapitals : capitals? text with
  | none => simp [ofText, hcapitals]
  | some name =>
      by_cases hpattern : name = "BASIC_FORMAT"
      · subst hpattern
        simp [ofText, hcapitals]
      · by_cases hstyles : name = "_STYLES"
        · subst hstyles
          simp [ofText, hcapitals]
        · simp [ofText, hcapitals, hpattern, hstyles]

/-- A text gives a level unless it names something else. -/
theorem ofText_isOk_iff : (∃ level, ofText text = .ok level) ↔ ¬ NamesOther text := by
  rw [namesOther_iff]
  rcases ofText_cases text with ⟨hname, hof⟩ | ⟨hname, hof⟩ |
    ⟨name, hname, hpattern, hstyles, hof⟩ | ⟨hname, hof⟩
  · simp [hname, hof]
  · simp [hname, hof]
  · simp [hname, hof, hpattern, hstyles]
  · simp [hname, hof]

/-- The level that a text gives is the one that it names, or else the level for information. -/
theorem ofText_eq_ok (hof : ofText text = .ok level) :
    (∀ n, Named text n → level = n) ∧ ((∀ n, ¬ Named text n) → level = info) := by
  simp only [named_iff]
  rcases ofText_cases text with ⟨-, hother⟩ | ⟨-, hother⟩ | ⟨name, hname, -, -, hlevel⟩ |
    ⟨hname, hlevel⟩
  · rw [hother] at hof
    cases hof
  · rw [hother] at hof
    cases hof
  · obtain rfl := Except.ok.inj (hof.symm.trans hlevel)
    cases hlookup : byName.lookup name with
    | none => simp [hname, hlookup]
    | some n => simp [hname, hlookup]
  · obtain rfl := Except.ok.inj (hof.symm.trans hlevel)
    simp [hname]

end Level

/-- What writes the lines of the log. Handlers are told apart by their numbers, and the format of
one may be unknown. -/
structure Handler where
  number : Nat
  format : Option Format
  deriving DecidableEq, Repr

/-- The root of the log. -/
structure Root where
  handlers : List Handler := []
  threshold : Int := Level.warning
  deriving DecidableEq, Repr

/-- A number that none of the handlers has. -/
def nextNumber (handlers : List Handler) : Nat :=
  (handlers.map (·.number + 1)).foldr max 0

/-- What a name stands for. -/
inductive Meaning where
  | number (n : Int)
  | text (s : String)
  /-- Something else, here as a literal. -/
  | other (literal : String)

/-- All that the log has names in capitals for. -/
def meanings : List (String × Meaning) :=
  Level.byName.map (fun entry => (entry.1, .number entry.2)) ++
    [("BASIC_FORMAT", .text Level.plainPattern), ("_STYLES", .other Level.patternStyles)]

/-- What a text stands for in any letter case. -/
def meaningOf (text : String) : Meaning :=
  ((Level.capitals? text).bind fun name => meanings.lookup name).getD (.number Level.info)

/-- How the log is to be set up. -/
structure Setup where
  environment : List (String × String) := []
  level : String
  json : Bool := false

def Setup.format (setup : Setup) : Format :=
  if setup.json || Settings.wantsJson setup.environment then .structured true else .human

abbrev Upkeep := Work SettingsRefusal Root Unit

namespace Upkeep

/-- Take a handler away, if it is there. -/
def takeAway (handler : Handler) : Upkeep :=
  modify fun root => { root with handlers := root.handlers.erase handler }

/-- Put a handler in, unless it is there. -/
def putIn (handler : Handler) : Upkeep :=
  modify fun root => { root with
    handlers := if handler ∈ root.handlers then root.handlers else root.handlers ++ [handler] }

/-- Set the threshold. A text is looked up once more, as the name of a level. -/
def setThreshold : Meaning → Upkeep
  | .number n => modify fun root => { root with threshold := n }
  | .text name =>
    match Level.byName.lookup name with
    | some n => modify fun root => { root with threshold := n }
    | none => throw (.level (.unknown name))
  | .other literal => throw (.level (.notLevel literal))

end Upkeep

open Upkeep

/-- Set up the log. The handlers are taken away one after another, as they were listed at first. -/
def Setup.perform (setup : Setup) : Upkeep := do
  let meaning := meaningOf setup.level
  let listed := (← get).handlers
  let handler : Handler := ⟨nextNumber listed, some setup.format⟩
  forM listed takeAway
  putIn handler
  setThreshold meaning

/-- The root after it was set up several times, whether or not this failed. -/
def Root.afterAll (root : Root) (setups : List Setup) : Root :=
  setups.foldl (fun root setup => (setup.perform.outcome root).2) root

section Outcome

variable {root : Root} {setup : Setup} {settings : Settings}

theorem number_lt_nextNumber {handlers : List Handler} {handler : Handler}
    (hmem : handler ∈ handlers) : handler.number < nextNumber handlers := by
  have hnumber : handler.number + 1 ∈ handlers.map (·.number + 1) := List.mem_map_of_mem hmem
  exact List.le_max_of_le' 0 hnumber (Nat.le_refl _)

theorem outcome_takeAway (handlers rest : List Handler) (threshold : Int) :
    (forM handlers takeAway).outcome ⟨handlers ++ rest, threshold⟩ =
      (.ok (), ⟨rest, threshold⟩) := by
  induction handlers with
  | nil => rfl
  | cons handler others ih =>
      rw [List.forM_cons, Work.outcome_bind, takeAway, Work.outcome_modify, Work.continued_ok]
      rw [List.cons_append, List.erase_cons_head]
      exact ih

theorem lookup_meanings {name : String} (hpattern : name ≠ "BASIC_FORMAT")
    (hstyles : name ≠ "_STYLES") :
    meanings.lookup name = (Level.byName.lookup name).map .number := by
  have hothers : List.lookup name [("BASIC_FORMAT", Meaning.text Level.plainPattern),
      ("_STYLES", .other Level.patternStyles)] = none := by
    simp [List.lookup_cons, beq_eq_false_iff_ne.mpr hpattern, beq_eq_false_iff_ne.mpr hstyles]
  rw [meanings, List.lookup_append, lookup_map_values, hothers, Option.or_none]

/-- The threshold is set to what the text gives, if it gives a level. -/
theorem outcome_setThreshold (text : String) (root : Root) :
    (setThreshold (meaningOf text)).outcome root = match Level.ofText text with
      | .ok n => (.ok (), { root with threshold := n })
      | .error refused => (.error (.level refused), root) := by
  rcases Level.ofText_cases text with ⟨hname, hof⟩ | ⟨hname, hof⟩ |
    ⟨name, hname, hpattern, hstyles, hof⟩ | ⟨hname, hof⟩
  · rw [hof, meaningOf, hname]
    rfl
  · rw [hof, meaningOf, hname]
    rfl
  · rw [hof, meaningOf, hname, Option.bind_some, lookup_meanings hpattern hstyles]
    cases Level.byName.lookup name <;> rfl
  · rw [hof, meaningOf, hname]
    rfl

/-- The handlers are replaced in any case, and the threshold is set if the text gives a level. -/
theorem outcome_perform (setup : Setup) (root : Root) :
    setup.perform.outcome root =
      let handlers : List Handler := [⟨nextNumber root.handlers, some setup.format⟩]
      match Level.ofText setup.level with
      | .ok n => (.ok (), ⟨handlers, n⟩)
      | .error refused => (.error (.level refused), ⟨handlers, root.threshold⟩) := by
  have htaken := outcome_takeAway root.handlers [] root.threshold
  rw [List.append_nil] at htaken
  rw [Setup.perform, Work.outcome_bind, Work.outcome_get, Work.continued_ok, Work.outcome_bind,
    htaken, Work.continued_ok, Work.outcome_bind, putIn, Work.outcome_modify, Work.continued_ok,
    outcome_setThreshold]
  rfl

/-- In place the log is set up as the settings are. -/
theorem outcome_perform_configure (setup : Setup)
    (hsettings : settings.threshold = root.threshold) :
    let configured := settings.configure setup.environment (.text setup.level) setup.json
    setup.perform.outcome root = (configured.2,
      ⟨[⟨nextNumber root.handlers, some configured.1.format⟩], configured.1.threshold⟩) := by
  rw [outcome_perform, Settings.configure, Level.ofValue]
  cases Level.ofText setup.level with
  | ok n => rfl
  | error refused =>
      dsimp only
      rw [hsettings]
      rfl

/-- The threshold is that of the last level that was taken. -/
theorem threshold_afterAll (root : Root) (setups : List Setup) :
    (root.afterAll setups).threshold =
      (setups.reverse.findSome? fun setup => (Level.ofText setup.level).toOption).getD
        root.threshold := by
  induction setups generalizing root with
  | nil => rfl
  | cons setup rest ih =>
      have hfirst : (setup.perform.outcome root).2.threshold =
          (Level.ofText setup.level).toOption.getD root.threshold := by
        rw [outcome_perform]
        cases Level.ofText setup.level <;> rfl
      rw [Root.afterAll, List.foldl_cons, ← Root.afterAll, ih, hfirst, List.reverse_cons,
        List.findSome?_append, List.findSome?_singleton]
      cases rest.reverse.findSome? fun setup => (Level.ofText setup.level).toOption <;> rfl

/-- What is expected of setting up the log: it is done, with one handler that has the format asked
for, and with the level that the text names, or else the one for information. -/
structure Fulfilled (setup : Setup) (done : Except SettingsRefusal Unit × Root) : Prop where
  completes : done.1 = .ok ()
  handler : ∃ handler, done.2.handlers = [handler] ∧ handler.format = some setup.format
  named : ∀ n, Level.Named setup.level n → done.2.threshold = n
  unnamed : (∀ n, ¬ Level.Named setup.level n) → done.2.threshold = Level.info

theorem fulfilled_iff (setup : Setup) (root : Root) :
    Fulfilled setup (setup.perform.outcome root) ↔ ¬ Level.NamesOther setup.level := by
  rw [← Level.ofText_isOk_iff]
  constructor
  · intro hfulfilled
    have hcompletes := hfulfilled.completes
    rw [outcome_perform] at hcompletes
    cases hof : Level.ofText setup.level with
    | ok n => exact ⟨n, rfl⟩
    | error refused =>
        rw [hof] at hcompletes
        cases hcompletes
  · rintro ⟨n, hof⟩
    obtain ⟨hnamed, hunnamed⟩ := Level.ofText_eq_ok hof
    rw [outcome_perform, hof]
    exact ⟨rfl, ⟨_, rfl, rfl⟩, hnamed, hunnamed⟩

/-- However often the log was set up before: it is set up as asked for unless the text names
something that is no level. In either case there is one handler afterwards, which was not there
before and has the format asked for. So a text that is refused leaves the new handler with the
threshold from before, which is that of the last level that was taken.
-/
theorem setup_fulfilled_iff (root : Root) (earlier : List Setup) (setup : Setup) :
    let before := root.afterAll earlier
    let done := setup.perform.outcome before
    (∀ settings : Settings, settings.threshold = before.threshold →
      let configured := settings.configure setup.environment (.text setup.level) setup.json
      done = (configured.2,
        ⟨[⟨nextNumber before.handlers, some configured.1.format⟩], configured.1.threshold⟩)) ∧
    (Fulfilled setup done ↔ ¬ Level.NamesOther setup.level) ∧
    (∃ handler, done.2.handlers = [handler] ∧ handler.format = some setup.format ∧
      handler ∉ before.handlers) ∧
    (Level.NamesOther setup.level →
      (∃ refused, done.1 = .error (.level refused)) ∧ done.2.threshold = before.threshold) ∧
    before.threshold =
      (earlier.reverse.findSome? fun setup => (Level.ofText setup.level).toOption).getD
        root.threshold := by
  intro before done
  have hdone : done = _ := outcome_perform setup before
  refine ⟨fun settings => outcome_perform_configure setup, fulfilled_iff setup before,
    ⟨⟨nextNumber before.handlers, some setup.format⟩, ?_, rfl, ?_⟩, ?_,
    threshold_afterAll root earlier⟩
  · rw [hdone]
    cases Level.ofText setup.level <;> rfl
  · intro hmem
    exact Nat.lt_irrefl _ (number_lt_nextNumber hmem)
  · intro hother
    rw [hdone]
    cases hof : Level.ofText setup.level with
    | ok n => exact absurd hother (Level.ofText_isOk_iff.mp ⟨n, hof⟩)
    | error refused => exact ⟨⟨refused, rfl⟩, rfl⟩

/-- A ligature in the name of what is no level, with handlers of others around; then a level in
letters of either case. -/
theorem setup_fulfilled_after_refusal :
    let root : Root := ⟨[⟨4, none⟩, ⟨2, some .human⟩, ⟨4, none⟩], 40⟩
    let refused : Setup := ⟨[("LOG_FORMAT", "JSON")], "_\uFB06yles", false⟩
    let setup : Setup := ⟨[], "wArNıng", false⟩
    Level.NamesOther refused.level ∧
      (∃ cause, (refused.perform.outcome root).1 = .error (.level cause)) ∧
      (refused.perform.outcome root).2 = ⟨[⟨5, some (.structured true)⟩], 40⟩ ∧
      ¬ Level.NamesOther setup.level ∧
      Fulfilled setup (setup.perform.outcome (root.afterAll [refused])) ∧
      (setup.perform.outcome (root.afterAll [refused])).2 = ⟨[⟨6, some .human⟩], 30⟩ := by
  intro root refused setup
  have hother : Level.NamesOther refused.level :=
    Level.namesOther_iff.mpr (Or.inr (by decide +kernel))
  have hnamed : ¬ Level.NamesOther setup.level := by
    rw [Level.namesOther_iff]
    decide +kernel
  obtain ⟨-, -, -, hrefused, -⟩ := setup_fulfilled_iff root [] refused
  obtain ⟨-, hfulfilled, -⟩ := setup_fulfilled_iff root [refused] setup
  exact ⟨hother, (hrefused hother).1, by decide +kernel, hnamed, hfulfilled.mpr hnamed,
    by decide +kernel⟩

/-- A text that names no level is refused when the handler has been replaced. -/
theorem pattern_name_not_fulfilled :
    let root : Root := ⟨[⟨0, none⟩], 30⟩
    let setup : Setup := { level := "basic_format" }
    (∀ n, ¬ Level.Named setup.level n) ∧
      setup.perform.outcome root =
        (.error (.level (.unknown Level.plainPattern)), ⟨[⟨1, some .human⟩], 30⟩) ∧
      ¬ Fulfilled setup (setup.perform.outcome root) := by
  intro root setup
  have hcapitals : Level.capitals? setup.level = some "BASIC_FORMAT" := by decide +kernel
  have hother : Level.NamesOther setup.level := Level.namesOther_iff.mpr (Or.inl hcapitals)
  have hof : Level.ofText setup.level = .error (.unknown Level.plainPattern) := by
    simp [Level.ofText, hcapitals]
  have hformat : setup.format = .human := by decide +kernel
  refine ⟨fun n hnamed => ?_, ?_, fun hfulfilled => (fulfilled_iff setup root).mp hfulfilled hother⟩
  · obtain ⟨name, hname, hlookup⟩ := Level.named_iff.mp hnamed
    obtain rfl := Option.some.inj (hcapitals.symm.trans hname)
    cases hlookup
  · rw [outcome_perform, hof, hformat]
    rfl

end Outcome

end TableTypes.Journal
