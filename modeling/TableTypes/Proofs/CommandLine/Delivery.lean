import TableTypes.CommandLine.Program
import TableTypes.Proofs.Files.Written

/-! # What is delivered

The program writes only when everything else is over: the options are resolved, the module is
built and the connection is closed. So where it ends well the whole module is in the one place that
was asked for, and where it fails nothing is anywhere, but an error is in the log.
-/

namespace TableTypes.CommandLine

open Database (Catalog Query)
open Files (Path Tree)
open Generation (Answer Failure Generator Plan Source build)
open Journal

section Logging

variable {plan : Plan} {source : Source} {failure : Failure}

/-- A run without a module logs why. -/
theorem error_logged_of_build (hfailed : (build plan source).result = .error failure) :
    ∃ entry ∈ (build plan source).progress.log, entry.level = Level.error := by
  unfold build Generation.run at hfailed ⊢
  cases hstatements : Generation.statements plan source with
  | ok made =>
      rw [hstatements] at hfailed
      cases hfailed
  | error stopped => exact ⟨_, List.mem_append_right _ List.mem_cons_self, rfl⟩

/-- The log is never set up so that an error would not be written. -/
theorem error_written (start : Start) (arguments : Arguments) {entry : Journal.Entry}
    (hentry : entry.level = Level.error) (now : Moment) (origin : Journal.Origin) :
    (logSettings start arguments).write now origin entry =
      (logSettings start arguments).format.line now origin entry ++ "\n" := by
  have hpasses : Level.passes (logSettings start arguments).threshold Level.error = true := by
    unfold logSettings
    cases arguments.verbose <;> rfl
  rw [Journal.Settings.write, hentry, if_pos hpasses]

end Logging

section Serving

variable {start : Start} {schema : String} {options : Options}
  {answer : Query → Except String (List Value)} {failure : Failure}

theorem result_serve (hconnected : start.database = .ok answer) :
    (serve start schema options).result = (match start.closing with
      | .ok () => (build (options.plan {}) (Catalog.source ⟨schema, answer⟩)).result.map .module
      | .error message => .error (.source (.disconnected message))) := by
  rw [serve, hconnected]
  cases start.closing <;> rfl

/-- What the run logs is in the log of the session. -/
theorem mem_log_serve (hconnected : start.database = .ok answer) {entry : Journal.Entry}
    (hentry : entry ∈
      (build (options.plan {}) (Catalog.source ⟨schema, answer⟩)).progress.log) :
    entry ∈ (serve start schema options).log := by
  rw [serve, hconnected]
  exact List.mem_append_left _ hentry

/-- What fails is logged by the run, or else by the program. -/
theorem error_logged_of_serve (hfailed : (serve start schema options).result =
      .error failure) :
    ∃ entry ∈ (serve start schema options).log ++ failureEntries failure,
      entry.level = Level.error := by
  by_cases hsource : ∃ cause, failure = .source cause
  · obtain ⟨cause, rfl⟩ := hsource
    exact ⟨_, List.mem_append_right _ List.mem_cons_self, rfl⟩
  · -- Only a run fails in another way, and it has logged that itself.
    cases hdatabase : start.database with
    | error message =>
        rw [serve, hdatabase] at hfailed
        exact absurd ⟨_, (Except.error.inj hfailed).symm⟩ hsource
    | ok answer =>
        rw [result_serve hdatabase] at hfailed
        cases hclosing : start.closing with
        | error message =>
            rw [hclosing] at hfailed
            exact absurd ⟨_, (Except.error.inj hfailed).symm⟩ hsource
        | ok _ =>
            rw [hclosing] at hfailed
            obtain ⟨entry, hentry, hlevel⟩ := error_logged_of_build (map_eq_error_iff.mp hfailed)
            exact ⟨entry, List.mem_append_left _ (mem_log_serve hdatabase hentry), hlevel⟩

end Serving

/-- A text was written to the file that is named for it, or to the standard output if none is. -/
def Delivered (files : Tree) (output : Option Path) (text : String) (report : Report) : Prop :=
  match output with
  | none => report.stdout = text ∧ report.files = files
  | some path => report.stdout = "" ∧ Tree.Written path text files report.files

/-- Why the program fails: its options are refused, the database cannot be reached, there is no
module, or the connection cannot be closed. -/
inductive Fails (start : Start) (arguments : Arguments) : Prop
  | options {failure : SetupFailure} (hoptions : resolveOptions start arguments = .error failure)
      (hexpected : failure.isExpected = true)
  | connection {options : Options} {message : String}
      (hoptions : resolveOptions start arguments = .ok options)
      (hdatabase : start.database = .error message)
  | build {options : Options} {answer : Query → Except String (List Value)} {failure : Failure}
      (hoptions : resolveOptions start arguments = .ok options)
      (hdatabase : start.database = .ok answer)
      (hbuild : (build (options.plan {}) (Catalog.source ⟨arguments.schema, answer⟩)).result =
        .error failure)
  | closing {options : Options} {answer : Query → Except String (List Value)} {message : String}
      (hoptions : resolveOptions start arguments = .ok options)
      (hdatabase : start.database = .ok answer) (hclosing : start.closing = .error message)

/-- Everything but the writing goes well, and this text is the module. -/
inductive Ready (start : Start) (arguments : Arguments) : String → Prop
  | intro {options : Options} {answer : Query → Except String (List Value)} {text : String}
      (hoptions : resolveOptions start arguments = .ok options)
      (hdatabase : start.database = .ok answer)
      (hbuild : (build (options.plan {}) (Catalog.source ⟨arguments.schema, answer⟩)).result =
        .ok text)
      (hclosing : start.closing = .ok ()) : Ready start arguments text

section Reporting

variable {start : Start} {arguments : Arguments} {options : Options} {text : String}

theorem Ready.not_fails (hready : Ready start arguments text) : ¬ Fails start arguments := by
  obtain ⟨hoptions, hdatabase, hbuild, hclosing⟩ := hready
  intro hfails
  cases hfails with
  | options hrefused => simp [hoptions] at hrefused
  | connection _ hlost => simp [hdatabase] at hlost
  | build hoptions' hdatabase' hfailed =>
      obtain rfl := Except.ok.inj (hoptions.symm.trans hoptions')
      obtain rfl := Except.ok.inj (hdatabase.symm.trans hdatabase')
      simp [hbuild] at hfailed
  | closing _ _ hopen => simp [hclosing] at hopen

theorem fails_of_serve {failure : Failure} (hoptions : resolveOptions start arguments = .ok options)
    (hfailed : (serve start arguments.schema options).result = .error failure) :
    Fails start arguments := by
  cases hdatabase : start.database with
  | error message => exact .connection hoptions hdatabase
  | ok answer =>
      cases hclosing : start.closing with
      | error message => exact .closing hoptions hdatabase hclosing
      | ok _ =>
          rw [result_serve hdatabase, hclosing] at hfailed
          exact .build hoptions hdatabase (map_eq_error_iff.mp hfailed)

theorem ready_of_serve {answered : Answer} (hoptions : resolveOptions start arguments = .ok options)
    (hserved : (serve start arguments.schema options).result = .ok answered) :
    ∃ text, answered = .module text ∧ Ready start arguments text := by
  cases hdatabase : start.database with
  | error message =>
      rw [serve, hdatabase] at hserved
      cases hserved
  | ok answer =>
      rw [result_serve hdatabase] at hserved
      cases hclosing : start.closing with
      | error message =>
          rw [hclosing] at hserved
          cases hserved
      | ok _ =>
          rw [hclosing] at hserved
          obtain ⟨text, hbuild, rfl⟩ := map_eq_ok_iff.mp hserved
          exact ⟨text, rfl, .intro hoptions hdatabase hbuild hclosing⟩

/-- After a delivery the program ends well, unless the file cannot be written. -/
theorem deliver_cases (report : Report) (output : Option Path) (text : String)
    (hending : report.ending = .done) (hstdout : report.stdout = "") :
    ((report.deliver output text).ending = .done ∧
        Delivered report.files output text (report.deliver output text)) ∨
      ∃ trouble, (report.deliver output text).ending = .broken (.output trouble) := by
  unfold Report.deliver
  cases output with
  | none => exact Or.inl ⟨hending, rfl, rfl⟩
  | some path =>
      dsimp only
      split
      · rename_i files hwritten
        obtain ⟨made, hmade, hwrite⟩ := bind_eq_ok_iff.mp hwritten
        have hway := (Tree.furnished_of_ensureDirectories hmade).of_parent
        exact Or.inl ⟨hending, hstdout, Tree.written_of_write hway hwrite⟩
      · exact Or.inr ⟨_, rfl⟩

/-- Nothing was written, and an error was logged where the log shows it. -/
structure Silent (start : Start) (arguments : Arguments) (report : Report) : Prop where
  stdout : report.stdout = ""
  files : report.files = start.files
  settings : report.settings = logSettings start arguments
  log : ∃ entry ∈ report.log, entry.level = Level.error

/-- The program ends well with its module delivered, or fails in silence, or breaks. -/
theorem perform_cases (start : Start) (arguments : Arguments) :
    ((perform start arguments).ending = .done ∧ ∃ text, Ready start arguments text ∧
        Delivered start.files arguments.output text (perform start arguments)) ∨
      ((perform start arguments).ending = .failed ∧ Fails start arguments ∧
        Silent start arguments (perform start arguments)) ∨
      ∃ breakdown, (perform start arguments).ending = .broken breakdown ∧
        ¬ Fails start arguments := by
  unfold perform
  cases hoptions : resolveOptions start arguments with
  | error failure =>
      dsimp only
      by_cases hexpected : failure.isExpected = true
      · rw [if_pos hexpected]
        exact Or.inr (Or.inl ⟨rfl, .options hoptions hexpected, rfl, rfl, rfl,
          _, List.mem_cons_self, rfl⟩)
      · rw [if_neg hexpected]
        refine Or.inr (Or.inr ⟨_, rfl, fun hfails => ?_⟩)
        cases hfails with
        | options hrefused hexpected' =>
            obtain rfl := Except.error.inj (hoptions.symm.trans hrefused)
            exact hexpected hexpected'
        | connection hoptions' | build hoptions' | closing hoptions' => simp [hoptions] at hoptions'
  | ok options =>
      dsimp only
      unfold generate
      dsimp only
      cases hserved : (serve start arguments.schema options).result with
      | error failure =>
          dsimp only
          obtain ⟨entry, hentry, hlevel⟩ := error_logged_of_serve hserved
          refine Or.inr (Or.inl ⟨rfl, fails_of_serve hoptions hserved, rfl, rfl, rfl, entry, ?_,
            hlevel⟩)
          exact List.mem_cons_of_mem _ hentry
      | ok answered =>
          obtain ⟨text, rfl, hready⟩ := ready_of_serve hoptions hserved
          dsimp only
          rcases deliver_cases ⟨.done, start.files, "", _, _, _⟩ arguments.output text rfl rfl with
            hdone | ⟨trouble, hbroken⟩
          · exact Or.inl ⟨hdone.1, text, hready, hdone.2⟩
          · exact Or.inr (Or.inr ⟨_, hbroken, hready.not_fails⟩)

end Reporting

/-- A program whose command line is accepted and that ends with code 0 has written the text of the
module that it built, to the one place that it was to go to, and nothing else. One that ends with
code 1 has written nothing, and shows an error in its log. It ends so exactly if its options are
refused, the database cannot be reached, there is no module, or the connection cannot be closed. -/
theorem exit_code_tells_output (start : Start) {arguments : Arguments}
    (hread : Arguments.read start.arguments = .ok arguments) :
    let report := report start
    (report.ending.code? = some 0 → ∃ text, Ready start arguments text ∧
      Delivered start.files arguments.output text report) ∧
    (report.ending.code? = some 1 → report.stdout = "" ∧ report.files = start.files ∧
      ∃ entry ∈ report.log, entry.level = Level.error ∧ ∀ now origin,
        report.settings.write now origin entry =
          report.settings.format.line now origin entry ++ "\n") ∧
    (report.ending.code? = some 1 ↔ Fails start arguments) := by
  intro report
  have hperform : report = perform start arguments := by
    change CommandLine.report start = _
    rw [CommandLine.report, hread]
  rw [hperform]
  rcases perform_cases start arguments with ⟨hending, text, hready, hdelivered⟩ |
    ⟨hending, hfails, hsilent⟩ | ⟨breakdown, hending, hfails⟩
  · refine ⟨fun _ => ⟨text, hready, hdelivered⟩, fun hcode => ?_, fun hcode => ?_, fun hfails => ?_⟩
    · simp [hending, Ending.code?] at hcode
    · simp [hending, Ending.code?] at hcode
    · exact absurd hfails hready.not_fails
  · refine ⟨fun hcode => ?_, fun _ => ⟨hsilent.stdout, hsilent.files, ?_⟩, fun _ => hfails,
      fun _ => by rw [hending]; rfl⟩
    · simp [hending, Ending.code?] at hcode
    · obtain ⟨entry, hentry, hlevel⟩ := hsilent.log
      rw [hsilent.settings]
      exact ⟨entry, hentry, hlevel, error_written start arguments hlevel⟩
  · refine ⟨fun hcode => ?_, fun hcode => ?_, fun hcode => ?_, fun hfailed => absurd hfailed hfails⟩
    all_goals simp [hending, Ending.code?] at hcode

/-- A connection that cannot be closed, after a run over an empty schema whose module was to go to a
file. -/
theorem exit_code_of_late_failure :
    let start : Start := {
      arguments := ["-o", "types.ts"]
      database := .ok fun _ => .ok []
      closing := .error "connection lost" }
    Arguments.read start.arguments = .ok { output := some ⟨0, ["types.ts"]⟩ } ∧
      (report start).ending.code? = some 1 ∧ (report start).files = start.files := by
  intro start
  have hread : Arguments.read start.arguments = .ok { output := some ⟨0, ["types.ts"]⟩ } := by
    decide +kernel
  have hoptions : resolveOptions start { output := some ⟨0, ["types.ts"]⟩ } = .ok {} := rfl
  obtain ⟨-, hsilent, hfails⟩ := exit_code_tells_output start hread
  have hcode := hfails.mpr (.closing hoptions rfl rfl)
  exact ⟨hread, hcode, (hsilent hcode).2.1⟩

end TableTypes.CommandLine
