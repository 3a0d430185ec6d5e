import TableTypes.Proofs.Database.Masking
import TableTypes.Proofs.Text.Joined

/-! # What a connection text addresses

A connection text that is put together from its parts has them as they are, so a part may hold what
looks like the mark next to it. The text tells the parts of a target exactly if no mark can be moved
into a part; otherwise another target has the same text. A password with an `@` in it is enough for
that, so a password can name another server.
-/

namespace TableTypes.Database

open Text (Divided Filled Mark Marked divided_iff_unique joined)

namespace Target

/-- The marks between the parts of a connection text. -/
def marks : List Mark :=
  [⟨':', [], by decide⟩, ⟨'@', [], by decide⟩, ⟨':', [], by decide⟩, ⟨'/', [], by decide⟩,
    ⟨'?', "sslmode=".toList, by decide⟩]

/-- What follows the user in a connection text. -/
def behindUser (target : Target) : List Marked :=
  marks.zip [target.password.toList, target.host.toList, target.port.toList,
    target.database.toList, target.sslmode.toList]

/-- No part is empty. -/
def IsFull (target : Target) : Prop :=
  Filled target.user.toList target.behindUser

/-- No mark can be moved into a part. -/
def IsClear (target : Target) : Prop :=
  Divided target.user.toList target.behindUser

instance : DecidablePred IsClear := fun _ => Text.Divided.decidable _ _

variable {target target' : Target}

theorem toList_text (target : Target) :
    target.text.toList = "postgresql://".toList ++ joined target.user.toList target.behindUser := by
  unfold text
  generalize "postgresql://" = scheme
  simp only [behindUser, marks, List.zip_cons_cons, List.zip_nil_left, joined, Mark.chars,
    String.toList_append, List.append_assoc]
  rfl

theorem text_eq_iff : target'.text = target.text ↔
    joined target'.user.toList target'.behindUser =
      joined target.user.toList target.behindUser := by
  rw [← String.toList_inj, toList_text, toList_text, List.append_cancel_left_eq]

theorem eq_of_parts (huser : target'.user.toList = target.user.toList)
    (hbehind : target'.behindUser = target.behindUser) : target' = target := by
  cases target
  cases target'
  simp only [behindUser, marks, List.zip_cons_cons, List.zip_nil_left, List.cons.injEq,
    Prod.mk.injEq, String.toList_inj, true_and, and_true] at huser hbehind
  obtain ⟨rfl, rfl, rfl, rfl, rfl⟩ := hbehind
  rw [huser]

/-- Parts between the marks of a connection text are those of a target. -/
theorem exists_parts (first : List Char) {rest : List Marked}
    (hmarks : rest.map Prod.fst = marks) :
    ∃ target : Target, target.user.toList = first ∧ target.behindUser = rest := by
  obtain ⟨⟨_, password⟩, behind, rfl, rfl, hpassword⟩ := List.map_eq_cons_iff.mp hmarks
  obtain ⟨⟨_, host⟩, behind, rfl, rfl, hhost⟩ := List.map_eq_cons_iff.mp hpassword
  obtain ⟨⟨_, port⟩, behind, rfl, rfl, hport⟩ := List.map_eq_cons_iff.mp hhost
  obtain ⟨⟨_, database⟩, behind, rfl, rfl, hdatabase⟩ := List.map_eq_cons_iff.mp hport
  obtain ⟨⟨_, sslmode⟩, behind, rfl, rfl, hsslmode⟩ := List.map_eq_cons_iff.mp hdatabase
  obtain rfl := List.map_eq_nil_iff.mp hsslmode
  exact ⟨⟨.ofList host, .ofList port, .ofList database, .ofList first, .ofList password,
    .ofList sslmode⟩, String.toList_ofList, by simp [behindUser, marks]⟩

/-- A full target is the only one with its text exactly if no mark can be moved into a part. -/
theorem isClear_iff_unique (hfull : target.IsFull) :
    (∀ target' : Target, target'.IsFull → target'.text = target.text → target' = target) ↔
      target.IsClear := by
  rw [IsClear, ← divided_iff_unique hfull]
  constructor
  · intro hunique first' rest' hfilled hmarks hsame
    obtain ⟨target', rfl, rfl⟩ := exists_parts first' hmarks
    obtain rfl := hunique target' hfilled (text_eq_iff.mpr hsame)
    exact ⟨rfl, rfl⟩
  · intro hunique target' hfull' hsame
    obtain ⟨huser, hbehind⟩ := hunique _ _ hfull' rfl (text_eq_iff.mp hsame)
    exact eq_of_parts huser hbehind

/-- The variables that set every part of a target. -/
def settings (target : Target) : Environment :=
  [("POSTGRES_HOST", target.host), ("POSTGRES_PORT", target.port),
    ("POSTGRES_DB", target.database), ("POSTGRES_USER", target.user),
    ("POSTGRES_PASSWORD", target.password), ("POSTGRES_SSLMODE", target.sslmode)]

theorem ofEnvironment_settings (target : Target) : ofEnvironment target.settings = target :=
  rfl

theorem setsNoUrl_settings (target : Target) : target.settings.SetsNoUrl :=
  Or.inl rfl

end Target

section Settings

/-- The variables for the parts of the connection. -/
def partNames : List String :=
  ["POSTGRES_HOST", "POSTGRES_PORT", "POSTGRES_DB", "POSTGRES_USER", "POSTGRES_PASSWORD",
    "POSTGRES_SSLMODE"]

/-- Every part of the connection is set, and none to the empty text. -/
def Environment.SetsParts (environment : Environment) : Prop :=
  ∀ name ∈ partNames, environment.get name "" ≠ ""

instance : DecidablePred Environment.SetsParts := fun _ =>
  inferInstanceAs (Decidable (∀ name ∈ partNames, _))

variable {environment environment' : Environment}

theorem Environment.get_ne {name : String} (hset : environment.get name "" ≠ "")
    (absent : String) : environment.get name absent ≠ "" := by
  cases hlookup : environment.lookup name with
  | none => exact absurd (by rw [get, hlookup]; rfl) hset
  | some text => simpa [get, hlookup] using hset

theorem isFull_of_setsParts (hparts : environment.SetsParts) :
    (Target.ofEnvironment environment).IsFull := by
  have hget : ∀ name ∈ partNames, ∀ absent, (environment.get name absent).toList ≠ [] :=
    fun name hname absent => by simpa using Environment.get_ne (hparts name hname) absent
  simp only [partNames, List.forall_mem_cons] at hget
  obtain ⟨hhost, hport, hdatabase, huser, hpassword, hmode, _⟩ := hget
  refine ⟨huser _, ?_⟩
  simp only [Target.behindUser, Target.marks, List.zip_cons_cons, List.zip_nil_left,
    List.forall_mem_cons]
  exact ⟨hpassword _, hhost _, hport _, hdatabase _, hmode _, by simp⟩

theorem setsParts_settings {target : Target} (hfull : target.IsFull) :
    target.settings.SetsParts := by
  obtain ⟨huser, hbehind⟩ := hfull
  simp only [Target.behindUser, Target.marks, List.zip_cons_cons, List.zip_nil_left,
    List.forall_mem_cons, ne_eq, String.toList_eq_nil_iff] at huser hbehind
  obtain ⟨hpassword, hhost, hport, hdatabase, hmode, _⟩ := hbehind
  simp only [Environment.SetsParts, partNames, List.forall_mem_cons]
  exact ⟨hhost, hport, hdatabase, huser, hpassword, hmode, by simp⟩

/-- The connection text of an environment that sets every part tells these parts exactly if no mark
can be moved into one of them: if the user has no `:` behind its first character and the password
none before its last, and so for `@` between password and host, `:` between host and port, `/`
between port and database, and `?sslmode=` behind the database. -/
theorem connectionText_tells_target_iff (hurl : environment.SetsNoUrl)
    (hparts : environment.SetsParts) :
    (∀ environment' : Environment, environment'.SetsNoUrl → environment'.SetsParts →
      connectionText environment' = connectionText environment →
      Target.ofEnvironment environment' = Target.ofEnvironment environment) ↔
    (Target.ofEnvironment environment).IsClear := by
  rw [← Target.isClear_iff_unique (isFull_of_setsParts hparts), connectionText_of_setsNoUrl hurl]
  constructor
  · intro hunique target hfull hsame
    have htold := hunique target.settings target.setsNoUrl_settings (setsParts_settings hfull)
    rw [connectionText_of_setsNoUrl target.setsNoUrl_settings,
      Target.ofEnvironment_settings] at htold
    exact htold hsame
  · intro hunique environment' hurl' hparts' hsame
    rw [connectionText_of_setsNoUrl hurl'] at hsame
    exact hunique _ (isFull_of_setsParts hparts') hsame

/-- Marks at the ends of parts, where they cannot be taken for others, and in parts that are not
next to them. -/
theorem target_told_of_odd_parts :
    let environment : Environment := [("POSTGRES_HOST", ":db/one@"), ("POSTGRES_PORT", "/5432:"),
      ("POSTGRES_DB", "a:b@c?ssl/"), ("POSTGRES_USER", ":@gen"), ("POSTGRES_PASSWORD", "@p/w:"),
      ("POSTGRES_SSLMODE", "a@b:c/d")]
    environment.SetsNoUrl ∧ environment.SetsParts ∧
      connectionText environment =
        "postgresql://:@gen:@p/w:@:db/one@:/5432:/a:b@c?ssl/?sslmode=a@b:c/d" ∧
      ∀ environment' : Environment, environment'.SetsNoUrl → environment'.SetsParts →
        connectionText environment' = connectionText environment →
        Target.ofEnvironment environment' = Target.ofEnvironment environment := by
  intro environment
  have hurl : environment.SetsNoUrl := Or.inl (by decide)
  have hparts : environment.SetsParts := by decide
  exact ⟨hurl, hparts, by decide,
    (connectionText_tells_target_iff hurl hparts).mpr (by decide)⟩

/-- A password takes the place of the server: the same text belongs to another host, with the rest
behind it. -/
theorem password_names_server :
    let there : Target := ⟨"db", "5432", "app", "gen", "pw@evil:5432/app?sslmode=disable", "prefer"⟩
    let evil : Target := ⟨"evil", "5432", "app", "gen", "pw", "disable@db:5432/app?sslmode=prefer"⟩
    there.settings.SetsNoUrl ∧ there.settings.SetsParts ∧ evil.settings.SetsNoUrl ∧
      evil.settings.SetsParts ∧ connectionText there.settings = connectionText evil.settings ∧
      Target.ofEnvironment there.settings ≠ Target.ofEnvironment evil.settings ∧
      (Target.ofEnvironment there.settings).host = "db" ∧
      (Target.ofEnvironment evil.settings).host = "evil" := by
  intro there evil
  exact ⟨there.setsNoUrl_settings, by decide, evil.setsNoUrl_settings, by decide, by decide,
    by decide, rfl, rfl⟩

end Settings

end TableTypes.Database
