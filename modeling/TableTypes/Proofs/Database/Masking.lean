import Mathlib.Data.List.Infix
import Mathlib.Data.List.TakeWhile
import TableTypes.Database.Connection

/-! # What masking hides

A connection text has one place for its password: behind the user, among the parameters, or among
the settings. Masking leaves out what precedes the last `@` of the text; only where there is none it
cuts at the first `password=`. So what follows the password decides: with an `@` behind it a
password is hidden whatever it is, which is so behind every user. Without one it is hidden only as
long as there is no `@` at all, neither before the password nor in it.

A connection that is put together from its parts has the credentials before an `@` of its own. So
its masked text does not depend on them, whatever they and the other parts are.
-/

namespace TableTypes.Database

section Marks

variable {mark : Char} {s t : List Char}

theorem afterLast_append (hmark : mark ∈ t) : afterLast mark (s ++ t) = afterLast mark t := by
  have hstops : (t.reverse.takeWhile (· ≠ mark)).length ≠ t.reverse.length := by
    intro hlength
    have hall := List.takeWhile_eq_self_iff.mp
      ((List.takeWhile_prefix _).eq_of_length hlength)
    simpa using hall mark (List.mem_reverse.mpr hmark)
  rw [afterLast, List.reverse_append, List.takeWhile_append, if_neg hstops]
  rfl

theorem afterLast_append_of_notMem (hmark : mark ∉ t) :
    afterLast mark (s ++ t) = afterLast mark s ++ t := by
  have hall : ∀ c ∈ t.reverse, decide (c ≠ mark) = true := by
    intro c hc
    exact decide_eq_true fun heq => hmark (heq ▸ List.mem_reverse.mp hc)
  rw [afterLast, List.reverse_append, List.takeWhile_append_of_pos hall, List.reverse_append,
    List.reverse_reverse]
  rfl

theorem maskChars_append_of_mem (hmark : '@' ∈ t) : maskChars (s ++ t) = afterLast '@' t := by
  have hcontains : (s ++ t).contains '@' = true :=
    List.contains_iff_mem.mpr (List.mem_append_right s hmark)
  rw [maskChars, if_pos hcontains, afterLast_append hmark]

/-- Behind the last `@` everything shows. -/
theorem maskChars_append_of_notMem (hs : '@' ∈ s) (ht : '@' ∉ t) :
    maskChars (s ++ t) = afterLast '@' s ++ t := by
  have hcontains : (s ++ t).contains '@' = true :=
    List.contains_iff_mem.mpr (List.mem_append_left t hs)
  rw [maskChars, if_pos hcontains, afterLast_append_of_notMem ht]

end Marks

section Cuts

variable {pattern s shown : List Char}

theorem length_le_of_before? (hcut : before? pattern s = some shown) :
    pattern.length ≤ s.length := by
  induction s generalizing shown with
  | nil =>
      cases pattern with
      | nil => exact Nat.le_refl 0
      | cons c rest => cases hcut
  | cons c rest ih =>
      rw [before?] at hcut
      split at hcut
      next hprefix => exact (List.isPrefixOf_iff_prefix.mp hprefix).length_le
      next =>
        obtain ⟨later, hlater, _⟩ := Option.map_eq_some_iff.mp hcut
        exact Nat.le_succ_of_le (ih hlater)

/-- A cut does not move when the text goes on: an earlier occurrence would end before the one that
is there, so it would be there too. -/
theorem before?_append (hcut : before? pattern s = some shown) (t : List Char) :
    before? pattern (s ++ t) = some shown := by
  induction s generalizing shown with
  | nil =>
      cases pattern with
      | nil =>
          cases t with
          | nil => exact hcut
          | cons c t => simpa [before?] using hcut
      | cons c rest => cases hcut
  | cons c rest ih =>
      rw [before?] at hcut
      rw [List.cons_append, before?]
      split at hcut
      next hprefix =>
        have hlonger : pattern.isPrefixOf (c :: (rest ++ t)) = true :=
          List.isPrefixOf_iff_prefix.mpr
            ((List.isPrefixOf_iff_prefix.mp hprefix).trans (List.prefix_append (c :: rest) t))
        rw [if_pos hlonger]
        exact hcut
      next hnot =>
        obtain ⟨later, hlater, rfl⟩ := Option.map_eq_some_iff.mp hcut
        have hlonger : ¬ pattern.isPrefixOf (c :: (rest ++ t)) = true := by
          intro hprefix
          refine hnot (List.isPrefixOf_iff_prefix.mpr ?_)
          exact List.prefix_of_prefix_length_le (List.isPrefixOf_iff_prefix.mp hprefix)
            (List.prefix_append (c :: rest) t) (Nat.le_succ_of_le (length_le_of_before? hlater))
        rw [if_neg hlonger, ih hlater]
        rfl

theorem exists_before? (pattern s : List Char) :
    ∃ shown, before? pattern (s ++ pattern) = some shown := by
  induction s with
  | nil =>
      refine ⟨[], ?_⟩
      cases pattern with
      | nil => rfl
      | cons c rest => simp [before?]
  | cons c rest ih =>
      obtain ⟨shown, hshown⟩ := ih
      rw [List.cons_append, before?, hshown]
      split
      · exact ⟨[], rfl⟩
      · exact ⟨c :: shown, rfl⟩

/-- Without an `@` all that follows `password=` is left out. -/
theorem exists_maskChars (hs : '@' ∉ s) :
    ∃ masked, ∀ t, '@' ∉ t → maskChars (s ++ "password=".toList ++ t) = masked := by
  obtain ⟨shown, hshown⟩ := exists_before? "password=".toList s
  refine ⟨shown ++ "password=***".toList, fun t ht => ?_⟩
  have hnone : ¬ (s ++ "password=".toList ++ t).contains '@' = true := by
    simp [hs, ht]
  rw [maskChars, if_neg hnone, before?_append hshown]

end Cuts

/-- A key with its value. -/
def assignment (pair : String × String) : String :=
  pair.1 ++ "=" ++ pair.2

/-- A connection text in URL form. -/
structure Url where
  /-- The user, perhaps with a password. -/
  account : Option (String × Option String) := none
  host : String
  port : Option String := none
  database : String
  parameters : List (String × String) := []

namespace Url

def accountText : Option (String × Option String) → String
  | none => ""
  | some (user, none) => user ++ "@"
  | some (user, some password) => user ++ ":" ++ password ++ "@"

/-- The part between the account and the parameters. -/
def location (url : Url) : String :=
  url.host ++ (match url.port with
    | some port => ":" ++ port
    | none => "") ++ "/" ++ url.database

def parametersText : List (String × String) → String
  | [] => ""
  | parameters => "?" ++ "&".intercalate (parameters.map assignment)

def text (url : Url) : String :=
  "postgresql://" ++ accountText url.account ++ url.location ++ parametersText url.parameters

end Url

/-- The place for the password in a connection text. -/
inductive PasswordPlace where
  /-- Behind the user of a URL. -/
  | account (url : Url) (user : String)
  /-- The value of a parameter, between other parameters of a URL. -/
  | parameter (url : Url) (before after : List (String × String))
  /-- The value of a setting, between other settings. -/
  | keyword (before after : List (String × String))

namespace PasswordPlace

/-- The connection text with a password in its place. -/
def text : PasswordPlace → String → String
  | account url user, password => { url with account := some (user, some password) }.text
  | parameter url before after, password =>
    { url with parameters := before ++ ("password", password) :: after }.text
  | keyword before after, password =>
    " ".intercalate ((before ++ ("password", password) :: after).map assignment)

/-- What precedes the password. -/
def lead : PasswordPlace → String
  | account _ user => "postgresql://" ++ user ++ ":"
  | parameter url before _ =>
    "postgresql://" ++ Url.accountText url.account ++ url.location ++ "?" ++
      String.join (before.map (assignment · ++ "&")) ++ "password="
  | keyword before _ => String.join (before.map (assignment · ++ " ")) ++ "password="

/-- What follows the password. -/
def rest : PasswordPlace → String
  | account url _ => "@" ++ url.location ++ Url.parametersText url.parameters
  | parameter _ _ after => String.join (after.map ("&" ++ assignment ·))
  | keyword _ after => String.join (after.map (" " ++ assignment ·))

/-- Any two of the passwords give the same masked text. -/
def Hides (place : PasswordPlace) (admits : String → Prop) : Prop :=
  ∀ p q, admits p → admits q → mask (place.text p) = mask (place.text q)

end PasswordPlace

section Split

theorem intercalate_cons_eq (separator item : String) (after : List String) :
    separator.intercalate (item :: after) = item ++ String.join (after.map (separator ++ ·)) := by
  induction after generalizing item with
  | nil => simp
  | cons next after ih =>
      rw [String.intercalate_cons_cons, ih, List.map_cons, String.join_cons]
      simp only [String.append_assoc]

/-- A list of texts with separators, seen from one of the texts. -/
theorem intercalate_split (separator item : String) (before after : List String) :
    separator.intercalate (before ++ item :: after) =
      String.join (before.map (· ++ separator)) ++
        (item ++ String.join (after.map (separator ++ ·))) := by
  induction before with
  | nil => simp [intercalate_cons_eq]
  | cons first before ih =>
      rw [List.map_cons, String.join_cons, String.append_assoc, ← ih]
      cases before with
      | nil => simp
      | cons next before => simp

theorem assignments_split (separator password : String) (before after : List (String × String)) :
    separator.intercalate ((before ++ ("password", password) :: after).map assignment) =
      String.join (before.map (assignment · ++ separator)) ++ "password=" ++ password ++
        String.join (after.map (separator ++ assignment ·)) := by
  have hpassword : assignment ("password", password) = "password=" ++ password := rfl
  rw [List.map_append, List.map_cons, intercalate_split, hpassword, List.map_map, List.map_map]
  simp only [String.append_assoc]
  rfl

end Split

namespace PasswordPlace

section Places

variable (place : PasswordPlace)

theorem text_eq (password : String) :
    place.text password = place.lead ++ password ++ place.rest := by
  cases place with
  | account url user =>
      unfold text lead rest Url.text Url.accountText Url.location
      generalize "postgresql://" = scheme
      simp only [String.append_assoc]
  | parameter url before after =>
      have hparameters : Url.parametersText (before ++ ("password", password) :: after) =
          "?" ++ (String.join (before.map (assignment · ++ "&")) ++ "password=" ++ password ++
            String.join (after.map ("&" ++ assignment ·))) := by
        rw [← assignments_split]
        cases before <;> rfl
      have hurl : (parameter url before after).text password =
          "postgresql://" ++ Url.accountText url.account ++ url.location ++
            Url.parametersText (before ++ ("password", password) :: after) := rfl
      rw [hurl, hparameters]
      unfold lead rest
      generalize "postgresql://" = scheme
      generalize "password=" = key
      simp only [String.append_assoc]
  | keyword before after => exact assignments_split " " password before after

theorem at_mem_rest_account (url : Url) (user : String) :
    '@' ∈ (PasswordPlace.account url user).rest.toList := by
  simp [rest]

/-- A password that no `@` follows for certain stands behind `password=`. -/
theorem at_mem_rest_or_lead_eq :
    '@' ∈ place.rest.toList ∨ ∃ init, place.lead.toList = init ++ "password=".toList := by
  cases place with
  | account url user => exact Or.inl (at_mem_rest_account url user)
  | parameter url before after => exact Or.inr ⟨_, String.toList_append⟩
  | keyword before after => exact Or.inr ⟨_, String.toList_append⟩

theorem mask_text_eq_iff {place : PasswordPlace} {p q : String} :
    mask (place.text p) = mask (place.text q) ↔
      maskChars (place.lead.toList ++ p.toList ++ place.rest.toList) =
        maskChars (place.lead.toList ++ q.toList ++ place.rest.toList) := by
  simp only [mask, text_eq, String.toList_append, String.ofList_inj]

variable {place : PasswordPlace} {admits : String → Prop}

theorem mask_text_of_mem_rest (hrest : '@' ∈ place.rest.toList) (password : String) :
    mask (place.text password) = String.ofList (afterLast '@' place.rest.toList) := by
  rw [mask, text_eq, String.toList_append, maskChars_append_of_mem hrest]

theorem hides_of_mem_rest (hrest : '@' ∈ place.rest.toList) : place.Hides admits := by
  intro p q _ _
  rw [mask_text_of_mem_rest hrest, mask_text_of_mem_rest hrest]

theorem hides_of_notMem_lead (hlead : '@' ∉ place.lead.toList) :
    place.Hides fun p => p ≠ "" ∧ '@' ∉ p.toList := by
  by_cases hrest : '@' ∈ place.rest.toList
  · exact hides_of_mem_rest hrest
  · obtain ⟨init, hinit⟩ := place.at_mem_rest_or_lead_eq.resolve_left hrest
    have hnone : '@' ∉ init := fun hmem => hlead (hinit ▸ List.mem_append_left _ hmem)
    obtain ⟨masked, hmasked⟩ := exists_maskChars hnone
    rintro p q ⟨_, hp⟩ ⟨_, hq⟩
    rw [mask_text_eq_iff, hinit, List.append_assoc _ p.toList, List.append_assoc _ q.toList,
      hmasked _ (by simp [hp, hrest]), hmasked _ (by simp [hq, hrest])]

/-- With an `@` in front of it and none behind it, the end of a password shows. -/
theorem not_hides_of_notMem_rest (start : String)
    (hlead : '@' ∈ place.lead.toList ++ start.toList) (hrest : '@' ∉ place.rest.toList)
    (ha : admits (start ++ "a")) (hb : admits (start ++ "b")) : ¬ place.Hides admits := by
  intro hhides
  have hsame := mask_text_eq_iff.mp (hhides _ _ ha hb)
  rw [String.toList_append, String.toList_append, ← List.append_assoc, ← List.append_assoc,
    List.append_assoc _ "a".toList, List.append_assoc _ "b".toList,
    maskChars_append_of_notMem hlead (by simp [hrest]),
    maskChars_append_of_notMem hlead (by simp [hrest])] at hsame
  simp at hsame

end Places

/-- Which passwords masking hides. Whatever the password is, it is hidden exactly if an `@` follows
it. Passwords without an `@` are also hidden if no `@` precedes them, and only then. A password
behind the user is always hidden. -/
theorem mask_hides_password_iff (place : PasswordPlace) :
    (place.Hides (· ≠ "") ↔ '@' ∈ place.rest.toList) ∧
      (place.Hides (fun p => p ≠ "" ∧ '@' ∉ p.toList) ↔
        '@' ∈ place.rest.toList ∨ '@' ∉ place.lead.toList) ∧
      ∀ url user, place = .account url user → place.Hides fun _ => True := by
  refine ⟨⟨?_, hides_of_mem_rest⟩, ⟨?_, ?_⟩, ?_⟩
  · intro hhides
    by_contra hrest
    exact not_hides_of_notMem_rest "@" (by simp) hrest (by decide) (by decide) hhides
  · intro hhides
    by_contra hshown
    obtain ⟨hrest, hlead⟩ := not_or.mp hshown
    exact not_hides_of_notMem_rest "" (by simpa using hlead) hrest (by decide)
      (by decide) hhides
  · rintro (hrest | hlead)
    · exact hides_of_mem_rest hrest
    · exact hides_of_notMem_lead hlead
  · rintro url user rfl
    exact hides_of_mem_rest (at_mem_rest_account url user)

/-- Among the parameters of a URL with a user the password is shown. -/
theorem password_parameter_shown :
    let place : PasswordPlace :=
      .parameter ⟨some ("gen", none), "db", some "5432", "app", []⟩ [] []
    place.text "secret" = "postgresql://gen@db:5432/app?password=secret" ∧
      mask (place.text "secret") = "db:5432/app?password=secret" ∧
      mask (place.text "hunter2") = "db:5432/app?password=hunter2" ∧ ¬ place.Hides (· ≠ "") := by
  intro place
  have hfirst : mask (place.text "secret") = "db:5432/app?password=secret" := by decide
  have hsecond : mask (place.text "hunter2") = "db:5432/app?password=hunter2" := by decide
  refine ⟨by decide, hfirst, hsecond, fun hhides => ?_⟩
  have hsame := hhides "secret" "hunter2" (by decide) (by decide)
  rw [hfirst, hsecond] at hsame
  revert hsame
  decide

end PasswordPlace

section Components

/-- No whole connection text is set. -/
def Environment.SetsNoUrl (environment : Environment) : Prop :=
  environment.lookup "DATABASE_URL" = none ∨ environment.lookup "DATABASE_URL" = some ""

variable {environment environment' : Environment}

theorem connectionText_of_setsNoUrl (hurl : environment.SetsNoUrl) :
    connectionText environment = (Target.ofEnvironment environment).text := by
  have habsent : environment.get "DATABASE_URL" "" = "" := by
    rcases hurl with hurl | hurl
    · rw [Environment.get, hurl]; rfl
    · rw [Environment.get, hurl]; rfl
  rw [connectionText, habsent]
  rfl

/-- The place for the password of a target. -/
def Target.place (target : Target) : PasswordPlace :=
  .account ⟨none, target.host, some target.port, target.database, [("sslmode", target.sslmode)]⟩
    target.user

theorem text_place (target : Target) : target.place.text target.password = target.text := by
  have hmode : Url.parametersText [("sslmode", target.sslmode)] = "?sslmode=" ++ target.sslmode :=
    calc
      Url.parametersText [("sslmode", target.sslmode)] = "?" ++ ("sslmode=" ++ target.sslmode) :=
        congrArg ("?" ++ ·) String.intercalate_singleton
      _ = "?sslmode=" ++ target.sslmode := String.append_assoc.symm
  have hurl : target.place.text target.password =
      "postgresql://" ++ (target.user ++ ":" ++ target.password ++ "@") ++
        (target.host ++ (":" ++ target.port) ++ "/" ++ target.database) ++
          Url.parametersText [("sslmode", target.sslmode)] := rfl
  rw [hurl, hmode]
  unfold Target.text
  generalize "postgresql://" = scheme
  generalize "?sslmode=" = key
  simp only [String.append_assoc]

theorem mask_target (target : Target) :
    mask target.text = String.ofList (afterLast '@' target.place.rest.toList) := by
  rw [← text_place]
  exact PasswordPlace.mask_text_of_mem_rest (PasswordPlace.at_mem_rest_account _ _) _

/-- Two environments that set no whole connection text and agree on the host, the port, the database
and the mode give the same masked text, whatever they set for the user and the password. -/
theorem mask_connectionText_eq (hurl : environment.SetsNoUrl) (hurl' : environment'.SetsNoUrl)
    (hagree : ∀ name ∈ ["POSTGRES_HOST", "POSTGRES_PORT", "POSTGRES_DB", "POSTGRES_SSLMODE"],
      environment.lookup name = environment'.lookup name) :
    mask (connectionText environment) = mask (connectionText environment') := by
  have hget : ∀ name ∈ ["POSTGRES_HOST", "POSTGRES_PORT", "POSTGRES_DB", "POSTGRES_SSLMODE"],
      ∀ absent, environment.get name absent = environment'.get name absent := by
    intro name hname absent
    rw [Environment.get, Environment.get, hagree name hname]
  simp only [List.forall_mem_cons] at hget
  obtain ⟨hhost, hport, hdatabase, hmode, _⟩ := hget
  -- What follows the password does not mention the user.
  have hrest : (Target.ofEnvironment environment).place.rest =
      (Target.ofEnvironment environment').place.rest := by
    unfold Target.place Target.ofEnvironment
    rw [hhost, hport, hdatabase, hmode]
    rfl
  rw [connectionText_of_setsNoUrl hurl, connectionText_of_setsNoUrl hurl', mask_target, mask_target,
    hrest]

/-- Credentials with all the marks that count, and an `@` in the name of the database. -/
theorem masked_alike_of_odd_credentials :
    let shared : Environment := [("POSTGRES_HOST", "db"), ("POSTGRES_DB", "a@b")]
    let environment := shared ++ [("POSTGRES_USER", "gen@home"), ("POSTGRES_PASSWORD", "a/b:c@d")]
    let environment' := shared ++ [("DATABASE_URL", ""), ("POSTGRES_PASSWORD", "password=@x")]
    connectionText environment = "postgresql://gen@home:a/b:c@d@db:5432/a@b?sslmode=prefer" ∧
      mask (connectionText environment) = mask (connectionText environment') := by
  intro shared environment environment'
  exact ⟨by decide, mask_connectionText_eq (Or.inl (by decide)) (Or.inr (by decide)) (by decide)⟩

end Components

end TableTypes.Database
