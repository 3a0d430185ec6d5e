import Mathlib.Data.List.Nodup
import TableTypes.Proofs.Registry.Ledger
import TableTypes.Proofs.Registry.Resolution

/-! # Attempts in a row

Which attempts a registry accepts can be told without a registry: go through them, and take each
one that names a kind and whose name and identifier nobody has. The registry holds exactly what
is taken in this way, so a refused attempt leaves no trace, and what a taken name stands for is
settled when it is taken.
-/

namespace TableTypes

/-- The attempt asks for the registration. -/
def Attempt.AsksFor (a : Attempt) (request : Registration) : Prop :=
  a.kind = .text request.kind.name ∧ a.schemaName = request.schemaName ∧
    a.identifier = request.identifier

/-- The kind with a name. -/
def Kind.ofName? (name : String) : Option Kind :=
  Kind.all.find? fun kind => kind.name = name

/-- What the attempt asks for, if it names a kind. -/
def Attempt.request? (a : Attempt) : Option Registration :=
  (a.kind.text?.bind Kind.ofName?).map (⟨a.schemaName, a.identifier, ·⟩)

namespace Registry

/-- Nobody has the name or the identifier: no registration before, no helper type, and no built-in
type that is referred to by its name. -/
def Free (seed : Registry) (accepted : List Registration) (request : Registration) : Prop :=
  request.schemaName ∉ accepted.map (·.schemaName) ∧
  request.identifier ∉ accepted.map (·.identifier) ∧
  request.identifier ∉ seed.reserved ∧
  request.identifier ∉ seed.builtins.filterMap (·.2.reserves?)

instance (seed : Registry) (accepted : List Registration) (request : Registration) :
    Decidable (seed.Free accepted request) :=
  inferInstanceAs (Decidable (_ ∧ _))

/-- Take an attempt if it can be taken after those that were. -/
def take (seed : Registry) (accepted : List Registration) (a : Attempt) : List Registration :=
  match a.request? with
  | some request => if seed.Free accepted request then accepted ++ [request] else accepted
  | none => accepted

/-- Take whatever can be taken, one attempt after another. -/
def greedy (seed : Registry) (attempts : List Attempt) : List Registration :=
  attempts.foldl seed.take []

/-- Who has the identifier. -/
inductive Owns (seed : Registry) (accepted : List Registration) (identifier : String) :
    Owner → Prop where
  | registered {request : Registration} :
      request ∈ accepted → request.identifier = identifier →
      Owns seed accepted identifier (.registered request.kind request.schemaName)
  | helper : identifier ∈ seed.reserved → Owns seed accepted identifier (.helper identifier)
  | builtinType :
      identifier ∉ seed.reserved → identifier ∈ seed.builtins.filterMap (·.2.reserves?) →
      Owns seed accepted identifier (.builtinType identifier)

/-- Who stands in the way of the attempt: the registration of its name, or else the owner of its
identifier. -/
def Blocks (seed : Registry) (accepted : List Registration) (a : Attempt) (owner : Owner) : Prop :=
  (∃ earlier ∈ accepted, earlier.schemaName = a.schemaName ∧
    owner = .registered earlier.kind a.schemaName) ∨
  (a.schemaName ∉ accepted.map (·.schemaName) ∧ seed.Owns accepted a.identifier owner)

end Registry

section Requests

variable {a : Attempt} {request : Registration}

theorem Kind.ofName?_eq_some_iff {name : String} {kind : Kind} :
    Kind.ofName? name = some kind ↔ kind.name = name := by
  constructor
  · intro hfind
    simpa using List.find?_some hfind
  · rintro rfl
    cases kind <;> rfl

theorem Attempt.request?_eq_some_iff : a.request? = some request ↔ a.AsksFor request := by
  obtain ⟨schemaName, identifier, kind⟩ := request
  have hkind : a.kind.text?.bind Kind.ofName? = some kind ↔ a.kind = .text kind.name := by
    cases hv : a.kind with
    | text name => simpa [Value.text?] using Kind.ofName?_eq_some_iff.trans eq_comm
    | _ => simp [Value.text?]
  rw [Attempt.request?, Option.map_eq_some_iff, Attempt.AsksFor, ← hkind]
  constructor
  · rintro ⟨_, hnamed, hrequest⟩
    cases hrequest
    exact ⟨hnamed, rfl, rfl⟩
  · rintro ⟨hnamed, rfl, rfl⟩
    exact ⟨kind, hnamed, rfl⟩

namespace Registry

variable {r : Registry}

/-- Choosing a kind is finding the one with the name. -/
theorem choose_kind (v : Value) :
    choose "TypeKind" Kind.all Kind.name v =
      match v.text?.bind Kind.ofName? with
      | some kind => Except.ok kind
      | none => .error ⟨v, "TypeKind"⟩ := by
  unfold choose Kind.ofName?
  cases v.text?.bind fun name => Kind.all.find? fun kind => kind.name = name with
  | none => rfl
  | some kind => rfl

theorem attempt_of_asksFor (hasks : a.AsksFor request) :
    r.attempt a = (r.add request.schemaName request.identifier request.kind).mapError
      .duplicate := by
  obtain ⟨kind, hkind, rfl⟩ := Option.map_eq_some_iff.mp (Attempt.request?_eq_some_iff.mpr hasks)
  rw [attempt, choose_kind, hkind]

theorem attempt_of_noKind (hnone : a.request? = none) :
    r.attempt a = .error (.kind ⟨a.kind, "TypeKind"⟩) := by
  rw [attempt, choose_kind, Option.map_eq_none_iff.mp hnone]

end Registry

end Requests

namespace Registry

section Step

variable {seed : Registry} {accepted : List Registration} {a : Attempt} {request : Registration}

/-- What is free in this sense is what the registry with the accepted registrations does not
refuse. -/
theorem not_refuses_iff_free (hempty : seed.entries = []) :
    ¬ (seed.extend accepted).Refuses request ↔ seed.Free accepted request := by
  have hbuiltin : (∀ builtin ∈ seed.builtins, builtin.2.reserves? ≠ some request.identifier) ↔
      request.identifier ∉ seed.builtins.filterMap (·.2.reserves?) := by
    simp
  have hnames : (seed.extend accepted).entries.map (·.1) = accepted.map (·.schemaName) := by
    rw [entries_extend_of_empty hempty, List.map_map]
    rfl
  have hidentifiers : (seed.extend accepted).entries.map (·.2.identifier) =
      accepted.map (·.identifier) := by
    rw [entries_extend_of_empty hempty, List.map_map]
    rfl
  rw [Refuses, not_or, Option.not_isSome_iff_eq_none, owner?_eq_none_iff, hnames, hidentifiers]
  change _ ∧ _ ∧ _ ∧ (∀ builtin ∈ seed.builtins, _) ↔ _
  rw [hbuiltin, Free]
  rfl

/-- Whoever owns an identifier in the registry has it. -/
theorem owns_of_owner? (hempty : seed.entries = []) {identifier : String} {owner : Owner}
    (howner : (seed.extend accepted).owner? identifier = some owner) :
    seed.Owns accepted identifier owner := by
  unfold owner? at howner
  rw [entries_extend_of_empty hempty] at howner
  split at howner
  · rename_i name entry hfind
    obtain ⟨request, hmem, heq⟩ := List.mem_map.mp (List.mem_of_find?_eq_some hfind)
    cases heq
    have hidentifier := List.find?_some hfind
    cases howner
    exact .registered hmem (of_decide_eq_true hidentifier)
  · split at howner
    · rename_i hreserved
      cases howner
      exact .helper (List.contains_iff_mem.mp hreserved)
    · rename_i hreserved
      split at howner
      · rename_i hbuiltin
        cases howner
        refine .builtinType (mt List.contains_iff_mem.mpr hreserved) ?_
        obtain ⟨builtin, hmem, hreserves⟩ := List.any_eq_true.mp hbuiltin
        exact List.mem_filterMap.mpr ⟨builtin, hmem, of_decide_eq_true hreserves⟩
      · cases howner

/-- A free attempt is accepted as the last registration. -/
theorem attempt_eq_ok (hempty : seed.entries = []) (hasks : a.AsksFor request)
    (hfree : seed.Free accepted request) :
    (seed.extend accepted).attempt a = .ok (seed.extend (accepted ++ [request])) := by
  rw [attempt_of_asksFor hasks, add_eq_ok ((not_refuses_iff_free hempty).mpr hfree),
    extend_extend]
  rfl

/-- Any other attempt that names a kind is refused, and the refusal names who stands in its way. -/
theorem attempt_eq_duplicate (hempty : seed.entries = []) (hasks : a.AsksFor request)
    (htaken : ¬ seed.Free accepted request) :
    ∃ owner, (seed.extend accepted).attempt a =
        .error (.duplicate ⟨a.schemaName, a.identifier, owner⟩) ∧
      seed.Blocks accepted a owner := by
  have hentries := entries_extend_of_empty hempty accepted
  rw [attempt_of_asksFor hasks, hasks.2.1, hasks.2.2]
  have hrefused := not_not.mp (mt (not_refuses_iff_free hempty).mp htaken)
  unfold add
  cases hlookup : (seed.extend accepted).entries.lookup request.schemaName with
  | some entry =>
      refine ⟨_, rfl, Or.inl ?_⟩
      rw [hentries] at hlookup
      obtain ⟨before, after, hsplit, _⟩ := List.lookup_eq_some_iff.mp hlookup
      have hmem : (request.schemaName, entry) ∈
          accepted.map fun request => (request.schemaName, request.entry) := by
        rw [hsplit]
        simp
      obtain ⟨earlier, hearlier, heq⟩ := List.mem_map.mp hmem
      obtain ⟨hname, rfl⟩ := Prod.mk.inj heq
      exact ⟨earlier, hearlier, hname.trans hasks.2.1.symm, by rw [hasks.2.1]; rfl⟩
  | none =>
      have hname := lookup_eq_none_iff_notMem.mp hlookup
      obtain ⟨owner, howner⟩ := Option.isSome_iff_exists.mp (hrefused.resolve_left hname)
      rw [howner]
      refine ⟨owner, rfl, Or.inr ⟨?_, ?_⟩⟩
      · rw [hentries, List.map_map] at hname
        rw [hasks.2.1]
        exact hname
      · rw [hasks.2.2]
        exact owns_of_owner? hempty howner

/-- All that an attempt can come to. -/
theorem attempt_cases (hempty : seed.entries = []) (accepted : List Registration) (a : Attempt) :
    (∃ request, a.AsksFor request ∧ seed.Free accepted request ∧
      (seed.extend accepted).attempt a = .ok (seed.extend (accepted ++ [request]))) ∨
    ((∀ request, ¬ a.AsksFor request) ∧
      (seed.extend accepted).attempt a = .error (.kind ⟨a.kind, "TypeKind"⟩)) ∨
    ∃ request owner, a.AsksFor request ∧ ¬ seed.Free accepted request ∧
      (seed.extend accepted).attempt a =
        .error (.duplicate ⟨a.schemaName, a.identifier, owner⟩) ∧
      seed.Blocks accepted a owner := by
  cases hrequest : a.request? with
  | none =>
      refine Or.inr (Or.inl ⟨fun request hasks => ?_, attempt_of_noKind hrequest⟩)
      rw [Attempt.request?_eq_some_iff.mpr hasks] at hrequest
      cases hrequest
  | some request =>
      have hasks := Attempt.request?_eq_some_iff.mp hrequest
      by_cases hfree : seed.Free accepted request
      · exact Or.inl ⟨request, hasks, hfree, attempt_eq_ok hempty hasks hfree⟩
      · obtain ⟨owner, hrefused, hblocks⟩ := attempt_eq_duplicate hempty hasks hfree
        exact Or.inr (Or.inr ⟨request, owner, hasks, hfree, hrefused, hblocks⟩)

/-- One attempt changes the registry as it changes what is taken. -/
theorem after_extend (hempty : seed.entries = []) :
    (seed.extend accepted).after a = seed.extend (seed.take accepted a) := by
  unfold after take
  rcases attempt_cases hempty accepted a with
    ⟨request, hasks, hfree, hattempt⟩ | ⟨hnone, hattempt⟩ | ⟨request, _, hasks, htaken, hattempt, _⟩
  · rw [hattempt, Attempt.request?_eq_some_iff.mpr hasks]
    simp only [if_pos hfree]
  · have hrequest : a.request? = none := by
      rw [Option.eq_none_iff_forall_ne_some]
      exact fun request hrequest => hnone request (Attempt.request?_eq_some_iff.mp hrequest)
    rw [hattempt, hrequest]
  · rw [hattempt, Attempt.request?_eq_some_iff.mpr hasks]
    simp only [if_neg htaken]

end Step

section Runs

variable {seed : Registry} {accepted : List Registration} {attempts : List Attempt}

/-- The registry after attempts in a row holds what is taken greedily. -/
theorem afterAll_extend (hempty : seed.entries = []) :
    (seed.extend accepted).afterAll attempts =
      seed.extend (attempts.foldl seed.take accepted) := by
  induction attempts generalizing accepted with
  | nil => rfl
  | cons a rest ih =>
      rw [afterAll, List.foldl_cons, after_extend hempty]
      exact ih

theorem afterAll_eq_extend_greedy (hempty : seed.entries = []) (attempts : List Attempt) :
    seed.afterAll attempts = seed.extend (seed.greedy attempts) := by
  have hrun : (seed.extend []).afterAll attempts = _ := afterAll_extend hempty
  rwa [extend_nil] at hrun

/-- What is taken keeps names and identifiers apart and out of the way of the seed's. -/
structure Apart (seed : Registry) (accepted : List Registration) : Prop where
  names : (accepted.map (·.schemaName)).Nodup
  identifiers : (accepted.map (·.identifier)).Nodup
  free : ∀ request ∈ accepted, request.identifier ∉ seed.reserved ∧
    request.identifier ∉ seed.builtins.filterMap (·.2.reserves?)

theorem Apart.append {request : Registration} (hapart : Apart seed accepted)
    (hfree : seed.Free accepted request) : Apart seed (accepted ++ [request]) := by
  obtain ⟨hname, hidentifier, hreserved, hbuiltin⟩ := hfree
  refine ⟨?_, ?_, ?_⟩
  · rw [List.map_append]
    exact hapart.names.append (List.nodup_singleton _) (by simpa using hname)
  · rw [List.map_append]
    exact hapart.identifiers.append (List.nodup_singleton _) (by simpa using hidentifier)
  · intro other hmem
    rcases List.mem_append.mp hmem with hmem | hmem
    · exact hapart.free other hmem
    · obtain rfl := List.mem_singleton.mp hmem
      exact ⟨hreserved, hbuiltin⟩

theorem Apart.take (hapart : Apart seed accepted) (a : Attempt) :
    Apart seed (seed.take accepted a) := by
  unfold Registry.take
  split
  · split
    · rename_i hfree
      exact hapart.append hfree
    · exact hapart
  · exact hapart

theorem apart_greedy (seed : Registry) (attempts : List Attempt) :
    Apart seed (seed.greedy attempts) := by
  have hrun : ∀ accepted, Apart seed accepted →
      Apart seed (attempts.foldl seed.take accepted) := by
    induction attempts with
    | nil => exact fun _ hapart => hapart
    | cons a rest ih => exact fun accepted hapart => ih _ (hapart.take a)
  exact hrun [] ⟨List.nodup_nil, List.nodup_nil, by simp⟩

theorem Apart.accepts (hempty : seed.entries = []) (hapart : Apart seed accepted) :
    seed.Accepts accepted := by
  refine accepts_iff.mpr ⟨hapart.names, hapart.identifiers, ?_⟩
  intro request hmem
  have hfree : seed.Free [] request :=
    ⟨List.not_mem_nil, List.not_mem_nil, hapart.free request hmem⟩
  have hnot := (not_refuses_iff_free hempty).mpr hfree
  rwa [extend_nil] at hnot

end Runs

end Registry

end TableTypes
