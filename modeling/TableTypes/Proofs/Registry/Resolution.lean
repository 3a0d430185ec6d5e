import Mathlib.Data.List.Nodup
import TableTypes.Declaration.Preamble
import TableTypes.Proofs.Registry.Registration

/-! # What names stand for after registrations

Accepted requests have distinct names and distinct identifiers, and none of the identifiers was
taken before. Each of their names stands for its own request, and every other name stands for
what it stood for before.
-/

namespace TableTypes.Registry

/-- A registry refuses what it refused before, and what repeats an accepted request. -/
theorem refuses_extend_iff {r : Registry} {before : List Registration} {request : Registration} :
    (r.extend before).Refuses request ↔
      r.Refuses request ∨ ∃ earlier ∈ before,
        earlier.schemaName = request.schemaName ∨ earlier.identifier = request.identifier := by
  have hnames : request.schemaName ∈ (r.extend before).entries.map (·.1) ↔
      request.schemaName ∈ r.entries.map (·.1) ∨
        ∃ earlier ∈ before, earlier.schemaName = request.schemaName := by
    simp [eq_comm]
  have howner : (r.extend before).owner? request.identifier = none ↔
      r.owner? request.identifier = none ∧
        ∀ earlier ∈ before, earlier.identifier ≠ request.identifier := by
    rw [owner?_eq_none_iff, owner?_eq_none_iff]
    simp only [entries_extend, List.map_append, List.map_map, List.mem_append, not_or]
    constructor
    · rintro ⟨⟨hentries, hbefore⟩, hreserved⟩
      refine ⟨⟨hentries, hreserved⟩, ?_⟩
      intro earlier hmem heq
      exact hbefore (List.mem_map.mpr ⟨earlier, hmem, heq⟩)
    · rintro ⟨⟨hentries, hreserved⟩, hbefore⟩
      refine ⟨⟨hentries, ?_⟩, hreserved⟩
      intro hmem
      obtain ⟨earlier, hmem, heq⟩ := List.mem_map.mp hmem
      exact hbefore earlier hmem heq
  unfold Refuses
  rw [hnames, Option.isSome_iff_ne_none, Option.isSome_iff_ne_none, ne_eq, ne_eq, howner]
  -- An identifier may be taken on both sides at once, so the cases ask the old registry first.
  constructor
  · rintro ((hname | ⟨earlier, hmem, heq⟩) | htaken)
    · exact Or.inl (Or.inl hname)
    · exact Or.inr ⟨earlier, hmem, Or.inl heq⟩
    · by_cases hold : r.owner? request.identifier = none
      · have hrepeats : ¬ ∀ earlier ∈ before, earlier.identifier ≠ request.identifier :=
          fun hall => htaken ⟨hold, hall⟩
        push Not at hrepeats
        obtain ⟨earlier, hmem, heq⟩ := hrepeats
        exact Or.inr ⟨earlier, hmem, Or.inr heq⟩
      · exact Or.inl (Or.inr hold)
  · rintro ((hname | hold) | ⟨earlier, hmem, heq | heq⟩)
    · exact Or.inl (Or.inl hname)
    · exact Or.inr fun hfree => hold hfree.1
    · exact Or.inl (Or.inr ⟨earlier, hmem, heq⟩)
    · exact Or.inr fun hfree => hfree.2 earlier hmem heq

private theorem not_refuses_extend_singleton {r : Registry} {request other : Registration} :
    ¬ (r.extend [request]).Refuses other ↔
      ¬ r.Refuses other ∧ request.schemaName ≠ other.schemaName ∧
        request.identifier ≠ other.identifier := by
  rw [refuses_extend_iff, not_or]
  simp

/-- Requests are accepted together if each is acceptable alone and no two share a name or an
identifier. -/
theorem accepts_iff {r : Registry} {requests : List Registration} :
    r.Accepts requests ↔
      (requests.map (·.schemaName)).Nodup ∧ (requests.map (·.identifier)).Nodup ∧
        ∀ request ∈ requests, ¬ r.Refuses request := by
  induction requests generalizing r with
  | nil =>
      exact ⟨fun _ => ⟨List.nodup_nil, List.nodup_nil, by simp⟩, fun _ => AnyWith.not_nil⟩
  | cons request rest ih =>
      rw [accepts_cons, ih]
      simp only [not_refuses_extend_singleton, List.map_cons, List.nodup_cons, List.mem_cons,
        forall_eq_or_imp]
      constructor
      · rintro ⟨hhead, hnames, hidentifiers, htail⟩
        refine ⟨⟨?_, hnames⟩, ⟨?_, hidentifiers⟩, hhead, fun other hmem => (htail other hmem).1⟩
        · intro hmem
          obtain ⟨other, hmem, heq⟩ := List.mem_map.mp hmem
          exact (htail other hmem).2.1 heq.symm
        · intro hmem
          obtain ⟨other, hmem, heq⟩ := List.mem_map.mp hmem
          exact (htail other hmem).2.2 heq.symm
      · rintro ⟨⟨hname, hnames⟩, ⟨hidentifier, hidentifiers⟩, hhead, htail⟩
        refine ⟨hhead, hnames, hidentifiers, fun other hmem => ⟨htail other hmem, ?_, ?_⟩⟩
        · intro heq
          exact hname (List.mem_map.mpr ⟨other, hmem, heq.symm⟩)
        · intro heq
          exact hidentifier (List.mem_map.mpr ⟨other, hmem, heq.symm⟩)

/-- An accepted name stands for its own request, whatever it stood for before. -/
theorem find?_extend_of_mem {r : Registry} {requests : List Registration} {request : Registration}
    (haccepts : r.Accepts requests) (hmem : request ∈ requests) :
    (r.extend requests).find? request.schemaName = some request.entry := by
  obtain ⟨hnames, _, hrefuses⟩ := accepts_iff.mp haccepts
  have hold : r.entries.lookup request.schemaName = none :=
    lookup_eq_none_iff_notMem.mpr (not_or.mp (hrefuses request hmem)).1
  obtain ⟨before, after, rfl⟩ := List.append_of_mem hmem
  -- The look-up takes the first entry of the name, so the earlier requests must not have it.
  have hbefore : (before.map fun request => (request.schemaName, request.entry)).lookup
      request.schemaName = none := by
    rw [lookup_eq_none_iff_notMem, List.map_map]
    rw [List.map_append, List.nodup_append] at hnames
    intro hearlier
    exact hnames.2.2 _ hearlier request.schemaName (by simp) rfl
  rw [find?, entries_extend, List.lookup_append, hold, Option.none_or, List.map_append,
    List.lookup_append, hbefore, Option.none_or, List.map_cons, List.lookup_cons_self]

/-- A name that no request has stands for what it stood for before. -/
theorem find?_extend_of_notMem {r : Registry} {requests : List Registration} {name : String}
    (hname : name ∉ requests.map (·.schemaName)) :
    (r.extend requests).find? name = r.find? name := by
  have hnew : (requests.map fun request => (request.schemaName, request.entry)).lookup name =
      none := by
    rw [lookup_eq_none_iff_notMem, List.map_map]
    exact hname
  rw [find?, entries_extend, List.lookup_append, hnew, Option.or_none]
  rfl

/-- What a name stands for after registrations is what it was registered as, or a built-in type if
it was not. -/
theorem find?_extend_named_cases {r : Registry} {requests : List Registration} {name : String}
    {entry : Entry} (hempty : r.entries = []) (haccepts : r.Accepts requests)
    (hentry : (r.extend requests).find? name = some entry) :
    (name ∉ requests.map (·.schemaName) ∧
        ∃ type, (name, type) ∈ r.builtins ∧ entry = builtinEntry type) ∨
      ∃ request ∈ requests, request.schemaName = name ∧ entry = request.entry := by
  by_cases hname : name ∈ requests.map (·.schemaName)
  · obtain ⟨request, hmem, rfl⟩ := List.mem_map.mp hname
    rw [find?_extend_of_mem haccepts hmem] at hentry
    exact Or.inr ⟨request, hmem, rfl, (Option.some.inj hentry).symm⟩
  · rw [find?_extend_of_notMem hname, find?, hempty] at hentry
    obtain ⟨type, hlookup, rfl⟩ := Option.map_eq_some_iff.mp hentry
    obtain ⟨before, after, hsplit, _⟩ := List.lookup_eq_some_iff.mp hlookup
    refine Or.inl ⟨hname, type, ?_, rfl⟩
    rw [hsplit]
    simp

/-- What a name stands for after registrations is a built-in type or one of the requests. -/
theorem find?_extend_cases {r : Registry} {requests : List Registration} {name : String}
    {entry : Entry} (hempty : r.entries = []) (haccepts : r.Accepts requests)
    (hentry : (r.extend requests).find? name = some entry) :
    (∃ type, (name, type) ∈ r.builtins ∧ entry = builtinEntry type) ∨
      ∃ request ∈ requests, entry = request.entry := by
  rcases find?_extend_named_cases hempty haccepts hentry with
    ⟨_, hbuiltin⟩ | ⟨request, hmem, _, heq⟩
  · exact Or.inl hbuiltin
  · exact Or.inr ⟨request, hmem, heq⟩

/-- A name stands for nothing if it is neither registered nor built in. -/
theorem find?_eq_none_iff {r : Registry} {name : String} :
    r.find? name = none ↔ name ∉ r.entries.map (·.1) ∧ name ∉ r.builtins.map (·.1) := by
  rw [← lookup_eq_none_iff_notMem, ← lookup_eq_none_iff_notMem]
  unfold find?
  cases r.entries.lookup name with
  | some entry => simp
  | none => simp

/-- The standard built-in types have five output types. -/
theorem mem_standard_cases {name : String} {type : BuiltinType}
    (hmem : (name, type) ∈ BuiltinType.standard) :
    type = .number ∨ type = .string ∨ type = .boolean ∨ type = .date ∨ type = .json := by
  obtain ⟨group, hgroup, hname⟩ := List.mem_flatMap.mp hmem
  obtain ⟨_, _, heq⟩ := List.mem_map.mp hname
  obtain rfl : group.1 = type := congrArg Prod.snd heq
  simp only [BuiltinType.groups, List.mem_cons, List.not_mem_nil, or_false] at hgroup
  rcases hgroup with rfl | rfl | rfl | rfl | rfl | rfl <;> simp

/-- The identifiers that output types of built-in types take. -/
theorem reserves?_standard_iff {identifier : String} :
    (∃ builtin ∈ BuiltinType.standard, builtin.2.reserves? = some identifier) ↔
      identifier = "Date" ∨ identifier = "Json" := by
  have hreserved : (BuiltinType.standard.filterMap (·.2.reserves?)) =
      ["Date", "Date", "Date", "Date", "Date", "Json", "Json"] := by rfl
  rw [← List.mem_filterMap, hreserved]
  simp

/-- A fresh registry refuses the identifiers that modules use themselves, and no others. -/
theorem standard_refuses_iff {request : Registration} :
    (Registry.standard Declaration.helperNames).Refuses request ↔
      request.identifier ∈ ["Date", "Json", "Nullable"] := by
  have howner : (Registry.standard Declaration.helperNames).owner? request.identifier = none ↔
      request.identifier ∉ ["Date", "Json", "Nullable"] := by
    have hbuiltin : (∀ builtin ∈ BuiltinType.standard,
        builtin.2.reserves? ≠ some request.identifier) ↔
        ¬ (request.identifier = "Date" ∨ request.identifier = "Json") := by
      rw [← reserves?_standard_iff]
      push Not
      rfl
    rw [owner?_eq_none_iff]
    change _ ∧ request.identifier ∉ ["Json", "Nullable"] ∧ (∀ builtin ∈ BuiltinType.standard, _) ↔ _
    rw [hbuiltin]
    simp only [Registry.standard, List.map_nil, List.not_mem_nil, not_false_eq_true, true_and,
      List.mem_cons, or_false, not_or]
    tauto
  unfold Refuses
  rw [Option.isSome_iff_ne_none, ne_eq, howner, not_not]
  simp [Registry.standard]

end TableTypes.Registry
