import Mathlib.Data.List.Nodup
import Mathlib.Data.List.Perm.Basic
import TableTypes.Proofs.Registry.Resolution
import TableTypes.Registry.Attempt

/-! # What can be read from a registry

A registry keeps registered names and built-in names apart, and a name may be on both sides. Every
reading brings the two together in a way of its own: the iteration leaves out the built-in names
that are hidden, the size counts a union, and the look-ups try one side and then the other. As long
as neither side has a name twice, all readings tell the same names, and no attempt changes that.
-/

namespace TableTypes.Registry

/-- The attempts that are accepted, in their order. -/
def accepted : Registry → List Attempt → List Attempt
  | _, [] => []
  | r, a :: rest =>
    match r.attempt a with
    | .ok next => a :: next.accepted rest
    | .error _ => r.accepted rest

/-- Neither side has a name twice. -/
structure DistinctNames (r : Registry) : Prop where
  entries : (r.entries.map (·.1)).Nodup
  builtins : (r.builtins.map (·.1)).Nodup

/-- All readings of the registry tell the same names. -/
structure ReadingsAgree (r : Registry) : Prop where
  nodup : r.names.Nodup
  size : r.size = r.names.length
  contains : ∀ name, r.contains name = true ↔ name ∈ r.names
  /-- A name that is listed resolves, whatever is asked about it. -/
  known : ∀ name ∈ r.names, ∃ entry : Entry, r.typeOf name = .ok entry.type ∧
    r.identifierOf name = .ok entry.identifier ∧ r.kindOf name = .ok entry.kind
  /-- Any other name is reported, whatever is asked about it. -/
  unknown : ∀ name ∉ r.names, r.typeOf name = .error ⟨name⟩ ∧
    r.identifierOf name = .error ⟨name⟩ ∧ r.kindOf name = .error ⟨name⟩
  /-- Without a kind all names are listed. -/
  listed : r.listed none = r.names
  /-- The names of one kind are those with that kind. -/
  kinds : ∀ kind name, name ∈ r.listed (some kind) ↔ r.kindOf name = .ok kind
  /-- They keep their order. -/
  ordered : ∀ kind, (r.listed (some kind)).Sublist r.names
  /-- Every name has one of the kinds. -/
  partition : (Kind.all.flatMap fun kind => r.listed (some kind)).Perm r.names

section Names

variable {r : Registry} {name : String}

/-- A built-in name is iterated if it is not hidden. -/
theorem isNone_lookup_iff :
    (r.entries.lookup name).isNone = true ↔ name ∉ r.entries.map (·.1) := by
  rw [Option.isNone_iff_eq_none, lookup_eq_none_iff_notMem]

theorem mem_names_iff :
    name ∈ r.names ↔ name ∈ r.entries.map (·.1) ∨ name ∈ r.builtins.map (·.1) := by
  rw [names, List.mem_append, List.mem_filter, isNone_lookup_iff]
  tauto

theorem find?_isSome_iff : (r.find? name).isSome = true ↔ name ∈ r.names := by
  rw [mem_names_iff, ← not_iff_not, Option.not_isSome_iff_eq_none, find?_eq_none_iff, not_or]

theorem contains_iff : r.contains name = true ↔ name ∈ r.names := by
  rw [mem_names_iff, contains, Bool.or_eq_true, ← not_iff_not, not_or, not_or,
    Option.not_isSome_iff_eq_none, Option.not_isSome_iff_eq_none, lookup_eq_none_iff_notMem,
    lookup_eq_none_iff_notMem]

/-- Hidden names are left out, so the two sides of the iteration do not meet. -/
theorem nodup_names (hdistinct : r.DistinctNames) : r.names.Nodup := by
  refine hdistinct.entries.append (hdistinct.builtins.filter _) ?_
  intro name hentry hbuiltin
  exact isNone_lookup_iff.mp (List.mem_filter.mp hbuiltin).2 hentry

/-- The union has the names of the iteration in another order. -/
theorem size_eq_length_names (hdistinct : r.DistinctNames) : r.size = r.names.length := by
  change (r.entries.map (·.1) ∪ r.builtins.map (·.1)).length = r.names.length
  apply List.Perm.length_eq
  rw [List.perm_ext_iff_of_nodup (hdistinct.builtins.union _) (nodup_names hdistinct)]
  intro name
  rw [List.mem_union_iff, mem_names_iff]

theorem resolve_of_mem (hmem : name ∈ r.names) :
    ∃ entry, r.find? name = some entry ∧ r.resolve name = .ok entry := by
  obtain ⟨entry, hentry⟩ := Option.isSome_iff_exists.mp (find?_isSome_iff.mpr hmem)
  exact ⟨entry, hentry, by rw [resolve, hentry]⟩

theorem resolve_of_notMem (hmem : name ∉ r.names) : r.resolve name = .error ⟨name⟩ := by
  rw [resolve, Option.not_isSome_iff_eq_none.mp (mt find?_isSome_iff.mp hmem)]

theorem mem_listed_iff {kind : Kind} :
    name ∈ r.listed (some kind) ↔ r.kindOf name = .ok kind := by
  rw [listed, List.mem_filter, kindOf]
  by_cases hmem : name ∈ r.names
  · obtain ⟨entry, hentry, hresolve⟩ := resolve_of_mem hmem
    simp [hmem, hentry, hresolve, Except.map]
  · simp [hmem, resolve_of_notMem hmem, Except.map]

theorem flatMap_listed_perm (hdistinct : r.DistinctNames) :
    (Kind.all.flatMap fun kind => r.listed (some kind)).Perm r.names := by
  have hnames := nodup_names hdistinct
  have hkinds : (Kind.all.flatMap fun kind => r.listed (some kind)).Nodup := by
    refine List.nodup_flatMap.mpr ⟨fun kind _ => hnames.filter _, ?_⟩
    have hall : Kind.all.Pairwise (· ≠ ·) := by decide
    refine hall.imp fun {kind other} hne name hkind hother => hne ?_
    have hsame := (mem_listed_iff.mp hkind).symm.trans (mem_listed_iff.mp hother)
    exact Except.ok.inj hsame
  rw [List.perm_ext_iff_of_nodup hkinds hnames]
  intro name
  rw [List.mem_flatMap]
  constructor
  · rintro ⟨kind, _, hmem⟩
    exact (List.mem_filter.mp hmem).1
  · intro hmem
    obtain ⟨entry, _, hresolve⟩ := resolve_of_mem hmem
    refine ⟨entry.kind, ?_, mem_listed_iff.mpr ?_⟩
    · cases entry.kind <;> decide
    · rw [kindOf, hresolve]
      rfl

theorem readingsAgree_of_distinct (hdistinct : r.DistinctNames) : r.ReadingsAgree where
  nodup := nodup_names hdistinct
  size := size_eq_length_names hdistinct
  contains _ := contains_iff
  known name hmem := by
    obtain ⟨entry, _, hresolve⟩ := resolve_of_mem hmem
    refine ⟨entry, ?_, ?_, ?_⟩
    · rw [typeOf, hresolve]; rfl
    · rw [identifierOf, hresolve]; rfl
    · rw [kindOf, hresolve]; rfl
  unknown name hmem := by
    have hresolve := resolve_of_notMem hmem
    refine ⟨?_, ?_, ?_⟩
    · rw [typeOf, hresolve]; rfl
    · rw [identifierOf, hresolve]; rfl
    · rw [kindOf, hresolve]; rfl
  listed := List.filter_eq_self.mpr fun _ _ => rfl
  kinds _ _ := mem_listed_iff
  ordered _ := List.filter_sublist
  partition := flatMap_listed_perm hdistinct

end Names

section Attempts

variable {r : Registry}

/-- An attempt is refused, or it adds a new name as the last one. -/
theorem attempt_refused_or_added (r : Registry) (a : Attempt) :
    (∃ refusal, r.attempt a = .error refusal) ∨
      ∃ request : Registration, request.schemaName = a.schemaName ∧ ¬ r.Refuses request ∧
        r.attempt a = .ok (r.extend [request]) := by
  unfold attempt
  cases choose "TypeKind" Kind.all Kind.name a.kind with
  | error refused => exact Or.inl ⟨_, rfl⟩
  | ok kind =>
      by_cases hrefused : r.Refuses ⟨a.schemaName, a.identifier, kind⟩
      · obtain ⟨owner, hadd⟩ := add_eq_error hrefused
        exact Or.inl ⟨_, congrArg (Except.mapError AttemptRefusal.duplicate) hadd⟩
      · refine Or.inr ⟨_, rfl, hrefused, ?_⟩
        exact congrArg (Except.mapError AttemptRefusal.duplicate) (add_eq_ok hrefused)

/-- What attempts in a row leave: the built-in names stay as they are, and the accepted names stand
behind the registered ones, all of them new. -/
theorem afterAll_sides (r : Registry) (attempts : List Attempt) :
    (r.afterAll attempts).builtins = r.builtins ∧
      (r.afterAll attempts).entries.map (·.1) =
        r.entries.map (·.1) ++ (r.accepted attempts).map (·.schemaName) := by
  induction attempts generalizing r with
  | nil => exact ⟨rfl, (List.append_nil _).symm⟩
  | cons a rest ih =>
      rw [afterAll, List.foldl_cons, after, accepted]
      rcases attempt_refused_or_added r a with ⟨refusal, hattempt⟩ | ⟨request, hname, _, hattempt⟩
      · rw [hattempt]
        exact ih r
      · rw [hattempt]
        obtain ⟨hbuiltins, hentries⟩ := ih (r.extend [request])
        refine ⟨hbuiltins, hentries.trans ?_⟩
        simp [hname]

theorem DistinctNames.after (hdistinct : r.DistinctNames) (a : Attempt) :
    (r.after a).DistinctNames := by
  unfold Registry.after
  rcases attempt_refused_or_added r a with ⟨refusal, hattempt⟩ | ⟨request, _, hfree, hattempt⟩
  · rw [hattempt]
    exact hdistinct
  · rw [hattempt]
    refine ⟨?_, hdistinct.builtins⟩
    have hnew := (not_or.mp hfree).1
    rw [entries_extend, List.map_append]
    exact hdistinct.entries.append (List.nodup_singleton _) (by simpa using hnew)

theorem DistinctNames.afterAll (hdistinct : r.DistinctNames) (attempts : List Attempt) :
    (r.afterAll attempts).DistinctNames := by
  induction attempts generalizing r with
  | nil => exact hdistinct
  | cons a rest ih => exact ih (hdistinct.after a)

end Attempts

/-- Whatever is built in and reserved, and whatever is attempted, all readings of the registry that
is reached tell the same names. First come the accepted names in the order of their acceptance, and
then the built-in names that none of them hides, in their own order. -/
theorem readings_agree (builtins : List (String × BuiltinType)) (reserved : List String)
    (attempts : List Attempt) (hdistinct : (builtins.map (·.1)).Nodup) :
    let seed : Registry := ⟨builtins, reserved, []⟩
    let added := (seed.accepted attempts).map (·.schemaName)
    (seed.afterAll attempts).ReadingsAgree ∧
      (seed.afterAll attempts).names = added ++ (builtins.map (·.1)).filter (· ∉ added) := by
  intro seed added
  have hseed : seed.DistinctNames := ⟨List.nodup_nil, hdistinct⟩
  refine ⟨readingsAgree_of_distinct (hseed.afterAll attempts), ?_⟩
  obtain ⟨hbuiltins, hentries⟩ := afterAll_sides seed attempts
  have hadded : (seed.afterAll attempts).entries.map (·.1) = added := hentries.trans rfl
  rw [names, hbuiltins, hadded]
  refine congrArg (added ++ ·) (List.filter_congr fun name _ => ?_)
  rw [Bool.eq_iff_iff, isNone_lookup_iff, hadded, decide_eq_true_iff]

example : (BuiltinType.standard.map (·.1)).Nodup := by decide

/-- A table hides a built-in name, and three attempts are refused: for an identifier that a built-in
type takes, for a name that is registered, and for a kind that there is not. -/
theorem readings_of_hidden_name :
    let builtins : List (String × BuiltinType) :=
      [("int4", .keyword "number"), ("name", .keyword "string"), ("date", .reference "Date" [])]
    let attempts : List Attempt := [⟨"status", "Status", .text "enum"⟩,
      ⟨"dates", "Date", .text "table"⟩, ⟨"name", "Name", .text "table"⟩,
      ⟨"status", "State", .text "enum"⟩, ⟨"users", "Users", .text "view"⟩]
    let r := (⟨builtins, [], []⟩ : Registry).afterAll attempts
    (builtins.map (·.1)).Nodup ∧ r.ReadingsAgree ∧
      r.names = ["status", "name", "int4", "date"] ∧ r.listed (some .table) = ["name"] ∧
      r.size = 4 := by
  intro builtins attempts r
  have hdistinct : (builtins.map (·.1)).Nodup := by decide
  exact ⟨hdistinct, (readings_agree builtins [] attempts hdistinct).1, by decide, by decide,
    by decide⟩

end TableTypes.Registry
