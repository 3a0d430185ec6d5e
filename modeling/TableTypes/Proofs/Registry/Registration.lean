import Mathlib.Data.List.Basic
import TableTypes.Proofs.FirstFailure
import TableTypes.Registry.Builtin

/-! # Registrations in a row

A registry that is asked for several registrations accepts them up to the first one whose name
or identifier is taken. What it then holds is what it held before and the accepted requests in
their order, so every look-up afterwards can be answered from the requests alone.
-/

namespace TableTypes

/-- A request to register a schema name. -/
structure Registration where
  schemaName : String
  identifier : String
  kind : Kind
  deriving DecidableEq, Repr

/-- What an accepted request is kept as. -/
def Registration.entry (request : Registration) : Entry :=
  ⟨request.identifier, request.kind, .named request.identifier⟩

namespace Registry

/-- The registry with further requests accepted. -/
def extend (r : Registry) (requests : List Registration) : Registry :=
  { r with entries := r.entries ++ requests.map fun request => (request.schemaName, request.entry) }

/-- The name or the identifier of the request is taken. -/
def Refuses (r : Registry) (request : Registration) : Prop :=
  request.schemaName ∈ r.entries.map (·.1) ∨ (r.owner? request.identifier).isSome

/-- Ask for one registration after another, up to the first refusal. -/
def registerAll (r : Registry) (requests : List Registration) :
    Except DuplicateRegistration Registry :=
  requests.foldlM (fun r request => r.add request.schemaName request.identifier request.kind) r

/-- No request is refused by the registry with the requests before it. -/
def Accepts (r : Registry) (requests : List Registration) : Prop :=
  ¬ AnyWith (fun before => (r.extend before).Refuses) requests

@[simp] theorem extend_nil (r : Registry) : r.extend [] = r := by
  simp [extend]

@[simp] theorem extend_extend (r : Registry) (first second : List Registration) :
    (r.extend first).extend second = r.extend (first ++ second) := by
  simp [extend]

@[simp] theorem entries_extend (r : Registry) (requests : List Registration) :
    (r.extend requests).entries =
      r.entries ++ requests.map fun request => (request.schemaName, request.entry) := rfl

/-- A registry that starts empty holds what it accepted. -/
theorem entries_extend_of_empty {r : Registry} (hempty : r.entries = [])
    (requests : List Registration) :
    (r.extend requests).entries =
      requests.map fun request => (request.schemaName, request.entry) := by
  rw [entries_extend, hempty, List.nil_append]

theorem lookup_eq_none_iff_notMem {γ : Type} {entries : List (String × γ)} {name : String} :
    entries.lookup name = none ↔ name ∉ entries.map (·.1) := by
  rw [List.lookup_eq_none_iff]
  simp only [bne_iff_ne, ne_eq, List.mem_map, not_exists, not_and]
  constructor
  · intro h entry hmem heq
    exact h entry hmem heq.symm
  · intro h entry hmem heq
    exact h entry hmem heq.symm

/-- An identifier is free if nobody registered it, it is not kept for a helper type, and no
built-in type refers to it. -/
theorem owner?_eq_none_iff {r : Registry} {identifier : String} :
    r.owner? identifier = none ↔
      identifier ∉ r.entries.map (·.2.identifier) ∧ identifier ∉ r.reserved ∧
        ∀ builtin ∈ r.builtins, builtin.2.reserves? ≠ some identifier := by
  have hfind : (r.entries.find? fun entry => entry.2.identifier = identifier) = none ↔
      identifier ∉ r.entries.map (·.2.identifier) := by
    rw [List.find?_eq_none]
    simp
  rw [← hfind]
  unfold owner?
  cases r.entries.find? fun entry => entry.2.identifier = identifier with
  | some entry => simp
  | none =>
      by_cases hreserved : r.reserved.contains identifier
      · simp_all
      · by_cases hbuiltin : r.builtins.any fun builtin => builtin.2.reserves? = some identifier
        · simp_all
        · simp_all

/-- A request that is refused for neither reason is accepted as the last entry. -/
theorem add_eq_ok {r : Registry} {request : Registration} (hfree : ¬ r.Refuses request) :
    r.add request.schemaName request.identifier request.kind = .ok (r.extend [request]) := by
  obtain ⟨hname, hidentifier⟩ := not_or.mp hfree
  rw [add, lookup_eq_none_iff_notMem.mpr hname,
    Option.not_isSome_iff_eq_none.mp hidentifier]
  rfl

/-- A refused request is reported with its own name and identifier. -/
theorem add_eq_error {r : Registry} {request : Registration} (hrefused : r.Refuses request) :
    ∃ owner, r.add request.schemaName request.identifier request.kind =
      .error ⟨request.schemaName, request.identifier, owner⟩ := by
  unfold add
  cases hlookup : r.entries.lookup request.schemaName with
  | some entry => exact ⟨_, rfl⟩
  | none =>
      have hidentifier := hrefused.resolve_left (lookup_eq_none_iff_notMem.mp hlookup)
      obtain ⟨owner, howner⟩ := Option.isSome_iff_exists.mp hidentifier
      exact ⟨owner, by rw [howner]⟩

theorem registerAll_append (r : Registry) (first second : List Registration) :
    r.registerAll (first ++ second) =
      (r.registerAll first >>= fun r => r.registerAll second) :=
  List.foldlM_append

private theorem registerAll_cons (r : Registry) (request : Registration)
    (rest : List Registration) :
    r.registerAll (request :: rest) =
      (r.add request.schemaName request.identifier request.kind >>=
        fun r => r.registerAll rest) :=
  List.foldlM_cons

theorem accepts_cons {r : Registry} {request : Registration} {rest : List Registration} :
    r.Accepts (request :: rest) ↔ ¬ r.Refuses request ∧ (r.extend [request]).Accepts rest := by
  unfold Accepts
  rw [AnyWith.cons_iff, extend_nil, not_or]
  simp only [extend_extend, List.singleton_append]

/-- If no request is refused, all of them are kept. -/
theorem registerAll_eq_ok {r : Registry} {requests : List Registration}
    (haccepts : r.Accepts requests) : r.registerAll requests = .ok (r.extend requests) := by
  induction requests generalizing r with
  | nil => rw [extend_nil]; rfl
  | cons request rest ih =>
      obtain ⟨hhead, htail⟩ := accepts_cons.mp haccepts
      rw [registerAll_cons, add_eq_ok hhead]
      change (r.extend [request]).registerAll rest = _
      rw [ih htail, extend_extend, List.singleton_append]

/-- Otherwise the first refused request is reported. -/
theorem registerAll_eq_error {r : Registry} {requests : List Registration} {request : Registration}
    (hfirst : FirstWith (fun before => (r.extend before).Refuses) requests request) :
    ∃ owner, r.registerAll requests =
      .error ⟨request.schemaName, request.identifier, owner⟩ := by
  induction requests generalizing r with
  | nil => exact absurd hfirst (FirstWith.not_nil request)
  | cons head rest ih =>
      rw [registerAll_cons]
      rcases FirstWith.cons_iff.mp hfirst with ⟨rfl, hrefused⟩ | ⟨hhead, hrest⟩
      · rw [extend_nil] at hrefused
        obtain ⟨owner, hadd⟩ := add_eq_error hrefused
        exact ⟨owner, by rw [hadd]; rfl⟩
      · rw [extend_nil] at hhead
        rw [add_eq_ok hhead]
        apply ih
        simpa only [extend_extend, List.singleton_append] using hrest

theorem registerAll_eq_ok_iff {r result : Registry} {requests : List Registration} :
    r.registerAll requests = .ok result ↔ r.Accepts requests ∧ result = r.extend requests := by
  constructor
  · intro hok
    have haccepts : r.Accepts requests := by
      intro hany
      obtain ⟨request, hfirst⟩ := FirstWith.exists_iff.mpr hany
      obtain ⟨owner, herror⟩ := registerAll_eq_error hfirst
      rw [herror] at hok
      cases hok
    rw [registerAll_eq_ok haccepts] at hok
    exact ⟨haccepts, (Except.ok.inj hok).symm⟩
  · rintro ⟨haccepts, rfl⟩
    exact registerAll_eq_ok haccepts

end Registry

end TableTypes
