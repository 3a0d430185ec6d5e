import Mathlib.Data.List.Forall2
import Mathlib.Data.List.Perm.Basic

/-! # The first failure of a sequence

A run over a list stops at the first element that it cannot take, and whether it can take an
element may depend on the elements before it. `FirstWith` names that element without mentioning
a run, and the lemmas on `mapM` say that a run over a list reports exactly it.
-/

namespace TableTypes

variable {α β ε : Type}

/-- Some element has the property after the elements before it. -/
def AnyWith (P : List α → α → Prop) (l : List α) : Prop :=
  ∃ before a after, l = before ++ a :: after ∧ P before a

/-- `a` has the property after the elements before it, and no earlier element has. -/
def FirstWith (P : List α → α → Prop) (l : List α) (a : α) : Prop :=
  ∃ before after, l = before ++ a :: after ∧ P before a ∧
    ∀ earlier b between, before = earlier ++ b :: between → ¬ P earlier b

section AnyWith

variable {P : List α → α → Prop}

theorem AnyWith.not_nil : ¬ AnyWith P [] := by
  rintro ⟨before, a, after, hsplit, _⟩
  simp at hsplit

theorem AnyWith.cons_iff {x : α} {l : List α} :
    AnyWith P (x :: l) ↔ P [] x ∨ AnyWith (fun before => P (x :: before)) l := by
  constructor
  · rintro ⟨before, a, after, hsplit, hproperty⟩
    cases before with
    | nil =>
        obtain ⟨rfl, _⟩ := List.cons.inj hsplit
        exact Or.inl hproperty
    | cons head before =>
        obtain ⟨rfl, rfl⟩ := List.cons.inj hsplit
        exact Or.inr ⟨before, a, after, rfl, hproperty⟩
  · rintro (hproperty | ⟨before, a, after, rfl, hproperty⟩)
    · exact ⟨[], x, l, rfl, hproperty⟩
    · exact ⟨x :: before, a, after, rfl, hproperty⟩

/-- For a property that looks at no other element, being in the list is all that counts. -/
theorem AnyWith.const_iff {p : α → Prop} {l : List α} :
    AnyWith (fun _ => p) l ↔ ∃ a ∈ l, p a := by
  constructor
  · rintro ⟨before, a, after, rfl, hproperty⟩
    exact ⟨a, by simp, hproperty⟩
  · rintro ⟨a, hmem, hproperty⟩
    obtain ⟨before, after, hsplit⟩ := List.append_of_mem hmem
    exact ⟨before, a, after, hsplit, hproperty⟩

instance AnyWith.decidable : {P : List α → α → Prop} → [∀ before a, Decidable (P before a)] →
    (l : List α) → Decidable (AnyWith P l)
  | _, _, [] => isFalse AnyWith.not_nil
  | P, _, x :: l =>
    have := AnyWith.decidable (P := fun before => P (x :: before)) l
    decidable_of_iff' _ AnyWith.cons_iff

end AnyWith

namespace FirstWith

variable {P : List α → α → Prop}

theorem not_nil (a : α) : ¬ FirstWith P [] a := by
  rintro ⟨before, after, hsplit, _⟩
  simp at hsplit

/-- The first element with the property is the head, or the head lacks the property and the
first element is the one of the tail, where the head counts as an element before. -/
theorem cons_iff {x a : α} {l : List α} :
    FirstWith P (x :: l) a ↔
      (a = x ∧ P [] x) ∨ (¬ P [] x ∧ FirstWith (fun before => P (x :: before)) l a) := by
  constructor
  · rintro ⟨before, after, hsplit, hproperty, hearlier⟩
    cases before with
    | nil =>
        obtain ⟨rfl, rfl⟩ := List.cons.inj hsplit
        exact Or.inl ⟨rfl, hproperty⟩
    | cons head before =>
        obtain ⟨rfl, rfl⟩ := List.cons.inj hsplit
        refine Or.inr ⟨hearlier [] x before rfl, before, after, rfl, hproperty, ?_⟩
        intro earlier b between hbefore
        exact hearlier (x :: earlier) b between (by rw [hbefore]; rfl)
  · rintro (⟨rfl, hproperty⟩ | ⟨hhead, before, after, rfl, hproperty, hearlier⟩)
    · refine ⟨[], l, rfl, hproperty, ?_⟩
      intro earlier b between hnil
      simp at hnil
    · refine ⟨x :: before, after, rfl, hproperty, ?_⟩
      intro earlier b between hbefore
      cases earlier with
      | nil =>
          obtain ⟨rfl, _⟩ := List.cons.inj hbefore
          exact hhead
      | cons head earlier =>
          obtain ⟨rfl, rfl⟩ := List.cons.inj hbefore
          exact hearlier earlier b between rfl

/-- There is a first element with the property as soon as some element has it. -/
theorem exists_iff {l : List α} : (∃ a, FirstWith P l a) ↔ AnyWith P l := by
  induction l generalizing P with
  | nil =>
      refine ⟨?_, fun hany => absurd hany AnyWith.not_nil⟩
      rintro ⟨a, hfirst⟩
      exact absurd hfirst (not_nil a)
  | cons x l ih =>
      rw [AnyWith.cons_iff, ← ih]
      constructor
      · rintro ⟨a, hfirst⟩
        rcases cons_iff.mp hfirst with ⟨_, hhead⟩ | ⟨_, hfirst⟩
        · exact Or.inl hhead
        · exact Or.inr ⟨a, hfirst⟩
      · intro hany
        by_cases hhead : P [] x
        · exact ⟨x, cons_iff.mpr (Or.inl ⟨rfl, hhead⟩)⟩
        · obtain ⟨a, hfirst⟩ := hany.resolve_left hhead
          exact ⟨a, cons_iff.mpr (Or.inr ⟨hhead, hfirst⟩)⟩

theorem mem {l : List α} {a : α} (hfirst : FirstWith P l a) : a ∈ l := by
  obtain ⟨before, after, rfl, _⟩ := hfirst
  simp

theorem congr {Q : List α → α → Prop} {l : List α} {a : α}
    (heq : ∀ before b, P before b ↔ Q before b) : FirstWith P l a ↔ FirstWith Q l a := by
  rw [show P = Q from funext fun before => funext fun b => propext (heq before b)]

end FirstWith

section Pairs

variable {R : α → β → Prop} {l : List α} {results : List β}

theorem exists_of_mem_right (hpairs : List.Forall₂ R l results) {b : β} (hmem : b ∈ results) :
    ∃ a ∈ l, R a b := by
  induction hpairs with
  | nil => cases hmem
  | cons hhead _ ih =>
      rcases List.mem_cons.mp hmem with rfl | hmem
      · exact ⟨_, List.mem_cons_self, hhead⟩
      · obtain ⟨a, ha, hpair⟩ := ih hmem
        exact ⟨a, List.mem_cons_of_mem _ ha, hpair⟩

theorem exists_of_mem_left (hpairs : List.Forall₂ R l results) {a : α} (hmem : a ∈ l) :
    ∃ b ∈ results, R a b :=
  exists_of_mem_right hpairs.flip hmem

theorem exists_of_getElem? (hpairs : List.Forall₂ R l results) {position : Nat} {a : α}
    (hposition : l[position]? = some a) : ∃ b, results[position]? = some b ∧ R a b := by
  induction hpairs generalizing position with
  | nil => simp at hposition
  | cons hhead _ ih =>
      cases position with
      | zero =>
          obtain rfl := Option.some.inj hposition
          exact ⟨_, rfl, hhead⟩
      | succ position => exact ih hposition

/-- What every element leaves in its result can be read off the results. -/
theorem filterMap_eq_of_forall₂ {γ : Type} {g : β → Option γ} {f : α → γ}
    (hpairs : List.Forall₂ R l results) (hleft : ∀ a b, R a b → g b = some (f a)) :
    results.filterMap g = l.map f := by
  induction hpairs with
  | nil => rfl
  | cons hhead _ ih => rw [List.filterMap_cons_some (hleft _ _ hhead), ih, List.map_cons]

end Pairs

section MapM

variable {f : α → Except ε β}

theorem bind_eq_ok_iff {γ : Type} {x : Except ε α} {g : α → Except ε γ} {c : γ} :
    (x >>= g) = .ok c ↔ ∃ a, x = .ok a ∧ g a = .ok c := by
  cases x with
  | error e => simp [bind, Except.bind]
  | ok a => simp [bind, Except.bind]

theorem bind_eq_error_iff {γ : Type} {x : Except ε α} {g : α → Except ε γ} {e : ε} :
    (x >>= g) = .error e ↔ x = .error e ∨ ∃ a, x = .ok a ∧ g a = .error e := by
  cases x with
  | error e => simp [bind, Except.bind]
  | ok a => simp [bind, Except.bind]

theorem map_eq_ok_iff {g : α → β} {x : Except ε α} {b : β} :
    x.map g = .ok b ↔ ∃ a, x = .ok a ∧ g a = b := by
  cases x with
  | error e => simp [Except.map]
  | ok a => simp [Except.map]

theorem map_eq_error_iff {g : α → β} {x : Except ε α} {e : ε} :
    x.map g = .error e ↔ x = .error e := by
  cases x with
  | error e => simp [Except.map]
  | ok a => simp [Except.map]

theorem mapError_eq_ok_iff {ε' : Type} {x : Except ε α} {g : ε → ε'} {a : α} :
    x.mapError g = .ok a ↔ x = .ok a := by
  cases x <;> simp [Except.mapError]

theorem mapError_bind {ε' : Type} (x : Except ε α) (next : α → Except ε β) (g : ε → ε') :
    (x >>= next).mapError g = x.mapError g >>= fun a => (next a).mapError g := by
  cases x <;> rfl

theorem mapM_congr {g : α → Except ε β} {l : List α} (heq : ∀ a ∈ l, f a = g a) :
    l.mapM f = l.mapM g := by
  induction l with
  | nil => rfl
  | cons a l ih =>
      obtain ⟨hhead, htail⟩ := List.forall_mem_cons.mp heq
      rw [List.mapM_cons, List.mapM_cons, hhead, ih htail]

theorem mapM_eq_of_forall₂ {γ : Type} {g : γ → Except ε β} {l : List α} {l' : List γ}
    (hpairs : List.Forall₂ (fun a c => f a = g c) l l') : l.mapM f = l'.mapM g := by
  induction hpairs with
  | nil => rfl
  | cons hhead _ ih => rw [List.mapM_cons, List.mapM_cons, hhead, ih]

/-- A run over a list succeeds with the results of the single steps, in their order. -/
theorem mapM_eq_ok_iff {l : List α} {results : List β} :
    l.mapM f = .ok results ↔ List.Forall₂ (fun a b => f a = .ok b) l results := by
  induction l generalizing results with
  | nil =>
      rw [List.mapM_nil, List.forall₂_nil_left_iff]
      exact ⟨fun h => (Except.ok.inj h).symm, fun h => congrArg Except.ok h.symm⟩
  | cons a l ih =>
      rw [List.mapM_cons, bind_eq_ok_iff, List.forall₂_cons_left_iff]
      constructor
      · rintro ⟨b, hhead, htail⟩
        obtain ⟨rest, hrest, hresults⟩ := bind_eq_ok_iff.mp htail
        exact ⟨b, rest, hhead, ih.mp hrest, (Except.ok.inj hresults).symm⟩
      · rintro ⟨b, rest, hhead, hrest, rfl⟩
        exact ⟨b, hhead, bind_eq_ok_iff.mpr ⟨rest, ih.mpr hrest, rfl⟩⟩

/-- A run over a list in another order gives the same results in another order. -/
theorem mapM_eq_ok_of_perm {l l' : List α} {results : List β} (hperm : l'.Perm l)
    (hresults : l.mapM f = .ok results) :
    ∃ results', l'.mapM f = .ok results' ∧ results'.Perm results := by
  obtain ⟨results', hresults', hperm'⟩ :=
    List.perm_comp_forall₂ hperm (mapM_eq_ok_iff.mp hresults)
  exact ⟨results', mapM_eq_ok_iff.mpr hresults', hperm'⟩

theorem map_mapM {γ : Type} (f : α → Except ε β) (g : β → γ) (l : List α) :
    (l.mapM f).map (List.map g) = l.mapM fun a => (f a).map g := by
  induction l with
  | nil => rfl
  | cons a rest ih =>
      rw [List.mapM_cons, List.mapM_cons, ← ih]
      cases f a with
      | error e => rfl
      | ok b => cases rest.mapM f <;> rfl

/-- A run that takes in one result after another can as well be given all results at once. -/
theorem foldlM_eq_map_mapM {σ : Type} (take : σ → β → σ) (s : σ) (l : List α) :
    l.foldlM (fun s a => do return take s (← f a)) s = (l.mapM f).map (List.foldl take s) := by
  induction l generalizing s with
  | nil => rfl
  | cons a rest ih =>
      rw [List.foldlM_cons, List.mapM_cons]
      cases f a with
      | error e => rfl
      | ok b =>
          change rest.foldlM _ (take s b) = _
          rw [ih]
          cases rest.mapM f <;> rfl

/-- A run over a list fails with the failure of the first step that fails. -/
theorem mapM_eq_error_iff {l : List α} {e : ε} :
    l.mapM f = .error e ↔
      ∃ a, FirstWith (fun _ b => ∃ e, f b = .error e) l a ∧ f a = .error e := by
  induction l with
  | nil =>
      rw [List.mapM_nil]
      constructor
      · intro h
        cases h
      · rintro ⟨a, hfirst, _⟩
        exact absurd hfirst (FirstWith.not_nil a)
  | cons x l ih =>
      rw [List.mapM_cons, bind_eq_error_iff]
      constructor
      · rintro (hhead | ⟨b, hhead, htail⟩)
        · exact ⟨x, FirstWith.cons_iff.mpr (Or.inl ⟨rfl, e, hhead⟩), hhead⟩
        · rcases bind_eq_error_iff.mp htail with hrest | ⟨rest, _, hok⟩
          · obtain ⟨a, hfirst, hfails⟩ := ih.mp hrest
            refine ⟨a, FirstWith.cons_iff.mpr (Or.inr ⟨?_, hfirst⟩), hfails⟩
            rintro ⟨e', he'⟩
            rw [hhead] at he'
            cases he'
          · cases hok
      · rintro ⟨a, hfirst, hfails⟩
        rcases FirstWith.cons_iff.mp hfirst with ⟨rfl, _⟩ | ⟨hhead, hfirst⟩
        · exact Or.inl hfails
        · cases hx : f x with
          | error e' => exact absurd ⟨e', hx⟩ hhead
          | ok b =>
              refine Or.inr ⟨b, rfl, bind_eq_error_iff.mpr (Or.inl ?_)⟩
              exact ih.mpr ⟨a, hfirst, hfails⟩

/-- A run over two lists in a row gives the results of both. -/
theorem mapM_append_eq_ok_iff {first second : List α} {results : List β} :
    (first ++ second).mapM f = .ok results ↔
      ∃ left right, first.mapM f = .ok left ∧ second.mapM f = .ok right ∧
        results = left ++ right := by
  rw [List.mapM_append, bind_eq_ok_iff]
  constructor
  · rintro ⟨left, hfirst, hrest⟩
    obtain ⟨right, hsecond, hresults⟩ := bind_eq_ok_iff.mp hrest
    exact ⟨left, right, hfirst, hsecond, (Except.ok.inj hresults).symm⟩
  · rintro ⟨left, right, hfirst, hsecond, rfl⟩
    exact ⟨left, hfirst, bind_eq_ok_iff.mpr ⟨right, hsecond, rfl⟩⟩

/-- A run over two lists in a row fails in the first, or in the second if not in the first. -/
theorem mapM_append_eq_error_iff {first second : List α} {e : ε} :
    (first ++ second).mapM f = .error e ↔
      first.mapM f = .error e ∨
        (¬ ∃ e, first.mapM f = .error e) ∧ second.mapM f = .error e := by
  rw [List.mapM_append, bind_eq_error_iff]
  cases hfirst : first.mapM f with
  | error e' => simp
  | ok results =>
      cases hsecond : second.mapM f with
      | error e' => simp [bind, Except.bind]
      | ok results' => simp [bind, Except.bind, pure, Except.pure]

/-- A run over a list fails if and only if some step fails. -/
theorem exists_mapM_eq_error_iff {l : List α} :
    (∃ e, l.mapM f = .error e) ↔ ∃ a ∈ l, ∃ e, f a = .error e := by
  rw [← AnyWith.const_iff, ← FirstWith.exists_iff]
  constructor
  · rintro ⟨e, h⟩
    obtain ⟨a, hfirst, _⟩ := mapM_eq_error_iff.mp h
    exact ⟨a, hfirst⟩
  · rintro ⟨a, hfirst⟩
    obtain ⟨before, after, _, ⟨e, hfails⟩, _⟩ := id hfirst
    exact ⟨e, mapM_eq_error_iff.mpr ⟨a, hfirst, hfails⟩⟩

end MapM

end TableTypes
