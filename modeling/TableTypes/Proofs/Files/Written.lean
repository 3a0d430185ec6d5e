import TableTypes.Files.Tree
import TableTypes.Proofs.FirstFailure

/-! # Written files

A text goes into one file, and the directories on the way to it are made where they are missing. No
directory is lost thereby, so paths lead to the places that they led to before, and the text is
read back where it was written.
-/

namespace TableTypes.Files

/-- The first names of a path. -/
def Path.upTo (path : Path) (count : Nat) : Path :=
  { path with names := path.names.take count }

theorem Path.upTo_length (path : Path) : path.upTo path.names.length = path := by
  rw [upTo, List.take_length]

theorem Path.upTo_parent (path : Path) (count : Nat) :
    path.parent.upTo count = path.upTo (min count (path.names.length - 1)) := by
  rw [upTo, parent, List.dropLast_eq_take, List.take_take, upTo]

namespace Tree

variable {tree tree' tree'' : Tree} {path : Path} {place : Place} {text : String}

section Put

variable {entry : Entry}

theorem find?_put_self (hplace : place ≠ []) :
    (tree.put place entry).find? place = some entry := by
  rw [find?, if_neg hplace, put, List.lookup_cons_self]

theorem find?_put_of_ne {other : Place} (hother : other ≠ place) :
    (tree.put place entry).find? other = tree.find? other := by
  have hlookup : ∀ entries : List (Place × Entry),
      (entries.filter fun e => e.1 ≠ place).lookup other = entries.lookup other := by
    intro entries
    induction entries with
    | nil => rfl
    | cons e rest ih =>
        obtain ⟨name, there⟩ := e
        by_cases hname : name = place
        · subst hname
          have hne : (other == name) = false := by simpa using hother
          rw [List.filter_cons_of_neg (by simp), ih, List.lookup_cons, hne]
        · rw [List.filter_cons_of_pos (by simpa using hname), List.lookup_cons, List.lookup_cons,
            ih]
  have hne : (other == place) = false := by simpa using hother
  rw [find?, find?, put, List.lookup_cons, hne, hlookup]

end Put

/-- Every directory of the first tree is one of the second. -/
structure Keeps (tree tree' : Tree) : Prop where
  working : tree'.working = tree.working
  directory : ∀ place, tree.find? place = some .directory → tree'.find? place = some .directory

theorem keeps_of_put (hplace : tree.find? place ≠ some .directory) (entry : Entry) :
    tree.Keeps (tree.put place entry) := by
  refine ⟨rfl, fun other hother => ?_⟩
  rw [find?_put_of_ne, hother]
  rintro rfl
  exact hplace hother

/-- Only directories are walked through, so what becomes of all else does not count. -/
theorem Keeps.walk (hkeeps : tree.Keeps tree') {names : List String} {here : Place}
    (hwalk : tree.walk here names = .ok place) : tree'.walk here names = .ok place := by
  induction names generalizing here with
  | nil => exact hwalk
  | cons name names ih =>
      rw [Tree.walk] at hwalk ⊢
      cases hhere : tree.find? here with
      | none => simp [hhere] at hwalk
      | some entry =>
          rw [hhere] at hwalk
          cases entry with
          | file text => simp at hwalk
          | directory =>
              rw [hkeeps.directory here hhere]
              dsimp only at hwalk ⊢
              split at hwalk
              · rename_i hup
                rw [if_pos hup]
                exact ih hwalk
              · rename_i hup
                rw [if_neg hup]
                split at hwalk
                · simp at hwalk
                · rename_i hshort
                  rw [if_neg hshort]
                  exact ih hwalk

theorem Keeps.locate (hkeeps : tree.Keeps tree') (hlocate : tree.locate path = .ok place) :
    tree'.locate path = .ok place := by
  rw [Tree.locate] at hlocate ⊢
  split at hlocate
  · simp at hlocate
  · rename_i hspelled
    rw [if_neg hspelled]
    split at hlocate
    · simp at hlocate
    · rename_i hshort
      rw [if_neg hshort, hkeeps.working]
      exact hkeeps.walk hlocate

/-- A directory was made at a free place to which the first names of a path lead. -/
def MadeAt (path : Path) (tree tree' : Tree) (place : Place) : Prop :=
  tree.find? place = none ∧ tree'.find? place = some .directory ∧
    ∃ count, tree'.locate (path.upTo count) = .ok place

/-- The trees differ by directories on the way of a path, which were made where nothing was. -/
structure Furnished (path : Path) (tree tree' : Tree) : Prop where
  working : tree'.working = tree.working
  place : ∀ place, tree'.find? place = tree.find? place ∨ MadeAt path tree tree' place

namespace Furnished

theorem refl (path : Path) (tree : Tree) : Furnished path tree tree :=
  ⟨rfl, fun _ => Or.inl rfl⟩

theorem keeps (hmade : Furnished path tree tree') : tree.Keeps tree' where
  working := hmade.working
  directory place hthere := by
    rcases hmade.place place with hsame | ⟨hfree, -, -⟩
    · rw [hsame, hthere]
    · rw [hfree] at hthere
      cases hthere

theorem trans (hfirst : Furnished path tree tree') (hsecond : Furnished path tree' tree'') :
    Furnished path tree tree'' where
  working := hsecond.working.trans hfirst.working
  place place := by
    rcases hsecond.place place with hsame | ⟨hfree, hthere, hway⟩
    · rcases hfirst.place place with hbefore | ⟨hfree, hthere, count, hlocate⟩
      · exact Or.inl (hsame.trans hbefore)
      · exact Or.inr ⟨hfree, hsame.trans hthere, count, hsecond.keeps.locate hlocate⟩
    · rcases hfirst.place place with hbefore | ⟨-, hmade, -⟩
      · exact Or.inr ⟨hbefore.symm.trans hfree, hthere, hway⟩
      · rw [hmade] at hfree
        cases hfree

theorem of_parent (hmade : Furnished path.parent tree tree') : Furnished path tree tree' where
  working := hmade.working
  place place := by
    rcases hmade.place place with hsame | ⟨hfree, hthere, count, hlocate⟩
    · exact Or.inl hsame
    · rw [Path.upTo_parent] at hlocate
      exact Or.inr ⟨hfree, hthere, _, hlocate⟩

end Furnished

theorem furnished_of_makeDirectory (hmake : tree.makeDirectory path = .ok tree') :
    Furnished path tree tree' := by
  unfold makeDirectory at hmake
  cases hlocate : tree.locate path with
  | error cause => simp [hlocate] at hmake
  | ok place =>
      rw [hlocate] at hmake
      dsimp only at hmake
      split at hmake
      · simp at hmake
      · rename_i hfree
        obtain rfl := Except.ok.inj hmake
        have hplace : place ≠ [] := by
          rintro rfl
          simp [find?] at hfree
        have hkeeps := keeps_of_put (by rw [hfree]; simp) .directory
        refine ⟨rfl, fun other => ?_⟩
        by_cases hother : other = place
        · subst hother
          refine Or.inr ⟨hfree, find?_put_self hplace, path.names.length, ?_⟩
          rw [Path.upTo_length]
          exact hkeeps.locate hlocate
        · exact Or.inl (find?_put_of_ne hother)

theorem furnished_of_ensureDirectory (hensure : tree.ensureDirectory path = .ok tree') :
    Furnished path tree tree' := by
  unfold ensureDirectory at hensure
  split at hensure
  · rename_i made hmake
    obtain rfl := Except.ok.inj hensure
    exact furnished_of_makeDirectory hmake
  · split at hensure
    · obtain rfl := Except.ok.inj hensure
      exact Furnished.refl path tree
    · simp at hensure

theorem furnished_of_ensureDirectories (hensure : tree.ensureDirectories path = .ok tree') :
    Furnished path tree tree' := by
  induction path using ensureDirectories.induct tree generalizing tree' with
  | case1 path made hthere =>
      rw [ensureDirectories, hthere] at hensure
      obtain rfl := Except.ok.inj hensure
      exact furnished_of_ensureDirectory hthere
  | case2 path cause hfailed hmissing above habove ih =>
      rw [ensureDirectories, hfailed] at hensure
      dsimp only at hensure
      rw [dif_pos hmissing, habove] at hensure
      have hlast := furnished_of_ensureDirectory (mapError_eq_ok_iff.mp hensure)
      exact (ih habove).of_parent.trans hlast
  | case3 path cause hfailed hmissing trouble habove ih =>
      rw [ensureDirectories, hfailed] at hensure
      dsimp only at hensure
      rw [dif_pos hmissing, habove] at hensure
      cases hensure
  | case4 path cause hfailed hother =>
      rw [ensureDirectories, hfailed] at hensure
      dsimp only at hensure
      rw [dif_neg hother] at hensure
      cases hensure

/-- A text was put into the file to which a path leads, over whatever the file held, and nothing
else was done but to make directories on the way to it. -/
structure Written (path : Path) (text : String) (tree tree' : Tree) : Prop where
  working : tree'.working = tree.working
  read : tree'.read path = .ok text
  place : ∃ place, tree'.locate path = .ok place ∧ tree.find? place ≠ some .directory ∧
    ∀ other, other ≠ place → tree'.find? other = tree.find? other ∨ MadeAt path tree tree' other

theorem written_of_write (hmade : Furnished path tree tree')
    (hwrite : tree'.write path text = .ok tree'') : Written path text tree tree'' := by
  unfold write at hwrite
  cases hlocate : tree'.locate path with
  | error cause => simp [hlocate] at hwrite
  | ok place =>
      rw [hlocate] at hwrite
      dsimp only at hwrite
      split at hwrite
      · simp at hwrite
      · rename_i hnone
        obtain rfl := Except.ok.inj hwrite
        have hfile : tree'.find? place ≠ some .directory := fun hthere => hnone hthere
        have hplace : place ≠ [] := by
          rintro rfl
          exact hfile rfl
        have hkeeps := keeps_of_put hfile (.file text)
        refine ⟨hmade.working, ?_, place, hkeeps.locate hlocate,
          fun hthere => hfile (hmade.keeps.directory place hthere), fun other hother => ?_⟩
        · rw [read, readCause, hkeeps.locate hlocate]
          dsimp only
          rw [find?_put_self hplace]
          rfl
        · unfold MadeAt
          rw [find?_put_of_ne hother]
          rcases hmade.place other with hsame | ⟨hfree, hthere, count, hway⟩
          · exact Or.inl hsame
          · exact Or.inr ⟨hfree, hthere, count, hkeeps.locate hway⟩

end Tree

end TableTypes.Files
