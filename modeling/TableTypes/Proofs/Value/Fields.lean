import TableTypes.Value.Basic

/-! # Named fields

The entries of a map with texts for keys are its fields. A field that is set takes the place of
the one with its name, so names stay distinct.
-/

namespace TableTypes

namespace Value

variable {entries : List (Value × Value)} {name : String} {v : Value}

theorem textEntries_map (fields : List (String × Value)) :
    textEntries (fields.map fun (key, v) => (text key, v)) = fields := by
  induction fields with
  | nil => rfl
  | cons field rest ih => exact congrArg (field :: ·) ih

theorem mem_textEntries_iff :
    (name, v) ∈ textEntries entries ↔ (.text name, v) ∈ entries := by
  induction entries with
  | nil => simp [textEntries]
  | cons entry rest ih =>
      obtain ⟨key, w⟩ := entry
      cases key <;> simp [textEntries, ih]

theorem nodup_textEntries (hkeys : (entries.map (·.1)).Nodup) :
    ((textEntries entries).map (·.1)).Nodup := by
  induction entries with
  | nil => exact List.nodup_nil
  | cons entry rest ih =>
      obtain ⟨key, w⟩ := entry
      obtain ⟨hkey, hrest⟩ := List.nodup_cons.mp hkeys
      cases key with
      | text name =>
          refine List.nodup_cons.mpr ⟨fun hname => hkey ?_, ih hrest⟩
          obtain ⟨⟨_, u⟩, hmem, rfl⟩ := List.mem_map.mp hname
          exact List.mem_map_of_mem (f := (·.1)) (mem_textEntries_iff.mp hmem)
      | _ => exact ih hrest

end Value

theorem lookup_map_values {α β : Type} (f : α → β) (fields : List (String × α)) (name : String) :
    (fields.map fun field => (field.1, f field.2)).lookup name = (fields.lookup name).map f := by
  induction fields with
  | nil => rfl
  | cons field rest ih =>
      rw [List.map_cons, List.lookup_cons, List.lookup_cons, ih]
      cases name == field.1 <;> rfl

section SetField

variable {α : Type} {fields further : List (String × α)} {name other : String} {v : α}

theorem mem_names_setField :
    other ∈ (setField name v fields).map (·.1) ↔ other = name ∨ other ∈ fields.map (·.1) := by
  induction fields with
  | nil => simp [setField]
  | cons field rest ih =>
      obtain ⟨key, old⟩ := field
      rw [setField]
      split
      · rename_i hkey
        subst hkey
        simp
      · rw [List.map_cons, List.map_cons, List.mem_cons, List.mem_cons, ih]
        exact or_left_comm

theorem nodup_setField (hnames : (fields.map (·.1)).Nodup) (name : String) (v : α) :
    ((setField name v fields).map (·.1)).Nodup := by
  induction fields with
  | nil => simp [setField]
  | cons field rest ih =>
      obtain ⟨key, old⟩ := field
      rw [setField]
      split
      · exact hnames
      · rename_i hkey
        obtain ⟨hnew, hrest⟩ := List.nodup_cons.mp hnames
        refine List.nodup_cons.mpr ⟨fun hmem => ?_, ih hrest⟩
        rcases mem_names_setField.mp hmem with heq | hmem
        · exact hkey heq
        · exact hnew hmem

theorem forall_setField {P : α → Prop} (hfields : ∀ field ∈ fields, P field.2) (name : String)
    (hv : P v) : ∀ field ∈ setField name v fields, P field.2 := by
  induction fields with
  | nil => exact List.forall_mem_singleton.mpr hv
  | cons field rest ih =>
      obtain ⟨key, old⟩ := field
      obtain ⟨hfield, hrest⟩ := List.forall_mem_cons.mp hfields
      rw [setField]
      split
      · exact List.forall_mem_cons.mpr ⟨hv, hrest⟩
      · exact List.forall_mem_cons.mpr ⟨hfield, ih hrest⟩

theorem lookup_setField (name : String) (v : α) (fields : List (String × α)) (key : String) :
    (setField name v fields).lookup key = if key = name then some v else fields.lookup key := by
  induction fields with
  | nil =>
      by_cases hkey : key = name
      · simp [setField, hkey]
      · simp [setField, hkey, List.lookup_cons, beq_eq_false_iff_ne.mpr hkey]
  | cons field rest ih =>
      obtain ⟨other, old⟩ := field
      rw [setField]
      by_cases hkey : key = other
      · subst hkey
        by_cases hname : key = name <;> simp [hname]
      · have hne : (key == other) = false := beq_eq_false_iff_ne.mpr hkey
        by_cases hother : other = name
        · subst hother
          simp [hkey, List.lookup_cons, hne]
        · simp [hother, List.lookup_cons, hne, ih]

/-- Fields are laid over others one after another. -/
theorem nodup_overlay (hnames : (fields.map (·.1)).Nodup) (further : List (String × α)) :
    ((further.foldl (fun fields field => setField field.1 field.2 fields) fields).map
      (·.1)).Nodup := by
  induction further generalizing fields with
  | nil => exact hnames
  | cons field rest ih => exact ih (nodup_setField hnames field.1 field.2)

/-- A field that is laid over others comes before them. -/
theorem lookup_overlay (hfurther : (further.map (·.1)).Nodup) (key : String) :
    (further.foldl (fun fields field => setField field.1 field.2 fields) fields).lookup key =
      (further.lookup key).or (fields.lookup key) := by
  induction further generalizing fields with
  | nil => rfl
  | cons field rest ih =>
      obtain ⟨name, v⟩ := field
      obtain ⟨hname, hrest⟩ := List.nodup_cons.mp hfurther
      rw [List.foldl_cons, ih hrest, lookup_setField, List.lookup_cons]
      by_cases hkey : key = name
      · subst hkey
        have hnone : rest.lookup key = none := by
          rw [List.lookup_eq_none_iff]
          intro field hfield
          refine bne_iff_ne.mpr fun heq => hname ?_
          rw [heq]
          exact List.mem_map_of_mem (f := (·.1)) hfield
        simp [hnone]
      · simp [hkey, beq_eq_false_iff_ne.mpr hkey]

theorem forall_overlay {P : α → Prop} (hfields : ∀ field ∈ fields, P field.2)
    (hfurther : ∀ field ∈ further, P field.2) :
    ∀ field ∈ further.foldl (fun fields field => setField field.1 field.2 fields) fields,
      P field.2 := by
  induction further generalizing fields with
  | nil => exact hfields
  | cons field rest ih =>
      obtain ⟨hfield, hrest⟩ := List.forall_mem_cons.mp hfurther
      exact ih (forall_setField hfields field.1 hfield) hrest

end SetField

end TableTypes
