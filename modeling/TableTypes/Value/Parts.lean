import TableTypes.Value.Basic

/-!
# Parts of a value

A field of a map and the items of a list, each with the proof that it is smaller than the whole,
so that a reader of nested values ends.
-/

namespace TableTypes.Value

/-- The entry with a text for its key, smaller than the entries it is found in. -/
def entryPart? (name : String) :
    (entries : List (Value × Value)) → Option { part : Value // sizeOf part < sizeOf entries }
  | [] => none
  | (key, v) :: rest =>
    if key.text? = some name then some ⟨v, by simp; omega⟩
    else (entryPart? name rest).map fun ⟨part, h⟩ => ⟨part, by simp; omega⟩

/-- What is smaller than the entries of a map is smaller than the map. -/
theorem sizeOf_lt_map {part : Value} {entries : List (Value × Value)}
    (h : sizeOf part < sizeOf entries) : sizeOf part < sizeOf (map entries) := by
  rw [map.sizeOf_spec]
  omega

/-- The field of a map by its name. -/
def part? (v : Value) (name : String) : Option { part : Value // sizeOf part < sizeOf v } :=
  match v with
  | map entries => (entryPart? name entries).map fun ⟨part, h⟩ => ⟨part, sizeOf_lt_map h⟩
  | _ => none

/-- The items of a list; any other value has none. -/
def parts (v : Value) : List { part : Value // sizeOf part < sizeOf v } :=
  match v with
  | list items => items.attach.map fun ⟨item, h⟩ =>
      ⟨item, by have := List.sizeOf_lt_of_mem h; simp; omega⟩
  | _ => []

end TableTypes.Value
