import Mathlib.Data.List.DropRight
import TableTypes.Proofs.Json.Decimals

/-! # JSON is read back

A value that JSON has is written on one line of plain characters, and is read back from it with
whatever may follow it. Of a number with a point no more is asked than that it is finite.
-/

namespace TableTypes.Json

open Text (Plain)

/-- A value that JSON has. -/
inductive IsJson : Value → Prop
  | null : IsJson .null
  | bool (b : Bool) : IsJson (.bool b)
  | int (n : Int) : IsJson (.int n)
  /-- There is no JSON for infinities and for what is no number. -/
  | float {x : Float} (hfinite : x.isFinite) : IsJson (.float x)
  | text (s : String) : IsJson (.text s)
  | list {items : List Value} (hitems : ∀ item ∈ items, IsJson item) : IsJson (.list items)
  | object {fields : List (String × Value)} (hnames : (fields.map (·.1)).Nodup)
      (hvalues : ∀ field ∈ fields, IsJson field.2) : IsJson (.ofFields fields)

/-- The value is read from what it is written as, and what follows is left. -/
def ReadsBack (v : Value) : Prop :=
  ∀ (fuel : Nat) (rest : List Char), Ends rest → (render v).toList.length ≤ fuel →
    readValue? (fuel + 1) ((render v).toList ++ rest) = some (v, rest)

section Space

theorem skipSpace_skipSpace (s : List Char) : skipSpace (skipSpace s) = skipSpace s :=
  List.dropWhile_idempotent _ s

/-- Space in front of a value does not count. -/
theorem readValue?_skipSpace (fuel : Nat) (s : List Char) :
    readValue? fuel (skipSpace s) = readValue? fuel s := by
  cases fuel with
  | zero => rfl
  | succ fuel => rw [readValue?, readValue?, skipSpace_skipSpace]

theorem readItems?_skipSpace (fuel : Nat) (s : List Char) :
    readItems? fuel (skipSpace s) = readItems? fuel s := by
  cases fuel with
  | zero => rfl
  | succ fuel => rw [readItems?, readItems?, readValue?_skipSpace]

theorem readFields?_skipSpace (fuel : Nat) (before : List (Value × Value)) (s : List Char) :
    readFields? fuel before (skipSpace s) = readFields? fuel before s := by
  cases fuel with
  | zero => rfl
  | succ fuel => rw [readFields?, readFields?, skipSpace_skipSpace]

theorem readValue?_space (fuel : Nat) (s : List Char) :
    readValue? fuel (' ' :: s) = readValue? fuel s := by
  rw [← readValue?_skipSpace fuel s, ← readValue?_skipSpace fuel (' ' :: s)]
  rfl

theorem readItems?_space (fuel : Nat) (s : List Char) :
    readItems? fuel (' ' :: s) = readItems? fuel s := by
  rw [← readItems?_skipSpace fuel s, ← readItems?_skipSpace fuel (' ' :: s)]
  rfl

theorem readFields?_space (fuel : Nat) (before : List (Value × Value)) (s : List Char) :
    readFields? fuel before (' ' :: s) = readFields? fuel before s := by
  rw [← readFields?_skipSpace fuel before s, ← readFields?_skipSpace fuel before (' ' :: s)]
  rfl

/-- A bracket that closes starts no value, so a list with an item is not taken for an empty one. -/
theorem readItems?_closed {s tail : List Char} (fuel : Nat) (hclosed : skipSpace s = ']' :: tail) :
    readItems? fuel s = none := by
  rw [← readItems?_skipSpace, hclosed]
  match fuel with
  | 0 => rfl
  | 1 => rfl
  | _ + 2 => rfl

theorem readFields?_closed {s tail : List Char} (fuel : Nat) (before : List (Value × Value))
    (hclosed : skipSpace s = '\x7d' :: tail) : readFields? fuel before s = none := by
  rw [← readFields?_skipSpace, hclosed]
  match fuel with
  | 0 => rfl
  | _ + 1 => rfl

theorem readValue?_bracket (fuel : Nat) (s : List Char) :
    readValue? (fuel + 1) ('[' :: s) = match skipSpace s with
      | ']' :: rest => some (.list [], rest)
      | rest => (readItems? fuel rest).map fun (items, rest) => (.list items, rest) := by
  rfl

theorem readValue?_brace (fuel : Nat) (s : List Char) :
    readValue? (fuel + 1) ('\x7b' :: s) = match skipSpace s with
      | '\x7d' :: rest => some (.map [], rest)
      | rest => (readFields? fuel [] rest).map fun (fields, rest) => (.map fields, rest) := by
  rfl

theorem readValue?_list {fuel : Nat} {s rest : List Char} {items : List Value}
    (hitems : readItems? fuel s = some (items, rest)) :
    readValue? (fuel + 1) ('[' :: s) = some (.list items, rest) := by
  rw [readValue?_bracket]
  split
  · rename_i hclosed
    rw [readItems?_closed fuel hclosed] at hitems
    cases hitems
  · rw [readItems?_skipSpace, hitems, Option.map_some]

theorem readValue?_object {fuel : Nat} {s rest : List Char} {fields : List (Value × Value)}
    (hfields : readFields? fuel [] s = some (fields, rest)) :
    readValue? (fuel + 1) ('\x7b' :: s) = some (.map fields, rest) := by
  rw [readValue?_brace]
  split
  · rename_i hclosed
    rw [readFields?_closed fuel [] hclosed] at hfields
    cases hfields
  · rw [readFields?_skipSpace, hfields, Option.map_some]

end Space

section Simple

variable {s rest : List Char} {v : Value}

/-- What starts as a number does is read as one. -/
theorem readValue?_number (fuel : Nat) (hread : readNumber? s = some (v, rest)) :
    readValue? (fuel + 1) s = some (v, rest) := by
  obtain ⟨-, c, tail, rfl, hstart⟩ := plainUpTo_of_readNumber? hread
  rw [← hread]
  rcases hstart with rfl | hdigit
  · rfl
  · have hrange := Text.toNat_of_isDigit hdigit
    have hcases : c.isDigit → c ∈ ['0', '1', '2', '3', '4', '5', '6', '7', '8', '9'] :=
      Text.ascii_forall (P := fun c => c.isDigit →
        c ∈ ['0', '1', '2', '3', '4', '5', '6', '7', '8', '9']) (by decide +kernel) c (by omega)
    have hc := hcases hdigit
    simp only [List.mem_cons, List.not_mem_nil, or_false] at hc
    rcases hc with rfl | rfl | rfl | rfl | rfl | rfl | rfl | rfl | rfl | rfl <;> rfl

theorem readsBack_number (hread : readNumber? (render v).toList = some (v, [])) :
    ReadsBack v := by
  intro fuel rest hends _
  refine readValue?_number fuel ?_
  rw [readNumber?_append hends, hread]
  rfl

theorem readText?_quote (s : String) (rest : List Char) :
    readText? ((Text.quote s).toList ++ rest) = some (s, rest) := by
  have hwritten : (Text.quote s).toList ++ rest =
      '"' :: (s.toList.flatMap Text.escapeChar ++ '"' :: rest) := by
    simp [Text.toList_quote]
  have hfuel : s.toList.length ≤ (s.toList.flatMap Text.escapeChar ++ '"' :: rest).length := by
    have hle := Text.length_le_escaped s.toList
    rw [List.length_append]
    omega
  rw [hwritten, readText?, Text.readChars?_escaped hfuel, Option.map_some]
  dsimp only
  rw [String.ofList_toList]

theorem readsBack_text (s : String) : ReadsBack (.text s) := by
  intro fuel rest _ _
  have hread := readText?_quote s rest
  rw [render]
  rw [Text.toList_quote, List.cons_append] at hread ⊢
  change (readText? ('"' :: (_ ++ rest))).map _ = _
  rw [hread]
  rfl

end Simple

section Lists

/-- The items of a list are read back up to its bracket. -/
theorem readItems?_render {items : List Value} (hne : items ≠ [])
    (hitems : ∀ item ∈ items, ReadsBack item) {fuel : Nat}
    (hfuel : (", ".intercalate (renderItems items)).toList.length < fuel) (rest : List Char) :
    readItems? (fuel + 1) ((", ".intercalate (renderItems items)).toList ++ ']' :: rest) =
      some (items, rest) := by
  induction items generalizing fuel with
  | nil => exact absurd rfl hne
  | cons item more ih =>
      obtain ⟨fuel, rfl⟩ := Nat.exists_eq_add_one.mpr (Nat.zero_lt_of_lt hfuel)
      obtain ⟨hitem, hmore⟩ := List.forall_mem_cons.mp hitems
      cases more with
      | nil =>
          rw [renderItems, renderItems, String.intercalate_singleton] at hfuel ⊢
          rw [readItems?, hitem fuel _ (ends_cons.mpr (Or.inr (Or.inl rfl))) (by omega)]
          rfl
      | cons second others =>
          have hwritten : (", ".intercalate (renderItems (item :: second :: others))).toList =
              (render item).toList ++ ',' :: ' ' ::
                (", ".intercalate (renderItems (second :: others))).toList := by
            rw [renderItems, renderItems, String.intercalate_cons_cons, ← renderItems]
            simp
          rw [hwritten] at hfuel ⊢
          simp only [List.length_append, List.length_cons] at hfuel
          rw [List.append_assoc, List.cons_append, List.cons_append, readItems?,
            hitem fuel _ (ends_cons.mpr (Or.inl rfl)) (by omega)]
          change (readItems? (fuel + 1) (' ' :: (_ ++ _))).map _ = _
          rw [readItems?_space, ih (by simp) hmore (by omega)]
          rfl

theorem readsBack_list {items : List Value} (hitems : ∀ item ∈ items, ReadsBack item) :
    ReadsBack (.list items) := by
  intro fuel rest _ hfuel
  by_cases hempty : items = []
  · subst hempty
    rfl
  have hwritten : (render (.list items)).toList =
      '[' :: ((", ".intercalate (renderItems items)).toList ++ [']']) := by
    simp [render]
  rw [hwritten] at hfuel ⊢
  simp only [List.length_append, List.length_cons, List.length_nil] at hfuel
  obtain ⟨fuel, rfl⟩ : ∃ less, fuel = less + 1 := Nat.exists_eq_add_one.mpr (by omega)
  rw [List.cons_append, List.append_assoc]
  exact readValue?_list (readItems?_render hempty hitems (by omega) rest)

end Lists

section Objects

/-- The entries of an object. -/
def entries (fields : List (String × Value)) : List (Value × Value) :=
  fields.map fun (name, v) => (.text name, v)

/-- A new name is entered behind the others. -/
theorem put_entries {before : List (String × Value)} {name : String}
    (hnew : name ∉ before.map (·.1)) (v : Value) :
    Value.put (.text name) v (entries before) = entries (before ++ [(name, v)]) := by
  induction before with
  | nil => rfl
  | cons field before ih =>
      obtain ⟨first, w⟩ := field
      obtain ⟨hfirst, hnew⟩ := not_or.mp (List.mem_cons.not.mp hnew)
      have hother : (Value.text first).sameKey (.text name) = false := by
        rw [Value.sameKey]
        exact decide_eq_false (Ne.symm hfirst)
      change Value.put (.text name) v ((.text first, w) :: entries before) =
        (.text first, w) :: entries (before ++ [(name, v)])
      rw [Value.put, hother, ih hnew]
      rfl

theorem readText?_row (name : String) (s : List Char) :
    readText? (skipSpace ((Text.quote name).toList ++ s)) = some (name, s) := by
  have hstart : skipSpace ((Text.quote name).toList ++ s) = (Text.quote name).toList ++ s := by
    rw [Text.toList_quote]
    rfl
  rw [hstart, readText?_quote]

section Field

variable {v : Value} {fuel : Nat} {before : List (String × Value)} {name : String}

/-- A field in front of a comma is read, and then the fields behind the comma. -/
theorem readFields?_comma (hv : ReadsBack v) (hfuel : (render v).toList.length ≤ fuel)
    (hnew : name ∉ before.map (·.1)) (more : List Char) :
    readFields? (fuel + 2) (entries before)
        ((Text.quote name).toList ++ ':' :: ' ' :: ((render v).toList ++ ',' :: more)) =
      readFields? (fuel + 1) (entries (before ++ [(name, v)])) more := by
  have hcolon : skipSpace (':' :: ' ' :: ((render v).toList ++ ',' :: more)) =
      ':' :: ' ' :: ((render v).toList ++ ',' :: more) := rfl
  have hcomma : skipSpace (',' :: more) = ',' :: more := rfl
  rw [readFields?]
  simp only [readText?_row, hcolon, readValue?_space, hv fuel _ (ends_cons.mpr (Or.inl rfl)) hfuel,
    hcomma, put_entries hnew]

/-- The last field is read, and the closing bracket. -/
theorem readFields?_brace (hv : ReadsBack v) (hfuel : (render v).toList.length ≤ fuel)
    (hnew : name ∉ before.map (·.1)) (rest : List Char) :
    readFields? (fuel + 2) (entries before)
        ((Text.quote name).toList ++ ':' :: ' ' :: ((render v).toList ++ '\x7d' :: rest)) =
      some (entries (before ++ [(name, v)]), rest) := by
  have hcolon : skipSpace (':' :: ' ' :: ((render v).toList ++ '\x7d' :: rest)) =
      ':' :: ' ' :: ((render v).toList ++ '\x7d' :: rest) := rfl
  have hbrace : skipSpace ('\x7d' :: rest) = '\x7d' :: rest := rfl
  rw [readFields?]
  simp only [readText?_row, hcolon, readValue?_space,
    hv fuel _ (ends_cons.mpr (Or.inr (Or.inr rfl))) hfuel, hbrace, put_entries hnew]

end Field

theorem renderEntries_cons (name : String) (v : Value) (fields : List (String × Value)) :
    renderEntries (entries ((name, v) :: fields)) =
      (Text.quote name ++ ": " ++ render v) :: renderEntries (entries fields) := by
  rfl

theorem toList_row (name : String) (v : Value) : (Text.quote name ++ ": " ++ render v).toList =
    (Text.quote name).toList ++ ':' :: ' ' :: (render v).toList := by
  simp

/-- The fields of an object are read back up to its bracket. -/
theorem readFields?_render {fields : List (String × Value)} (before : List (String × Value))
    (hne : fields ≠ [])
    (hnames : ((before ++ fields).map (·.1)).Nodup) (hvalues : ∀ field ∈ fields, ReadsBack field.2)
    {fuel : Nat}
    (hfuel : (", ".intercalate (renderEntries (entries fields))).toList.length < fuel)
    (rest : List Char) :
    readFields? (fuel + 1) (entries before)
        ((", ".intercalate (renderEntries (entries fields))).toList ++ '\x7d' :: rest) =
      some (entries (before ++ fields), rest) := by
  induction fields generalizing before fuel with
  | nil => exact absurd rfl hne
  | cons field more ih =>
      obtain ⟨name, v⟩ := field
      obtain ⟨fuel, rfl⟩ := Nat.exists_eq_add_one.mpr (Nat.zero_lt_of_lt hfuel)
      obtain ⟨(hv : ReadsBack v), hmore⟩ := List.forall_mem_cons.mp hvalues
      have hnew : name ∉ before.map (·.1) := by
        intro hmem
        rw [List.map_append, List.map_cons, List.nodup_append] at hnames
        exact hnames.2.2 name hmem name List.mem_cons_self rfl
      cases more with
      | nil =>
          have hwritten : (", ".intercalate (renderEntries (entries [(name, v)]))).toList =
              (Text.quote name).toList ++ ':' :: ' ' :: (render v).toList := by
            rw [renderEntries_cons, ← toList_row]
            exact congrArg String.toList String.intercalate_singleton
          rw [hwritten] at hfuel ⊢
          simp only [List.length_append, List.length_cons] at hfuel
          simp only [List.append_assoc, List.cons_append]
          exact readFields?_brace hv (by omega) hnew rest
      | cons second others =>
          have hwritten :
              (", ".intercalate (renderEntries (entries ((name, v) :: second :: others)))).toList =
                (Text.quote name).toList ++ ':' :: ' ' :: ((render v).toList ++ ',' :: ' ' ::
                  (", ".intercalate (renderEntries (entries (second :: others)))).toList) := by
            rw [renderEntries_cons, renderEntries_cons, String.intercalate_cons_cons,
              ← renderEntries_cons, String.toList_append, String.toList_append, toList_row]
            simp
          rw [hwritten] at hfuel ⊢
          simp only [List.length_append, List.length_cons] at hfuel
          simp only [List.append_assoc, List.cons_append]
          rw [readFields?_comma hv (by omega) hnew, readFields?_space,
            ih _ (by simp) (by simpa using hnames) hmore (by omega)]
          simp

theorem readsBack_object {fields : List (String × Value)} (hnames : (fields.map (·.1)).Nodup)
    (hvalues : ∀ field ∈ fields, ReadsBack field.2) : ReadsBack (.ofFields fields) := by
  intro fuel rest _ hfuel
  by_cases hempty : fields = []
  · subst hempty
    rfl
  have hwritten : (render (.ofFields fields)).toList =
      '\x7b' :: ((", ".intercalate (renderEntries (entries fields))).toList ++ ['\x7d']) := by
    simp [Value.ofFields, render, entries]
  rw [hwritten] at hfuel ⊢
  simp only [List.length_append, List.length_cons, List.length_nil] at hfuel
  obtain ⟨fuel, rfl⟩ : ∃ less, fuel = less + 1 := Nat.exists_eq_add_one.mpr (by omega)
  rw [List.cons_append, List.append_assoc]
  -- Nothing has been read before the first field.
  exact readValue?_object (readFields?_render [] hempty hnames hvalues (by omega) rest)

end Objects

theorem IsJson.exists_fields {entries : List (Value × Value)} (hmap : IsJson (.map entries)) :
    ∃ fields, entries = Json.entries fields ∧ ∀ field ∈ fields, IsJson field.2 := by
  generalize hv : Value.map entries = v at hmap
  cases hmap with
  | object _ hvalues => exact ⟨_, Value.map.inj hv, hvalues⟩
  | _ => cases hv

section Values

variable {v : Value}

theorem IsJson.readsBack (hv : IsJson v) : ReadsBack v := by
  induction hv with
  | null => exact fun _ _ _ _ => rfl
  | bool b => cases b <;> exact fun _ _ _ _ => rfl
  | int n => exact readsBack_number (readNumber?_int n)
  | float hfinite => exact readsBack_number (readNumber?_float hfinite)
  | text s => exact readsBack_text s
  | list _ ih => exact readsBack_list ih
  | object hnames _ ih => exact readsBack_object hnames ih

/-- A value that JSON has is the one that its text denotes. -/
theorem read?_render (hv : IsJson v) : read? (render v) = some v := by
  have hread := hv.readsBack (render v).toList.length [] ends_nil (Nat.le_refl _)
  rw [List.append_nil] at hread
  rw [read?, hread]
  rfl

theorem plain_of_number (hread : readNumber? (render v).toList = some (v, [])) :
    Plain (render v) :=
  fun c hc => ((plainUpTo_of_readNumber? hread).1 c hc).resolve_right List.not_mem_nil

theorem renderItems_eq_map (items : List Value) : renderItems items = items.map render := by
  induction items with
  | nil => rfl
  | cons item more ih => rw [renderItems, ih, List.map_cons]

theorem renderEntries_eq_map (fields : List (String × Value)) :
    renderEntries (entries fields) =
      fields.map fun field => Text.quote field.1 ++ ": " ++ render field.2 := by
  induction fields with
  | nil => rfl
  | cons field more ih => rw [renderEntries_cons, ih, List.map_cons]

theorem plain_list {items : List Value} (hitems : ∀ item ∈ items, Plain (render item)) :
    Plain (render (.list items)) := by
  have hrows : Plain (", ".intercalate (renderItems items)) := by
    rw [renderItems_eq_map]
    exact Plain.intercalate (by decide) (List.forall_mem_map.mpr hitems)
  rw [render]
  exact Text.plain_append.mpr ⟨Text.plain_append.mpr ⟨by decide, hrows⟩, by decide⟩

theorem plain_object {fields : List (String × Value)}
    (hvalues : ∀ field ∈ fields, Plain (render field.2)) : Plain (render (.ofFields fields)) := by
  have hrows : Plain (", ".intercalate (renderEntries (entries fields))) := by
    rw [renderEntries_eq_map]
    refine Plain.intercalate (by decide) (List.forall_mem_map.mpr fun field hfield => ?_)
    exact Text.plain_append.mpr
      ⟨Text.plain_append.mpr ⟨Text.plain_quote _, by decide⟩, hvalues field hfield⟩
  rw [Value.ofFields, render]
  exact Text.plain_append.mpr ⟨Text.plain_append.mpr ⟨by decide, hrows⟩, by decide⟩

theorem IsJson.plain_render (hv : IsJson v) : Plain (render v) := by
  induction hv with
  | null => decide
  | bool b => cases b <;> decide
  | int n => exact plain_of_number (readNumber?_int n)
  | float hfinite => exact plain_of_number (readNumber?_float hfinite)
  | text s => exact Text.plain_quote s
  | list _ ih => exact plain_list ih
  | object _ _ ih => exact plain_object ih

end Values

end TableTypes.Json
