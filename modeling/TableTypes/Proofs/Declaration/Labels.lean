import TableTypes.Declaration.EnumType
import TableTypes.Json.Read
import TableTypes.Proofs.Declaration.Tags
import TableTypes.Proofs.Syntax.Lexemes
import TableTypes.Proofs.Text.Lines

/-! # Labels of an enum

A printed enum is a header, one line for each label, and a closing brace. The line of a label shows
it twice: as the name of a member, which other labels may share, and as a literal, which is quoted
and denotes the label itself. The name has no blank in it, so the literal can be told from the line
and the labels from the text.
-/

namespace TableTypes

namespace Json

/-- A quoted text is a JSON value, and denotes what was quoted. -/
theorem read?_quote (s : String) : read? (Text.quote s) = some (.text s) := by
  let written := s.toList.flatMap Text.escapeChar ++ ['"']
  have htoList : (Text.quote s).toList = '"' :: written := by
    simp [Text.quote, Text.quoteChars, written]
  have hread : readText? ('"' :: written) = some (s, []) := by
    have hfuel : s.toList.length ≤ written.length := by
      have hle := Text.length_le_escaped s.toList
      rw [List.length_append]
      omega
    rw [readText?, Text.readChars?_escaped hfuel]
    simp
  have hvalue : readValue? ((Text.quote s).toList.length + 1) (Text.quote s).toList =
      some (.text s, []) := by
    rw [htoList, readValue?]
    simp [skipSpace, hread]
  rw [read?]
  simp [hvalue, skipSpace]

end Json

namespace Syntax

/-- The rows of a list, with a comma behind each but the last. -/
def listed : List String → List String
  | [] => []
  | [row] => [row]
  | row :: second :: rest => (row ++ ",") :: listed (second :: rest)

theorem length_listed (rows : List String) : (listed rows).length = rows.length := by
  fun_induction listed rows with
  | case1 | case2 => rfl
  | case3 row second rest ih => simp [ih]

theorem getElem?_listed {rows : List String} {i : Nat} {row : String} (hrow : rows[i]? = some row) :
    (listed rows)[i]? = some (row ++ if i + 1 < rows.length then "," else "") := by
  fun_induction listed rows generalizing i with
  | case1 => simp at hrow
  | case2 only =>
      obtain ⟨rfl, rfl⟩ : i = 0 ∧ only = row := by
        cases i with
        | zero => simpa using hrow
        | succ i => simp at hrow
      simp
  | case3 head second rest ih =>
      cases i with
      | zero =>
          obtain rfl : head = row := by simpa using hrow
          simp
      | succ i =>
          have hrest := ih (i := i) (by simpa using hrow)
          simpa using hrest

theorem intercalate_listed {rows : List String} (hrows : rows ≠ []) :
    ",\n".intercalate rows = "\n".intercalate (listed rows) := by
  fun_induction listed rows with
  | case1 => exact absurd rfl hrows
  | case2 row => simp
  | case3 row second rest ih =>
      have hne : listed (second :: rest) ≠ [] := by
        rw [← List.length_pos_iff, length_listed]
        simp
      have hbreak : ",\n" = "," ++ "\n" := rfl
      rw [String.intercalate_cons_cons, String.intercalate_cons_of_ne_nil hne, ih (by simp),
        hbreak]
      simp only [String.append_assoc]

theorem break_notMem_listed {rows : List String} (hrows : ∀ row ∈ rows, '\n' ∉ row.toList) :
    ∀ row ∈ listed rows, '\n' ∉ row.toList := by
  fun_induction listed rows with
  | case1 => simp
  | case2 row => exact hrows
  | case3 row second rest ih =>
      obtain ⟨hrow, hrest⟩ := List.forall_mem_cons.mp hrows
      refine List.forall_mem_cons.mpr ⟨?_, ih hrest⟩
      simpa using hrow

/-- What text becomes declarable is printed as it is. -/
theorem isIdentifier_toIdentifier (text : String) : isIdentifier (Casing.toIdentifier text) := by
  refine isIdentifier_iff.mpr ⟨_, [], ?_, Casing.declarable_toIdentifier text, Or.inl rfl⟩
  rw [List.append_nil]

end Syntax

namespace Declaration

open Syntax (listed)

/-- The line with which the enum starts. -/
def enumHeader (scope : Scope) (type : EnumType) : String :=
  "export enum " ++ declaredName scope.names type.name ++ " \x7b"

/-- What stands before the literal in the line of a label. -/
def labelOpening (scope : Scope) (label : String) : String :=
  ({} : Syntax.Layout).indent ++ Casing.toIdentifier (scope.names.enumMembers.apply label) ++ " = "

/-- The lines of the labels, but for the commas. -/
def labelRows (scope : Scope) (type : EnumType) : List String :=
  type.values.map fun label => labelOpening scope label ++ Text.quote label

section Rows

variable {scope scope' : Scope} {type type' : EnumType}

theorem print_enumMember (scope : Scope) (label : String) :
    Syntax.printEnumMember ({} : Syntax.Layout).indent (enumMember scope label) =
      labelOpening scope label ++ Text.quote label := by
  have hname := Syntax.isIdentifier_toIdentifier (scope.names.enumMembers.apply label)
  simp [Syntax.printEnumMember, enumMember, labelOpening, Syntax.propertyName, hname,
    Syntax.indentation, String.append_assoc]

theorem print_enumType (scope : Scope) (type : EnumType) :
    (enumType scope type).print ({} : Syntax.Layout).indent =
      "\n".intercalate (enumHeader scope type :: (listed (labelRows scope type) ++ ["\x7d"])) := by
  have hrows : (type.values.map (enumMember scope)).map
      (Syntax.printEnumMember ({} : Syntax.Layout).indent) = labelRows scope type := by
    rw [List.map_map]
    exact List.map_congr_left fun label _ => print_enumMember scope label
  rw [enumType, Syntax.Statement.print, hrows, String.intercalate_cons_of_ne_nil (by simp),
    labelRows]
  cases type.values with
  | nil => simp [listed, enumHeader, Syntax.exportMark, String.append_assoc]
  | cons label rest =>
      have hne : listed ((label :: rest).map fun label =>
          labelOpening scope label ++ Text.quote label) ≠ [] := by
        rw [← List.length_pos_iff, Syntax.length_listed]
        simp
      rw [String.intercalate_append_of_ne_nil hne (by simp),
        ← Syntax.intercalate_listed (by simp)]
      simp [enumHeader, Syntax.exportMark, String.append_assoc]

theorem plain_toIdentifier (text : String) : Text.Plain (Casing.toIdentifier text) :=
  fun c hc => Text.isPlain_of_part ((Casing.declarable_toIdentifier text).part c hc)

theorem plain_labelOpening (scope : Scope) (label : String) :
    Text.Plain (labelOpening scope label) := by
  simp only [labelOpening, Text.plain_append]
  exact ⟨⟨by decide +kernel, plain_toIdentifier _⟩, by decide +kernel⟩

theorem plain_enumHeader (scope : Scope) (type : EnumType) :
    Text.Plain (enumHeader scope type) := by
  simp only [enumHeader, Text.plain_append]
  exact ⟨⟨by decide +kernel, plain_toIdentifier _⟩, by decide +kernel⟩

theorem lines_enumType (scope : Scope) (type : EnumType) :
    Text.lines ((enumType scope type).print ({} : Syntax.Layout).indent) =
      enumHeader scope type :: (listed (labelRows scope type) ++ ["\x7d"]) := by
  have hrows : ∀ row ∈ labelRows scope type, '\n' ∉ row.toList := by
    intro row hrow
    obtain ⟨label, _, rfl⟩ := List.mem_map.mp hrow
    exact (Text.plain_append.mpr ⟨plain_labelOpening scope label,
      Text.plain_quote label⟩).break_notMem
  rw [print_enumType]
  refine Text.lines_intercalate ?_ (by simp)
  simp only [List.forall_mem_cons, List.forall_mem_append]
  exact ⟨(plain_enumHeader scope type).break_notMem,
    Syntax.break_notMem_listed hrows, by decide, by simp⟩

/-- An indented name of a member, told from what stands behind it. -/
theorem literal_eq_of_row {label label' literal literal' ending : String}
    (hrow : labelOpening scope label ++ literal ++ ending =
      labelOpening scope' label' ++ literal' ++ ending) : literal = literal' := by
  have hpart := fun text => (Casing.declarable_toIdentifier text).part
  have hsign : ∀ literal : String,
      ∀ c ∈ (" = ".toList ++ literal.toList).head?, ¬ Casing.isIdentifierPart c := by
    intro literal c hc
    obtain rfl := Option.some.inj hc
    decide
  rw [String.append_left_inj, ← String.toList_inj] at hrow
  simp only [labelOpening, String.toList_append, List.append_assoc,
    List.append_cancel_left_eq] at hrow
  obtain ⟨-, hrest⟩ := append_inj_of_part (hpart _) (hpart _) (hsign _) (hsign _) hrow
  exact String.toList_inj.mp (List.append_cancel_left hrest)

end Rows

/-- The rows are a header, a line for each label and a closing brace. Behind the name of its member
the line of a label has a literal that denotes the label, and a comma if another label follows. -/
structure ShowsLabels (scope : Scope) (type : EnumType) (rows : List String) : Prop where
  length : rows.length = type.values.length + 2
  header : rows[0]? = some (enumHeader scope type)
  label : ∀ i label, type.values[i]? = some label → ∃ literal,
    Json.read? literal = some (.text label) ∧
    rows[i + 1]? = some (labelOpening scope label ++ literal ++
      if i + 1 < type.values.length then "," else "")
  closing : rows[type.values.length + 1]? = some "\x7d"

theorem showsLabels (scope : Scope) (type : EnumType) :
    ShowsLabels scope type
      (Text.lines ((enumType scope type).print ({} : Syntax.Layout).indent)) := by
  have hrows : (labelRows scope type).length = type.values.length := List.length_map _
  have hlength : (listed (labelRows scope type)).length = type.values.length :=
    (Syntax.length_listed _).trans hrows
  rw [lines_enumType]
  refine ⟨by simp [hlength], rfl, ?_, ?_⟩
  · intro i label hlabel
    have hi : i < type.values.length := (List.getElem?_eq_some_iff.mp hlabel).1
    have hrow : (labelRows scope type)[i]? =
        some (labelOpening scope label ++ Text.quote label) := by
      rw [labelRows, List.getElem?_map, hlabel, Option.map_some]
    refine ⟨Text.quote label, Json.read?_quote label, ?_⟩
    rw [List.getElem?_cons_succ, List.getElem?_append_left (by rwa [hlength]),
      Syntax.getElem?_listed hrow, hrows]
  · rw [List.getElem?_cons_succ, ← hlength, List.getElem?_concat_length]

/-- The rows tell the labels. -/
theorem ShowsLabels.values_eq {scope scope' : Scope} {type type' : EnumType} {rows : List String}
    (hshows : ShowsLabels scope type rows) (hshows' : ShowsLabels scope' type' rows) :
    type.values = type'.values := by
  have hlength : type.values.length = type'.values.length :=
    Nat.add_right_cancel (hshows.length.symm.trans hshows'.length)
  refine List.ext_getElem hlength fun i hi hi' => ?_
  obtain ⟨literal, hread, hrow⟩ := hshows.label i _ (List.getElem?_eq_getElem hi)
  obtain ⟨literal', hread', hrow'⟩ := hshows'.label i _ (List.getElem?_eq_getElem hi')
  rw [hrow, hlength] at hrow'
  obtain rfl := literal_eq_of_row (Option.some.inj hrow')
  rw [hread] at hread'
  exact Value.text.inj (Option.some.inj hread')

/-- A printed enum shows its labels line by line, so enums that are printed alike have the same
labels, whatever their names and styles. -/
theorem print_keeps_labels (scope : Scope) (type : EnumType) :
    ShowsLabels scope type
        (Text.lines ((enumType scope type).print ({} : Syntax.Layout).indent)) ∧
      ∀ (scope' : Scope) (type' : EnumType),
        (enumType scope' type').print ({} : Syntax.Layout).indent =
          (enumType scope type).print ({} : Syntax.Layout).indent →
        type'.values = type.values := by
  refine ⟨showsLabels scope type, fun scope' type' hprint => ?_⟩
  have hshows := showsLabels scope' type'
  rw [hprint] at hshows
  exact hshows.values_eq (showsLabels scope type)

/-- Two labels that give one name, and three that are none without their quotes. -/
example : Text.lines ((enumType ⟨Registry.standard [], {}⟩
      { name := "state", values := ["on hold", "on-hold", "", "\"\\\n", "\u2028😀"] }).print
        ({} : Syntax.Layout).indent) =
    ["export enum State \x7b",
      "    OnHold = \"on hold\",",
      "    OnHold = \"on-hold\",",
      "    _ = \"\",",
      "    _ = \"\\\"\\\\\\n\",",
      "    _ = \"\\u2028\\ud83d\\ude00\"",
      "\x7d"] := by
  decide +kernel

end Declaration

end TableTypes
