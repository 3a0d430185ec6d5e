import TableTypes.Proofs.Syntax.Clean

/-! # Templates

The code of an interface, or of an object, is a template with one gap for the name of each member.
What stands in a gap is what the printed name has outside quotes: the name itself if it is printed
as it is, and nothing if it is quoted. The types or values of the members alone tell the template.
-/

namespace TableTypes.Syntax

open Text (Bare Settled code composable_settled)

/-- Code with gaps for names, one in each row between what stands before it and behind it. -/
structure Template where
  opening : List Char
  separator : List Char := []
  rows : List (List Char × List Char)
  closing : List Char

namespace Template

variable {template : Template} {names : List String}

/-- The code with names in its gaps. -/
def fill (template : Template) (names : List String) : List Char :=
  template.opening ++
    template.separator.intercalate (List.zipWith
      (fun row name => row.1 ++ code (propertyName name) ++ row.2) template.rows names) ++
    template.closing

/-- The template with more code around it. -/
def within (template : Template) (before behind : List Char) : Template :=
  { template with opening := before ++ template.opening, closing := template.closing ++ behind }

theorem fill_within (before behind : List Char) :
    (template.within before behind).fill names = before ++ template.fill names ++ behind := by
  simp [fill, within]

theorem rows_within (before behind : List Char) :
    (template.within before behind).rows = template.rows :=
  rfl

end Template

theorem code_bare {text : String} (hbare : Bare text) : code text = text.toList :=
  (Text.code_of_noQuote hbare.quote_notMem).2

theorem settled_bare {text : String} (hbare : Bare text) : Settled text :=
  composable_settled.bare hbare

/-- Of a printed name there stands outside quotes itself, or nothing. -/
theorem code_propertyName (name : String) :
    code (propertyName name) = if isIdentifier name then name.toList else [] := by
  unfold propertyName
  split
  · exact code_bare (bare_of_isIdentifier ‹_›)
  · exact Text.code_quote name

section Rows

variable {unit before : String} {α : Type} {items : List α} {behind : α → String}

theorem settled_row (hbefore : Settled before) (name : String) {behind : String}
    (hbehind : Settled behind) : Settled (before ++ propertyName name ++ behind) :=
  (hbefore.append (composed_propertyName composable_settled name)).append hbehind

theorem code_row (hbefore : Settled before) (name behind : String) :
    code (before ++ propertyName name ++ behind) =
      code before ++ code (propertyName name) ++ code behind := by
  have hname := composed_propertyName composable_settled name
  rw [(hbefore.append hname).code_append, hbefore.code_append]

/-- Rows that start alike leave gaps for the names in them. -/
theorem code_rows (hbefore : Settled before) (items : List α) (name : α → String)
    (behind : α → String) :
    (items.map fun a => before ++ propertyName (name a) ++ behind a).map code =
      List.zipWith (fun row name => row.1 ++ code (propertyName name) ++ row.2)
        (items.map fun a => (code before, code (behind a))) (items.map name) := by
  rw [List.map_map, List.zipWith_map, List.zipWith_self]
  exact List.map_congr_left fun a _ => code_row hbefore (name a) (behind a)

end Rows

section Objects

variable {unit : String} {α : Type} {items : List α}

/-- The template of an object with these values. -/
def objectTemplate (unit : String) (depth : Nat) : List Expression → Template
  | [] => { opening := ['\x7b', '\x7d'], rows := [], closing := [] }
  | values => {
      opening := ['\x7b', '\n']
      separator := [',', '\n']
      rows := values.map fun value =>
        (code (indentation unit (depth + 1)), code (": " ++ value.print unit (depth + 1)))
      closing := '\n' :: code (indentation unit depth) ++ ['\x7d'] }

theorem length_rows_objectTemplate (unit : String) (depth : Nat) (values : List Expression) :
    (objectTemplate unit depth values).rows.length = values.length := by
  cases values <;> simp [objectTemplate]

theorem printProperties_eq (unit : String) (depth : Nat) (items : List α) (name : α → String)
    (value : α → Expression) :
    printProperties unit depth (items.map fun a => (name a, value a)) = items.map fun a =>
      indentation unit depth ++ propertyName (name a) ++ (": " ++ (value a).print unit depth) := by
  induction items with
  | nil => rfl
  | cons a rest ih => rw [List.map_cons, printProperties, ih, List.map_cons, String.append_assoc]

theorem code_object (hunit : Settled unit) (depth : Nat) (items : List α) (name : α → String)
    (value : α → Expression) (hvalue : ∀ a ∈ items, Settled ((value a).print unit (depth + 1))) :
    Settled ((Expression.object (items.map fun a => (name a, value a))).print unit depth) ∧
      code ((Expression.object (items.map fun a => (name a, value a))).print unit depth) =
        (objectTemplate unit depth (items.map value)).fill (items.map name) := by
  have hindent := composed_indentation composable_settled hunit
  cases items with
  | nil =>
      rw [List.map_nil, Expression.print]
      exact ⟨settled_bare (by decide), code_bare (by decide)⟩
  | cons first rest =>
      have hopening : Bare "\x7b\n" := by decide
      have hcomma : Bare ",\n" := by decide
      have hbreak : Bare "\n" := by decide
      have hclosing : Bare "\x7d" := by decide
      have hrow : ∀ text ∈ printProperties unit (depth + 1)
          ((first :: rest).map fun a => (name a, value a)), Settled text := by
        rw [printProperties_eq]
        intro text htext
        obtain ⟨a, ha, rfl⟩ := List.mem_map.mp htext
        exact settled_row (hindent _) _ ((settled_bare (by decide)).append (hvalue a ha))
      have hrows := composable_settled.intercalate (settled_bare hcomma) hrow
      rw [List.map_cons] at hrow hrows ⊢
      rw [Expression.print, String.append_assoc, String.append_assoc, String.append_assoc]
      refine ⟨(settled_bare hopening).append (hrows.append ((settled_bare hbreak).append
        ((hindent depth).append (settled_bare hclosing)))), ?_⟩
      rw [(settled_bare hopening).code_append, hrows.code_append, (settled_bare hbreak).code_append,
        (hindent depth).code_append, Text.code_intercalate (settled_bare hcomma) hrow,
        code_bare hopening, code_bare hcomma, code_bare hbreak, code_bare hclosing,
        ← List.map_cons (f := fun a => (name a, value a)), printProperties_eq,
        code_rows (hindent _)]
      simp [Template.fill, objectTemplate]

end Objects

section Interfaces

variable {unit : String} {α : Type} {items : List α}

/-- What stands behind the name of a member. -/
def memberEnding (unit : String) (depth : Nat) (type : TypeNode) (optional : Bool) : String :=
  (if optional then "?" else "") ++ ": " ++ type.print unit depth ++ ";\n"

/-- The template of an interface with members of these types. -/
def interfaceTemplate (unit header : String) (parts : List (TypeNode × Bool)) : Template where
  opening := code header
  rows := parts.map fun (type, optional) =>
    (code (indentation unit 1), code (memberEnding unit 1 type optional))
  closing := ['\x7d']

theorem printMembers_eq (unit : String) (depth : Nat) (items : List α) (name : α → String)
    (type : α → TypeNode) (optional : α → Bool) :
    printMembers unit depth (items.map fun a => .property (name a) (type a) (optional a)) =
      "".intercalate (items.map fun a => indentation unit depth ++ propertyName (name a) ++
        memberEnding unit depth (type a) (optional a)) := by
  induction items with
  | nil => rfl
  | cons a rest ih =>
      have hjoin : ∀ (text : String) (texts : List String),
          "".intercalate (text :: texts) = text ++ "".intercalate texts := by
        intro text texts
        cases texts <;> simp
      rw [List.map_cons, printMembers, ih, List.map_cons, hjoin, Member.print, memberEnding]
      simp only [String.append_assoc]

theorem code_interface (hunit : Settled unit) {header : String} (hheader : Bare header)
    (items : List α) (name : α → String) (type : α → TypeNode) (optional : α → Bool)
    (htype : ∀ a ∈ items, Bare ((type a).print unit 1)) :
    code ((Statement.interface header
        (items.map fun a => .property (name a) (type a) (optional a)) true).print unit) =
      (interfaceTemplate unit ("export interface " ++ header ++ " \x7b\n")
        (items.map fun a => (type a, optional a))).fill (items.map name) := by
  have hindent := composed_indentation composable_settled hunit 1
  have hopening : Bare ("export interface " ++ header ++ " \x7b\n") :=
    (Bare.append (by decide) hheader).append (by decide)
  have hempty : Bare "" := by decide
  have hclosing : Bare "\x7d" := by decide
  have hending : ∀ a ∈ items, Settled (memberEnding unit 1 (type a) (optional a)) := by
    intro a ha
    have hmark : Bare ((if optional a then "?" else "") ++ ": ") := by
      cases optional a <;> decide
    exact settled_bare ((hmark.append (htype a ha)).append (by decide))
  have hrow : ∀ text ∈ items.map fun a => indentation unit 1 ++ propertyName (name a) ++
      memberEnding unit 1 (type a) (optional a), Settled text := by
    intro text htext
    obtain ⟨a, ha, rfl⟩ := List.mem_map.mp htext
    exact settled_row hindent _ (hending a ha)
  have hrows := composable_settled.intercalate (settled_bare hempty) hrow
  have hprint : (Statement.interface header
      (items.map fun a => .property (name a) (type a) (optional a)) true).print unit =
        "export interface " ++ header ++ " \x7b\n" ++
          ("".intercalate (items.map fun a => indentation unit 1 ++ propertyName (name a) ++
            memberEnding unit 1 (type a) (optional a)) ++ "\x7d") := by
    rw [Statement.print, printMembers_eq]
    simp [exportMark, String.append_assoc]
  rw [hprint, (settled_bare hopening).code_append, hrows.code_append,
    Text.code_intercalate (settled_bare hempty) hrow, code_bare hempty, code_bare hclosing,
    code_rows hindent]
  simp [Template.fill, interfaceTemplate]

end Interfaces

end TableTypes.Syntax
