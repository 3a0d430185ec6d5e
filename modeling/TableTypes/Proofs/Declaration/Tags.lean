import TableTypes.Proofs.Declaration.Shapes

/-! # What a tag tells

A tag is the text of a column's type: a name, and behind it what says that the column is an array
or that its value may be missing. No name holds a character with which such an ending starts, so
the tag tells the name and the ending. The name tells the check, unless it is a keyword of the
language that was declared besides.
-/

namespace TableTypes.Declaration

open Casing (isIdentifierPart)
open Syntax (Expression TypeNode)

/-- What stands behind the name in the text of a column's type. -/
def tagEnding (column : Column) : String :=
  (if column.isArray then "[]" else "") ++ if column.nullable then " | null" else ""

/-- What stands before the check for a single value. -/
def checkOpening (column : Column) : String :=
  if column.isArray then "z.array(" else ""

/-- What stands behind the check for a single value. -/
def checkEnding (column : Column) : String :=
  (if column.isArray then ")" else "") ++ if column.nullable then ".nullable()" else ""

section Texts

variable {type : TypeNode} {check : Expression} {column column' : Column}

theorem print_wrap_eq (hname : IsName type) (column : Column) (unit : String) (depth : Nat) :
    (wrap column type).print unit depth = type.print unit depth ++ tagEnding column := by
  have harray : (TypeNode.array type).print unit depth = type.print unit depth ++ "[]" := by
    cases type with
    | keyword word => rfl
    | reference name arguments => rfl
    | array element => exact hname.elim
    | union types => exact hname.elim
    | literal members => exact hname.elim
  have hunion : ∀ listed : TypeNode, (TypeNode.union [listed, .null]).print unit depth =
      listed.print unit depth ++ " | null" := by
    intro listed
    simp [TypeNode.print, Syntax.printTypes, TypeNode.null, String.append_assoc]
  unfold wrap tagEnding
  cases column.isArray <;> cases column.nullable <;> simp [harray, hunion, String.append_assoc]

theorem print_wrapCheck (column : Column) (check : Expression) (unit : String) (depth : Nat) :
    (wrapCheck column check).print unit depth =
      checkOpening column ++ check.print unit depth ++ checkEnding column := by
  unfold wrapCheck checkOpening checkEnding
  cases column.isArray <;> cases column.nullable <;>
    simp [Expression.method, checks, Expression.print, Syntax.printArguments, String.append_assoc]

theorem flags_of_tagEnding (hending : tagEnding column = tagEnding column') :
    column.isArray = column'.isArray ∧ column.nullable = column'.nullable := by
  unfold tagEnding at hending
  revert hending
  cases column.isArray <;> cases column.nullable <;> cases column'.isArray <;>
    cases column'.nullable <;> decide

theorem print_wrapCheck_eq_iff (hending : tagEnding column = tagEnding column')
    {check' : Expression} {unit : String} {depth : Nat} :
    (wrapCheck column check).print unit depth = (wrapCheck column' check').print unit depth ↔
      check.print unit depth = check'.print unit depth := by
  obtain ⟨harray, hnullable⟩ := flags_of_tagEnding hending
  have hopening : checkOpening column = checkOpening column' := by
    rw [checkOpening, checkOpening, harray]
  have hclosing : checkEnding column = checkEnding column' := by
    rw [checkEnding, checkEnding, harray, hnullable]
  rw [print_wrapCheck, print_wrapCheck, hopening, hclosing, String.append_left_inj,
    String.append_right_inj]

end Texts

section Names

/-- The output type of the entry is printed as the identifier, which is a declarable name. -/
structure Plain (entry : Entry) : Prop where
  isName : IsName entry.type
  print : ∀ unit depth, entry.type.print unit depth = entry.identifier
  part : ∀ c ∈ entry.identifier.toList, isIdentifierPart c

variable {entry entry' : Entry} {column column' : Column} {name name' ending ending' : List Char}

theorem head_tagEnding (column : Column) :
    ∀ c ∈ (tagEnding column).toList.head?, ¬ isIdentifierPart c := by
  have hhead : (tagEnding column).toList.head? ∈ [none, some ' ', some '['] := by
    unfold tagEnding
    cases column.isArray <;> cases column.nullable <;> simp
  intro c hc
  rw [hc] at hhead
  have hcases : c = ' ' ∨ c = '[' := by simpa using hhead
  rcases hcases with rfl | rfl <;> decide

theorem takeWhile_of_part (hname : ∀ c ∈ name, isIdentifierPart c)
    (hending : ∀ c ∈ ending.head?, ¬ isIdentifierPart c) :
    (name ++ ending).takeWhile isIdentifierPart = name := by
  have hstop : ending.takeWhile isIdentifierPart = [] := by
    cases ending with
    | nil => rfl
    | cons c rest => exact List.takeWhile_cons_of_neg (hending c rfl)
  rw [List.takeWhile_append_of_pos hname, hstop, List.append_nil]

/-- A name and an ending can be told from each other. -/
theorem append_inj_of_part (hname : ∀ c ∈ name, isIdentifierPart c)
    (hname' : ∀ c ∈ name', isIdentifierPart c) (hending : ∀ c ∈ ending.head?, ¬ isIdentifierPart c)
    (hending' : ∀ c ∈ ending'.head?, ¬ isIdentifierPart c)
    (heq : name ++ ending = name' ++ ending') : name = name' ∧ ending = ending' := by
  have hsame : name = name' := by
    rw [← takeWhile_of_part hname hending, heq, takeWhile_of_part hname' hending']
  exact ⟨hsame, List.append_cancel_left (hsame ▸ heq)⟩

/-- The tag of a column tells the identifier of its type and the ending. -/
theorem eq_of_tag (hplain : Plain entry) (hplain' : Plain entry') {unit : String} {depth : Nat}
    (htag : (wrap column entry.type).print unit depth =
      (wrap column' entry'.type).print unit depth) :
    entry.identifier = entry'.identifier ∧ tagEnding column = tagEnding column' := by
  rw [print_wrap_eq hplain.isName, print_wrap_eq hplain'.isName, hplain.print, hplain'.print,
    ← String.toList_inj, String.toList_append, String.toList_append] at htag
  have hparts := append_inj_of_part hplain.part hplain'.part (head_tagEnding column)
    (head_tagEnding column') htag
  exact hparts.imp String.toList_inj.mp String.toList_inj.mp

end Names

section Entries

/-- The identifiers of built-in types that are words of the language. No declared name is kept
from being one of them. -/
def keywordNames : List String := ["number", "string", "boolean"]

theorem plain_builtin {name : String} {type : BuiltinType}
    (hmem : (name, type) ∈ BuiltinType.standard) : Plain (Registry.builtinEntry type) := by
  have hname : IsName (Registry.builtinEntry type).type := isName_standard hmem
  have hprint : ∀ unit depth, (Registry.builtinEntry type).type.print unit depth =
      (Registry.builtinEntry type).identifier := by
    rcases Registry.mem_standard_cases hmem with rfl | rfl | rfl | rfl | rfl <;>
      exact fun _ _ => rfl
  refine ⟨hname, hprint, ?_⟩
  rcases Registry.mem_standard_cases hmem with rfl | rfl | rfl | rfl | rfl <;>
    simp [Registry.builtinEntry, BuiltinType.identifier, BuiltinType.number, BuiltinType.string,
      BuiltinType.boolean, BuiltinType.date, BuiltinType.json, isIdentifierPart]

theorem plain_request {request : Registration}
    (hpart : ∀ c ∈ request.identifier.toList, isIdentifierPart c) : Plain request.entry :=
  ⟨rfl, fun _ _ => rfl, hpart⟩

theorem print_entryCheck_ne {builtin declared : Entry} (hbuiltin : builtin.kind = .builtin)
    (hdeclared : declared.kind ≠ .builtin) (hsame : builtin.identifier = declared.identifier)
    (hkeyword : builtin.identifier ∈ keywordNames) {unit : String} {depth : Nat} :
    (entryCheck builtin).print unit depth ≠ (entryCheck declared).print unit depth := by
  simp only [keywordNames, List.mem_cons, List.not_mem_nil, or_false] at hkeyword
  unfold entryCheck
  rw [hbuiltin, ← hsame]
  cases hkind : declared.kind with
  | builtin => exact absurd hkind hdeclared
  | enum =>
    rcases hkeyword with heq | heq | heq <;> rw [heq] <;>
      simp [Expression.method, checks, Expression.print, Syntax.printArguments, primitiveCheck]
  | table =>
    rcases hkeyword with heq | heq | heq <;> rw [heq] <;>
      simp [Expression.method, checks, Expression.print, Syntax.printArguments, primitiveCheck,
        validatorOf]

end Entries

section Declared

/-- Of two names, one is registered under a word of the language and the other is not so. -/
def KeywordTaken (requests : List Registration) (name name' : String) : Prop :=
  ∃ request ∈ requests, request.identifier ∈ keywordNames ∧
    Xor (request.schemaName = name) (request.schemaName = name')

theorem KeywordTaken.comm {requests : List Registration} {name name' : String} :
    KeywordTaken requests name name' ↔ KeywordTaken requests name' name := by
  unfold KeywordTaken
  simp only [xor_comm]

variable {requests : List Registration} {name name' : String} {entry entry' : Entry}
  {unit : String} {depth : Nat}

/-- The requests are for enums and tables, and their identifiers are declarable. -/
structure AllDeclared (requests : List Registration) : Prop where
  kind : ∀ request ∈ requests, request.kind ≠ .builtin
  part : ∀ request ∈ requests, ∀ c ∈ request.identifier.toList, isIdentifierPart c

variable (haccepts : (Registry.standard helperNames).Accepts requests)
  (hdeclared : AllDeclared requests)

include haccepts hdeclared

theorem plain_entry
    (hentry : ((Registry.standard helperNames).extend requests).find? name = some entry) :
    Plain entry := by
  rcases Registry.find?_extend_cases rfl haccepts hentry with
    ⟨type, hmem, rfl⟩ | ⟨request, hmem, rfl⟩
  · exact plain_builtin hmem
  · exact plain_request (hdeclared.part request hmem)

/-- A built-in type shares its identifier with what was registered only if that is a word of the
language. Its check is another one then. -/
theorem print_builtin_ne_request {type : BuiltinType}
    (hbuiltin : (name, type) ∈ BuiltinType.standard) (hname : name ∉ requests.map (·.schemaName))
    {request : Registration} (hmem : request ∈ requests)
    (hsame : type.identifier = request.identifier) :
    (entryCheck (Registry.builtinEntry type)).print unit depth ≠
        (entryCheck request.entry).print unit depth ∧
      KeywordTaken requests name request.schemaName := by
  have hfree := (Registry.accepts_iff.mp haccepts).2.2 request hmem
  rw [Registry.standard_refuses_iff, ← hsame] at hfree
  -- The other two built-in types are references, and names of references are reserved.
  have hkeyword : type.identifier ∈ keywordNames := by
    rcases Registry.mem_standard_cases hbuiltin with rfl | rfl | rfl | rfl | rfl
    · decide
    · decide
    · decide
    · exact absurd (by decide) hfree
    · exact absurd (by decide) hfree
  refine ⟨print_entryCheck_ne rfl (hdeclared.kind request hmem) hsame hkeyword, ?_⟩
  refine ⟨request, hmem, hsame ▸ hkeyword, Or.inr ⟨rfl, ?_⟩⟩
  rintro rfl
  exact hname (List.mem_map_of_mem hmem)

/-- Of one identifier there is one check, unless a word of the language is taken. -/
theorem print_entryCheck_eq_iff
    (hentry : ((Registry.standard helperNames).extend requests).find? name = some entry)
    (hentry' : ((Registry.standard helperNames).extend requests).find? name' = some entry')
    (hsame : entry.identifier = entry'.identifier) :
    (entryCheck entry).print unit depth = (entryCheck entry').print unit depth ↔
      ¬ KeywordTaken requests name name' := by
  -- Only one built-in and one declared type can have an identifier in common and differ in kind.
  rcases Registry.find?_extend_named_cases rfl haccepts hentry with
    ⟨hname, type, hbuiltin, rfl⟩ | ⟨request, hmem, rfl, rfl⟩ <;>
  rcases Registry.find?_extend_named_cases rfl haccepts hentry' with
    ⟨hname', type', hbuiltin', rfl⟩ | ⟨request', hmem', rfl, rfl⟩
  · have hcheck : entryCheck (Registry.builtinEntry type) =
        entryCheck (Registry.builtinEntry type') :=
      congrArg (fun identifier => checks.method (primitiveCheck identifier) []) hsame
    refine iff_of_true (by rw [hcheck]) ?_
    rintro ⟨request, hmem, _, hxor⟩
    rcases hxor with ⟨rfl, _⟩ | ⟨rfl, _⟩
    · exact hname (List.mem_map_of_mem hmem)
    · exact hname' (List.mem_map_of_mem hmem)
  · obtain ⟨hne, htaken⟩ :=
      print_builtin_ne_request haccepts hdeclared hbuiltin hname hmem' hsame
    exact iff_of_false hne (not_not.mpr htaken)
  · obtain ⟨hne, htaken⟩ :=
      print_builtin_ne_request haccepts hdeclared hbuiltin' hname' hmem hsame.symm
    exact iff_of_false hne.symm (not_not.mpr (KeywordTaken.comm.mp htaken))
  · have hidentifiers := (Registry.accepts_iff.mp haccepts).2.1
    obtain rfl := List.inj_on_of_nodup_map hidentifiers hmem hmem' hsame
    refine iff_of_true rfl ?_
    rintro ⟨_, _, _, hxor⟩
    exact (xor_self _).mp hxor

/-- One tag goes with one check, unless a word of the language is taken. -/
theorem print_check_eq_iff {column column' : Column}
    (hentry : ((Registry.standard helperNames).extend requests).find? column.type = some entry)
    (hentry' : ((Registry.standard helperNames).extend requests).find? column'.type = some entry')
    {tagUnit : String} {tagDepth : Nat}
    (htag : (wrap column entry.type).print tagUnit tagDepth =
      (wrap column' entry'.type).print tagUnit tagDepth) :
    (wrapCheck column (entryCheck entry)).print unit depth =
        (wrapCheck column' (entryCheck entry')).print unit depth ↔
      ¬ KeywordTaken requests column.type column'.type := by
  obtain ⟨hsame, hending⟩ := eq_of_tag (plain_entry haccepts hdeclared hentry)
    (plain_entry haccepts hdeclared hentry') htag
  rw [print_wrapCheck_eq_iff hending]
  exact print_entryCheck_eq_iff haccepts hdeclared hentry hentry' hsame

end Declared

end TableTypes.Declaration
