import TableTypes.Proofs.Syntax.Lexemes

/-! # Lexemes of types

The printed text of a type holds the lexemes of the type and blanks, whatever the indentation and
whatever follows. So the layout of a type carries nothing, and two types that are printed alike
have the same lexemes.
-/

namespace TableTypes.Syntax

/-- The words that stand for types of the language. -/
def keywords : List String :=
  ["number", "string", "boolean", "unknown", "null"]

mutual

/-- Keywords are those of the language, the name of another type is an identifier and none of
them, and a parameter is an identifier. A property may have any name. -/
def TypeNode.Named : TypeNode → Prop
  | .keyword word => word ∈ keywords
  | .reference name arguments => isIdentifier name ∧ name ∉ keywords ∧ NamedTypes arguments
  | .array element => element.Named
  | .union types => NamedTypes types
  | .literal members => NamedMembers members

def NamedTypes : List TypeNode → Prop
  | [] => True
  | type :: rest => type.Named ∧ NamedTypes rest

def Member.Named : Member → Prop
  | .property _ type _ => type.Named
  | .index parameter parameterType type =>
    isIdentifier parameter ∧ parameterType.Named ∧ type.Named

def NamedMembers : List Member → Prop
  | [] => True
  | member :: rest => member.Named ∧ NamedMembers rest

end

def TypeNode.isUnion : TypeNode → Bool
  | .union _ => true
  | _ => false

/-- A property name as a lexeme. -/
def nameLexeme (name : String) : Lexeme :=
  if isIdentifier name then .word name else .quoted name

mutual

/-- The lexemes of a type. -/
def TypeNode.lexemes : TypeNode → List Lexeme
  | .keyword word => [.word word]
  | .reference name [] => [.word name]
  | .reference name (first :: rest) =>
    .word name :: .mark '<' :: separated ',' (first :: rest) ++ [.mark '>']
  | .array element =>
    if element.isUnion then
      .mark '(' :: element.lexemes ++ [.mark ')', .mark '[', .mark ']']
    else element.lexemes ++ [.mark '[', .mark ']']
  | .union types => separated '|' types
  | .literal members => .mark '\x7b' :: memberLexemes members ++ [.mark '\x7d']

/-- The lexemes of several types with a mark between them. -/
def separated (mark : Char) : List TypeNode → List Lexeme
  | [] => []
  | [type] => type.lexemes
  | type :: second :: rest => type.lexemes ++ .mark mark :: separated mark (second :: rest)

def Member.lexemes : Member → List Lexeme
  | .property name type optional =>
    nameLexeme name :: (if optional then [.mark '?'] else []) ++ .mark ':' :: type.lexemes
  | .index parameter parameterType type =>
    .mark '[' :: .word parameter :: .mark ':' :: parameterType.lexemes ++
      .mark ']' :: .mark ':' :: type.lexemes

def memberLexemes : List Member → List Lexeme
  | [] => []
  | member :: rest => member.lexemes ++ .mark ';' :: memberLexemes rest

end

section Pieces

variable {unit : String} {text : List Char}

/-- A step of indentation that is nothing but spaces. -/
def Blank (unit : String) : Prop :=
  ∀ c ∈ unit.toList, c = ' '

theorem mem_indentation (hunit : Blank unit) (depth : Nat) :
    ∀ c ∈ (indentation unit depth).toList, c = ' ' := by
  intro c hc
  rw [indentation, String.toList_join, List.mem_flatMap] at hc
  obtain ⟨copy, hcopy, hmem⟩ := hc
  rw [List.eq_of_mem_replicate hcopy] at hmem
  exact hunit c hmem

theorem lexemes_indentation (hunit : Blank unit) (depth : Nat) (text : List Char) :
    lexemes ((indentation unit depth).toList ++ text) = lexemes text :=
  lexemes_blanks (fun c hc => Or.inl (mem_indentation hunit depth c hc)) text

theorem lexemes_propertyName (name : String) (hends : EndsWord text) :
    lexemes ((propertyName name).toList ++ text) = nameLexeme name :: lexemes text := by
  unfold propertyName nameLexeme
  split
  · rename_i hname
    exact lexemes_word hname hends
  · exact lexemes_quote name text

theorem isIdentifier_of_keyword {word : String} (hword : word ∈ keywords) : isIdentifier word := by
  revert word
  decide

/-- The text between two types is one mark with blanks around it. -/
structure Separates (separator : String) (mark : Char) : Prop where
  lexemes : ∀ text, lexemes (separator.toList ++ text) = .mark mark :: lexemes text
  endsWord : ∀ text, EndsWord (separator.toList ++ text)

theorem separates_comma : Separates ", " ',' where
  lexemes text := by
    change Syntax.lexemes (',' :: ' ' :: text) = _
    rw [lexemes_mark rfl, lexemes_blank (Or.inl rfl)]
  endsWord _ := endsWord_mark rfl _

theorem separates_bar : Separates " | " '|' where
  lexemes text := by
    change Syntax.lexemes (' ' :: '|' :: ' ' :: text) = _
    rw [lexemes_blank (Or.inl rfl), lexemes_mark rfl, lexemes_blank (Or.inl rfl)]
  endsWord _ := endsWord_cons rfl (by decide) rfl

theorem print_array (unit : String) (depth : Nat) (element : TypeNode) :
    (TypeNode.array element).print unit depth =
      if element.isUnion then "(" ++ element.print unit depth ++ ")[]"
      else element.print unit depth ++ "[]" := by
  cases element <;> rfl

end Pieces

section Types

variable {unit : String}

mutual

theorem TypeNode.lexemes_print (hunit : Blank unit) (depth : Nat) :
    (type : TypeNode) → type.Named → (text : List Char) → EndsWord text →
      Syntax.lexemes ((type.print unit depth).toList ++ text) = type.lexemes ++ Syntax.lexemes text
  | .keyword word, hnamed, text, hends => by
    rw [TypeNode.print, TypeNode.lexemes, lexemes_word (isIdentifier_of_keyword hnamed) hends]
    rfl
  | .reference name [], hnamed, text, hends => by
    rw [TypeNode.print, TypeNode.lexemes, lexemes_word hnamed.1 hends]
    rfl
  | .reference name (first :: rest), hnamed, text, hends => by
    have harguments := lexemes_separated hunit depth separates_comma (first :: rest) hnamed.2.2
      ('>' :: text) (endsWord_mark rfl _)
    have htext : ((TypeNode.reference name (first :: rest)).print unit depth).toList ++ text =
        name.toList ++ '<' :: ((", ".intercalate (printTypes unit depth (first :: rest))).toList ++
          '>' :: text) := by
      simp [TypeNode.print]
    rw [htext, lexemes_word hnamed.1 (endsWord_mark rfl _), lexemes_mark rfl,
      harguments, lexemes_mark rfl, TypeNode.lexemes]
    simp
  | .array element, hnamed, text, hends => by
    have helement : ∀ behind, EndsWord behind → _ := element.lexemes_print hunit depth hnamed
    rw [print_array, TypeNode.lexemes]
    split
    · have htext : ("(" ++ element.print unit depth ++ ")[]").toList ++ text =
          '(' :: ((element.print unit depth).toList ++ ')' :: '[' :: ']' :: text) := by
        simp
      rw [htext, lexemes_mark rfl, helement _ (endsWord_mark rfl _), lexemes_mark rfl,
        lexemes_mark rfl, lexemes_mark rfl]
      simp
    · have htext : (element.print unit depth ++ "[]").toList ++ text =
          (element.print unit depth).toList ++ '[' :: ']' :: text := by
        simp
      rw [htext, helement _ (endsWord_mark rfl _), lexemes_mark rfl, lexemes_mark rfl]
      simp
  | .union types, hnamed, text, hends => by
    rw [TypeNode.print, TypeNode.lexemes]
    exact lexemes_separated hunit depth separates_bar types hnamed text hends
  | .literal [], _, text, _ => by
    rw [TypeNode.print, TypeNode.lexemes, memberLexemes]
    change Syntax.lexemes ('\x7b' :: '\x7d' :: text) = _
    rw [lexemes_mark rfl, lexemes_mark rfl]
    rfl
  | .literal (first :: rest), hnamed, text, _ => by
    have hmembers := lexemes_printMembers hunit (depth + 1) (first :: rest) hnamed
      ((indentation unit depth).toList ++ '\x7d' :: text)
    have htext : ((TypeNode.literal (first :: rest)).print unit depth).toList ++ text =
        '\x7b' :: '\n' :: ((printMembers unit (depth + 1) (first :: rest)).toList ++
          ((indentation unit depth).toList ++ '\x7d' :: text)) := by
      simp [TypeNode.print]
    rw [htext, lexemes_mark rfl, lexemes_blank (Or.inr rfl), hmembers, lexemes_indentation hunit,
      lexemes_mark rfl, TypeNode.lexemes]
    simp

theorem lexemes_separated (hunit : Blank unit) (depth : Nat)
    {separator : String} {mark : Char} (hseparates : Separates separator mark) :
    (types : List TypeNode) → NamedTypes types → (text : List Char) → EndsWord text →
      lexemes ((separator.intercalate (printTypes unit depth types)).toList ++ text) =
        separated mark types ++ lexemes text
  | [], _, text, _ => by
    rw [printTypes, String.intercalate_nil, separated]
    rfl
  | [type], hnamed, text, hends => by
    rw [printTypes, printTypes, String.intercalate_singleton, separated]
    exact type.lexemes_print hunit depth hnamed.1 text hends
  | type :: second :: rest, hnamed, text, hends => by
    have hrest := lexemes_separated hunit depth hseparates (second :: rest) hnamed.2 text hends
    have htype : ∀ behind, EndsWord behind → _ := type.lexemes_print hunit depth hnamed.1
    rw [printTypes, printTypes, String.intercalate_cons_cons, String.toList_append,
      String.toList_append, List.append_assoc, List.append_assoc, htype _ (hseparates.endsWord _),
      hseparates.lexemes, ← printTypes, hrest, separated]
    simp

theorem Member.lexemes_print (hunit : Blank unit) (depth : Nat) :
    (member : Member) → member.Named → (text : List Char) → EndsWord text →
      Syntax.lexemes ((member.print unit depth).toList ++ text) =
        member.lexemes ++ Syntax.lexemes text
  | .property name type optional, hnamed, text, hends => by
    have htype := type.lexemes_print hunit depth hnamed text hends
    cases optional with
    | false =>
        have htext : ((Member.property name type false).print unit depth).toList ++ text =
            (propertyName name).toList ++
              ':' :: ' ' :: ((type.print unit depth).toList ++ text) := by
          simp [Member.print]
        rw [htext, lexemes_propertyName name (endsWord_mark rfl _), lexemes_mark rfl,
          lexemes_blank (Or.inl rfl), htype, Member.lexemes]
        simp
    | true =>
        have htext : ((Member.property name type true).print unit depth).toList ++ text =
            (propertyName name).toList ++
              '?' :: ':' :: ' ' :: ((type.print unit depth).toList ++ text) := by
          simp [Member.print]
        rw [htext, lexemes_propertyName name (endsWord_mark rfl _), lexemes_mark rfl,
          lexemes_mark rfl, lexemes_blank (Or.inl rfl), htype, Member.lexemes]
        simp
  | .index parameter parameterType type, hnamed, text, hends => by
    have htype := type.lexemes_print hunit depth hnamed.2.2 text hends
    have hparameterType : ∀ behind, EndsWord behind → _ :=
      parameterType.lexemes_print hunit depth hnamed.2.1
    have htext : ((Member.index parameter parameterType type).print unit depth).toList ++ text =
        '[' :: (parameter.toList ++ ':' :: ' ' :: ((parameterType.print unit depth).toList ++
          ']' :: ':' :: ' ' :: ((type.print unit depth).toList ++ text))) := by
      simp [Member.print]
    rw [htext, lexemes_mark rfl, lexemes_word hnamed.1 (endsWord_mark rfl _),
      lexemes_mark rfl, lexemes_blank (Or.inl rfl),
      hparameterType _ (endsWord_mark rfl _), lexemes_mark rfl, lexemes_mark rfl,
      lexemes_blank (Or.inl rfl), htype, Member.lexemes]
    simp

theorem lexemes_printMembers (hunit : Blank unit) (depth : Nat) :
    (members : List Member) → NamedMembers members → (text : List Char) →
      lexemes ((printMembers unit depth members).toList ++ text) =
        memberLexemes members ++ lexemes text
  | [], _, text => rfl
  | member :: rest, hnamed, text => by
    have hmember : ∀ behind, EndsWord behind → _ := member.lexemes_print hunit depth hnamed.1
    have hrest := lexemes_printMembers hunit depth rest hnamed.2 text
    have htext : (printMembers unit depth (member :: rest)).toList ++ text =
        (indentation unit depth).toList ++ ((member.print unit depth).toList ++
          ';' :: '\n' :: ((printMembers unit depth rest).toList ++ text)) := by
      simp [printMembers]
    rw [htext, lexemes_indentation hunit, hmember _ (endsWord_mark rfl _),
      lexemes_mark rfl, lexemes_blank (Or.inr rfl), hrest, memberLexemes]
    simp

end

end Types

end TableTypes.Syntax
