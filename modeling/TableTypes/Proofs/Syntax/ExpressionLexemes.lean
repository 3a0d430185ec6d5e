import TableTypes.Proofs.Syntax.TypeLexemes

/-! # Lexemes of expressions

The printed text of an expression holds the lexemes of the expression and blanks, like that of a
type. The properties of an object are the one place where a word may stand in front of a line break
that is none of it: the last of them is followed by the break before the closing brace.
-/

namespace TableTypes.Syntax

mutual

/-- Every name that is printed as it is, is an identifier. A property may have any name. -/
def Expression.Named : Expression → Prop
  | .identifier text => isIdentifier text
  | .string _ => True
  | .access target name => target.Named ∧ isIdentifier name
  | .call callee arguments => callee.Named ∧ NamedArguments arguments
  | .arrow body => body.Named
  | .object properties => NamedProperties properties
  | .asConst operand => operand.Named

def NamedArguments : List Expression → Prop
  | [] => True
  | argument :: rest => argument.Named ∧ NamedArguments rest

def NamedProperties : List (String × Expression) → Prop
  | [] => True
  | (_, initializer) :: rest => initializer.Named ∧ NamedProperties rest

end

mutual

def Expression.lexemes : Expression → List Lexeme
  | .identifier text => [.word text]
  | .string value => [.quoted value]
  | .access target name => target.lexemes ++ [.mark '.', .word name]
  | .call callee arguments =>
    callee.lexemes ++ .mark '(' :: argumentLexemes arguments ++ [.mark ')']
  | .arrow body => .mark '(' :: .mark ')' :: .mark '=' :: .mark '>' :: body.lexemes
  | .object properties => .mark '\x7b' :: propertyLexemes properties ++ [.mark '\x7d']
  | .asConst operand => operand.lexemes ++ [.word "as", .word "const"]

def argumentLexemes : List Expression → List Lexeme
  | [] => []
  | [argument] => argument.lexemes
  | argument :: second :: rest =>
    argument.lexemes ++ .mark ',' :: argumentLexemes (second :: rest)

def propertyLexemes : List (String × Expression) → List Lexeme
  | [] => []
  | [(name, initializer)] => nameLexeme name :: .mark ':' :: initializer.lexemes
  | (name, initializer) :: second :: rest =>
    nameLexeme name :: .mark ':' :: initializer.lexemes ++
      .mark ',' :: propertyLexemes (second :: rest)

end

section Pieces

variable {unit : String} {text : List Char}

theorem closesBlock_indentation (hunit : Blank unit) (depth : Nat) (text : List Char) :
    closesBlock ((indentation unit depth).toList ++ '\x7d' :: text) := by
  have hspaces : ∀ c ∈ (indentation unit depth).toList, decide (c = ' ') = true := by
    simpa using mem_indentation hunit depth
  rw [closesBlock, List.dropWhile_append_of_pos hspaces]
  rfl

theorem lexemes_asConst (hends : EndsWord text) :
    lexemes (" as const".toList ++ text) = .word "as" :: .word "const" :: lexemes text := by
  have htext : " as const".toList ++ text =
      ' ' :: ("as".toList ++ ' ' :: ("const".toList ++ text)) := rfl
  have has : EndsWord (' ' :: ("const".toList ++ text)) := endsWord_cons rfl (by decide) rfl
  rw [htext, lexemes_blank (Or.inl rfl), lexemes_word (by decide) has, lexemes_blank (Or.inl rfl),
    lexemes_word (by decide) hends]

end Pieces

section Expressions

variable {unit : String}

mutual

theorem Expression.lexemes_print (hunit : Blank unit) (depth : Nat) :
    (expression : Expression) → expression.Named → (text : List Char) → EndsWord text →
      Syntax.lexemes ((expression.print unit depth).toList ++ text) =
        expression.lexemes ++ Syntax.lexemes text
  | .identifier name, hnamed, text, hends => by
    rw [Expression.print, Expression.lexemes, lexemes_word hnamed hends]
    rfl
  | .string value, _, text, _ => by
    rw [Expression.print, Expression.lexemes, lexemes_quote]
    rfl
  | .access target name, hnamed, text, hends => by
    have htarget := target.lexemes_print hunit depth hnamed.1 ('.' :: (name.toList ++ text))
      (endsWord_mark rfl _)
    have htext : ((Expression.access target name).print unit depth).toList ++ text =
        (target.print unit depth).toList ++ '.' :: (name.toList ++ text) := by
      simp [Expression.print]
    rw [htext, htarget, lexemes_mark rfl, lexemes_word hnamed.2 hends, Expression.lexemes]
    simp
  | .call callee arguments, hnamed, text, hends => by
    have harguments := lexemes_printArguments hunit depth arguments hnamed.2 (')' :: text)
      (endsWord_mark rfl _)
    have hcallee : ∀ behind, EndsWord behind → _ := callee.lexemes_print hunit depth hnamed.1
    have htext : ((Expression.call callee arguments).print unit depth).toList ++ text =
        (callee.print unit depth).toList ++ '(' ::
          ((", ".intercalate (printArguments unit depth arguments)).toList ++ ')' :: text) := by
      simp [Expression.print]
    rw [htext, hcallee _ (endsWord_mark rfl _), lexemes_mark rfl, harguments, lexemes_mark rfl,
      Expression.lexemes]
    simp
  | .arrow body, hnamed, text, hends => by
    have hbody := body.lexemes_print hunit depth hnamed text hends
    have htext : ((Expression.arrow body).print unit depth).toList ++ text =
        '(' :: ')' :: ' ' :: '=' :: '>' :: ' ' :: ((body.print unit depth).toList ++ text) := by
      simp [Expression.print]
    rw [htext, lexemes_mark rfl, lexemes_mark rfl, lexemes_blank (Or.inl rfl), lexemes_mark rfl,
      lexemes_mark rfl, lexemes_blank (Or.inl rfl), hbody, Expression.lexemes]
    rfl
  | .object [], _, text, _ => by
    rw [Expression.print, Expression.lexemes, propertyLexemes]
    change Syntax.lexemes ('\x7b' :: '\x7d' :: text) = _
    rw [lexemes_mark rfl, lexemes_mark rfl]
    rfl
  | .object (first :: rest), hnamed, text, _ => by
    let closing := (indentation unit depth).toList ++ '\x7d' :: text
    have hproperties := lexemes_printProperties hunit (depth + 1) (first :: rest) hnamed
      ('\n' :: closing) (endsWord_line (closesBlock_indentation hunit depth text))
    have htext : ((Expression.object (first :: rest)).print unit depth).toList ++ text =
        '\x7b' :: '\n' ::
          ((",\n".intercalate (printProperties unit (depth + 1) (first :: rest))).toList ++
            '\n' :: closing) := by
      simp [Expression.print, closing]
    rw [htext, lexemes_mark rfl, lexemes_blank (Or.inr rfl), hproperties,
      lexemes_blank (Or.inr rfl), lexemes_indentation hunit, lexemes_mark rfl, Expression.lexemes]
    simp
  | .asConst operand, hnamed, text, hends => by
    have hoperand := operand.lexemes_print hunit depth hnamed (" as const".toList ++ text)
      (endsWord_cons rfl (by decide) rfl)
    have htext : ((Expression.asConst operand).print unit depth).toList ++ text =
        (operand.print unit depth).toList ++ (" as const".toList ++ text) := by
      simp [Expression.print]
    rw [htext, hoperand, lexemes_asConst hends, Expression.lexemes]
    simp

theorem lexemes_printArguments (hunit : Blank unit) (depth : Nat) :
    (arguments : List Expression) → NamedArguments arguments → (text : List Char) →
      EndsWord text →
      lexemes ((", ".intercalate (printArguments unit depth arguments)).toList ++ text) =
        argumentLexemes arguments ++ lexemes text
  | [], _, text, _ => by
    rw [printArguments, String.intercalate_nil, argumentLexemes]
    rfl
  | [argument], hnamed, text, hends => by
    rw [printArguments, printArguments, String.intercalate_singleton, argumentLexemes]
    exact argument.lexemes_print hunit depth hnamed.1 text hends
  | argument :: second :: rest, hnamed, text, hends => by
    have hrest := lexemes_printArguments hunit depth (second :: rest) hnamed.2 text hends
    have hargument : ∀ behind, EndsWord behind → _ := argument.lexemes_print hunit depth hnamed.1
    rw [printArguments, printArguments, String.intercalate_cons_cons, String.toList_append,
      String.toList_append, List.append_assoc, List.append_assoc,
      hargument _ (separates_comma.endsWord _), separates_comma.lexemes, ← printArguments, hrest,
      argumentLexemes]
    simp

theorem lexemes_printProperties (hunit : Blank unit) (depth : Nat) :
    (properties : List (String × Expression)) → NamedProperties properties →
      (text : List Char) → EndsWord text →
      lexemes ((",\n".intercalate (printProperties unit depth properties)).toList ++ text) =
        propertyLexemes properties ++ lexemes text
  | [], _, text, _ => by
    rw [printProperties, String.intercalate_nil, propertyLexemes]
    rfl
  | [(name, initializer)], hnamed, text, hends => by
    have hinitializer := initializer.lexemes_print hunit depth hnamed.1 text hends
    have htext : (",\n".intercalate (printProperties unit depth [(name, initializer)])).toList ++
        text = (indentation unit depth).toList ++ ((propertyName name).toList ++
          ':' :: ' ' :: ((initializer.print unit depth).toList ++ text)) := by
      simp [printProperties]
    rw [htext, lexemes_indentation hunit, lexemes_propertyName name (endsWord_mark rfl _),
      lexemes_mark rfl, lexemes_blank (Or.inl rfl), hinitializer, propertyLexemes]
    rfl
  | (name, initializer) :: second :: rest, hnamed, text, hends => by
    let properties := (name, initializer) :: second :: rest
    let behind := (",\n".intercalate (printProperties unit depth (second :: rest))).toList ++ text
    have hrest : lexemes behind = propertyLexemes (second :: rest) ++ lexemes text :=
      lexemes_printProperties hunit depth (second :: rest) hnamed.2 text hends
    have hinitializer := initializer.lexemes_print hunit depth hnamed.1 (',' :: '\n' :: behind)
      (endsWord_mark rfl _)
    have htext : (",\n".intercalate (printProperties unit depth properties)).toList ++ text =
        (indentation unit depth).toList ++ ((propertyName name).toList ++
          ':' :: ' ' :: ((initializer.print unit depth).toList ++ ',' :: '\n' :: behind)) := by
      simp [printProperties, properties, behind, String.intercalate_cons_cons]
    rw [htext, lexemes_indentation hunit, lexemes_propertyName name (endsWord_mark rfl _),
      lexemes_mark rfl, lexemes_blank (Or.inl rfl), hinitializer, lexemes_mark rfl,
      lexemes_blank (Or.inr rfl), hrest, propertyLexemes]
    simp

end

end Expressions

end TableTypes.Syntax
