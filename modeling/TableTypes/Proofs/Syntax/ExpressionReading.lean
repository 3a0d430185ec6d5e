import Mathlib.Logic.Function.Iterate
import TableTypes.Proofs.Syntax.ExpressionLexemes
import TableTypes.Proofs.Syntax.TypeReading

/-! # Expressions are told apart by their text

The lexemes of an expression are read with a stack of what is open. An access, a call and `as const`
go on with the expression in front of them, while the body of an arrow function goes as far as it
can. So a function that is itself accessed, called or marked would be read as one with a longer
body. Reading gives back every other expression, and no two of those have one text.
-/

namespace TableTypes.Syntax

def Expression.isArrow : Expression → Bool
  | .arrow _ => true
  | _ => false

mutual

/-- No arrow function is accessed, called or marked `as const`. -/
def Expression.Chained : Expression → Prop
  | .identifier _ | .string _ => True
  | .access target _ => ¬ target.isArrow ∧ target.Chained
  | .call callee arguments => ¬ callee.isArrow ∧ callee.Chained ∧ ChainedArguments arguments
  | .arrow body => body.Chained
  | .object properties => ChainedProperties properties
  | .asConst operand => ¬ operand.isArrow ∧ operand.Chained

def ChainedArguments : List Expression → Prop
  | [] => True
  | argument :: rest => argument.Chained ∧ ChainedArguments rest

def ChainedProperties : List (String × Expression) → Prop
  | [] => True
  | (_, initializer) :: rest => initializer.Chained ∧ ChainedProperties rest

end

namespace Expression

/-- How many arrow functions the expression starts with. -/
def arrows : Expression → Nat
  | .arrow body => body.arrows + 1
  | _ => 0

/-- What stands behind the arrows. -/
def operand : Expression → Expression
  | .arrow body => body.operand
  | e => e

theorem iterate_arrow_operand : (e : Expression) → arrow^[e.arrows] e.operand = e
  | .arrow body => by
    rw [arrows, operand, Function.iterate_succ_apply', iterate_arrow_operand body]
  | .identifier _ | .string _ | .access .. | .call .. | .object _ | .asConst _ => rfl

theorem arrows_eq_zero {e : Expression} (he : ¬ e.isArrow) : e.arrows = 0 ∧ e.operand = e := by
  cases e with
  | arrow body => exact absurd rfl he
  | _ => exact ⟨rfl, rfl⟩

/-- What is open around an expression that is read, with what was read in it before. -/
inductive Around where
  | text
  /-- The parameters of an arrow function, which has none. -/
  | parameters
  /-- A dot, behind which a name is due. -/
  | dot
  | arguments (callee : Expression) (before : List Expression)
  | properties (before : List (String × Expression))
  | property (name : String)

/-- What is open, how many arrows were read in it, and what was read behind them. -/
abbrev Stage := Around × Nat × Option Expression

section Reader

/-- The expression behind its arrows, if there is one. -/
def whole (arrows : Nat) (read : Option Expression) : Option Expression :=
  read.map arrow^[arrows]

def takeName (name : String) : List Stage → List Stage
  | (.properties before, read) :: below =>
    (.property name, 0, none) :: (.properties before, read) :: below
  | stages => stages

/-- The first word of an expression is an identifier, and a later one is a part of `as const`. -/
def wordOperand (word : String) : Option Expression → Expression
  | none => .identifier word
  | some e => if word = "const" then .asConst e else e

def takeWord (word : String) : List Stage → List Stage
  | (.properties before, read) :: below => takeName word ((.properties before, read) :: below)
  | (.dot, _) :: (around, arrows, some target) :: below =>
    (around, arrows, some (.access target word)) :: below
  | (around, arrows, read) :: below => (around, arrows, some (wordOperand word read)) :: below
  | [] => []

def takeQuoted (text : String) : List Stage → List Stage
  | (.properties before, read) :: below => takeName text ((.properties before, read) :: below)
  | (around, arrows, _) :: below => (around, arrows, some (.string text)) :: below
  | [] => []

/-- Behind an expression come its arguments, and elsewhere the parameters of a function. -/
def openRound : List Stage → List Stage
  | (around, arrows, some callee) :: below =>
    (.arguments callee [], 0, none) :: (around, arrows, none) :: below
  | stages => (.parameters, 0, none) :: stages

def closeRound : List Stage → List Stage
  | (.arguments callee before, arrows, read) :: (around, outer, _) :: below =>
    (around, outer, some (.call callee (before ++ (whole arrows read).toList))) :: below
  | (.parameters, _) :: below => below
  | stages => stages

/-- An argument or a property is complete. -/
def complete : List Stage → List Stage
  | (.arguments callee before, arrows, read) :: below =>
    (.arguments callee (before ++ (whole arrows read).toList), 0, none) :: below
  | (.property name, arrows, read) :: (.properties before, outer) :: below =>
    (.properties (before ++ ((whole arrows read).map (name, ·)).toList), outer) :: below
  | stages => stages

def closeObject : List Stage → List Stage
  | (.properties before, _) :: (around, arrows, _) :: below =>
    (around, arrows, some (.object before)) :: below
  | stages => stages

def startBody : List Stage → List Stage
  | (around, arrows, read) :: below => (around, arrows + 1, read) :: below
  | [] => []

/-- Read one lexeme. Colons tell a reader nothing new, and of an arrow its tip is enough. -/
def takeLexeme (stages : List Stage) : Lexeme → List Stage
  | .word word => takeWord word stages
  | .quoted text => takeQuoted text stages
  | .mark '(' => openRound stages
  | .mark ')' => closeRound stages
  | .mark '\x7b' => (.properties [], 0, none) :: stages
  | .mark '\x7d' => closeObject (complete stages)
  | .mark '.' => (.dot, 0, none) :: stages
  | .mark ',' => complete stages
  | .mark '>' => startBody stages
  | .mark _ => stages

/-- An expression may stand there. -/
def Around.takesExpression : Around → Prop
  | .parameters | .dot | .properties _ => False
  | _ => True

end Reader

section Steps

variable {around : Around} {arrows : Nat} {below : List Stage}

theorem takeWord_operand (haround : around.takesExpression) (word : String)
    (read : Option Expression) :
    takeWord word ((around, arrows, read) :: below) =
      (around, arrows, some (wordOperand word read)) :: below := by
  cases around with
  | parameters | dot | properties => exact haround.elim
  | _ => rfl

theorem takeQuoted_operand (haround : around.takesExpression) (text : String)
    (read : Option Expression) :
    takeQuoted text ((around, arrows, read) :: below) =
      (around, arrows, some (.string text)) :: below := by
  cases around with
  | parameters | dot | properties => exact haround.elim
  | _ => rfl

theorem take_asConst (haround : around.takesExpression) (operand : Expression) :
    [Lexeme.word "as", .word "const"].foldl takeLexeme
        ((around, arrows, some operand) :: below) =
      (around, arrows, some (.asConst operand)) :: below := by
  change takeWord "const" (takeWord "as" _) = _
  rw [takeWord_operand haround, takeWord_operand haround]
  rfl

theorem take_arrow : [Lexeme.mark '(', .mark ')', .mark '=', .mark '>'].foldl takeLexeme
    ((around, arrows, none) :: below) = (around, arrows + 1, none) :: below :=
  rfl

theorem take_property (name : String) (before : List (String × Expression))
    (lexemes : List Lexeme) :
    (nameLexeme name :: .mark ':' :: lexemes).foldl takeLexeme
        ((.properties before, 0, none) :: below) =
      lexemes.foldl takeLexeme
        ((.property name, 0, none) :: (.properties before, 0, none) :: below) := by
  have hname : takeLexeme ((.properties before, 0, none) :: below) (nameLexeme name) =
      (.property name, 0, none) :: (.properties before, 0, none) :: below := by
    unfold nameLexeme
    split <;> rfl
  rw [List.foldl_cons, hname]
  rfl

theorem whole_operand (e : Expression) : whole (0 + e.arrows) (some e.operand) = some e := by
  rw [whole, Option.map_some, Nat.zero_add, iterate_arrow_operand]

theorem take_comma_argument (callee e : Expression) (before : List Expression) :
    takeLexeme ((.arguments callee before, 0 + e.arrows, some e.operand) :: below) (.mark ',') =
      (.arguments callee (before ++ [e]), 0, none) :: below := by
  rw [takeLexeme, complete, whole_operand]
  rfl

theorem take_round_argument (callee e : Expression) (before : List Expression) :
    takeLexeme ((.arguments callee before, 0 + e.arrows, some e.operand) ::
        (around, arrows, none) :: below) (.mark ')') =
      (around, arrows, some (.call callee (before ++ [e]))) :: below := by
  rw [takeLexeme, closeRound, whole_operand]
  rfl

theorem take_comma_property (name : String) (e : Expression)
    (before : List (String × Expression)) :
    takeLexeme ((.property name, 0 + e.arrows, some e.operand) ::
        (.properties before, 0, none) :: below) (.mark ',') =
      (.properties (before ++ [(name, e)]), 0, none) :: below := by
  rw [takeLexeme, complete, whole_operand]
  rfl

theorem take_brace_property (name : String) (e : Expression)
    (before : List (String × Expression)) :
    takeLexeme ((.property name, 0 + e.arrows, some e.operand) ::
        (.properties before, 0, none) :: (around, arrows, none) :: below) (.mark '\x7d') =
      (around, arrows, some (.object (before ++ [(name, e)]))) :: below := by
  rw [takeLexeme, complete, whole_operand]
  rfl

end Steps

section Reading

mutual

theorem read_lexemes : (e : Expression) → e.Chained → (around : Around) →
    around.takesExpression → (arrows : Nat) → (below : List Stage) →
      e.lexemes.foldl takeLexeme ((around, arrows, none) :: below) =
        (around, arrows + e.arrows, some e.operand) :: below
  | .identifier name, _, around, haround, arrows, below => takeWord_operand haround name none
  | .string value, _, around, haround, arrows, below => takeQuoted_operand haround value none
  | .access target name, hchained, around, haround, arrows, below => by
    obtain ⟨harrow, htarget⟩ := hchained
    have hread := target.read_lexemes htarget around haround arrows below
    obtain ⟨hzero, hoperand⟩ := arrows_eq_zero harrow
    rw [Expression.lexemes, List.foldl_append, hread, hzero, hoperand]
    rfl
  | .call callee arguments, hchained, around, haround, arrows, below => by
    obtain ⟨harrow, hcallee, harguments⟩ := hchained
    have hread := callee.read_lexemes hcallee around haround arrows below
    obtain ⟨hzero, hoperand⟩ := arrows_eq_zero harrow
    rw [Expression.lexemes, List.append_assoc, List.foldl_append, hread, hzero, hoperand,
      List.cons_append, List.foldl_cons]
    exact read_arguments arguments harguments callee [] around arrows below
  | .arrow body, hchained, around, haround, arrows, below => by
    have hbody := body.read_lexemes hchained around haround (arrows + 1) below
    have hlexemes : (Expression.arrow body).lexemes =
        [.mark '(', .mark ')', .mark '=', .mark '>'] ++ body.lexemes := rfl
    rw [hlexemes, List.foldl_append, take_arrow, hbody, Nat.add_right_comm]
    rfl
  | .object properties, hchained, around, haround, arrows, below => by
    rw [Expression.lexemes, List.cons_append, List.foldl_cons]
    exact read_properties properties hchained [] around arrows below
  | .asConst operand, hchained, around, haround, arrows, below => by
    obtain ⟨harrow, hoperand⟩ := hchained
    have hread := operand.read_lexemes hoperand around haround arrows below
    obtain ⟨hzero, hsame⟩ := arrows_eq_zero harrow
    rw [Expression.lexemes, List.foldl_append, hread, hzero, hsame, take_asConst haround]
    rfl

theorem read_arguments : (arguments : List Expression) → ChainedArguments arguments →
    (callee : Expression) → (before : List Expression) → (around : Around) → (arrows : Nat) →
    (below : List Stage) →
      (argumentLexemes arguments ++ [Lexeme.mark ')']).foldl takeLexeme
          ((.arguments callee before, 0, none) :: (around, arrows, none) :: below) =
        (around, arrows, some (.call callee (before ++ arguments))) :: below
  | [], _, callee, before, around, arrows, below => rfl
  | [argument], hchained, callee, before, around, arrows, below => by
    have hargument := argument.read_lexemes hchained.1 (.arguments callee before) trivial 0
      ((around, arrows, none) :: below)
    rw [argumentLexemes, List.foldl_append, hargument]
    exact take_round_argument callee argument before
  | argument :: second :: rest, hchained, callee, before, around, arrows, below => by
    have hargument := argument.read_lexemes hchained.1 (.arguments callee before) trivial 0
      ((around, arrows, none) :: below)
    have hrest := read_arguments (second :: rest) hchained.2 callee (before ++ [argument]) around
      arrows below
    rw [argumentLexemes, List.append_assoc, List.foldl_append, hargument, List.cons_append,
      List.foldl_cons, take_comma_argument, hrest, List.append_assoc]
    rfl

theorem read_properties : (properties : List (String × Expression)) →
    ChainedProperties properties → (before : List (String × Expression)) → (around : Around) →
    (arrows : Nat) → (below : List Stage) →
      (propertyLexemes properties ++ [Lexeme.mark '\x7d']).foldl takeLexeme
          ((.properties before, 0, none) :: (around, arrows, none) :: below) =
        (around, arrows, some (.object (before ++ properties))) :: below
  | [], _, before, around, arrows, below => by
    rw [List.append_nil]
    rfl
  | [(name, initializer)], hchained, before, around, arrows, below => by
    have hinitializer := initializer.read_lexemes hchained.1 (.property name) trivial 0
      ((.properties before, 0, none) :: (around, arrows, none) :: below)
    rw [propertyLexemes, List.foldl_append, take_property, hinitializer]
    exact take_brace_property name initializer before
  | (name, initializer) :: second :: rest, hchained, before, around, arrows, below => by
    have hinitializer := initializer.read_lexemes hchained.1 (.property name) trivial 0
      ((.properties before, 0, none) :: (around, arrows, none) :: below)
    have hrest := read_properties (second :: rest) hchained.2 (before ++ [(name, initializer)])
      around arrows below
    have hlexemes : propertyLexemes ((name, initializer) :: second :: rest) ++ [.mark '\x7d'] =
        (nameLexeme name :: .mark ':' :: initializer.lexemes) ++
          .mark ',' :: (propertyLexemes (second :: rest) ++ [.mark '\x7d']) := by
      simp [propertyLexemes]
    rw [hlexemes, List.foldl_append, take_property, hinitializer, List.foldl_cons,
      take_comma_property, hrest, List.append_assoc]
    rfl

end

end Reading

end Expression

section Texts

/-- Two expressions have the same text only if they are the same. -/
theorem print_determines_expression {first second : Expression} (hnamed : first.Named)
    (hnamed' : second.Named) (hchained : first.Chained) (hchained' : second.Chained)
    (depth : Nat) :
    first.print ({} : Layout).indent depth = second.print ({} : Layout).indent depth ↔
      first = second := by
  refine ⟨fun hprint => ?_, fun heq => heq ▸ rfl⟩
  have hlexemes : first.lexemes ++ lexemes [] = second.lexemes ++ lexemes [] := by
    rw [← first.lexemes_print blank_indent depth hnamed [] endsWord_nil,
      ← second.lexemes_print blank_indent depth hnamed' [] endsWord_nil, hprint]
  have hread := congrArg (List.foldl Expression.takeLexeme [(.text, 0, none)])
    (List.append_cancel_right hlexemes)
  rw [first.read_lexemes hchained .text trivial, second.read_lexemes hchained' .text trivial,
    List.cons.injEq, Prod.mk.injEq, Prod.mk.injEq, Nat.zero_add, Nat.zero_add,
    Option.some.injEq] at hread
  obtain ⟨⟨-, harrows, hoperand⟩, -⟩ := hread
  rw [← first.iterate_arrow_operand, ← second.iterate_arrow_operand, harrows, hoperand]

/-- A bracket and a comma in a text, against a function of two arguments; and a name that ends in a
line break, against the break behind the last property. -/
theorem print_of_similar_expressions :
    let row (last : String) : Expression :=
      .object [("id", .string "]"), ("next\n", .arrow (.object [("at", .identifier last)]))]
    let call (arguments : List Expression) (last : String) : Expression :=
      .asConst (.method (.method (.identifier "z") "tuple" arguments) "or" [row last])
    let joined := call [.string "a\", \"b\n"] "here"
    let apart := call [.string "a", .string "b\n"] "here"
    let broken := call [.string "a", .string "b\n"] "here\n"
    joined.Named ∧ apart.Named ∧ broken.Named ∧ joined.Chained ∧ apart.Chained ∧
      broken.Chained ∧
      joined.print ({} : Layout).indent 1 ≠ apart.print ({} : Layout).indent 1 ∧
      apart.print ({} : Layout).indent 1 ≠ broken.print ({} : Layout).indent 1 := by
  intro row call joined apart broken
  have hnames : isIdentifier "z" ∧ isIdentifier "tuple" ∧ isIdentifier "or" ∧
      isIdentifier "here" ∧ isIdentifier "here\n" := by
    decide
  obtain ⟨hz, htuple, hor, hhere, hbroken⟩ := hnames
  have hnamed : ∀ {arguments last}, NamedArguments arguments → isIdentifier last →
      (call arguments last).Named := fun harguments hlast =>
    ⟨⟨⟨⟨hz, htuple⟩, harguments⟩, hor⟩, ⟨trivial, ⟨hlast, trivial⟩, trivial⟩, trivial⟩
  have hchained : ∀ {arguments last}, ChainedArguments arguments →
      (call arguments last).Chained := by
    intro arguments last harguments
    simp [call, row, Expression.method, Expression.Chained, ChainedArguments, ChainedProperties,
      Expression.isArrow, harguments]
  have hjoined : joined.Named := hnamed ⟨trivial, trivial⟩ hhere
  have hapart : apart.Named := hnamed ⟨trivial, trivial, trivial⟩ hhere
  have hlonger : broken.Named := hnamed ⟨trivial, trivial, trivial⟩ hbroken
  have hjoined' : joined.Chained := hchained ⟨trivial, trivial⟩
  have hapart' : apart.Chained := hchained ⟨trivial, trivial, trivial⟩
  have hlonger' : broken.Chained := hchained ⟨trivial, trivial, trivial⟩
  refine ⟨hjoined, hapart, hlonger, hjoined', hapart', hlonger', ?_, ?_⟩
  · rw [ne_eq, print_determines_expression hjoined hapart hjoined' hapart' 1]
    simp [joined, apart, call, Expression.method]
  · rw [ne_eq, print_determines_expression hapart hlonger hapart' hlonger' 1]
    simp [apart, broken, call, row, Expression.method]

end Texts

end TableTypes.Syntax
