import TableTypes.Proofs.Casing.Declared
import TableTypes.Proofs.Text.Quoted
import TableTypes.Syntax.Printer

/-! # Lexemes of printed text

Printed text is cut into words, quoted texts and single marks; blanks between them carry nothing.
A word goes as far as it can, and one line break behind it is part of it, because a name that ends
in one is printed as it is. Only the line break in front of a closing brace is none of a word. A
printed name is therefore read back whole if what follows it can neither go on with the word nor be
taken for another kind of line break than it is.
-/

namespace TableTypes.Syntax

open Casing (Declarable isIdentifierStart isIdentifierPart)

/-- An identifier is a declarable name with at most one line break behind it. -/
theorem isIdentifier_iff {name : String} :
    isIdentifier name ↔ ∃ part ending, name.toList = part ++ ending ∧ Declarable part ∧
      (ending = [] ∨ ending = ['\n']) := by
  unfold isIdentifier
  constructor
  · intro hname
    cases htext : name.toList with
    | nil => simp [htext] at hname
    | cons c rest =>
        simp only [htext, Bool.and_eq_true, Bool.or_eq_true, decide_eq_true_eq] at hname
        refine ⟨c :: rest.takeWhile isIdentifierPart, rest.dropWhile isIdentifierPart, ?_, ?_,
          hname.2⟩
        · simp
        · exact ⟨c, _, rfl, hname.1, fun _ => List.mem_takeWhile_imp⟩
  · rintro ⟨_, ending, htext, ⟨c, rest, rfl, hstart, hrest⟩, hending⟩
    rw [htext, List.cons_append]
    simp only [hstart, List.dropWhile_append_of_pos hrest, Bool.true_and, Bool.or_eq_true,
      decide_eq_true_eq]
    rcases hending with rfl | rfl
    · exact Or.inl rfl
    · exact Or.inr rfl

/-- A piece of printed text. -/
inductive Lexeme where
  | word (name : String)
  | quoted (text : String)
  | mark (c : Char)
  deriving DecidableEq, Repr

/-- Behind some spaces the text goes on with a closing brace. -/
def closesBlock (text : List Char) : Bool :=
  (text.dropWhile (· = ' ')).head? = some '\x7d'

/-- What a word goes on with, and what follows it. -/
def wordEnd (text : List Char) : List Char × List Char :=
  match text.dropWhile isIdentifierPart with
  | '\n' :: rest =>
    if closesBlock rest then (text.takeWhile isIdentifierPart, '\n' :: rest)
    else (text.takeWhile isIdentifierPart ++ ['\n'], rest)
  | rest => (text.takeWhile isIdentifierPart, rest)

/-- The lexeme that starts with a character, if it is not a blank, and what follows it. -/
def firstLexeme (c : Char) (text : List Char) : Option Lexeme × List Char :=
  if isIdentifierStart c then
    let (word, rest) := wordEnd text
    (some (.word (String.ofList (c :: word))), rest)
  else if c = '"' then
    match Text.readChars? text.length text with
    | some (s, rest) => (some (.quoted (String.ofList s)), rest)
    | none => (some (.mark c), text)
  else if c = ' ' ∨ c = '\n' then (none, text)
  else (some (.mark c), text)

/-- The lexemes of a text. -/
def lexemes : List Char → List Lexeme
  | [] => []
  | c :: text =>
    let (found, rest) := firstLexeme c text
    -- No lexeme makes the text longer, so this is always the case.
    if rest.length ≤ text.length then found.toList ++ lexemes rest else found.toList
termination_by text => text.length

/-- A word that stands before this text ends there, also one that ends in a line break. -/
structure EndsWord (text : List Char) : Prop where
  part : ∀ c ∈ text.head?, isIdentifierPart c = false
  line : ∀ rest, text = '\n' :: rest → closesBlock rest
  brace : closesBlock text = false

section Words

variable {text : List Char}

theorem lexemes_cons {c : Char} {found : Option Lexeme} {rest : List Char}
    (hfirst : firstLexeme c text = (found, rest)) (hlength : rest.length ≤ text.length) :
    lexemes (c :: text) = found.toList ++ lexemes rest := by
  rw [lexemes, hfirst]
  exact if_pos hlength

theorem lexemes_blank {c : Char} (hblank : c = ' ' ∨ c = '\n') (text : List Char) :
    lexemes (c :: text) = lexemes text := by
  have hfirst : firstLexeme c text = (none, text) := by
    rcases hblank with rfl | rfl <;> rfl
  exact lexemes_cons hfirst (Nat.le_refl _)

theorem lexemes_blanks {blanks : List Char} (hblanks : ∀ c ∈ blanks, c = ' ' ∨ c = '\n')
    (text : List Char) : lexemes (blanks ++ text) = lexemes text := by
  induction blanks with
  | nil => rfl
  | cons c rest ih =>
      rw [List.cons_append, lexemes_blank (hblanks c List.mem_cons_self)]
      exact ih fun d hd => hblanks d (List.mem_cons_of_mem c hd)

/-- The characters that are lexemes by themselves and end a word before them. -/
def isMark (c : Char) : Bool :=
  !isIdentifierPart c && c ≠ '"' && c ≠ ' ' && c ≠ '\n'

theorem lexemes_mark {c : Char} (hmark : isMark c) (text : List Char) :
    lexemes (c :: text) = .mark c :: lexemes text := by
  have hfirst : firstLexeme c text = (some (.mark c), text) := by
    simp only [isMark, Bool.and_eq_true, Bool.not_eq_true', decide_eq_true_eq] at hmark
    obtain ⟨⟨⟨hpart, hquote⟩, hspace⟩, hline⟩ := hmark
    have hstart : ¬ isIdentifierStart c := fun hstart =>
      Bool.false_ne_true (hpart.symm.trans (Casing.isIdentifierPart_of_start hstart))
    simp [firstLexeme, hstart, hquote, hspace, hline]
  exact lexemes_cons hfirst (Nat.le_refl _)

theorem endsWord_nil : EndsWord [] where
  part _ hc := nomatch hc
  line _ htext := nomatch htext
  brace := rfl

theorem endsWord_cons {c : Char} (hpart : isIdentifierPart c = false) (hline : c ≠ '\n')
    (hbrace : closesBlock (c :: text) = false) : EndsWord (c :: text) where
  part d hd := by
    obtain rfl := Option.some.inj hd
    exact hpart
  line _ htext := absurd (List.cons.inj htext).1 hline
  brace := hbrace

/-- A mark other than a closing brace. -/
def isInnerMark (c : Char) : Bool :=
  isMark c && c ≠ '\x7d'

theorem endsWord_mark {c : Char} (hmark : isInnerMark c) (text : List Char) :
    EndsWord (c :: text) := by
  simp only [isInnerMark, isMark, Bool.and_eq_true, Bool.not_eq_true', decide_eq_true_eq] at hmark
  obtain ⟨⟨⟨⟨hpart, -⟩, hspace⟩, hline⟩, hbrace⟩ := hmark
  refine endsWord_cons hpart hline ?_
  simp [closesBlock, hspace, hbrace]

/-- The line break in front of a closing brace ends a word. -/
theorem endsWord_line (hbrace : closesBlock text) : EndsWord ('\n' :: text) where
  part c hc := by
    obtain rfl := Option.some.inj hc
    rfl
  line rest htext := (List.cons.inj htext).2 ▸ hbrace
  brace := rfl

theorem lexemes_quote (s : String) (text : List Char) :
    lexemes ((Text.quote s).toList ++ text) = .quoted s :: lexemes text := by
  let written := s.toList.flatMap Text.escapeChar ++ '"' :: text
  have hfuel : s.toList.length ≤ written.length := by
    have hle := Text.length_le_escaped s.toList
    rw [List.length_append]
    omega
  have hfirst : firstLexeme '"' written = (some (.quoted s), text) := by
    rw [firstLexeme, Text.readChars?_escaped hfuel]
    change (some (Lexeme.quoted (String.ofList s.toList)), text) = _
    rw [String.ofList_toList]
  have hwritten : (Text.quote s).toList ++ text = '"' :: written := by
    rw [Text.quote, String.toList_ofList, Text.quoteChars, List.cons_append, List.cons_append,
      List.append_assoc]
    rfl
  rw [hwritten]
  refine lexemes_cons hfirst ?_
  rw [List.length_append, List.length_cons]
  omega

theorem wordEnd_of_part {part : List Char} (hpart : ∀ c ∈ part, isIdentifierPart c)
    (hends : EndsWord text) : wordEnd (part ++ text) = (part, text) := by
  have htext : text.takeWhile isIdentifierPart = [] ∧ text.dropWhile isIdentifierPart = text := by
    cases text with
    | nil => exact ⟨rfl, rfl⟩
    | cons c rest =>
        have hc := Bool.not_eq_true _ ▸ hends.part c rfl
        exact ⟨List.takeWhile_cons_of_neg hc, List.dropWhile_cons_of_neg hc⟩
  rw [wordEnd, List.dropWhile_append_of_pos hpart, List.takeWhile_append_of_pos hpart, htext.1,
    htext.2, List.append_nil]
  split
  · rename_i rest
    exact if_pos (hends.line rest rfl)
  · rfl

theorem wordEnd_of_line {part : List Char} (hpart : ∀ c ∈ part, isIdentifierPart c)
    (hends : EndsWord text) : wordEnd (part ++ '\n' :: text) = (part ++ ['\n'], text) := by
  have hline : ¬ isIdentifierPart '\n' := by decide
  rw [wordEnd, List.dropWhile_append_of_pos hpart, List.takeWhile_append_of_pos hpart,
    List.dropWhile_cons_of_neg hline, List.takeWhile_cons_of_neg hline, List.append_nil]
  exact if_neg (Bool.eq_false_iff.mp hends.brace)

/-- An identifier is one word, with the line break in which it may end. -/
theorem lexemes_word {name : String} (hname : isIdentifier name) (hends : EndsWord text) :
    lexemes (name.toList ++ text) = .word name :: lexemes text := by
  obtain ⟨_, ending, htext, ⟨c, part, rfl, hstart, hpart⟩, hending⟩ := isIdentifier_iff.mp hname
  have hend : wordEnd (part ++ ending ++ text) = (part ++ ending, text) := by
    rcases hending with rfl | rfl
    · simpa using wordEnd_of_part hpart hends
    · simpa using wordEnd_of_line hpart hends
  have hfirst : firstLexeme c (part ++ ending ++ text) = (some (.word name), text) := by
    rw [firstLexeme, if_pos hstart, hend, ← String.ofList_toList (s := name), htext]
    rfl
  rw [htext]
  refine lexemes_cons hfirst ?_
  rw [List.length_append]
  exact Nat.le_add_left _ _

end Words

end TableTypes.Syntax
