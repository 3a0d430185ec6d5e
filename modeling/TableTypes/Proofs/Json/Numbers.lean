import Mathlib.Data.List.TakeWhile
import TableTypes.Json.Read
import TableTypes.Json.Render
import TableTypes.Proofs.Text.Lines

/-! # Numbers are read up to their ends

A number is read character by character for as long as it goes on, so what comes after it must not
look like more of it. Behind a number in a list or an object there is a comma or a bracket. Each
part of a number is then read as if nothing followed, and what follows is left. All that is read
as a number is plain.
-/

namespace TableTypes.Json

/-- What may follow a value: nothing, a comma, or a bracket that closes. -/
def Ends (rest : List Char) : Prop :=
  ∀ c ∈ rest.head?, c = ',' ∨ c = ']' ∨ c = '\x7d'

theorem ends_nil : Ends [] := by
  simp [Ends]

theorem ends_cons {c : Char} {rest : List Char} :
    Ends (c :: rest) ↔ c = ',' ∨ c = ']' ∨ c = '\x7d' := by
  simp [Ends]

section Parts

variable {s rest : List Char}

theorem Ends.cases (hends : Ends rest) :
    rest = [] ∨ ∃ tail, rest = ',' :: tail ∨ rest = ']' :: tail ∨ rest = '\x7d' :: tail := by
  cases rest with
  | nil => exact Or.inl rfl
  | cons c tail =>
      refine Or.inr ⟨tail, ?_⟩
      rcases ends_cons.mp hends with rfl | rfl | rfl <;> simp

theorem takeWhile_isDigit_append (hends : Ends rest) :
    (s ++ rest).takeWhile Char.isDigit = s.takeWhile Char.isDigit := by
  have hrest : rest.takeWhile Char.isDigit = [] := by
    rcases hends.cases with rfl | ⟨tail, rfl | rfl | rfl⟩ <;> rfl
  induction s with
  | nil => exact hrest
  | cons c s ih =>
      rw [List.cons_append, List.takeWhile_cons, List.takeWhile_cons, ih]

theorem dropWhile_isDigit_append (hends : Ends rest) :
    (s ++ rest).dropWhile Char.isDigit = s.dropWhile Char.isDigit ++ rest := by
  have hrest : rest.dropWhile Char.isDigit = rest := by
    rcases hends.cases with rfl | ⟨tail, rfl | rfl | rfl⟩ <;> rfl
  induction s with
  | nil => exact hrest
  | cons c s ih =>
      rw [List.cons_append, List.dropWhile_cons, List.dropWhile_cons, ih]
      split <;> rfl

/-- What is left over, with more behind it. -/
def followedBy {α : Type} (rest : List Char) (read : Option (α × List Char)) :
    Option (α × List Char) :=
  read.map fun (a, left) => (a, left ++ rest)

theorem readDigits?_append (hends : Ends rest) :
    readDigits? (s ++ rest) = followedBy rest (readDigits? s) := by
  rw [readDigits?, readDigits?, takeWhile_isDigit_append hends, dropWhile_isDigit_append hends]
  split <;> rfl

theorem readFraction?_append (hends : Ends rest) :
    readFraction? (s ++ rest) = followedBy rest (readFraction? s) := by
  cases s with
  | nil => rcases hends.cases with rfl | ⟨tail, rfl | rfl | rfl⟩ <;> rfl
  | cons c s =>
      by_cases hpoint : c = '.'
      · subst hpoint
        exact readDigits?_append hends
      · rw [List.cons_append, readFraction?, readFraction?]
        · rfl
        · simpa using hpoint
        · simpa using hpoint

/-- The sign of an exponent, and what comes after it. -/
def exponentSign : List Char → Bool × List Char
  | '-' :: rest => (true, rest)
  | '+' :: rest => (false, rest)
  | rest => (false, rest)

theorem readExponent?_cons {c : Char} (hc : c = 'e' ∨ c = 'E') (s : List Char) :
    readExponent? (c :: s) = (readDigits? (exponentSign s).2).map fun (digits, rest) =>
      (some (if (exponentSign s).1 then -(ofDigits digits : Int) else ofDigits digits), rest) := by
  rw [readExponent?.eq_def]
  dsimp only
  rw [if_pos hc]
  rfl

theorem exponentSign_append (hends : Ends rest) :
    exponentSign (s ++ rest) = ((exponentSign s).1, (exponentSign s).2 ++ rest) := by
  cases s with
  | nil => rcases hends.cases with rfl | ⟨tail, rfl | rfl | rfl⟩ <;> rfl
  | cons c s =>
      by_cases hminus : c = '-'
      · subst hminus
        rfl
      by_cases hplus : c = '+'
      · subst hplus
        rfl
      simp [exponentSign, hminus, hplus]

theorem readExponent?_append (hends : Ends rest) :
    readExponent? (s ++ rest) = followedBy rest (readExponent? s) := by
  cases s with
  | nil => rcases hends.cases with rfl | ⟨tail, rfl | rfl | rfl⟩ <;> rfl
  | cons c s =>
      by_cases hc : c = 'e' ∨ c = 'E'
      · rw [List.cons_append, readExponent?_cons hc, readExponent?_cons hc,
          exponentSign_append hends, readDigits?_append hends]
        cases readDigits? (exponentSign s).2 <;> rfl
      · simp only [List.cons_append, readExponent?, if_neg hc]
        rfl

/-- The sign of a number, and what comes after it. -/
def numberSign : List Char → Bool × List Char
  | '-' :: rest => (true, rest)
  | s => (false, s)

theorem numberSign_cases (s : List Char) :
    (∃ tail, s = '-' :: tail ∧ numberSign s = (true, tail)) ∨ numberSign s = (false, s) := by
  unfold numberSign
  split
  · exact Or.inl ⟨_, rfl, rfl⟩
  · exact Or.inr rfl

theorem numberSign_append (hends : Ends rest) :
    numberSign (s ++ rest) = ((numberSign s).1, (numberSign s).2 ++ rest) := by
  cases s with
  | nil => rcases hends.cases with rfl | ⟨tail, rfl | rfl | rfl⟩ <;> rfl
  | cons c s =>
      by_cases hminus : c = '-'
      · subst hminus
        rfl
      simp [numberSign, hminus]

/-- The number with a sign, a whole part, a fraction, and an exponent if there is one. -/
def numberOf (negative : Bool) (whole fraction : List Char) (exponent : Option Int) : Value :=
  if fraction.isEmpty ∧ exponent = none then
    .int (if negative then -(ofDigits whole : Int) else ofDigits whole)
  else
    let x := Decimal.nearest (ofDigits (whole ++ fraction)) (exponent.getD 0 - fraction.length)
    .float (if negative then -x else x)

theorem readNumber?_unsigned (s : List Char) :
    readNumber? s =
      match readDigits? (numberSign s).2 with
      | none => none
      | some (whole, rest) =>
        match readFraction? rest with
        | none => none
        | some (fraction, rest) =>
          match readExponent? rest with
          | none => none
          | some (exponent, rest) =>
            if fraction.isEmpty ∧ exponent = none then
              let n : Int := ofDigits whole
              some (.int (if (numberSign s).1 then -n else n), rest)
            else
              let x := Decimal.nearest (ofDigits (whole ++ fraction))
                (exponent.getD 0 - fraction.length)
              some (.float (if (numberSign s).1 then -x else x), rest) := by
  rfl

/-- A number is read part by part. -/
theorem readNumber?_eq (s : List Char) :
    readNumber? s = (do
      let (whole, rest) ← readDigits? (numberSign s).2
      let (fraction, rest) ← readFraction? rest
      let (exponent, rest) ← readExponent? rest
      return (numberOf (numberSign s).1 whole fraction exponent, rest)) := by
  rw [readNumber?_unsigned]
  cases readDigits? (numberSign s).2 with
  | none => rfl
  | some read =>
      obtain ⟨whole, rest⟩ := read
      dsimp only [bind, Option.bind]
      cases readFraction? rest with
      | none => rfl
      | some read =>
          obtain ⟨fraction, rest⟩ := read
          dsimp only
          cases readExponent? rest with
          | none => rfl
          | some read =>
              obtain ⟨exponent, rest⟩ := read
              dsimp only [numberOf]
              split
              · rfl
              · rfl

theorem readNumber?_append (hends : Ends rest) :
    readNumber? (s ++ rest) = followedBy rest (readNumber? s) := by
  rw [readNumber?_eq, readNumber?_eq, numberSign_append hends, readDigits?_append hends]
  cases readDigits? (numberSign s).2 with
  | none => rfl
  | some read =>
      change readFraction? (read.2 ++ rest) >>= _ = followedBy rest (readFraction? read.2 >>= _)
      rw [readFraction?_append hends]
      cases readFraction? read.2 with
      | none => rfl
      | some read' =>
          change readExponent? (read'.2 ++ rest) >>= _ =
            followedBy rest (readExponent? read'.2 >>= _)
          rw [readExponent?_append hends]
          cases readExponent? read'.2 <;> rfl

end Parts

section Plain

open Text (IsPlain isPlain_of_isDigit)

variable {s rest : List Char}

/-- Every character is plain, or left over. -/
def PlainUpTo (rest s : List Char) : Prop :=
  ∀ c ∈ s, IsPlain c ∨ c ∈ rest

theorem PlainUpTo.refl (s : List Char) : PlainUpTo s s :=
  fun _ hc => Or.inr hc

theorem PlainUpTo.cons {c : Char} (hc : IsPlain c) (hplain : PlainUpTo rest s) :
    PlainUpTo rest (c :: s) :=
  List.forall_mem_cons.mpr ⟨Or.inl hc, hplain⟩

theorem PlainUpTo.trans {between : List Char} (hfirst : PlainUpTo between s)
    (hsecond : PlainUpTo rest between) : PlainUpTo rest s :=
  fun c hc => (hfirst c hc).elim Or.inl (hsecond c)

theorem plainUpTo_of_readDigits? {digits : List Char}
    (hread : readDigits? s = some (digits, rest)) :
    PlainUpTo rest s ∧ ∃ c tail, s = c :: tail ∧ c.isDigit := by
  rw [readDigits?] at hread
  split at hread
  · cases hread
  · rename_i hsome
    obtain ⟨rfl, rfl⟩ := Prod.mk.inj (Option.some.inj hread)
    have hdigits : ∀ c ∈ s.takeWhile Char.isDigit, c.isDigit := fun _ => List.mem_takeWhile_imp
    refine ⟨fun c hc => ?_, ?_⟩
    · rw [← List.takeWhile_append_dropWhile (p := Char.isDigit) (l := s)] at hc
      exact (List.mem_append.mp hc).imp (fun hc => isPlain_of_isDigit (hdigits c hc)) id
    · cases s with
      | nil => simp at hsome
      | cons c tail =>
          refine ⟨c, tail, rfl, ?_⟩
          by_contra hother
          simp [hother] at hsome

theorem plainUpTo_of_readFraction? {fraction : List Char}
    (hread : readFraction? s = some (fraction, rest)) : PlainUpTo rest s := by
  unfold readFraction? at hread
  split at hread
  · exact (plainUpTo_of_readDigits? hread).1.cons (by decide)
  · obtain ⟨-, rfl⟩ := Prod.mk.inj (Option.some.inj hread)
    exact .refl _

theorem plainUpTo_exponentSign (s : List Char) : PlainUpTo (exponentSign s).2 s := by
  unfold exponentSign
  split
  · exact (PlainUpTo.refl _).cons (by decide)
  · exact (PlainUpTo.refl _).cons (by decide)
  · exact .refl _

theorem plainUpTo_of_readExponent? {exponent : Option Int}
    (hread : readExponent? s = some (exponent, rest)) : PlainUpTo rest s := by
  cases s with
  | nil =>
      obtain ⟨-, rfl⟩ := Prod.mk.inj (Option.some.inj hread)
      exact .refl _
  | cons c s =>
      by_cases hc : c = 'e' ∨ c = 'E'
      · rw [readExponent?_cons hc, Option.map_eq_some_iff] at hread
        obtain ⟨⟨digits, left⟩, hdigits, hread⟩ := hread
        obtain ⟨-, rfl⟩ := Prod.mk.inj hread
        refine PlainUpTo.cons (by rcases hc with rfl | rfl <;> decide) ?_
        exact (plainUpTo_exponentSign s).trans (plainUpTo_of_readDigits? hdigits).1
      · simp only [readExponent?, if_neg hc] at hread
        obtain ⟨-, rfl⟩ := Prod.mk.inj (Option.some.inj hread)
        exact .refl _

/-- A number starts with its sign or a digit, and has plain characters only. -/
theorem plainUpTo_of_readNumber? {v : Value} (hread : readNumber? s = some (v, rest)) :
    PlainUpTo rest s ∧ ∃ c tail, s = c :: tail ∧ (c = '-' ∨ c.isDigit) := by
  rw [readNumber?_eq] at hread
  obtain ⟨⟨whole, afterWhole⟩, hwhole, hread⟩ := Option.bind_eq_some_iff.mp hread
  obtain ⟨⟨fraction, afterFraction⟩, hfraction, hread⟩ := Option.bind_eq_some_iff.mp hread
  obtain ⟨⟨exponent, left⟩, hexponent, hread⟩ := Option.bind_eq_some_iff.mp hread
  obtain ⟨-, rfl⟩ := Prod.mk.inj (Option.some.inj hread)
  obtain ⟨hplain, c, tail, hstart, hdigit⟩ := plainUpTo_of_readDigits? hwhole
  have hrest := hplain.trans ((plainUpTo_of_readFraction? hfraction).trans
    (plainUpTo_of_readExponent? hexponent))
  rcases numberSign_cases s with ⟨tail, rfl, hsign⟩ | hsign
  · rw [hsign] at hrest
    exact ⟨hrest.cons (by decide), '-', tail, rfl, Or.inl rfl⟩
  · rw [hsign] at hrest hstart
    exact ⟨hrest, c, tail, hstart, Or.inr hdigit⟩

end Plain

section Rows

variable {s t : List Char}

/-- A row of decimal digits. -/
structure IsRow (s : List Char) : Prop where
  nonempty : s ≠ []
  digits : ∀ c ∈ s, c.isDigit

theorem isRow_toDigits (n : Nat) : IsRow (Nat.toDigits 10 n) :=
  ⟨Nat.toDigits_ne_nil, fun _ hc => Nat.isDigit_of_mem_toDigits (by decide) (by decide) hc⟩

/-- A row is read up to what is no digit. -/
theorem IsRow.readDigits? (hs : IsRow s) (hrest : ∀ c ∈ t.head?, c.isDigit = false) :
    readDigits? (s ++ t) = some (s, t) := by
  have htake : t.takeWhile Char.isDigit = [] ∧ t.dropWhile Char.isDigit = t := by
    cases t with
    | nil => exact ⟨rfl, rfl⟩
    | cons c t =>
        have hc : c.isDigit = false := hrest c rfl
        exact ⟨List.takeWhile_cons_of_neg (by simp [hc]), List.dropWhile_cons_of_neg (by simp [hc])⟩
  rw [Json.readDigits?, List.takeWhile_append_of_pos hs.digits,
    List.dropWhile_append_of_pos hs.digits, htake.1, htake.2, List.append_nil,
    if_neg (by simpa using hs.nonempty)]

theorem IsRow.readDigits?_self (hs : IsRow s) : Json.readDigits? s = some (s, []) := by
  have hread := hs.readDigits? (t := []) (by simp)
  rwa [List.append_nil] at hread

/-- A row does not start with a sign. -/
theorem IsRow.numberSign (hs : IsRow s) (t : List Char) :
    numberSign (s ++ t) = (false, s ++ t) := by
  rcases numberSign_cases (s ++ t) with ⟨tail, hminus, -⟩ | hsign
  · obtain ⟨c, s, rfl⟩ := List.exists_cons_of_ne_nil hs.nonempty
    have hdigit := hs.digits c List.mem_cons_self
    rw [(List.cons.inj hminus).1] at hdigit
    cases hdigit
  · exact hsign

end Rows

section Integers

theorem ofDigits_toDigits (n : Nat) : ofDigits (Nat.toDigits 10 n) = n :=
  Nat.ofDigitChars_toDigits (by decide) (by decide)

/-- An integer is read back from its digits. -/
theorem readNumber?_int (n : Int) : readNumber? (toString n).toList = some (.int n, []) := by
  cases n with
  | ofNat n =>
      have hsign := (isRow_toDigits n).numberSign []
      rw [List.append_nil] at hsign
      have hwritten : (toString (Int.ofNat n)).toList = Nat.toDigits 10 n := Nat.toList_repr
      rw [hwritten, readNumber?_eq, hsign, (isRow_toDigits n).readDigits?_self]
      simp [readFraction?, readExponent?, numberOf, ofDigits_toDigits]
  | negSucc n =>
      have hwritten : (toString (Int.negSucc n)).toList = '-' :: Nat.toDigits 10 (n + 1) := by
        simp [Int.toString_eq_repr, Int.repr, Nat.toList_repr]
      rw [hwritten, readNumber?_eq]
      change (readDigits? (Nat.toDigits 10 (n + 1)) >>= _) = _
      rw [(isRow_toDigits (n + 1)).readDigits?_self]
      simp [readFraction?, readExponent?, numberOf, ofDigits_toDigits, numberSign, Int.negSucc_eq]

end Integers

end TableTypes.Json
