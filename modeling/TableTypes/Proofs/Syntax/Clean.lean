import TableTypes.Proofs.Syntax.ExpressionLexemes
import TableTypes.Proofs.Text.Lines

/-! # Clean text

Whatever texts an expression holds, it is printed in plain characters and line breaks if its names
are identifiers, for a text that may be anything is quoted. A name may end in the one line break
that does not count, and no other break comes from a name or a text.
-/

namespace TableTypes.Syntax

open Text (Bare Clean Composable)

section Names

theorem bare_of_part {name : String} (hname : ∀ c ∈ name.toList, Casing.isIdentifierPart c) :
    Bare name := by
  refine fun c hc => ⟨Or.inl (Text.isPlain_of_part (hname c hc)), ?_⟩
  rintro rfl
  exact absurd (hname _ hc) (by decide)

theorem bare_of_isIdentifier {name : String} (hname : isIdentifier name) : Bare name := by
  obtain ⟨part, ending, htext, hpart, hending⟩ := isIdentifier_iff.mp hname
  have hbare : Bare (String.ofList part) := bare_of_part (by simpa using hpart.part)
  unfold Bare at hbare ⊢
  rw [String.toList_ofList] at hbare
  rw [htext, List.forall_mem_append]
  refine ⟨hbare, ?_⟩
  rcases hending with rfl | rfl <;> simp

end Names

section Trees

variable {P : String → Prop} {unit : String}

theorem composed_propertyName (hP : Composable P) (name : String) : P (propertyName name) := by
  unfold propertyName
  split
  · exact hP.bare (bare_of_isIdentifier ‹_›)
  · exact hP.quote name

theorem composed_indentation (hP : Composable P) (hunit : P unit) (depth : Nat) :
    P (indentation unit depth) :=
  hP.join fun _ hcopy => List.eq_of_mem_replicate hcopy ▸ hunit

mutual

theorem Expression.composed_print (hP : Composable P) (hunit : P unit) (depth : Nat) :
    (expression : Expression) → expression.Named → P (expression.print unit depth)
  | .identifier _, hnamed => hP.bare (bare_of_isIdentifier hnamed)
  | .string value, _ => hP.quote value
  | .access target name, hnamed => by
    have htarget := target.composed_print hP hunit depth hnamed.1
    rw [Expression.print]
    exact hP.append (hP.append htarget (hP.bare (by decide)))
      (hP.bare (bare_of_isIdentifier hnamed.2))
  | .call callee arguments, hnamed => by
    have hcallee := callee.composed_print hP hunit depth hnamed.1
    have harguments := hP.intercalate (hP.bare (by decide : Bare ", "))
      (composed_printArguments hP hunit depth arguments hnamed.2)
    rw [Expression.print]
    exact hP.append (hP.append (hP.append hcallee (hP.bare (by decide))) harguments)
      (hP.bare (by decide))
  | .arrow body, hnamed => by
    have hbody := body.composed_print hP hunit depth hnamed
    rw [Expression.print]
    exact hP.append (hP.bare (by decide)) hbody
  | .object [], _ => by
    rw [Expression.print]
    exact hP.bare (by decide)
  | .object (first :: rest), hnamed => by
    have hproperties := hP.intercalate (hP.bare (by decide : Bare ",\n"))
      (composed_printProperties hP hunit (depth + 1) (first :: rest) hnamed)
    rw [Expression.print]
    exact hP.append (hP.append (hP.append (hP.append (hP.bare (by decide)) hproperties)
      (hP.bare (by decide))) (composed_indentation hP hunit depth)) (hP.bare (by decide))
  | .asConst operand, hnamed => by
    have hoperand := operand.composed_print hP hunit depth hnamed
    rw [Expression.print]
    exact hP.append hoperand (hP.bare (by decide))

theorem composed_printArguments (hP : Composable P) (hunit : P unit) (depth : Nat) :
    (arguments : List Expression) → NamedArguments arguments →
      ∀ text ∈ printArguments unit depth arguments, P text
  | [], _ => by simp [printArguments]
  | argument :: rest, hnamed => by
    rw [printArguments]
    exact List.forall_mem_cons.mpr ⟨argument.composed_print hP hunit depth hnamed.1,
      composed_printArguments hP hunit depth rest hnamed.2⟩

theorem composed_printProperties (hP : Composable P) (hunit : P unit) (depth : Nat) :
    (properties : List (String × Expression)) → NamedProperties properties →
      ∀ text ∈ printProperties unit depth properties, P text
  | [], _ => by simp [printProperties]
  | (name, initializer) :: rest, hnamed => by
    have hinitializer := initializer.composed_print hP hunit depth hnamed.1
    rw [printProperties]
    refine List.forall_mem_cons.mpr ⟨?_, composed_printProperties hP hunit depth rest hnamed.2⟩
    exact hP.append (hP.append (hP.append (composed_indentation hP hunit depth)
      (composed_propertyName hP name)) (hP.bare (by decide))) hinitializer

end

end Trees

section Statements

variable {unit name : String}

theorem clean_propertyName (name : String) : Clean (propertyName name) :=
  composed_propertyName Text.composable_clean name

theorem clean_indentation (hunit : Clean unit) (depth : Nat) : Clean (indentation unit depth) :=
  composed_indentation Text.composable_clean hunit depth

theorem clean_printMembers (hunit : Clean unit) (depth : Nat) {members : List Member}
    (hmembers : ∀ member ∈ members, Clean (member.print unit depth)) :
    Clean (printMembers unit depth members) := by
  induction members with
  | nil =>
      rw [printMembers]
      decide
  | cons member rest ih =>
      obtain ⟨hmember, hrest⟩ := List.forall_mem_cons.mp hmembers
      simp +decide [printMembers, clean_indentation hunit depth, hmember, ih hrest]

theorem clean_exportMark (exported : Bool) : Clean (exportMark exported) := by
  cases exported <;> decide

theorem clean_printEnumMember (hunit : Clean unit) (member : String × String) :
    Clean (printEnumMember unit member) := by
  simp +decide [printEnumMember, clean_indentation hunit 1, clean_propertyName,
    (Text.plain_quote member.2).clean]

theorem clean_print_enum (hunit : Clean unit) (hname : Clean name)
    (members : List (String × String)) (exported : Bool) :
    Clean ((Statement.enum name members exported).print unit) := by
  have hmembers : Clean (",\n".intercalate (members.map (printEnumMember unit))) := by
    refine Text.composable_clean.intercalate (by decide) fun text htext => ?_
    obtain ⟨member, _, rfl⟩ := List.mem_map.mp htext
    exact clean_printEnumMember hunit member
  rw [Statement.print]
  split <;> simp +decide [clean_exportMark, hname, hmembers]

theorem clean_print_interface (hunit : Clean unit) (hname : Clean name) {members : List Member}
    (hmembers : ∀ member ∈ members, Clean (member.print unit 1)) (exported : Bool) :
    Clean ((Statement.interface name members exported).print unit) := by
  simp +decide [Statement.print, clean_exportMark, hname, clean_printMembers hunit 1 hmembers]

theorem clean_print_constant (hunit : Clean unit) (hname : Clean name) {initializer : Expression}
    (hnamed : initializer.Named) (exported : Bool) :
    Clean ((Statement.constant name initializer exported).print unit) := by
  simp +decide [Statement.print, clean_exportMark, hname,
    initializer.composed_print Text.composable_clean hunit 0 hnamed]

end Statements

end TableTypes.Syntax
