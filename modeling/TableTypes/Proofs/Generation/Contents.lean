import TableTypes.Proofs.Generation.Verdict

/-! # What a module contains

The module of a run is the preamble, one enum for each enumerated type, and one block for each
table, whose parts stand in a fixed order. A part is there or not by the plan and the table, and
for the validator also by the tables before. Each part is what its builder makes of the table
and of the registry that the run ends with.
-/

namespace TableTypes.Generation

open Declaration (Draft Scope)
open Syntax (Statement)

variable {plan : Plan} {source : Source} {enums : List EnumType} {tables : List Table}

/-- The declaration that was built, if it is wanted, and nothing otherwise. -/
inductive Part (wanted : Prop) (built : Except UnknownType Statement) : List Statement → Prop where
  | declared {statement : Statement} :
      wanted → built = .ok statement → Part wanted built [statement]
  | omitted : ¬ wanted → Part wanted built []

/-- The statements in front of the declarations: a comment, what validators are made of if there are
any, and the types that others refer to. -/
def Preamble (plan : Plan) (head : List Statement) : Prop :=
  ∃ imports, Part plan.validators (.ok (.importNames ["z"] "zod")) imports ∧
    head = .comment "This file is generated by pgtypegen. Do not edit by hand." :: (imports ++
      [.typeAlias "Json" [] (.union [.string, .number, .boolean, .null, .array (.named "Json"),
          .literal [.index "key" .string (.named "Json")]]) true,
        .typeAlias "Nullable" ["T"] (.union [.named "T", .null]) true])

/-- The declarations for a table that is listed after other ones. -/
def TableBlock (plan : Plan) (scope : Scope) (earlier : List Table) (table : Table)
    (block : List Statement) : Prop :=
  ∃ primary insert typeObject validator,
    Part plan.tables (Declaration.interface scope table .primary) primary ∧
    Part (plan.insertTypes ∧ table.canInsert) (Declaration.interface scope table .insert) insert ∧
    Part plan.typeObjects (Declaration.typeObject scope table) typeObject ∧
    Part (plan.validators ∧ ∀ other ∈ earlier, other.name ≠ table.name)
      (Declaration.validator scope table) validator ∧
    block = primary ++ insert ++ typeObject ++ validator

/-- The declarations for the enumerated types. -/
def enumBlock (plan : Plan) (scope : Scope) (enums : List EnumType) : List Statement :=
  if plan.enums then enums.map (Declaration.enumType scope) else []

section Drafts

variable {scope : Scope} {declarations : List Statement}

theorem Part.of_mapM {flag : Bool} {wanted : Prop} (hwanted : flag ↔ wanted) {draft : Draft}
    {part : List Statement}
    (hbuild : (if flag then [draft] else []).mapM (Draft.build scope) = .ok part) :
    Part wanted (draft.build scope) part := by
  cases flag with
  | false =>
      obtain rfl := Except.ok.inj hbuild
      exact .omitted fun h => Bool.false_ne_true (hwanted.mpr h)
  | true =>
      obtain ⟨statement, rest, hstatement, hrest, rfl⟩ :=
        List.forall₂_cons_left_iff.mp (mapM_eq_ok_iff.mp hbuild)
      cases hrest
      exact .declared (hwanted.mp rfl) hstatement

theorem tableBlock_of_mapM {earlier : List Table} {table : Table} {block : List Statement}
    (hbuild : (plan.tableDrafts (earlier.map (·.name)) table).mapM (Draft.build scope) =
      .ok block) : TableBlock plan scope earlier table block := by
  have hnew : (plan.validators && !(earlier.map (·.name)).contains table.name) = true ↔
      plan.validators ∧ ∀ other ∈ earlier, other.name ≠ table.name := by
    simp
  unfold Plan.tableDrafts at hbuild
  obtain ⟨three, validator, hthree, hvalidator, rfl⟩ := mapM_append_eq_ok_iff.mp hbuild
  obtain ⟨two, typeObject, htwo, htypeObject, rfl⟩ := mapM_append_eq_ok_iff.mp hthree
  obtain ⟨primary, insert, hprimary, hinsert, rfl⟩ := mapM_append_eq_ok_iff.mp htwo
  exact ⟨primary, insert, typeObject, validator, Part.of_mapM Iff.rfl hprimary,
    Part.of_mapM Bool.and_eq_true_iff hinsert, Part.of_mapM Iff.rfl htypeObject,
    Part.of_mapM hnew hvalidator, rfl⟩

theorem enumBlock_of_mapM
    (hbuild : (plan.enumDrafts enums).mapM (Draft.build scope) = .ok declarations) :
    declarations = enumBlock plan scope enums := by
  unfold Plan.enumDrafts at hbuild
  unfold enumBlock
  split at hbuild
  · rename_i henums
    rw [if_pos henums]
    rw [List.mapM_map] at hbuild
    have hpure : Draft.build scope ∘ Draft.enum =
        fun type => (pure (Declaration.enumType scope type) : Except UnknownType Statement) := rfl
    rw [hpure, List.mapM_pure] at hbuild
    exact (Except.ok.inj hbuild).symm
  · rename_i henums
    rw [if_neg henums]
    exact (Except.ok.inj hbuild).symm

end Drafts

end TableTypes.Generation
