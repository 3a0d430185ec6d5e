import TableTypes.Proofs.FirstFailure
import TableTypes.Proofs.Value.Fields
import TableTypes.Syntax.Tagged.Read
import TableTypes.Syntax.Tagged.Write

/-! # Tagged nodes are read back

Every node that is written as a tagged node is read back as itself. In particular no part of a
statement stands in a place that is not meant for it.
-/

namespace TableTypes

namespace Value

theorem val_entryPart? (name : String) (entries : List (Value × Value)) :
    (entryPart? name entries).map Subtype.val = (textEntries entries).lookup name := by
  induction entries with
  | nil => rfl
  | cons entry rest ih =>
      obtain ⟨key, v⟩ := entry
      have hrest : ((entryPart? name rest).map fun part => part.val) =
          (textEntries rest).lookup name := ih
      unfold entryPart?
      cases key with
      | text key =>
          by_cases hkey : key = name
          · simp [textEntries, text?, hkey]
          · have hother : (name == key) = false := beq_false_of_ne (Ne.symm hkey)
            simp [textEntries, text?, hkey, hother, List.lookup_cons, Function.comp_def, hrest]
      | _ => simp [textEntries, text?, Function.comp_def, hrest]

/-- A part of a map is the field with its name. -/
theorem val_part? (v : Value) (name : String) :
    (v.part? name).map Subtype.val = v.field? name := by
  cases v with
  | map entries =>
      rw [part?, Option.map_map]
      exact val_entryPart? name entries
  | _ => rfl

theorem part?_eq_some {v part : Value} {name : String} (hfield : v.field? name = some part) :
    ∃ hsize, v.part? name = some ⟨part, hsize⟩ := by
  rw [← val_part?] at hfield
  obtain ⟨found, hfound, rfl⟩ := Option.map_eq_some_iff.mp hfield
  exact ⟨found.2, hfound⟩

theorem mapM_parts {α ε : Type} (items : List Value) (read : Value → Except ε α) :
    ((list items).parts.mapM fun part => read part.val) = items.mapM read := by
  have hparts : (list items).parts.map Subtype.val = items := by
    rw [parts, List.map_map]
    exact List.attach_map_subtype_val items
  change (list items).parts.mapM (read ∘ Subtype.val) = _
  rw [← List.mapM_map, hparts]

end Value

namespace Syntax

variable {v part : Value}

theorem field?_tagged (kind : String) (fields : List (String × Value)) (name : String) :
    (tagged kind fields).field? name = (("node", Value.text kind) :: fields).lookup name :=
  congrArg (List.lookup name) (Value.textEntries_map _)

theorem kindOf_tagged (kind : String) (fields : List (String × Value)) :
    kindOf (tagged kind fields) = kind := by
  rw [kindOf, field?_tagged]
  rfl

section Fields

theorem typeIn_eq (name : String) (hfield : v.field? name = some part) :
    typeIn v name = TypeNode.ofTagged part := by
  obtain ⟨hsize, hpart⟩ := Value.part?_eq_some hfield
  rw [typeIn, hpart]

theorem typesIn_eq (name : String) {items : List Value}
    (hfield : v.field? name = some (.list items)) :
    typesIn v name = items.mapM TypeNode.ofTagged := by
  obtain ⟨hsize, hpart⟩ := Value.part?_eq_some hfield
  rw [typesIn, hpart]
  exact Value.mapM_parts items TypeNode.ofTagged

theorem membersIn_eq {items : List Value} (hfield : v.field? "members" = some (.list items)) :
    membersIn v = items.mapM Member.ofTagged := by
  obtain ⟨hsize, hpart⟩ := Value.part?_eq_some hfield
  rw [membersIn, hpart]
  exact Value.mapM_parts items Member.ofTagged

theorem expressionIn_eq (name : String) (hfield : v.field? name = some part) :
    expressionIn v name = Expression.ofTagged part := by
  obtain ⟨hsize, hpart⟩ := Value.part?_eq_some hfield
  rw [expressionIn, hpart]

theorem argumentsIn_eq {items : List Value} (hfield : v.field? "arguments" = some (.list items)) :
    argumentsIn v = items.mapM Expression.ofTagged := by
  obtain ⟨hsize, hpart⟩ := Value.part?_eq_some hfield
  rw [argumentsIn, hpart]
  exact Value.mapM_parts items Expression.ofTagged

/-- Read one property of an object. -/
def propertyIn (v : Value) : Except Misplaced (String × Expression) := do
  let initializer ← expressionIn v "initializer"
  return (textField v "name", initializer)

theorem propertiesIn_eq {items : List Value} (hfield : v.field? "properties" = some (.list items)) :
    propertiesIn v = items.mapM propertyIn := by
  obtain ⟨hsize, hpart⟩ := Value.part?_eq_some hfield
  rw [propertiesIn, hpart]
  exact Value.mapM_parts items propertyIn

end Fields

section Types

mutual

theorem TypeNode.ofTagged_toTagged : (type : TypeNode) →
    TypeNode.ofTagged type.toTagged = .ok type
  | .keyword word => by
    rw [TypeNode.toTagged, TypeNode.ofTagged, kindOf_tagged]
    rfl
  | .reference name arguments => by
    have harguments := mapM_taggedTypes arguments
    rw [TypeNode.toTagged, TypeNode.ofTagged, kindOf_tagged,
      typesIn_eq "type_arguments" (field?_tagged ..), harguments]
    rfl
  | .array element => by
    have helement := element.ofTagged_toTagged
    rw [TypeNode.toTagged, TypeNode.ofTagged, kindOf_tagged,
      typeIn_eq "element" (field?_tagged ..), helement]
    rfl
  | .union types => by
    have htypes := mapM_taggedTypes types
    rw [TypeNode.toTagged, TypeNode.ofTagged, kindOf_tagged,
      typesIn_eq "types" (field?_tagged ..), htypes]
    rfl
  | .literal members => by
    have hmembers := mapM_taggedMembers members
    rw [TypeNode.toTagged, TypeNode.ofTagged, kindOf_tagged, membersIn_eq (field?_tagged ..),
      hmembers]
    rfl

theorem mapM_taggedTypes : (types : List TypeNode) →
    (taggedTypes types).mapM TypeNode.ofTagged = .ok types
  | [] => rfl
  | type :: rest => by
    have htype := type.ofTagged_toTagged
    have hrest := mapM_taggedTypes rest
    rw [taggedTypes, List.mapM_cons, htype, hrest]
    rfl

theorem Member.ofTagged_toTagged : (member : Member) →
    Member.ofTagged member.toTagged = .ok member
  | .property name type optional => by
    have htype := type.ofTagged_toTagged
    rw [Member.toTagged, Member.ofTagged, kindOf_tagged,
      typeIn_eq "type" (field?_tagged ..), htype]
    rfl
  | .index parameter parameterType type => by
    have hparameterType := parameterType.ofTagged_toTagged
    have htype := type.ofTagged_toTagged
    rw [Member.toTagged, Member.ofTagged, kindOf_tagged,
      typeIn_eq "parameter_type" (field?_tagged ..), hparameterType,
      typeIn_eq "type" (field?_tagged ..), htype]
    rfl

theorem mapM_taggedMembers : (members : List Member) →
    (taggedMembers members).mapM Member.ofTagged = .ok members
  | [] => rfl
  | member :: rest => by
    have hmember := member.ofTagged_toTagged
    have hrest := mapM_taggedMembers rest
    rw [taggedMembers, List.mapM_cons, hmember, hrest]
    rfl

end

end Types

section Expressions

mutual

theorem Expression.ofTagged_toTagged : (expression : Expression) →
    Expression.ofTagged expression.toTagged = .ok expression
  | .identifier text => by
    rw [Expression.toTagged, Expression.ofTagged, kindOf_tagged]
    rfl
  | .string value => by
    rw [Expression.toTagged, Expression.ofTagged, kindOf_tagged]
    rfl
  | .access target name => by
    have htarget := target.ofTagged_toTagged
    rw [Expression.toTagged, Expression.ofTagged, kindOf_tagged,
      expressionIn_eq "expression" (field?_tagged ..), htarget]
    rfl
  | .call callee arguments => by
    have hcallee := callee.ofTagged_toTagged
    have harguments := mapM_taggedArguments arguments
    rw [Expression.toTagged, Expression.ofTagged, kindOf_tagged,
      argumentsIn_eq (field?_tagged ..), harguments,
      expressionIn_eq "callee" (field?_tagged ..), hcallee]
    rfl
  | .arrow body => by
    have hbody := body.ofTagged_toTagged
    rw [Expression.toTagged, Expression.ofTagged, kindOf_tagged,
      expressionIn_eq "body" (field?_tagged ..), hbody]
    rfl
  | .object properties => by
    have hproperties := mapM_taggedProperties properties
    rw [Expression.toTagged, Expression.ofTagged, kindOf_tagged,
      propertiesIn_eq (field?_tagged ..), hproperties]
    rfl
  | .asConst operand => by
    have hoperand := operand.ofTagged_toTagged
    rw [Expression.toTagged, Expression.ofTagged, kindOf_tagged,
      expressionIn_eq "expression" (field?_tagged ..), hoperand]
    rfl

theorem mapM_taggedArguments : (arguments : List Expression) →
    (taggedArguments arguments).mapM Expression.ofTagged = .ok arguments
  | [] => rfl
  | argument :: rest => by
    have hargument := argument.ofTagged_toTagged
    have hrest := mapM_taggedArguments rest
    rw [taggedArguments, List.mapM_cons, hargument, hrest]
    rfl

theorem mapM_taggedProperties : (properties : List (String × Expression)) →
    (taggedProperties properties).mapM propertyIn = .ok properties
  | [] => rfl
  | (name, initializer) :: rest => by
    have hinitializer := initializer.ofTagged_toTagged
    have hrest := mapM_taggedProperties rest
    rw [taggedProperties, List.mapM_cons, propertyIn,
      expressionIn_eq "initializer" (field?_tagged ..), hinitializer, hrest]
    rfl

end

end Expressions

section Statements

theorem filterMap_text? (texts : List String) :
    (texts.map Value.text).filterMap Value.text? = texts := by
  rw [List.filterMap_map]
  exact List.filterMap_some

theorem textsField_tagged (name : String) {texts : List String}
    (hfield : v.field? name = some (textList texts)) : textsField v name = texts := by
  rw [textsField, hfield]
  exact filterMap_text? texts

theorem map_enumMember (members : List (String × String)) :
    (members.map taggedEnumMember).map enumMember = members := by
  rw [List.map_map]
  exact List.map_id _

/-- A statement that is written as a tagged node is read back as itself. -/
theorem Statement.ofTagged_toTagged (statement : Statement) :
    Statement.ofTagged statement.toTagged = .ok statement := by
  cases statement with
  | importNames names source =>
      rw [Statement.toTagged, Statement.ofTagged, kindOf_tagged,
        textsField_tagged "names" (field?_tagged ..)]
      rfl
  | interface name members exported =>
      rw [Statement.toTagged, Statement.ofTagged, kindOf_tagged, membersIn_eq (field?_tagged ..),
        mapM_taggedMembers members]
      rfl
  | typeAlias name parameters type exported =>
      rw [Statement.toTagged, Statement.ofTagged, kindOf_tagged,
        typeIn_eq "type" (field?_tagged ..), type.ofTagged_toTagged,
        textsField_tagged "type_parameters" (field?_tagged ..)]
      rfl
  | «enum» name members exported =>
      rw [Statement.toTagged, Statement.ofTagged, kindOf_tagged, field?_tagged]
      exact congrArg (fun read => Except.ok (Statement.enum name read exported))
        (map_enumMember members)
  | constant name initializer exported =>
      rw [Statement.toTagged, Statement.ofTagged, kindOf_tagged,
        expressionIn_eq "initializer" (field?_tagged ..),
        initializer.ofTagged_toTagged]
      rfl
  | comment text =>
      rw [Statement.toTagged, Statement.ofTagged, kindOf_tagged]
      rfl

/-- No node of a module is refused where it stands, so the whole module can be printed. -/
theorem mapM_taggedStatements (statements : List Statement) :
    (statements.map Statement.toTagged).mapM Statement.ofTagged = .ok statements := by
  induction statements with
  | nil => rfl
  | cons statement rest ih =>
      rw [List.map_cons, List.mapM_cons, statement.ofTagged_toTagged, ih]
      rfl

end Statements

end Syntax

end TableTypes
