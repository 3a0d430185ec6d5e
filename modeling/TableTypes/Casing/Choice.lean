import TableTypes.Value.Basic

/-!
# Choosing styles

The styles of the three kinds of names are chosen by values that should be names of styles. The
first value that is not decides the refusal.
-/

namespace TableTypes.Casing

/-- Why no style was chosen. -/
inductive StyleRefusal where
  /-- No style has the name. -/
  | unknown (name : String)
  /-- A value of this kind is no name at all. -/
  | notName (kind : String)
  /-- There is no such kind of name to choose a style for. -/
  | unexpected (option : String)
  deriving DecidableEq, Repr

/-- The text that explains the refusal. -/
def StyleRefusal.message : StyleRefusal → String
  | unknown name => Style.unknownMessage name
  | notName kind => "'" ++ kind ++ "' object has no attribute 'lower'"
  | unexpected option =>
    "Transformations.from_names() got an unexpected keyword argument '" ++ option ++ "'"

/-- The style that a value names. -/
def Style.ofValue : Value → Except StyleRefusal Style
  | .text name => match Style.find? name with
    | .some style => .ok style
    | .none => .error (.unknown name)
  | .style s => .ok s
  | v => .error (.notName v.kind)

/-- The style that a field names, or the style for when the field is absent. -/
def Style.ofField (fields : List (String × Value)) (name : String) (absent : Style) :
    Except StyleRefusal Style :=
  match fields.lookup name with
  | .some v => Style.ofValue v
  | .none => .ok absent

/-- The styles that the fields `columns`, `enum_members` and `type_names` name, in that order. -/
def Transformations.ofFields (fields : List (String × Value)) :
    Except StyleRefusal Transformations := do
  let known := ["columns", "enum_members", "type_names"]
  if let some (option, _) := fields.find? fun (option, _) => !known.contains option then
    throw (.unexpected option)
  let absent : Transformations := {}
  let columns ← Style.ofField fields "columns" absent.columns
  let enumMembers ← Style.ofField fields "enum_members" absent.enumMembers
  let typeNames ← Style.ofField fields "type_names" absent.typeNames
  return ⟨columns, enumMembers, typeNames⟩

end TableTypes.Casing
