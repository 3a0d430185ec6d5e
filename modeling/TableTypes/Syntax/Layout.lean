import TableTypes.Syntax.Printer
import TableTypes.Value.Basic

/-!
# Layouts by name

A layout out of named values; what is not given has its default.
-/

namespace TableTypes.Syntax

/-- Why a layout is refused. -/
inductive LayoutRefusal where
  /-- There is no such setting. -/
  | unexpected (setting : String)
  /-- The name is taken by the layout that is built. -/
  | repeated
  deriving DecidableEq, Repr

/-- The text that explains the refusal. -/
def LayoutRefusal.message : LayoutRefusal → String
  | unexpected setting =>
    "PrinterOptions.__init__() got an unexpected keyword argument '" ++ setting ++ "'"
  | repeated => "PrinterOptions.__init__() got multiple values for argument 'self'"

/-- A layout by name. -/
def Layout.ofFields (fields : List (String × Value)) : Except LayoutRefusal Layout :=
  let known := ["new_line", "remove_comments", "indent"]
  let base : Layout := {}
  let text (name : String) (absent : String) : String :=
    ((fields.lookup name).bind Value.text?).getD absent
  match fields.find? fun field => !known.contains field.1 with
  | some ("self", _) => .error .repeated
  | some (setting, _) => .error (.unexpected setting)
  | none =>
    .ok ⟨text "new_line" base.newLine,
      ((fields.lookup "remove_comments").map Value.truthy).getD base.removeComments,
      text "indent" base.indent⟩

end TableTypes.Syntax
