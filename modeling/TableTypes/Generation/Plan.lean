import TableTypes.Declaration.Draft
import TableTypes.Syntax.Printer

/-!
# Plans

A plan says which declarations a run generates, how they are named and how they are laid out.
From a plan and a table follow the drafts for the table: its interface, its interface for
inserts, its type object and its validator, in this order.
-/

namespace TableTypes.Generation

open Declaration (Draft)

/-- What a run generates. -/
structure Plan where
  /-- Enumerated types become enums. -/
  enums : Bool := true
  /-- Tables that take rows get an interface for inserts. -/
  insertTypes : Bool := true
  /-- Tables become interfaces. -/
  tables : Bool := true
  /-- Tables get type objects. -/
  typeObjects : Bool := true
  /-- Tables get validators. -/
  validators : Bool := true
  names : Casing.Transformations := {}
  layout : Syntax.Layout := {}

namespace Plan

/-- The drafts for a table. A table whose name was `seen` before gets no second validator. -/
def tableDrafts (plan : Plan) (seen : List String) (table : Table) : List Draft :=
  (if plan.tables then [.interface table .primary] else []) ++
  (if plan.insertTypes && table.canInsert then [.interface table .insert] else []) ++
  (if plan.typeObjects then [.typeObject table] else []) ++
  (if plan.validators && !seen.contains table.name then [.validator table] else [])

end Plan

end TableTypes.Generation
