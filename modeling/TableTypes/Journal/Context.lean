import TableTypes.Value.Text

/-!
# Log context

A log line says where in a run it was written. The position has four named fields and any number
of further ones; an inner block of work lays its fields over those of the block around it, and
leaving the block brings the old position back.
-/

namespace TableTypes.Journal

/-- A position within a run; a field that is null is not set. -/
structure Context where
  runId : Value := .null
  phase : Value := .null
  entity : Value := .null
  builder : Value := .null
  extra : List (String × Value) := []
  deriving Inhabited

/-- Why a block cannot be entered. -/
inductive ContextRefusal where
  /-- A position has no such field. -/
  | unexpected (field : String)
  /-- The further fields are given by a value of this kind, which is no map. -/
  | notMap (kind : String)
  /-- The name is taken by the position that is built upon. -/
  | repeated (field : String)
  deriving DecidableEq, Repr

/-- The text that explains the refusal. -/
def ContextRefusal.message : ContextRefusal → String
  | unexpected field => "LogContext.__init__() got an unexpected keyword argument '" ++ field ++ "'"
  | notMap kind => "'" ++ kind ++ "' object is not a mapping"
  | repeated field => "LogContext.merged() got multiple values for argument '" ++ field ++ "'"

namespace Context

/-- Set one of the four named fields. -/
def set (context : Context) (field : String) (v : Value) : Except ContextRefusal Context :=
  match field with
  | "run_id" => .ok { context with runId := v }
  | "phase" => .ok { context with phase := v }
  | "entity" => .ok { context with entity := v }
  | "builder" => .ok { context with builder := v }
  | _ => .error (.unexpected field)

/-- Lay further fields over those that are there. A field has a text for its name. A caller may give
entries under other keys, which would be kept and written; they are left out here. -/
def withExtra (context : Context) : Value → Except ContextRefusal Context
  | .map entries =>
    let extra := (Value.textEntries entries).foldl
      (fun extra field => setField field.1 field.2 extra) context.extra
    .ok { context with extra }
  | v => .error (.notMap v.kind)

/-- The position inside a block that gives these fields. -/
def within (context : Context) (fields : List (String × Value)) :
    Except ContextRefusal Context := do
  if fields.any fun field => field.1 = "self" then throw (.repeated "self")
  let inner ← match fields.lookup "extra" with
    | some extra => context.withExtra extra
    | none => pure context
  (fields.filter fun field => field.1 ≠ "extra").foldlM
    (fun context field => context.set field.1 field.2) inner

/-- The named fields with their names, in order. -/
def named (context : Context) : List (String × Value) :=
  [("run_id", context.runId), ("phase", context.phase), ("entity", context.entity),
    ("builder", context.builder)]

/-- The value is there. -/
def isSet : Value → Bool
  | .null => false
  | _ => true

/-- All fields that are set: the named ones, then the further ones laid over them. -/
def toFields (context : Context) : List (String × Value) :=
  context.extra.foldl (fun fields field => setField field.1 field.2 fields)
    (context.named.filter fun field => isSet field.2)

end Context

/-- The positions of the open blocks, innermost first. -/
abbrev Contexts := List Context

namespace Contexts

/-- The position of the innermost open block. -/
def current (open_ : Contexts) : Context :=
  open_.head?.getD {}

/-- Enter a block. A block that is refused opens nothing. -/
def enter (open_ : Contexts) (fields : List (String × Value)) :
    Except ContextRefusal Contexts :=
  (open_.current.within fields).map (· :: open_)

/-- Leave the innermost block. -/
def leave (open_ : Contexts) : Contexts :=
  open_.drop 1

end Contexts

end TableTypes.Journal
