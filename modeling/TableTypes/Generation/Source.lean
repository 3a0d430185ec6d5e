import TableTypes.Journal.Entry
import TableTypes.Snapshot.Check

/-!
# Schema sources

A run reads its snapshot from a source by two calls and lets the source go by a third. A source
is what it answers to each call: an outcome, and what it logs while it answers.
-/

namespace TableTypes.Generation

/-- Why a source does not answer a call. -/
inductive SourceFailure where
  /-- The connection is lost. -/
  | disconnected (message : String)
  /-- The database cannot be reached. -/
  | unreachable (message : String)
  /-- The database refuses a query. -/
  | refused (message : String)
  /-- A row lacks a field. -/
  | missingField (name : String)
  /-- A value of this kind stands where rows are told apart by name. -/
  | notKey (kind : String)
  /-- A value of this kind stands where a list of labels belongs. -/
  | notList (kind : String)
  /-- A row does not make a record of the named kind. -/
  | invalid (record : String) (faults : List Fault)
  deriving DecidableEq, Repr

/-- How many faults there are, and each with its path on a line of its own. -/
def faultsText (record : String) (faults : List Fault) : String :=
  let stepText : Step → String
    | .field name => name
    | .index n => toString n
  toString faults.length ++ " validation error" ++ (if faults.length = 1 then "" else "s") ++
    " for " ++ record ++
    String.join (faults.map fun fault =>
      "\n" ++ ".".intercalate (fault.path.map stepText) ++ "\n  " ++ fault.issue.message ++
        " [type=" ++ fault.issue.code ++ "]")

/-- The text that reports the failure. -/
def SourceFailure.message : SourceFailure → String
  | disconnected message | unreachable message | refused message => message
  | missingField name => Text.literal name
  | notKey kind => "unhashable type: '" ++ kind ++ "'"
  | notList kind => "'" ++ kind ++ "' object is not iterable"
  | invalid record faults => faultsText record faults

/-- What a source answers to a call. -/
structure Reply (α : Type) where
  outcome : Except SourceFailure α
  notes : List Journal.Note := []

/-- A source, by its answers. -/
structure Source where
  enums : Reply (List EnumType)
  tables : Reply (List Table)
  release : Reply Unit := ⟨.ok (), []⟩

/-- A call that a run makes to its source. -/
inductive Call where
  | enums
  | tables
  | release
  deriving DecidableEq, Repr

/-- A call as reports name it. -/
def Call.name : Call → String
  | enums => "get_enums"
  | tables => "get_tables"
  | release => "disconnect"

end TableTypes.Generation
