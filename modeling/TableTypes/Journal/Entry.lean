import TableTypes.Journal.Context
import TableTypes.Journal.Level

/-!
# Log entries

What is logged before it is written: a level, the logger that says it, a message, what the
caller adds, and the position at which it is said.
-/

namespace TableTypes.Journal

/-- Something said by a logger, at no position yet. -/
structure Note where
  level : Int
  logger : String
  message : String
  /-- What the caller adds, the logger's component included. -/
  data : List (String × Value) := []

/-- A note at a position. -/
structure Entry extends Note where
  context : Context
  /-- The text of an exception. -/
  exception : Option String := none

/-- The note at a position. -/
def Note.within (note : Note) (context : Context) : Entry :=
  { note with context := context }

/-- The parts of the program that log. -/
inductive Component where
  | generator
  | schema
  | cli
  deriving DecidableEq, Repr

/-- The name by which a component is chosen and shown. -/
def Component.name : Component → String
  | generator => "generator"
  | schema => "schema"
  | cli => "cli"

/-- Every component. -/
def Component.all : List Component := [.generator, .schema, .cli]

/-- A source of notes: its name and the component it belongs to. -/
structure Logger where
  name : String
  component : Option Component := none

/-- What a caller adds, with the logger's component unless the caller gave one. -/
def Logger.tag (logger : Logger) (data : List (String × Value)) : List (String × Value) :=
  match logger.component with
  | some component =>
    if (data.lookup "component").isSome then data
    else data ++ [("component", .text component.name)]
  | none => data

/-- A note of the logger. -/
def Logger.note (logger : Logger) (level : Int) (message : String)
    (data : List (String × Value)) : Note :=
  ⟨level, logger.name, message, logger.tag data⟩

/-- An exception as an entry shows it: its kind, and its text if it has one. -/
def exceptionText (kind text : String) : String :=
  if text = "" then kind else kind ++ ": " ++ text

end TableTypes.Journal
