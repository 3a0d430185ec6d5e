import TableTypes.Database.Connection
import TableTypes.Database.Query
import TableTypes.Database.Rows

/-!
# Catalogs as sources

A catalog is what a database answers to each query about one schema. It is a source for a run:
each call puts its queries and reads their rows, and what was read is logged.
-/

namespace TableTypes.Database

open Generation (SourceFailure Reply Source Call)

/-- What a database answers to the queries about a schema: rows, or why it refuses. -/
structure Catalog where
  schema : String
  answer : Query → Except String (List Value)

namespace Catalog

/-- The rows that answer a query. -/
def rows (catalog : Catalog) (query : Query) : Except SourceFailure (List Value) :=
  (catalog.answer query).mapError .refused

/-- Log how much was read. -/
def noteRead (catalog : Catalog) (count : Nat) (what : String) : Journal.Note :=
  databaseLogger.note Journal.Level.debug
    ("Read " ++ toString count ++ " " ++ what ++ " from schema " ++ catalog.schema) []

/-- A reply that logs what was read, unless nothing could be. -/
def reply {α : Type} (catalog : Catalog) (what : String) (read : Except SourceFailure (List α)) :
    Reply (List α) :=
  match read with
  | .ok items => ⟨.ok items, [catalog.noteRead items.length what]⟩
  | .error failure => ⟨.error failure, []⟩

/-- The enumerated types of the schema. -/
def enums (catalog : Catalog) : Reply (List EnumType) :=
  catalog.reply "enums" do enumsOfRows (← catalog.rows .enums)

/-- The tables of the schema with their columns. -/
def tables (catalog : Catalog) : Reply (List Table) :=
  catalog.reply "tables" do
    let tableRows ← catalog.rows .tables
    let columnRows ← catalog.rows .columns
    tablesOfRows tableRows columnRows

/-- The end of the connection, which fails with a message if it cannot be closed. -/
def release (closing : Except String Unit := .ok ()) : Reply Unit :=
  match closing with
  | .ok () => ⟨.ok (), [databaseLogger.note Journal.Level.debug "PostgreSQL connection closed" []]⟩
  | .error message => ⟨.error (.disconnected message), []⟩

/-- The catalog as a source. -/
def source (catalog : Catalog) (closing : Except String Unit := .ok ()) : Source :=
  ⟨catalog.enums, catalog.tables, release closing⟩

/-- The queries that a call puts: one that is refused is the last. -/
def queries (catalog : Catalog) : Call → List Query
  | .enums => [.enums]
  | .tables => .tables :: (match catalog.answer .tables with
      | .ok _ => [.columns]
      | .error _ => [])
  | .release => []

end Catalog

end TableTypes.Database
