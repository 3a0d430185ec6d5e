import TableTypes.Database.Catalog

/-!
# Recorded answers

The answers of a database, written down as one value: a field for each query with its rows, or
with the text by which the query is refused. A text in place of the whole tells why the database
cannot be reached.
-/

namespace TableTypes.Database

/-- The recorded answer to a query. A query without a record has no rows. -/
def recordedAnswer (record : Value) (query : Query) : Except String (List Value) :=
  match record.field? query.name with
  | some (.text message) => .error message
  | some (.list rows) => .ok rows
  | _ => .ok []

/-- A database whose answers were recorded. -/
def ofRecord (record : Value) : Except String (Query → Except String (List Value)) :=
  match record with
  | .text message => .error message
  | record => .ok (recordedAnswer record)

end TableTypes.Database
