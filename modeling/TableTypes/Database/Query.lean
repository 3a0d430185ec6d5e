/-!
# Catalog queries

The three questions that are put to a database's own catalog, each for one schema.
-/

namespace TableTypes.Database

/-- A question about a schema. -/
inductive Query where
  /-- The enumerated types with their labels. -/
  | enums
  /-- The tables and views. -/
  | tables
  /-- The columns of all tables. -/
  | columns
  deriving DecidableEq, Repr

namespace Query

/-- A query as reports name it. -/
def name : Query → String
  | enums => "enums"
  | tables => "tables"
  | columns => "columns"

/-- The lines of a query. -/
def lines : Query → List String
  | enums =>
    ["SELECT t.typname AS name,",
      "       array_agg(e.enumlabel ORDER BY e.enumsortorder) AS labels",
      "FROM pg_type t",
      "JOIN pg_enum e ON e.enumtypid = t.oid",
      "JOIN pg_namespace n ON n.oid = t.typnamespace",
      "WHERE n.nspname = %(schema)s",
      "GROUP BY t.typname",
      "ORDER BY t.typname"]
  | tables =>
    ["SELECT table_name AS name,",
      "       is_insertable_into = 'YES' AS can_insert",
      "FROM information_schema.tables",
      "WHERE table_schema = %(schema)s",
      "  AND table_type IN ('BASE TABLE', 'VIEW', 'FOREIGN')",
      "ORDER BY table_name"]
  | columns =>
    ["SELECT table_name,",
      "       column_name AS name,",
      "       CASE WHEN data_type = 'ARRAY' THEN substring(udt_name FROM 2) ELSE udt_name END" ++
        " AS type,",
      "       is_nullable = 'YES' AS nullable,",
      "       (column_default IS NOT NULL OR is_identity = 'YES' OR is_generated = 'ALWAYS')" ++
        " AS has_default,",
      "       data_type = 'ARRAY' AS is_array,",
      "       ordinal_position AS ordinal",
      "FROM information_schema.columns",
      "WHERE table_schema = %(schema)s",
      "ORDER BY table_name, ordinal_position"]

/-- The text of a query, on lines of its own. -/
def text (query : Query) : String :=
  "\n" ++ "\n".intercalate query.lines ++ "\n"

end Query

end TableTypes.Database
