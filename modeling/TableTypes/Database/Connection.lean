import TableTypes.Journal.Entry

/-!
# Connections

A database is reached by a connection text. It is given, or it is one variable of the
environment, or it is put together from several. A text that goes into a log is masked first.
-/

namespace TableTypes.Database

/-- The variables of an environment. -/
abbrev Environment := List (String × String)

/-- A variable, or a value for when it is not set. -/
def Environment.get (environment : Environment) (name absent : String) : String :=
  (environment.lookup name).getD absent

/-- The parts of a connection text. -/
structure Target where
  host : String
  port : String
  database : String
  user : String
  password : String
  sslmode : String
  deriving DecidableEq, Repr

/-- The parts of the connection that the environment sets, with defaults for the others. -/
def Target.ofEnvironment (environment : Environment) : Target where
  host := environment.get "POSTGRES_HOST" "localhost"
  port := environment.get "POSTGRES_PORT" "5432"
  database := environment.get "POSTGRES_DB" "postgres"
  user := environment.get "POSTGRES_USER" "postgres"
  password := environment.get "POSTGRES_PASSWORD" ""
  sslmode := environment.get "POSTGRES_SSLMODE" "prefer"

/-- The connection text of a target. The parts stand in it as they are. -/
def Target.text (target : Target) : String :=
  "postgresql://" ++ target.user ++ ":" ++ target.password ++ "@" ++ target.host ++ ":" ++
    target.port ++ "/" ++ target.database ++ "?sslmode=" ++ target.sslmode

/-- The connection text that an environment gives: a whole one, if that is set and not empty. -/
def connectionText (environment : Environment) : String :=
  match environment.get "DATABASE_URL" "" with
  | "" => (Target.ofEnvironment environment).text
  | url => url

/-- What follows the last `mark`. -/
def afterLast (mark : Char) (s : List Char) : List Char :=
  (s.reverse.takeWhile (· ≠ mark)).reverse

/-- What precedes the first occurrence of `pattern`, if there is one. -/
def before? (pattern : List Char) : List Char → Option (List Char)
  | [] => if pattern.isEmpty then some [] else none
  | c :: rest =>
    if pattern.isPrefixOf (c :: rest) then some [] else (before? pattern rest).map (c :: ·)

/-- A connection text for a log. What precedes the last `@` is left out; without one, what
follows the first `password=`. -/
def maskChars (s : List Char) : List Char :=
  if s.contains '@' then afterLast '@' s
  else match before? "password=".toList s with
    | some shown => shown ++ "password=***".toList
    | none => s

/-- A connection text for a log. -/
def mask (text : String) : String :=
  String.ofList (maskChars text.toList)

/-- The log of the database. -/
def databaseLogger : Journal.Logger := ⟨"infrastructure.postgresql", some .schema⟩

/-- A connection that is to be opened. -/
structure Connection where
  text : String
  schema : String
  deriving DecidableEq, Repr

/-- The connection for a schema: by the text that is given, if it is not empty, or by the
environment. -/
def Connection.choose (environment : Environment) (given : Option String) (schema : String) :
    Connection :=
  match given with
  | none | some "" => ⟨connectionText environment, schema⟩
  | some text => ⟨text, schema⟩

/-- What is logged before a connection is opened. -/
def Connection.note (connection : Connection) : Journal.Note :=
  databaseLogger.note Journal.Level.info
    ("Connecting to PostgreSQL: " ++ mask connection.text ++ " (schema=" ++ connection.schema ++
      ")") []

end TableTypes.Database
