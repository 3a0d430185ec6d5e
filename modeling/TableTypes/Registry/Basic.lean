import TableTypes.Syntax.Node

/-!
# Type registry

Which output type each schema name stands for. A registry starts from the built-in types and
only grows: a name is registered once, and an output identifier belongs to one owner. Registered
names hide built-in types of the same name, while a name that nobody registered is an error and
never a silent default.
-/

namespace TableTypes

open Syntax (TypeNode)

/-- What a schema name stands for. -/
inductive Kind where
  | builtin
  | enum
  | table
  deriving DecidableEq, Repr

/-- The name by which a kind is chosen and shown. -/
def Kind.name : Kind → String
  | builtin => "builtin"
  | enum => "enum"
  | table => "table"

/-- Every kind. -/
def Kind.all : List Kind := [.builtin, .enum, .table]

/-- The output type of a built-in type: a keyword of the language or a named type. -/
inductive BuiltinType where
  | keyword (word : String)
  | reference (name : String) (arguments : List TypeNode)

namespace BuiltinType

/-- The output type as a node. -/
def node : BuiltinType → TypeNode
  | keyword word => .keyword word
  | reference name arguments => .reference name arguments

/-- The name of the output type. -/
def identifier : BuiltinType → String
  | keyword word => word
  | reference name _ => name

/-- The name that the output type takes from the names that can be declared. -/
def reserves? : BuiltinType → Option String
  | keyword _ => none
  | reference name _ => some name

end BuiltinType

/-- What a schema name resolves to. -/
structure Entry where
  identifier : String
  kind : Kind
  type : TypeNode

/-- Who owns an output identifier. -/
inductive Owner where
  /-- A built-in type refers to it. -/
  | builtinType (name : String)
  /-- It is kept for a helper type. -/
  | helper (name : String)
  /-- A schema name was registered with it. -/
  | registered (kind : Kind) (schemaName : String)
  deriving DecidableEq, Repr

/-- An owner as messages name it. -/
def Owner.text : Owner → String
  | builtinType name => "builtin type " ++ name
  | helper name => "helper type " ++ name
  | registered kind schemaName => kind.name ++ " " ++ schemaName

/-- A registration that would give one name or one identifier two meanings. -/
structure DuplicateRegistration where
  schemaName : String
  identifier : String
  takenBy : Owner
  deriving DecidableEq, Repr

/-- The text that refuses the registration. -/
def DuplicateRegistration.message (refused : DuplicateRegistration) : String :=
  "Type already registered: " ++ refused.schemaName ++ " -> " ++ refused.identifier ++
    " (taken by " ++ refused.takenBy.text ++ ")"

/-- A schema name that stands for nothing. -/
structure UnknownType where
  schemaName : String
  deriving DecidableEq, Repr

/-- The text that reports the name. -/
def UnknownType.message (unknown : UnknownType) : String :=
  "Unknown type: " ++ unknown.schemaName

/-- The types known to a run. -/
structure Registry where
  /-- Built-in types by schema name. -/
  builtins : List (String × BuiltinType)
  /-- Identifiers kept for helper types. -/
  reserved : List String
  /-- Registered names, in the order of registration. -/
  entries : List (String × Entry) := []

namespace Registry

/-- The entry of a built-in type. -/
def builtinEntry (type : BuiltinType) : Entry :=
  ⟨type.identifier, .builtin, type.node⟩

/-- What a name resolves to. -/
def find? (r : Registry) (schemaName : String) : Option Entry :=
  match r.entries.lookup schemaName with
  | some entry => some entry
  | none => (r.builtins.lookup schemaName).map builtinEntry

/-- Who owns an identifier. -/
def owner? (r : Registry) (identifier : String) : Option Owner :=
  match r.entries.find? fun entry => entry.2.identifier = identifier with
  | some (schemaName, entry) => some (.registered entry.kind schemaName)
  | none =>
    if r.reserved.contains identifier then some (.helper identifier)
    else if r.builtins.any fun builtin => builtin.2.reserves? = some identifier then
      some (.builtinType identifier)
    else none

/-- Register a name. The name must be new, and so must the identifier. -/
def add (r : Registry) (schemaName identifier : String) (kind : Kind) :
    Except DuplicateRegistration Registry :=
  match r.entries.lookup schemaName with
  | some entry => .error ⟨schemaName, identifier, .registered entry.kind schemaName⟩
  | none =>
    match r.owner? identifier with
    | some owner => .error ⟨schemaName, identifier, owner⟩
    | none =>
      let entry : Entry := ⟨identifier, kind, .named identifier⟩
      .ok { r with entries := r.entries ++ [(schemaName, entry)] }

/-- What a name resolves to, or the report that it is unknown. -/
def resolve (r : Registry) (schemaName : String) : Except UnknownType Entry :=
  match r.find? schemaName with
  | some entry => .ok entry
  | none => .error ⟨schemaName⟩

/-- The output type that a name stands for. -/
def typeOf (r : Registry) (schemaName : String) : Except UnknownType TypeNode :=
  (r.resolve schemaName).map (·.type)

/-- The output identifier of a name. -/
def identifierOf (r : Registry) (schemaName : String) : Except UnknownType String :=
  (r.resolve schemaName).map (·.identifier)

/-- The kind of a name. -/
def kindOf (r : Registry) (schemaName : String) : Except UnknownType Kind :=
  (r.resolve schemaName).map (·.kind)

/-- The name is registered or built in. -/
def contains (r : Registry) (schemaName : String) : Bool :=
  (r.entries.lookup schemaName).isSome || (r.builtins.lookup schemaName).isSome

/-- Every name that resolves: the registered ones, then the built-in ones they do not hide. -/
def names (r : Registry) : List String :=
  r.entries.map (·.1) ++
    (r.builtins.map (·.1)).filter fun name => (r.entries.lookup name).isNone

/-- The names in their order, only those of one kind if a kind is given. -/
def listed (r : Registry) (kind? : Option Kind) : List String :=
  r.names.filter fun name => kind?.all fun kind =>
    (r.find? name).any fun entry => entry.kind = kind

/-- The names of one kind. -/
def namesOf (r : Registry) (kind : Kind) : List String :=
  r.listed (some kind)

/-- How many names there are; one that is both registered and built in counts once. -/
def size (r : Registry) : Nat :=
  ((r.entries.map (·.1)).foldr List.insert (r.builtins.map (·.1))).length

end Registry

end TableTypes
