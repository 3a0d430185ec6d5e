import TableTypes.Files.Trouble

/-!
# File trees

A tree of directories and text files, with one directory in which work is done. A place is named
by the row of names that leads to it from the top. Paths are walked name by name: two dots lead
one directory up, and every name but the last has to be that of a directory.
-/

namespace TableTypes.Files

/-- What stands at a place. -/
inductive Entry where
  | file (text : String)
  | directory
  deriving DecidableEq, Repr

/-- The names that lead from the top of a tree to a place. -/
abbrev Place := List String

/-- A tree of files, and the place of its working directory. -/
structure Tree where
  entries : List (Place × Entry) := []
  working : Place := []
  deriving DecidableEq, Repr

/-- The longest name, in bytes. -/
def maxNameSize : Nat := 255

/-- The longest path, in bytes. -/
def maxPathSize : Nat := 4095

namespace Tree

/-- What stands at a place. The top is a directory. -/
def find? (tree : Tree) (place : Place) : Option Entry :=
  if place = [] then some .directory else tree.entries.lookup place

/-- The tree with an entry at a place. -/
def put (tree : Tree) (place : Place) (entry : Entry) : Tree :=
  { tree with entries := (place, entry) :: tree.entries.filter fun e => e.1 ≠ place }

/-- The places above a place, the top left out. -/
def above (place : Place) : List Place :=
  (List.range (place.length - 1)).map fun n => place.take (n + 1)

/-- A tree with an empty working directory at a place. -/
def empty (working : Place) : Tree where
  entries := (above working ++ [working]).map fun place => (place, .directory)
  working := working

/-- The tree with a file at a place and directories above it. -/
def add (tree : Tree) (place : Place) (text : String) : Tree :=
  ((above place).foldl (fun tree place => tree.put place .directory) tree).put place (.file text)

/-- Walk along names. The place that is reached may be free. -/
def walk (tree : Tree) : (here : Place) → (names : List String) → Except Cause Place
  | here, [] => .ok here
  | here, name :: names =>
    match tree.find? here with
    | none => .error .missing
    | some (.file _) => .error .noDirectory
    | some .directory =>
      if name = ".." then walk tree here.dropLast names
      else if name.utf8ByteSize > maxNameSize then .error .tooLong
      else walk tree (here ++ [name]) names

/-- The place to which a path leads. -/
def locate (tree : Tree) (path : Path) : Except Cause Place :=
  if path.text.toList.contains '\x00' then .error .nullCharacter
  else if path.text.utf8ByteSize > maxPathSize then .error .tooLong
  else tree.walk (if path.isAbsolute then [] else tree.working) path.names

/-- The text of the file to which a path leads. -/
def readCause (tree : Tree) (path : Path) : Except Cause String :=
  match tree.locate path with
  | .error cause => .error cause
  | .ok place =>
    match tree.find? place with
    | some (.file text) => .ok text
    | some .directory => .error .directory
    | none => .error .missing

/-- The text of the file to which a path leads. -/
def read (tree : Tree) (path : Path) : Except Trouble String :=
  (tree.readCause path).mapError (⟨·, path⟩)

/-- The path leads to a directory. -/
def isDirectory (tree : Tree) (path : Path) : Bool :=
  match tree.locate path with
  | .ok place => tree.find? place = some .directory
  | .error _ => false

/-- The tree with a new directory where a path leads. -/
def makeDirectory (tree : Tree) (path : Path) : Except Cause Tree :=
  match tree.locate path with
  | .error cause => .error cause
  | .ok place =>
    match tree.find? place with
    | some _ => .error .occupied
    | none => .ok (tree.put place .directory)

/-- The tree with a directory where a path leads, a new one if there is none. -/
def ensureDirectory (tree : Tree) (path : Path) : Except Cause Tree :=
  match tree.makeDirectory path with
  | .ok tree => .ok tree
  | .error cause =>
    if cause ≠ .missing ∧ tree.isDirectory path then .ok tree else .error cause

/-- The tree with a directory where a path leads; those above it are made too where they are
missing. -/
def ensureDirectories (tree : Tree) (path : Path) : Except Trouble Tree :=
  match tree.ensureDirectory path with
  | .ok tree => .ok tree
  | .error cause =>
    if _h : cause = .missing ∧ path.names ≠ [] then
      match ensureDirectories tree path.parent with
      | .ok tree => (tree.ensureDirectory path).mapError (⟨·, path⟩)
      | .error trouble => .error trouble
    else .error ⟨cause, path⟩
termination_by path.names.length
decreasing_by exact Path.length_parent_lt (And.right ‹_›)

/-- The tree with a text in the file to which a path leads, a new one if there is none. -/
def write (tree : Tree) (path : Path) (text : String) : Except Trouble Tree :=
  match tree.locate path with
  | .error cause => .error ⟨cause, path⟩
  | .ok place =>
    match tree.find? place with
    | some .directory => .error ⟨.directory, path⟩
    | _ => .ok (tree.put place (.file text))

/-- The place to which names lead, if all of them but the last are those of directories. -/
def placeOf (names : List String) : Place :=
  names.foldl (fun here name => if name = ".." then here.dropLast else here ++ [name]) []

/-- A tree in which a path leads to an entry, with the top as its working directory. -/
def leadingTo (path : Path) (entry : Entry) : Tree :=
  let directories := (above path.names).map placeOf |>.filter (· ≠ [])
  ({ entries := directories.map fun place => (place, .directory) } : Tree).put
    (placeOf path.names) entry

/-- What a tree has at places where an older one had something else or nothing. -/
def changes (tree older : Tree) : List (Place × Entry) :=
  tree.entries.filter fun e => older.find? e.1 ≠ some e.2

end Tree

end TableTypes.Files
