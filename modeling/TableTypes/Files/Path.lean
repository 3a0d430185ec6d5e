/-!
# Paths

A path is a row of names that are walked one after another, from the top of the tree or from the
working directory. Empty names and single dots are dropped when a path is read, two dots stay.
A path that begins with exactly two slashes keeps both; any other count stands for one.
-/

namespace TableTypes.Files

/-- A path without needless parts. -/
structure Path where
  /-- The slashes at its beginning: none for a path from the working directory. -/
  slashes : Nat := 0
  names : List String
  deriving DecidableEq, Repr

/-- The pieces between the slashes of a text; there is always at least one. -/
def pieces : List Char → List (List Char)
  | [] => [[]]
  | c :: rest =>
    if c = '/' then [] :: pieces rest
    else match pieces rest with
      | piece :: more => (c :: piece) :: more
      | [] => [[c]]

namespace Path

/-- The piece leads nowhere else. -/
def isIdle (piece : List Char) : Bool :=
  piece = [] || piece = ['.']

/-- How many slashes of those at the beginning are kept. -/
def keptSlashes (count : Nat) : Nat :=
  if count = 2 then 2 else min count 1

/-- The path that a text spells. -/
def ofText (text : String) : Path where
  slashes := keptSlashes (text.toList.takeWhile (· = '/')).length
  names := ((pieces text.toList).filter fun piece => !isIdle piece).map String.ofList

/-- The spelling of a path; a path that leads nowhere is a dot. -/
def text (path : Path) : String :=
  match path.slashes, path.names with
  | 0, [] => "."
  | slashes, names => String.ofList (List.replicate slashes '/') ++ "/".intercalate names

/-- The path without its last name. -/
def parent (path : Path) : Path :=
  { path with names := path.names.dropLast }

/-- Going to the parent shortens a path that has names. -/
theorem length_parent_lt {path : Path} (h : path.names ≠ []) :
    path.parent.names.length < path.names.length := by
  have := List.length_pos_iff.2 h
  simp only [parent, List.length_dropLast]
  omega

/-- The path starts at the top of the tree. -/
def isAbsolute (path : Path) : Bool :=
  path.slashes ≠ 0

end Path

end TableTypes.Files
