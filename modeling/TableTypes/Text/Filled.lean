/-!
# Filled lines

Pieces of text are put on lines one after another, as many on each as fit. A piece that is longer
than a line has a line of its own.
-/

namespace TableTypes.Text

/-- Put pieces on lines of a width. `used` columns of the current line are taken; `current` holds
its pieces, the last one first. Further lines begin with `start` columns taken. -/
def fillFrom (width start : Nat) : (used : Nat) → (current : List String) → List String →
    List (List String)
  | _, [], [] => []
  | _, current, [] => [current.reverse]
  | used, [], piece :: rest => fillFrom width start (used + piece.length) [piece] rest
  | used, current, piece :: rest =>
    if used + 1 + piece.length ≤ width then
      fillFrom width start (used + 1 + piece.length) (piece :: current) rest
    else current.reverse :: fillFrom width start (start + piece.length) [piece] rest

/-- The lines of a text whose words are put on lines of a width. -/
def filled (width : Nat) (text : String) : List String :=
  (fillFrom width 0 0 [] ((text.splitOn " ").filter (· ≠ ""))).map (" ".intercalate ·)

/-- Columns of space. -/
def space (count : Nat) : String :=
  String.ofList (List.replicate count ' ')

end TableTypes.Text
