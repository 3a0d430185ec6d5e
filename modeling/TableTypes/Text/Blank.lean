/-!
# Blank characters

Two notions of blank space are in use. The wide one has every space and line separator together
with the four information separators; the narrow one leaves those four out.
-/

namespace TableTypes.Text

/-- A space or line separator, or one of the four information separators. -/
def isBlank (c : Char) : Bool :=
  let n := c.toNat
  (0x9 ≤ n && n ≤ 0xD) || (0x1C ≤ n && n ≤ 0x20) || n = 0x85 || n = 0xA0 || n = 0x1680 ||
    (0x2000 ≤ n && n ≤ 0x200A) || n = 0x2028 || n = 0x2029 || n = 0x202F || n = 0x205F ||
    n = 0x3000

/-- A space or line separator. -/
def isSpace (c : Char) : Bool :=
  isBlank c && !(0x1C ≤ c.toNat && c.toNat ≤ 0x1F)

/-- A text without the characters in `cut` at its two ends. -/
def trimBy (cut : Char → Bool) (s : List Char) : List Char :=
  ((s.dropWhile cut).reverse.dropWhile cut).reverse

/-- A text without blank characters at its two ends. -/
def trim (s : String) : String :=
  String.ofList (trimBy isBlank s.toList)

end TableTypes.Text
