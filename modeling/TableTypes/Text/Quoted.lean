import TableTypes.Text.Hex

/-!
# Quoted texts

A text in double quotes, written in printable ASCII alone. Quotes, backslashes and the usual
controls have short escapes; any other character outside the printable range becomes one or two
units of four hexadecimal digits. Reading takes back what writing produces, and also the other
spellings of the same escapes.
-/

namespace TableTypes.Text

/-- The escape of a code unit of sixteen bits. -/
def unitEscape (n : Nat) : List Char :=
  '\\' :: 'u' :: hex 4 n

/-- How a character is written inside double quotes. -/
def escapeChar (c : Char) : List Char :=
  if c = '"' then ['\\', '"']
  else if c = '\\' then ['\\', '\\']
  else if c = '\n' then ['\\', 'n']
  else if c = '\r' then ['\\', 'r']
  else if c = '\t' then ['\\', 't']
  else if c.toNat = 0x8 then ['\\', 'b']
  else if c.toNat = 0xC then ['\\', 'f']
  else if 0x20 ≤ c.toNat ∧ c.toNat ≤ 0x7E then [c]
  else if c.toNat < 0x10000 then unitEscape c.toNat
  else
    let n := c.toNat - 0x10000
    unitEscape (0xD800 + n / 0x400) ++ unitEscape (0xDC00 + n % 0x400)

/-- The characters of a text in double quotes. -/
def quoteChars (s : List Char) : List Char :=
  '"' :: s.flatMap escapeChar ++ ['"']

/-- A text in double quotes. -/
def quote (s : String) : String :=
  String.ofList (quoteChars s.toList)

/-- The character of a short escape. -/
def shortEscape? : Char → Option Char
  | '"' => some '"'
  | '\\' => some '\\'
  | '/' => some '/'
  | 'n' => some '\n'
  | 'r' => some '\r'
  | 't' => some '\t'
  | 'b' => some '\x08'
  | 'f' => some '\x0c'
  | _ => none

/-- Read four hexadecimal digits. -/
def readUnit? : List Char → Option (Nat × List Char)
  | a :: b :: c :: d :: rest => (ofHex? [a, b, c, d]).map (·, rest)
  | _ => none

/-- Read one written character; the opening quote is already behind. -/
def readChar? : List Char → Option (Char × List Char)
  | '\\' :: 'u' :: rest =>
    match readUnit? rest with
    | none => none
    | some (high, rest) =>
      if 0xD800 ≤ high ∧ high < 0xDC00 then
        match rest with
        | '\\' :: 'u' :: rest =>
          match readUnit? rest with
          | some (low, rest) =>
            if 0xDC00 ≤ low ∧ low < 0xE000 then
              some (Char.ofNat (0x10000 + (high - 0xD800) * 0x400 + (low - 0xDC00)), rest)
            else none
          | none => none
        | _ => none
      else if 0xDC00 ≤ high ∧ high < 0xE000 then none
      else some (Char.ofNat high, rest)
  | '\\' :: c :: rest => (shortEscape? c).map (·, rest)
  | c :: rest => if c = '"' ∨ c = '\\' ∨ c.toNat < 0x20 then none else some (c, rest)
  | [] => none

/-- Read written characters up to the closing quote, at most `fuel` of them. -/
def readChars? : (fuel : Nat) → List Char → Option (List Char × List Char)
  | _, '"' :: rest => some ([], rest)
  | 0, _ => none
  | fuel + 1, written =>
    match readChar? written with
    | none => none
    | some (c, rest) => (readChars? fuel rest).map fun (cs, rest) => (c :: cs, rest)

/-- The text that a quoted text denotes, if it is nothing but one quoted text. -/
def unquoteChars? (written : List Char) : Option (List Char) :=
  match written with
  | '"' :: rest =>
    match readChars? rest.length rest with
    | some (s, []) => some s
    | _ => none
  | _ => none

/-- The text that a quoted text denotes. -/
def unquote? (written : String) : Option String :=
  (unquoteChars? written.toList).map String.ofList

end TableTypes.Text
