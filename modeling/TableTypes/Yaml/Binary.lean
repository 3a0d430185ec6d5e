/-!
# Bytes in YAML

Bytes are written in base 64. Characters that are no digits of it are passed over, and equals
signs fill up the last group of four digits.
-/

namespace TableTypes.Yaml

/-- The value of a digit in base 64. -/
def sextet? (c : Char) : Option Nat :=
  if 'A' ≤ c && c ≤ 'Z' then some (c.toNat - 65)
  else if 'a' ≤ c && c ≤ 'z' then some (c.toNat - 71)
  else if '0' ≤ c && c ≤ '9' then some (c.toNat + 4)
  else if c = '+' then some 62
  else if c = '/' then some 63
  else none

/-- Read digits: `group` holds those of a group that is not full, `fill` counts equals signs. -/
def readSextets (group : List Nat) (fill : Nat) : List Char → Option (List UInt8)
  | [] => if group.isEmpty then some [] else none
  | c :: rest =>
    if c = '=' then
      if 2 ≤ group.length ∧ 4 ≤ group.length + fill + 1 then
        match group with
        | [a, b] => some [(a * 4 + b / 16).toUInt8]
        | [a, b, d] => some [(a * 4 + b / 16).toUInt8, (b % 16 * 16 + d / 4).toUInt8]
        | _ => some []
      else readSextets group (if 2 ≤ group.length then fill + 1 else fill) rest
    else match sextet? c with
      | none => readSextets group fill rest
      | some n =>
        match group with
        | [a, b, d] => (readSextets [] 0 rest).map fun bytes =>
            (a * 4 + b / 16).toUInt8 :: (b % 16 * 16 + d / 4).toUInt8 :: (d % 4 * 64 + n).toUInt8 ::
              bytes
        | group => readSextets (group ++ [n]) 0 rest

/-- The bytes that a text denotes, if it is ASCII and its last group is complete. -/
def bytesOf? (text : String) : Option (List UInt8) :=
  if text.toList.all (·.toNat < 0x80) then readSextets [] 0 text.toList else none

end TableTypes.Yaml
