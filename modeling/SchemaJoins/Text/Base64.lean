/-! # Bytes in sixty-four characters

Four characters of six bits each write three bytes. Characters of no value are
passed over; equals signs fill up the last four.
-/

namespace SchemaJoins.Base64

def value? (c : Char) : Option Nat :=
  if 'A' ≤ c ∧ c ≤ 'Z' then some (c.toNat - 'A'.toNat)
  else if 'a' ≤ c ∧ c ≤ 'z' then some (c.toNat - 'a'.toNat + 26)
  else if '0' ≤ c ∧ c ≤ '9' then some (c.toNat - '0'.toNat + 52)
  else if c == '+' then some 62
  else if c == '/' then some 63
  else none

/-- The bytes of a text, if its last four characters are complete. `held` are the
values read since the last four, the last one first, and `fill` counts equals
signs since then. -/
def decodeFrom (held : List Nat) (fill : Nat) : List Char → Option (List UInt8)
  | [] => if held.isEmpty then some [] else none
  | '=' :: cs =>
      if held.length ≥ 2 then
        if held.length + fill + 1 ≥ 4 then some [] else decodeFrom held (fill + 1) cs
      else decodeFrom held fill cs
  | c :: cs =>
      match value? c, held with
      | none, _ => decodeFrom held fill cs
      | some v, [] => decodeFrom [v] 0 cs
      | some v, [a] =>
          (decodeFrom [v, a] 0 cs).map ((a * 4 + v / 16).toUInt8 :: ·)
      | some v, [b, a] =>
          (decodeFrom [v, b, a] 0 cs).map ((b % 16 * 16 + v / 4).toUInt8 :: ·)
      | some v, b :: _ => (decodeFrom [] 0 cs).map ((b % 4 * 64 + v).toUInt8 :: ·)

def decode? (cs : List Char) : Option (List UInt8) := decodeFrom [] 0 cs

end SchemaJoins.Base64
