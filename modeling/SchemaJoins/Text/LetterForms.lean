/-! # Forms of the basic letters

Raised, double-struck, full-width and other forms of the letters `A` to `z` and of
the digits stand for the basic ones in names.
-/

namespace SchemaJoins.Text

def letterForms : List (Nat × String) := [
  (0xAA, "a"), (0xBA, "o"), (0x132, "IJ"), (0x133, "ij"), (0x17F, "s"), (0x1C7, "LJ"),
  (0x1C8, "Lj"), (0x1C9, "lj"), (0x1CA, "NJ"), (0x1CB, "Nj"), (0x1CC, "nj"), (0x1F1, "DZ"),
  (0x1F2, "Dz"), (0x1F3, "dz"), (0x2B0, "h"), (0x2B2, "j"), (0x2B3, "r"), (0x2B7, "w"),
  (0x2B8, "y"), (0x2E1, "l"), (0x2E2, "s"), (0x2E3, "x"), (0x1D2C, "A"), (0x1D2E, "B"),
  (0x1D30, "D"), (0x1D31, "E"), (0x1D33, "G"), (0x1D34, "H"), (0x1D35, "I"), (0x1D36, "J"),
  (0x1D37, "K"), (0x1D38, "L"), (0x1D39, "M"), (0x1D3A, "N"), (0x1D3C, "O"), (0x1D3E, "P"),
  (0x1D3F, "R"), (0x1D40, "T"), (0x1D41, "U"), (0x1D42, "W"), (0x1D43, "a"), (0x1D47, "b"),
  (0x1D48, "d"), (0x1D49, "e"), (0x1D4D, "g"), (0x1D4F, "k"), (0x1D50, "m"), (0x1D52, "o"),
  (0x1D56, "p"), (0x1D57, "t"), (0x1D58, "u"), (0x1D5B, "v"), (0x1D62, "i"), (0x1D63, "r"),
  (0x1D64, "u"), (0x1D65, "v"), (0x1D9C, "c"), (0x1DA0, "f"), (0x1DBB, "z"), (0x2071, "i"),
  (0x207F, "n"), (0x2090, "a"), (0x2091, "e"), (0x2092, "o"), (0x2093, "x"), (0x2095, "h"),
  (0x2096, "k"), (0x2097, "l"), (0x2098, "m"), (0x2099, "n"), (0x209A, "p"), (0x209B, "s"),
  (0x209C, "t"), (0x2102, "C"), (0x210A, "g"), (0x210B, "H"), (0x210C, "H"), (0x210D, "H"),
  (0x210E, "h"), (0x2110, "I"), (0x2111, "I"), (0x2112, "L"), (0x2113, "l"), (0x2115, "N"),
  (0x2119, "P"), (0x211A, "Q"), (0x211B, "R"), (0x211C, "R"), (0x211D, "R"), (0x2124, "Z"),
  (0x2128, "Z"), (0x212A, "K"), (0x212C, "B"), (0x212D, "C"), (0x212F, "e"), (0x2130, "E"),
  (0x2131, "F"), (0x2133, "M"), (0x2134, "o"), (0x2139, "i"), (0x2145, "D"), (0x2146, "d"),
  (0x2147, "e"), (0x2148, "i"), (0x2149, "j"), (0x2160, "I"), (0x2161, "II"), (0x2162, "III"),
  (0x2163, "IV"), (0x2164, "V"), (0x2165, "VI"), (0x2166, "VII"), (0x2167, "VIII"),
  (0x2168, "IX"), (0x2169, "X"), (0x216A, "XI"), (0x216B, "XII"), (0x216C, "L"), (0x216D, "C"),
  (0x216E, "D"), (0x216F, "M"), (0x2170, "i"), (0x2171, "ii"), (0x2172, "iii"), (0x2173, "iv"),
  (0x2174, "v"), (0x2175, "vi"), (0x2176, "vii"), (0x2177, "viii"), (0x2178, "ix"), (0x2179, "x"),
  (0x217A, "xi"), (0x217B, "xii"), (0x217C, "l"), (0x217D, "c"), (0x217E, "d"), (0x217F, "m"),
  (0x2C7C, "j"), (0x2C7D, "V"), (0xA7F2, "C"), (0xA7F3, "F"), (0xA7F4, "Q"), (0xFB00, "ff"),
  (0xFB01, "fi"), (0xFB02, "fl"), (0xFB03, "ffi"), (0xFB04, "ffl"), (0xFB05, "st"),
  (0xFB06, "st"), (0xFE33, "_"), (0xFE34, "_"), (0xFE4D, "_"), (0xFE4E, "_"), (0xFE4F, "_"),
  (0x107A5, "q"), (0x1FBF0, "0"), (0x1FBF1, "1"), (0x1FBF2, "2"), (0x1FBF3, "3"), (0x1FBF4, "4"),
  (0x1FBF5, "5"), (0x1FBF6, "6"), (0x1FBF7, "7"), (0x1FBF8, "8"), (0x1FBF9, "9")]

/-- The letters and digits of the mathematical alphabets stand in rows. -/
def mathematicalForm? (n : Nat) : Option Nat :=
  if 0x1D400 ≤ n ∧ n < 0x1D6A4 then
    let i := (n - 0x1D400) % 52
    some (if i < 26 then 65 + i else 71 + i)
  else if 0x1D7CE ≤ n ∧ n < 0x1D800 then some (48 + (n - 0x1D7CE) % 10)
  else none

def fullWidthForm? (n : Nat) : Option Nat :=
  if (0xFF10 ≤ n ∧ n < 0xFF1A) ∨ (0xFF21 ≤ n ∧ n < 0xFF3B) ∨ (0xFF41 ≤ n ∧ n < 0xFF5B) ∨ n = 0xFF3F
  then some (n - 0xFEE0)
  else none

def basicForm (c : Char) : List Char :=
  let n := c.toNat
  if n < 128 then [c]
  else
    match (mathematicalForm? n).or (fullWidthForm? n) with
    | some m => [Char.ofNat m]
    | none => ((letterForms.find? (·.1 == n)).map (·.2.toList)).getD [c]

def basicName (s : String) : String := String.ofList (s.toList.flatMap basicForm)

end SchemaJoins.Text
