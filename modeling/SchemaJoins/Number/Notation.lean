import SchemaJoins.Number.Shortest

/-! # Written numbers

How a double is written, and which texts of digits are decimal numbers.
-/

namespace SchemaJoins

/-- The choices of a notation for doubles. Powers of ten from `positionalFrom`
up to `positionalBelow` are written positionally. -/
structure RealNotation where
  positionalFrom : Int
  positionalBelow : Int
  exponentMark : String
  exponentWidth : Nat
  nan : String
  infinity : String

/-- Positional from `0.0001` up to sixteen digits before the point, otherwise
with a signed exponent of at least two digits. -/
def RealNotation.standard : RealNotation where
  positionalFrom := -4
  positionalBelow := 16
  exponentMark := "e"
  exponentWidth := 2
  nan := "nan"
  infinity := "inf"

namespace RealNotation

def padLeft (width : Nat) (digits : String) : String :=
  String.ofList (List.replicate (width - digits.length) '0') ++ digits

def stripZeros (digits : List Char) : List Char × Nat :=
  let kept := (digits.reverse.dropWhile (· == '0')).reverse
  (kept, digits.length - kept.length)

/-- `digits` stand before the exponent `power` of the last one; `leading` is the
power of the first. -/
def writeDigits (n : RealNotation) (digits : List Char) (power : Int) : String :=
  let leading := power + digits.length - 1
  if n.positionalFrom ≤ leading ∧ leading < n.positionalBelow then
    if leading < 0 then
      "0." ++ String.ofList (List.replicate (-leading - 1).toNat '0' ++ digits)
    else
      let whole := digits.take (leading + 1).toNat
      let zeros := List.replicate ((leading + 1).toNat - whole.length) '0'
      let rest := digits.drop (leading + 1).toNat
      String.ofList (whole ++ zeros) ++ "." ++ (if rest.isEmpty then "0" else String.ofList rest)
  else
    let head := String.ofList (digits.take 1)
    let rest := digits.drop 1
    let fraction := if rest.isEmpty then "" else "." ++ String.ofList rest
    let sign := if leading < 0 then "-" else "+"
    head ++ fraction ++ n.exponentMark ++ sign ++
      padLeft n.exponentWidth (toString leading.natAbs)

def write (n : RealNotation) : Binary64 → String
  | .nan => n.nan
  | .infinite negative => (if negative then "-" else "") ++ n.infinity
  | .finite negative mantissa exponent =>
      let sign := if negative then "-" else ""
      if mantissa = 0 then sign ++ "0.0"
      else
        let (d, power) := Shortest.digits mantissa exponent
        let (kept, dropped) := stripZeros (Nat.toDigits 10 d)
        sign ++ n.writeDigits kept (power + dropped)

end RealNotation

def Binary64.text (x : Binary64) : String := RealNotation.standard.write x

end SchemaJoins
