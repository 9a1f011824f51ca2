import SchemaJoins.Number.Binary64
import SchemaJoins.Text.Blank
import SchemaJoins.Text.DecimalDigit

/-! # Texts of decimal numbers

The texts that stand for a decimal number of arbitrary precision: digits of any
script with a point and an exponent, the infinities and the not-a-numbers.
Blanks around the text and underscores anywhere in it do not count.
-/

namespace SchemaJoins.DecimalText

def topExponent : Int := 999999999999999999

def bottomExponent : Int := -1999999999999999997

/-- Writes every decimal digit in ASCII and every blank as a space; `none` if
another character is not ASCII. -/
def toAscii? : List Char → Option (List Char)
  | [] => some []
  | c :: cs =>
      if c == '_' then toAscii? cs
      else if 0 < c.toNat ∧ c.toNat < 128 then (toAscii? cs).map (c :: ·)
      else if Text.isBlank c then (toAscii? cs).map (' ' :: ·)
      else
        match Text.digitValue? c with
        | some d => (toAscii? cs).map (Nat.digitChar d :: ·)
        | none => none

def dropSign : List Char → List Char
  | '+' :: cs => cs
  | '-' :: cs => cs
  | cs => cs

/-- An exponent: `e`, a sign perhaps, and digits. Nothing at all counts as zero. -/
def exponent? : List Char → Option Int
  | [] => some 0
  | e :: cs =>
      let digits := dropSign cs
      if (e == 'e' || e == 'E') && !digits.isEmpty && digits.all Char.isDigit then
        let n : Int := Text.digitsValue digits
        some (if cs.head? == some '-' then -n else n)
      else none

def inRange (digits : List Char) (exponent : Int) : Bool :=
  let significant := digits.dropWhile (· == '0')
  let count := max significant.length 1
  decide (exponent + count - 1 ≤ topExponent) && decide (bottomExponent ≤ exponent)

def isFinite (cs : List Char) : Bool :=
  let whole := cs.takeWhile Char.isDigit
  let rest := cs.dropWhile Char.isDigit
  let (fraction, rest) :=
    match rest with
    | '.' :: r => (r.takeWhile Char.isDigit, r.dropWhile Char.isDigit)
    | _ => ([], rest)
  let digits := whole ++ fraction
  match exponent? rest with
  | some e => !digits.isEmpty && inRange digits (e - fraction.length)
  | none => false

def isInfinite (cs : List Char) : Bool :=
  cs == "inf".toList || cs == "infinity".toList

def isNotANumber (cs : List Char) : Bool :=
  match cs with
  | 's' :: 'n' :: 'a' :: 'n' :: payload => payload.all Char.isDigit
  | 'n' :: 'a' :: 'n' :: payload => payload.all Char.isDigit
  | _ => false

def isValid (cs : List Char) : Bool :=
  match toAscii? (Text.trim cs) with
  | none => false
  | some ascii =>
      let body := dropSign ascii
      let lower := body.map Char.toLower
      isFinite body || isInfinite lower || isNotANumber lower

end SchemaJoins.DecimalText
