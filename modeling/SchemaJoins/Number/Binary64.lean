/-! # Double-precision numbers

A double is kept exactly, as a sign, a mantissa and a power of two. Rounding a
quotient of integers is the only source of new doubles, so every reader of
numbers goes through `Binary64.ofRatio`.
-/

namespace SchemaJoins

/-- The nearest integer to `num / den`; a half goes to the even neighbour. -/
def divNearestEven (num den : Nat) : Nat :=
  let q := num / den
  let r := num % den
  if 2 * r < den then q
  else if 2 * r > den then q + 1
  else if q % 2 = 0 then q else q + 1

/-- A finite double is `mantissa * 2 ^ exponent` with a sign. The constructors
of this module give it in one form only: zero has exponent `0`, any other
number a mantissa of 53 bits or the exponent `-1074`. -/
inductive Binary64 where
  | nan
  | infinite (negative : Bool)
  | finite (negative : Bool) (mantissa : Nat) (exponent : Int)
  deriving DecidableEq, Repr, Inhabited

namespace Binary64

def zero (negative : Bool) : Binary64 := .finite negative 0 0

/-- The exponent at which `num / den` has a 53 bit integer part. -/
def unitExponent (num den : Nat) : Int :=
  let gap : Int := (num.log2 : Int) - den.log2
  let reaches : Bool :=
    if gap < 0 then decide (den ≤ num * Nat.pow 2 gap.natAbs)
    else decide (den * Nat.pow 2 gap.natAbs ≤ num)
  if reaches then gap - 52 else gap - 53

def ofRatio (negative : Bool) (num den : Nat) : Binary64 :=
  if num = 0 ∨ den = 0 then zero negative
  else
    let e := max (unitExponent num den) (-1074)
    let q := if e < 0 then divNearestEven (num * Nat.pow 2 e.natAbs) den
      else divNearestEven num (den * Nat.pow 2 e.natAbs)
    let (m, e) := if q = Nat.pow 2 53 then (Nat.pow 2 52, e + 1) else (q, e)
    if m = 0 then zero negative
    else if e > 971 then .infinite negative
    else .finite negative m e

def digitCount (n : Nat) : Nat := (Nat.toDigits 10 n).length

/-- The double nearest to `digits * 10 ^ exponent`. Exponents far outside the
range are settled without computing the power. -/
def ofDecimal (negative : Bool) (digits : Nat) (exponent : Int) : Binary64 :=
  if digits = 0 then zero negative
  else
    let top : Int := (digitCount digits : Int) + exponent
    if top > 400 then .infinite negative
    else if top < -400 then zero negative
    else if exponent < 0 then ofRatio negative digits (Nat.pow 10 exponent.natAbs)
    else ofRatio negative (digits * Nat.pow 10 exponent.natAbs) 1

def ofInt (n : Int) : Binary64 := ofRatio (decide (n < 0)) n.natAbs 1

def neg : Binary64 → Binary64
  | nan => nan
  | infinite s => infinite (!s)
  | finite s m e => finite (!s) m e

def isZero : Binary64 → Bool
  | finite _ 0 _ => true
  | _ => false

/-- The value as a fraction with a positive denominator; `none` for the values
that are not numbers. -/
def toFraction? : Binary64 → Option (Int × Nat)
  | finite s m e =>
      let num : Int := if e < 0 then m else m * Nat.pow 2 e.natAbs
      some (if s then -num else num, if e < 0 then Nat.pow 2 e.natAbs else 1)
  | _ => none

/-- Equality of values: zeros are equal whatever their sign, and `nan` equals
nothing. -/
def same : Binary64 → Binary64 → Bool
  | finite s m e, finite s' m' e' => (m == 0 && m' == 0) || (s == s' && m == m' && e == e')
  | infinite s, infinite s' => s == s'
  | _, _ => false

def isInt (x : Binary64) (n : Int) : Bool :=
  match x.toFraction? with
  | some (num, den) => num == n * den
  | none => false

def lt : Binary64 → Binary64 → Bool
  | nan, _ => false
  | _, nan => false
  | infinite s, infinite s' => s && !s'
  | infinite s, finite .. => s
  | finite .., infinite s => !s
  | x@(finite ..), y@(finite ..) =>
      match x.toFraction?, y.toFraction? with
      | some (a, b), some (c, d) => decide (a * d < c * b)
      | _, _ => false

def scale (x : Binary64) (n : Nat) : Binary64 :=
  match x with
  | finite s m e =>
      if e < 0 then ofRatio s (m * n) (Nat.pow 2 e.natAbs)
      else ofRatio s (m * n * Nat.pow 2 e.natAbs) 1
  | x => x

def add : Binary64 → Binary64 → Binary64
  | nan, _ => nan
  | _, nan => nan
  | infinite s, infinite s' => if s == s' then infinite s else nan
  | infinite s, finite .. => infinite s
  | finite .., infinite s => infinite s
  | x@(finite s ..), y@(finite s' ..) =>
      match x.toFraction?, y.toFraction? with
      | some (a, b), some (c, d) =>
          let sum := a * d + c * b
          if sum = 0 then zero (s && s') else ofRatio (decide (sum < 0)) sum.natAbs (b * d)
      | _, _ => nan

end Binary64

end SchemaJoins
