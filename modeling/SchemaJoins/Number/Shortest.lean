import SchemaJoins.Number.Binary64

/-! # The shortest digits of a double

Among the decimals that round to a double, those with the fewest digits are
kept, and of these the nearest. The search looks at the two neighbours of the
value on each decimal grid, from coarse to fine, in exact arithmetic.
-/

namespace SchemaJoins.Shortest

/-- The numbers that round to a double: between `low / den` and `high / den`,
ends included when `closed`. The double itself is `value / den`. -/
structure Interval where
  low : Nat
  value : Nat
  high : Nat
  den : Nat
  closed : Bool

/-- A gap below a power of two is half as wide as the gap above it. -/
def interval (mantissa : Nat) (exponent : Int) : Interval :=
  let e := exponent - 2
  let scale := if e < 0 then 1 else Nat.pow 2 e.natAbs
  let below := if mantissa = Nat.pow 2 52 ∧ exponent > -1074 then 1 else 2
  { low := (4 * mantissa - below) * scale
    value := 4 * mantissa * scale
    high := (4 * mantissa + 2) * scale
    den := if e < 0 then Nat.pow 2 e.natAbs else 1
    closed := mantissa % 2 == 0 }

def Interval.contains (i : Interval) (digits : Nat) (exponent : Int) : Bool :=
  let d := if exponent < 0 then digits * i.den else digits * i.den * Nat.pow 10 exponent.natAbs
  let s := if exponent < 0 then Nat.pow 10 exponent.natAbs else 1
  if i.closed then decide (i.low * s ≤ d) && decide (d ≤ i.high * s)
  else decide (i.low * s < d) && decide (d < i.high * s)

/-- The `k` with `10 ^ (k - 1) ≤ value < 10 ^ k`. -/
def Interval.magnitude (i : Interval) : Int :=
  if i.den ≤ i.value then Binary64.digitCount (i.value / i.den)
  else
    let l := Binary64.digitCount (i.den / i.value)
    if i.den ≤ i.value * Nat.pow 10 (l - 1) then 2 - (l : Int) else 1 - (l : Int)

def Interval.doubled (i : Interval) (exponent : Int) : Nat × Nat :=
  if exponent < 0 then (2 * i.value * Nat.pow 10 exponent.natAbs, i.den)
  else (2 * i.value, i.den * Nat.pow 10 exponent.natAbs)

/-- The grid neighbour of the value that rounds to the double; of two the
nearer one, and of two equally near ones the even one. -/
def Interval.neighbour? (i : Interval) (exponent : Int) : Option Nat :=
  let (num, den) := i.doubled exponent
  let floor := num / (2 * den)
  match i.contains floor exponent, i.contains (floor + 1) exponent with
  | true, true => some <|
      let middle := (2 * floor + 1) * den
      if num < middle then floor
      else if num > middle then floor + 1
      else if floor % 2 = 0 then floor else floor + 1
  | true, false => some floor
  | false, true => some (floor + 1)
  | false, false => none

def search (i : Interval) (top : Int) (count : Nat) : Nat → Nat × Int
  | 0 => (i.value / i.den, 0)
  | tries + 1 =>
      match i.neighbour? (top - count) with
      | some d => (d, top - count)
      | none => search i top (count + 1) tries

/-- The shortest digits of `mantissa * 2 ^ exponent` and the power of ten of the
last one. Seventeen digits tell any two doubles apart. -/
def digits (mantissa : Nat) (exponent : Int) : Nat × Int :=
  let i := interval mantissa exponent
  search i i.magnitude 1 18

end SchemaJoins.Shortest
