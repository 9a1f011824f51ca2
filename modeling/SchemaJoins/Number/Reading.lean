import SchemaJoins.Data.Fault
import SchemaJoins.Text.Blank
import SchemaJoins.Text.DecimalDigit

/-! # Numbers in texts

The integers and the doubles that a text writes, with blanks around it, with a
sign or without, and in the decimal digits of any script.
-/

namespace SchemaJoins.NumberText

/-- The sign of a number and what follows it; `true` stands for minus. -/
def sign : List Char → Bool × List Char
  | '-' :: cs => (true, cs)
  | '+' :: cs => (false, cs)
  | cs => (false, cs)

/-- The value of a character as a digit: letters go on after nine. -/
def digit? (c : Char) : Option Nat :=
  match Text.digitValue? c with
  | some d => some d
  | none =>
      if 'a' ≤ c ∧ c ≤ 'z' then some (c.toNat - 'a'.toNat + 10)
      else if 'A' ≤ c ∧ c ≤ 'Z' then some (c.toNat - 'A'.toNat + 10)
      else none

def baseMark? : Nat → Option Char
  | 2 => some 'b'
  | 8 => some 'o'
  | 16 => some 'x'
  | _ => none

def dropBaseMark (base : Nat) : List Char → List Char
  | '0' :: c :: cs => if some c.toLower = baseMark? base then cs else '0' :: c :: cs
  | cs => cs

def digits? (base : Nat) (cs : List Char) : Option (List Nat) :=
  if cs.isEmpty then none
  else cs.mapM fun c => (digit? c).filter (· < base)

def valueOf (base : Nat) (ds : List Nat) : Nat := ds.foldl (fun n d => n * base + d) 0

/-- The integer that a text writes. Only rows of decimal digits have a limit. -/
def integer (base : Nat) (text : List Char) : Except Fault Int :=
  let (negative, rest) := sign (Text.trim text)
  match digits? base (dropBaseMark base rest) with
  | none => .error (.notInteger (String.ofList text) base)
  | some ds =>
      if base = 10 ∧ ds.length > Text.digitLimit then .error (.integerTooLong ds.length)
      else
        let n : Int := valueOf base ds
        .ok (if negative then -n else n)

def exponent? : List Char → Option Int
  | [] => some 0
  | c :: cs =>
      if c == 'e' || c == 'E' then do
        let (negative, rest) := sign cs
        let ds ← digits? 10 rest
        let n : Int := valueOf 10 ds
        return if negative then -n else n
      else none

def decimal? (negative : Bool) (cs : List Char) : Option Binary64 := do
  let whole := cs.takeWhile Text.isDigit
  let rest := cs.dropWhile Text.isDigit
  let (fraction, rest) := match rest with
    | '.' :: rest => (rest.takeWhile Text.isDigit, rest.dropWhile Text.isDigit)
    | rest => ([], rest)
  if whole.isEmpty && fraction.isEmpty then none
  else
    let exponent ← exponent? rest
    return .ofDecimal negative (Text.digitsValue (whole ++ fraction))
      (exponent - fraction.length)

def real (text : List Char) : Except Fault Binary64 :=
  let (negative, rest) := sign (Text.trim text)
  match String.ofList (rest.map Char.toLower) with
  | "inf" | "infinity" => .ok (.infinite negative)
  | "nan" => .ok .nan
  | _ =>
      match decimal? negative rest with
      | some x => .ok x
      | none => .error (.notReal (String.ofList text))

end SchemaJoins.NumberText
