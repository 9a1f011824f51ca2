import SchemaJoins.Source.Token
import SchemaJoins.Text.DecimalDigit

/-! # Numbers in source text

Integers in four bases, decimals and imaginary numbers. Digits may be grouped by
single underscores; a letter right after a number is an error unless a word that
may follow a number starts there.
-/

namespace SchemaJoins.Source

def isDecimalDigit (c : Char) : Bool := decide ('0' ≤ c) && decide (c ≤ '9')

/-- Characters that continue a word, whatever they are above ASCII. -/
def continuesWord (c : Char) : Bool := c.isAlphanum || c == '_' || decide (128 ≤ c.toNat)

def digitIn (base : Nat) (c : Char) : Option Nat :=
  let n := c.toNat
  let value :=
    if isDecimalDigit c then n - 48
    else if decide ('a' ≤ c) && decide (c ≤ 'f') then n - 87
    else if decide ('A' ≤ c) && decide (c ≤ 'F') then n - 55
    else 16
  if value < base then some value else none

/-- Digits with single underscores between; an underscore must be followed by a
digit. -/
def digitRun (base : Nat) : List Char → Option (List Nat × List Char)
  | [] => some ([], [])
  | c :: cs =>
      match digitIn base c with
      | some d => do
          let (ds, rest) ← digitRun base cs
          return (d :: ds, rest)
      | none =>
          if c = '_' then
            match cs with
            | d :: _ => if (digitIn base d).isSome then digitRun base cs else none
            | [] => none
          else some ([], c :: cs)

def digitsIn (base : Nat) (ds : List Nat) : Nat := ds.foldl (fun n d => n * base + d) 0

/-- A number may be followed by one of these words without a blank. -/
def wordsAfterNumber : List String := ["and", "else", "for", "if", "in", "is", "not", "or"]

def endsNumber (rest : List Char) : Bool :=
  wordsAfterNumber.any (fun w => w.toList.isPrefixOf rest) || !rest.head?.any continuesWord

def basedInteger (base : Nat) (cs : List Char) : Option (Constant × List Char) := do
  let (ds, rest) ← digitRun base cs
  if ds.isEmpty || rest.head?.any isDecimalDigit || !endsNumber rest then none
  else some (.int (digitsIn base ds), rest)

structure Mantissa where
  digits : List Nat
  /-- The number of digits after the point. -/
  places : Nat
  /-- A point or an exponent was read. -/
  isDecimal : Bool

def mantissa (cs : List Char) : Option (Mantissa × List Char) := do
  let (whole, rest) ← digitRun 10 cs
  match rest with
  | '.' :: after =>
      if after.head?.any isDecimalDigit then
        let (fraction, rest) ← digitRun 10 after
        some (⟨whole ++ fraction, fraction.length, true⟩, rest)
      else some (⟨whole, 0, true⟩, after)
  | _ => some (⟨whole, 0, false⟩, rest)

def exponentAfter (cs : List Char) : Option (Int × List Char) :=
  let (sign, ds) := match cs with
    | '+' :: ds => ((1 : Int), ds)
    | '-' :: ds => (-1, ds)
    | ds => (1, ds)
  if ds.head?.any isDecimalDigit then do
    let (digits, rest) ← digitRun 10 ds
    return (sign * digitsIn 10 digits, rest)
  else none

def isExponentMark (c : Char) : Bool := c == 'e' || c == 'E'

/-- The exponent of a decimal, if one follows. A sign without digits is an error,
and so is a mark that is not the start of a word. -/
def exponent? (cs : List Char) : Option (Option Int × List Char) :=
  match cs with
  | mark :: after =>
      if !isExponentMark mark then some (none, cs)
      else if after.head?.any fun c => isDecimalDigit c || c == '+' || c == '-' then do
        let (e, rest) ← exponentAfter after
        return (some e, rest)
      else if endsNumber cs then some (none, cs) else none
  | [] => some (none, cs)

/-- An integer may not have leading zeros, nor too many digits. -/
def plainInteger (ds : List Nat) (rest : List Char) : Option (Constant × List Char) :=
  if ds.head? == some 0 && ds.any (· != 0) then none
  else if ds.length > Text.digitLimit || !endsNumber rest then none
  else some (.int (digitsIn 10 ds), rest)

def isImaginaryMark (c : Char) : Bool := c == 'j' || c == 'J'

def decimalNumber (cs : List Char) : Option (Constant × List Char) := do
  let (m, rest) ← mantissa cs
  let (e, rest) ← exponent? rest
  let value := Binary64.ofDecimal false (digitsIn 10 m.digits) (e.getD 0 - m.places)
  if rest.head?.any isImaginaryMark then
    if endsNumber (rest.drop 1) then some (.imaginary value, rest.drop 1) else none
  else if m.isDecimal || e.isSome then
    if endsNumber rest then some (.real value, rest) else none
  else plainInteger m.digits rest

def number (cs : List Char) : Option (Constant × List Char) :=
  match cs with
  | '0' :: 'x' :: rest | '0' :: 'X' :: rest => basedInteger 16 rest
  | '0' :: 'o' :: rest | '0' :: 'O' :: rest => basedInteger 8 rest
  | '0' :: 'b' :: rest | '0' :: 'B' :: rest => basedInteger 2 rest
  | _ => decimalNumber cs

end SchemaJoins.Source
