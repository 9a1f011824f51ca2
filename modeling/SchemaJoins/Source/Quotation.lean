import SchemaJoins.Source.Token
import SchemaJoins.Text.CharacterNames

/-! # Strings in source text

Where a string ends, and what its escapes stand for.
-/

namespace SchemaJoins.Source

/-- The characters up to the closing quote on the same line, and the rest. A
backslash takes the next character with it. -/
def untilQuote (quote : Char) : List Char → Option (List Char × List Char)
  | [] => none
  | '\\' :: c :: cs => do
      let (body, rest) ← untilQuote quote cs
      return ('\\' :: c :: body, rest)
  | c :: cs =>
      if c = quote then some ([], cs)
      else if c = '\n' then none
      else do
        let (body, rest) ← untilQuote quote cs
        return (c :: body, rest)

def untilTripleQuote (quote : Char) : List Char → Option (List Char × List Char)
  | [] => none
  | '\\' :: c :: cs => do
      let (body, rest) ← untilTripleQuote quote cs
      return ('\\' :: c :: body, rest)
  | c :: cs =>
      if c = quote ∧ cs.take 2 = [quote, quote] then some ([], cs.drop 2)
      else do
        let (body, rest) ← untilTripleQuote quote cs
        return (c :: body, rest)

def quotedBody (quote : Char) (cs : List Char) : Option (List Char × List Char) :=
  if cs.take 2 = [quote, quote] then untilTripleQuote quote (cs.drop 2)
  else untilQuote quote cs

def quotationOf? (mark : String) (body : List Char) : Option Quotation :=
  match mark.map Char.toLower with
  | "" | "u" => some ⟨false, false, false, body⟩
  | "r" => some ⟨true, false, false, body⟩
  | "b" => some ⟨false, true, false, body⟩
  | "f" => some ⟨false, false, true, body⟩
  | "br" | "rb" => some ⟨true, true, false, body⟩
  | "fr" | "rf" => some ⟨true, false, true, body⟩
  | _ => none

def isQuotationMark (word : String) : Bool := (quotationOf? word []).isSome

def hexValue? (c : Char) : Option Nat :=
  if '0' ≤ c ∧ c ≤ '9' then some (c.toNat - 48)
  else if 'a' ≤ c ∧ c ≤ 'f' then some (c.toNat - 87)
  else if 'A' ≤ c ∧ c ≤ 'F' then some (c.toNat - 55)
  else none

def hexNumber? (width : Nat) (cs : List Char) : Option Nat := do
  let ds ← (cs.take width).mapM hexValue?
  if ds.length = width then some (ds.foldl (fun n d => n * 16 + d) 0) else none

def isOctalDigit (c : Char) : Bool := decide ('0' ≤ c) && decide (c ≤ '7')

def octalDigits (cs : List Char) : List Char := (cs.take 3).takeWhile isOctalDigit

def octalNumber (cs : List Char) : Nat := cs.foldl (fun n c => n * 8 + (c.toNat - 48)) 0

/-- A character by its code; codes that are no characters are replaced. -/
def charOf (n : Nat) : Char := if n.isValidChar then Char.ofNat n else '\uFFFD'

def simpleEscape? : Char → Option Char
  | '\\' => some '\\'
  | '\'' => some '\''
  | '"' => some '"'
  | 'a' => some '\x07'
  | 'b' => some '\x08'
  | 'f' => some '\x0c'
  | 'n' => some '\n'
  | 'r' => some '\r'
  | 't' => some '\t'
  | 'v' => some '\x0b'
  | _ => none

def namedEscape (cs : List Char) : Option (List Char × Nat) :=
  match cs with
  | '{' :: rest => do
      let name := rest.takeWhile (· != '}')
      if name.length = rest.length then none
      else
        let c ← Text.namedCharacter? (String.ofList name)
        return ([c], name.length + 3)
  | _ => none

/-- What an escape stands for, and how many characters it takes after the
backslash. An escape that is not known stands for itself, and so does a backslash
at the end. -/
def escape : List Char → Option (List Char × Nat)
  | [] => some (['\\'], 0)
  | '\n' :: _ => some ([], 1)
  | 'x' :: cs => do return ([charOf (← hexNumber? 2 cs)], 3)
  | 'u' :: cs => do return ([charOf (← hexNumber? 4 cs)], 5)
  | 'U' :: cs => do
      let n ← hexNumber? 8 cs
      if n < 0x110000 then some ([charOf n], 9) else none
  | 'N' :: cs => namedEscape cs
  | c :: cs =>
      match simpleEscape? c with
      | some d => some ([d], 1)
      | none =>
          if isOctalDigit c then
            let ds := octalDigits (c :: cs)
            some ([charOf (octalNumber ds)], ds.length)
          else some (['\\', c], 1)

/-- The characters of a text with its escapes replaced; the first `skip` have
been read already. -/
def unescapeFrom : Nat → List Char → Option (List Char)
  | _, [] => some []
  | skip + 1, _ :: cs => unescapeFrom skip cs
  | 0, c :: cs =>
      if c = '\\' then do
        let (out, taken) ← escape cs
        return out ++ (← unescapeFrom taken cs)
      else do return c :: (← unescapeFrom 0 cs)

def unescape (cs : List Char) : Option (List Char) := unescapeFrom 0 cs

def asciiByte (c : Char) : UInt8 := c.toNat.toUInt8

def byteEscape : List Char → Option (List UInt8 × Nat)
  | [] => none
  | '\n' :: _ => some ([], 1)
  | 'x' :: cs => do return ([(← hexNumber? 2 cs).toUInt8], 3)
  | c :: cs =>
      match simpleEscape? c with
      | some d => some ([asciiByte d], 1)
      | none =>
          if isOctalDigit c then
            let ds := octalDigits (c :: cs)
            some ([(octalNumber ds).toUInt8], ds.length)
          else some ([asciiByte '\\', asciiByte c], 1)

def unescapeBytesFrom : Nat → List Char → Option (List UInt8)
  | _, [] => some []
  | skip + 1, _ :: cs => unescapeBytesFrom skip cs
  | 0, c :: cs =>
      if c = '\\' then do
        let (out, taken) ← byteEscape cs
        return out ++ (← unescapeBytesFrom taken cs)
      else do return asciiByte c :: (← unescapeBytesFrom 0 cs)

namespace Quotation

def text? (q : Quotation) : Option (List Char) := if q.raw then some q.body else unescape q.body

def bytes? (q : Quotation) : Option (List UInt8) :=
  if q.body.any fun c => decide (128 ≤ c.toNat) then none
  else if q.raw then some (q.body.map asciiByte)
  else unescapeBytesFrom 0 q.body

end Quotation

end SchemaJoins.Source
