import SchemaJoins.Data.Fault

/-! # Characters of documents

The classes of characters on which the reading of a document turns. The end of
the text counts as a member of each class of separators.
-/

namespace SchemaJoins.Yaml

/-- Why a document cannot be read: it is ill formed or has a part without a
meaning, or a scalar in it does not write a value of its kind. -/
inductive Flaw where
  | illFormed
  | fault (f : Fault)
  deriving Repr

def isBreak (c : Char) : Bool :=
  c == '\n' || c == '\u0085' || c == '\u2028' || c == '\u2029'

def isSpaceOrBreak (c : Char) : Bool := c == ' ' || isBreak c

def isGap (c : Char) : Bool := c == '\t' || isSpaceOrBreak c

def atEndOr (p : Char → Bool) : List Char → Bool
  | [] => true
  | c :: _ => p c

def startsWith (p : Char → Bool) : List Char → Bool
  | [] => false
  | c :: _ => p c

def isAllowed (c : Char) : Bool :=
  let n := c.toNat
  c == '\t' || c == '\n' || (decide (0x20 ≤ n) && decide (n ≤ 0x7E)) || n == 0x85 ||
    (decide (0xA0 ≤ n) && n != 0xFFFE && n != 0xFFFF)

def isNameCharacter (c : Char) : Bool := c.isAlphanum || c == '-' || c == '_'

def isFlowIndicator (c : Char) : Bool :=
  c == ',' || c == '[' || c == ']' || c == '\x7b' || c == '\x7d'

def isIndicator (c : Char) : Bool :=
  isFlowIndicator c || "-?:#&*!|>'\"%@\x60".toList.contains c

def isAddressCharacter (c : Char) : Bool :=
  c.isAlphanum || "-;/?:@&=+$,_.!~*'()[]%".toList.contains c

def hexDigit? (c : Char) : Option Nat :=
  if '0' ≤ c ∧ c ≤ '9' then some (c.toNat - '0'.toNat)
  else if 'a' ≤ c ∧ c ≤ 'f' then some (c.toNat - 'a'.toNat + 10)
  else if 'A' ≤ c ∧ c ≤ 'F' then some (c.toNat - 'A'.toNat + 10)
  else none

def hexNumber? (count : Nat) (cs : List Char) : Option (Nat × List Char) := do
  let taken := cs.take count
  if taken.length < count then none
  else
    let ds ← taken.mapM hexDigit?
    return (ds.foldl (fun n d => n * 16 + d) 0, cs.drop count)

def atDocumentMark : List Char → Bool
  | '-' :: '-' :: '-' :: rest => atEndOr isGap rest
  | '.' :: '.' :: '.' :: rest => atEndOr isGap rest
  | _ => false

end SchemaJoins.Yaml
