import SchemaJoins.Source.Lexer
import SchemaJoins.Source.Tree

/-! # Rules of the grammar

A rule reads tokens from the start of a row and gives a node and the rest. Rules
that contain each other are tied together by a `Grammar`, which gives the rule of
every kind of part.
-/

namespace SchemaJoins.Source

abbrev Parse (α : Type) := List Token → Option (α × List Token)

inductive Part where
  | expression
  | disjunction
  | inversion
  | bitwise
  | factor
  | block
  | pattern
  deriving DecidableEq, Repr

abbrev Grammar := Part → Parse Node

namespace Rule

def lineOf (ts : List Token) : Nat := (ts.head?.map (·.line)).getD 0

def isOperator (o : String) : List Token → Bool
  | ⟨.operator p, _⟩ :: _ => p == o
  | _ => false

def isKeyword (k : String) : List Token → Bool
  | ⟨.keyword w, _⟩ :: _ => w == k
  | _ => false

def operator (o : String) (ts : List Token) : Option (List Token) :=
  if isOperator o ts then some ts.tail else none

def keyword (k : String) (ts : List Token) : Option (List Token) :=
  if isKeyword k ts then some ts.tail else none

def mark (l : Lexeme) : List Token → Option (List Token)
  | ⟨m, _⟩ :: rest => if m == l then some rest else none
  | [] => none

def name : Parse String
  | ⟨.name s, _⟩ :: rest => some (s, rest)
  | _ => none

def isName (s : String) : List Token → Bool
  | ⟨.name t, _⟩ :: _ => t == s
  | _ => false

def operatorAmong? (os : List String) : List Token → Option (List Token)
  | ⟨.operator o, _⟩ :: rest => if os.contains o then some rest else none
  | _ => none

/-- One or more items between commas, and whether a comma stands at the end. The
first argument bounds their number. -/
def commaSeparated (item : Parse α) : List Token → List Token → Option (List α × Bool × List Token)
  | [], _ => none
  | _ :: bound, ts => do
      let (x, rest) ← item ts
      match operator "," rest with
      | none => some ([x], false, rest)
      | some more =>
          match commaSeparated item bound more with
          | some (xs, trailing, rest) => some (x :: xs, trailing, rest)
          | none => some ([x], true, more)

def itemsUntil (close : String) (item : Parse α) (ts : List Token) : Option (List α × List Token) :=
  match operator close ts with
  | some rest => some ([], rest)
  | none => do
      let (xs, _, rest) ← commaSeparated item ts ts
      return (xs, ← operator close rest)

def many (item : Parse α) : List Token → Parse (List α)
  | [], ts => some ([], ts)
  | _ :: bound, ts =>
      match item ts with
      | none => some ([], ts)
      | some (x, rest) => do
          let (xs, rest) ← many item bound rest
          return (x :: xs, rest)

/-- A first operand and operators with further operands, grouped from the left.
All groups start on the line of the first operand. -/
def leftGrouped (os : List String) (operand : Parse Node) (line : Nat) :
    List Token → Node → Parse Node
  | [], left, ts => some (left, ts)
  | _ :: bound, left, ts =>
      match operatorAmong? os ts with
      | none => some (left, ts)
      | some rest => do
          let (right, rest) ← operand rest
          leftGrouped os operand line bound (.other line .binary [left, right]) rest

def binary (os : List String) (operand : Parse Node) (ts : List Token) :
    Option (Node × List Token) := do
  let (left, rest) ← operand ts
  leftGrouped os operand (lineOf ts) rest left rest

end Rule

end SchemaJoins.Source
