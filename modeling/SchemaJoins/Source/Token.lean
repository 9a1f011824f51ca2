import SchemaJoins.Number.Binary64

/-! # Tokens of source text

The source text of a domain file is Python. Its tokens carry the line that they
start on; blocks are marked by tokens for line ends and for changes of the
indentation.
-/

namespace SchemaJoins.Source

inductive Constant where
  | null
  | bool (b : Bool)
  | int (n : Nat)
  | real (x : Binary64)
  | imaginary (x : Binary64)
  | text (s : String)
  | bytes (data : List UInt8)
  | ellipsis
  deriving Repr, Inhabited, BEq

structure Quotation where
  raw : Bool
  bytes : Bool
  formatted : Bool
  body : List Char
  deriving Repr, Inhabited, BEq

inductive Lexeme where
  | name (s : String)
  | keyword (s : String)
  | operator (s : String)
  | number (c : Constant)
  | string (q : Quotation)
  | newline
  | indent
  | dedent
  | stop
  deriving Repr, Inhabited, BEq

structure Token where
  lexeme : Lexeme
  line : Nat
  deriving Repr, Inhabited, BEq

def keywords : List String :=
  ["False", "None", "True", "and", "as", "assert", "async", "await", "break", "class", "continue",
    "def", "del", "elif", "else", "except", "finally", "for", "from", "global", "if", "import",
    "in", "is", "lambda", "nonlocal", "not", "or", "pass", "raise", "return", "try", "while",
    "with", "yield"]

def Lexeme.ofWord (s : String) : Lexeme := if keywords.contains s then .keyword s else .name s

/-- Operators by length, the longest first. -/
def operators : List (List String) := [
  ["...", "**=", "//=", ">>=", "<<="],
  ["!=", "->", ":=", "==", "<=", ">=", "+=", "-=", "*=", "/=", "%=", "&=", "|=", "^=", "@=", "**",
    "//", "<<", ">>"],
  ["(", ")", "[", "]", "\x7b", "\x7d", ",", ":", ".", ";", "@", "=", "+", "-", "*", "/", "%", "&",
    "|", "^", "~", "<", ">"]]

end SchemaJoins.Source
