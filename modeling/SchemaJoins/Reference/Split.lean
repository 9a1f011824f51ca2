import SchemaJoins.Text.Blank

/-! # Splitting outside quotes

A quote character opens a span that only the same character closes. Separators
count where no span is open.
-/

namespace SchemaJoins.Reference

def isQuote (c : Char) : Bool := c == '\'' || c == '"'

/-- The span that is open after a character: the quote that opened it, if any. -/
def spanAfter (span : Option Char) (c : Char) : Option Char :=
  match span with
  | none => if isQuote c then some c else none
  | some q => if c == q then none else some q

/-- A separator outside all spans. A quote character never separates. -/
def separates (sep : Char) (span : Option Char) (c : Char) : Bool :=
  span.isNone && !isQuote c && c == sep

def consFirst (c : Char) : List (List Char) → List (List Char)
  | [] => [[c]]
  | s :: rest => (c :: s) :: rest

/-- The segments of a text that starts within `span`. There is always one more
than there are separators. -/
def segments (sep : Char) (span : Option Char) : List Char → List (List Char)
  | [] => [[]]
  | c :: cs =>
      if separates sep span c then [] :: segments sep none cs
      else consFirst c (segments sep (spanAfter span c) cs)

def lastSplit? (sep : Char) (span : Option Char) : List Char → Option (List Char × List Char)
  | [] => none
  | c :: cs =>
      match lastSplit? sep (spanAfter span c) cs with
      | some (left, right) => some (c :: left, right)
      | none => if separates sep span c then some ([], cs) else none

def split (sep : Char) (cs : List Char) : List (List Char) :=
  (segments sep none cs).map Text.trim

def splitLast? (sep : Char) (cs : List Char) : Option (List Char × List Char) :=
  (lastSplit? sep none cs).map fun (left, right) => (Text.trim left, Text.trim right)

end SchemaJoins.Reference
