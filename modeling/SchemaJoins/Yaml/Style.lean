import SchemaJoins.Yaml.Kind

/-! # Written scalars

A text is written plain if that reads back as the same text. Otherwise it stands
in single quotes, or, if it holds characters that these cannot show, in double
quotes with escapes. Lines that reach beyond a width are broken at blanks.
-/

namespace SchemaJoins.Yaml

/-- Where a line may end: after the word that reaches beyond this width. -/
def lineWidth : Nat := 80

inductive ScalarStyle where
  | plain
  | single
  | double
  deriving DecidableEq, Repr

namespace ScalarStyle

def isBreak (c : Char) : Bool :=
  c == '\n' || c == '\u0085' || c == '\u2028' || c == '\u2029'

def isGap (c : Char) : Bool :=
  c == ' ' || c == '\t' || c == '\r' || c == '\x00' || isBreak c

def needsEscape (c : Char) : Bool :=
  c != '\n' && !(decide (' ' ≤ c) && decide (c ≤ '~'))

def isIndicator (c : Char) : Bool :=
  "#,[]\x7b\x7d&*!|>'\"%@\x60".toList.contains c

/-- A colon before a gap, or a hash sign after one. -/
def holdsIndicator : List Char → Bool
  | ':' :: [] => true
  | a :: b :: rest => (a == ':' && isGap b) || (isGap a && b == '#') || holdsIndicator (b :: rest)
  | _ => false

def startsIndicator : List Char → Bool
  | '-' :: '-' :: '-' :: _ => true
  | '.' :: '.' :: '.' :: _ => true
  | c :: rest => isIndicator c || ((c == '?' || c == ':' || c == '-') && (rest.head?.all isGap))
  | [] => false

/-- Blanks next to a line end on this side of it. -/
def holdsPair (first second : Char → Bool) : List Char → Bool
  | a :: b :: rest => (first a && second b) || holdsPair first second (b :: rest)
  | _ => false

def isMultiline (cs : List Char) : Bool := cs.any isBreak

def isEdge (c : Char) : Bool := c == ' ' || isBreak c

def allowsPlain (cs : List Char) : Bool :=
  !cs.any needsEscape && !isMultiline cs && !startsIndicator cs && !holdsIndicator cs &&
    !cs.head?.any isEdge && !cs.getLast?.any isEdge

def allowsSingle (cs : List Char) : Bool :=
  !cs.any needsEscape && !holdsPair isBreak (· == ' ') cs && !holdsPair (· == ' ') isBreak cs

def ofText (s : String) : ScalarStyle :=
  let cs := s.toList
  if Kind.ofPlain s == .text && allowsPlain cs then .plain
  else if allowsSingle cs then .single
  else .double

end ScalarStyle

/-! ## Lines

A written scalar is a list of lines. The first continues the line on which the
scalar starts; the others are indented. -/

def onFirst (cs : List Char) : List (List Char) → List (List Char)
  | [] => [cs]
  | line :: rest => (cs ++ line) :: rest

def runsOf (cs : List Char) : List (List Char) :=
  cs.splitBy fun a b =>
    (a == ' ') == (b == ' ') && ScalarStyle.isBreak a == ScalarStyle.isBreak b

/-- Breaks lines at single blanks inside the text, and doubles the line ends of
the text. `column` is where the text goes on. -/
def foldRuns (indent column : Nat) (atStart : Bool) : List (List Char) → List (List Char)
  | [] => [[]]
  | run :: rest =>
      if run == [' '] && !atStart && !rest.isEmpty && decide (lineWidth < column) then
        [] :: foldRuns indent indent false rest
      else if run.any ScalarStyle.isBreak then
        [] :: List.replicate run.length [] ++ foldRuns indent indent false rest
      else onFirst run (foldRuns indent (column + run.length) false rest)

def escapeLetter? (c : Char) : Option Char :=
  match c with
  | '\x00' => some '0'
  | '\x07' => some 'a'
  | '\x08' => some 'b'
  | '\t' => some 't'
  | '\n' => some 'n'
  | '\x0b' => some 'v'
  | '\x0c' => some 'f'
  | '\r' => some 'r'
  | '\x1b' => some 'e'
  | '"' => some '"'
  | '\\' => some '\\'
  | '\u0085' => some 'N'
  | '\u00a0' => some '_'
  | '\u2028' => some 'L'
  | '\u2029' => some 'P'
  | _ => none

def hexadecimal (width n : Nat) : List Char :=
  let ds := (Nat.toDigits 16 n).map Char.toUpper
  List.replicate (width - ds.length) '0' ++ ds

def escape? (c : Char) : Option (List Char) :=
  match escapeLetter? c with
  | some e => some ['\\', e]
  | none =>
      if !ScalarStyle.needsEscape c then none
      else if c.toNat < 0x100 then some ('\\' :: 'x' :: hexadecimal 2 c.toNat)
      else if c.toNat < 0x10000 then some ('\\' :: 'u' :: hexadecimal 4 c.toNat)
      else some ('\\' :: 'U' :: hexadecimal 8 c.toNat)

/-- The content of double quotes. A line can be broken at a blank and next to an
escape; a backslash ends it, and another one keeps a blank at the start of the
next line. -/
def foldEscaped (indent : Nat) : (column : Nat) → (atStart afterEscape : Bool) → List Char →
    List (List Char)
  | _, _, _, [] => [[]]
  | column, atStart, afterEscape, c :: rest =>
      let inside := !atStart && !rest.isEmpty
      match escape? c with
      | some e =>
          let column := column + e.length
          if inside && decide (lineWidth + 1 < column) then
            if rest.head? == some ' ' then
              (e ++ ['\\']) :: onFirst ['\\'] (foldEscaped indent (indent + 1) false true rest)
            else (e ++ ['\\']) :: foldEscaped indent indent false true rest
          else onFirst e (foldEscaped indent column false true rest)
      | none =>
          if inside && (c == ' ' || afterEscape) && decide (lineWidth < column) then
            let lead := if c == ' ' then ['\\', ' '] else [c]
            ['\\'] :: onFirst lead (foldEscaped indent (indent + lead.length) false false rest)
          else onFirst [c] (foldEscaped indent (column + 1) false false rest)

def inlineEscapes (cs : List Char) : List Char := cs.flatMap fun c => (escape? c).getD [c]

/-- Quotes inside single quotes are written twice. -/
def doubleQuotes (cs : List Char) : List Char :=
  cs.flatMap fun c => if c == '\'' then ['\'', '\''] else [c]

def onLast (cs : List Char) : List (List Char) → List (List Char)
  | [] => [cs]
  | [line] => [line ++ cs]
  | line :: rest => line :: onLast cs rest

def textChars (s : String) : List Char :=
  match ScalarStyle.ofText s with
  | .plain => s.toList
  | .single => '\'' :: doubleQuotes s.toList ++ ['\'']
  | .double => '"' :: inlineEscapes s.toList ++ ['"']

def textLines (indent column : Nat) (s : String) : List (List Char) :=
  match ScalarStyle.ofText s with
  | .plain => foldRuns indent column true (runsOf s.toList)
  | .single =>
      onFirst ['\''] (onLast ['\'']
        (foldRuns indent (column + 1) true (runsOf (doubleQuotes s.toList))))
  | .double =>
      onFirst ['"'] (onLast ['"'] (foldEscaped indent (column + 1) true false s.toList))

end SchemaJoins.Yaml
