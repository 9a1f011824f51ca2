import SchemaJoins.Source.Number
import SchemaJoins.Source.Quotation
import SchemaJoins.Text.NameCharacter

/-! # Reading tokens

Lines are read one after another. The indentation of a line that holds more than
a comment opens and closes blocks, unless a bracket is open. `tokens?` gives no
tokens for text that is not well formed at this level.
-/

namespace SchemaJoins.Source

/-- How far a line is indented, with tabs up to the next multiple of eight, and
with every tab as one column. -/
structure Indentation where
  column : Nat
  narrow : Nat
  deriving DecidableEq, Repr

structure Lexer where
  line : Nat
  indents : List Indentation
  brackets : List Char
  atLineStart : Bool

namespace Lexer

def bracketLimit : Nat := 200

def indentLimit : Nat := 100

/-- The indentation at the start of a line, the rest of the line and the number
of line ends passed. A backslash before a line end continues the line, and the
first one fixes the indentation. -/
def indentation (column narrow fixed passed : Nat) :
    List Char → Option (Indentation × List Char × Nat)
  | ' ' :: cs => indentation (column + 1) (narrow + 1) fixed passed cs
  | '\t' :: cs => indentation ((column / 8 + 1) * 8) (narrow + 1) fixed passed cs
  | '\x0c' :: cs => indentation 0 0 fixed passed cs
  | '\\' :: '\n' :: c :: cs =>
      indentation column narrow (if fixed = 0 then column else fixed) (passed + 1) (c :: cs)
  | '\\' :: _ => none
  | cs => some (if fixed = 0 then ⟨column, narrow⟩ else ⟨fixed, fixed⟩, cs, passed)

def closeBlocks (i : Indentation) : List Indentation → Option (Nat × List Indentation)
  | [] => none
  | top :: rest =>
      if i.column < top.column then do
        let (n, kept) ← closeBlocks i rest
        return (n + 1, kept)
      else if i = top then some (0, top :: rest)
      else none

def openOrClose (i : Indentation) (indents : List Indentation) :
    Option (List Lexeme × List Indentation) :=
  match indents with
  | [] => none
  | top :: _ =>
      if top.column < i.column then
        if top.narrow < i.narrow ∧ indents.length < indentLimit then
          some ([.indent], i :: indents)
        else none
      else do
        let (n, kept) ← closeBlocks i indents
        return (List.replicate n .dedent, kept)

def opens (c : Char) : Bool := c == '(' || c == '[' || c == '{'

def closes? : Char → Option Char
  | ')' => some '('
  | ']' => some '['
  | '}' => some '{'
  | _ => none

def bracketsAfter (brackets : List Char) (operator : String) : Option (List Char) :=
  match operator.toList with
  | [c] =>
      if opens c then if brackets.length < bracketLimit then some (c :: brackets) else none
      else
        match closes? c with
        | none => some brackets
        | some opening =>
            match brackets with
            | b :: rest => if b = opening then some rest else none
            | [] => none
  | _ => some brackets

def operator? (cs : List Char) : Option String :=
  operators.findSome? fun ofLength => ofLength.find? fun o => o.toList.isPrefixOf cs

/-- A word above ASCII must be made of characters of names. -/
def isWord : List Char → Bool
  | [] => false
  | c :: cs => Text.isNameStart c && cs.all Text.isNameRest

def startsWord (c : Char) : Bool := continuesWord c && !isDecimalDigit c

def isGap (c : Char) : Bool := c == ' ' || c == '\t' || c == '\x0c'

def string (mark : String) (quote : Char) (cs : List Char) : Option (Lexeme × List Char) := do
  let (body, rest) ← quotedBody quote cs
  return (.string (← quotationOf? mark body), rest)

def isQuote (c : Char) : Bool := c == '\'' || c == '"'

def word (cs : List Char) : Option (Lexeme × List Char) :=
  let w := cs.takeWhile continuesWord
  let rest := cs.drop w.length
  match rest with
  | q :: after =>
      if isQuote q && isQuotationMark (String.ofList w) then string (String.ofList w) q after
      else if isWord w then some (.ofWord (String.ofList w), rest) else none
  | [] => if isWord w then some (.ofWord (String.ofList w), rest) else none

def lexeme (cs : List Char) : Option (Lexeme × List Char) :=
  match cs with
  | [] => none
  | c :: after =>
      if startsWord c then word cs
      else if isDecimalDigit c || (c == '.' && after.head?.any isDecimalDigit) then do
        let (n, rest) ← number cs
        return (.number n, rest)
      else if isQuote c then string "" c after
      else do
        let o ← operator? cs
        return (.operator o, cs.drop o.length)

abbrev Step := Lexer × List Char × List Token

/-- Reads the indentation of a line; a line without tokens is passed over. -/
def startLine (s : Lexer) (cs : List Char) : Option Step := do
  let (i, rest, passed) ← indentation 0 0 0 0 cs
  let s := { s with line := s.line + passed }
  match rest with
  | '#' :: _ => some (s, rest.dropWhile (· != '\n'), [])
  | '\n' :: rest => some ({ s with line := s.line + 1 }, rest, [])
  | _ =>
      let s := { s with atLineStart := false }
      if s.brackets.isEmpty then do
        let (marks, indents) ← openOrClose i s.indents
        some ({ s with indents }, rest, marks.map (⟨·, s.line⟩))
      else some (s, rest, [])

def linesWithin : Lexeme → Nat
  | .string q => q.body.count '\n'
  | _ => 0

def bracketsWith (brackets : List Char) : Lexeme → Option (List Char)
  | .operator o => bracketsAfter brackets o
  | _ => some brackets

def within (s : Lexer) (cs : List Char) : Option Step :=
  match cs with
  | [] => none
  | '\n' :: rest =>
      some ({ s with line := s.line + 1, atLineStart := true }, rest,
        if s.brackets.isEmpty then [⟨.newline, s.line⟩] else [])
  | '\\' :: '\n' :: c :: rest => some ({ s with line := s.line + 1 }, c :: rest, [])
  | '#' :: rest => some (s, rest.dropWhile (· != '\n'), [])
  | c :: after =>
      if isGap c then some (s, after, [])
      else do
        let (l, rest) ← lexeme cs
        let brackets ← bracketsWith s.brackets l
        some ({ s with line := s.line + linesWithin l, brackets }, rest, [⟨l, s.line⟩])

/-- The tokens at the end of a text: open blocks are closed, and no bracket may
be open. -/
def finish (s : Lexer) : Option (List Token) :=
  if s.brackets.isEmpty then
    some (List.replicate (s.indents.length - 1) ⟨.dedent, s.line⟩ ++ [⟨.stop, s.line⟩])
  else none

/-- Reads on from a state. Every step takes a character or settles the start of a
line, so that the number of steps is bounded by twice the length of the text. -/
def run : Nat → Lexer → List Char → List Token → Option (List Token)
  | 0, _, _, _ => none
  | fuel + 1, s, cs, done =>
      if s.atLineStart then
        match startLine s cs with
        | some (s, rest, tokens) => run fuel s rest (tokens.reverse ++ done)
        | none => none
      else if cs.isEmpty then
        match finish s with
        | some tokens => some (done.reverse ++ tokens)
        | none => none
      else
        match within s cs with
        | some (s, rest, tokens) => run fuel s rest (tokens.reverse ++ done)
        | none => none

def tokens? (firstLine : Nat) (cs : List Char) : Option (List Token) :=
  run (2 * cs.length + 2)
    { line := firstLine, indents := [⟨0, 0⟩], brackets := [], atLineStart := true } cs []

end Lexer

end SchemaJoins.Source
