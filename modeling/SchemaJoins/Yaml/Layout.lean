import SchemaJoins.Yaml.Block
import SchemaJoins.Yaml.Plain
import SchemaJoins.Yaml.Property
import SchemaJoins.Yaml.Quoted

/-! # The layout of a document

Outside brackets the indentation of a line opens and closes blocks. A scalar or a
bracketed collection turns out to be a key only when a colon follows, so its
place is kept until then: a key ends on the line on which it starts, after 1024
characters at most.
-/

namespace SchemaJoins.Yaml

/-- The place of what a colon may still turn into a key. -/
structure PendingKey where
  /-- The number of tokens before it. -/
  place : Nat
  /-- Nothing else than a key can stand there. -/
  required : Bool
  line : Nat
  column : Nat
  index : Nat

structure Layout where
  cursor : Cursor
  /-- The columns of the open blocks, the innermost first. -/
  indents : List Nat := []
  /-- What may be a key, for each open bracket and for the text around them. -/
  pending : List (Option PendingKey) := [none]
  /-- A key can start here. -/
  keysAllowed : Bool := true
  /-- The tokens so far, the last one first. -/
  tokens : List Token := []
  count : Nat := 0

namespace Layout

def inFlow (l : Layout) : Bool := decide (1 < l.pending.length)

def push (l : Layout) (t : Token) : Layout :=
  { l with tokens := t :: l.tokens, count := l.count + 1 }

def insertAt (l : Layout) (place : Nat) (t : Token) : Layout :=
  let (after, before) := l.tokens.splitAt (l.count - place)
  { l with tokens := after ++ t :: before, count := l.count + 1 }

def dropKey (l : Layout) : Except Flaw Layout :=
  match l.pending with
  | some k :: rest =>
      if k.required then .error .illFormed else .ok { l with pending := none :: rest }
  | _ => .ok l

def saveKey (l : Layout) : Except Flaw Layout := do
  if !l.keysAllowed then return l
  let l ← l.dropKey
  let c := l.cursor
  let required := !l.inFlow && l.indents.head? == some c.column
  return { l with
    pending := some ⟨l.count, required, c.line, c.column, c.index⟩ :: l.pending.drop 1 }

def keyLimit : Nat := 1024

/-- Whether a colon would come too late for a key. -/
def isStale (c : Cursor) (k : PendingKey) : Bool :=
  k.line != c.line || decide (c.index - k.index > keyLimit)

def dropStale (l : Layout) : Except Flaw Layout :=
  if l.pending.any fun k => k.any fun k => isStale l.cursor k && k.required then
    .error .illFormed
  else .ok { l with pending := l.pending.map fun k => k.filter (!isStale l.cursor ·) }

def closeBlocks (l : Layout) (column : Option Nat) : Layout :=
  if l.inFlow then l
  else
    let inner := l.indents.takeWhile fun i => column.all (· < i)
    inner.foldl (fun l _ => l.push .blockEnd) { l with indents := l.indents.drop inner.length }

def opensBlock (l : Layout) (column : Nat) : Bool := l.indents.head?.all (· < column)

def openBlock (l : Layout) (column : Nat) (t : Token) : Layout :=
  if l.opensBlock column then { l.push t with indents := column :: l.indents } else l

/-- Passes blanks, comments and line ends. Outside brackets a key can start on a
new line. -/
def skipGaps : Nat → Layout → Layout
  | 0, l => l
  | fuel + 1, l =>
      let c := (l.cursor.skipWhile (· == ' ')).skipComment
      match c.lineBreak? with
      | some (_, c) =>
          skipGaps fuel { l with cursor := c, keysAllowed := l.keysAllowed || !l.inFlow }
      | none => { l with cursor := c }

def emit (l : Layout) (n : Nat) (t : Token) : Layout :=
  { l.push t with cursor := l.cursor.skip n }

/-- A mark or a directive between documents ends all blocks. -/
def betweenDocuments (l : Layout) : Except Flaw Layout := do
  let l ← (l.closeBlocks none).dropKey
  return { l with keysAllowed := false }

def openBracket (l : Layout) (t : Token) : Except Flaw Layout := do
  let l ← l.saveKey
  return { l.emit 1 t with pending := none :: l.pending, keysAllowed := true }

def closeBracket (l : Layout) (t : Token) : Except Flaw Layout := do
  let l ← l.dropKey
  match l.pending with
  | _ :: outer :: rest =>
      return { l.emit 1 t with pending := outer :: rest, keysAllowed := false }
  | _ => .error .illFormed

def comma (l : Layout) : Except Flaw Layout := do
  let l ← l.dropKey
  return { l.emit 1 .comma with keysAllowed := true }

def blockEntry (l : Layout) : Except Flaw Layout := do
  if !l.inFlow && !l.keysAllowed then .error .illFormed
  let l := if l.inFlow then l else l.openBlock l.cursor.column .blockSequence
  let l ← l.dropKey
  return { l.emit 1 .entry with keysAllowed := true }

def explicitKey (l : Layout) : Except Flaw Layout := do
  if !l.inFlow && !l.keysAllowed then .error .illFormed
  let l := if l.inFlow then l else l.openBlock l.cursor.column .blockMapping
  let l ← l.dropKey
  return { l.emit 1 .key with keysAllowed := !l.inFlow }

/-- A colon before a value. The pending key becomes one, and may open a block. -/
def valueMark (l : Layout) : Except Flaw Layout := do
  match l.pending with
  | some k :: rest =>
      let opens := !l.inFlow && l.opensBlock k.column
      let l := { l.insertAt k.place .key with pending := none :: rest, keysAllowed := false }
      let l := if opens then
          { l.insertAt k.place .blockMapping with indents := k.column :: l.indents }
        else l
      return l.emit 1 .value
  | _ =>
      if !l.inFlow && !l.keysAllowed then .error .illFormed
      let l := if l.inFlow then l else l.openBlock l.cursor.column .blockMapping
      let l := { l with keysAllowed := !l.inFlow }
      let l ← l.dropKey
      return l.emit 1 .value

def keyPart (l : Layout) (read : Cursor → Except Flaw (Token × Cursor)) :
    Except Flaw Layout := do
  let l ← l.saveKey
  let (t, c) ← read l.cursor
  return { l.push t with cursor := c, keysAllowed := false }

def quotedToken (double : Bool) (c : Cursor) : Except Flaw (Token × Cursor) := do
  let (text, c) ← c.advance.quoted double (c.rest.length + 1)
  return (.scalar (String.ofList text) false, c)

def anchorToken (token : String → Token) (c : Cursor) : Except Flaw (Token × Cursor) := do
  let (name, c) ← anchorName c.advance
  return (token name, c)

def scalarIndent (l : Layout) : Nat := (l.indents.head?.map (· + 1)).getD 0

def plainScalar (l : Layout) : Except Flaw Layout := do
  let l ← l.saveKey
  let (text, brokeLine, c) :=
    l.cursor.plain l.inFlow l.scalarIndent (l.cursor.rest.length + 1) ⟨[], false⟩
  return { l.push (.scalar (String.ofList text) true) with cursor := c, keysAllowed := brokeLine }

def blockScalar (l : Layout) (folded : Bool) : Except Flaw Layout := do
  let l ← l.dropKey
  let (text, c) ← l.cursor.advance.blockScalar folded l.scalarIndent
  return { l.push (.scalar (String.ofList text) false) with cursor := c, keysAllowed := true }

def token (l : Layout) (x : Char) (rest : List Char) : Except Flaw Layout := do
  let atStart := l.cursor.column == 0
  let marksLine := atStart && atDocumentMark (x :: rest)
  if atStart && x == '%' then
    let l ← l.betweenDocuments
    let (t, c) ← directiveToken l.cursor.advance
    return { l.push t with cursor := c }
  else if marksLine then
    return (← l.betweenDocuments).emit 3 (if x == '-' then .documentStart else .documentEnd)
  else if x == '[' then l.openBracket .openSequence
  else if x == '\x7b' then l.openBracket .openMapping
  else if x == ']' then l.closeBracket .closeSequence
  else if x == '\x7d' then l.closeBracket .closeMapping
  else if x == ',' then l.comma
  else if x == '-' && atEndOr isGap rest then l.blockEntry
  else if x == '?' && (l.inFlow || atEndOr isGap rest) then l.explicitKey
  else if x == ':' && (l.inFlow || atEndOr isGap rest) then l.valueMark
  else if x == '*' then l.keyPart (anchorToken .alias)
  else if x == '&' then l.keyPart (anchorToken .anchor)
  else if x == '!' then l.keyPart tagToken
  else if x == '|' && !l.inFlow then l.blockScalar false
  else if x == '>' && !l.inFlow then l.blockScalar true
  else if x == '\'' then l.keyPart (quotedToken false)
  else if x == '"' then l.keyPart (quotedToken true)
  else if startsPlain l.inFlow (x :: rest) then l.plainScalar
  else .error .illFormed

/-- The next token with the tokens that the layout puts before it; at the end of
the text `true` comes with it. -/
def step (l : Layout) : Except Flaw (Layout × Bool) := do
  let l ← (l.skipGaps (l.cursor.rest.length + 1)).dropStale
  let l := l.closeBlocks (some l.cursor.column)
  match l.cursor.rest with
  | [] => return ((← (l.closeBlocks none).dropKey).push .streamEnd, true)
  | x :: rest => return (← l.token x rest, false)

/-- Each token is at least one character long. -/
def run : Nat → Layout → List Token
  | 0, l => (Token.flaw .illFormed :: l.tokens).reverse
  | fuel + 1, l =>
      match l.step with
      | .error f => (Token.flaw f :: l.tokens).reverse
      | .ok (l, true) => l.tokens.reverse
      | .ok (l, false) => run fuel l

end Layout

/-- The tokens of a text. A byte order mark at the start is passed over; a flaw
is the last token. -/
def tokens (cs : List Char) : List Token :=
  if cs.all isAllowed then
    let cursor : Cursor := { rest := cs }
    let cursor := if startsWith (· == '\uFEFF') cs then cursor.advance else cursor
    Layout.run (cs.length + 1) { cursor }
  else [.flaw .illFormed]

end SchemaJoins.Yaml
