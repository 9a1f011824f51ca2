import SchemaJoins.Source.Lexer

/-! # Strings with replacement fields

The text between the braces of a string with replacement fields is an expression.
After it may come an equals sign, a conversion and a format, which may hold
fields of its own, one level deep.
-/

namespace SchemaJoins.Source.Interpolation

structure Located where
  line : Nat
  text : List Char

def isBrace (c : Char) : Bool := c == '{' || c == '}'

def escapeLength (cs : List Char) : Nat :=
  match cs with
  | 'N' :: '{' :: rest => 3 + (rest.takeWhile (· != '}')).length
  | c :: _ => if isBrace c then 0 else 1
  | [] => 0

def onto (c : Char) : List (List Char) → List (List Char)
  | [] => [[c]]
  | piece :: pieces => (c :: piece) :: pieces

/-- The plain pieces before a field, and the text from its brace on. Outside a
format a brace that is written twice is plain. -/
def plainPieces (raw top : Bool) : Nat → List Char → Option (List (List Char) × List Char)
  | _, [] => some ([[]], [])
  | skip + 1, c :: cs => do
      let (pieces, rest) ← plainPieces raw top skip cs
      return (onto c pieces, rest)
  | 0, c :: cs =>
      if c = '\\' ∧ !raw then do
        let (pieces, rest) ← plainPieces raw top (escapeLength cs) cs
        return (onto c pieces, rest)
      else if isBrace c then
        match cs with
        | d :: after =>
            if top ∧ d = c then do
              let (pieces, rest) ← plainPieces raw top 0 after
              return ([c] :: pieces, rest)
            else if top ∧ c = '}' then none
            else some ([[]], c :: cs)
        | [] => if top ∧ c = '}' then none else some ([[]], [c])
      else do
        let (pieces, rest) ← plainPieces raw top 0 cs
        return (onto c pieces, rest)

structure Open where
  quote : Option (Char × Bool)
  brackets : List Char

def isPair (c : Char) (after : List Char) : Bool :=
  (c == '!' || c == '=' || c == '<' || c == '>') && after.head? == some '='

def endsExpression (c : Char) : Bool := c == '!' || c == ':' || c == '}' || c == '='

/-- What is open after a character, and how many more characters go with it.
`none` stands for an error. -/
def advance (o : Open) (c : Char) (after : List Char) : Option (Open × Nat) :=
  match o.quote with
  | some (q, triple) =>
      if c ≠ q then some (o, 0)
      else if !triple then some ({ o with quote := none }, 0)
      else if after.take 2 = [q, q] then some ({ o with quote := none }, 2)
      else some (o, 0)
  | none =>
      if Lexer.isQuote c then
        if after.take 2 = [c, c] then some ({ o with quote := some (c, true) }, 2)
        else some ({ o with quote := some (c, false) }, 0)
      else if c = '#' then none
      else if o.brackets.isEmpty && isPair c after then some (o, 1)
      else do
        let brackets ← Lexer.bracketsAfter o.brackets (String.singleton c)
        return ({ o with brackets }, 0)

def expressionText : Nat → Open → List Char → Option (List Char × List Char)
  | _, _, [] => none
  | skip + 1, o, c :: cs => do
      let (text, rest) ← expressionText skip o cs
      return (c :: text, rest)
  | 0, o, c :: cs =>
      if c = '\\' then none
      else if o.quote.isNone ∧ o.brackets.isEmpty ∧ endsExpression c ∧ !isPair c cs then
        some ([], c :: cs)
      else do
        let (o, skip) ← advance o c cs
        let (text, rest) ← expressionText skip o cs
        return (c :: text, rest)

def afterEquals : List Char → List Char
  | '=' :: cs => cs.dropWhile fun c => Lexer.isGap c || c == '\n' || c == '\x0b'
  | cs => cs

def afterConversion : List Char → Option (List Char)
  | '!' :: 's' :: cs => some cs
  | '!' :: 'r' :: cs => some cs
  | '!' :: 'a' :: cs => some cs
  | '!' :: _ => none
  | cs => some cs

def isEmptyText (cs : List Char) : Bool := cs.all fun c => Lexer.isGap c || c == '\n'

def depthLimit : Nat := 2

def plain? (raw : Bool) (pieces : List (List Char)) : Option Unit :=
  if raw || pieces.all fun piece => (unescape piece).isSome then some () else none

def linesIn (before rest : List Char) : Nat :=
  (before.take (before.length - rest.length)).count '\n'

/-- The expressions of the fields in a text, and the text from the brace that
closes it on. -/
def fieldsFrom (raw : Bool) : Nat → Nat → Nat → List Char → Option (List Located × List Char)
  | 0, _, _, _ => none
  | fuel + 1, level, line, cs => do
      let (pieces, rest) ← plainPieces raw (level == 0) 0 cs
      plain? raw pieces
      match rest with
      | '{' :: body =>
          if depthLimit ≤ level then none
          else do
            let line := line + linesIn cs rest
            let (text, after) ← expressionText 0 ⟨none, []⟩ body
            if isEmptyText text then none
            else do
              let after ← afterConversion (afterEquals after)
              let (inner, after) ← match after with
                | ':' :: format =>
                    fieldsFrom raw fuel (level + 1) (line + linesIn body after) format
                | _ => some ([], after)
              match after with
              | '}' :: following => do
                  let next := line + linesIn body following
                  let (more, last) ← fieldsFrom raw fuel level next following
                  return (⟨line, text⟩ :: inner ++ more, last)
              | _ => none
      | _ => some ([], rest)

def fields? (q : Quotation) (line : Nat) : Option (List Located) := do
  let (fields, rest) ← fieldsFrom q.raw (q.body.length + 1) 0 line q.body
  if rest.isEmpty then some fields else none

def Located.tokens? (t : Located) : Option (List Token) :=
  Lexer.tokens? t.line ('(' :: (t.text ++ [')']))

end SchemaJoins.Source.Interpolation
