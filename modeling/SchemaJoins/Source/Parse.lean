import SchemaJoins.Source.Statement
import SchemaJoins.Text.LineEnd

/-! # Parsing source text

`parseModule` reads a whole file and `parseExpression` a single expression. Every
part within a part starts at least one token later, so that the length of the text
bounds how deep parts lie within each other.
-/

namespace SchemaJoins.Source

namespace Rule

def ofPart (g : Grammar) : Part → Parse Node
  | .expression => expression g
  | .disjunction => disjunction g
  | .inversion => inversion g
  | .bitwise => bitwise g
  | .factor => factor g
  | .block => block g
  | .pattern => pattern g

def grammar : Nat → Grammar
  | 0, _, _ => none
  | depth + 1, part, ts => ofPart (grammar depth) part ts

/-- A depth that no text of this length exceeds. -/
def depthBound (cs : List Char) : Nat := 2 * cs.length + 8

def atStop : List Token → Bool
  | [⟨.stop, _⟩] => true
  | _ => false

end Rule

open Rule

def moduleOf (cs : List Char) (tokens : List Token) : Option Node :=
  if atStop tokens then some (.other 1 .statement [])
  else do
    let (xs, rest) ← statements (grammar (depthBound cs)) tokens
    if atStop rest then some (.other 1 .statement xs) else none

/-- Ends the last line of a text. A line end of two characters is not taken for
one here, so that a blank line follows it. -/
def closeLine (cs : List Char) : List Char :=
  match cs.reverse with
  | '\n' :: '\r' :: _ => cs ++ ['\n']
  | '\n' :: _ => cs
  | '\r' :: _ => cs
  | _ => cs ++ ['\n']

def parseModule (source : String) : Option Node := do
  let cs := Text.unifyLineEnds (closeLine source.toList)
  moduleOf cs (← Lexer.tokens? 1 cs)

def parseExpression (source : String) : Option Node := do
  let cs := Text.unifyLineEnds source.toList
  let tokens ← Lexer.tokens? 1 cs
  let (x, rest) ← tupleOf ((grammar (depthBound cs)) .expression) tokens
  let (_, rest) ← many (fun ts => do return ((), ← mark .newline ts)) rest rest
  if atStop rest then some x else none

end SchemaJoins.Source
