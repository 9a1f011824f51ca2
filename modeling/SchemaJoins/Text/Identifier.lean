/-! # Identifiers

Names of joins, fields and parameters: ASCII letters, digits and underscores, not
starting with a digit.
-/

namespace SchemaJoins.Text

def isIdentifierStart (c : Char) : Bool := c.isAlpha || c == '_'

def isIdentifierRest (c : Char) : Bool := c.isAlphanum || c == '_'

def isIdentifierWord : List Char → Bool
  | [] => false
  | c :: cs => isIdentifierStart c && cs.all isIdentifierRest

def dropFinalNewline (cs : List Char) : List Char :=
  match cs.reverse with
  | '\n' :: rest => rest.reverse
  | _ => cs

/-- An identifier, which a line end may close. -/
def isIdentifier (cs : List Char) : Bool := isIdentifierWord (dropFinalNewline cs)

def identifierAt? : List Char → Option (List Char)
  | [] => none
  | c :: cs => if isIdentifierStart c then some (c :: cs.takeWhile isIdentifierRest) else none

end SchemaJoins.Text
