import SchemaJoins.Reference.Basic
import SchemaJoins.Reference.Split
import SchemaJoins.Text.DecimalDigit
import SchemaJoins.Text.Identifier

/-! # Reading references

The field stands after the last dot outside quotes; colons outside quotes divide
the join from its parameters. `Reference.parse` says which text is a reference
and, if one is not, which rule it breaks first.
-/

namespace SchemaJoins.Reference

def wholeNumber? (cs : List Char) : Option (Bool × List Char) :=
  let (negative, digits) :=
    match cs with
    | '-' :: rest => (true, rest)
    | _ => (false, cs)
  if digits.isEmpty || !digits.all Text.isDigit then none else some (negative, digits)

def decimalNumber? (cs : List Char) : Option (Bool × List Char × List Char) :=
  let (negative, rest) :=
    match cs with
    | '-' :: rest => (true, rest)
    | _ => (false, cs)
  let whole := rest.takeWhile Text.isDigit
  match rest.dropWhile Text.isDigit with
  | '.' :: fraction =>
      if whole.isEmpty || fraction.isEmpty || !fraction.all Text.isDigit then none
      else some (negative, whole, fraction)
  | _ => none

def readInteger (negative : Bool) (digits : List Char) : Except Fault Value :=
  if digits.length > Text.digitLimit then .error (.integerTooLong digits.length)
  else
    let n : Int := Text.digitsValue digits
    .ok (.int (if negative then -n else n))

def readDecimal (negative : Bool) (whole fraction : List Char) : Value :=
  .real (.ofDecimal negative (Text.digitsValue (whole ++ fraction)) (-(fraction.length : Int)))

def readWord (token : List Char) : Except Fault Value :=
  if token = "true".toList then .ok (.bool true)
  else if token = "false".toList then .ok (.bool false)
  else if token = "nil".toList ∨ token = "null".toList then .ok .null
  else
    match wholeNumber? token with
    | some (negative, digits) => readInteger negative digits
    | none =>
        match decimalNumber? token with
        | some (negative, whole, fraction) => .ok (readDecimal negative whole fraction)
        | none => .ok (.text (String.ofList token))

def quotedContent? (token : List Char) : Option (Char × List Char) :=
  match token with
  | q :: rest =>
      if isQuote q && rest.getLast? == some q then some (q, rest.dropLast) else none
  | [] => none

/-- One parameter: a quoted text without its own quote in it, or a word. -/
def parseParameter (raw : List Char) : Except Fault (Except Failure Value) :=
  let token := Text.trim raw
  if token.isEmpty then .ok (.error (.emptyParameter (String.ofList raw)))
  else
    match quotedContent? token with
    | some (q, content) =>
        if content.contains q then .ok (.error (.embeddedQuote (String.ofList token)))
        else .ok (.ok (.text (String.ofList content)))
    | none => (readWord token).map .ok

def parseParameters : List (List Char) → Except Fault (Except Failure (List Value))
  | [] => .ok (.ok [])
  | raw :: rest => do
      match ← parseParameter raw with
      | .error f => return .error f
      | .ok v => return (← parseParameters rest).map (v :: ·)

def parseJoin (cs : List Char) : Except Fault (Except Failure (String × List Value)) :=
  match split ':' cs with
  | [] => .ok (.error (.join ""))
  | name :: raws =>
      if Text.isIdentifier name then do
        return (← parseParameters raws).map fun vs => (String.ofList name, vs)
      else .ok (.error (.join (String.ofList name)))

def parseChars (cs : List Char) : Except Fault (Except Failure Reference) :=
  match splitLast? '.' cs with
  | none => .ok (.error (.format (String.ofList cs)))
  | some (left, right) =>
      if left.isEmpty || right.isEmpty then .ok (.error (.format (String.ofList cs)))
      else if Text.isIdentifier right then do
        return (← parseJoin left).map fun (join, parameters) =>
          { join, field := String.ofList right, parameters }
      else .ok (.error (.field (String.ofList right)))

/-- Reads a reference. The outer result is a fault only for an integer of too
many digits. -/
def parse (s : String) : Except Fault (Except Failure Reference) := parseChars s.toList

def parseAll (ss : List String) : Except Fault (List (Except Failure Reference)) := ss.mapM parse

end SchemaJoins.Reference
