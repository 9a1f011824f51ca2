import SchemaJoins.Data.Access
import SchemaJoins.Source.Parse

/-! # Literals

The value that a syntax tree denotes if it is a literal: a constant, a signed
number, or a list, tuple or map of literals. Nothing is executed, and a part that
is no literal stops the evaluation.
-/

namespace SchemaJoins.Source

def imaginaryText (x : Binary64) : String :=
  let s := x.text
  let whole :=
    if [ '.', '0' ].isSuffixOf s.toList then String.ofList (s.toList.take (s.length - 2)) else s
  whole ++ "j"

def Constant.value? : Constant → Option Value
  | null => some .null
  | bool b => some (.bool b)
  | int n => some (.int n)
  | real x => some (.real x)
  | text s => some (.text s)
  | imaginary _ | bytes _ | ellipsis => none

def Constant.shown : Constant → String
  | imaginary x => imaginaryText x
  | bytes data => (Value.bytes data).literal
  | ellipsis => "Ellipsis"
  | c => (c.value?.getD .null).literal

def signed (negative : Bool) : Value → Option Value
  | .int n => some (.int (if negative then -n else n))
  | .real x => some (.real (if negative then x.neg else x))
  | _ => none

namespace Node

mutual

def evaluate : Node → Except Fault Value
  | constant line c =>
      match c.value? with
      | some v => .ok v
      | none => .error (.literal (.constant c.shown) line)
  | sign line negative operand => do
      match signed negative (← evaluate operand) with
      | some v => .ok v
      | none => .error (.literal .sign line)
  | list _ items => do return .list (← evaluateAll items)
  | tuple _ items => do return .tuple (← evaluateAll items)
  | map _ entries => do return .map (← evaluateEntries [] entries)
  | argument _ value => .error (.literal (.construct "keyword") value.line)
  | other line form _ => .error (.literal (.construct form.description) line)

def evaluateAll : List Node → Except Fault (List Value)
  | [] => .ok []
  | n :: ns => do
      let v ← evaluate n
      return v :: (← evaluateAll ns)

def evaluateEntries (before : List (Value × Value)) :
    List (Option Node × Node) → Except Fault (List (Value × Value))
  | [] => .ok before
  | (none, value) :: _ => .error (.literal .unpacking value.line)
  | (some key, value) :: rest => do
      let k ← evaluate key
      if !k.isHashable then throw (.literal (.key k) key.line)
      let v ← evaluate value
      evaluateEntries (Value.put before k v) rest

end

end Node

/-- Source text with a null character cannot be read at all. -/
def checkCharacters (source : String) : Except Fault Unit :=
  if source.toList.contains '\x00' then .error .nullCharacter else .ok ()

def literalOf (source : String) : Except Fault Value := do
  checkCharacters source
  match parseExpression source with
  | some tree => tree.evaluate.mapError Fault.told
  | none => .error .illFormedSource

end SchemaJoins.Source
