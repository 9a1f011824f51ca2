import SchemaJoins.Data.Fault

/-! # Taking values apart

Reading a key, a position or the items of a value whose kind is not known. Each
reader names the fault that a value of the wrong kind gives.
-/

namespace SchemaJoins.Value

def asMap (v : Value) : Except Fault (List (Value × Value)) :=
  match v with
  | map es => .ok es
  | _ => .error (.noAttribute v.kind "get")

def get? (v : Value) (key : String) : Except Fault (Option Value) := do
  return find? (← v.asMap) (.text key)

def getOrNull (v : Value) (key : String) : Except Fault Value := do
  return (← v.get? key).getD null

def item (v : Value) (key : String) : Except Fault Value :=
  match v with
  | map es =>
      match find? es (.text key) with
      | some w => .ok w
      | none => .error (.missingKey (.text key))
  | text _ => .error (.textIndex "str")
  | list _ => .error (.textIndex "list")
  | tuple _ => .error (.textIndex "tuple")
  | bytes _ => .error (.textIndex "bytes")
  | _ => .error (.notSubscriptable v.kind)

def itemAt (v : Value) (position : Nat) : Except Fault Value :=
  let pick (kind : String) (x : Option Value) : Except Fault Value :=
    match x with
    | some w => .ok w
    | none => .error (.outOfRange kind)
  match v with
  | list xs => pick "list" xs[position]?
  | tuple xs => pick "tuple" xs[position]?
  | text s => pick "str" (s.toList[position]?.map fun c => .text (String.singleton c))
  | bytes bs => pick "bytes" (bs[position]?.map fun b => .int b.toNat)
  | map es =>
      match find? es (.int position) with
      | some w => .ok w
      | none => .error (.missingKey (.int position))
  | _ => .error (.notSubscriptable v.kind)

/-- What going through a value yields; a map yields its keys. -/
def items? : Value → Option (List Value)
  | list xs => some xs
  | tuple xs => some xs
  | set xs => some xs
  | map es => some (es.map (·.1))
  | text s => some (s.toList.map fun c => .text (String.singleton c))
  | bytes bs => some (bs.map fun b => .int b.toNat)
  | _ => none

def items (v : Value) : Except Fault (List Value) :=
  match v.items? with
  | some xs => .ok xs
  | none => .error (.notIterable v.kind)

def unpackPair (v : Value) : Except Fault (Value × Value) :=
  match v.items? with
  | none => .error (.notUnpackable v.kind)
  | some [a, b] => .ok (a, b)
  | some (_ :: _ :: _ :: _) => .error (.tooManyItems 2)
  | some xs => .error (.tooFewItems 2 xs.length)

def requireHashable (v : Value) : Except Fault Unit :=
  match v.unhashableKind? with
  | some kind => .error (.unhashable kind)
  | none => .ok ()

def requireWritable (v : Value) : Except Fault Unit :=
  if v.isWritable then .ok () else .error .integerUnwritable

def member (enumeration : String) (ofName? : String → Option α) (v : Value) : Except Fault α :=
  match v with
  | text s =>
      match ofName? s with
      | some a => .ok a
      | none => .error (.notMember v enumeration)
  | _ => .error (.notMember v enumeration)

/-- Joins the texts of a list; any other item is a fault. -/
def joinTexts (separator : String) (items : List Value) : Except Fault String := do
  let parts ← items.zipIdx.mapM fun (v, i) =>
    match v with
    | text s => Except.ok s
    | w => Except.error (Fault.notText i w.kind)
  return separator.intercalate parts

def lowerByte (b : UInt8) : UInt8 := if 65 ≤ b && b ≤ 90 then b + 32 else b

/-- The value in lower case. Only texts and bytes have case, and of bytes only those
that stand for the letters from A to Z. -/
def lowered (v : Value) (lower : String → String) : Except Fault Value :=
  match v with
  | text s => .ok (text (lower s))
  | bytes bs => .ok (bytes (bs.map lowerByte))
  | w => .error (.noAttribute w.kind "lower")

end SchemaJoins.Value
