import SchemaJoins.Number.Reading
import SchemaJoins.Text.Base64
import SchemaJoins.Text.Lowercase
import SchemaJoins.Text.Split
import SchemaJoins.Yaml.Character
import SchemaJoins.Yaml.Kind

/-! # Values of scalars

What the text of a scalar means as a value of a kind. Underscores in numbers do
not count, and colons divide digits in base sixty.
-/

namespace SchemaJoins.Yaml.Scalar

def dropUnderscores (text : String) : List Char := text.toList.filter (· != '_')

def requireSome (cs : List Char) : Except Fault Unit :=
  if cs.isEmpty then .error (.outOfRange "str") else .ok ()

def sixtiesValue (ds : List Int) : Int := ds.foldl (fun n d => n * 60 + d) 0

/-- An unsigned integer. A leading zero means base eight. -/
def magnitude (cs : List Char) : Except Fault Int :=
  match cs with
  | ['0'] => .ok 0
  | '0' :: 'b' :: rest => NumberText.integer 2 rest
  | '0' :: 'x' :: rest => NumberText.integer 16 rest
  | '0' :: _ => NumberText.integer 8 cs
  | _ =>
      if cs.contains ':' then do
        return sixtiesValue (← (Text.splitOn ':' cs).mapM (NumberText.integer 10))
      else NumberText.integer 10 cs

def integer (text : String) : Except Fault Int := do
  let cs := dropUnderscores text
  requireSome cs
  let (negative, rest) := NumberText.sign cs
  requireSome rest
  let n ← magnitude rest
  return if negative then -n else n

/-- The sum of digits in base sixty, the last one first, each rounded in turn. -/
def sixtiesReal (base : Nat) (sum : Binary64) : List Binary64 → Binary64
  | [] => sum
  | d :: ds => sixtiesReal (base * 60) (sum.add (d.scale base)) ds

def real (text : String) : Except Fault Binary64 := do
  let cs := (Text.lower (String.ofList (dropUnderscores text))).toList
  requireSome cs
  let (negative, rest) := NumberText.sign cs
  match String.ofList rest with
  | ".inf" => return .infinite negative
  | ".nan" => return .nan
  | _ =>
      let x ←
        if rest.contains ':' then do
          let ds ← (Text.splitOn ':' rest).mapM NumberText.real
          pure (sixtiesReal 1 (.zero false) ds.reverse)
        else NumberText.real rest
      return if negative then x.neg else x

def truth (text : String) : Except Fault Bool :=
  match Text.lower text with
  | "yes" | "true" | "on" => .ok true
  | "no" | "false" | "off" => .ok false
  | other => .error (.missingKey (.text other))

def timestamp (text : String) : Except Fault Value :=
  let cs := text.toList
  let cs := if cs.getLast? == some '\n' then cs.dropLast else cs
  match Timestamp.parse? cs with
  | some t => t.value
  | none => .error (.noAttribute "NoneType" "groupdict")

def bytes (text : String) : Except Flaw (List UInt8) :=
  if text.toList.all (·.toNat < 128) then
    match Base64.decode? text.toList with
    | some bs => .ok bs
    | none => .error .illFormed
  else .error .illFormed

def value (kind : Kind) (text : String) : Except Flaw Value :=
  match kind with
  | .null => .ok .null
  | .truth => ((truth text).map .bool).mapError .fault
  | .integer => ((integer text).map .int).mapError .fault
  | .real => ((real text).map .real).mapError .fault
  | .bytes => (bytes text).map .bytes
  | .timestamp => (timestamp text).mapError .fault
  | .text => .ok (.text text)
  | _ => .error .illFormed

end SchemaJoins.Yaml.Scalar
