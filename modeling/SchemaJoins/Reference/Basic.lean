import SchemaJoins.Data.Fault

/-! # Field references

A reference names a join, values for the parameters of the join, and a field:
`products:electronics:true.name`.
-/

namespace SchemaJoins

inductive ReferenceKind where
  | dotNotation
  | parameterized
  deriving DecidableEq, Repr

def ReferenceKind.name : ReferenceKind → String
  | dotNotation => "dot_notation"
  | parameterized => "parameterized"

structure Reference where
  join : String
  field : String
  parameters : List Value
  deriving Repr, Inhabited

def Reference.kind (r : Reference) : ReferenceKind :=
  if r.parameters.isEmpty then .dotNotation else .parameterized

namespace Reference

inductive Failure where
  | format (reference : String)
  | join (name : String)
  | field (name : String)
  | emptyParameter (raw : String)
  | embeddedQuote (token : String)
  deriving DecidableEq, Repr

namespace Failure

def code : Failure → String
  | format _ => "invalid_format"
  | join _ => "invalid_join"
  | field _ => "invalid_field"
  | emptyParameter _ => "empty_parameter"
  | embeddedQuote _ => "embedded_quote"

def token : Failure → String
  | format t | join t | field t | emptyParameter t | embeddedQuote t => t

def message : Failure → String
  | format _ => "Expected format join.field or join:param1:param2.field"
  | join name => "Invalid join identifier '" ++ name ++ "'"
  | field name => "Invalid field identifier '" ++ name ++ "'"
  | emptyParameter _ => "Empty parameter value"
  | embeddedQuote token =>
      "Quoted parameter " ++ token ++ " contains its own quote character"

end Failure

end Reference

end SchemaJoins
