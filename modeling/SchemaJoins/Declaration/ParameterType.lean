import SchemaJoins.Data.Value
import SchemaJoins.Number.Decimal
import SchemaJoins.Time.IsoText

/-! # Parameter types

The types that a join parameter or a field can be declared with, and which
values are acceptable for each.
-/

namespace SchemaJoins

inductive ParameterType where
  | string
  | integer
  | float
  | decimal
  | boolean
  | date
  | datetime
  | utcDatetime
  | naiveDatetime
  deriving DecidableEq, Repr

namespace ParameterType

def all : List ParameterType :=
  [string, integer, float, decimal, boolean, date, datetime, utcDatetime, naiveDatetime]

def name : ParameterType → String
  | string => "string"
  | integer => "integer"
  | float => "float"
  | decimal => "decimal"
  | boolean => "boolean"
  | date => "date"
  | datetime => "datetime"
  | utcDatetime => "utc_datetime"
  | naiveDatetime => "naive_datetime"

def ofName? (s : String) : Option ParameterType := all.find? fun t => t.name == s

def names : List String := all.map name

def fieldNames : List String := names ++ ["json", "jsonb", "array"]

def isNumber : Value → Bool
  | .int _ => true
  | .real _ => true
  | _ => false

def accepts : ParameterType → Value → Bool
  | string, .text _ => true
  | integer, .int _ => true
  | float, v => isNumber v
  | decimal, .text s => DecimalText.isValid s.toList
  | decimal, v => isNumber v
  | boolean, .bool _ => true
  | date, .text s => IsoText.isDate s.toUTF8.toList
  | datetime, .text s => IsoText.isDateTime s.toUTF8.toList
  | utcDatetime, .text s => IsoText.isDateTime s.toUTF8.toList
  | naiveDatetime, .text s => IsoText.isDateTime s.toUTF8.toList
  | _, _ => false

end ParameterType

/-- Acceptable for the type of a name; no value is for a name that is no type. -/
def acceptsValue (typeName : String) (v : Value) : Bool :=
  match ParameterType.ofName? typeName with
  | some t => t.accepts v
  | none => false

end SchemaJoins
