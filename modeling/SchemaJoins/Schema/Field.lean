import SchemaJoins.Data.Access

/-! # Fields of an entity -/

namespace SchemaJoins.Schema

structure Field where
  name : String
  dataType : String := "string"
  nullable : Bool := true
  deriving DecidableEq, Repr, Inhabited

namespace Field

/-- Reads a field. The type may stand under either of two keys. -/
def ofValue (v : Value) : Except Fault Field := do
  let name := (← v.item "name").display
  let other := (← v.get? "data_type").getD (.text "string")
  let dataType := ((← v.get? "type").getD other).display
  let nullable := ((← v.get? "nullable").getD (.bool true)).isTrue
  return { name, dataType, nullable }

def toValue (f : Field) : Value :=
  .record [("name", .text f.name), ("type", .text f.dataType), ("nullable", .bool f.nullable)]

end Field

end SchemaJoins.Schema
