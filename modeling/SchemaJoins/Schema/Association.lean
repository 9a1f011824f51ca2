import SchemaJoins.Schema.Key

/-! # Associations

An association as an export reports it, before it is classified. The junction
and the requested join kind are kept as they came.
-/

namespace SchemaJoins.Schema

structure Association where
  name : String
  kind : String
  relatedEntity : String
  ownerKey : List String := []
  relatedKey : List String := []
  junctionEntity : Value := .null
  /-- The columns of the junction on the owner's and on the related side. -/
  junctionKeys : Option (String × String) := none
  throughPath : List String := []
  joinKind : Value := .null
  deriving Repr, Inhabited, BEq

namespace Association

def junctionKeysOf (v : Value) : Except Fault (Option (String × String)) :=
  if v.isTrue then do
    return some ((← v.itemAt 0).display, (← v.itemAt 1).display)
  else .ok none

def ofValue (v : Value) : Except Fault Association := do
  let junctionKeys ← v.getOrNull "junction_keys"
  let name := (← v.item "name").display
  let kind := (← v.item "kind").display
  let relatedEntity := (← v.item "related_entity").display
  let ownerKey ← keyOf (← v.getOrNull "owner_key")
  let relatedKey ← keyOf (← v.getOrNull "related_key")
  let junctionEntity ← v.getOrNull "junction_entity"
  let junctionKeys ← junctionKeysOf junctionKeys
  let throughPath ← keyOf ((← v.get? "through_path").getD (← v.getOrNull "through"))
  let joinKind ← v.getOrNull "join_kind"
  return { name, kind, relatedEntity, ownerKey, relatedKey, junctionEntity, junctionKeys,
           throughPath, joinKind }

def toValue (a : Association) : Value :=
  .record [("name", .text a.name), ("kind", .text a.kind),
    ("related_entity", .text a.relatedEntity), ("owner_key", keyValue a.ownerKey),
    ("related_key", keyValue a.relatedKey), ("junction_entity", a.junctionEntity),
    ("junction_keys", (a.junctionKeys.map fun k => Value.texts [k.1, k.2]).getD .null),
    ("through_path", keyValue a.throughPath), ("join_kind", a.joinKind)]

end Association

end SchemaJoins.Schema
