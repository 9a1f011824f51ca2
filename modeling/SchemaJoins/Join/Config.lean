import SchemaJoins.Join.Kind
import SchemaJoins.Relationship.Cardinality

/-! # Join configurations -/

namespace SchemaJoins

structure JoinConfig where
  name : Value
  kind : JoinKind
  target : Value
  /-- Pairs of a left and a right column. -/
  conditions : List (Value × Value)
  through : Option (List Value) := none
  strategy : LoadStrategy := .lazy
  requiredFields : List String := []
  metadata : List (String × Value) := []
  deriving Repr, Inhabited, BEq

namespace JoinConfig

def metadata? (c : JoinConfig) (key : String) : Option Value :=
  (c.metadata.find? (·.1 == key)).map (·.2)

def putMetadata (key : String) (v : Value) : List (String × Value) → List (String × Value)
  | [] => [(key, v)]
  | (k, w) :: rest => if k == key then (k, v) :: rest else (k, w) :: putMetadata key v rest

def memberOf (ofValue : Value → Except Fault α) : Option Value → Except Fault (Option α)
  | some v => if v.isTrue then do return some (← ofValue v) else .ok none
  | none => .ok none

def cardinality (c : JoinConfig) : Except Fault (Option Cardinality) :=
  memberOf Cardinality.ofValue (c.metadata? "cardinality")

/-- The kind before an adapter took its place. -/
def replacedKind (c : JoinConfig) : Except Fault (Option JoinKind) :=
  memberOf JoinKind.ofValue (c.metadata? "original_kind")

def toValue (c : JoinConfig) : Value :=
  .record [("name", c.name), ("kind", .text c.kind.name), ("target", c.target),
    ("conditions", .list (c.conditions.map fun (l, r) => .list [l, r])),
    ("through", (c.through.map Value.list).getD .null), ("strategy", .text c.strategy.name),
    ("required_fields", Value.texts c.requiredFields), ("metadata", .record c.metadata)]

end JoinConfig

end SchemaJoins
