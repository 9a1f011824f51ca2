import SchemaJoins.Relationship.Cardinality
import SchemaJoins.Schema.Key

/-! # Relationships

A classified, directed relationship between two entities. What it carries
besides its names depends on its shape: only a relationship through a junction
has junction columns, and each of them pairs with exactly one key column.
-/

namespace SchemaJoins

inductive Shape where
  | direct (kind : DirectKind) (ownerKey relatedKey : List String)
  | manyToMany (junction ownerSide relatedSide : Value) (ownerColumn relatedColumn : String)
  | selfReference (declared : DirectKind) (pattern : HierarchyPattern)
      (ownerKey relatedKey : List String)
  deriving Repr, Inhabited, BEq

structure Relationship where
  name : Value
  source : Value
  target : Value
  throughPath : List String
  shape : Shape
  deriving Repr, Inhabited, BEq

namespace Relationship

def cardinality (r : Relationship) : Cardinality :=
  match r.shape with
  | .direct kind .. => .direct kind
  | .manyToMany .. => .manyToMany
  | .selfReference .. => .selfReference

def effectiveCardinality (r : Relationship) : Cardinality :=
  match r.shape with
  | .direct kind .. => .direct kind
  | .manyToMany .. => .manyToMany
  | .selfReference declared .. => .direct declared

def ownerKey (r : Relationship) : List String :=
  match r.shape with
  | .direct _ ownerKey _ => ownerKey
  | .manyToMany _ _ _ ownerColumn _ => [ownerColumn]
  | .selfReference _ _ ownerKey _ => ownerKey

def relatedKey (r : Relationship) : List String :=
  match r.shape with
  | .direct _ _ relatedKey => relatedKey
  | .manyToMany _ _ _ _ relatedColumn => [relatedColumn]
  | .selfReference _ _ _ relatedKey => relatedKey

def referenceKey (kind : DirectKind) (ownerKey relatedKey : List String) : List String :=
  match kind with
  | .belongsTo => ownerKey
  | .hasOne | .hasMany => relatedKey

def foreignKey (r : Relationship) : List Value :=
  match r.shape with
  | .direct kind ownerKey relatedKey => (referenceKey kind ownerKey relatedKey).map .text
  | .manyToMany _ ownerSide .. => [ownerSide]
  | .selfReference declared _ ownerKey relatedKey =>
      (referenceKey declared ownerKey relatedKey).map .text

def isSelfReference (r : Relationship) : Bool := r.cardinality == .selfReference

def junction? (r : Relationship) : Option Value :=
  match r.shape with
  | .manyToMany junction .. => some junction
  | _ => none

/-- The shape of a relationship through a junction: junction and junction
columns must be named, and each side has one key column. -/
def throughJunction (name junction ownerSide relatedSide : Value)
    (ownerKey relatedKey : List String) : Except RelationshipFault Shape :=
  if !junction.isTrue then .error (.noJunction name.display)
  else if !ownerSide.isTrue || !relatedSide.isTrue then .error (.noJunctionKeys name.display)
  else
    match ownerKey, relatedKey with
    | [ownerColumn], [relatedColumn] =>
        .ok (.manyToMany junction ownerSide relatedSide ownerColumn relatedColumn)
    | _, _ => .error (.compositeKeys name.display ownerKey relatedKey)

def ontoItself (name source target : Value) (declared : Cardinality) (pattern : HierarchyPattern)
    (ownerKey relatedKey : List String) : Except RelationshipFault Shape :=
  if !source.sameKey target then
    .error (.foreignTarget name.display source.display target.display)
  else
    match declared with
    | .direct kind => .ok (.selfReference kind pattern ownerKey relatedKey)
    | c => .error (.declaredAs name.display c.name)

def shapeOf (v name source target : Value) (ownerKey relatedKey : List String) :
    Cardinality → Except Fault Shape
  | .direct kind => .ok (.direct kind ownerKey relatedKey)
  | .manyToMany => do
      let (ownerSide, relatedSide) ← (← v.item "junction_keys").unpackPair
      let junction ← v.item "junction"
      (throughJunction name junction ownerSide relatedSide ownerKey relatedKey).mapError
        .relationship
  | .selfReference => do
      let declared ← Cardinality.ofValue (← v.item "declared")
      let pattern ← HierarchyPattern.ofValue (← v.item "pattern")
      (ontoItself name source target declared pattern ownerKey relatedKey).mapError .relationship

def ofValue (v : Value) : Except Fault Relationship := do
  let cardinality ← Cardinality.ofValue (← v.item "cardinality")
  let name ← v.item "name"
  let source ← v.item "source"
  let target ← v.item "target"
  let ownerKey ← Schema.keyOf (← v.getOrNull "owner_key")
  let relatedKey ← Schema.keyOf (← v.getOrNull "related_key")
  let throughPath ← Schema.keyOf (← v.getOrNull "through_path")
  let shape ← shapeOf v name source target ownerKey relatedKey cardinality
  return { name, source, target, throughPath, shape }

def shapeFields : Shape → List (String × Value)
  | .direct .. => []
  | .manyToMany junction ownerSide relatedSide _ _ =>
      [("junction", junction), ("junction_keys", .list [ownerSide, relatedSide])]
  | .selfReference declared pattern _ _ =>
      [("declared", .text (Cardinality.direct declared).name), ("pattern", .text pattern.name)]

def toValue (r : Relationship) : Value :=
  .record ([("cardinality", .text r.cardinality.name), ("name", r.name), ("source", r.source),
    ("target", r.target), ("owner_key", Schema.keyValue r.ownerKey),
    ("related_key", Schema.keyValue r.relatedKey),
    ("through_path", Schema.keyValue r.throughPath)] ++ shapeFields r.shape)

end Relationship

end SchemaJoins
