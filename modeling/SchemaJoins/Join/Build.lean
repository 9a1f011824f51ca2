import SchemaJoins.Join.Config
import SchemaJoins.Relationship.Basic
import SchemaJoins.Data.Logged
import SchemaJoins.Schema.Graph

/-! # The default join of a relationship

The kind follows from the cardinality unless one is asked for. The conditions
pair the columns of both keys in order; a junction is joined on both sides.
-/

namespace SchemaJoins.JoinConfig

/-- A reference to a parent is usually required, and so are junction rows. -/
def defaultKind : Cardinality → JoinKind
  | .direct .belongsTo => .inner
  | .direct .hasOne => .left
  | .direct .hasMany => .left
  | .manyToMany => .inner
  | .selfReference => .left

def requestedKind (r : Relationship) (override : Value) : Logged JoinKind := do
  let default := defaultKind r.effectiveCardinality
  if !override.isTrue then return default
  match Value.member "JoinKind" JoinKind.ofName? (← override.lowered Text.lower) with
  | .ok kind => return kind
  | .error _ => do
      Logged.warn ("Ignoring unknown join kind '" ++ override.display ++ "' on " ++
        r.source.display ++ "." ++ r.name.display)
      return default

def keyText (key : List String) : String := ",".intercalate key

def pairs (ownerKey relatedKey : List String) : List (Value × Value) :=
  (ownerKey.zip relatedKey).map fun (o, r) => (.text o, .text r)

def steps (path : List String) : Option (List Value) :=
  if path.isEmpty then none else some (path.map .text)

def shaped (g : Schema.Graph) (r : Relationship) (base : JoinConfig) :
    Except Fault JoinConfig :=
  match r.shape with
  | .direct _ ownerKey relatedKey => .ok { base with conditions := pairs ownerKey relatedKey }
  | .selfReference _ pattern ownerKey relatedKey =>
      .ok { base with
        conditions := pairs ownerKey relatedKey
        metadata := base.metadata ++ [("self_reference", .bool true),
          ("hierarchy_pattern", .text pattern.name)] }
  | .manyToMany junction ownerSide relatedSide ownerColumn relatedColumn => do
      let entity ← g.findValue? junction
      return { base with
        conditions := [(.text ownerColumn, ownerSide), (relatedSide, .text relatedColumn)]
        through := some (base.through.getD [junction])
        strategy := .optimized
        requiredFields := (entity.map (·.fieldNames)).getD []
        metadata := base.metadata ++ [("junction_table", junction),
          ("join_keys", .list [ownerSide, relatedSide])] }

def build (g : Schema.Graph) (r : Relationship) (override : Value) : Logged JoinConfig := do
  let kind ← requestedKind r override
  let foreignKey ← Value.joinTexts "," r.foreignKey
  let base : JoinConfig :=
    { name := r.name, kind, target := r.target, conditions := [],
      through := steps r.throughPath,
      metadata := [("cardinality", .text r.effectiveCardinality.name),
        ("foreign_key", .text foreignKey), ("owner_key", .text (keyText r.ownerKey))] }
  shaped g r base

end SchemaJoins.JoinConfig
