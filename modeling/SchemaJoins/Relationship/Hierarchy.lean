import SchemaJoins.Relationship.Basic
import SchemaJoins.Schema.Entity

/-! # Hierarchies

An entity that refers to itself holds a hierarchy. How it is stored is read off
the columns of the reference and the fields of the entity; the first pattern
that fits is taken.
-/

namespace SchemaJoins

structure Hierarchy where
  entity : String
  association : Value
  pattern : HierarchyPattern
  roles : List (String × Value)
  deriving Repr, Inhabited, BEq

namespace Hierarchy

open Schema

def parentColumns : List String := ["parent_id", "parent"]

def boundPairs : List (String × String) :=
  [("lft", "rgt"), ("left_bound", "right_bound"), ("nested_left", "nested_right")]

def pathFields : List String := ["path", "materialized_path"]

def bounds? (e : Entity) : Option (String × String) :=
  boundPairs.find? fun (l, r) => e.hasField l && e.hasField r

def pathField? (e : Entity) : Option String := e.firstField? pathFields

def isParentKey : List String → Bool
  | [column] => parentColumns.contains column
  | _ => false

def detect (e : Entity) (foreignKey : List String) : HierarchyPattern :=
  if isParentKey foreignKey then .adjacencyList
  else if (bounds? e).isSome then .nestedSet
  else if (pathField? e).isSome then .materializedPath
  else .generic

def rolesOf (e : Entity) (foreignKey : List Value) :
    HierarchyPattern → Except Fault (List (String × Value))
  | .adjacencyList =>
      match foreignKey with
      | column :: _ => .ok [("parent_field", column)]
      | [] => .error (.outOfRange "tuple")
  | .nestedSet =>
      match bounds? e with
      | some (l, r) => .ok [("left_field", .text l), ("right_field", .text r)]
      | none => .error (.notUnpackable "NoneType")
  | .materializedPath => .ok [("path_field", ((pathField? e).map Value.text).getD .null)]
  | .generic => do return [("foreign_key", .text (← Value.joinTexts "," foreignKey))]

def describe? (e : Entity) (r : Relationship) : Except Fault (Option Hierarchy) :=
  match r.shape with
  | .selfReference _ pattern _ _ => do
      let roles ← rolesOf e r.foreignKey pattern
      return some { entity := e.name, association := r.name, pattern, roles }
  | _ => .ok none

def ofRelationships (e : Entity) : List Relationship → Except Fault (List Hierarchy)
  | [] => .ok []
  | r :: rest => do
      let h ← describe? e r
      return h.toList ++ (← ofRelationships e rest)

def toValue (h : Hierarchy) : Value :=
  .record [("entity", .text h.entity), ("association", h.association),
    ("pattern", .text h.pattern.name), ("traversal", .text h.pattern.traversal.name),
    ("fields", .record h.roles)]

end Hierarchy

end SchemaJoins
