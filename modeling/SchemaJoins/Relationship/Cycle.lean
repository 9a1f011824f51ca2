import SchemaJoins.Cycle.Basic
import SchemaJoins.Data.Order
import SchemaJoins.Relationship.Basic

/-! # Cycles among entities

Entities are joined by an edge for every direct relationship, and, on demand, by
the two edges through a junction. Self references are hierarchies and give no
edge.
-/

namespace SchemaJoins

namespace Relationship

def edges (throughJunctions : Bool) (r : Relationship) : List (Value × Value) :=
  match r.shape with
  | .direct .. => [(r.source, r.target)]
  | .manyToMany junction .. =>
      if throughJunctions then [(r.source, junction), (junction, r.target)] else []
  | .selfReference .. => []

def allEdges (throughJunctions : Bool) (rs : List Relationship) : List (Value × Value) :=
  rs.flatMap (edges throughJunctions)

def textEdges? : List (Value × Value) → Option (List (String × String))
  | [] => some []
  | (.text s, .text t) :: rest => do return (s, t) :: (← textEdges? rest)
  | _ => none

def textLe (s t : String) : Bool := decide (s ≤ t)

def adjacency (throughJunctions : Bool) (rs : List Relationship) :
    Except Fault (Cycle.Adjacency Value) := do
  let edges := allEdges throughJunctions rs
  edges.forM fun e => e.1.requireHashable
  return Cycle.Adjacency.ofEdges edges

/-- The cycles between entities whose names need not be texts. -/
def looseCycles (depth : Nat) (g : Cycle.Adjacency Value) : Except Fault (List (List Value)) := do
  Value.requireOrdered g.nodes
  if 2 ≤ depth then g.forM fun row => row.2.forM Value.requireHashable
  return Cycle.find Value.le depth g

def cycles (depth : Nat) (throughJunctions : Bool) (rs : List Relationship) :
    Except Fault (List (List Value)) :=
  match textEdges? (allEdges throughJunctions rs) with
  | some edges =>
      .ok ((Cycle.find textLe depth (Cycle.Adjacency.ofEdges edges)).map (·.map .text))
  | none => do looseCycles depth (← adjacency throughJunctions rs)

def checkDepth (depth : Int) : Except Fault Nat :=
  if depth < 0 then .error (.negativeDepth depth) else .ok depth.toNat

end Relationship

end SchemaJoins
