import SchemaJoins.Join.Config
import SchemaJoins.Relationship.Hierarchy
import SchemaJoins.Schema.Dimension

/-! # Analyses

What the analysis of one entity yields.
-/

namespace SchemaJoins

structure Analysis where
  entity : String
  /-- One join for each name. -/
  joins : List JoinConfig
  /-- The names of the relationships by cardinality. -/
  relationships : List (Cardinality × List Value)
  hierarchies : List Hierarchy
  dimensions : List Schema.Dimension
  junctions : List Value
  cycles : List (List Value)
  warnings : List String
  suggestions : List String
  deriving Repr, Inhabited, BEq

namespace Analysis

def addName (c : Cardinality) (name : Value) :
    List (Cardinality × List Value) → List (Cardinality × List Value)
  | [] => [(c, [name])]
  | (d, names) :: rest =>
      if d = c then (d, names ++ [name]) :: rest else (d, names) :: addName c name rest

def categorize (rs : List Relationship) : List (Cardinality × List Value) :=
  rs.foldl (fun table r => addName r.cardinality r.name table) []

def junctionsOf (rs : List Relationship) : List Value :=
  rs.foldl (fun found r =>
    match r.junction? with
    | some j => if found.any (Value.sameKey j) then found else found ++ [j]
    | none => found) []

end Analysis

end SchemaJoins
