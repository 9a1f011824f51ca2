import SchemaJoins.Data.Access

/-! # Cardinalities and hierarchy patterns -/

namespace SchemaJoins

inductive DirectKind where
  | belongsTo
  | hasOne
  | hasMany
  deriving DecidableEq, Repr, Inhabited

inductive Cardinality where
  | direct (d : DirectKind)
  | manyToMany
  | selfReference
  deriving DecidableEq, Repr, Inhabited

namespace Cardinality

def name : Cardinality → String
  | direct .belongsTo => "belongs_to"
  | direct .hasOne => "has_one"
  | direct .hasMany => "has_many"
  | manyToMany => "many_to_many"
  | selfReference => "self_reference"

def all : List Cardinality :=
  [direct .belongsTo, direct .hasOne, direct .hasMany, manyToMany, selfReference]

def ofName? (s : String) : Option Cardinality := all.find? (·.name == s)

def ofValue (v : Value) : Except Fault Cardinality := v.member "Cardinality" ofName?

end Cardinality

inductive HierarchyPattern where
  | adjacencyList
  | nestedSet
  | materializedPath
  | generic
  deriving DecidableEq, Repr, Inhabited

inductive Traversal where
  | recursiveExpansion
  | rangeQuery
  | prefixMatch
  | standardJoin
  deriving DecidableEq, Repr

def Traversal.name : Traversal → String
  | recursiveExpansion => "recursive_cte"
  | rangeQuery => "range_query"
  | prefixMatch => "prefix_match"
  | standardJoin => "standard_join"

namespace HierarchyPattern

def name : HierarchyPattern → String
  | adjacencyList => "adjacency_list"
  | nestedSet => "nested_set"
  | materializedPath => "materialized_path"
  | generic => "generic"

def all : List HierarchyPattern := [adjacencyList, nestedSet, materializedPath, generic]

def ofName? (s : String) : Option HierarchyPattern := all.find? (·.name == s)

def ofValue (v : Value) : Except Fault HierarchyPattern := v.member "HierarchyPattern" ofName?

def traversal : HierarchyPattern → Traversal
  | adjacencyList => .recursiveExpansion
  | nestedSet => .rangeQuery
  | materializedPath => .prefixMatch
  | generic => .standardJoin

end HierarchyPattern

end SchemaJoins
