import SchemaJoins.Declaration.Basic

/-! # Validation reports

What checking a joins mapping yields: the parameterized joins found, in order,
and every violation with the category that it belongs to.
-/

namespace SchemaJoins.Validation

inductive Category where
  | shape
  | parameters
  | fieldTypes
  | joinConditions
  deriving DecidableEq, Repr

def Category.name : Category → String
  | shape => "syntax_valid"
  | parameters => "parameters_valid"
  | fieldTypes => "field_types_valid"
  | joinConditions => "join_conditions_valid"

def Category.all : List Category := [shape, parameters, fieldTypes, joinConditions]

structure Issue where
  category : Category
  message : String
  deriving DecidableEq, Repr

structure Detail where
  name : String
  path : String
  parameters : Value
  fields : Value
  condition : Value
  deriving Repr, Inhabited

def Detail.toValue (d : Detail) : Value :=
  .record [("name", .text d.name), ("path", .text d.path), ("parameters", d.parameters),
    ("fields", d.fields), ("join_condition", d.condition)]

/-- A join found, with its declaration if nothing is wrong with it. -/
structure Entry where
  detail : Detail
  declaration : Option Declaration
  deriving Repr, Inhabited

structure Report where
  entries : List Entry
  issues : List Issue
  joinsFound : Bool
  deriving Repr, Inhabited

namespace Report

def absent : Report := ⟨[], [], false⟩

def paths (r : Report) : List String := r.entries.map (·.detail.path)

def holds (r : Report) (c : Category) : Bool := r.issues.all (·.category != c)

def isValid (r : Report) : Bool := Category.all.all r.holds

def declaration? (r : Report) (path : String) : Option Declaration :=
  (r.entries.find? (·.detail.path == path)).bind (·.declaration)

end Report

end SchemaJoins.Validation
