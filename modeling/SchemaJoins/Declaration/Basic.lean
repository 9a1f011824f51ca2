import SchemaJoins.Data.Order
import SchemaJoins.Data.Fault
import SchemaJoins.Declaration.ParameterType
import SchemaJoins.Declaration.Placeholder

/-! # Declarations of parameterized joins

A declaration names the parameters of a join in order, its fields with their
types, and the join condition that mentions the parameters.
-/

namespace SchemaJoins

structure Parameter where
  name : String
  typeName : String
  required : Bool := false
  default : Value := .null
  deriving Repr, Inhabited

namespace Parameter

def ofOptions (options : List (String × Value)) : Except Fault Parameter :=
  match options.find? fun o => !(["name", "type", "required", "default"].contains o.1) with
  | some (option, _) => .error (.unexpectedOption "ParameterDecl" option)
  | none =>
      let missing := ["name", "type"].filter fun k => (options.lookup k).isNone
      if !missing.isEmpty then .error (.missingOptions "ParameterDecl" missing)
      else .ok {
        name := ((options.lookup "name").getD .null).display
        typeName := ((options.lookup "type").getD .null).display
        required := ((options.lookup "required").getD (.bool false)).isTrue
        default := (options.lookup "default").getD .null }

def toValue (p : Parameter) : Value :=
  .record [("name", .text p.name), ("type", .text p.typeName), ("required", .bool p.required),
    ("default", p.default)]

end Parameter

structure Declaration where
  name : String
  path : String
  parameters : List Parameter
  fields : List (String × String)
  condition : Option String
  deriving Repr, Inhabited

namespace Declaration

def parameterNames (d : Declaration) : List String := d.parameters.map (·.name)

/-- The placeholders of a condition; an empty condition counts as none. -/
def placeholdersOf : Option String → List String
  | some c => if c.isEmpty then [] else Placeholder.find c
  | none => []

def placeholders (d : Declaration) : List String := placeholdersOf d.condition

def requiredCount (d : Declaration) : Nat := d.parameters.countP (·.required)

/-- Parameter names are distinct and the condition mentions no others. -/
def check (d : Declaration) : Except Fault Declaration :=
  let names := d.parameterNames
  let duplicates := repeatedTexts names
  if !duplicates.isEmpty then .error (.duplicateParameters d.path duplicates)
  else
    let unknown := d.placeholders.filter fun p => !names.contains p
    if !unknown.isEmpty then .error (.unknownPlaceholders d.path unknown)
    else .ok d

def toValue (d : Declaration) : Value :=
  .record [("name", .text d.name), ("path", .text d.path),
    ("parameters", .list (d.parameters.map Parameter.toValue)),
    ("fields", .record (d.fields.map fun (k, t) => (k, .text t))),
    ("join_condition", (d.condition.map Value.text).getD .null)]

end Declaration

end SchemaJoins
