import SchemaJoins.Declaration.Basic
import SchemaJoins.Reference.Basic

/-! # Binding references to declarations

The values of a reference fill the declared parameters by position; parameters
without a value take their default. What stands in the way is listed.
-/

namespace SchemaJoins

structure Binding where
  values : List (String × Value)
  errors : List String
  deriving Repr, Inhabited

def Binding.isOk (b : Binding) : Bool := b.errors.isEmpty

namespace Declaration

def valueError? (p : Parameter) (v : Value) : Option String :=
  match v with
  | .null => if p.required then some ("Parameter '" ++ p.name ++ "' is required") else none
  | _ =>
      if acceptsValue p.typeName v then none
      else some ("Parameter '" ++ p.name ++ "' expects " ++ p.typeName ++ ", got " ++ v.literal)

def bindParameters : List Parameter → List Value → Binding
  | [], _ => ⟨[], []⟩
  | p :: ps, [] =>
      let rest := bindParameters ps []
      ⟨(p.name, p.default) :: rest.values, rest.errors⟩
  | p :: ps, v :: vs =>
      let rest := bindParameters ps vs
      ⟨(p.name, v) :: rest.values, (valueError? p v).toList ++ rest.errors⟩

/-- Binds a reference. With too few or too many values nothing is bound. -/
def bind (d : Declaration) (r : Reference) : Binding :=
  let target := if r.join == d.name then []
    else ["Reference targets join '" ++ r.join ++ "', not '" ++ d.name ++ "'"]
  let field := if d.fields.any (·.1 == r.field) then []
    else ["Join '" ++ d.path ++ "' has no field '" ++ r.field ++ "'"]
  let given := r.parameters.length
  let most := d.parameters.length
  if given < d.requiredCount ∨ given > most then
    ⟨[], target ++ field ++ ["Join '" ++ d.path ++ "' expects " ++ toString d.requiredCount ++
      " to " ++ toString most ++ " parameters, got " ++ toString given]⟩
  else
    let bound := bindParameters d.parameters r.parameters
    ⟨bound.values, target ++ field ++ bound.errors⟩

end Declaration

end SchemaJoins
