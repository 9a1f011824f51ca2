import SchemaJoins.Source.Token

/-! # Syntax trees

Literal displays, signs and constants have nodes of their own, and so have
arguments that are passed by name. All other constructs are a form with its parts
in order.
-/

namespace SchemaJoins.Source

inductive Form where
  | name
  | member
  | call
  | interpolation
  | binary
  | subscript
  | function
  | unpacking
  | complement
  | logical
  | comparison
  | conditional
  | assignment
  | set
  | listComprehension
  | setComprehension
  | mapComprehension
  | generator
  | await
  | yield
  | yieldFrom
  | slice
  | comprehensionClause
  | parameters
  | classDefinition
  | pattern
  | statement
  deriving DecidableEq, Repr, Inhabited

def Form.description : Form → String
  | name => "variable reference"
  | member => "attribute access"
  | call => "function call"
  | interpolation => "string interpolation"
  | binary => "expression"
  | subscript => "subscript"
  | function => "lambda"
  | unpacking => "unpacking"
  | complement => "UnaryOp"
  | logical => "BoolOp"
  | comparison => "Compare"
  | conditional => "IfExp"
  | assignment => "NamedExpr"
  | set => "Set"
  | listComprehension => "ListComp"
  | setComprehension => "SetComp"
  | mapComprehension => "DictComp"
  | generator => "GeneratorExp"
  | await => "Await"
  | yield => "Yield"
  | yieldFrom => "YieldFrom"
  | slice => "Slice"
  | comprehensionClause => "comprehension"
  | parameters => "arguments"
  | classDefinition => "ClassDef"
  | pattern => "pattern"
  | statement => "stmt"

inductive Node where
  | constant (line : Nat) (c : Constant)
  | sign (line : Nat) (negative : Bool) (operand : Node)
  | list (line : Nat) (items : List Node)
  | tuple (line : Nat) (items : List Node)
  /-- A map display; an entry without a key unpacks another map. -/
  | map (line : Nat) (entries : List (Option Node × Node))
  /-- An argument passed by name; one without a name unpacks a map. -/
  | argument (name : Option String) (value : Node)
  | other (line : Nat) (form : Form) (parts : List Node)
  deriving Repr, Inhabited, BEq

namespace Node

def line : Node → Nat
  | constant line _ => line
  | sign line .. => line
  | list line _ => line
  | tuple line _ => line
  | map line _ => line
  | argument _ value => value.line
  | other line .. => line

/-- A node that only names another expression may be assigned to. -/
def isPlace : Node → Bool
  | other _ .name _ => true
  | other _ .member _ => true
  | other _ .subscript _ => true
  | _ => false

mutual

def isTarget : Node → Bool
  | list _ items => areTargets items
  | tuple _ items => areTargets items
  | other _ .unpacking [inner] => isTarget inner && !isUnpacking inner
  | other _ form _ => form == .name || form == .member || form == .subscript
  | _ => false

def areTargets : List Node → Bool
  | [] => true
  | n :: ns => isTarget n && areTargets ns

def isUnpacking : Node → Bool
  | other _ .unpacking _ => true
  | _ => false

end

mutual

def isRemovable : Node → Bool
  | list _ items => areRemovable items
  | tuple _ items => areRemovable items
  | other _ form _ => form == .name || form == .member || form == .subscript
  | _ => false

def areRemovable : List Node → Bool
  | [] => true
  | n :: ns => isRemovable n && areRemovable ns

end

end Node

end SchemaJoins.Source
