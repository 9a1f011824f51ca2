import SchemaJoins.Data.Access

/-! # Join kinds and loading strategies -/

namespace SchemaJoins

inductive JoinKind where
  | inner
  | left
  | right
  | full
  | cross
  deriving DecidableEq, Repr, Inhabited

namespace JoinKind

def name : JoinKind → String
  | inner => "inner"
  | left => "left"
  | right => "right"
  | full => "full"
  | cross => "cross"

def all : List JoinKind := [inner, left, right, full, cross]

def ofName? (s : String) : Option JoinKind := all.find? (·.name == s)

def ofValue (v : Value) : Except Fault JoinKind := v.member "JoinKind" ofName?

end JoinKind

/-- How a join is loaded; `optimized` leaves the choice to the cardinality. -/
inductive LoadStrategy where
  | eager
  | lazy
  | optimized
  deriving DecidableEq, Repr, Inhabited

namespace LoadStrategy

def name : LoadStrategy → String
  | eager => "eager"
  | lazy => "lazy"
  | optimized => "optimized"

def all : List LoadStrategy := [eager, lazy, optimized]

def ofName? (s : String) : Option LoadStrategy := all.find? (·.name == s)

def ofValue (v : Value) : Except Fault LoadStrategy := v.member "LoadStrategy" ofName?

end LoadStrategy

end SchemaJoins
