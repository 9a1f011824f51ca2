import SchemaJoins.Text.Split

/-! # Paths

A path leads from the working directory, or from the root, by steps. Empty steps
and single dots lead nowhere and are left out.
-/

namespace SchemaJoins.Files

structure Path where
  /-- The slashes that the path starts with. -/
  root : String
  steps : List String
  deriving DecidableEq, Repr, Inhabited

namespace Path

def isStep (s : String) : Bool := s != "" && s != "."

/-- Exactly two slashes at the start are kept apart from one. -/
def rootOf (slashes : Nat) : String :=
  if slashes = 0 then "" else if slashes = 2 then "//" else "/"

def ofText (text : String) : Path :=
  let cs := text.toList
  { root := rootOf (cs.takeWhile (· == '/')).length
    steps := ((Text.splitOn '/' cs).map String.ofList).filter isStep }

/-- The working directory is written as a dot. -/
def text (p : Path) : String :=
  if p.root.isEmpty && p.steps.isEmpty then "." else p.root ++ "/".intercalate p.steps

def isNamable (p : Path) : Bool := p.steps.all fun s => !s.toList.contains '\x00'

def parent (p : Path) : Path := { p with steps := p.steps.dropLast }

end Path

end SchemaJoins.Files
