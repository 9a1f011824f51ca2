import SchemaJoins.Data.Logged
import SchemaJoins.Text.Blank
import SchemaJoins.Text.DecimalDigit
import SchemaJoins.Text.Split

/-! # Versions

A version is the row of numbers that a version text begins with. Versions are
compared as if missing numbers were zeros.
-/

namespace SchemaJoins.Adapter

abbrev Version := List Nat

namespace Version

/-- The rows of digits at the start of a text, with single points between. -/
def digitGroups (cs : List Char) : List (List Char) :=
  (Text.splitOn '.' (cs.takeWhile fun c => Text.isDigit c || c == '.')).takeWhile (!·.isEmpty)

def number (digits : List Char) : Except Fault Nat :=
  if digits.length > Text.digitLimit then .error (.integerTooLong digits.length)
  else .ok (Text.digitsValue digits)

def dropMark : List Char → List Char
  | 'v' :: cs => cs
  | cs => cs

/-- The version at the start of a text, after blanks. -/
def parse (s : String) : Except Fault Version :=
  match digitGroups (dropMark (Text.trimLeft s.toList)) with
  | [] => .error (.unparseableVersion s)
  | groups => groups.mapM number

def compare : Version → Version → Ordering
  | [], [] => .eq
  | x :: xs, [] => (Ord.compare x 0).then (compare xs [])
  | [], y :: ys => (Ord.compare 0 y).then (compare [] ys)
  | x :: xs, y :: ys => (Ord.compare x y).then (compare xs ys)

end Version

inductive Comparison where
  | atLeast
  | above
  | atMost
  | below
  | equal
  deriving DecidableEq, Repr

def Comparison.holds : Comparison → Ordering → Bool
  | atLeast, o => o != .lt
  | above, o => o == .gt
  | atMost, o => o != .gt
  | below, o => o == .lt
  | equal, o => o == .eq

/-- A demand on a version, such as `>= 8.0`. -/
structure Requirement where
  comparison : Comparison
  wanted : List Char

namespace Requirement

def comparisonAt? : List Char → Option (Comparison × List Char)
  | '>' :: '=' :: cs => some (.atLeast, cs)
  | '>' :: cs => some (.above, cs)
  | '<' :: '=' :: cs => some (.atMost, cs)
  | '<' :: cs => some (.below, cs)
  | '=' :: '=' :: cs => some (.equal, cs)
  | _ => none

def isPlainDigit (c : Char) : Bool := decide ('0' ≤ c) && decide (c ≤ '9')

def parse? (s : String) : Option Requirement := do
  let (comparison, rest) ← comparisonAt? (Text.trim s.toList)
  let wanted := Text.trimLeft rest
  if wanted.head?.any isPlainDigit && wanted.all (fun c => isPlainDigit c || c == '.') then
    some ⟨comparison, wanted⟩
  else none

end Requirement

/-- The version text meets the requirement. A missing version meets none, and
neither does a text that is no version, which is warned about. -/
def versionSatisfies (version : Option String) (requirement : String) : Logged Bool :=
  match version.filter (!·.isEmpty) with
  | none => return false
  | some version =>
      match Requirement.parse? requirement with
      | none => Logged.fail (.invalidRequirement requirement)
      | some r =>
          match Version.parse version with
          | .error _ => do
              Logged.warn ("Ignoring unparseable adapter version " ++ quoted version)
              return false
          | .ok given => do
              return r.comparison.holds (given.compare (← Version.parse (String.ofList r.wanted)))

end SchemaJoins.Adapter
