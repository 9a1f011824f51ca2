import SchemaJoins.Text.Identifier

/-! # Placeholders of join conditions

A colon in front of an identifier makes a placeholder, unless another colon
stands in front of it: `::text` is a cast.
-/

namespace SchemaJoins.Placeholder

/-- The placeholders of a text that comes after the character `before`. -/
def occurrences (before : Option Char) : List Char → List (List Char)
  | [] => []
  | c :: cs =>
      let rest := occurrences (some c) cs
      if c == ':' && before != some ':' then
        match Text.identifierAt? cs with
        | some name => name :: rest
        | none => rest
      else rest

def distinct {α : Type} [BEq α] (xs : List α) : List α :=
  xs.foldl (fun seen x => if seen.contains x then seen else seen ++ [x]) []

def find (template : String) : List String :=
  distinct ((occurrences none template.toList).map String.ofList)

end SchemaJoins.Placeholder
