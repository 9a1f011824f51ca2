/-! # Splitting at a separator -/

namespace SchemaJoins.Text

/-- The parts of a text between separators; there is one more part than there
are separators. -/
def splitOn (separator : Char) : List Char → List (List Char)
  | [] => [[]]
  | c :: cs =>
      if c = separator then [] :: splitOn separator cs
      else
        match splitOn separator cs with
        | [] => [[c]]
        | part :: parts => (c :: part) :: parts

end SchemaJoins.Text
