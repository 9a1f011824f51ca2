import SchemaJoins.Files.Tree
import SchemaJoins.Schema.Export
import SchemaJoins.Yaml.Read

/-! # Export files -/

namespace SchemaJoins.Schema.Export

open Files

/-- The value of the document in an export file; nothing counts as no entries. -/
def readDocument (t : Tree) (p : Path) : Except Fault Value := do
  if !t.exists? p then .error (.schema (.fileMissing p.text))
  match Yaml.read (← t.read p) with
  | .ok v => return if v.isTrue then v else .map []
  | .error .illFormed => .error (.schema (.invalidDocument p.text))
  | .error (.fault f) => .error f

def loadFile (t : Tree) (p : Path) : Logged Graph := do
  load (← readDocument t p)

end SchemaJoins.Schema.Export
