import SchemaJoins.Files.Tree
import SchemaJoins.Settings.Basic
import SchemaJoins.Yaml.Read

/-! # Settings files

Settings are read from a file that is named, or from the first of the usual
places that holds one. Without a file all settings have their defaults.
-/

namespace SchemaJoins.Settings

open Files

def usualPaths : List Path :=
  [".joinscope.yml", ".joinscope.yaml", "config/joinscope.yml"].map .ofText

def usualPath : Path := .ofText ".joinscope.yml"

def template : String :=
  "\n".intercalate [
    "# joinscope configuration",
    "defaults:",
    "  adapter: postgres          # postgres | mysql | sqlite",
    "  join_depth: 3              # cycle search depth",
    "  join_strategy: optimized   # eager | lazy | optimized",
    "  detect_cycles: true",
    "  include_junction_edges: false",
    "",
    "# Adapter versions decide version-gated join support",
    "adapters:",
    "  postgres:",
    "    version: \"14.0\"",
    "  mysql:",
    "    version: \"8.0\"",
    "  sqlite:",
    "    version: \"3.45\"",
    ""]

/-- The file that is named, which must exist, or the first one at a usual place. -/
def find (t : Tree) (named : Option Path) : Except Fault (Option Path) :=
  match named with
  | some p => if t.exists? p then .ok (some p) else .error (.settings (.fileMissing p.text))
  | none => .ok (usualPaths.find? t.exists?)

/-- The value of the document in a settings file; nothing counts as no options. -/
def readDocument (t : Tree) (p : Path) : Except Fault Value := do
  match Yaml.read (← t.read p) with
  | .ok v => return if v.isTrue then v else .map []
  | .error .illFormed => .error (.settings (.invalidDocument p.text))
  | .error (.fault f) => .error f

def load (t : Tree) (named : Option Path) : Logged Settings := do
  match ← find t named with
  | none => return {}
  | some p => ofFile (← readDocument t p)

/-- Writes a new settings file, over an existing one only on request. -/
def writeTemplate (t : Tree) (p : Path) (overwrite : Bool) : Except Fault Tree :=
  if t.exists? p && !overwrite then .error (.settings (.fileExists p.text))
  else t.save p template

end SchemaJoins.Settings
