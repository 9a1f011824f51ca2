import SchemaJoins.Command.Run

/-! # The program

Reads the files that the arguments may mean, runs the command that they name, and
writes what has changed.
-/

namespace SchemaJoins.Program

open Files

/-- The texts that may be paths: each argument, what stands behind an equals sign,
and the usual places of settings. -/
def pathTexts (arguments : List String) : List String :=
  arguments.flatMap (fun a => a :: (Command.Signature.splitValue a).2.toList) ++
    Settings.usualPaths.map Path.text

def pathsTo (p : Path) : List Path :=
  (List.range p.steps.length).map fun n => { p with steps := p.steps.take (n + 1) }

def readEntry (p : Path) : IO (Option Entry) := do
  try
    return some (.file (← IO.FS.readFile p.text))
  catch e =>
    match e with
    | .noFileOrDirectory .. => return none
    | .inappropriateType _ code _ => return if code == 21 then some .folder else none
    | e => throw e

def readTree (arguments : List String) : IO Tree := do
  let paths := ((pathTexts arguments).flatMap fun s => pathsTo (.ofText s)).eraseDups
  let entries ← paths.filterMapM fun p => do
    return (← readEntry p).map fun e => (p.steps.foldl placeBehind (basePlace p), e)
  return ⟨entries⟩

def placeText : List String → String
  | "/" :: steps => "/" ++ "/".intercalate steps
  | steps => "/".intercalate steps

def writeChanges (before after : Tree) : IO Unit := do
  for (place, e) in after.entries do
    if before.entries.lookup place != some e then
      match e with
      | .folder => IO.FS.createDirAll (placeText place)
      | .file text => IO.FS.writeFile (placeText place) text

def run (arguments : List String) : IO UInt32 := do
  let files ← readTree arguments
  let o := Command.outcome arguments files
  writeChanges files o.files
  IO.print o.output
  (← IO.getStdout).flush
  for w in o.warnings do IO.eprintln w
  if let some f := o.fault then IO.eprintln f.message
  return o.exitCode.toUInt32

end SchemaJoins.Program

def main (arguments : List String) : IO UInt32 := SchemaJoins.Program.run arguments
