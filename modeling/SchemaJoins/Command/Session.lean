import SchemaJoins.Console.Table
import SchemaJoins.Data.Logged
import SchemaJoins.Files.Tree

/-! # Sessions

A command prints lines, writes files and ends with an exit code or a fault. What
was printed or written before it ends stays.
-/

namespace SchemaJoins.Command

structure Session where
  files : Files.Tree
  lines : List String := []
  warnings : List String := []

inductive Stop where
  | exit (code : Nat)
  | fault (f : Fault)
  deriving Repr

abbrev Step := ExceptT Stop (StateM Session)

namespace Step

def exit (code : Nat) : Step α := throw (.exit code)

/-- A fault that nothing handles. -/
def fail (f : Fault) : Step α := throw (.fault f)

def orFail : Except Fault α → Step α
  | .ok a => pure a
  | .error f => fail f

/-- Runs a computation that writes warnings, and keeps its fault. -/
def guarded (x : Logged α) : Step (Except Fault α) := do
  modify fun s => { s with warnings := s.warnings ++ x.warnings }
  return x.result

def logged (x : Logged α) : Step α := do orFail (← guarded x)

def write (lines : List String) : Step Unit :=
  modify fun s => { s with lines := s.lines ++ lines }

def writeRendered (x : Except Fault (List Console.Line)) : Step Unit := do
  write ((← orFail x).map String.ofList)

def print (markup : String) : Step Unit := writeRendered (Console.paragraph markup)

def printTable (t : Console.Table) : Step Unit := writeRendered t.render

def printError (message : String) : Step α := do
  print ("[red]Error: " ++ message ++ "[/red]")
  exit 1

/-- Faults in the settings or an export are told to the user. -/
def report (f : Fault) : Step α :=
  match f with
  | .settings _ => printError (Console.escape f.message)
  | .schema _ => printError (Console.escape f.message)
  | f => fail f

def files : Step Files.Tree := return (← get).files

def putFiles (t : Files.Tree) : Step Unit := modify fun s => { s with files := t }

end Step

structure Outcome where
  exitCode : Nat
  /-- The fault that ended it. -/
  fault : Option Fault
  lines : List String
  warnings : List String
  files : Files.Tree

def Outcome.output (o : Outcome) : String := String.join (o.lines.map (· ++ "\n"))

def Step.run (x : Step Unit) (files : Files.Tree) : Outcome :=
  let (result, session) := (ExceptT.run x).run { files }
  let (exitCode, fault) := match result with
    | .ok () => (0, none)
    | .error (.exit code) => (code, none)
    | .error (.fault f) => (1, some f)
  { exitCode, fault, lines := session.lines, warnings := session.warnings, files := session.files }

end SchemaJoins.Command
