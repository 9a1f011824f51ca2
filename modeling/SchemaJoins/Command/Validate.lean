import SchemaJoins.Command.Arguments
import SchemaJoins.Command.Session
import SchemaJoins.Reference.Parse
import SchemaJoins.Validation.Content

/-! # Validating domain files

Parses references that are separated by commas, checks the joins of domain files,
and tells in the end whether all of them are in order.
-/

namespace SchemaJoins.Command.Validate

open Console Files

structure Request where
  files : List Path
  references : Option String

def signature : Signature where
  arguments := .many
  options := [{ name := "test_references", spellings := [("--test_references", none)] }]

/-- An empty text asks for no references. -/
def Request.ofArguments (a : Arguments) : Request where
  files := a.others.map .ofText
  references := (a.option? "test_references").filter (!·.isEmpty)

def Request.isEmpty (r : Request) : Bool := r.files.isEmpty && r.references.isNone

/-! ## References -/

/-- The references in a text: what stands between commas, without blank parts. -/
def referencesIn (text : String) : List String :=
  (((Text.splitOn ',' text.toList).map Text.trim).filter (!·.isEmpty)).map String.ofList

def printReference (r : Reference) : Step Unit := do
  Step.print "  [green]Valid syntax[/green]"
  Step.print ("  Parsed: join=" ++ r.join ++ ", field=" ++ r.field ++ ", kind=" ++ r.kind.name)
  if r.kind == .parameterized then
    Step.print ("  Parameters: " ++ escape (", ".intercalate (r.parameters.map Value.literal)))

def testReference (source : String) : Step Bool := do
  Step.print ("Testing: " ++ escape (quoted source))
  let result ← Step.orFail (Reference.parse source)
  match result with
  | .ok r => printReference r
  | .error f =>
      Step.print ("  [red]Invalid syntax (" ++ f.code ++ "): " ++ escape f.message ++ "[/red]")
  Step.print ""
  return result.isOk

def testReferences (text : String) : Step Bool := do
  Step.print "[bold blue]Testing parameterized field reference parsing...[/bold blue]\n"
  return (← (referencesIn text).mapM testReference).all id

/-! ## Files -/

inductive Verdict where
  | unreadable
  | withoutJoins
  | valid
  | issues (count : Nat)
  deriving DecidableEq, Repr

namespace Verdict

def text : Verdict → String
  | unreadable => "unreadable"
  | withoutJoins => "no joins"
  | valid => "valid"
  | issues count => toString count ++ " issue(s)"

def isGood : Verdict → Bool
  | valid => true
  | withoutJoins => true
  | _ => false

end Verdict

def isUnreadable : Fault → Bool
  | .isDirectory _ => true
  | .notDirectory _ => true
  | .fileNotFound _ => true
  | _ => false

def printFindings (r : Validation.Report) : Step Unit := do
  if r.holds .shape then Step.print "  [green]Valid syntax[/green]"
  Step.print ("  Found " ++ toString r.entries.length ++ " parameterized join(s)")
  r.paths.forM fun path => Step.print ("    - " ++ escape path)

def printIssues (r : Validation.Report) : Step Unit := do
  (Validation.Category.all.filter (!r.holds ·)).forM fun c =>
    Step.print ("  [red]" ++ c.name ++ ": failed[/red]")
  r.issues.forM fun i => Step.print ("  [yellow]- " ++ escape i.message ++ "[/yellow]")

def validateContent (content : String) : Step Verdict := do
  let r ← Step.logged (Validation.checkContent content)
  if !r.joinsFound then
    Step.print "  [dim]No joins configuration found[/dim]"
    return .withoutJoins
  printFindings r
  if r.isValid then
    Step.print "  [green]All validation checks passed[/green]"
    return .valid
  printIssues r
  return .issues r.issues.length

def validateFile (p : Path) : Step Verdict := do
  Step.print ("[bold]" ++ escape p.text ++ "[/bold]")
  match (← Step.files).read p with
  | .ok content => validateContent content
  | .error f =>
      if isUnreadable f then
        Step.print ("  [red]Failed to read file: " ++ escape f.message ++ "[/red]")
        return .unreadable
      else Step.fail f

/-- The verdict on each file. One that is named again keeps its place and has the
last verdict. -/
def record (summary : List (String × Verdict)) (name : String) (v : Verdict) :
    List (String × Verdict) :=
  if summary.any (·.1 == name) then
    summary.map fun e => if e.1 == name then (name, v) else e
  else summary ++ [(name, v)]

def summaryTable (summary : List (String × Verdict)) : Table where
  title := "Validation Summary"
  columns := ["File", "Result"]
  rows := summary.map fun (name, v) => [name, v.text]

def validateFiles (paths : List Path) : Step Bool := do
  Step.print "[bold blue]Validating domain files...[/bold blue]\n"
  let verdicts ← paths.mapM fun p => do return (p.text, ← validateFile p)
  let summary := verdicts.foldl (fun s (name, v) => record s name v) []
  Step.printTable (summaryTable summary)
  return summary.all (·.2.isGood)

def run (r : Request) : Step Unit := do
  let referencesGood ←
    match r.references with
    | some text => testReferences text
    | none => pure true
  let filesGood ← if r.files.isEmpty then pure true else validateFiles r.files
  if !(referencesGood && filesGood) then Step.exit 1

end SchemaJoins.Command.Validate
