import SchemaJoins.Analysis.Record
import SchemaJoins.Analysis.Run
import SchemaJoins.Command.Arguments
import SchemaJoins.Command.Session
import SchemaJoins.Schema.File
import SchemaJoins.Settings.File
import SchemaJoins.Yaml.Write

/-! # Analysing an export

Loads an export, prints the analysis of one entity or of all of them, and saves it
to a file on request.
-/

namespace SchemaJoins.Command.Analyze

open Console Files

structure Request where
  schema : Path
  entity : Option String
  settings : Option Path
  overrides : Settings.Options
  output : Option Path

def signature : Signature where
  arguments := .onePath "SCHEMA_FILE"
  options := [
    { name := "entity", spellings := [("--entity", none)] },
    { name := "config", spellings := [("--config", none)], kind := .existingPath },
    { name := "adapter", spellings := [("--adapter", none)] },
    { name := "adapter_version", spellings := [("--adapter_version", none)] },
    { name := "join_depth", spellings := [("--join_depth", none)], kind := .integer },
    { name := "join_strategy", spellings := [("--strategy", none)]
      kind := .choice (LoadStrategy.all.map (·.name)) },
    { name := "include_junction_edges"
      spellings := [("--include_junction_edges", some "yes"), ("--no_junction_edges", some "no")] },
    { name := "output", spellings := [("--output", none)] }]

def settingOf : ValueKind → Option String → Value
  | _, none => .null
  | .integer, some v => ((wholeNumber? v).map Value.int).getD .null
  | _, some v => .text v

def overridesOf (a : Arguments) : Settings.Options := [
  ("adapter", settingOf .text (a.option? "adapter")),
  ("adapter_version", settingOf .text (a.option? "adapter_version")),
  ("join_depth", settingOf .integer (a.option? "join_depth")),
  ("join_strategy", settingOf .text (a.option? "join_strategy")),
  ("include_junction_edges",
    ((a.option? "include_junction_edges").map fun v => Value.bool (v == "yes")).getD .null)]

/-- An empty name of an entity asks for all of them. -/
def Request.ofArguments (a : Arguments) : Request where
  schema := .ofText (a.others.headD "")
  entity := (a.option? "entity").filter (!·.isEmpty)
  settings := (a.option? "config").map .ofText
  overrides := overridesOf a
  output := (a.option? "output").map .ofText

def loadSettings (t : Tree) (r : Request) : Logged Settings := do
  (← Settings.load t r.settings).merge r.overrides

def load (r : Request) : Step (Settings × Schema.Graph) := do
  let t ← Step.files
  let both : Logged (Settings × Schema.Graph) := do
    return (← loadSettings t r, ← Schema.Export.loadFile t r.schema)
  match ← Step.guarded both with
  | .ok result => return result
  | .error f => Step.report f

/-! ## Results -/

def joinRow (c : JoinConfig) : Except Fault (List String) := do
  let conditions := c.conditions.map fun (l, r) => l.display ++ " = " ++ r.display
  return [c.name.display, c.kind.name, c.target.display, ", ".intercalate conditions,
    c.strategy.name, ← Value.joinTexts " -> " (c.through.getD [])]

def joinTable (a : Analysis) : Except Fault Table := do
  return {
    title := "Joins of " ++ a.entity
    columns := ["Name", "Type", "Target", "On", "Strategy", "Through"]
    rows := ← a.joins.mapM joinRow }

def hierarchyTable (a : Analysis) : Table where
  title := "Hierarchies"
  columns := ["Association", "Pattern", "Traversal", "Fields"]
  rows := a.hierarchies.map fun h =>
    [h.association.display, h.pattern.name, h.pattern.traversal.name,
      ", ".intercalate (h.roles.map fun (role, name) => role ++ "=" ++ name.display)]

def dimensionLine (d : Schema.Dimension) : String :=
  let (kind, table) := match d with
    | .star _ table _ _ _ => ("star_dimension", table)
    | .changing _ table _ _ _ _ _ _ _ => ("scd_type2", table)
  "[cyan]Dimension candidate:[/cyan] " ++ kind ++ " (" ++ escape table.display ++ ")"

def printAnalysis (a : Analysis) : Step Unit := do
  Step.print ("\n[bold]" ++ escape a.entity ++ "[/bold]")
  if a.joins.isEmpty then Step.print "[dim]No joins[/dim]"
  else Step.printTable (← Step.orFail (joinTable a))
  if !a.hierarchies.isEmpty then Step.printTable (hierarchyTable a)
  a.dimensions.forM fun d => Step.print (dimensionLine d)
  if !a.junctions.isEmpty then
    Step.print ("Junction tables: " ++ (← Step.orFail (Value.joinTexts ", " a.junctions)))
  a.warnings.forM fun w => Step.print ("[yellow]Warning: " ++ escape w ++ "[/yellow]")
  a.suggestions.forM fun s => Step.print ("[blue]Suggestion: " ++ escape s ++ "[/blue]")

/-- The analyses that are asked for, each with the name it is asked for by. -/
def analyses (z : Analyzer) (entity : Option String) : Step (List Analysis) := do
  match entity with
  | some name =>
      if (z.graph.find? name).isNone then
        let known := if z.graph.names.isEmpty then "none" else ", ".intercalate z.graph.names
        Step.printError ("Entity '" ++ escape name ++ "' not found. Known entities: " ++ known)
      return [← Step.logged (z.analyze name)]
  | none => Step.logged z.analyzeAll

def savedEntry (z : Analyzer) (a : Analysis) : Except Fault (Value × Value) := do
  return (.text a.entity,
    .record [("analysis", a.toValue), ("join_config", .map (← z.emit a))])

def save (z : Analyzer) (found : List Analysis) (output : Path) : Step Unit := do
  let entries ← Step.orFail (found.mapM (savedEntry z))
  let t ← Step.orFail ((← Step.files).makeFolderAt output.parent)
  Step.putFiles t
  Step.putFiles (← Step.orFail (t.write output (Yaml.write entries)))
  Step.print ("\n[green]Saved analysis to: " ++ output.text ++ "[/green]")

def run (r : Request) : Step Unit := do
  Step.print "[bold blue]joinscope - Join Analysis[/bold blue]"
  Step.print ("Schema: " ++ r.schema.text)
  let (settings, graph) ← load r
  let version := settings.adapterVersion.getD ""
  let adapter := "Adapter: " ++ settings.adapter ++ " " ++ version
  Step.print (String.ofList (Text.trimRight adapter.toList))
  Step.print ("Entities: " ++ toString graph.entities.length)
  let z ← Step.logged (Analyzer.create graph settings)
  let found ← analyses z r.entity
  found.forM printAnalysis
  if let some output := r.output then save z found output
  let warnings := found.foldl (fun n a => n + a.warnings.length) 0
  Step.print ("\n[green]Analysis complete![/green] " ++ toString found.length ++ " entities, " ++
    toString warnings ++ " warnings")

end SchemaJoins.Command.Analyze
