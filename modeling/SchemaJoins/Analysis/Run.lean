import SchemaJoins.Analysis.Basic
import SchemaJoins.Join.Build
import SchemaJoins.Join.Optimize
import SchemaJoins.Relationship.Classify
import SchemaJoins.Relationship.Cycle
import SchemaJoins.Settings.Basic

/-! # Analysing a schema

The relationships of an entity are classified and their joins are configured and
fitted to the adapter. The cycles of the whole graph are searched once, and an
entity is told of those that pass through it.
-/

namespace SchemaJoins

structure Analyzer where
  graph : Schema.Graph
  settings : Settings
  optimizer : Optimizer
  deriving Inhabited

namespace Analyzer

open Schema

def create (graph : Graph) (settings : Settings) : Logged Analyzer := do
  let optimizer ← Optimizer.create settings.joinStrategy settings.adapter settings.adapterVersion
  return { graph, settings, optimizer }

def allCycles (z : Analyzer) : Logged (List (List Value)) := do
  let rs ← Relationship.ofGraph z.graph
  Relationship.cycles z.settings.joinDepth z.settings.includeJunctionEdges.isTrue rs

def cyclesIfWanted (z : Analyzer) : Logged (List (List Value)) :=
  if z.settings.detectCycles.isTrue then z.allCycles else return []

/-- The joins of relationships in order, with those whose names are `taken` left
out. The kind that is asked for is that of the first association of the name. -/
def defaultJoins (z : Analyzer) (e : Entity) (taken : List Value) :
    List Relationship → Logged (List JoinConfig)
  | [] => return []
  | r :: rest =>
      if taken.any (Value.sameKey r.name) then do
        Logged.warn ("Duplicate association name " ++ e.name ++ "." ++ r.name.display ++
          ", keeping the first")
        defaultJoins z e taken rest
      else do
        let override := ((e.association? r.name.display).map (·.joinKind)).getD .null
        let config ← JoinConfig.build z.graph r override
        return config :: (← defaultJoins z e (taken ++ [r.name]) rest)

def cycleWarning (cycle : List Value) : Except Fault String := do
  return "Circular dependency detected: " ++ (← Value.joinTexts " -> " cycle)

def hierarchyWarnings (e : Entity) (hierarchies : List Hierarchy) : List String :=
  if 1 < hierarchies.length then
    ["Multiple hierarchical relationships detected on " ++ e.name ++
      ". Consider using only one hierarchy pattern."]
  else []

/-- A hierarchy that is walked by recursive expansion needs an adapter that can. -/
def recursionWarnings (z : Analyzer) (e : Entity) (hierarchies : List Hierarchy) : List String :=
  let c := z.optimizer.capabilities
  if c.supportsFeature "recursive_ctes" then []
  else (hierarchies.filter (·.pattern == .adjacencyList)).map fun h =>
    "Adapter " ++ c.adapter ++ " " ++ (c.version.filter (!·.isEmpty)).getD "(unknown version)" ++
      " lacks recursive CTEs; hierarchy " ++ e.name ++ "." ++ h.association.display ++
      " cannot be expanded recursively"

def junctionWarning? (z : Analyzer) (e : Entity) (r : Relationship) :
    Except Fault (Option String) := do
  match r.junction? with
  | none => return none
  | some junction =>
      if (← z.graph.findValue? junction).isSome then return none
      else return some ("Junction entity '" ++ junction.display ++ "' of " ++ e.name ++ "." ++
        r.name.display ++ " is not part of the schema graph")

def kindWarning? (z : Analyzer) (e : Entity) (c : JoinConfig) : Except Fault (Option String) := do
  return (← c.replacedKind).map fun kind =>
    "Join " ++ e.name ++ "." ++ c.name.display ++ ": " ++ kind.name ++
      " join is not supported by " ++ z.optimizer.capabilities.adapter ++ ", using " ++ c.kind.name

def warningsFor (z : Analyzer) (e : Entity) (rs : List Relationship) (joins : List JoinConfig)
    (hierarchies : List Hierarchy) (cycles : List (List Value)) : Except Fault (List String) := do
  let circular ← cycles.mapM cycleWarning
  let junctions ← rs.mapM (junctionWarning? z e)
  let kinds ← joins.mapM (kindWarning? z e)
  return circular ++ hierarchyWarnings e hierarchies ++ recursionWarnings z e hierarchies ++
    junctions.filterMap id ++ kinds.filterMap id

def columnsOf (key : String) : List String :=
  ((Text.splitOn ',' key.toList).filter (!·.isEmpty)).map String.ofList

/-- The foreign key that the join of a reference to a parent should have indexed. -/
def unindexedKey? (e : Entity) (c : JoinConfig) : Except Fault (Option (List String)) := do
  if (← c.cardinality) != some (.direct .belongsTo) then return none
  let key := columnsOf ((c.metadata? "foreign_key").getD (.text "")).display
  return if key.isEmpty || (e.isIndexed? key).getD false then none else some key

def suggestion (e : Entity) (key : List String) : String :=
  "Consider adding index on " ++ e.sourceName.display ++ "." ++ ",".intercalate key

def suggestionsFor (e : Entity) (joins : List JoinConfig) : Except Fault (List String) := do
  let keys ← joins.mapM (unindexedKey? e)
  return ((keys.filterMap id).map (suggestion e)).eraseDups

def analyzeEntity (z : Analyzer) (allCycles : List (List Value)) (e : Entity) :
    Logged Analysis := do
  let rs ← Relationship.ofEntity z.graph e
  let joins ← z.defaultJoins e [] rs
  let joins ← z.optimizer.optimizeAll joins
  let hierarchies ← Hierarchy.ofRelationships e rs
  let cycles := allCycles.filter (·.any (Value.sameKey (.text e.name)))
  let dimensions ← Dimension.detect z.graph e
  let warnings ← z.warningsFor e rs joins hierarchies cycles
  let suggestions ← suggestionsFor e joins
  return {
    entity := e.name, joins, hierarchies, dimensions, cycles, warnings, suggestions
    relationships := Analysis.categorize rs
    junctions := Analysis.junctionsOf rs }

def analyze (z : Analyzer) (name : String) : Logged Analysis := do
  let cycles ← z.cyclesIfWanted
  z.analyzeEntity cycles (← z.graph.require name)

def analyzeEach (z : Analyzer) (cycles : List (List Value)) : List Entity → Logged (List Analysis)
  | [] => return []
  | e :: rest => do return (← z.analyzeEntity cycles e) :: (← z.analyzeEach cycles rest)

def analyzeAll (z : Analyzer) : Logged (List Analysis) := do
  z.analyzeEach (← z.cyclesIfWanted) z.graph.sorted

def emitted (z : Analyzer) (c : JoinConfig) : Except Fault Value := do
  let replaced ← c.replacedKind
  let through := c.through.filter (!·.isEmpty)
  let note := if z.settings.adapter == "postgres" then none else replaced
  return .record ([("type", .text c.kind.name), ("target", c.target),
    ("on", .list (c.conditions.map fun (l, r) => .list [l, r])),
    ("strategy", .text c.strategy.name)] ++
    (through.map fun path => ("through", Value.list path)).toList ++
    (note.map fun kind => ("adapter_note",
      Value.text ("Originally " ++ kind.name ++ ", adapted for " ++ z.settings.adapter))).toList)

def emit (z : Analyzer) (a : Analysis) : Except Fault (List (Value × Value)) :=
  a.joins.mapM fun c => do return (c.name, ← z.emitted c)

def analyzeSchema (z : Analyzer) : Option String → Logged (List Analysis)
  | some name => do return [← z.analyze name]
  | none => z.analyzeAll

end Analyzer

end SchemaJoins
