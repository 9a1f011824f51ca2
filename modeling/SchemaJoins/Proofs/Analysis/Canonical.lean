import SchemaJoins.Analysis.Run
import SchemaJoins.Proofs.Schema.Canonical

/-! # Analyses see the canonical form

Everything that an analysis reads of a graph is the same in its canonical form:
the entities by their names, the names in sorted order and, of a table, the name
in storage. An analysis is therefore independent of the order in which the
entities arrived.
-/

namespace SchemaJoins

open Schema

namespace Schema

namespace Graph

theorem findValue?_canonical (g : Graph) (name : Value) :
    g.canonical.findValue? name = Option.map Entity.canonical <$> g.findValue? name := by
  unfold findValue?
  cases name.requireHashable with
  | error f => rfl
  | ok _ =>
    cases name with
    | text s => exact congrArg Except.ok (g.find?_canonical s)
    | _ => rfl

@[simp] theorem spellings_canonical (e : Entity) : spellings e.canonical = spellings e := by
  unfold spellings
  rw [Entity.sourceName_canonical]
  rfl

def row (e : Entity) : Except Fault (Entity × List Value) := do return (e, ← spellings e)

theorem row_canonical (e : Entity) :
    row e.canonical = Prod.map Entity.canonical id <$> row e := by
  unfold row
  rw [spellings_canonical]
  cases spellings e <;> rfl

theorem mapM_row_canonical (es : List Entity) : (es.map Entity.canonical).mapM row =
    List.map (Prod.map Entity.canonical id) <$> es.mapM row := by
  induction es with
  | nil => rfl
  | cons e es ih =>
    rw [List.map_cons, List.mapM_cons, List.mapM_cons, ih, row_canonical]
    cases row e with
    | error f => rfl
    | ok r => cases es.mapM row <;> rfl

theorem findByName?_canonical (g : Graph) (candidates : List String) :
    g.canonical.findByName? candidates =
      Option.map Entity.canonical <$> g.findByName? candidates := by
  have hread (g : Graph) : g.findByName? candidates = (do
      let table ← g.sorted.mapM row
      return candidates.findSome? fun c =>
        (table.find? fun r => r.2.any (Value.sameKey (.text (Text.lower c)))).map (·.1)) := rfl
  rw [hread, hread, sorted_canonical, mapM_row_canonical]
  cases g.sorted.mapM row with
  | error f => rfl
  | ok table =>
    refine congrArg Except.ok ?_
    rw [List.map_findSome?]
    congr 1
    funext c
    simp only [List.find?_map, Function.comp_apply, Option.map_map]
    rfl

end Graph

namespace Dimension

theorem companion?_canonical (g : Graph) (e : Entity) :
    companion? g.canonical e.canonical = companion? g e := by
  have hnames : companionNames e.canonical = companionNames e := by
    unfold companionNames
    rw [Entity.sourceName_canonical]
    rfl
  have hname : e.canonical.name = e.name := rfl
  unfold companion?
  rw [hnames, hname, Graph.findByName?_canonical]
  cases g.findByName? ((companionNames e).filter (· != e.name)) with
  | error f => rfl
  | ok found => cases found <;> rfl

theorem indicators_canonical (e : Entity) : indicators e.canonical = indicators e := by
  unfold indicators
  rw [Entity.sourceName_canonical]
  rfl

theorem detect_canonical (g : Graph) (e : Entity) :
    detect g.canonical e.canonical = detect g e := by
  unfold detect changingOf
  rw [companion?_canonical, indicators_canonical, Entity.sourceName_canonical]
  rfl

end Dimension

end Schema

namespace Relationship

theorem relatedPrimaryKey_canonical (g : Graph) (a : Association) :
    relatedPrimaryKey g.canonical a = relatedPrimaryKey g a := by
  unfold relatedPrimaryKey
  rw [Graph.find?_canonical, Option.map_map]
  rfl

theorem classifyThrough_canonical (g : Graph) (e : Entity) (a : Association) :
    classifyThrough g.canonical e.canonical a = classifyThrough g e a := by
  unfold classifyThrough
  rw [relatedPrimaryKey_canonical]
  rfl

theorem directKeys_canonical (g : Graph) (e : Entity) (a : Association) (kind : DirectKind) :
    directKeys g.canonical e.canonical a kind = directKeys g e a kind := by
  cases kind with
  | belongsTo => rw [directKeys, directKeys, relatedPrimaryKey_canonical]
  | hasOne => rfl
  | hasMany => rfl

theorem classifyAssociation_canonical (g : Graph) (e : Entity) (a : Association) :
    classifyAssociation g.canonical e.canonical a = classifyAssociation g e a := by
  unfold classifyAssociation classifyDirect
  rw [classifyThrough_canonical]
  simp only [directKeys_canonical]
  rfl

theorem classifyEach_canonical (g : Graph) (e : Entity) (as : List Association) :
    classifyEach g.canonical e.canonical as = classifyEach g e as := by
  induction as with
  | nil => rfl
  | cons a as ih => rw [classifyEach, classifyEach, classifyAssociation_canonical, ih]

theorem ofEntity_canonical (g : Graph) (e : Entity) :
    ofEntity g.canonical e.canonical = ofEntity g e := classifyEach_canonical g e e.associations

theorem ofEntities_canonical (g : Graph) (es : List Entity) :
    ofEntities g.canonical (es.map Entity.canonical) = ofEntities g es := by
  induction es with
  | nil => rfl
  | cons e es ih => rw [List.map_cons, ofEntities, ofEntities, ofEntity_canonical, ih]

theorem ofGraph_canonical (g : Graph) : ofGraph g.canonical = ofGraph g := by
  rw [ofGraph, ofGraph, Graph.sorted_canonical, ofEntities_canonical]

end Relationship

namespace JoinConfig

theorem shaped_canonical (g : Graph) (r : Relationship) (base : JoinConfig) :
    shaped g.canonical r base = shaped g r base := by
  unfold shaped
  split
  · rfl
  · rfl
  · rename_i junction _ _ _ _ _
    rw [Graph.findValue?_canonical]
    cases g.findValue? junction with
    | error f => rfl
    | ok found => cases found <;> rfl

theorem build_canonical (g : Graph) (r : Relationship) (override : Value) :
    build g.canonical r override = build g r override := by
  unfold build
  simp only [shaped_canonical]

end JoinConfig

namespace Hierarchy

theorem ofRelationships_canonical (e : Entity) (rs : List Relationship) :
    ofRelationships e.canonical rs = ofRelationships e rs := by
  induction rs with
  | nil => rfl
  | cons r rs ih =>
    rw [ofRelationships, ofRelationships, ih]
    rfl

end Hierarchy

namespace Analyzer

variable {z : Analyzer} {e : Entity}

def canonical (z : Analyzer) : Analyzer := { z with graph := z.graph.canonical }

theorem graph_canonical (z : Analyzer) : z.canonical.graph = z.graph.canonical := rfl

theorem cyclesIfWanted_canonical (z : Analyzer) :
    z.canonical.cyclesIfWanted = z.cyclesIfWanted := by
  unfold cyclesIfWanted allCycles
  rw [canonical, Relationship.ofGraph_canonical]

theorem defaultJoins_canonical (z : Analyzer) (e : Entity) (taken : List Value)
    (rs : List Relationship) :
    z.canonical.defaultJoins e.canonical taken rs = z.defaultJoins e taken rs := by
  induction rs generalizing taken with
  | nil => rfl
  | cons r rs ih =>
    rw [defaultJoins, defaultJoins]
    simp only [ih, graph_canonical, JoinConfig.build_canonical]
    rfl

theorem junctionWarning?_canonical (z : Analyzer) (e : Entity) (r : Relationship) :
    z.canonical.junctionWarning? e.canonical r = z.junctionWarning? e r := by
  unfold junctionWarning?
  cases r.junction? with
  | none => rfl
  | some junction =>
    dsimp only
    rw [graph_canonical, Graph.findValue?_canonical]
    cases z.graph.findValue? junction with
    | error f => rfl
    | ok found => cases found <;> rfl

theorem warningsFor_canonical (z : Analyzer) (e : Entity) (rs : List Relationship)
    (joins : List JoinConfig) (hierarchies : List Hierarchy) (cycles : List (List Value)) :
    z.canonical.warningsFor e.canonical rs joins hierarchies cycles =
      z.warningsFor e rs joins hierarchies cycles := by
  have hjunctions : z.canonical.junctionWarning? e.canonical = z.junctionWarning? e :=
    funext (z.junctionWarning?_canonical e)
  unfold warningsFor
  rw [hjunctions]
  rfl

theorem suggestionsFor_canonical (e : Entity) (joins : List JoinConfig) :
    suggestionsFor e.canonical joins = suggestionsFor e joins := by
  have hsuggestion : suggestion e.canonical = suggestion e := by
    funext key
    unfold suggestion
    rw [Entity.sourceName_canonical]
  unfold suggestionsFor
  rw [hsuggestion]
  rfl

theorem analyzeEntity_canonical (z : Analyzer) (cycles : List (List Value)) (e : Entity) :
    z.canonical.analyzeEntity cycles e.canonical = z.analyzeEntity cycles e := by
  unfold analyzeEntity
  simp only [defaultJoins_canonical, Hierarchy.ofRelationships_canonical, warningsFor_canonical,
    suggestionsFor_canonical]
  rw [graph_canonical, Relationship.ofEntity_canonical, Dimension.detect_canonical]
  rfl

theorem analyzeEach_canonical (z : Analyzer) (cycles : List (List Value)) (es : List Entity) :
    z.canonical.analyzeEach cycles (es.map Entity.canonical) = z.analyzeEach cycles es := by
  induction es with
  | nil => rfl
  | cons e es ih => rw [List.map_cons, analyzeEach, analyzeEach, analyzeEntity_canonical, ih]

theorem analyzeAll_canonical (z : Analyzer) : z.canonical.analyzeAll = z.analyzeAll := by
  unfold analyzeAll
  simp only [cyclesIfWanted_canonical, graph_canonical, Graph.sorted_canonical,
    analyzeEach_canonical]

def analysesOf (g : Graph) (settings : Settings) : Logged (List Analysis) := do
  (← create g settings).analyzeAll

theorem analysesOf_canonical (g : Graph) (settings : Settings) :
    analysesOf g.canonical settings = analysesOf g settings := by
  unfold analysesOf create
  obtain ⟨found, warnings⟩ :=
    Optimizer.create settings.joinStrategy settings.adapter settings.adapterVersion
  cases found with
  | error f => rfl
  | ok optimizer =>
    have h := analyzeAll_canonical ⟨g, settings, optimizer⟩
    exact congrArg (fun found => (⟨found.result, warnings ++ [] ++ found.warnings⟩ : Logged _)) h

end Analyzer

end SchemaJoins
