import SchemaJoins.Proofs.Analysis.Joins
import SchemaJoins.Proofs.Analysis.Warnings
import SchemaJoins.Proofs.Data.Entries
import SchemaJoins.Proofs.Relationship.Cycles

/-! # Cycles in the analyses of a schema

The cycles of the graph are searched once for all analyses, and each analysis
tells of those through its entity. Without junctions, whatever lies on a cycle
has a relationship of its own and is therefore an entity of the graph, so that
each cycle is told of wherever it passes.
-/

namespace SchemaJoins

open Schema

namespace Value

variable {items : List Value}

theorem any_sameKey_text {s : String} :
    items.any (sameKey (.text s)) = true ↔ .text s ∈ items := by
  rw [List.any_eq_true]
  constructor
  · rintro ⟨v, hv, hs⟩
    exact text_sameKey.mp hs ▸ hv
  · intro hs
    exact ⟨.text s, hs, text_sameKey.mpr rfl⟩

instance (s : String) (items : List Value) : Decidable (.text s ∈ items) :=
  decidable_of_iff _ any_sameKey_text

theorem eq_texts_of_mapM {f : Value × Nat → Except Fault String}
    (hf : ∀ v i s, f (v, i) = .ok s → v = .text s) {parts : List String} {n : Nat}
    (h : (items.zipIdx n).mapM f = .ok parts) : items = parts.map .text := by
  induction items generalizing parts n with
  | nil =>
    cases h
    rfl
  | cons v items ih =>
    rw [List.zipIdx_cons, List.mapM_cons] at h
    obtain ⟨s, hs, h⟩ := bind_eq_ok.mp h
    obtain ⟨rest, hrest, h⟩ := bind_eq_ok.mp h
    cases h
    rw [hf _ _ _ hs, ih hrest, List.map_cons]

theorem exists_texts_of_joinTexts {separator joined : String}
    (h : joinTexts separator items = .ok joined) :
    ∃ parts : List String, items = parts.map .text ∧ joined = separator.intercalate parts := by
  obtain ⟨parts, hparts, h⟩ := bind_eq_ok.mp h
  cases h
  refine ⟨parts, eq_texts_of_mapM (fun v i s hs => ?_) hparts, rfl⟩
  cases v with
  | text t =>
    cases hs
    rfl
  | _ => cases hs

end Value

namespace Analyzer

variable {z : Analyzer} {e : Entity} {a : Analysis} {cycles : List (List Value)}

section Warnings

def IsCycleLine (cycle : List Value) (line : String) : Prop :=
  ∃ names : List String, cycle = names.map .text ∧
    line = "Circular dependency detected: " ++ " -> ".intercalate names

theorem isCycleLine_of_cycleWarning {cycle : List Value} {line : String}
    (h : cycleWarning cycle = .ok line) : IsCycleLine cycle line := by
  obtain ⟨joined, hjoined, h⟩ := bind_eq_ok.mp h
  cases h
  obtain ⟨names, hcycle, rfl⟩ := Value.exists_texts_of_joinTexts hjoined
  exact ⟨names, hcycle, rfl⟩

def otherWarnings (z : Analyzer) (e : Entity) (rs : List Relationship) (joins : List JoinConfig)
    (hierarchies : List Hierarchy) : Except Fault (List String) := do
  let junctions ← rs.mapM (junctionWarning? z e)
  let kinds ← joins.mapM (kindWarning? z e)
  return hierarchyWarnings e hierarchies ++ recursionWarnings z e hierarchies ++
    junctions.filterMap id ++ kinds.filterMap id

theorem not_starts_otherWarnings {rs : List Relationship} {joins : List JoinConfig}
    {hierarchies : List Hierarchy} {rest : List String}
    (h : z.otherWarnings e rs joins hierarchies = .ok rest) :
    ∀ w ∈ rest, ¬ Starts "Circular dependency detected" w := by
  obtain ⟨junctions, hjunctions, h⟩ := bind_eq_ok.mp h
  obtain ⟨kinds, hkinds, h⟩ := bind_eq_ok.mp h
  cases h
  intro w hw
  simp only [List.append_assoc, List.mem_append] at hw
  rcases hw with hw | hw | hw | hw
  · exact (starts_hierarchyWarnings hw).not_starts (by decide) (by decide)
  · exact (starts_recursionWarnings hw).not_starts (by decide) (by decide)
  · obtain ⟨found, hfound, rfl⟩ := List.mem_filterMap.mp hw
    obtain ⟨_, _, hjunction⟩ := mem_of_mapM_eq_ok hjunctions hfound
    exact (starts_junctionWarning? hjunction).not_starts (by decide) (by decide)
  · obtain ⟨found, hfound, rfl⟩ := List.mem_filterMap.mp hw
    obtain ⟨_, _, hkind⟩ := mem_of_mapM_eq_ok hkinds hfound
    exact (starts_kindWarning? hkind).not_starts (by decide) (by decide)

theorem exists_cycleLines {rs : List Relationship} {joins : List JoinConfig}
    {hierarchies : List Hierarchy} {warnings : List String}
    (h : z.warningsFor e rs joins hierarchies cycles = .ok warnings) :
    ∃ lines rest, warnings = lines ++ rest ∧ List.Forall₂ IsCycleLine cycles lines ∧
      z.otherWarnings e rs joins hierarchies = .ok rest := by
  obtain ⟨lines, hlines, h⟩ := bind_eq_ok.mp h
  obtain ⟨junctions, hjunctions, h⟩ := bind_eq_ok.mp h
  obtain ⟨kinds, hkinds, h⟩ := bind_eq_ok.mp h
  cases h
  refine ⟨lines, _, by simp only [List.append_assoc]; rfl, ?_, ?_⟩
  · exact (mapM_eq_ok.mp hlines).imp fun _ _ => isCycleLine_of_cycleWarning
  · rw [otherWarnings, hjunctions, hkinds]
    simp only [← List.append_assoc]
    rfl

end Warnings

/-- The analysis has the cycles through its entity, in their order, and its
warnings start with a line about each of them. -/
structure TellsOf (cycles : List (List Value)) (a : Analysis) : Prop where
  cycles : a.cycles = cycles.filter (.text a.entity ∈ ·)
  warnings : ∃ lines rest, a.warnings = lines ++ rest ∧
    List.Forall₂ IsCycleLine a.cycles lines ∧
    ∀ w ∈ rest, ¬ Starts "Circular dependency detected" w

theorem tellsOf_of_analyzeEntity (h : (z.analyzeEntity cycles e).result = .ok a) :
    TellsOf cycles a := by
  obtain ⟨rs, ha⟩ := analyzeEntity_eq_ok.mp h
  constructor
  · rw [ha.cycles, ha.entity]
    refine List.filter_congr fun cycle _ => ?_
    rw [Bool.eq_iff_iff, decide_eq_true_eq, Value.any_sameKey_text]
  · obtain ⟨lines, rest, hsplit, hlines, hrest⟩ := exists_cycleLines ha.warnings
    exact ⟨lines, rest, hsplit, hlines, not_starts_otherWarnings hrest⟩

theorem mem_names_of_leads {rs : List Relationship} {v w : Value} {g : Graph}
    (hrs : (Relationship.ofGraph g).result = .ok rs) (h : Relationship.Leads false rs v w) :
    (∃ name ∈ g.names, v = .text name) ∧ w.IsText := by
  obtain ⟨r, hr, rfl, rfl⟩ := Relationship.exists_source_of_leads h
  obtain ⟨e, he, a, -, hclassified⟩ := (Relationship.mem_ofEntities hrs).mp hr
  obtain ⟨shape, rfl⟩ := Relationship.along_of_classifyAssociation hclassified
  exact ⟨⟨e.name, Graph.mem_names.mpr ⟨e, Graph.mem_sorted.mp he, rfl⟩, rfl⟩, _, rfl⟩

/-- Without junctions, the search succeeds and finds only cycles among the
entities of the graph. -/
theorem exists_allCycles (hj : z.settings.includeJunctionEdges.isTrue = false) :
    ∃ cycles, z.allCycles.result = .ok cycles ∧
      ∀ cycle ∈ cycles, cycle ≠ [] ∧ ∀ v ∈ cycle, ∃ name ∈ z.graph.names, v = .text name := by
  obtain ⟨rs, hrs⟩ := Relationship.exists_ofEntities z.graph z.graph.sorted
  have htexts : ∀ v w, Relationship.Leads false rs v w → v.IsText ∧ w.IsText := by
    intro v w h
    obtain ⟨⟨name, -, hv⟩, hw⟩ := mem_names_of_leads hrs h
    exact ⟨⟨name, hv⟩, hw⟩
  obtain ⟨found, hfound, hmembers⟩ :=
    Relationship.exists_cycles_leading_on z.settings.joinDepth htexts
  refine ⟨found.map (·.map .text), ?_, fun cycle hcycle => ?_⟩
  · refine Logged.result_bind_eq_ok.mpr ⟨rs, hrs, ?_⟩
    rw [hj]
    exact hfound
  · obtain ⟨path, hpath, rfl⟩ := List.mem_map.mp hcycle
    obtain ⟨hne, hleads⟩ := hmembers path hpath
    refine ⟨by simpa using hne, fun v hv => ?_⟩
    obtain ⟨s, hs, rfl⟩ := List.mem_map.mp hv
    obtain ⟨next, hnext⟩ := hleads s hs
    exact (mem_names_of_leads hrs hnext).1

theorem entities_of_analyzeAll {as : List Analysis} (h : z.analyzeAll.result = .ok as) :
    ∃ cycles, z.cyclesIfWanted.result = .ok cycles ∧ as.map (·.entity) = z.graph.names ∧
      ∀ a ∈ as, (z.analyze a.entity).result = .ok a ∧ TellsOf cycles a := by
  obtain ⟨cycles, hcycles, h⟩ := Logged.result_bind_eq_ok.mp h
  have hall := forall₂_of_analyzeEach h
  refine ⟨cycles, hcycles, ?_, fun a ha => ?_⟩
  · rw [← Graph.map_name_sorted, ← List.forall₂_eq_eq_eq, List.forall₂_map_left_iff,
      List.forall₂_map_right_iff]
    refine hall.flip.imp fun a e he => ?_
    obtain ⟨rs, ha⟩ := analyzeEntity_eq_ok.mp he
    exact ha.entity
  · obtain ⟨e, he, hanalysis⟩ := exists_of_mem_right hall ha
    obtain ⟨rs, hparts⟩ := analyzeEntity_eq_ok.mp hanalysis
    have hfind : z.graph.find? a.entity = some e :=
      Graph.find?_eq_some.mpr ⟨Graph.mem_sorted.mp he, hparts.entity.symm⟩
    refine ⟨?_, tellsOf_of_analyzeEntity hanalysis⟩
    exact Logged.result_bind_eq_ok.mpr ⟨cycles, hcycles,
      Logged.result_bind_eq_ok.mpr ⟨e, Graph.require_eq_ok.mpr hfind, hanalysis⟩⟩

/-- The analyses of a whole schema are one for each name, the same that is made of
the entity by itself. Each tells of the cycles of the graph through its entity;
without junctions every cycle is told of by all entities on it. -/
theorem analyzeAll_tellsOf_cycles {as : List Analysis} (h : z.analyzeAll.result = .ok as) :
    as.map (·.entity) = z.graph.names ∧
    (∀ a ∈ as, (z.analyze a.entity).result = .ok a) ∧
    (z.settings.detectCycles.isTrue = true →
      ∃ cycles, z.allCycles.result = .ok cycles ∧ ∀ a ∈ as, TellsOf cycles a) ∧
    (z.settings.includeJunctionEdges.isTrue = false →
      ∃ cycles, z.allCycles.result = .ok cycles ∧ ∀ cycle ∈ cycles, cycle ≠ [] ∧
        ∀ v ∈ cycle, ∃ a ∈ as, v = .text a.entity ∧
          (z.settings.detectCycles.isTrue = true → cycle ∈ a.cycles)) := by
  obtain ⟨cycles, hcycles, hnames, hall⟩ := entities_of_analyzeAll h
  have hwanted : z.settings.detectCycles.isTrue = true → z.allCycles.result = .ok cycles := by
    intro hd
    rwa [cyclesIfWanted, if_pos hd] at hcycles
  refine ⟨hnames, fun a ha => (hall a ha).1, fun hd => ?_, fun hj => ?_⟩
  · exact ⟨cycles, hwanted hd, fun a ha => (hall a ha).2⟩
  · obtain ⟨found, hfound, hmembers⟩ := exists_allCycles hj
    refine ⟨found, hfound, fun cycle hcycle => ⟨(hmembers cycle hcycle).1, fun v hv => ?_⟩⟩
    obtain ⟨name, hname, rfl⟩ := (hmembers cycle hcycle).2 v hv
    rw [← hnames] at hname
    obtain ⟨a, ha, rfl⟩ := List.mem_map.mp hname
    refine ⟨a, ha, rfl, fun hd => ?_⟩
    obtain rfl : cycles = found := Except.ok.inj ((hwanted hd).symm.trans hfound)
    rw [(hall a ha).2.cycles]
    exact List.mem_filter.mpr ⟨hcycle, decide_eq_true hv⟩

def referring (name association related : String) : Entity :=
  { name
    associations := [{ name := association, kind := "belongs_to", relatedEntity := related }] }

def teamsAnalyzer : Analyzer :=
  byDefault (.ofEntities [referring "User" "team" "Team", referring "Team" "owner" "User"])

def teamsRelationships : List Relationship :=
  [⟨.text "owner", .text "Team", .text "User", [], .direct .belongsTo ["owner_id"] ["id"]⟩,
    ⟨.text "team", .text "User", .text "Team", [], .direct .belongsTo ["team_id"] ["id"]⟩]

def teamsCycle : List Value := ["Team", "User", "Team"].map .text

def referringAnalysis (name association related column : String) : Analysis :=
  { entity := name
    joins := [
      { name := .text association
        kind := .inner
        target := .text related
        conditions := [(.text column, .text "id")]
        strategy := .eager
        metadata := [("cardinality", .text "belongs_to"), ("foreign_key", .text column),
          ("owner_key", .text column)] }]
    relationships := [(.direct .belongsTo, [.text association])]
    hierarchies := [], dimensions := [], junctions := [], cycles := [teamsCycle]
    warnings := ["Circular dependency detected: Team -> User -> Team"]
    suggestions := ["Consider adding index on " ++ name ++ "." ++ column] }

theorem analyzeAll_tellsOf_cycles_teams :
    ∃ as, teamsAnalyzer.analyzeAll.result = .ok as ∧
      as.map (·.entity) = teamsAnalyzer.graph.names ∧
      (∀ a ∈ as, (teamsAnalyzer.analyze a.entity).result = .ok a) ∧
      (teamsAnalyzer.settings.detectCycles.isTrue = true →
        ∃ cycles, teamsAnalyzer.allCycles.result = .ok cycles ∧ ∀ a ∈ as, TellsOf cycles a) ∧
      (teamsAnalyzer.settings.includeJunctionEdges.isTrue = false →
        ∃ cycles, teamsAnalyzer.allCycles.result = .ok cycles ∧ ∀ cycle ∈ cycles, cycle ≠ [] ∧
          ∀ v ∈ cycle, ∃ a ∈ as, v = .text a.entity ∧
            (teamsAnalyzer.settings.detectCycles.isTrue = true → cycle ∈ a.cycles)) := by
  have hsorted : teamsAnalyzer.graph.sorted =
      [referring "Team" "owner" "User", referring "User" "team" "Team"] :=
    Graph.sorted_eq (.swap _ _ []) (by decide)
  have hfound : Relationship.cycles 3 false teamsRelationships = .ok [teamsCycle] :=
    (Relationship.cycles_of_pairwise rfl (by decide)).trans rfl
  have hcycles : teamsAnalyzer.cyclesIfWanted.result = .ok [teamsCycle] :=
    cyclesIfWanted_of_sorted rfl hsorted hfound rfl
  have hteam : (teamsAnalyzer.analyzeEntity [teamsCycle] (referring "Team" "owner" "User")).result =
      .ok (referringAnalysis "Team" "owner" "User" "owner_id") := by
    refine analyzeEntity_eq_ok.mpr
      ⟨_, rfl, rfl, ⟨_, rfl, rfl⟩, rfl, rfl, ?_, rfl, rfl, rfl, rfl⟩
    rw [Dimension.detect, Dimension.companion?, Graph.findByName?, hsorted]
    rfl
  have huser : (teamsAnalyzer.analyzeEntity [teamsCycle] (referring "User" "team" "Team")).result =
      .ok (referringAnalysis "User" "team" "Team" "team_id") := by
    refine analyzeEntity_eq_ok.mpr
      ⟨_, rfl, rfl, ⟨_, rfl, rfl⟩, rfl, rfl, ?_, rfl, rfl, rfl, rfl⟩
    rw [Dimension.detect, Dimension.companion?, Graph.findByName?, hsorted]
    rfl
  have has : teamsAnalyzer.analyzeAll.result =
      .ok [referringAnalysis "Team" "owner" "User" "owner_id",
        referringAnalysis "User" "team" "Team" "team_id"] := by
    refine Logged.result_bind_eq_ok.mpr ⟨_, hcycles, ?_⟩
    rw [hsorted]
    refine Logged.result_bind_eq_ok.mpr ⟨_, hteam, ?_⟩
    refine Logged.result_bind_eq_ok.mpr ⟨_, ?_, rfl⟩
    exact Logged.result_bind_eq_ok.mpr ⟨_, huser, rfl⟩
  exact ⟨_, has, analyzeAll_tellsOf_cycles has⟩

end Analyzer

end SchemaJoins
