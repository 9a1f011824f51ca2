import SchemaJoins.Proofs.Adapter.Capabilities
import SchemaJoins.Proofs.Analysis.Canonical
import SchemaJoins.Proofs.Analysis.Cycles
import SchemaJoins.Proofs.Join.Conditions
import SchemaJoins.Proofs.Relationship.Hierarchies
import SchemaJoins.Proofs.Schema.Companions

/-! # Analyses stop at nothing

Every partial step of an analysis is guarded by what classifying gives: a pattern
is only taken for an entity whose fields and columns play its roles, a junction
is a text, and a join that was built names its cardinality. Whatever a typed graph
leaves open or gets wrong, all of its entities are analysed.
-/

namespace SchemaJoins

open Schema

variable {g : Graph} {e : Entity} {a : Association} {r : Relationship} {rs : List Relationship}

namespace Relationship

theorem isText_of_junction {junction : Value} (ha : a.IsTyped)
    (h : (classifyAssociation g e a).result = .ok (some r)) (hj : r.junction? = some junction) :
    junction.IsText := by
  obtain ⟨rfl, hgiven⟩ := junction_of_classifyAssociation h hj
  unfold junctionOf at hgiven ⊢
  split
  · exact ha.junctionEntity.exists_text ‹_›
  · rename_i hnone
    rw [if_neg hnone] at hgiven
    cases hpath : a.throughPath.head? with
    | none =>
      rw [hpath] at hgiven
      cases hgiven
    | some s => exact ⟨s, rfl⟩

theorem isHashable_of_junction {junction : Value} (ha : a.IsTyped)
    (h : (classifyAssociation g e a).result = .ok (some r)) (hj : r.junction? = some junction) :
    junction.isHashable = true := by
  obtain ⟨s, rfl⟩ := isText_of_junction ha h hj
  rfl

theorem isText_of_leads {throughJunctions : Bool} {v w : Value} (hg : g.IsTyped)
    (hrs : (ofGraph g).result = .ok rs) (h : Leads throughJunctions rs v w) :
    v.IsText ∧ w.IsText := by
  have hends {r : Relationship} (hr : r ∈ rs) : r.source.IsText ∧ r.target.IsText ∧
      ∀ junction, r.junction? = some junction → junction.IsText := by
    obtain ⟨e, he, a, ha, hclassified⟩ := (mem_ofEntities hrs).mp hr
    obtain ⟨shape, rfl⟩ := along_of_classifyAssociation hclassified
    have htyped := (hg e (Graph.mem_sorted.mp he)).associations a ha
    exact ⟨⟨_, rfl⟩, ⟨_, rfl⟩, fun _ => isText_of_junction htyped hclassified⟩
  cases h with
  | direct hr _ => exact ⟨(hends hr).1, (hends hr).2.1⟩
  | intoJunction _ hr hj => exact ⟨(hends hr).1, (hends hr).2.2 _ hj⟩
  | outOfJunction _ hr hj => exact ⟨(hends hr).2.2 _ hj, (hends hr).2.1⟩

end Relationship

namespace Analyzer

variable {z : Analyzer} {cycles : List (List Value)}

section Joins

theorem exists_isBuilt (he : e.IsTyped) (ha : a ∈ e.associations)
    (h : (Relationship.classifyAssociation g e a).result = .ok (some r)) :
    ∃ c, IsBuilt g e r c := by
  obtain ⟨asked, hasked⟩ :=
    Value.isOptionalText_iff.mp (he.isOptionalText_joinKind r.name.display)
  obtain ⟨parts, hparts⟩ := Relationship.foreignKey_texts h
  obtain ⟨c, hc⟩ := JoinConfig.exists_build (g := g) asked hparts fun junction =>
    Relationship.isHashable_of_junction (he.associations a ha) h
  exact ⟨c, by rwa [IsBuilt, askedKind, hasked]⟩

theorem exists_defaultJoins (h : ∀ r ∈ rs, ∃ c, IsBuilt z.graph e r c) (taken : List Value) :
    ∃ built, (z.defaultJoins e taken rs).result = .ok built := by
  induction rs generalizing taken with
  | nil => exact ⟨[], rfl⟩
  | cons r rs ih =>
    obtain ⟨⟨c, hc⟩, hrs⟩ := List.forall_mem_cons.mp h
    rw [defaultJoins]
    split
    · obtain ⟨built, hbuilt⟩ := ih hrs taken
      exact ⟨built, Logged.result_bind_eq_ok.mpr ⟨(), rfl, hbuilt⟩⟩
    · obtain ⟨built, hbuilt⟩ := ih hrs (taken ++ [r.name])
      exact ⟨_, Logged.result_bind_eq_ok.mpr
        ⟨c, hc, Logged.result_bind_eq_ok.mpr ⟨built, hbuilt, rfl⟩⟩⟩

def IsFitted (o : Optimizer) (c : JoinConfig) : Prop :=
  ∃ f : Fitting, f.fitted = c ∧ f.built.IsUnfitted f.relationship ∧
    f.IsFit o.strategy o.capabilities

theorem exists_optimizeAll {o : Optimizer} {kept : List Relationship} {built : List JoinConfig}
    (h : List.Forall₂ (IsBuilt g e) kept built) :
    ∃ joins, o.optimizeAll built = .ok joins ∧ ∀ c ∈ joins, IsFitted o c := by
  have hall : ∀ c ∈ built, ∃ d, o.optimize c = .ok d ∧ IsFitted o d := by
    intro c hc
    obtain ⟨r, -, hbuilt⟩ := exists_of_mem_right h hc
    have hunfitted := JoinConfig.isUnfitted_of_build hbuilt
    have hoptimize : ∃ d, o.optimize c = .ok d :=
      ⟨_, bind_eq_ok.mpr ⟨_, Optimizer.assign_eq hunfitted, rfl⟩⟩
    obtain ⟨d, hd⟩ := hoptimize
    let f : Fitting := ⟨r, c, d⟩
    exact ⟨d, hd, f, rfl, hunfitted, Optimizer.isFit_of_optimize (f := f) hunfitted hd⟩
  obtain ⟨joins, hjoins, hfitted⟩ := exists_mapM_forall₂ hall
  refine ⟨joins, hjoins, fun c hc => ?_⟩
  obtain ⟨_, _, hc⟩ := exists_of_mem_right hfitted hc
  exact hc

end Joins

section Reports

theorem exists_cycleWarning (path : List String) :
    ∃ line, cycleWarning (path.map .text) = .ok line :=
  ⟨_, bind_eq_ok.mpr ⟨_, Value.joinTexts_texts _ path, rfl⟩⟩

theorem exists_junctionWarning?
    (h : ∀ junction, r.junction? = some junction → junction.isHashable = true) :
    ∃ line, junctionWarning? z e r = .ok line := by
  unfold junctionWarning?
  split
  · exact ⟨none, rfl⟩
  · obtain ⟨found, hfound⟩ := Graph.exists_findValue?_iff.mpr (h _ ‹_›)
    rw [hfound]
    cases found with
    | none => exact ⟨_, rfl⟩
    | some found => exact ⟨none, rfl⟩

theorem IsFitted.exists_kindWarning? {c : JoinConfig} (h : IsFitted z.optimizer c) :
    ∃ line, kindWarning? z e c = .ok line := by
  obtain ⟨f, rfl, -, hfit⟩ := h
  exact ⟨_, bind_eq_ok.mpr ⟨_, Fitting.replacedKind_of_isFit hfit, rfl⟩⟩

theorem IsFitted.exists_cardinality {o : Optimizer} {c : JoinConfig} (h : IsFitted o c) :
    ∃ cardinality, c.cardinality = .ok (some cardinality) := by
  obtain ⟨f, rfl, hunfitted, hfit⟩ := h
  refine ⟨f.relationship.effectiveCardinality, ?_⟩
  rw [← hunfitted.cardinality_eq, JoinConfig.cardinality, JoinConfig.cardinality,
    hfit.metadata "cardinality" (by decide)]

theorem IsFitted.exists_unindexedKey? {o : Optimizer} {c : JoinConfig} (h : IsFitted o c) :
    ∃ key, unindexedKey? e c = .ok key := by
  obtain ⟨cardinality, hc⟩ := h.exists_cardinality
  unfold unindexedKey?
  rw [hc]
  cases cardinality with
  | direct kind => cases kind <;> exact ⟨_, rfl⟩
  | manyToMany => exact ⟨none, rfl⟩
  | selfReference => exact ⟨none, rfl⟩

theorem exists_warningsFor {joins : List JoinConfig} (hierarchies : List Hierarchy)
    (hcycles : ∀ cycle ∈ cycles, ∃ path : List String, cycle = path.map .text)
    (hjunctions : ∀ r ∈ rs, ∀ junction, r.junction? = some junction → junction.isHashable = true)
    (hjoins : ∀ c ∈ joins, IsFitted z.optimizer c) :
    ∃ warnings, z.warningsFor e rs joins hierarchies cycles = .ok warnings := by
  have hlines : ∀ cycle ∈ cycles, ∃ line, cycleWarning cycle = .ok line := by
    intro cycle hcycle
    obtain ⟨path, rfl⟩ := hcycles cycle hcycle
    exact exists_cycleWarning path
  obtain ⟨circular, hcircular⟩ := exists_mapM hlines
  obtain ⟨missing, hmissing⟩ := exists_mapM fun r hr =>
    exists_junctionWarning? (z := z) (e := e) (hjunctions r hr)
  obtain ⟨kinds, hkinds⟩ := exists_mapM fun c hc => (hjoins c hc).exists_kindWarning? (e := e)
  exact ⟨_, bind_eq_ok.mpr ⟨circular, hcircular, bind_eq_ok.mpr
    ⟨missing, hmissing, bind_eq_ok.mpr ⟨kinds, hkinds, rfl⟩⟩⟩⟩

theorem exists_suggestionsFor {o : Optimizer} {joins : List JoinConfig}
    (hjoins : ∀ c ∈ joins, IsFitted o c) :
    ∃ suggestions, suggestionsFor e joins = .ok suggestions := by
  obtain ⟨keys, hkeys⟩ := exists_mapM fun c hc => (hjoins c hc).exists_unindexedKey? (e := e)
  exact ⟨_, bind_eq_ok.mpr ⟨keys, hkeys, rfl⟩⟩

end Reports

theorem exists_analyzeEntity (hg : z.graph.IsTyped) (he : e.IsTyped)
    (hcycles : ∀ cycle ∈ cycles, ∃ path : List String, cycle = path.map .text) :
    ∃ a, (z.analyzeEntity cycles e).result = .ok a := by
  obtain ⟨rs, hrs⟩ := Relationship.exists_classifyEach z.graph e e.associations
  have horigin (r : Relationship) (hr : r ∈ rs) := (Relationship.mem_classifyEach hrs).mp hr
  have hwanted : ∀ r ∈ rs, ∃ c, IsBuilt z.graph e r c := by
    intro r hr
    obtain ⟨a, ha, hclassified⟩ := horigin r hr
    exact exists_isBuilt he ha hclassified
  have hjunctions : ∀ r ∈ rs, ∀ junction, r.junction? = some junction →
      junction.isHashable = true := by
    intro r hr junction
    obtain ⟨a, ha, hclassified⟩ := horigin r hr
    exact Relationship.isHashable_of_junction (he.associations a ha) hclassified
  have hown : ∀ cycle ∈ cycles.filter (·.any (Value.sameKey (.text e.name))),
      ∃ path : List String, cycle = path.map .text :=
    fun cycle hcycle => hcycles cycle (List.mem_of_mem_filter hcycle)
  obtain ⟨built, hbuilt⟩ := exists_defaultJoins hwanted []
  obtain ⟨kept, -, hkept⟩ := @isBuilt_of_defaultJoins z e rs [] built hbuilt
  obtain ⟨joins, hjoins, hfitted⟩ := exists_optimizeAll (o := z.optimizer) hkept
  obtain ⟨hierarchies, hhierarchies, -⟩ := Hierarchy.exists_ofRelationships fun r hr => by
    obtain ⟨a, -, hclassified⟩ := horigin r hr
    exact Hierarchy.exists_describe? hclassified
  obtain ⟨dimensions, hdimensions⟩ :=
    Dimension.exists_detect hg.hasTextTables he.table
  obtain ⟨warnings, hwarnings⟩ := exists_warningsFor (e := e) hierarchies hown hjunctions hfitted
  obtain ⟨suggestions, hsuggestions⟩ := exists_suggestionsFor (e := e) hfitted
  let a : Analysis :=
    { entity := e.name, joins, hierarchies, dimensions, warnings, suggestions
      relationships := Analysis.categorize rs
      junctions := Analysis.junctionsOf rs
      cycles := cycles.filter (·.any (Value.sameKey (.text e.name))) }
  refine ⟨a, analyzeEntity_eq_ok.mpr ⟨rs, ?_⟩⟩
  exact ⟨hrs, rfl, ⟨built, hbuilt, hjoins⟩, rfl, hhierarchies, hdimensions, rfl, rfl, hwarnings,
    hsuggestions⟩

/-- The search for cycles goes through texts only, also where it passes junctions
that are no entities. -/
theorem exists_cyclesIfWanted (hg : z.graph.IsTyped) :
    ∃ found : List (List String), z.cyclesIfWanted.result = .ok (found.map (·.map .text)) := by
  unfold cyclesIfWanted
  split
  · obtain ⟨rs, hrs⟩ := Relationship.exists_ofEntities z.graph z.graph.sorted
    have htexts : ∀ v w, Relationship.Leads z.settings.includeJunctionEdges.isTrue rs v w →
        v.IsText ∧ w.IsText := fun v w => Relationship.isText_of_leads hg hrs
    obtain ⟨found, hfound, -⟩ :=
      Relationship.exists_cycles_leading_on z.settings.joinDepth htexts
    exact ⟨found, Logged.result_bind_eq_ok.mpr ⟨rs, hrs, hfound⟩⟩
  · exact ⟨[], rfl⟩

theorem exists_analyzeEach {es : List Entity}
    (h : ∀ e ∈ es, ∃ a, (z.analyzeEntity cycles e).result = .ok a) :
    ∃ as, (z.analyzeEach cycles es).result = .ok as := by
  induction es with
  | nil => exact ⟨[], rfl⟩
  | cons e es ih =>
    obtain ⟨⟨a, ha⟩, hes⟩ := List.forall_mem_cons.mp h
    obtain ⟨as, has⟩ := ih hes
    exact ⟨_, Logged.result_bind_eq_ok.mpr
      ⟨a, ha, Logged.result_bind_eq_ok.mpr ⟨as, has, rfl⟩⟩⟩

theorem exists_analyzeAll (hg : z.graph.IsTyped) : ∃ as, z.analyzeAll.result = .ok as := by
  obtain ⟨found, hfound⟩ := exists_cyclesIfWanted hg
  have hcycles : ∀ cycle ∈ found.map (·.map Value.text),
      ∃ path : List String, cycle = path.map .text := by
    intro cycle hcycle
    obtain ⟨path, -, rfl⟩ := List.mem_map.mp hcycle
    exact ⟨path, rfl⟩
  have hentities : ∀ e ∈ z.graph.sorted,
      ∃ a, (z.analyzeEntity (found.map (·.map .text)) e).result = .ok a :=
    fun e he => exists_analyzeEntity hg (hg e (Graph.mem_sorted.mp he)) hcycles
  obtain ⟨as, has⟩ := exists_analyzeEach hentities
  exact ⟨as, Logged.result_bind_eq_ok.mpr ⟨_, hfound, has⟩⟩

theorem exists_create (g : Graph) (settings : Settings) :
    ∃ z, (create g settings).result = .ok z ∧ z.graph = g := by
  obtain ⟨capabilities, hcapabilities⟩ :=
    Adapter.Capabilities.exists_get settings.adapter settings.adapterVersion
  refine ⟨⟨g, settings, settings.joinStrategy, capabilities⟩, ?_, rfl⟩
  refine Logged.result_bind_eq_ok.mpr ⟨_, ?_, rfl⟩
  exact Logged.result_bind_eq_ok.mpr ⟨capabilities, hcapabilities, rfl⟩

theorem exists_analyses (hg : g.IsTyped) (settings : Settings) :
    ∃ as, (analysesOf g settings).result = .ok as := by
  obtain ⟨z, hz, rfl⟩ := exists_create g settings
  obtain ⟨as, has⟩ := exists_analyzeAll hg
  exact ⟨as, Logged.result_bind_eq_ok.mpr ⟨z, hz, has⟩⟩

theorem map_entity_of_analysesOf {settings : Settings} {as : List Analysis}
    (h : (analysesOf g settings).result = .ok as) : as.map (·.entity) = g.names := by
  obtain ⟨z, hz, has⟩ := Logged.result_bind_eq_ok.mp h
  obtain ⟨optimizer, _, hz⟩ := Logged.result_bind_eq_ok.mp hz
  cases hz
  obtain ⟨_, _, hnames, _⟩ := entities_of_analyzeAll has
  exact hnames

/-- A typed graph is analysed as a whole under all settings: each of its entities
has an analysis, in the order of the names. -/
theorem exists_analysesOf_isTyped (hg : g.IsTyped) (settings : Settings) :
    ∃ as, (analysesOf g settings).result = .ok as ∧ as.map (·.entity) = g.names := by
  obtain ⟨as, has⟩ := exists_analyses hg settings
  exact ⟨as, has, map_entity_of_analysesOf has⟩

/-- A nameless entity without a key that refers to itself twice under one name,
and posts whose tags, junction and requested join kind are unknown. -/
def untidyGraph : Graph :=
  .ofEntities [
    { name := "", table := .text "", primaryKey := [], associations := [
        { name := "above", kind := "belongs_to", relatedEntity := "" },
        { name := "above", kind := "has_many", relatedEntity := "", joinKind := .text "FULL" }] },
    { name := "Post", primaryKey := ["tenant_id", "number"], associations := [
        { name := "tags", kind := "many_to_many", relatedEntity := "Tag", ownerKey := ["number"],
          junctionEntity := .text "post_tags", joinKind := .text "sideways" },
        { name := "author", kind := "unheard of", relatedEntity := "Author" }] }]

def untidySettings : Settings :=
  { adapter := "sqlite", adapterVersion := some "latest", joinDepth := 5
    includeJunctionEdges := .bool true }

theorem exists_analysesOf_untidyGraph :
    untidyGraph.IsTyped ∧
    ∃ as, (analysesOf untidyGraph untidySettings).result = .ok as ∧
      as.map (·.entity) = untidyGraph.names := by
  have hg : untidyGraph.IsTyped := by
    refine Graph.isTyped_ofEntities fun e he => ?_
    rcases List.mem_pair.mp he with rfl | rfl
    · refine ⟨Value.isOptionalText_text _, fun a ha => ?_⟩
      rcases List.mem_pair.mp ha with rfl | rfl
      · exact ⟨Value.isOptionalText_null, Value.isOptionalText_null⟩
      · exact ⟨Value.isOptionalText_null, Value.isOptionalText_text _⟩
    · refine ⟨Value.isOptionalText_null, fun a ha => ?_⟩
      rcases List.mem_pair.mp ha with rfl | rfl
      · exact ⟨Value.isOptionalText_text _, Value.isOptionalText_text _⟩
      · exact ⟨Value.isOptionalText_null, Value.isOptionalText_null⟩
  exact ⟨hg, exists_analysesOf_isTyped hg untidySettings⟩

end Analyzer

end SchemaJoins
