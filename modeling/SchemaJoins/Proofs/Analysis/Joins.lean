import SchemaJoins.Analysis.Run
import SchemaJoins.Proofs.Join.Fitting
import SchemaJoins.Proofs.Relationship.Classified

/-! # The joins of an analysis

What an analysis consists of is said once. It builds one join for each name among
the relationships of its entity, that of the first relationship of the name, and
fits them to the adapter in the same order.
-/

namespace SchemaJoins

open Schema

theorem exists_fittings {P : Relationship → JoinConfig → Prop} {Q : JoinConfig → JoinConfig → Prop}
    {rs : List Relationship} {built fitted : List JoinConfig} (hP : List.Forall₂ P rs built)
    (hQ : List.Forall₂ Q built fitted) :
    ∃ fs : List Fitting, fs.map (·.relationship) = rs ∧ fs.map (·.fitted) = fitted ∧
      ∀ f ∈ fs, P f.relationship f.built ∧ Q f.built f.fitted := by
  induction hP generalizing fitted with
  | nil =>
    cases hQ
    exact ⟨[], rfl, rfl, fun _ hf => absurd hf List.not_mem_nil⟩
  | cons hr _ ih =>
    obtain ⟨d, ds, hc, hcs, rfl⟩ := List.forall₂_cons_left_iff.mp hQ
    obtain ⟨fs, rfl, rfl, hall⟩ := ih hcs
    exact ⟨⟨_, _, d⟩ :: fs, rfl, rfl, List.forall_mem_cons.mpr ⟨⟨hr, hc⟩, hall⟩⟩

namespace Analyzer

variable {z : Analyzer} {e : Entity} {a : Analysis} {rs : List Relationship}

def sameName (r s : Relationship) : Bool := Value.sameKey r.name s.name

/-- The kind that the first association of the name asks for. -/
def askedKind (e : Entity) (r : Relationship) : Value :=
  ((e.association? r.name.display).map (·.joinKind)).getD .null

def IsBuilt (g : Graph) (e : Entity) (r : Relationship) (c : JoinConfig) : Prop :=
  (JoinConfig.build g r (askedKind e r)).result = .ok c

theorem any_names (r : Relationship) (seen : List Relationship) :
    (seen.reverse.map (·.name)).any (Value.sameKey r.name) = seen.any (sameName r) := by
  rw [List.any_map, List.any_reverse]
  rfl

theorem isBuilt_of_defaultJoins {seen : List Relationship} {cs : List JoinConfig}
    (h : (z.defaultJoins e (seen.reverse.map (·.name)) rs).result = .ok cs) :
    ∃ kept, List.eraseDupsBy.loop sameName rs seen = seen.reverse ++ kept ∧
      List.Forall₂ (IsBuilt z.graph e) kept cs := by
  induction rs generalizing seen cs with
  | nil =>
    cases h
    exact ⟨[], (List.append_nil _).symm, .nil⟩
  | cons r rs ih =>
    rw [defaultJoins, any_names] at h
    unfold List.eraseDupsBy.loop
    cases hr : seen.any (sameName r) with
    | true =>
      rw [hr] at h
      exact ih h
    | false =>
      rw [hr] at h
      obtain ⟨c, hc, h⟩ := Logged.result_bind_eq_ok.mp h
      obtain ⟨rest, hrest, h⟩ := Logged.result_bind_eq_ok.mp h
      cases h
      have hseen : seen.reverse.map (·.name) ++ [r.name] = (r :: seen).reverse.map (·.name) := by
        rw [List.reverse_cons, List.map_append]
        rfl
      rw [hseen] at hrest
      obtain ⟨kept, hloop, hkept⟩ := ih hrest
      refine ⟨r :: kept, ?_, .cons hc hkept⟩
      rw [hloop, List.reverse_cons, List.append_assoc]
      rfl

/-- What the analysis of an entity consists of, given its relationships and the
cycles of the graph. -/
structure IsAnalysis (z : Analyzer) (cycles : List (List Value)) (e : Entity)
    (rs : List Relationship) (a : Analysis) : Prop where
  classified : (Relationship.ofEntity z.graph e).result = .ok rs
  entity : a.entity = e.name
  joins : ∃ built, (z.defaultJoins e [] rs).result = .ok built ∧
    z.optimizer.optimizeAll built = .ok a.joins
  relationships : a.relationships = Analysis.categorize rs
  hierarchies : Hierarchy.ofRelationships e rs = .ok a.hierarchies
  dimensions : Dimension.detect z.graph e = .ok a.dimensions
  junctions : a.junctions = Analysis.junctionsOf rs
  cycles : a.cycles = cycles.filter (·.any (Value.sameKey (.text e.name)))
  warnings : z.warningsFor e rs a.joins a.hierarchies a.cycles = .ok a.warnings
  suggestions : suggestionsFor e a.joins = .ok a.suggestions

theorem analyzeEntity_eq_ok {cycles : List (List Value)} :
    (z.analyzeEntity cycles e).result = .ok a ↔ ∃ rs, IsAnalysis z cycles e rs a := by
  constructor
  · intro h
    obtain ⟨rs, hrs, h⟩ := Logged.result_bind_eq_ok.mp h
    obtain ⟨built, hbuilt, h⟩ := Logged.result_bind_eq_ok.mp h
    obtain ⟨joins, hjoins, h⟩ := Logged.result_bind_eq_ok.mp h
    obtain ⟨hierarchies, hhierarchies, h⟩ := Logged.result_bind_eq_ok.mp h
    obtain ⟨dimensions, hdimensions, h⟩ := Logged.result_bind_eq_ok.mp h
    obtain ⟨warnings, hwarnings, h⟩ := Logged.result_bind_eq_ok.mp h
    obtain ⟨suggestions, hsuggestions, h⟩ := Logged.result_bind_eq_ok.mp h
    cases h
    exact ⟨rs, hrs, rfl, ⟨built, hbuilt, hjoins⟩, rfl, hhierarchies, hdimensions, rfl, rfl,
      hwarnings, hsuggestions⟩
  · rintro ⟨rs, ha⟩
    obtain ⟨built, hbuilt, hjoins⟩ := ha.joins
    refine Logged.result_bind_eq_ok.mpr ⟨rs, ha.classified, ?_⟩
    refine Logged.result_bind_eq_ok.mpr ⟨built, hbuilt, ?_⟩
    refine Logged.result_bind_eq_ok.mpr ⟨a.joins, hjoins, ?_⟩
    refine Logged.result_bind_eq_ok.mpr ⟨a.hierarchies, ha.hierarchies, ?_⟩
    refine Logged.result_bind_eq_ok.mpr ⟨a.dimensions, ha.dimensions, ?_⟩
    rw [← ha.cycles, ← ha.relationships, ← ha.junctions, ← ha.entity]
    refine Logged.result_bind_eq_ok.mpr ⟨a.warnings, ha.warnings, ?_⟩
    exact Logged.result_bind_eq_ok.mpr ⟨a.suggestions, ha.suggestions, rfl⟩

theorem of_analyzeEntity {cycles : List (List Value)}
    (h : (z.analyzeEntity cycles e).result = .ok a) :
    a.entity = e.name ∧
      ∃ rs built hierarchies ownCycles, (Relationship.ofEntity z.graph e).result = .ok rs ∧
        List.Forall₂ (IsBuilt z.graph e) (rs.eraseDupsBy sameName) built ∧
        List.Forall₂ (fun c d => z.optimizer.optimize c = .ok d) built a.joins ∧
        z.warningsFor e rs a.joins hierarchies ownCycles = .ok a.warnings := by
  obtain ⟨rs, ha⟩ := analyzeEntity_eq_ok.mp h
  obtain ⟨built, hbuilt, hjoins⟩ := ha.joins
  obtain ⟨kept, hkept, hall⟩ := @isBuilt_of_defaultJoins z e rs [] built hbuilt
  rw [List.reverse_nil, List.nil_append] at hkept
  refine ⟨ha.entity, rs, built, _, _, ha.classified, ?_, mapM_eq_ok.mp hjoins, ha.warnings⟩
  rw [List.eraseDupsBy, hkept]
  exact hall

theorem forall₂_of_analyzeEach {cycles : List (List Value)} {es : List Entity} {as : List Analysis}
    (h : (z.analyzeEach cycles es).result = .ok as) :
    List.Forall₂ (fun e a => (z.analyzeEntity cycles e).result = .ok a) es as := by
  induction es generalizing as with
  | nil =>
    cases h
    exact .nil
  | cons e es ih =>
    obtain ⟨first, hfirst, h⟩ := Logged.result_bind_eq_ok.mp h
    obtain ⟨rest, hrest, h⟩ := Logged.result_bind_eq_ok.mp h
    cases h
    exact .cons hfirst (ih hrest)

/-- Cycles are searched among the relationships of the entities in the order of their names. -/
theorem cyclesIfWanted_of_sorted {es : List Entity} {rs : List Relationship}
    {cycles : List (List Value)} (hwanted : z.settings.detectCycles.isTrue = true)
    (hsorted : z.graph.sorted = es)
    (hfound : Relationship.cycles z.settings.joinDepth z.settings.includeJunctionEdges.isTrue rs =
      .ok cycles)
    (hrs : (Relationship.ofEntities z.graph es).result = .ok rs) :
    z.cyclesIfWanted.result = .ok cycles := by
  subst hsorted
  rw [cyclesIfWanted, if_pos hwanted]
  exact Logged.result_bind_eq_ok.mpr ⟨rs, hrs, hfound⟩

theorem analyzeSchema_some_eq_ok {name : String} {as : List Analysis} :
    (z.analyzeSchema (some name)).result = .ok as ↔
      ∃ cycles e a, z.cyclesIfWanted.result = .ok cycles ∧ z.graph.find? name = some e ∧
        (z.analyzeEntity cycles e).result = .ok a ∧ as = [a] := by
  constructor
  · intro h
    obtain ⟨a, ha, h⟩ := Logged.result_bind_eq_ok.mp h
    obtain ⟨cycles, hcycles, ha⟩ := Logged.result_bind_eq_ok.mp ha
    obtain ⟨e, he, ha⟩ := Logged.result_bind_eq_ok.mp ha
    exact ⟨cycles, e, a, hcycles, Graph.require_eq_ok.mp he, ha, (Except.ok.inj h).symm⟩
  · rintro ⟨cycles, e, a, hcycles, he, ha, rfl⟩
    have hone : (z.analyze name).result = .ok a := Logged.result_bind_eq_ok.mpr
      ⟨cycles, hcycles, Logged.result_bind_eq_ok.mpr ⟨e, Graph.require_eq_ok.mpr he, ha⟩⟩
    exact Logged.result_bind_eq_ok.mpr ⟨a, hone, rfl⟩

theorem mem_analyzeSchema {asked : Option String} {as : List Analysis}
    (h : (z.analyzeSchema asked).result = .ok as) (ha : a ∈ as) :
    ∃ e cycles, z.graph.find? e.name = some e ∧ (z.analyzeEntity cycles e).result = .ok a := by
  cases asked with
  | none =>
    obtain ⟨cycles, _, h⟩ := Logged.result_bind_eq_ok.mp h
    obtain ⟨e, he, h⟩ := exists_of_mem_right (forall₂_of_analyzeEach h) ha
    exact ⟨e, cycles, Graph.find?_eq_some.mpr ⟨Graph.mem_sorted.mp he, rfl⟩, h⟩
  | some name =>
    obtain ⟨cycles, e, b, -, he, hb, rfl⟩ := analyzeSchema_some_eq_ok.mp h
    obtain rfl := List.mem_singleton.mp ha
    exact ⟨e, cycles, Graph.find?_eq_some.mpr ⟨(Graph.find?_eq_some.mp he).1, rfl⟩, hb⟩

/-- The analyzer of a graph by the default settings: every join is executed as it is. -/
def byDefault (g : Graph) : Analyzer :=
  { graph := g
    settings := {}
    optimizer :=
      { strategy := .optimized
        capabilities :=
          { adapter := "postgres", version := none, known := true,
            features := [("right_join", true), ("full_outer_join", true),
              ("recursive_ctes", true)] } } }

theorem create_byDefault (g : Graph) : (create g {}).result = .ok (byDefault g) := by
  have hname : Text.lower "postgres" = "postgres" := by decide +kernel
  unfold create Optimizer.create Adapter.Capabilities.get
  rw [hname]
  rfl

end Analyzer

end SchemaJoins
