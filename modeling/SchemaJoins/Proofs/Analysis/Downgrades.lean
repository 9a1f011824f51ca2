import SchemaJoins.Proofs.Adapter.Order
import SchemaJoins.Proofs.Analysis.Joins
import SchemaJoins.Proofs.Analysis.Warnings
import SchemaJoins.Proofs.Data.Entries
import SchemaJoins.Proofs.Relationship.Cycles

/-! # Reporting replaced kinds

A join whose kind the adapter cannot execute is reported by a warning of the
analysis and by a note for an emitter of code. Both tell of exactly the joins
that were downgraded.
-/

namespace SchemaJoins

open Adapter Schema

namespace Analyzer

variable {z : Analyzer} {e : Entity} {f : Fitting} {fs : List Fitting} {mode : LoadStrategy}
  {capabilities : Capabilities}

section Warnings

def isAboutJoin (warning : String) : Bool := "Join ".toList.isPrefixOf warning.toList

theorem isAboutJoin_iff {warning : String} : isAboutJoin warning = true ↔ Starts "Join " warning :=
  List.isPrefixOf_iff_prefix

def downgradeWarning (capabilities : Capabilities) (e : Entity) (f : Fitting) : String :=
  "Join " ++ e.name ++ "." ++ f.fitted.name.display ++ ": " ++ f.built.kind.name ++
    " join is not supported by " ++ capabilities.adapter ++ ", using " ++ f.fitted.kind.name

theorem isAboutJoin_downgradeWarning :
    isAboutJoin (downgradeWarning capabilities e f) = true := by
  -- an equation lemma with all these literals is slow to generate
  delta downgradeWarning
  simp only [String.append_assoc]
  exact isAboutJoin_iff.mpr (starts_append _ _)

theorem kindWarning?_eq (h : f.IsFit mode z.optimizer.capabilities) :
    kindWarning? z e f.fitted = .ok (if f.IsDowngraded then
      some (downgradeWarning z.optimizer.capabilities e f) else none) := by
  rw [kindWarning?, Fitting.replacedKind_of_isFit h]
  by_cases hd : f.IsDowngraded
  · rw [if_pos hd, if_pos hd]
    rfl
  · rw [if_neg hd, if_neg hd]
    rfl

theorem filter_eq_nil_of_starts {warnings : List String}
    (h : ∀ w ∈ warnings, ∃ start, Starts start w ∧ ¬ Starts start "Join " ∧
      ¬ Starts "Join " start) : warnings.filter isAboutJoin = [] := by
  refine List.filter_eq_nil_iff.mpr fun w hw habout => ?_
  obtain ⟨start, hstart, hne, hne'⟩ := h w hw
  exact hstart.not_starts hne hne' (isAboutJoin_iff.mp habout)

theorem filterMap_isDowngraded {α : Type} (g : Fitting → α) :
    (fs.filterMap fun f => if f.IsDowngraded then some (g f) else none) =
      (fs.filter (·.IsDowngraded)).map g := by
  induction fs with
  | nil => rfl
  | cons f fs ih =>
    by_cases hd : f.IsDowngraded
    · simp [hd, ih]
    · simp [hd, ih]

theorem filter_isAboutJoin {rs : List Relationship} {hierarchies : List Hierarchy}
    {cycles : List (List Value)} {warnings : List String}
    (hfs : ∀ f ∈ fs, f.IsFit mode z.optimizer.capabilities)
    (h : z.warningsFor e rs (fs.map (·.fitted)) hierarchies cycles = .ok warnings) :
    warnings.filter isAboutJoin =
      (fs.filter (·.IsDowngraded)).map (downgradeWarning z.optimizer.capabilities e) := by
  obtain ⟨circular, hcircular, h⟩ := bind_eq_ok.mp h
  obtain ⟨junctions, hjunctions, h⟩ := bind_eq_ok.mp h
  obtain ⟨kinds, hkinds, h⟩ := bind_eq_ok.mp h
  cases h
  rw [mapM_map_eq_ok fun f hf => kindWarning?_eq (hfs f hf)] at hkinds
  cases hkinds
  have hcycles : circular.filter isAboutJoin = [] := by
    refine filter_eq_nil_of_starts fun w hw => ?_
    obtain ⟨_, _, hcycle⟩ := mem_of_mapM_eq_ok hcircular hw
    exact ⟨_, starts_cycleWarning hcycle, by decide, by decide⟩
  have hmultiple : (hierarchyWarnings e hierarchies).filter isAboutJoin = [] :=
    filter_eq_nil_of_starts fun w hw => ⟨_, starts_hierarchyWarnings hw, by decide, by decide⟩
  have hrecursion : (recursionWarnings z e hierarchies).filter isAboutJoin = [] :=
    filter_eq_nil_of_starts fun w hw => ⟨_, starts_recursionWarnings hw, by decide, by decide⟩
  have hmissing : (junctions.filterMap id).filter isAboutJoin = [] := by
    refine filter_eq_nil_of_starts fun w hw => ?_
    obtain ⟨found, hfound, rfl⟩ := List.mem_filterMap.mp hw
    obtain ⟨_, _, hjunction⟩ := mem_of_mapM_eq_ok hjunctions hfound
    exact ⟨_, starts_junctionWarning? hjunction, by decide, by decide⟩
  rw [List.filter_append, List.filter_append, List.filter_append, List.filter_append, hcycles,
    hmultiple, hrecursion, hmissing, List.filterMap_map, Function.id_comp, filterMap_isDowngraded]
  refine List.filter_eq_self.mpr fun w hw => ?_
  obtain ⟨_, _, rfl⟩ := List.mem_map.mp hw
  exact isAboutJoin_downgradeWarning

end Warnings

section Notes

def noteOf (adapter : String) (f : Fitting) : Option Value :=
  if f.IsDowngraded then
    some (.text ("Originally " ++ f.built.kind.name ++ ", adapted for " ++ adapter))
  else none

/-- Notes are left out for an adapter that downgrades nothing. -/
theorem replaced_eq (h : f.IsFit mode capabilities) {settings : Settings}
    (hc : (Capabilities.get settings.adapter settings.adapterVersion).result = .ok capabilities) :
    (if settings.adapter == "postgres" then none
      else if f.IsDowngraded then some f.built.kind else none) =
      if f.IsDowngraded then some f.built.kind else none := by
  by_cases hp : settings.adapter = "postgres"
  · rw [hp] at hc
    rw [if_neg (Fitting.not_isDowngraded_of_postgres hc h), ite_self]
  · rw [if_neg (by simpa using hp)]

theorem emitted_eq (h : f.IsFit mode capabilities)
    (hc : (Capabilities.get z.settings.adapter z.settings.adapterVersion).result =
      .ok capabilities) :
    ∃ entry, z.emitted f.fitted = .ok entry ∧
      entry.get? "adapter_note" = .ok (noteOf z.settings.adapter f) := by
  unfold emitted
  rw [Fitting.replacedKind_of_isFit h]
  refine ⟨_, rfl, ?_⟩
  rw [replaced_eq h hc, Value.get?_record, List.find?_append, List.find?_append, noteOf]
  by_cases hd : f.IsDowngraded
  · cases f.fitted.through.filter (!·.isEmpty) <;> simp [hd]
  · cases f.fitted.through.filter (!·.isEmpty) <;> simp [hd]

theorem exists_emit {a : Analysis} (ha : a.joins = fs.map (·.fitted))
    (hfs : ∀ f ∈ fs, f.IsFit mode capabilities)
    (hc : (Capabilities.get z.settings.adapter z.settings.adapterVersion).result =
      .ok capabilities) :
    ∃ entries, z.emit a = .ok entries ∧ List.Forall₂ (fun f entry =>
      entry.1 = f.fitted.name ∧
        entry.2.get? "adapter_note" = .ok (noteOf z.settings.adapter f)) fs entries := by
  rw [emit, ha, List.mapM_map]
  refine exists_mapM_forall₂ fun f hf => ?_
  obtain ⟨entry, hentry, hnote⟩ := emitted_eq (hfs f hf) hc
  refine ⟨(f.fitted.name, entry), ?_, rfl, hnote⟩
  rw [Function.comp_apply, hentry]
  rfl

end Notes

theorem of_create {g : Graph} {settings : Settings} (h : (create g settings).result = .ok z) :
    z.graph = g ∧ z.settings = settings ∧ z.optimizer.strategy = settings.joinStrategy ∧
      (Capabilities.get settings.adapter settings.adapterVersion).result =
        .ok z.optimizer.capabilities := by
  obtain ⟨o, ho, h⟩ := Logged.result_bind_eq_ok.mp h
  cases h
  obtain ⟨capabilities, hc, h⟩ := Logged.result_bind_eq_ok.mp ho
  cases h
  exact ⟨rfl, rfl, rfl, hc⟩

/-- The joins of an analysis are fitted to the adapter; its warnings and the notes that go
out with it tell of those that were downgraded, and of no others. -/
structure TellsOfDowngrades (z : Analyzer) (settings : Settings) (capabilities : Capabilities)
    (e : Entity) (fs : List Fitting) (a : Analysis) : Prop where
  joins : a.joins = fs.map (·.fitted)
  isFit : ∀ f ∈ fs, IsBuilt z.graph e f.relationship f.built ∧
    f.IsFit settings.joinStrategy capabilities
  warnings : a.warnings.filter isAboutJoin =
    (fs.filter (·.IsDowngraded)).map (downgradeWarning capabilities e)
  notes : ∃ entries, z.emit a = .ok entries ∧ List.Forall₂ (fun f entry =>
    entry.1 = f.fitted.name ∧
      entry.2.get? "adapter_note" = .ok (noteOf settings.adapter f)) fs entries

/-- The joins of an entity are those that are built for the first relationship of each name. -/
theorem downgrades_of_analyzeSchema {g : Graph} {settings : Settings} {asked : Option String}
    {as : List Analysis} {a : Analysis} (hz : (create g settings).result = .ok z)
    (has : (z.analyzeSchema asked).result = .ok as) (ha : a ∈ as) :
    z.graph = g ∧ ∃ capabilities e rs fs,
      (Capabilities.get settings.adapter settings.adapterVersion).result = .ok capabilities ∧
      g.find? a.entity = some e ∧ (Relationship.ofEntity g e).result = .ok rs ∧
      fs.map (·.relationship) = rs.eraseDupsBy sameName ∧
      TellsOfDowngrades z settings capabilities e fs a := by
  obtain ⟨rfl, rfl, hmode, hc⟩ := of_create hz
  obtain ⟨e, cycles, he, h⟩ := mem_analyzeSchema has ha
  obtain ⟨hname, rs, built, hierarchies, own, hrs, hbuilt, hfitted, hwarnings⟩ := of_analyzeEntity h
  obtain ⟨fs, hkept, hjoins, hall⟩ := exists_fittings hbuilt hfitted
  have hfit : ∀ f ∈ fs, f.IsFit z.optimizer.strategy z.optimizer.capabilities := fun f hf =>
    Optimizer.isFit_of_optimize (JoinConfig.isUnfitted_of_build (hall f hf).1) (hall f hf).2
  rw [← hjoins] at hwarnings
  rw [← hname] at he
  refine ⟨rfl, z.optimizer.capabilities, e, rs, fs, hc, he, hrs, hkept, hjoins.symm, ?_, ?_, ?_⟩
  · rw [← hmode]
    exact fun f hf => ⟨(hall f hf).1, hfit f hf⟩
  · exact filter_isAboutJoin hfit hwarnings
  · exact exists_emit hjoins.symm hfit hc

def fullJoinLine : Entity :=
  { name := "Line"
    associations := [
      { name := "order", kind := "belongs_to", relatedEntity := "Order",
        joinKind := .text "full" }] }

def fullJoinGraph : Graph := .ofEntities [fullJoinLine]

def mysql : Settings := { adapter := "mysql", adapterVersion := some "5.7" }

def mysqlAnalyzer : Analyzer :=
  { graph := fullJoinGraph
    settings := mysql
    optimizer :=
      { strategy := .optimized
        capabilities :=
          { adapter := "mysql", version := some "5.7", known := true,
            features := [("right_join", true), ("full_outer_join", false),
              ("recursive_ctes", false)] } } }

theorem get_mysql : (Capabilities.get mysql.adapter mysql.adapterVersion).result =
    .ok mysqlAnalyzer.optimizer.capabilities := by
  have hname : Text.lower mysql.adapter = "mysql" := by decide +kernel
  have hbelow : Version.compare [5, 7] [8, 0] = .lt := by
    rw [Version.compare]
    rfl
  have hctes : versionSatisfies (some "5.7") ">= 8.0" = pure false := by
    have hrequirement : Requirement.parse? ">= 8.0" = some ⟨.atLeast, ['8', '.', '0']⟩ := rfl
    have hgiven : Version.parse "5.7" = .ok [5, 7] := rfl
    have hwanted : Version.parse (String.ofList ['8', '.', '0']) = .ok [8, 0] := rfl
    rw [versionSatisfies_of_parse hrequirement hgiven hwanted, hbelow]
    rfl
  have hfeatures : Capabilities.resolveAll (some "5.7")
      [("right_join", .fixed true), ("full_outer_join", .fixed false),
        ("recursive_ctes", .when ">= 8.0")] =
      pure mysqlAnalyzer.optimizer.capabilities.features := by
    simp only [Capabilities.resolveAll, Capabilities.resolve, hctes]
    rfl
  unfold Capabilities.get
  rw [hname]
  exact Logged.result_bind_eq_ok.mpr ⟨_, congrArg Logged.result hfeatures, rfl⟩

def lineRelationship : Relationship :=
  ⟨.text "order", .text "Line", .text "Order", [], .direct .belongsTo ["order_id"] ["id"]⟩

def lineJoin : JoinConfig :=
  { name := .text "order"
    kind := .full
    target := .text "Order"
    conditions := [(.text "order_id", .text "id")]
    metadata := [("cardinality", .text "belongs_to"), ("foreign_key", .text "order_id"),
      ("owner_key", .text "order_id")] }

def lineAnalysis : Analysis :=
  { entity := "Line"
    joins := [{ lineJoin with
      kind := .left
      strategy := .eager
      metadata := lineJoin.metadata ++ [("original_kind", .text "full")] }]
    relationships := [(.direct .belongsTo, [.text "order"])]
    hierarchies := [], dimensions := [], junctions := [], cycles := []
    warnings := ["Join Line.order: full join is not supported by mysql, using left"]
    suggestions := ["Consider adding index on Line.order_id"] }

theorem downgrades_of_analyzeSchema_fullJoin :
    (create fullJoinGraph mysql).result = .ok mysqlAnalyzer ∧
    (mysqlAnalyzer.analyzeSchema (some "Line")).result = .ok [lineAnalysis] ∧
    lineAnalysis ∈ [lineAnalysis] ∧
    mysqlAnalyzer.graph = fullJoinGraph ∧ ∃ capabilities e rs fs,
      (Capabilities.get mysql.adapter mysql.adapterVersion).result = .ok capabilities ∧
      fullJoinGraph.find? lineAnalysis.entity = some e ∧
      (Relationship.ofEntity fullJoinGraph e).result = .ok rs ∧
      fs.map (·.relationship) = rs.eraseDupsBy sameName ∧
      TellsOfDowngrades mysqlAnalyzer mysql capabilities e fs lineAnalysis := by
  have hz : (create fullJoinGraph mysql).result = .ok mysqlAnalyzer :=
    Logged.result_bind_eq_ok.mpr ⟨_, Logged.result_bind_eq_ok.mpr ⟨_, get_mysql, rfl⟩, rfl⟩
  have hsorted : mysqlAnalyzer.graph.sorted = [fullJoinLine] :=
    Graph.sorted_eq (.refl _) (List.pairwise_singleton _ _)
  have hfound : Relationship.cycles 3 false [lineRelationship] = .ok [] :=
    (Relationship.cycles_of_pairwise rfl (List.pairwise_singleton _ _)).trans rfl
  have hcycles : mysqlAnalyzer.cyclesIfWanted.result = .ok [] :=
    cyclesIfWanted_of_sorted rfl hsorted hfound rfl
  have hline : (mysqlAnalyzer.analyzeEntity [] fullJoinLine).result = .ok lineAnalysis := by
    refine analyzeEntity_eq_ok.mpr
      ⟨[lineRelationship], rfl, rfl, ⟨[lineJoin], rfl, rfl⟩, rfl, rfl, ?_, rfl, rfl, rfl, rfl⟩
    rw [Dimension.detect, Dimension.companion?, Graph.findByName?, hsorted]
    rfl
  have has : (mysqlAnalyzer.analyzeSchema (some "Line")).result = .ok [lineAnalysis] :=
    analyzeSchema_some_eq_ok.mpr ⟨[], fullJoinLine, lineAnalysis, hcycles, rfl, hline, rfl⟩
  have ha : lineAnalysis ∈ [lineAnalysis] := List.mem_singleton_self _
  exact ⟨hz, has, ha, downgrades_of_analyzeSchema hz has ha⟩

end Analyzer

end SchemaJoins
