import SchemaJoins.Proofs.Analysis.Locality
import SchemaJoins.Proofs.Analysis.Summaries

/-! # One more association

An association that is added at the end of those of an entity adds at most one member
at the end of each list in the analysis of the entity. What was there before is still
there: names are resolved to the first that fits, and the first is an old one wherever
there is an old one.
-/

namespace SchemaJoins

open Schema

def GrowsByOne {α : Type} (xs ys : List α) : Prop := ∃ added : Option α, ys = xs ++ added.toList

namespace GrowsByOne

variable {α β : Type} {xs ys : List α}

theorem refl (xs : List α) : GrowsByOne xs xs := ⟨none, (List.append_nil xs).symm⟩

theorem append_singleton (xs : List α) (x : α) : GrowsByOne xs (xs ++ [x]) := ⟨some x, rfl⟩

theorem filterMap (f : α → Option β) (h : GrowsByOne xs ys) :
    GrowsByOne (xs.filterMap f) (ys.filterMap f) := by
  obtain ⟨_ | x, rfl⟩ := h
  · rw [Option.toList_none, List.append_nil]
    exact refl _
  · refine ⟨f x, ?_⟩
    rw [List.filterMap_append, Option.toList_some]
    cases hx : f x <;> simp [hx]

theorem map (f : α → β) (h : GrowsByOne xs ys) : GrowsByOne (xs.map f) (ys.map f) := by
  rw [← List.filterMap_eq_map]
  exact h.filterMap _

theorem filter (p : α → Bool) (h : GrowsByOne xs ys) : GrowsByOne (xs.filter p) (ys.filter p) := by
  rw [← List.filterMap_eq_filter]
  exact h.filterMap _

theorem mapM {f : α → Except Fault β} {us vs : List β} (h : GrowsByOne xs ys)
    (hxs : xs.mapM f = .ok us) (hys : ys.mapM f = .ok vs) : GrowsByOne us vs := by
  obtain ⟨added, rfl⟩ := h
  rw [List.mapM_append] at hys
  obtain ⟨_, hxs', hys⟩ := bind_eq_ok.mp hys
  obtain ⟨ws, hws, hys⟩ := bind_eq_ok.mp hys
  obtain rfl := Except.ok.inj (hxs'.symm.trans hxs)
  cases hys
  cases added with
  | none =>
    cases hws
    exact ⟨none, rfl⟩
  | some x =>
    obtain ⟨w, _, -, hnil, rfl⟩ := List.forall₂_cons_left_iff.mp (mapM_eq_ok.mp hws)
    obtain rfl := List.forall₂_nil_left_iff.mp hnil
    exact append_singleton _ w

theorem eraseDups [BEq α] [LawfulBEq α] (h : GrowsByOne xs ys) : xs.eraseDups <+: ys.eraseDups := by
  obtain ⟨added, rfl⟩ := h
  rw [List.eraseDups_append]
  exact List.prefix_append _ _

end GrowsByOne

namespace Schema

variable {e : Entity} {added : Association} {name : String}

def Entity.withAssociation (e : Entity) (added : Association) : Entity :=
  { e with associations := e.associations ++ [added] }

namespace Graph

def extended (name : String) (added : Association) (e : Entity) : Entity :=
  if e.name = name then e.withAssociation added else e

@[simp] theorem name_extended : (extended name added e).name = e.name := by
  unfold extended
  split <;> rfl

@[simp] theorem fieldNames_extended : (extended name added e).fieldNames = e.fieldNames := by
  unfold extended
  split <;> rfl

@[simp] theorem primaryKey_extended : (extended name added e).primaryKey = e.primaryKey := by
  unfold extended
  split <;> rfl

def withAssociation (g : Graph) (name : String) (added : Association) : Graph where
  entities := g.entities.map (extended name added)
  nodup := by
    simpa only [List.map_map, Function.comp_def, name_extended] using g.nodup

variable {g : Graph}

theorem find?_withAssociation (other : String) :
    (g.withAssociation name added).find? other = (g.find? other).map (extended name added) := by
  simp only [find?, withAssociation, List.find?_map, Function.comp_def, name_extended]

theorem sameFields_withAssociation (v : Value) :
    (g.withAssociation name added).SameFields g v := by
  intro other _
  simp only [find?_withAssociation, Option.map_map, Function.comp_def, fieldNames_extended]

end Graph

end Schema

namespace Relationship

variable {g : Graph} {e : Entity} {a added : Association} {name : String}

theorem relatedPrimaryKey_withAssociation :
    relatedPrimaryKey (g.withAssociation name added) a = relatedPrimaryKey g a := by
  simp only [relatedPrimaryKey, Graph.find?_withAssociation, Option.map_map, Function.comp_def,
    Graph.primaryKey_extended]

theorem classifyAssociation_withAssociation :
    classifyAssociation (g.withAssociation name added) (e.withAssociation added) a =
      classifyAssociation g e a := by
  rw [classifyAssociation_congr relatedPrimaryKey_withAssociation]
  rfl

def given? (g : Graph) (e : Entity) (a : Association) : Option Relationship :=
  (classifyAssociation g e a).result.toOption.join

theorem result_classifyEach : (as : List Association) →
    (classifyEach g e as).result = .ok (as.filterMap (given? g e))
  | [] => rfl
  | a :: as => by
    obtain ⟨found, hfound⟩ := exists_classifyAssociation g e a
    refine Logged.result_bind_eq_ok.mpr
      ⟨found, hfound, Logged.result_bind_eq_ok.mpr ⟨_, result_classifyEach as, ?_⟩⟩
    have hgiven : given? g e a = found := by
      rw [given?, hfound]
      rfl
    rw [List.filterMap_cons, hgiven]
    cases found <;> rfl

theorem growsByOne_ofEntity {rs rs' : List Relationship} (hrs : (ofEntity g e).result = .ok rs)
    (hrs' : (ofEntity (g.withAssociation name added) (e.withAssociation added)).result = .ok rs') :
    GrowsByOne rs rs' := by
  have hgiven : given? (g.withAssociation name added) (e.withAssociation added) = given? g e := by
    funext a
    rw [given?, classifyAssociation_withAssociation, given?]
  rw [ofEntity, result_classifyEach] at hrs hrs'
  rw [hgiven] at hrs'
  cases hrs
  cases hrs'
  exact (GrowsByOne.append_singleton e.associations added).filterMap _

end Relationship

namespace Analyzer

variable {z : Analyzer} {e : Entity} {added : Association} {r : Relationship}
  {rs more : List Relationship}

/-- A name that an association has had already is resolved to the same association. -/
theorem askedKind_withAssociation (added : Association)
    (h : ∃ a ∈ e.associations, r.name = .text a.name) :
    askedKind (e.withAssociation added) r = askedKind e r := by
  obtain ⟨a, ha, hname⟩ := h
  have hfound : (e.association? r.name.display).isSome = true := by
    rw [hname]
    exact List.find?_isSome.mpr ⟨a, ha, beq_self_eq_true _⟩
  obtain ⟨first, hfirst⟩ := Option.isSome_iff_exists.mp hfound
  have hsame : (e.withAssociation added).association? r.name.display = some first := by
    rw [Entity.association?, Entity.withAssociation, List.find?_append]
    exact (congrArg (Option.or · _) hfirst).trans (Option.some_or ..)
  rw [askedKind, hsame, askedKind, hfirst]

theorem defaultJoins_withAssociation (added : Association)
    (h : ∀ r ∈ rs, ∃ a ∈ e.associations, r.name = .text a.name) (taken : List Value) :
    z.defaultJoins (e.withAssociation added) taken rs = z.defaultJoins e taken rs := by
  induction rs generalizing taken with
  | nil => rfl
  | cons r rs ih =>
    obtain ⟨hr, hrs⟩ := List.forall_mem_cons.mp h
    have hasked := askedKind_withAssociation added hr
    rw [askedKind, askedKind] at hasked
    rw [defaultJoins, defaultJoins]
    simp only [ih hrs, hasked]
    rfl

theorem exists_of_defaultJoins_append {taken : List Value} {cs : List JoinConfig}
    (h : (z.defaultJoins e taken (rs ++ more)).result = .ok cs) : ∃ first rest,
      (z.defaultJoins e taken rs).result = .ok first ∧
      (z.defaultJoins e (taken ++ first.map (·.name)) more).result = .ok rest ∧
      cs = first ++ rest := by
  induction rs generalizing taken cs with
  | nil => exact ⟨[], cs, rfl, by simpa using h, rfl⟩
  | cons r rs ih =>
    rw [List.cons_append, defaultJoins] at h
    rw [defaultJoins]
    cases hr : taken.any (Value.sameKey r.name) with
    | true =>
      rw [hr] at h
      obtain ⟨_, -, h⟩ := Logged.result_bind_eq_ok.mp h
      obtain ⟨first, rest, hfirst, hrest, rfl⟩ := ih h
      exact ⟨first, rest, Logged.result_bind_eq_ok.mpr ⟨(), rfl, hfirst⟩, hrest, rfl⟩
    | false =>
      rw [hr] at h
      obtain ⟨c, hc, h⟩ := Logged.result_bind_eq_ok.mp h
      obtain ⟨others, hothers, h⟩ := Logged.result_bind_eq_ok.mp h
      cases h
      obtain ⟨first, rest, hfirst, hrest, rfl⟩ := ih hothers
      refine ⟨c :: first, rest, ?_, ?_, rfl⟩
      · exact Logged.result_bind_eq_ok.mpr
          ⟨c, hc, Logged.result_bind_eq_ok.mpr ⟨first, hfirst, rfl⟩⟩
      · rw [List.map_cons, (JoinConfig.isUnfitted_of_build hc).name]
        simpa using hrest

theorem exists_of_defaultJoins_append_toList {found : Option Relationship} {taken : List Value}
    {cs cs' : List JoinConfig} (h : (z.defaultJoins e taken rs).result = .ok cs)
    (h' : (z.defaultJoins e taken (rs ++ found.toList)).result = .ok cs') :
    ∃ new : Option JoinConfig, cs' = cs ++ new.toList ∧
      ∀ c ∈ new, (taken ++ cs.map (·.name)).any (Value.sameKey c.name) = false := by
  obtain ⟨_, rest, hcs, hrest, rfl⟩ := exists_of_defaultJoins_append h'
  obtain rfl := Except.ok.inj (h.symm.trans hcs)
  cases found with
  | none =>
    cases hrest
    exact ⟨none, rfl, nofun⟩
  | some r =>
    rw [Option.toList_some, defaultJoins] at hrest
    cases hr : (taken ++ cs.map (·.name)).any (Value.sameKey r.name) with
    | true =>
      rw [hr] at hrest
      cases hrest
      exact ⟨none, rfl, nofun⟩
    | false =>
      rw [hr] at hrest
      obtain ⟨c, hc, hrest⟩ := Logged.result_bind_eq_ok.mp hrest
      cases hrest
      refine ⟨some c, rfl, fun d hd => ?_⟩
      cases hd
      rwa [(JoinConfig.isUnfitted_of_build hc).name]

end Analyzer

namespace Hierarchy

variable {e : Entity} {rs rs' : List Relationship} {hs hs' : List Hierarchy} {added : Association}

theorem exists_mapM_of_ofRelationships (h : ofRelationships e rs = .ok hs) :
    ∃ found, rs.mapM (describe? e) = .ok found ∧ found.filterMap id = hs := by
  induction rs generalizing hs with
  | nil =>
    cases h
    exact ⟨[], rfl, rfl⟩
  | cons r rs ih =>
    obtain ⟨first, hfirst, h⟩ := bind_eq_ok.mp h
    obtain ⟨rest, hrest, h⟩ := bind_eq_ok.mp h
    cases h
    obtain ⟨found, hfound, rfl⟩ := ih hrest
    refine ⟨first :: found, ?_, ?_⟩
    · rw [List.mapM_cons, hfirst, hfound]
      rfl
    · cases first <;> rfl

theorem growsByOne_ofRelationships (hgrows : GrowsByOne rs rs')
    (h : ofRelationships e rs = .ok hs)
    (h' : ofRelationships (e.withAssociation added) rs' = .ok hs') : GrowsByOne hs hs' := by
  obtain ⟨found, hfound, rfl⟩ := exists_mapM_of_ofRelationships h
  obtain ⟨found', hfound', rfl⟩ := exists_mapM_of_ofRelationships h'
  exact (hgrows.mapM hfound hfound').filterMap id

end Hierarchy

namespace Analysis

variable {rs rs' : List Relationship}

theorem growsByOne_categorize (h : GrowsByOne rs rs') :
    GrowsByOne ((categorize rs).map (·.1)) ((categorize rs').map (·.1)) := by
  obtain ⟨_ | r, rfl⟩ := h
  · rw [Option.toList_none, List.append_nil]
    exact .refl _
  · rw [Option.toList_some, categorize_append_singleton, map_fst_addName]
    split
    · exact .refl _
    · exact .append_singleton _ _

theorem growsByOne_junctionsOf (h : GrowsByOne rs rs') :
    GrowsByOne (junctionsOf rs) (junctionsOf rs') := by
  obtain ⟨_ | r, rfl⟩ := h
  · rw [Option.toList_none, List.append_nil]
    exact .refl _
  · rw [Option.toList_some, junctionsOf_append_singleton]
    cases r.junction? with
    | none => exact .refl _
    | some j =>
      dsimp only
      split
      · exact .refl _
      · exact .append_singleton _ _

/-- The second analysis tells all that the first does, and at most one thing more of
each kind. -/
structure GrowsTo (a a' : Analysis) : Prop where
  joins : ∃ new : Option JoinConfig, a'.joins = a.joins ++ new.toList ∧
    ∀ c ∈ new, c.name ∉ a.joins.map (·.name)
  cardinalities : GrowsByOne (a.relationships.map (·.1)) (a'.relationships.map (·.1))
  names : ∀ c, GrowsByOne (a.namesUnder c) (a'.namesUnder c)
  hierarchies : GrowsByOne a.hierarchies a'.hierarchies
  junctions : GrowsByOne a.junctions a'.junctions
  suggestions : a.suggestions <+: a'.suggestions

end Analysis

namespace Analyzer

variable {z z' : Analyzer} {e : Entity} {added : Association} {a a' : Analysis}
  {rs rs' : List Relationship} {name : String}

theorem prefix_suggestionsFor {joins joins' : List JoinConfig}
    {suggestions suggestions' : List String} (hjoins : GrowsByOne joins joins')
    (h : suggestionsFor e joins = .ok suggestions)
    (h' : suggestionsFor e joins' = .ok suggestions') : suggestions <+: suggestions' := by
  obtain ⟨keys, hkeys, h⟩ := bind_eq_ok.mp h
  obtain ⟨keys', hkeys', h'⟩ := bind_eq_ok.mp h'
  cases h
  cases h'
  exact (((hjoins.mapM hkeys hkeys').filterMap id).map (suggestion e)).eraseDups

theorem growsByOne_joins {built built' joins joins' : List JoinConfig} {found : Option Relationship}
    {o : Optimizer} (h : (z.defaultJoins e [] rs).result = .ok built)
    (h' : (z.defaultJoins e [] (rs ++ found.toList)).result = .ok built')
    (hfitted : o.optimizeAll built = .ok joins) (hfitted' : o.optimizeAll built' = .ok joins') :
    ∃ new : Option JoinConfig, joins' = joins ++ new.toList ∧
      ∀ c ∈ new, (joins.map (·.name)).any (Value.sameKey c.name) = false := by
  obtain ⟨asked, rfl, hnew⟩ := exists_of_defaultJoins_append_toList h h'
  have hnames := Optimizer.map_name_optimizeAll hfitted
  have hnames' := Optimizer.map_name_optimizeAll hfitted'
  obtain ⟨new, rfl⟩ := GrowsByOne.mapM ⟨asked, rfl⟩ hfitted hfitted'
  rw [List.map_append, List.map_append, hnames] at hnames'
  have hsame := List.append_cancel_left hnames'
  refine ⟨new, rfl, fun c hc => ?_⟩
  obtain ⟨d, hd, hname⟩ := List.mem_map.mp (hsame ▸ List.mem_map_of_mem (Option.mem_toList.mpr hc))
  rw [hnames, ← hname]
  exact hnew d (Option.mem_toList.mp hd)

theorem growsTo_of_isAnalysis {cycles cycles' : List (List Value)}
    (hgraph : z'.graph = z.graph.withAssociation name added)
    (hoptimizer : z'.optimizer = z.optimizer)
    (h : IsAnalysis z cycles e rs a) (h' : IsAnalysis z' cycles' (e.withAssociation added) rs' a') :
    a.GrowsTo a' := by
  have hclassified := h'.classified
  rw [hgraph] at hclassified
  have hgrows := Relationship.growsByOne_ofEntity h.classified hclassified
  obtain ⟨again, hsummary, -⟩ := exists_isSummary h
  obtain ⟨again', hsummary', -⟩ := exists_isSummary h'
  have hjoins : ∃ new : Option JoinConfig, a'.joins = a.joins ++ new.toList ∧
      ∀ c ∈ new, (a.joins.map (·.name)).any (Value.sameKey c.name) = false := by
    obtain ⟨built, hbuilt, hfitted⟩ := h.joins
    obtain ⟨built', hbuilt', hfitted'⟩ := h'.joins
    obtain ⟨found, rfl⟩ := hgrows
    have hnamed : ∀ r ∈ rs, ∃ a ∈ e.associations, r.name = .text a.name := by
      intro r hr
      obtain ⟨a, ha, hclassified⟩ := (Relationship.mem_classifyEach h.classified).mp hr
      obtain ⟨_, rfl⟩ := Relationship.along_of_classifyAssociation hclassified
      exact ⟨a, ha, rfl⟩
    rw [← defaultJoins_withAssociation added hnamed] at hbuilt
    have hsame : ∀ r ∈ rs ++ found.toList, r.SameJunction z'.graph z.graph :=
      fun r _ junction _ => hgraph ▸ Graph.sameFields_withAssociation junction
    rw [defaultJoins_congr hsame] at hbuilt'
    rw [hoptimizer] at hfitted'
    exact growsByOne_joins hbuilt hbuilt' hfitted hfitted'
  obtain ⟨new, hnew, hnames⟩ := hjoins
  refine ⟨⟨new, hnew, fun c hc hmem => ?_⟩, ?_, fun c => ?_, ?_, ?_, ?_⟩
  · obtain ⟨r, hr, hname⟩ := List.mem_map.mp (hsummary.joins.sublist.subset hmem)
    obtain ⟨s, hs⟩ := Relationship.isText_name_of_ofEntity h.classified r hr
    refine List.any_eq_false.mp (hnames c hc) c.name hmem ?_
    rw [← hname, hs]
    exact beq_self_eq_true s
  · rw [h.relationships, h'.relationships]
    exact Analysis.growsByOne_categorize hgrows
  · rw [Analysis.namesUnder, hsummary.relationships.lookup, Analysis.namesUnder,
      hsummary'.relationships.lookup]
    exact (hgrows.filter _).map _
  · exact Hierarchy.growsByOne_ofRelationships hgrows h.hierarchies h'.hierarchies
  · rw [h.junctions, h'.junctions]
    exact Analysis.growsByOne_junctionsOf hgrows
  · exact prefix_suggestionsFor ⟨new, hnew⟩ h.suggestions h'.suggestions

/-- An association that is added at the end of those of an entity disturbs nothing that the
analysis of the entity told before: it adds at most one thing of each kind, at the end. -/
theorem growsTo_of_withAssociation {g : Graph} {settings : Settings}
    (hz : (create g settings).result = .ok z)
    (hz' : (create (g.withAssociation name added) settings).result = .ok z')
    {asked asked' : Option String} {as as' : List Analysis}
    (has : (z.analyzeSchema asked).result = .ok as)
    (has' : (z'.analyzeSchema asked').result = .ok as')
    (ha : a ∈ as) (ha' : a' ∈ as') (hname : a.entity = name) (hname' : a'.entity = name) :
    a.GrowsTo a' := by
  obtain ⟨optimizer, hoptimizer, hz⟩ := Logged.result_bind_eq_ok.mp hz
  obtain ⟨optimizer', hoptimizer', hz'⟩ := Logged.result_bind_eq_ok.mp hz'
  cases hz
  cases hz'
  obtain ⟨e, cycles, he, h⟩ := mem_analyzeSchema has ha
  obtain ⟨e', cycles', he', h'⟩ := mem_analyzeSchema has' ha'
  obtain ⟨rs, h⟩ := analyzeEntity_eq_ok.mp h
  obtain ⟨rs', h'⟩ := analyzeEntity_eq_ok.mp h'
  rw [← h.entity, hname] at he
  rw [← h'.entity, hname', Graph.find?_withAssociation, he, Option.map_some] at he'
  obtain rfl : e.withAssociation added = e' := by
    rw [← Option.some.inj he', Graph.extended, if_pos (h.entity.symm.trans hname)]
  exact growsTo_of_isAnalysis rfl (Except.ok.inj (hoptimizer'.symm.trans hoptimizer)) h h'

def topicsAnalyzer : Analyzer :=
  byDefault ((Graph.ofEntities [item]).withAssociation "Item" (tagging "topics"))

def topicsAnalysis : Analysis :=
  { itemAnalysis with
    joins := itemAnalysis.joins ++ [taggingJoin "topics"]
    relationships := [(.selfReference, [.text "parent", .text "parent"]),
      (.manyToMany, [.text "tags", .text "labels", .text "topics"])]
    warnings := itemAnalysis.warnings ++
      ["Junction entity 'item_tags' of Item.topics is not part of the schema graph"] }

theorem analyzeSchema_topics :
    (topicsAnalyzer.analyzeSchema (some "Item")).result = .ok [topicsAnalysis] := by
  have hsorted : topicsAnalyzer.graph.sorted = [item.withAssociation (tagging "topics")] :=
    Graph.sorted_eq (.refl _) (List.pairwise_singleton _ _)
  have hfound : Relationship.cycles 3 false
      (itemRelationships ++ [taggingRelationship "topics"]) = .ok [] :=
    (Relationship.cycles_of_pairwise rfl .nil).trans rfl
  have hcycles : topicsAnalyzer.cyclesIfWanted.result = .ok [] :=
    cyclesIfWanted_of_sorted rfl hsorted hfound rfl
  have hitem : (topicsAnalyzer.analyzeEntity [] (item.withAssociation (tagging "topics"))).result =
      .ok topicsAnalysis := by
    refine analyzeEntity_eq_ok.mpr ⟨itemRelationships ++ [taggingRelationship "topics"], rfl, rfl,
      ⟨_, rfl, rfl⟩, rfl, rfl, ?_, rfl, rfl, rfl, rfl⟩
    rw [Dimension.detect, Dimension.companion?, Graph.findByName?, hsorted]
    rfl
  exact analyzeSchema_some_eq_ok.mpr ⟨[], _, topicsAnalysis, hcycles, rfl, hitem, rfl⟩

theorem growsTo_of_withAssociation_topics :
    (create (.ofEntities [item]) {}).result = .ok itemAnalyzer ∧
    (create ((Graph.ofEntities [item]).withAssociation "Item" (tagging "topics")) {}).result =
      .ok topicsAnalyzer ∧
    ∃ as as' a a', (itemAnalyzer.analyzeSchema (some "Item")).result = .ok as ∧
      (topicsAnalyzer.analyzeSchema (some "Item")).result = .ok as' ∧
      a ∈ as ∧ a' ∈ as' ∧ a.entity = "Item" ∧ a'.entity = "Item" ∧ a.GrowsTo a' := by
  refine ⟨create_byDefault _, create_byDefault _, _, _, _, _, analyzeSchema_item,
    analyzeSchema_topics, List.mem_singleton_self _, List.mem_singleton_self _, rfl, rfl, ?_⟩
  exact growsTo_of_withAssociation (create_byDefault _) (create_byDefault _) analyzeSchema_item
    analyzeSchema_topics (List.mem_singleton_self _) (List.mem_singleton_self _) rfl rfl

end Analyzer

end SchemaJoins
