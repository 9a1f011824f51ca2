import SchemaJoins.Proofs.Analysis.Joins
import SchemaJoins.Proofs.Data.Once
import SchemaJoins.Proofs.Relationship.Accounting
import SchemaJoins.Proofs.Relationship.Cycles
import SchemaJoins.Proofs.Relationship.Hierarchies
import SchemaJoins.Proofs.Text.Starts

/-! # The summaries of an analysis

Joins, names by cardinality, hierarchies and junctions of an analysis are made by loops of
their own, each with its own rule for what comes again. All of them go over one list of
relationships, and none of them drops a relationship or counts one twice. What the joins
leave out is told in the log, once for each relationship.
-/

namespace SchemaJoins

open Schema

namespace Analysis

variable {c : Cardinality} {name : Value} {table : List (Cardinality × List Value)}
  {rs : List Relationship} {r : Relationship}

section Names

theorem map_fst_addName : (addName c name table).map (·.1) =
    if c ∈ table.map (·.1) then table.map (·.1) else table.map (·.1) ++ [c] := by
  induction table with
  | nil => rfl
  | cons entry table ih =>
    rw [addName]
    by_cases hc : entry.1 = c
    · rw [if_pos hc, if_pos (List.mem_map.mpr ⟨entry, List.mem_cons_self, hc⟩)]
      rfl
    · rw [if_neg hc, List.map_cons, List.map_cons, ih]
      have hmem : c ∈ entry.1 :: table.map (·.1) ↔ c ∈ table.map (·.1) := by
        rw [List.mem_cons, or_iff_right (Ne.symm hc)]
      simp only [hmem]
      split <;> rfl

theorem mem_addName (hdistinct : (table.map (·.1)).Nodup) {entry : Cardinality × List Value}
    (h : entry ∈ addName c name table) :
    entry = (c, (table.lookup c).getD [] ++ [name]) ∨ entry.1 ≠ c ∧ entry ∈ table := by
  induction table with
  | nil => exact .inl (List.mem_singleton.mp h)
  | cons first table ih =>
    obtain ⟨hfirst, hrest⟩ := List.nodup_cons.mp hdistinct
    rw [addName] at h
    by_cases hc : first.1 = c
    · subst hc
      rw [if_pos rfl] at h
      rw [List.lookup_cons_self]
      refine (List.mem_cons.mp h).imp id fun hentry => ?_
      exact ⟨fun he => hfirst (List.mem_map.mpr ⟨entry, hentry, he⟩), List.mem_cons_of_mem _ hentry⟩
    · rw [if_neg hc] at h
      have hlookup : (first :: table).lookup c = table.lookup c := by
        rw [List.lookup_cons, beq_false_of_ne (Ne.symm hc)]
      rw [hlookup]
      obtain rfl | hentry := List.mem_cons.mp h
      · exact .inr ⟨hc, List.mem_cons_self⟩
      · exact (ih hrest hentry).imp id fun h => ⟨h.1, List.mem_cons_of_mem _ h.2⟩

theorem length_names_addName :
    ((addName c name table).flatMap (·.2)).length = (table.flatMap (·.2)).length + 1 := by
  induction table with
  | nil => rfl
  | cons entry table ih =>
    rw [addName]
    split
    · simp only [List.flatMap_cons, List.length_append, List.length_singleton]
      omega
    · simp only [List.flatMap_cons, List.length_append, ih]
      omega

def namesUnder (a : Analysis) (c : Cardinality) : List Value := (a.relationships.lookup c).getD []

structure IsTable (rs : List Relationship) (table : List (Cardinality × List Value)) : Prop where
  cardinalities : ∃ again,
    KeepsFirsts (· == ·) (rs.map (·.cardinality)) (table.map (·.1)) again
  names : ∀ entry ∈ table, entry.2 = (rs.filter (·.cardinality = entry.1)).map (·.name)
  total : (table.flatMap (·.2)).length = rs.length

theorem IsTable.nodup (h : IsTable rs table) : (table.map (·.1)).Nodup := by
  obtain ⟨again, hkeeps⟩ := h.cardinalities
  exact hkeeps.distinct.imp fun hne he => by simp [he] at hne

theorem IsTable.mem_iff (h : IsTable rs table) :
    c ∈ table.map (·.1) ↔ ∃ r ∈ rs, r.cardinality = c := by
  obtain ⟨again, hkeeps⟩ := h.cardinalities
  rw [← List.mem_map]
  refine ⟨fun hc => hkeeps.sublist.subset hc, fun hc => ?_⟩
  obtain hkept | ⟨d, hd, hsame⟩ := hkeeps.covers hc
  · exact hkept
  · exact eq_of_beq hsame ▸ hd

theorem IsTable.lookup (h : IsTable rs table) (c : Cardinality) :
    (table.lookup c).getD [] = (rs.filter (·.cardinality = c)).map (·.name) := by
  cases hc : table.lookup c with
  | some names =>
    obtain ⟨before, after, rfl, -⟩ := List.lookup_eq_some_iff.mp hc
    exact h.names (c, names) (by simp)
  | none =>
    have hnone : rs.filter (·.cardinality = c) = [] := by
      refine List.filter_eq_nil_iff.mpr fun r hr hrc => ?_
      obtain ⟨entry, hentry, he⟩ := List.mem_map.mp (h.mem_iff.mpr ⟨r, hr, of_decide_eq_true hrc⟩)
      exact absurd he.symm (bne_iff_ne.mp (List.lookup_eq_none_iff.mp hc entry hentry))
    rw [hnone]
    rfl

theorem IsTable.addName (h : IsTable rs table) (r : Relationship) :
    IsTable (rs ++ [r]) (addName r.cardinality r.name table) := by
  have hnames (c : Cardinality) : ((rs ++ [r]).filter (·.cardinality = c)).map (·.name) =
      (rs.filter (·.cardinality = c)).map (·.name) ++
        if r.cardinality = c then [r.name] else [] := by
    rw [List.filter_append, List.map_append]
    by_cases hc : r.cardinality = c <;> simp [hc]
  constructor
  · obtain ⟨again, hkeeps⟩ := h.cardinalities
    have hmore := hkeeps.append_singleton r.cardinality
    simp only [List.any_beq, List.contains_iff_mem] at hmore
    exact ⟨_, by rwa [map_fst_addName, List.map_append]⟩
  · intro entry hentry
    rw [hnames]
    obtain rfl | ⟨hc, hentry⟩ := mem_addName h.nodup hentry
    · rw [if_pos rfl, h.lookup]
    · rw [if_neg (Ne.symm hc), List.append_nil, h.names entry hentry]
  · rw [length_names_addName, h.total, List.length_append, List.length_singleton]

theorem categorize_append_singleton (rs : List Relationship) (r : Relationship) :
    categorize (rs ++ [r]) = Analysis.addName r.cardinality r.name (categorize rs) :=
  List.foldl_append

theorem isTable_categorize (rs : List Relationship) : IsTable rs (categorize rs) := by
  induction rs using List.reverseRecOn with
  | nil => exact ⟨⟨[], .nil⟩, nofun, rfl⟩
  | append_singleton rs r ih =>
    rw [categorize_append_singleton]
    exact ih.addName r

end Names

section Junctions

theorem junctionsOf_append_singleton (rs : List Relationship) (r : Relationship) :
    junctionsOf (rs ++ [r]) = match r.junction? with
      | some j =>
          if (junctionsOf rs).any (Value.sameKey j) then junctionsOf rs else junctionsOf rs ++ [j]
      | none => junctionsOf rs := List.foldl_append

theorem keepsFirsts_junctionsOf (rs : List Relationship) : ∃ again,
    KeepsFirsts Value.sameKey (rs.filterMap (·.junction?)) (junctionsOf rs) again := by
  induction rs using List.reverseRecOn with
  | nil => exact ⟨[], .nil⟩
  | append_singleton rs r ih =>
    obtain ⟨again, hkeeps⟩ := ih
    rw [junctionsOf_append_singleton, List.filterMap_append]
    cases hr : r.junction? with
    | none => exact ⟨again, by simpa [hr] using hkeeps⟩
    | some j => exact ⟨_, by simpa [hr] using hkeeps.append_singleton j⟩

end Junctions

section Hierarchies

theorem map_association_describe? {e : Entity} {found : Option Hierarchy}
    (h : Hierarchy.describe? e r = .ok found) : found.toList.map (·.association) =
      if r.cardinality = .selfReference then [r.name] else [] := by
  unfold Hierarchy.describe? at h
  split at h
  · rename_i hshape
    obtain ⟨roles, _, h⟩ := bind_eq_ok.mp h
    cases h
    rw [Relationship.cardinality, hshape]
    rfl
  · rename_i hshape
    cases h
    refine (if_neg fun hself => ?_).symm
    unfold Relationship.cardinality at hself
    split at hself
    · cases hself
    · cases hself
    · exact hshape _ _ _ _ ‹_›

theorem map_association_ofRelationships {e : Entity} {hs : List Hierarchy}
    (h : Hierarchy.ofRelationships e rs = .ok hs) :
    hs.map (·.association) = (rs.filter (·.cardinality = .selfReference)).map (·.name) := by
  induction rs generalizing hs with
  | nil =>
    cases h
    rfl
  | cons r rs ih =>
    obtain ⟨found, hfound, h⟩ := bind_eq_ok.mp h
    obtain ⟨rest, hrest, h⟩ := bind_eq_ok.mp h
    cases h
    rw [List.map_append, ih hrest, map_association_describe? hfound, List.filter_cons]
    by_cases hself : r.cardinality = .selfReference <;> simp [hself]

end Hierarchies

end Analysis

namespace Logged

variable {α β : Type}

theorem mem_warnings_bind {x : Logged α} {f : α → Logged β} {w : String} :
    w ∈ (x >>= f).warnings ↔
      w ∈ x.warnings ∨ ∃ a, x.result = .ok a ∧ w ∈ (f a).warnings := by
  cases hx : x.result with
  | ok a => simp [warnings_bind_of_ok hx]
  | error f =>
    obtain ⟨result, warnings⟩ := x
    cases hx
    simp [Bind.bind, Logged.bind]

theorem warnings_lift_bind (x : Except Fault α) {f : α → Logged β}
    (h : ∀ a, (f a).warnings = []) : ((liftM x : Logged α) >>= f).warnings = [] := by
  cases x with
  | ok a => exact h a
  | error => rfl

end Logged

namespace Relationship

variable {g : Graph} {e : Entity} {w : String} {rs : List Relationship}

theorem isText_name_of_ofEntity (h : (ofEntity g e).result = .ok rs) :
    ∀ r ∈ rs, r.name.IsText := by
  intro r hr
  obtain ⟨a, -, hclassified⟩ := (mem_classifyEach h).mp hr
  obtain ⟨_, rfl⟩ := along_of_classifyAssociation hclassified
  exact ⟨_, rfl⟩

theorem starts_ofEntity (h : w ∈ (ofEntity g e).warnings) : Starts "Skipping " w := by
  obtain ⟨outcomes, hall, heach⟩ := exists_outcomes g e e.associations
  rw [ofEntity, heach] at h
  obtain ⟨o, ho, hline⟩ := List.mem_filterMap.mp h
  obtain ⟨a, -, houtcome⟩ := exists_of_mem_right hall ho
  cases houtcome with
  | classified => cases hline
  | skipped _ hskip =>
    cases hline
    cases hskip with
    | unknown =>
      simp only [String.append_assoc]
      exact starts_append "Skipping " ("association " ++ _)
    | incomplete =>
      simp only [String.append_assoc]
      exact starts_append "Skipping " ("many-to-many " ++ _)

theorem starts_ofEntities {es : List Entity} (h : w ∈ (ofEntities g es).warnings) :
    Starts "Skipping " w := by
  induction es with
  | nil => cases h
  | cons e es ih =>
    obtain hown | ⟨_, -, h⟩ := Logged.mem_warnings_bind.mp h
    · exact starts_ofEntity hown
    · obtain hothers | ⟨_, -, h⟩ := Logged.mem_warnings_bind.mp h
      · exact ih hothers
      · cases h

end Relationship

/-- All that building a join says is that no such kind is known. -/
theorem JoinConfig.starts_build {g : Graph} {r : Relationship} {asked : Value} {w : String}
    (h : w ∈ (build g r asked).warnings) : Starts "Ignoring unknown join kind" w := by
  obtain h | ⟨_, -, h⟩ := Logged.mem_warnings_bind.mp h
  · unfold requestedKind at h
    split at h
    · cases h
    · obtain h | ⟨name, -, h⟩ := Logged.mem_warnings_bind.mp h
      · cases h
      · split at h
        · cases h
        · obtain h | ⟨_, -, h⟩ := Logged.mem_warnings_bind.mp h
          · obtain rfl := List.mem_singleton.mp h
            simp only [String.append_assoc]
            exact starts_append "Ignoring unknown join kind" (" '" ++ _)
          · cases h
  · obtain h | ⟨_, -, h⟩ := Logged.mem_warnings_bind.mp h
    · cases h
    · cases h

theorem Optimizer.name_of_optimize {o : Optimizer} {c d : JoinConfig} (h : o.optimize c = .ok d) :
    d.name = c.name := by
  obtain ⟨assigned, hassigned, h⟩ := bind_eq_ok.mp h
  cases h
  have hname : assigned.name = c.name := by
    unfold Optimizer.assign at hassigned
    split at hassigned
    · obtain ⟨_, _, hassigned⟩ := bind_eq_ok.mp hassigned
      cases hassigned
      rfl
    · cases hassigned
      rfl
  rw [← hname]
  unfold Optimizer.adjust
  split
  · rfl
  · rfl

theorem Optimizer.map_name_optimizeAll {o : Optimizer} {cs ds : List JoinConfig}
    (h : o.optimizeAll cs = .ok ds) : ds.map (·.name) = cs.map (·.name) := by
  have hnames : List.Forall₂ (· = ·) (cs.map (·.name)) (ds.map (·.name)) := by
    rw [List.forall₂_map_left_iff, List.forall₂_map_right_iff]
    exact (mapM_eq_ok.mp h).imp fun _ _ hfitted => (name_of_optimize hfitted).symm
  rw [List.forall₂_eq_eq_eq] at hnames
  exact hnames.symm

namespace Analyzer

variable {z : Analyzer} {e : Entity} {a : Analysis} {rs : List Relationship}
  {cycles : List (List Value)}

def IsAboutRepeat (w : String) : Prop := Starts "Duplicate association name " w

instance (w : String) : Decidable (IsAboutRepeat w) := inferInstanceAs (Decidable (Starts _ _))

def repeatLine (e : Entity) (name : Value) : String :=
  "Duplicate association name " ++ e.name ++ "." ++ name.display ++ ", keeping the first"

theorem isAboutRepeat_repeatLine (name : Value) : IsAboutRepeat (repeatLine e name) := by
  unfold repeatLine
  simp only [String.append_assoc]
  exact starts_append _ _

theorem filter_repeats_eq_nil {start : String} {warnings : List String}
    (hstart : ¬ Starts start "Duplicate association name ")
    (hother : ¬ Starts "Duplicate association name " start)
    (h : ∀ w ∈ warnings, Starts start w) : warnings.filter (IsAboutRepeat ·) = [] := by
  refine List.filter_eq_nil_iff.mpr fun w hw hrepeat => ?_
  exact (h w hw).not_starts hstart hother (of_decide_eq_true hrepeat)

/-- The names that are taken, and those that are left out with a line for each. -/
theorem keepsFirsts_of_defaultJoins {before taken again : List Value} {cs : List JoinConfig}
    (hkeeps : KeepsFirsts Value.sameKey before taken again)
    (h : (z.defaultJoins e taken rs).result = .ok cs) : ∃ repeated,
      KeepsFirsts Value.sameKey (before ++ rs.map (·.name)) (taken ++ cs.map (·.name))
        (again ++ repeated) ∧
      (z.defaultJoins e taken rs).warnings.filter (IsAboutRepeat ·) =
        repeated.map (repeatLine e) := by
  induction rs generalizing before taken again cs with
  | nil =>
    cases h
    exact ⟨[], by simpa using hkeeps, rfl⟩
  | cons r rs ih =>
    have hbefore : before ++ (r :: rs).map (·.name) = before ++ [r.name] ++ rs.map (·.name) := by
      simp
    rw [hbefore]
    rw [defaultJoins] at h ⊢
    cases hr : taken.any (Value.sameKey r.name) with
    | true =>
      rw [hr] at h
      obtain ⟨_, -, h⟩ := Logged.result_bind_eq_ok.mp h
      obtain ⟨repeated, hmore, hlines⟩ := ih (hkeeps.again (List.any_eq_true.mp hr)) h
      refine ⟨r.name :: repeated, by simpa using hmore, ?_⟩
      have hline : [repeatLine e r.name].filter (IsAboutRepeat ·) = [repeatLine e r.name] :=
        List.filter_cons_of_pos (decide_eq_true (isAboutRepeat_repeatLine _))
      rw [if_pos rfl, Logged.warnings_bind_of_ok rfl, List.filter_append, hlines]
      exact congrArg (· ++ repeated.map (repeatLine e)) hline
    | false =>
      rw [hr] at h
      obtain ⟨c, hc, h⟩ := Logged.result_bind_eq_ok.mp h
      obtain ⟨rest, hrest, h⟩ := Logged.result_bind_eq_ok.mp h
      cases h
      have hnew : ∀ name ∈ taken, Value.sameKey r.name name = false := fun name hname => by
        simpa using List.any_eq_false.mp hr name hname
      obtain ⟨repeated, hmore, hlines⟩ := ih (hkeeps.first hnew) hrest
      refine ⟨repeated, ?_, ?_⟩
      · rw [List.map_cons, (JoinConfig.isUnfitted_of_build hc).name]
        simpa using hmore
      · have hbuild : (JoinConfig.build z.graph r (askedKind e r)).warnings.filter
            (IsAboutRepeat ·) = [] :=
          filter_repeats_eq_nil (by decide) (by decide) fun _ => JoinConfig.starts_build
        rw [if_neg Bool.false_ne_true, Logged.warnings_bind_of_ok hc,
          Logged.warnings_bind_of_ok hrest, List.filter_append, List.filter_append, hlines]
        change _ ++ (repeated.map (repeatLine e) ++ []) = _
        rw [List.append_nil]
        exact congrArg (· ++ repeated.map (repeatLine e)) hbuild

/-- The summaries of an analysis are those of its relationships; the joins leave out the
names that come again. -/
structure IsSummary (rs : List Relationship) (again : List Value) (a : Analysis) : Prop where
  joins : KeepsFirsts Value.sameKey (rs.map (·.name)) (a.joins.map (·.name)) again
  relationships : Analysis.IsTable rs a.relationships
  hierarchies : a.hierarchies.map (·.association) = a.namesUnder .selfReference
  junctions : ∃ others,
    KeepsFirsts Value.sameKey (rs.filterMap (·.junction?)) a.junctions others

theorem exists_isSummary (h : IsAnalysis z cycles e rs a) : ∃ again, IsSummary rs again a ∧
    (z.analyzeEntity cycles e).warnings.filter (IsAboutRepeat ·) = again.map (repeatLine e) := by
  obtain ⟨built, hbuilt, hfitted⟩ := h.joins
  obtain ⟨again, hkeeps, hlines⟩ := keepsFirsts_of_defaultJoins .nil hbuilt
  rw [List.nil_append, List.nil_append, List.nil_append,
    ← Optimizer.map_name_optimizeAll hfitted] at hkeeps
  have htable : Analysis.IsTable rs a.relationships :=
    h.relationships ▸ Analysis.isTable_categorize rs
  refine ⟨again, ⟨hkeeps, htable, ?_, ?_⟩, ?_⟩
  · rw [Analysis.map_association_ofRelationships h.hierarchies, Analysis.namesUnder, htable.lookup]
  · exact h.junctions ▸ Analysis.keepsFirsts_junctionsOf rs
  · have hskipped : (Relationship.ofEntity z.graph e).warnings.filter (IsAboutRepeat ·) = [] :=
      filter_repeats_eq_nil (by decide) (by decide) fun _ => Relationship.starts_ofEntity
    -- only the first two steps log anything
    have hlog : (z.analyzeEntity cycles e).warnings =
        (Relationship.ofEntity z.graph e).warnings ++ (z.defaultJoins e [] rs).warnings := by
      rw [analyzeEntity, Logged.warnings_bind_of_ok h.classified,
        Logged.warnings_bind_of_ok hbuilt]
      refine congrArg _ ((congrArg _ ?_).trans (List.append_nil _))
      iterate 5 refine Logged.warnings_lift_bind _ fun _ => ?_
      rfl
    rw [hlog, List.filter_append, hskipped, hlines, List.nil_append]

/-- The analysis of an entity, with the relationships that it summarises and the names
that its joins leave out. -/
structure Survey where
  entity : Entity
  relationships : List Relationship
  again : List Value
  analysis : Analysis

namespace Survey

structure IsOf (g : Graph) (s : Survey) : Prop where
  held : g.find? s.analysis.entity = some s.entity
  classified : (Relationship.ofEntity g s.entity).result = .ok s.relationships
  names : ∀ r ∈ s.relationships, r.name.IsText
  summary : IsSummary s.relationships s.again s.analysis

def lines (s : Survey) : List String := s.again.map (repeatLine s.entity)

end Survey

theorem exists_survey (he : z.graph.find? e.name = some e)
    (h : (z.analyzeEntity cycles e).result = .ok a) :
    ∃ s : Survey, s.analysis = a ∧ s.IsOf z.graph ∧
      (z.analyzeEntity cycles e).warnings.filter (IsAboutRepeat ·) = s.lines := by
  obtain ⟨rs, ha⟩ := analyzeEntity_eq_ok.mp h
  obtain ⟨again, hsummary, hlines⟩ := exists_isSummary ha
  have hnames := Relationship.isText_name_of_ofEntity ha.classified
  exact ⟨⟨e, rs, again, a⟩, rfl, ⟨ha.entity ▸ he, ha.classified, hnames, hsummary⟩, hlines⟩

theorem exists_surveys {es : List Entity} {as : List Analysis}
    (hes : ∀ e ∈ es, z.graph.find? e.name = some e)
    (h : (z.analyzeEach cycles es).result = .ok as) :
    ∃ surveys : List Survey, surveys.map (·.analysis) = as ∧ (∀ s ∈ surveys, s.IsOf z.graph) ∧
      (z.analyzeEach cycles es).warnings.filter (IsAboutRepeat ·) =
        surveys.flatMap Survey.lines := by
  induction es generalizing as with
  | nil =>
    cases h
    exact ⟨[], rfl, nofun, rfl⟩
  | cons e es ih =>
    obtain ⟨he, hes⟩ := List.forall_mem_cons.mp hes
    obtain ⟨first, hfirst, h⟩ := Logged.result_bind_eq_ok.mp h
    obtain ⟨rest, hrest, h⟩ := Logged.result_bind_eq_ok.mp h
    cases h
    obtain ⟨s, rfl, hs, hlines⟩ := exists_survey he hfirst
    obtain ⟨surveys, rfl, hall, hothers⟩ := ih hes hrest
    refine ⟨s :: surveys, rfl, List.forall_mem_cons.mpr ⟨hs, hall⟩, ?_⟩
    rw [analyzeEach, Logged.warnings_bind_of_ok hfirst, Logged.warnings_bind_of_ok hrest,
      Logged.warnings_pure, List.append_nil, List.filter_append, hlines, hothers,
      List.flatMap_cons]

theorem filter_cyclesIfWanted : z.cyclesIfWanted.warnings.filter (IsAboutRepeat ·) = [] := by
  have hskips : ∀ w ∈ z.cyclesIfWanted.warnings, Starts "Skipping " w := by
    intro w hw
    unfold cyclesIfWanted at hw
    split at hw
    · obtain hw | ⟨_, -, hw⟩ := Logged.mem_warnings_bind.mp hw
      · exact Relationship.starts_ofEntities hw
      · cases hw
    · cases hw
  exact filter_repeats_eq_nil (by decide) (by decide) hskips

/-- The summaries of an analysis agree on the relationships of its entity, which are named
by texts, and the log has one line for each that the joins leave out. -/
theorem summaries_of_analyzeSchema {asked : Option String} {as : List Analysis}
    (h : (z.analyzeSchema asked).result = .ok as) :
    ∃ surveys : List Survey, surveys.map (·.analysis) = as ∧ (∀ s ∈ surveys, s.IsOf z.graph) ∧
      (z.analyzeSchema asked).warnings.filter (IsAboutRepeat ·) =
        surveys.flatMap Survey.lines := by
  cases asked with
  | none =>
    obtain ⟨cycles, hcycles, h⟩ := Logged.result_bind_eq_ok.mp h
    have hsorted : ∀ e ∈ z.graph.sorted, z.graph.find? e.name = some e :=
      fun e he => Graph.find?_eq_some.mpr ⟨Graph.mem_sorted.mp he, rfl⟩
    obtain ⟨surveys, has, hall, hlines⟩ := exists_surveys hsorted h
    refine ⟨surveys, has, hall, ?_⟩
    rw [analyzeSchema, analyzeAll, Logged.warnings_bind_of_ok hcycles, List.filter_append,
      filter_cyclesIfWanted, hlines, List.nil_append]
  | some name =>
    obtain ⟨cycles, e, a, hcycles, he, ha, rfl⟩ := analyzeSchema_some_eq_ok.mp h
    have hfound : z.graph.find? e.name = some e :=
      Graph.find?_eq_some.mpr ⟨(Graph.find?_eq_some.mp he).1, rfl⟩
    obtain ⟨s, rfl, hs, hlines⟩ := exists_survey hfound ha
    refine ⟨[s], rfl, List.forall_mem_singleton.mpr hs, ?_⟩
    have hlog : (z.analyzeSchema (some name)).warnings =
        z.cyclesIfWanted.warnings ++ (z.analyzeEntity cycles e).warnings := by
      have hone : z.analyze name = z.cyclesIfWanted >>= fun cycles => z.analyzeEntity cycles e := by
        rw [analyze, Graph.require_eq_ok.mpr he]
        rfl
      rw [analyzeSchema, hone,
        Logged.warnings_bind_of_ok (Logged.result_bind_eq_ok.mpr ⟨cycles, hcycles, ha⟩),
        Logged.warnings_bind_of_ok hcycles, Logged.warnings_pure, List.append_nil]
    rw [hlog, List.filter_append, filter_cyclesIfWanted, hlines, List.nil_append,
      List.flatMap_singleton]

def tagging (name : String) : Association :=
  { name, kind := "many_to_many", relatedEntity := "Tag"
    junctionEntity := .text "item_tags", junctionKeys := some ("item_id", "tag_id") }

/-- An item below others, whose children go by the name of its parent. -/
def item : Entity :=
  { name := "Item"
    associations := [
      { name := "parent", kind := "belongs_to", relatedEntity := "Item" },
      tagging "tags",
      { name := "parent", kind := "has_many", relatedEntity := "Item"
        relatedKey := ["parent_id"] },
      tagging "labels"] }

def itemAnalyzer : Analyzer := byDefault (.ofEntities [item])

def taggingRelationship (name : String) : Relationship :=
  ⟨.text name, .text "Item", .text "Tag", [],
    .manyToMany (.text "item_tags") (.text "item_id") (.text "tag_id") "id" "id"⟩

def itemRelationships : List Relationship :=
  [⟨.text "parent", .text "Item", .text "Item", [],
     .selfReference .belongsTo .adjacencyList ["parent_id"] ["id"]⟩,
   taggingRelationship "tags",
   ⟨.text "parent", .text "Item", .text "Item", [],
     .selfReference .hasMany .adjacencyList ["id"] ["parent_id"]⟩,
   taggingRelationship "labels"]

def taggingJoin (name : String) : JoinConfig :=
  { name := .text name
    kind := .inner
    target := .text "Tag"
    conditions := [(.text "id", .text "item_id"), (.text "tag_id", .text "id")]
    through := some [.text "item_tags"]
    strategy := .lazy
    metadata := [("cardinality", .text "many_to_many"), ("foreign_key", .text "item_id"),
      ("owner_key", .text "id"), ("junction_table", .text "item_tags"),
      ("join_keys", .list [.text "item_id", .text "tag_id"])] }

def parentHierarchy : Hierarchy :=
  { entity := "Item", association := .text "parent", pattern := .adjacencyList
    roles := [("parent_field", .text "parent_id")] }

def itemAnalysis : Analysis :=
  { entity := "Item"
    joins := [
      { name := .text "parent"
        kind := .inner
        target := .text "Item"
        conditions := [(.text "parent_id", .text "id")]
        strategy := .eager
        metadata := [("cardinality", .text "belongs_to"), ("foreign_key", .text "parent_id"),
          ("owner_key", .text "parent_id"), ("self_reference", .bool true),
          ("hierarchy_pattern", .text "adjacency_list")] },
      taggingJoin "tags", taggingJoin "labels"]
    relationships := [(.selfReference, [.text "parent", .text "parent"]),
      (.manyToMany, [.text "tags", .text "labels"])]
    hierarchies := [parentHierarchy, parentHierarchy]
    dimensions := [], junctions := [.text "item_tags"], cycles := []
    warnings := [
      "Multiple hierarchical relationships detected on Item. Consider using only one " ++
        "hierarchy pattern.",
      "Junction entity 'item_tags' of Item.tags is not part of the schema graph",
      "Junction entity 'item_tags' of Item.labels is not part of the schema graph"]
    suggestions := ["Consider adding index on Item.parent_id"] }

theorem analyzeSchema_item :
    (itemAnalyzer.analyzeSchema (some "Item")).result = .ok [itemAnalysis] := by
  have hsorted : itemAnalyzer.graph.sorted = [item] :=
    Graph.sorted_eq (.refl _) (List.pairwise_singleton _ _)
  have hfound : Relationship.cycles 3 false itemRelationships = .ok [] :=
    (Relationship.cycles_of_pairwise rfl .nil).trans rfl
  have hcycles : itemAnalyzer.cyclesIfWanted.result = .ok [] :=
    cyclesIfWanted_of_sorted rfl hsorted hfound rfl
  have hitem : (itemAnalyzer.analyzeEntity [] item).result = .ok itemAnalysis := by
    refine analyzeEntity_eq_ok.mpr ⟨itemRelationships, rfl, rfl, ⟨_, rfl, rfl⟩, rfl, rfl, ?_, rfl,
      rfl, rfl, rfl⟩
    rw [Dimension.detect, Dimension.companion?, Graph.findByName?, hsorted]
    rfl
  exact analyzeSchema_some_eq_ok.mpr ⟨[], item, itemAnalysis, hcycles, rfl, hitem, rfl⟩

/-- Of both relationships named after the parent, the joins have the first. -/
theorem summaries_of_analyzeSchema_item :
    (itemAnalyzer.analyzeSchema (some "Item")).result = .ok [itemAnalysis] ∧
    ∃ surveys : List Survey, surveys.map (·.analysis) = [itemAnalysis] ∧
      (∀ s ∈ surveys, s.IsOf itemAnalyzer.graph) ∧
      (itemAnalyzer.analyzeSchema (some "Item")).warnings.filter (IsAboutRepeat ·) =
        surveys.flatMap Survey.lines :=
  ⟨analyzeSchema_item, summaries_of_analyzeSchema analyzeSchema_item⟩

end Analyzer

end SchemaJoins
