import SchemaJoins.Proofs.Data.First
import SchemaJoins.Proofs.Data.Steps
import SchemaJoins.Proofs.Schema.Typed

/-! # Looking up spellings

An entity is spelled by its name and by its name in storage, in any case, so that
several entities of a graph can share a spelling. The one of them with the smallest
name is found, wherever it stands in the graph.
-/

namespace SchemaJoins.Schema

variable {g : Graph} {e x y : Entity} {s : String} {candidates : List String}

section Spellings

/-- The text is the name of the entity or its name in storage, in any case. -/
def Entity.IsSpelled (e : Entity) (s : String) : Prop :=
  Text.lower e.name = Text.lower s ∨
    ∃ source, e.sourceName = .text source ∧ Text.lower source = Text.lower s

def Entity.lowerNames (e : Entity) : List String :=
  [Text.lower e.name, Text.lower e.sourceName.display]

theorem Entity.spellings_eq (h : e.table.IsOptionalText) :
    Graph.spellings e = .ok (e.lowerNames.map .text) := by
  obtain ⟨source, hsource⟩ := e.exists_sourceName h
  rw [Graph.spellings, lowerNames, hsource]
  rfl

theorem Entity.contains_lowerNames (h : e.table.IsOptionalText) :
    e.lowerNames.contains (Text.lower s) = true ↔ e.IsSpelled s := by
  obtain ⟨source, hsource⟩ := e.exists_sourceName h
  rw [List.contains_iff_mem, lowerNames, IsSpelled, hsource]
  simp [display_text, eq_comm]

theorem Entity.any_sameKey_lowerNames (e : Entity) (s : String) :
    (e.lowerNames.map .text).any (Value.sameKey (.text s)) = e.lowerNames.contains s := by
  rw [List.any_map, List.contains_eq_any_beq]
  rfl

end Spellings

namespace Graph

def HasTextTables (g : Graph) : Prop := ∀ e ∈ g.entities, e.table.IsOptionalText

theorem IsTyped.hasTextTables (h : g.IsTyped) : g.HasTextTables := fun e he => (h e he).table

/-- The entity has the smallest name among those that the text spells. -/
def IsSpelledFirst (g : Graph) (s : String) (e : Entity) : Prop :=
  e ∈ g.entities ∧ e.IsSpelled s ∧ ∀ x ∈ g.entities, x.IsSpelled s → e.name ≤ x.name

def IsSpelling (g : Graph) (s : String) : Prop := ∃ e ∈ g.entities, e.IsSpelled s

theorem eq_of_name_eq (hx : x ∈ g.entities) (hy : y ∈ g.entities) (h : x.name = y.name) :
    x = y := by
  have hfound := find?_eq_some.mpr ⟨hx, rfl⟩
  rw [h] at hfound
  exact Option.some.inj (hfound.symm.trans (find?_eq_some.mpr ⟨hy, rfl⟩))

theorem IsSpelledFirst.unique (hx : g.IsSpelledFirst s x) (hy : g.IsSpelledFirst s y) : x = y :=
  eq_of_name_eq hx.1 hy.1 (String.le_antisymm (hx.2.2 y hy.1 hy.2.1) (hy.2.2 x hx.1 hx.2.1))

theorem pairwise_sorted (g : Graph) : g.sorted.Pairwise (·.name ≤ ·.name) := by
  rw [← List.pairwise_map, map_name_sorted]
  exact pairwise_sortTexts _

theorem isFirst_sorted_iff : IsFirst (·.IsSpelled s) g.sorted e ↔ g.IsSpelledFirst s e := by
  have hleast : ∀ {e}, IsFirst (·.IsSpelled s) g.sorted e → g.IsSpelledFirst s e := by
    intro e h
    refine ⟨mem_sorted.mp h.mem, h.fits, fun x hx hspelled => ?_⟩
    obtain ⟨before, after, hsorted, -, hbefore⟩ := h
    have hpairwise := g.pairwise_sorted
    rw [hsorted] at hpairwise
    have hmem := mem_sorted.mpr hx
    rw [hsorted, List.mem_append, List.mem_cons] at hmem
    obtain hx | rfl | hx := hmem
    · exact absurd hspelled (hbefore x hx)
    · exact String.le_refl _
    · exact (List.pairwise_cons.mp (List.pairwise_append.mp hpairwise).2.1).1 x hx
  refine ⟨hleast, fun h => ?_⟩
  obtain ⟨x, hx⟩ : ∃ x, IsFirst (·.IsSpelled s) g.sorted x :=
    exists_isFirst_iff.mpr ⟨e, mem_sorted.mpr h.1, h.2.1⟩
  rwa [h.unique (hleast hx)]

theorem exists_isSpelledFirst_iff : (∃ e, g.IsSpelledFirst s e) ↔ g.IsSpelling s := by
  simp only [← isFirst_sorted_iff, exists_isFirst_iff, mem_sorted, IsSpelling]

def spelled? (g : Graph) (s : String) : Option Entity :=
  g.sorted.find? fun e => e.lowerNames.contains (Text.lower s)

theorem spelled?_eq_some_iff (hg : g.HasTextTables) :
    g.spelled? s = some e ↔ g.IsSpelledFirst s e := by
  rw [← isFirst_sorted_iff]
  exact find?_eq_some_iff_isFirst fun x hx => Entity.contains_lowerNames (hg x (mem_sorted.mp hx))

theorem findSome?_spelled?_iff (hg : g.HasTextTables) :
    candidates.findSome? g.spelled? = some e ↔
      ∃ s, IsFirst g.IsSpelling candidates s ∧ g.IsSpelledFirst s e := by
  simp only [findSome?_eq_some_iff_isFirst, spelled?_eq_some_iff hg, exists_isSpelledFirst_iff]

theorem findSome?_spelled?_eq_none_iff (hg : g.HasTextTables) :
    candidates.findSome? g.spelled? = none ↔ ∀ s ∈ candidates, ¬ g.IsSpelling s := by
  have hnone (s : String) : g.spelled? s = none ↔ ¬ g.IsSpelling s := by
    simp only [← exists_isSpelledFirst_iff, ← spelled?_eq_some_iff hg, not_exists,
      Option.eq_none_iff_forall_ne_some]
  simp only [List.findSome?_eq_none_iff, hnone]

theorem findByName?_eq (hg : g.HasTextTables) (candidates : List String) :
    g.findByName? candidates = .ok (candidates.findSome? g.spelled?) := by
  have hrows : g.sorted.mapM (fun e => do return (e, ← spellings e)) =
      Except.ok (g.sorted.map fun e => (e, e.lowerNames.map Value.text)) := by
    rw [mapM_eq_ok, List.forall₂_map_right_iff, List.forall₂_same]
    intro e he
    rw [Entity.spellings_eq (hg e (mem_sorted.mp he))]
    rfl
  unfold findByName?
  rw [hrows]
  refine congrArg Except.ok (congrArg candidates.findSome? (funext fun s => ?_))
  rw [List.find?_map, Option.map_map]
  simp only [Function.comp_def, Entity.any_sameKey_lowerNames]
  exact Option.map_id'

theorem findByName?_eq_of_mem_iff {g' : Graph} (h : ∀ x, x ∈ g'.entities ↔ x ∈ g.entities)
    (candidates : List String) : g'.findByName? candidates = g.findByName? candidates := by
  have hperm : g'.entities.Perm g.entities :=
    (List.perm_ext_iff_of_nodup (g'.nodup.of_map _) (g.nodup.of_map _)).mpr h
  unfold findByName?
  rw [sorted_eq_of_perm hperm]

/-- The search finds nothing exactly if no candidate spells an entity. Otherwise the first
candidate that spells one decides, and of all the entities that it spells the one with the
smallest name is found. The order in which the entities came into the graph does not matter. -/
theorem findByName?_least (hg : g.HasTextTables) (candidates : List String) :
    ∃ found, g.findByName? candidates = .ok found ∧
      (found = none ↔ ∀ s ∈ candidates, ∀ e ∈ g.entities, ¬ e.IsSpelled s) ∧
      (∀ e, found = some e ↔
        ∃ s, IsFirst g.IsSpelling candidates s ∧ g.IsSpelledFirst s e) ∧
      ∀ g' : Graph, (∀ x, x ∈ g'.entities ↔ x ∈ g.entities) →
        g'.findByName? candidates = .ok found := by
  have hfound := findByName?_eq hg candidates
  refine ⟨_, hfound, ?_, fun e => findSome?_spelled?_iff hg, fun g' hsame => ?_⟩
  · rw [findSome?_spelled?_eq_none_iff hg]
    simp only [IsSpelling, not_exists, not_and]
  · rw [findByName?_eq_of_mem_iff hsame, hfound]

/-- Staff and people, each stored under the name of the other in other letters, and an
archive that is stored like the staff. -/
def clinic : Graph := .ofEntities [
  { name := "staff", table := .text "PEOPLE" }, { name := "People", table := .text "Staff" },
  { name := "Archive", table := .text "people" }]

theorem findByName?_least_clinic :
    clinic.HasTextTables ∧
    ∃ found, clinic.findByName? ["patients", "STAFF", "archive"] = .ok found ∧
      (found = none ↔ ∀ s ∈ ["patients", "STAFF", "archive"], ∀ e ∈ clinic.entities,
        ¬ e.IsSpelled s) ∧
      (∀ e, found = some e ↔
        ∃ s, IsFirst clinic.IsSpelling ["patients", "STAFF", "archive"] s ∧
          clinic.IsSpelledFirst s e) ∧
      ∀ g' : Graph, (∀ x, x ∈ g'.entities ↔ x ∈ clinic.entities) →
        g'.findByName? ["patients", "STAFF", "archive"] = .ok found := by
  have hg : clinic.HasTextTables := by
    intro e he
    rcases mem_foldl_add he with he | he
    · simp only [List.mem_cons, List.not_mem_nil, or_false] at he
      rcases he with rfl | rfl | rfl <;> exact Value.isOptionalText_text _
    · cases he
  exact ⟨hg, findByName?_least hg _⟩

end Graph

end SchemaJoins.Schema
