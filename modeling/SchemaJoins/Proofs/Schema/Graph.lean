import Mathlib.Data.List.Sort
import SchemaJoins.Schema.Graph

/-! # Looking up entities

The names in a graph are distinct, so that an entity is found under its name
wherever it stands. Graphs of the same entities in different order cannot be told
apart by lookups, and their sorted entities are the same.
-/

namespace SchemaJoins

section Sorting

variable {xs ys : List String}

theorem sortTexts_perm (xs : List String) : (sortTexts xs).Perm xs := List.mergeSort_perm _ _

theorem pairwise_sortTexts (xs : List String) : (sortTexts xs).Pairwise (· ≤ ·) := by
  have h : (sortTexts xs).Pairwise fun a b => decide (a ≤ b) = true := by
    refine List.pairwise_mergeSort (fun _ _ _ hab hbc => decide_eq_true ?_) (fun a b => ?_) xs
    · exact String.le_trans (of_decide_eq_true hab) (of_decide_eq_true hbc)
    · simpa using String.le_total a b
  exact h.imp of_decide_eq_true

theorem sortTexts_eq_of_perm (h : xs.Perm ys) : sortTexts xs = sortTexts ys := by
  have hperm : (sortTexts xs).Perm (sortTexts ys) :=
    (sortTexts_perm xs).trans (h.trans (sortTexts_perm ys).symm)
  refine hperm.eq_of_pairwise (fun _ _ _ _ => String.le_antisymm) ?_ ?_
  · exact pairwise_sortTexts xs
  · exact pairwise_sortTexts ys

theorem sortTexts_of_pairwise (h : xs.Pairwise (· ≤ ·)) : sortTexts xs = xs :=
  List.mergeSort_of_pairwise (h.imp decide_eq_true)

end Sorting

namespace Schema.Graph

variable {g g' : Graph} {name : String} {e : Entity}

theorem find?_eq_some : g.find? name = some e ↔ e ∈ g.entities ∧ e.name = name := by
  constructor
  · intro hf
    have hname := List.find?_some hf
    exact ⟨List.mem_of_find?_eq_some hf, beq_iff_eq.mp hname⟩
  · rintro ⟨he, rfl⟩
    obtain ⟨before, after, hsplit⟩ := List.append_of_mem he
    have hdistinct := g.nodup
    rw [hsplit, List.map_append, List.map_cons] at hdistinct
    have hnone : before.find? (·.name == e.name) = none := by
      refine List.find?_eq_none.mpr fun x hx hname => ?_
      exact (List.nodup_append.mp hdistinct).2.2 _ (List.mem_map_of_mem hx) _
        List.mem_cons_self (beq_iff_eq.mp hname)
    rw [find?, hsplit, List.find?_append, hnone, Option.none_or]
    exact List.find?_cons_of_pos (beq_self_eq_true _)

theorem require_eq_ok : g.require name = .ok e ↔ g.find? name = some e := by
  unfold require
  cases g.find? name <;> simp

theorem mem_names : name ∈ g.names ↔ ∃ e ∈ g.entities, e.name = name := by
  rw [names, (sortTexts_perm _).mem_iff, order, List.mem_map]

theorem nodup_names (g : Graph) : g.names.Nodup := (sortTexts_perm _).nodup_iff.mpr g.nodup

theorem mem_sorted : e ∈ g.sorted ↔ e ∈ g.entities := by
  rw [sorted, List.mem_filterMap]
  constructor
  · rintro ⟨name, -, he⟩
    exact (find?_eq_some.mp he).1
  · intro he
    exact ⟨e.name, mem_names.mpr ⟨e, he, rfl⟩, find?_eq_some.mpr ⟨he, rfl⟩⟩

theorem map_name_filterMap {names : List String} (h : ∀ name ∈ names, name ∈ g.names) :
    (names.filterMap g.find?).map (·.name) = names := by
  induction names with
  | nil => rfl
  | cons name names ih =>
    obtain ⟨hname, hnames⟩ := List.forall_mem_cons.mp h
    obtain ⟨e, he, rfl⟩ := mem_names.mp hname
    rw [List.filterMap_cons_some (find?_eq_some.mpr ⟨he, rfl⟩), List.map_cons, ih hnames]

theorem map_name_sorted (g : Graph) : g.sorted.map (·.name) = g.names :=
  map_name_filterMap fun _ h => h

theorem find?_eq_of_perm (h : g.entities.Perm g'.entities) : g.find? = g'.find? := by
  funext name
  refine Option.ext fun e => ?_
  rw [find?_eq_some, find?_eq_some, h.mem_iff]

theorem names_eq_of_perm (h : g.entities.Perm g'.entities) : g.names = g'.names :=
  sortTexts_eq_of_perm (h.map _)

theorem sorted_eq_of_perm (h : g.entities.Perm g'.entities) : g.sorted = g'.sorted := by
  rw [sorted, sorted, find?_eq_of_perm h, names_eq_of_perm h]

/-- The sorted entities are the one arrangement in the order of the names. -/
theorem sorted_eq {es : List Entity} (hperm : g.entities.Perm es)
    (hsorted : (es.map (·.name)).Pairwise (· ≤ ·)) : g.sorted = es := by
  have hself : ∀ e ∈ es, g.find? e.name = some e :=
    fun e he => find?_eq_some.mpr ⟨hperm.mem_iff.mpr he, rfl⟩
  have hnames : g.names = es.map (·.name) :=
    (sortTexts_eq_of_perm (hperm.map _)).trans (sortTexts_of_pairwise hsorted)
  rw [sorted, hnames, List.filterMap_map]
  exact (List.filterMap_congr hself).trans List.filterMap_some

theorem exists_findValue?_iff {v : Value} :
    (∃ found, g.findValue? v = .ok found) ↔ v.isHashable = true := by
  unfold findValue? Value.requireHashable Value.isHashable
  cases v.unhashableKind? with
  | some kind =>
    constructor
    · rintro ⟨_, ⟨⟩⟩
    · nofun
  | none => cases v <;> exact ⟨fun _ => rfl, fun _ => ⟨_, rfl⟩⟩

theorem place_of_not_mem : {es : List Entity} → e.name ∉ es.map (·.name) → place e es = es ++ [e]
  | [], _ => rfl
  | x :: es, h => by
    rw [List.map_cons, List.mem_cons, not_or] at h
    rw [place, if_neg (Ne.symm h.1), place_of_not_mem h.2, List.cons_append]

theorem entities_foldl_add {es : List Entity} (h : ((g.entities ++ es).map (·.name)).Nodup) :
    (es.foldl add g).entities = g.entities ++ es := by
  induction es generalizing g with
  | nil => exact (List.append_nil _).symm
  | cons e es ih =>
    have hnew : e.name ∉ g.entities.map (·.name) := by
      rw [List.map_append, List.map_cons] at h
      exact fun hm => (List.nodup_append.mp h).2.2 _ hm _ List.mem_cons_self rfl
    have hadd : (g.add e).entities = g.entities ++ [e] := place_of_not_mem hnew
    rw [List.foldl_cons, ih, hadd, List.append_assoc, List.singleton_append]
    rwa [hadd, List.append_assoc, List.singleton_append]

theorem entities_ofEntities {es : List Entity} (h : (es.map (·.name)).Nodup) :
    (ofEntities es).entities = es := entities_foldl_add (g := empty) h

end Schema.Graph

end SchemaJoins
