import Mathlib.Data.List.Nodup
import SchemaJoins.Proofs.Cycle.ClosedPath

/-! # The bounded search finds the short closed paths

From a node the search follows walks without repetitions and closes them at any
of their members. Its reports from all nodes, rotated to their smallest members,
are the closed paths within the number of steps, each once.
-/

namespace SchemaJoins.Cycle

variable {α : Type} [BEq α] [LawfulBEq α]

theorem nodup_eraseDups : (xs : List α) → xs.eraseDups.Nodup
  | [] => List.nodup_nil
  | x :: xs => by
    rw [List.eraseDups_cons]
    refine List.nodup_cons.mpr ⟨fun h => ?_, nodup_eraseDups _⟩
    simp [List.mem_eraseDups] at h
termination_by xs => xs.length
decreasing_by exact Nat.lt_succ_of_le (List.length_filter_le _ _)

namespace Adjacency

def Edge (g : Adjacency α) (a b : α) : Prop := b ∈ g.neighbours a

omit [LawfulBEq α] in
theorem neighbours_cons (node : α) (targets : List α) (g : Adjacency α) (a : α) :
    neighbours ((node, targets) :: g) a = if node == a then targets else g.neighbours a := by
  simp only [neighbours, List.find?_cons]
  cases h : node == a <;> simp

omit [LawfulBEq α] in
theorem edge_cons {node : α} {targets : List α} {g : Adjacency α} {a b : α} :
    Edge ((node, targets) :: g) a b ↔ if node == a then b ∈ targets else g.Edge a b := by
  rw [Edge, neighbours_cons]
  split <;> rfl

theorem edge_addEdge {g : Adjacency α} {s t a b : α} :
    (addEdge s t g).Edge a b ↔ g.Edge a b ∨ (a = s ∧ b = t) := by
  induction g with
  | nil =>
    rw [addEdge, edge_cons]
    by_cases ha : s = a
    · simp [ha, Edge, neighbours]
    · simp [ha, Ne.symm ha, Edge, neighbours]
  | cons row g ih =>
    obtain ⟨node, targets⟩ := row
    rw [addEdge]
    by_cases hn : node = s
    · subst hn
      rw [if_pos (beq_self_eq_true node), edge_cons, edge_cons]
      by_cases ha : node = a
      · subst ha
        by_cases ht : t ∈ targets
        · simp only [BEq.rfl, if_true, List.contains_iff_mem.mpr ht, true_and]
          exact ⟨Or.inl, fun h => h.elim id fun h => h ▸ ht⟩
        · simp [ht]
      · simp [ha, Ne.symm ha]
    · rw [if_neg (by simpa using hn), edge_cons, edge_cons, ih]
      by_cases ha : node = a
      · subst ha
        simp [hn]
      · simp [ha]

theorem edge_foldl {edges : List (α × α)} {g : Adjacency α} {a b : α} :
    (edges.foldl (fun g e => addEdge e.1 e.2 g) g).Edge a b ↔ g.Edge a b ∨ (a, b) ∈ edges := by
  induction edges generalizing g with
  | nil => simp
  | cons e edges ih =>
    obtain ⟨s, t⟩ := e
    rw [List.foldl_cons, ih, edge_addEdge, List.mem_cons, Prod.mk.injEq, or_assoc]

@[simp] theorem edge_ofEdges {edges : List (α × α)} {a b : α} :
    (ofEdges edges).Edge a b ↔ (a, b) ∈ edges := by
  rw [ofEdges, edge_foldl]
  simp [Edge, neighbours]

theorem mem_nodes_of_edge {g : Adjacency α} {a b : α} (h : g.Edge a b) : a ∈ g.nodes := by
  induction g with
  | nil => simp [Edge, neighbours] at h
  | cons row g ih =>
    obtain ⟨node, targets⟩ := row
    rw [edge_cons] at h
    by_cases hn : node = a
    · subst hn
      exact List.mem_cons_self
    · rw [if_neg (by simpa using hn)] at h
      exact List.mem_cons_of_mem _ (ih h)

end Adjacency

variable {g : Adjacency α}

/-- The search reports the walks on from the path that avoid it and end on an
edge back to a member of the path or of the walk. -/
theorem mem_search {depth : Nat} {current : α} {path c : List α} (hp : path.Nodup) :
    c ∈ search g depth current path ↔
      ∃ walk back, walk.length < depth ∧ (path ++ walk).Nodup ∧
        (current :: (walk ++ [back])).IsChain g.Edge ∧ back ∈ path ++ walk ∧
        c = close (path ++ walk) back := by
  induction depth generalizing current path with
  | zero => simp [search]
  | succ depth ih =>
    simp only [search, List.mem_flatMap]
    constructor
    · rintro ⟨next, hn, hc⟩
      by_cases hm : next ∈ path
      · rw [if_pos (by simpa using hm)] at hc
        obtain rfl := List.mem_singleton.mp hc
        exact ⟨[], next, by simp, by simpa using hp, List.isChain_pair.mpr hn, by simpa using hm,
          by simp⟩
      · rw [if_neg (by simpa using hm), ih (List.nodup_append.mpr ⟨hp, by simp, by grind⟩)] at hc
        obtain ⟨walk, back, hl, hd, hw, hb, rfl⟩ := hc
        refine ⟨next :: walk, back, by simpa using hl, by simpa using hd, ?_, by simpa using hb,
          by simp⟩
        exact List.isChain_cons_cons.mpr ⟨hn, hw⟩
    · rintro ⟨walk, back, hl, hd, hw, hb, rfl⟩
      cases walk with
      | nil =>
        refine ⟨back, (List.isChain_cons_cons.mp hw).1, ?_⟩
        rw [List.append_nil] at hb ⊢
        rw [if_pos (by simpa using hb)]
        exact List.mem_singleton_self _
      | cons next walk =>
        obtain ⟨hn, hw⟩ := List.isChain_cons_cons.mp hw
        have hm : next ∉ path := fun h =>
          (List.nodup_append.mp hd).2.2 _ h _ List.mem_cons_self rfl
        refine ⟨next, hn, ?_⟩
        rw [if_neg (by simpa using hm), ih (List.nodup_append.mpr ⟨hp, by simp, by grind⟩)]
        exact ⟨walk, back, by simpa using hl, by simpa using hd, hw, by simpa using hb, by simp⟩

/-- Soundness: whatever the search reports is a ring within the number of steps. -/
theorem isRing_of_mem_search {depth : Nat} {start : α} {c : List α}
    (h : c ∈ search g depth start [start]) :
    ∃ first rest, c = closedPath first rest ∧ rest.length < depth ∧ IsRing g.Edge first rest := by
  obtain ⟨walk, back, hl, hd, hw, hb, rfl⟩ := (mem_search (List.nodup_singleton start)).mp h
  obtain ⟨before, after, hm⟩ := List.append_of_mem hb
  rw [List.singleton_append] at hm hd
  have hn : (before ++ back :: after).Nodup := hm ▸ hd
  have hbefore : back ∉ before := fun hmem =>
    (List.nodup_append.mp hn).2.2 _ hmem _ List.mem_cons_self rfl
  refine ⟨back, after, ?_, ?_, hn.of_append_right, ?_⟩
  · rw [List.singleton_append, hm, close_append hbefore]
  · have := congrArg List.length hm
    simp only [List.length_cons, List.length_append] at this
    omega
  · have hc : (before ++ closedPath back after).IsChain g.Edge := by
      have : start :: (walk ++ [back]) = before ++ closedPath back after := by
        rw [← List.cons_append, hm]
        simp [closedPath]
      exact this ▸ hw
    exact hc.right_of_append

/-- Completeness: a ring within the number of steps is found from its first member. -/
theorem mem_search_of_isRing {depth : Nat} {first : α} {rest : List α}
    (h : IsRing g.Edge first rest) (hl : rest.length < depth) :
    closedPath first rest ∈ search g depth first [first] := by
  refine (mem_search (List.nodup_singleton first)).mpr ⟨rest, first, hl, h.nodup, h.chain, ?_, ?_⟩
  · exact List.mem_append_left _ (List.mem_singleton_self _)
  · have hc : close ([] ++ first :: rest) first = closedPath first rest :=
      close_append List.not_mem_nil
    exact hc.symm

theorem nodup_find (le : α → α → Bool) (depth : Nat) (g : Adjacency α) :
    (find le depth g).Nodup := nodup_eraseDups _

/-- The closed paths that are found are the rings within the number of steps,
entered at their smallest member. -/
theorem mem_find {le : α → α → Bool} (htrans : ∀ a b c, le a b → le b c → le a c)
    (htotal : ∀ a b, le a b ∨ le b a) {depth : Nat} {c : List α} :
    c ∈ find le depth g ↔
      ∃ first rest, c = closedPath first rest ∧ rest.length < depth ∧ IsRing g.Edge first rest ∧
        ∀ x ∈ rest, le first x := by
  simp only [find, List.mem_eraseDups, List.mem_flatMap, List.mem_mergeSort, List.mem_map]
  constructor
  · rintro ⟨start, -, report, hr, rfl⟩
    obtain ⟨first, rest, rfl, hl, hring⟩ := isRing_of_mem_search hr
    obtain ⟨m, members, hc, hm, hlen, hle⟩ := hring.canonical htrans htotal
    exact ⟨m, members, hc, hlen ▸ hl, hm, hle⟩
  · rintro ⟨first, rest, rfl, hl, hring, hle⟩
    obtain ⟨next, hedge⟩ := hring.exists_edge
    exact ⟨first, Adjacency.mem_nodes_of_edge hedge, _, mem_search_of_isRing hring hl,
      canonical_of_smallest hle⟩

end SchemaJoins.Cycle
