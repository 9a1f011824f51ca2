import Mathlib.Data.List.Rotate
import SchemaJoins.Proofs.Cycle.Search

/-! # Rotations of closed paths

A closed path through distinct members can be entered at each of them, which gives its
rotations. The canonical form enters it at the smallest member. So two closed paths have
the same canonical form exactly when they are rotations of each other, and removing the
forms that come again keeps every cycle once.
-/

namespace SchemaJoins.Cycle

variable {α : Type}

/-- A path of at least one step through distinct members and back to the first. -/
structure IsClosedPath (c : List α) : Prop where
  step : 2 ≤ c.length
  closed : c.head? = c.getLast?
  nodup : c.dropLast.Nodup

/-- Two closed paths go round the same members in the same order. -/
def IsRotation (c d : List α) : Prop := c.dropLast.IsRotated d.dropLast

/-- Every cycle is kept, in one of its rotations and no other one, and nothing else is. -/
structure KeepsEachOnce (kept cycles : List (List α)) : Prop where
  kept_of_cycle : ∀ c ∈ cycles, ∃! k, k ∈ kept ∧ IsRotation k c
  cycle_of_kept : ∀ k ∈ kept, ∃ c ∈ cycles, IsRotation k c
  apart : kept.Pairwise fun k l => ¬ IsRotation k l

section ClosedPath

variable {c : List α} {first m x : α} {rest members : List α}

theorem isClosedPath_closedPath (h : (first :: rest).Nodup) :
    IsClosedPath (closedPath first rest) := by
  refine ⟨by simp [closedPath], ?_, by rwa [dropLast_closedPath]⟩
  rw [closedPath, ← List.cons_append, List.getLast?_concat]
  rfl

theorem IsClosedPath.exists_eq (h : IsClosedPath c) : ∃ first rest, c = closedPath first rest := by
  obtain ⟨hstep, hclosed, -⟩ := h
  cases c with
  | nil => cases hstep
  | cons first rest =>
    cases rest using List.reverseRecOn with
    | nil => exact absurd hstep (by simp)
    | append_singleton front last =>
      rw [← List.cons_append, List.getLast?_concat, List.cons_append, List.head?_cons] at hclosed
      obtain rfl := Option.some.inj hclosed
      exact ⟨first, front, rfl⟩

theorem IsClosedPath.dropLast_ne_nil (h : IsClosedPath c) : c.dropLast ≠ [] := by
  obtain ⟨first, rest, rfl⟩ := h.exists_eq
  rw [dropLast_closedPath]
  exact List.cons_ne_nil first rest

theorem IsClosedPath.mem_dropLast_iff (h : IsClosedPath c) : x ∈ c.dropLast ↔ x ∈ c := by
  obtain ⟨first, rest, rfl⟩ := h.exists_eq
  rw [dropLast_closedPath, closedPath]
  simp only [List.mem_cons, List.mem_append, List.not_mem_nil, or_false]
  tauto

theorem eq_of_isRotated_cons (h : (m :: members).IsRotated (m :: rest))
    (hnodup : (m :: members).Nodup) : members = rest := by
  obtain ⟨n, hn, hrotate⟩ := List.isRotated_iff_mod.mp h
  obtain hn | rfl := Nat.lt_or_eq_of_le hn
  · have hhead : (m :: members)[n]? = (m :: members)[0]? := by
      rw [← List.head?_rotate hn, hrotate]
      rfl
    have hzero : n = 0 := (List.getElem?_inj hn hnodup).mp hhead
    rw [hzero, List.rotate_zero] at hrotate
    exact (List.cons.inj hrotate).2
  · rw [List.rotate_length] at hrotate
    exact (List.cons.inj hrotate).2

end ClosedPath

section Canonical

variable [BEq α] [LawfulBEq α] {le : α → α → Bool} {c d : List α} {cycles : List (List α)}
  (htrans : ∀ a b c, le a b → le b c → le a c) (htotal : ∀ a b, le a b ∨ le b a)

include htrans htotal

theorem exists_canonical_isRotated (hc : c.dropLast ≠ []) :
    ∃ m members, canonical le c = closedPath m members ∧
      (m :: members).IsRotated c.dropLast ∧ ∀ x ∈ c.dropLast, le m x := by
  obtain ⟨before, m, after, hm, hcanonical, hle⟩ := exists_canonical_eq htrans htotal hc
  refine ⟨m, after ++ before, hcanonical, ?_, hle⟩
  rw [hm, ← List.cons_append]
  exact List.isRotated_append

/-- A canonical form is its own canonical form, also that of a path that does not close. -/
theorem canonical_canonical (c : List α) : canonical le (canonical le c) = canonical le c := by
  by_cases hc : c.dropLast = []
  · have hself : canonical le c = c := by rw [canonical, hc]
    rw [hself, hself]
  · obtain ⟨m, members, hcanonical, hrotated, hle⟩ :=
      exists_canonical_isRotated htrans htotal hc
    rw [hcanonical]
    exact canonical_of_smallest fun x hx =>
      hle x (hrotated.mem_iff.mp (List.mem_cons_of_mem m hx))

theorem IsClosedPath.isRotation_canonical (h : IsClosedPath c) :
    IsRotation (canonical le c) c := by
  obtain ⟨m, members, hcanonical, hrotated, -⟩ :=
    exists_canonical_isRotated htrans htotal h.dropLast_ne_nil
  rwa [IsRotation, hcanonical, dropLast_closedPath]

theorem IsClosedPath.canonical (h : IsClosedPath c) : IsClosedPath (canonical le c) := by
  obtain ⟨m, members, hcanonical, hrotated, -⟩ :=
    exists_canonical_isRotated htrans htotal h.dropLast_ne_nil
  rw [hcanonical]
  exact isClosedPath_closedPath (hrotated.nodup_iff.mpr h.nodup)

theorem IsClosedPath.exists_least (h : IsClosedPath c) :
    ∃ m ∈ c, (Cycle.canonical le c).head? = some m ∧ (Cycle.canonical le c).getLast? = some m ∧
      ∀ x ∈ c, le m x := by
  obtain ⟨m, members, hcanonical, hrotated, hle⟩ :=
    exists_canonical_isRotated htrans htotal h.dropLast_ne_nil
  refine ⟨m, h.mem_dropLast_iff.mp (hrotated.mem_iff.mp List.mem_cons_self), ?_, ?_,
    fun x hx => hle x (h.mem_dropLast_iff.mpr hx)⟩
  · rw [hcanonical]
    rfl
  · rw [hcanonical, closedPath, ← List.cons_append, List.getLast?_concat]

variable (hantisymm : ∀ a b, le a b → le b a → a = b)

include hantisymm

/-- Rotations have the same smallest member, and entered there they are the same. -/
theorem canonical_eq_of_isRotation (hc : IsClosedPath c) (hd : IsClosedPath d)
    (h : IsRotation c d) : canonical le c = canonical le d := by
  obtain ⟨m, members, hcanonical, hrotated, hle⟩ :=
    exists_canonical_isRotated htrans htotal hc.dropLast_ne_nil
  obtain ⟨m', members', hcanonical', hrotated', hle'⟩ :=
    exists_canonical_isRotated htrans htotal hd.dropLast_ne_nil
  have hm : m ∈ d.dropLast := h.mem_iff.mp (hrotated.mem_iff.mp List.mem_cons_self)
  have hm' : m' ∈ c.dropLast := h.mem_iff.mpr (hrotated'.mem_iff.mp List.mem_cons_self)
  obtain rfl := hantisymm m m' (hle m' hm') (hle' m hm)
  have hmembers : (m :: members).IsRotated (m :: members') :=
    (hrotated.trans h).trans hrotated'.symm
  rw [hcanonical, hcanonical', eq_of_isRotated_cons hmembers (hrotated.nodup_iff.mpr hc.nodup)]

theorem canonical_eq_iff (hc : IsClosedPath c) (hd : IsClosedPath d) :
    canonical le c = canonical le d ↔ IsRotation c d := by
  refine ⟨fun h => ?_, canonical_eq_of_isRotation htrans htotal hantisymm hc hd⟩
  have hrotated := hc.isRotation_canonical htrans htotal
  rw [h] at hrotated
  exact hrotated.symm.trans (hd.isRotation_canonical htrans htotal)

theorem keepsEachOnce_eraseDups (h : ∀ c ∈ cycles, IsClosedPath c) :
    KeepsEachOnce (cycles.map (canonical le)).eraseDups cycles := by
  have hrotation := fun c hc => (h c hc).isRotation_canonical htrans htotal
  have hkept {k : List α} : k ∈ (cycles.map (canonical le)).eraseDups ↔
      ∃ c ∈ cycles, canonical le c = k := by rw [List.mem_eraseDups, List.mem_map]
  have heq := fun c hc d hd => canonical_eq_of_isRotation htrans htotal hantisymm (h c hc) (h d hd)
  refine ⟨fun c hc => ?_, fun k hk => ?_, ?_⟩
  · refine ⟨canonical le c, ⟨hkept.mpr ⟨c, hc, rfl⟩, hrotation c hc⟩, ?_⟩
    rintro k ⟨hk, hkc⟩
    obtain ⟨d, hd, rfl⟩ := hkept.mp hk
    exact heq d hd c hc ((hrotation d hd).symm.trans hkc)
  · obtain ⟨c, hc, rfl⟩ := hkept.mp hk
    exact ⟨c, hc, hrotation c hc⟩
  · refine (nodup_eraseDups _).imp_of_mem fun hk hl hne hkl => hne ?_
    obtain ⟨c, hc, rfl⟩ := hkept.mp hk
    obtain ⟨d, hd, rfl⟩ := hkept.mp hl
    exact heq c hc d hd (((hrotation c hc).symm.trans hkl).trans (hrotation d hd))

theorem keepsEachOnce_find (depth : Nat) (g : Adjacency α) : KeepsEachOnce (find le depth g)
    ((g.nodes.mergeSort le).flatMap fun start => search g depth start [start]) := by
  rw [find, ← List.map_flatMap]
  refine keepsEachOnce_eraseDups htrans htotal hantisymm fun c hc => ?_
  obtain ⟨start, -, hc⟩ := List.mem_flatMap.mp hc
  obtain ⟨first, rest, rfl, -, hring⟩ := isRing_of_mem_search hc
  exact isClosedPath_closedPath hring.nodup

end Canonical

end SchemaJoins.Cycle
