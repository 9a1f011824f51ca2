import Mathlib.Data.List.Chain
import Mathlib.Data.List.Nodup
import SchemaJoins.Cycle.Basic

/-! # Closed paths

A ring goes along edges through distinct members and back to the first of them.
It can be entered at each of its members; rotating its closed path to the
smallest member enters it there and changes nothing else.
-/

namespace SchemaJoins.Cycle

variable {α : Type}

def closedPath (first : α) (rest : List α) : List α := first :: (rest ++ [first])

theorem dropLast_closedPath (first : α) (rest : List α) :
    (closedPath first rest).dropLast = first :: rest :=
  show ((first :: rest) ++ [first]).dropLast = first :: rest from List.dropLast_concat

/-- Distinct members, each with an edge to the next and the last one to the first. -/
structure IsRing (edge : α → α → Prop) (first : α) (rest : List α) : Prop where
  nodup : (first :: rest).Nodup
  chain : (closedPath first rest).IsChain edge

section Ring

variable {edge : α → α → Prop} {first m : α} {rest before after : List α}

theorem IsRing.enter (h : IsRing edge first rest) (hm : first :: rest = before ++ m :: after) :
    IsRing edge m (after ++ before) := by
  constructor
  · have hp : (before ++ m :: after).Perm (m :: (after ++ before)) :=
      List.perm_append_comm.trans (by simp)
    exact hp.nodup_iff.mp (hm ▸ h.nodup)
  · have hc : (before ++ m :: (after ++ [first])).IsChain edge := by
      have he : closedPath first rest = (first :: rest) ++ [first] := rfl
      simpa [he, hm] using h.chain
    obtain ⟨hb, ha⟩ := List.isChain_split.mp hc
    cases before with
    | nil =>
      obtain ⟨rfl, rfl⟩ := List.cons.inj hm
      simpa [closedPath] using ha
    | cons f before =>
      obtain ⟨rfl, rfl⟩ := List.cons.inj hm
      have hj : ((m :: after) ++ first :: (before ++ [m])).IsChain edge :=
        List.isChain_split.mpr ⟨by simpa using ha, by simpa using hb⟩
      simpa [closedPath] using hj

theorem IsRing.exists_edge (h : IsRing edge first rest) : ∃ next, edge first next := by
  have hc := h.chain
  cases rest with
  | nil => exact ⟨first, (List.isChain_cons_cons.mp hc).1⟩
  | cons next rest => exact ⟨next, (List.isChain_cons_cons.mp hc).1⟩

theorem IsRing.exists_edge_of_mem (h : IsRing edge first rest) (hm : m ∈ closedPath first rest) :
    ∃ next, edge m next := by
  have hmem : m ∈ first :: rest := by
    rw [closedPath, List.mem_cons, List.mem_append, List.mem_singleton] at hm
    rw [List.mem_cons]
    tauto
  obtain ⟨before, after, hsplit⟩ := List.append_of_mem hmem
  exact (h.enter hsplit).exists_edge

end Ring

section Smallest

variable {le : α → α → Bool}

theorem smallest_cons (first x : α) (rest : List α) :
    smallest le first (x :: rest) = smallest le (if le first x then first else x) rest := rfl

theorem smallest_mem (le : α → α → Bool) (first : α) (rest : List α) :
    smallest le first rest ∈ first :: rest := by
  induction rest generalizing first with
  | nil => exact List.mem_cons_self
  | cons x rest ih =>
    rw [smallest_cons]
    have h := ih (if le first x then first else x)
    split at h <;> grind

theorem smallest_le (htrans : ∀ a b c, le a b → le b c → le a c)
    (htotal : ∀ a b, le a b ∨ le b a) (first : α) (rest : List α) :
    ∀ x ∈ first :: rest, le (smallest le first rest) x := by
  induction rest generalizing first with
  | nil =>
    intro x hx
    obtain rfl := List.mem_singleton.mp hx
    exact (htotal x x).elim id id
  | cons y rest ih =>
    intro x hx
    rw [smallest_cons]
    have h := ih (if le first y then first else y)
    have hhead := h _ List.mem_cons_self
    rcases List.mem_cons.mp hx with rfl | hx
    · by_cases hxy : le x y
      · rw [if_pos hxy] at hhead ⊢
        exact hhead
      · rw [if_neg hxy] at hhead ⊢
        exact htrans _ _ _ hhead ((htotal x y).resolve_left hxy)
    · rcases List.mem_cons.mp hx with rfl | hx
      · by_cases hfx : le first x
        · rw [if_pos hfx] at hhead ⊢
          exact htrans _ _ _ hhead hfx
        · rw [if_neg hfx] at hhead ⊢
          exact hhead
      · exact h x (List.mem_cons_of_mem _ hx)

theorem smallest_eq_first {first : α} {rest : List α} (h : ∀ x ∈ rest, le first x) :
    smallest le first rest = first := by
  induction rest with
  | nil => rfl
  | cons x rest ih =>
    rw [smallest_cons, if_pos (h x List.mem_cons_self)]
    exact ih fun y hy => h y (List.mem_cons_of_mem _ hy)

end Smallest

section Canonical

variable [BEq α] [LawfulBEq α] {le : α → α → Bool}

theorem takeWhile_ne {m : α} {before after : List α} (h : m ∉ before) :
    (before ++ m :: after).takeWhile (· != m) = before := by
  rw [List.takeWhile_append_of_pos fun x hx => by
    simpa using fun he : x = m => h (he ▸ hx)]
  simp

theorem dropWhile_ne {m : α} {before after : List α} (h : m ∉ before) :
    (before ++ m :: after).dropWhile (· != m) = m :: after := by
  rw [List.dropWhile_append_of_pos fun x hx => by
    simpa using fun he : x = m => h (he ▸ hx)]
  simp

theorem close_append {m : α} {before after : List α} (h : m ∉ before) :
    close (before ++ m :: after) m = closedPath m after := by
  rw [close, dropWhile_ne h]
  rfl

theorem canonical_of_dropLast {c : List α} {first m : α} {rest before after : List α}
    (hc : c.dropLast = first :: rest) (hm : first :: rest = before ++ m :: after)
    (hs : smallest le first rest = m) (hb : m ∉ before) :
    canonical le c = closedPath m (after ++ before) := by
  simp only [canonical, hc, hs]
  rw [hm, takeWhile_ne hb, dropWhile_ne hb]
  simp [closedPath]

theorem canonical_of_smallest {first : α} {rest : List α} (h : ∀ x ∈ rest, le first x) :
    canonical le (closedPath first rest) = closedPath first rest := by
  have hm : first :: rest = [] ++ first :: rest := rfl
  rw [canonical_of_dropLast (dropLast_closedPath first rest) hm (smallest_eq_first h)
    List.not_mem_nil, List.append_nil]

section Order

variable (htrans : ∀ a b c, le a b → le b c → le a c) (htotal : ∀ a b, le a b ∨ le b a)

include htrans htotal

/-- The canonical form enters a path where its smallest member first stands. -/
theorem exists_canonical_eq {c : List α} (hc : c.dropLast ≠ []) :
    ∃ before m after, c.dropLast = before ++ m :: after ∧
      canonical le c = closedPath m (after ++ before) ∧ ∀ x ∈ c.dropLast, le m x := by
  obtain ⟨first, rest, hmembers⟩ := List.exists_cons_of_ne_nil hc
  obtain ⟨before, after, hm, hb⟩ := List.eq_append_cons_of_mem (smallest_mem le first rest)
  refine ⟨before, _, after, hmembers.trans hm, canonical_of_dropLast hmembers hm rfl hb, ?_⟩
  rw [hmembers]
  exact smallest_le htrans htotal first rest

theorem IsRing.canonical {edge : α → α → Prop} {first : α} {rest : List α}
    (h : IsRing edge first rest) :
    ∃ m members, Cycle.canonical le (closedPath first rest) = closedPath m members ∧
      IsRing edge m members ∧ members.length = rest.length ∧ ∀ x ∈ members, le m x := by
  have hmembers := dropLast_closedPath first rest
  have hne : (closedPath first rest).dropLast ≠ [] := hmembers ▸ List.cons_ne_nil first rest
  obtain ⟨before, m, after, hm, hcanonical, hle⟩ := exists_canonical_eq htrans htotal hne
  rw [hmembers] at hm hle
  refine ⟨m, after ++ before, hcanonical, h.enter hm, ?_, fun x hx => hle x ?_⟩
  · have hl := congrArg List.length hm
    simp only [List.length_cons, List.length_append] at hl ⊢
    omega
  · rw [hm]
    grind

end Order

end Canonical

end SchemaJoins.Cycle
