/-! # The first that fits

A search through a list in order finds the first member that fits, and nothing
exactly if no member does.
-/

namespace SchemaJoins

variable {α β : Type} {P : α → Prop} {p : α → Bool} {f : α → Option β} {xs : List α} {x y : α}

def IsFirst (P : α → Prop) (xs : List α) (x : α) : Prop :=
  ∃ before after, xs = before ++ x :: after ∧ P x ∧ ∀ y ∈ before, ¬ P y

theorem IsFirst.mem (h : IsFirst P xs x) : x ∈ xs := by
  obtain ⟨before, after, rfl, -, -⟩ := h
  exact List.mem_append_right before List.mem_cons_self

theorem IsFirst.fits (h : IsFirst P xs x) : P x := by
  obtain ⟨_, _, -, hx, -⟩ := h
  exact hx

theorem find?_eq_some_iff_isFirst (hp : ∀ y ∈ xs, p y = true ↔ P y) :
    xs.find? p = some x ↔ IsFirst P xs x := by
  rw [List.find?_eq_some_iff_append]
  constructor
  · rintro ⟨hx, before, after, rfl, hbefore⟩
    refine ⟨before, after, rfl, (hp x (by simp)).mp hx, fun y hy hfits => ?_⟩
    have hnot := hbefore y hy
    rw [(hp y (List.mem_append_left _ hy)).mpr hfits] at hnot
    cases hnot
  · rintro ⟨before, after, rfl, hx, hbefore⟩
    refine ⟨(hp x (by simp)).mpr hx, before, after, rfl, fun y hy => ?_⟩
    rw [Bool.not_eq_true', ← Bool.not_eq_true, hp y (List.mem_append_left _ hy)]
    exact hbefore y hy

theorem findSome?_eq_some_iff_isFirst {z : β} :
    xs.findSome? f = some z ↔ ∃ x, IsFirst (fun y => ∃ w, f y = some w) xs x ∧ f x = some z := by
  rw [List.findSome?_eq_some_iff]
  have hnone (y : α) : f y = none ↔ ¬ ∃ w, f y = some w := by
    rw [← Option.isSome_iff_exists, Option.not_isSome_iff_eq_none]
  constructor
  · rintro ⟨before, x, after, rfl, hx, hbefore⟩
    exact ⟨x, ⟨before, after, rfl, ⟨z, hx⟩, fun y hy => (hnone y).mp (hbefore y hy)⟩, hx⟩
  · rintro ⟨x, ⟨before, after, rfl, -, hbefore⟩, hx⟩
    exact ⟨before, x, after, rfl, hx, fun y hy => (hnone y).mpr (hbefore y hy)⟩

theorem exists_isFirst_iff : (∃ x, IsFirst P xs x) ↔ ∃ x ∈ xs, P x := by
  classical
  have hp : ∀ y ∈ xs, decide (P y) = true ↔ P y := fun _ _ => decide_eq_true_iff
  simp only [← find?_eq_some_iff_isFirst hp, ← Option.isSome_iff_exists, List.find?_isSome,
    decide_eq_true_iff]

theorem IsFirst.unique (h : IsFirst P xs x) (h' : IsFirst P xs y) : x = y := by
  classical
  have hp : ∀ y ∈ xs, decide (P y) = true ↔ P y := fun _ _ => decide_eq_true_iff
  rw [← find?_eq_some_iff_isFirst hp] at h h'
  exact Option.some.inj (h.symm.trans h')

end SchemaJoins
