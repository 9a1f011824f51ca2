import Mathlib.Data.List.Induction

/-! # What comes first and what comes again

Of the members of a list that are the same, the first is kept and all others come again.
A member that is added at the end of the list is added at the end of one of the two parts.
-/

namespace SchemaJoins

variable {α : Type} {same : α → α → Bool} {xs kept again : List α} {x : α}

/-- From left to right, a member of the list is kept, unless one that is the same has been
kept before it; then it comes again. -/
inductive KeepsFirsts (same : α → α → Bool) : List α → List α → List α → Prop where
  | nil : KeepsFirsts same [] [] []
  | first {xs kept again : List α} {x : α} : KeepsFirsts same xs kept again →
      (∀ y ∈ kept, same x y = false) → KeepsFirsts same (xs ++ [x]) (kept ++ [x]) again
  | again {xs kept again : List α} {x : α} : KeepsFirsts same xs kept again →
      (∃ y ∈ kept, same x y = true) → KeepsFirsts same (xs ++ [x]) kept (again ++ [x])

namespace KeepsFirsts

theorem sublist (h : KeepsFirsts same xs kept again) : kept.Sublist xs := by
  induction h with
  | nil => exact .slnil
  | first _ _ ih => exact ih.append (.refl _)
  | again _ _ ih => exact ih.trans (List.sublist_append_left _ _)

theorem covers (h : KeepsFirsts same xs kept again) (hx : x ∈ xs) :
    x ∈ kept ∨ ∃ y ∈ kept, same x y = true := by
  induction h with
  | nil => cases hx
  | first _ _ ih =>
    obtain hx | hx := List.mem_append.mp hx
    · refine (ih hx).imp (List.mem_append_left _) ?_
      rintro ⟨y, hy, hsame⟩
      exact ⟨y, List.mem_append_left _ hy, hsame⟩
    · exact .inl (List.mem_append_right _ hx)
  | again _ hold ih =>
    obtain hx | hx := List.mem_append.mp hx
    · exact ih hx
    · exact .inr (List.mem_singleton.mp hx ▸ hold)

theorem distinct (h : KeepsFirsts same xs kept again) :
    kept.Pairwise fun x y => same y x = false := by
  induction h with
  | nil => exact .nil
  | first _ hnew ih =>
    refine List.pairwise_append.mpr ⟨ih, List.pairwise_singleton _ _, fun y hy x hx => ?_⟩
    obtain rfl := List.mem_singleton.mp hx
    exact hnew y hy
  | again _ _ ih => exact ih

theorem append_singleton (h : KeepsFirsts same xs kept again) (x : α) :
    KeepsFirsts same (xs ++ [x]) (if kept.any (same x) then kept else kept ++ [x])
      (if kept.any (same x) then again ++ [x] else again) := by
  cases hx : kept.any (same x) with
  | true => exact h.again (List.any_eq_true.mp hx)
  | false => exact h.first fun y hy => by simpa using List.any_eq_false.mp hx y hy

end KeepsFirsts

end SchemaJoins
