import SchemaJoins.Data.Access

/-! # Values that can be written

A value can be written exactly if all its parts can. What is read of a map that can
be written, and what is added to one, can be written again.
-/

namespace SchemaJoins.Value

variable {items : List Value} {entries : List (Value × Value)} {key v w : Value}

theorem areWritable_iff : areWritable items = true ↔ ∀ v ∈ items, v.isWritable = true := by
  induction items with
  | nil => simp [areWritable]
  | cons v items ih => simp [areWritable, ih]

theorem areEntriesWritable_iff : areEntriesWritable entries = true ↔
    ∀ e ∈ entries, e.1.isWritable = true ∧ e.2.isWritable = true := by
  induction entries with
  | nil => simp [areEntriesWritable]
  | cons e entries ih =>
    obtain ⟨k, v⟩ := e
    simp [areEntriesWritable, ih]

theorem isWritable_of_find? (h : areEntriesWritable entries = true)
    (hfind : find? entries key = some v) : v.isWritable = true := by
  obtain ⟨e, he, rfl⟩ := Option.map_eq_some_iff.mp hfind
  exact (areEntriesWritable_iff.mp h e (List.mem_of_find?_eq_some he)).2

theorem isWritable_getD_find? (h : areEntriesWritable entries = true) (hv : v.isWritable = true) :
    ((find? entries key).getD v).isWritable = true := by
  cases hfind : find? entries key with
  | none => exact hv
  | some w => exact isWritable_of_find? h hfind

theorem areEntriesWritable_put (h : areEntriesWritable entries = true)
    (hkey : key.isWritable = true) (hv : v.isWritable = true) :
    areEntriesWritable (put entries key v) = true := by
  induction entries with
  | nil => simp [put, areEntriesWritable, hkey, hv]
  | cons e entries ih =>
    obtain ⟨k, w⟩ := e
    simp only [areEntriesWritable, Bool.and_eq_true] at h
    rw [put]
    split
    · simp [areEntriesWritable, h, hv]
    · simp [areEntriesWritable, h, ih]

theorem isWritable_neg {n : Int} : (int (-n)).isWritable = (int n).isWritable := by
  rw [isWritable, isWritable, Int.natAbs_neg]

end SchemaJoins.Value
