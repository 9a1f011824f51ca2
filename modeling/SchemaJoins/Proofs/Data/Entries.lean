import SchemaJoins.Data.Access

/-! # Entries under text keys

A text is the same key as no other value, so that what is written under a text
is found under it and under no other text.
-/

namespace SchemaJoins.Value

variable {entries : List (Value × Value)} {s t : String} {v : Value}

theorem sameKey_text {k : Value} : sameKey k (.text s) = true ↔ k = .text s := by
  cases k with
  | text t => simp [sameKey]
  | _ => simp [sameKey, numeric?]

@[simp] theorem find?_nil (key : Value) : find? [] key = none := rfl

theorem find?_cons (k w key : Value) :
    find? ((k, w) :: entries) key = if sameKey k key then some w else find? entries key := by
  rw [find?, List.find?_cons]
  cases sameKey k key <;> rfl

theorem find?_text_cons (t : String) (w : Value) : find? ((.text t, w) :: entries) (.text s) =
    if s = t then some w else find? entries (.text s) := by
  rw [find?_cons]
  by_cases h : s = t
  · rw [if_pos h, if_pos (sameKey_text.mpr (h ▸ rfl))]
  · rw [if_neg h, if_neg fun hs => h (text.inj (sameKey_text.mp hs)).symm]

theorem text_sameKey {k : Value} : sameKey (.text s) k = true ↔ k = .text s := by
  cases k with
  | text t =>
    rw [sameKey, beq_iff_eq, text.injEq]
    exact eq_comm
  | _ => simp [sameKey, numeric?]

theorem find?_put_key (k : Value) : find? (put entries k v) (.text s) =
    if sameKey k (.text s) = true then some v else find? entries (.text s) := by
  induction entries with
  | nil => rw [put, find?_cons]
  | cons e entries ih =>
    obtain ⟨k', w⟩ := e
    rw [put]
    by_cases hk : k = .text s
    · subst hk
      rw [if_pos (sameKey_text.mpr rfl)] at ih ⊢
      split
      · rename_i hk'
        rw [find?_cons, if_pos hk']
      · rename_i hk'
        rw [find?_cons, if_neg hk', ih]
    · -- the written key is another one, also where it takes the place of an equal one
      have hne : ¬ sameKey k (.text s) = true := fun h => hk (sameKey_text.mp h)
      rw [if_neg hne] at ih ⊢
      split
      · rename_i hk'
        have hne' : ¬ sameKey k' (.text s) = true := by
          intro h
          obtain rfl := sameKey_text.mp h
          exact hk (text_sameKey.mp hk')
        rw [find?_cons, find?_cons, if_neg hne', if_neg hne']
      · rw [find?_cons, find?_cons, ih]

theorem find?_put : find? (put entries (.text t) v) (.text s) =
    if t = s then some v else find? entries (.text s) := by
  rw [find?_put_key]
  simp [sameKey]

theorem item_map_eq_ok : (map entries).item s = .ok v ↔ find? entries (.text s) = some v := by
  rw [item]
  cases find? entries (.text s) <;> simp

theorem item_eq_ok {w : Value} :
    w.item s = .ok v ↔ ∃ entries, w = .map entries ∧ find? entries (.text s) = some v := by
  constructor
  · intro h
    cases w with
    | map entries => exact ⟨entries, rfl, item_map_eq_ok.mp h⟩
    | _ => cases h
  · rintro ⟨entries, rfl, h⟩
    exact item_map_eq_ok.mpr h

def HasDistinctKeys (entries : List (Value × Value)) : Prop :=
  entries.Pairwise fun e f => sameKey e.1 f.1 = false

theorem find?_eq_none : find? entries (.text s) = none ↔ ∀ e ∈ entries, e.1 ≠ .text s := by
  rw [find?, Option.map_eq_none_iff, List.find?_eq_none]
  simp only [sameKey_text, ne_eq]

theorem find?_foldl_put {written : List (Value × Value)} (h : HasDistinctKeys written) :
    find? (written.foldl (fun es (k, v) => put es k v) entries) (.text s) =
      (find? written (.text s)).or (find? entries (.text s)) := by
  induction written generalizing entries with
  | nil => rfl
  | cons e written ih =>
    obtain ⟨k, v⟩ := e
    obtain ⟨hfirst, hrest⟩ := List.pairwise_cons.mp h
    rw [List.foldl_cons, ih hrest, find?_put_key, find?_cons]
    by_cases hk : sameKey k (.text s) = true
    · have hnone : find? written (.text s) = none := by
        refine find?_eq_none.mpr fun f hf hkey => ?_
        have := hfirst f hf
        rw [hkey, hk] at this
        cases this
      rw [if_pos hk, if_pos hk, hnone, Option.none_or, Option.some_or]
    · rw [if_neg hk, if_neg hk]

theorem find?_record (fields : List (String × Value)) (key : String) :
    find? (fields.map fun (k, v) => (.text k, v)) (.text key) =
      (fields.find? (·.1 == key)).map (·.2) := by
  induction fields with
  | nil => rfl
  | cons field fields ih =>
    obtain ⟨k, w⟩ := field
    have hk : sameKey (.text k) (.text key) = (k == key) := by rw [sameKey]
    rw [List.map_cons, find?_cons, ih, List.find?_cons, hk]
    cases k == key <;> rfl

theorem get?_record (fields : List (String × Value)) (key : String) :
    (record fields).get? key = .ok ((fields.find? (·.1 == key)).map (·.2)) := by
  rw [← find?_record]
  rfl

end SchemaJoins.Value
