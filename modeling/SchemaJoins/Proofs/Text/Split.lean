import Mathlib.Data.List.Basic
import SchemaJoins.Text.Split

/-! # Parts between separators

A list that is joined of parts falls into what its parts fall into, and no part
that it falls into has the separator.
-/

namespace SchemaJoins.Text

theorem splitOn_eq (separator : Char) (cs : List Char) :
    splitOn separator cs = cs.splitOn separator := by
  induction cs with
  | nil => rw [splitOn, List.splitOn_nil]
  | cons c cs ih =>
    rw [splitOn, ih, List.splitOn_cons_eq_if_modifyHead]
    by_cases hc : c = separator
    · rw [if_pos hc, if_pos (beq_iff_eq.mpr hc)]
    · rw [if_neg hc, if_neg fun h => hc (beq_iff_eq.mp h)]
      cases hparts : cs.splitOn separator with
      | nil => exact absurd hparts (List.splitOn_ne_nil separator cs)
      | cons part parts => rfl

variable {α : Type} {x : α}

theorem mem_of_mem_intercalate {y : α} : {parts : List (List α)} → y ∈ [x].intercalate parts →
    y = x ∨ ∃ part ∈ parts, y ∈ part
  | [], h => by simp at h
  | [part], h => .inr ⟨part, List.mem_singleton_self part, by simpa using h⟩
  | part :: next :: parts, h => by
    rw [List.intercalate_cons_of_ne_nil (List.cons_ne_nil next parts), List.append_assoc,
      List.mem_append, List.singleton_append, List.mem_cons] at h
    obtain h | rfl | h := h
    · exact .inr ⟨part, List.mem_cons_self, h⟩
    · exact .inl rfl
    · obtain h | ⟨other, hother, h⟩ := mem_of_mem_intercalate h
      · exact .inl h
      · exact .inr ⟨other, List.mem_cons_of_mem part hother, h⟩

variable [BEq α] [LawfulBEq α]

theorem splitOn_intercalate_eq_flatMap : {parts : List (List α)} → parts ≠ [] →
    ([x].intercalate parts).splitOn x = parts.flatMap (·.splitOn x)
  | [], h => absurd rfl h
  | [part], _ => by simp [List.intercalate]
  | part :: next :: parts, _ => by
    have hrest : next :: parts ≠ [] := List.cons_ne_nil next parts
    rw [List.intercalate_cons_of_ne_nil hrest, List.append_assoc, List.singleton_append,
      List.splitOn_append_cons_self, splitOn_intercalate_eq_flatMap hrest]
    exact List.flatMap_cons.symm

theorem splitOn_intercalate_texts {separator : String} {c : Char} {names : List String}
    (hc : separator.toList = [c]) (h : names ≠ []) :
    (separator.intercalate names).toList.splitOn c =
      names.flatMap fun name => name.toList.splitOn c := by
  have hlists : names.map String.toList ≠ [] := fun hnil => h (List.map_eq_nil_iff.mp hnil)
  rw [String.toList_intercalate, hc, splitOn_intercalate_eq_flatMap hlists, List.flatMap_map]

theorem splitOn_intercalate_of_notMem {separator : String} {c : Char} {names : List String}
    (hc : separator.toList = [c]) (hne : names ≠ []) (h : ∀ name ∈ names, c ∉ name.toList) :
    splitOn c (separator.intercalate names).toList = names.map String.toList := by
  have hparts : ∀ name ∈ names, name.toList.splitOn c = [name.toList] := fun name hname =>
    List.splitOn_eq_singleton (h name hname)
  rw [splitOn_eq, splitOn_intercalate_texts hc hne, List.flatMap_congr hparts]
  exact List.map_eq_flatMap.symm

theorem exists_toList_intercalate (separator name : String) (names : List String) :
    ∃ rest, (separator.intercalate (name :: names)).toList = name.toList ++ rest := by
  cases names with
  | nil => exact ⟨[], by simp⟩
  | cons next names =>
    rw [String.intercalate_cons_cons, String.toList_append, String.toList_append,
      List.append_assoc]
    exact ⟨_, rfl⟩

theorem notMem_of_mem_splitOn {xs part : List α} (h : part ∈ xs.splitOn x) : x ∉ part := by
  induction xs generalizing part with
  | nil =>
    rw [List.splitOn_nil, List.mem_singleton] at h
    rw [h]
    exact List.not_mem_nil
  | cons y xs ih =>
    rw [List.splitOn_cons_eq_if_modifyHead] at h
    by_cases hy : (y == x) = true
    · rw [if_pos hy] at h
      obtain rfl | h := List.mem_cons.mp h
      · exact List.not_mem_nil
      · exact ih h
    · rw [if_neg hy] at h
      cases hparts : xs.splitOn x with
      | nil => exact absurd hparts (List.splitOn_ne_nil x xs)
      | cons first rest =>
        rw [hparts, List.modifyHead_cons] at h
        rw [hparts] at ih
        obtain rfl | h := List.mem_cons.mp h
        · rw [List.mem_cons, not_or]
          exact ⟨fun hx => hy (beq_iff_eq.mpr hx.symm), ih List.mem_cons_self⟩
        · exact ih (List.mem_cons_of_mem first h)

end SchemaJoins.Text
