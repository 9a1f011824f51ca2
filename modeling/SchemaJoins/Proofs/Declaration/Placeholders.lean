import Mathlib.Data.List.Induction
import Mathlib.Data.List.Nodup
import SchemaJoins.Declaration.Placeholder
import SchemaJoins.Proofs.Text.Identifier

/-! # The scan for placeholders

A placeholder stands behind a colon that no other colon stands in front of, and its name
reaches as far as it can. The scan looks at every character of a text, so that it finds the
placeholder at each place where one stands. A search that goes on behind each name that it
has found skips no place where one could stand, because there is no colon in a name.
-/

namespace SchemaJoins.Placeholder

variable {name template : String} {before : Option Char} {cs rest word : List Char} {i j : Nat}

section Occurrences

theorem occurrences_cons_of_ne {c : Char} (h : c ≠ ':') :
    occurrences before (c :: cs) = occurrences (some c) cs := by
  rw [occurrences, if_neg]
  simp [h]

theorem occurrences_append (h : ':' ∉ word) :
    occurrences before (word ++ rest) = occurrences (word.getLast?.or before) rest := by
  induction word generalizing before with
  | nil => rfl
  | cons c word ih =>
    obtain ⟨hc, hword⟩ := not_or.mp (mt List.mem_cons.mpr h)
    rw [List.cons_append, occurrences_cons_of_ne (Ne.symm hc), ih hword, List.getLast?_cons]
    cases word.getLast? <;> rfl

theorem occurrences_eq_nil (h : ':' ∉ cs) : occurrences before cs = [] := by
  have happend : occurrences before (cs ++ []) = occurrences (cs.getLast?.or before) [] :=
    occurrences_append h
  rw [List.append_nil] at happend
  rw [happend, occurrences]

end Occurrences

section Matches

/-- The names that a search from left to right takes up one after the other: behind a name
it goes on with what follows the name. -/
def successive (before : Option Char) : List Char → List (List Char)
  | [] => []
  | c :: cs =>
      if c == ':' && before != some ':' then
        match Text.identifierAt? cs with
        | some name => name :: successive name.getLast? (cs.drop name.length)
        | none => successive (some c) cs
      else successive (some c) cs
termination_by cs => cs.length
decreasing_by all_goals simp only [List.length_drop, List.length_cons]; omega

theorem successive_eq_occurrences (before : Option Char) (cs : List Char) :
    successive before cs = occurrences before cs := by
  fun_induction successive before cs with
  | case1 before => rfl
  | case2 before c cs hcolon word hword ih =>
    obtain ⟨rest, rfl⟩ := (Text.isLongestIdentifier_of_identifierAt? hword).starts
    have hname := Text.isIdentifierWord_of_identifierAt? hword
    have hfree : ':' ∉ word := Text.not_mem_of_isIdentifierWord (by decide) hname
    have hlast : word.getLast?.or (some c) = word.getLast? := by
      cases word with
      | nil => cases hname
      | cons d word => simp [List.getLast?_cons]
    rw [List.drop_left] at ih
    rw [List.drop_left, ih, occurrences, if_pos hcolon, hword, occurrences_append hfree, hlast]
  | case3 before c cs hcolon hnone ih => rw [ih, occurrences, if_pos hcolon, hnone]
  | case4 before c cs hcolon ih => rw [ih, occurrences, if_neg hcolon]

end Matches

section Places

def charBefore (before : Option Char) (cs : List Char) : Nat → Option Char
  | 0 => before
  | i + 1 => cs[i]?

def nameAt? (before : Option Char) (cs : List Char) (i : Nat) : Option (List Char) :=
  if cs[i]? = some ':' ∧ charBefore before cs i ≠ some ':' then
    Text.identifierAt? (cs.drop (i + 1))
  else none

theorem nameAt?_succ (before : Option Char) (c : Char) (cs : List Char) (i : Nat) :
    nameAt? before (c :: cs) (i + 1) = nameAt? (some c) cs i := by
  cases i <;> rfl

theorem occurrences_cons (before : Option Char) (c : Char) (cs : List Char) :
    occurrences before (c :: cs) =
      (nameAt? before (c :: cs) 0).toList ++ occurrences (some c) cs := by
  have hfirst : nameAt? before (c :: cs) 0 =
      if c = ':' ∧ before ≠ some ':' then Text.identifierAt? cs else none := by
    simp [nameAt?, charBefore]
  rw [occurrences, hfirst]
  by_cases hcolon : c = ':' ∧ before ≠ some ':'
  · rw [if_pos hcolon, if_pos (by simpa using hcolon)]
    cases Text.identifierAt? cs <;> rfl
  · rw [if_neg hcolon, if_neg (by simpa using hcolon)]
    rfl

theorem occurrences_eq_filterMap (before : Option Char) (cs : List Char) :
    occurrences before cs = (List.range cs.length).filterMap (nameAt? before cs) := by
  induction cs generalizing before with
  | nil => rfl
  | cons c cs ih =>
    have hrest : (List.range cs.length).filterMap (nameAt? before (c :: cs) ∘ Nat.succ) =
        occurrences (some c) cs := by
      rw [ih]
      exact List.filterMap_congr fun i _ => nameAt?_succ before c cs i
    rw [List.length_cons, List.range_succ_eq_map, List.filterMap_cons, List.filterMap_map, hrest,
      occurrences_cons]
    cases nameAt? before (c :: cs) 0 <;> rfl

/-- At the place stands a colon, with no other colon in front of it, and the name is the
longest one behind it. -/
structure StandsAt (template : String) (i : Nat) (name : String) : Prop where
  colon : template.toList[i]? = some ':'
  single : ∀ j, i = j + 1 → template.toList[j]? ≠ some ':'
  longest : Text.IsLongestIdentifier (template.toList.drop (i + 1)) name.toList

theorem nameAt?_eq_some_iff :
    (nameAt? none template.toList i).map String.ofList = some name ↔ StandsAt template i name := by
  have hsingle : charBefore none template.toList i ≠ some ':' ↔
      ∀ j, i = j + 1 → template.toList[j]? ≠ some ':' := by
    cases i with
    | zero => simp [charBefore]
    | succ i => simp [charBefore]
  constructor
  · intro h
    obtain ⟨word, hword, rfl⟩ := Option.map_eq_some_iff.mp h
    obtain ⟨⟨hcolon, hbefore⟩, hword⟩ := Option.ite_none_right_eq_some.mp hword
    refine ⟨hcolon, hsingle.mp hbefore, ?_⟩
    rw [String.toList_ofList]
    exact Text.identifierAt?_eq_some_iff.mp hword
  · intro h
    rw [nameAt?, if_pos ⟨h.colon, hsingle.mpr h.single⟩,
      Text.identifierAt?_eq_some_iff.mpr h.longest, Option.map_some, String.ofList_toList]

theorem StandsAt.lt_length (h : StandsAt template i name) : i < template.toList.length :=
  (List.getElem?_eq_some_iff.mp h.colon).1

end Places

section Order

variable {α : Type} {f : Nat → Option α} {places : List Nat} {k : Nat} {x y : α}

/-- A place that gives the one comes before every place that gives the other. -/
def Precedes (f : Nat → Option α) (places : List Nat) (x y : α) : Prop :=
  ∃ i ∈ places, f i = some x ∧ ∀ j ∈ places, f j = some y → i < j

theorem Precedes.concat (h : Precedes f places x y) (hlt : ∀ i ∈ places, i < k) :
    Precedes f (places ++ [k]) x y := by
  obtain ⟨i, hi, hx, hfirst⟩ := h
  refine ⟨i, List.mem_append_left _ hi, hx, fun j hj hy => ?_⟩
  rcases List.mem_append.mp hj with hj | hj
  · exact hfirst j hj hy
  · rw [List.mem_singleton.mp hj]
    exact hlt i hi

theorem precedes_concat (hx : x ∈ places.filterMap f) (hy : y ∉ places.filterMap f)
    (hlt : ∀ i ∈ places, i < k) : Precedes f (places ++ [k]) x y := by
  obtain ⟨i, hi, hfx⟩ := List.mem_filterMap.mp hx
  refine ⟨i, List.mem_append_left _ hi, hfx, fun j hj hfy => ?_⟩
  rcases List.mem_append.mp hj with hj | hj
  · exact absurd (List.mem_filterMap.mpr ⟨j, hj, hfy⟩) hy
  · rw [List.mem_singleton.mp hj]
    exact hlt i hi

end Order

section Distinct

variable {α : Type} [BEq α] [LawfulBEq α] {f : Nat → Option α} {places : List Nat} {x : α}
  {xs : List α}

theorem distinct_concat (xs : List α) (x : α) :
    distinct (xs ++ [x]) = if x ∈ distinct xs then distinct xs else distinct xs ++ [x] := by
  simp only [distinct, List.foldl_append, List.foldl_cons, List.foldl_nil, List.contains_iff_mem]

theorem mem_distinct : x ∈ distinct xs ↔ x ∈ xs := by
  induction xs using List.reverseRecOn with
  | nil => rfl
  | append_singleton xs y ih =>
    rw [distinct_concat, List.mem_append, List.mem_singleton, ← ih]
    by_cases hy : y ∈ distinct xs
    · rw [if_pos hy]
      refine ⟨Or.inl, ?_⟩
      rintro (hx | rfl)
      · exact hx
      · exact hy
    · rw [if_neg hy, List.mem_append, List.mem_singleton]

theorem nodup_distinct (xs : List α) : (distinct xs).Nodup := by
  induction xs using List.reverseRecOn with
  | nil => exact List.nodup_nil
  | append_singleton xs x ih =>
    rw [distinct_concat]
    by_cases hx : x ∈ distinct xs
    · rwa [if_pos hx]
    · rw [if_neg hx, ← List.concat_eq_append]
      exact ih.concat hx

theorem pairwise_distinct_filterMap (h : places.Pairwise (· < ·)) :
    (distinct (places.filterMap f)).Pairwise (Precedes f places) := by
  induction places using List.reverseRecOn with
  | nil => exact List.Pairwise.nil
  | append_singleton places k ih =>
    obtain ⟨hplaces, -, hlast⟩ := List.pairwise_append.mp h
    have hlt : ∀ i ∈ places, i < k := fun i hi => hlast i hi k (List.mem_singleton_self k)
    have hold : (distinct (places.filterMap f)).Pairwise (Precedes f (places ++ [k])) :=
      (ih hplaces).imp fun hxy => hxy.concat hlt
    cases hk : f k with
    | none =>
      have hnone : (places ++ [k]).filterMap f = places.filterMap f := by simp [hk]
      rw [hnone]
      exact hold
    | some y =>
      have hsome : (places ++ [k]).filterMap f = places.filterMap f ++ [y] := by simp [hk]
      rw [hsome, distinct_concat]
      by_cases hy : y ∈ distinct (places.filterMap f)
      · rwa [if_pos hy]
      · rw [if_neg hy, List.pairwise_append]
        refine ⟨hold, List.pairwise_singleton _ _, fun x hx z hz => ?_⟩
        obtain rfl := List.mem_singleton.mp hz
        exact precedes_concat (mem_distinct.mp hx) (fun hm => hy (mem_distinct.mpr hm)) hlt

end Distinct

section Find

theorem find_eq_filterMap (template : String) :
    find template = distinct ((List.range template.toList.length).filterMap fun i =>
      (nameAt? none template.toList i).map String.ofList) := by
  rw [find, occurrences_eq_filterMap, List.map_filterMap]

theorem mem_find_iff : name ∈ find template ↔ ∃ i, StandsAt template i name := by
  rw [find_eq_filterMap, mem_distinct, List.mem_filterMap]
  simp only [nameAt?_eq_some_iff, List.mem_range]
  constructor
  · rintro ⟨i, -, h⟩
    exact ⟨i, h⟩
  · rintro ⟨i, h⟩
    exact ⟨i, h.lt_length, h⟩

/-- The one name stands in the template before the other does anywhere. -/
def IsNamedBefore (template first second : String) : Prop :=
  ∃ i, StandsAt template i first ∧ ∀ j, StandsAt template j second → i < j

theorem pairwise_find (template : String) :
    (find template).Pairwise (IsNamedBefore template) := by
  rw [find_eq_filterMap]
  refine (pairwise_distinct_filterMap List.pairwise_lt_range).imp ?_
  rintro first second ⟨i, -, hfirst, hlater⟩
  refine ⟨i, nameAt?_eq_some_iff.mp hfirst, fun j hj => ?_⟩
  exact hlater j (List.mem_range.mpr hj.lt_length) (nameAt?_eq_some_iff.mpr hj)

/-- The names of the placeholders of a template are listed once each, in the order of their
first places. They are all the names that stand behind single colons, never those of casts,
and a search that goes on behind each name that it finds misses none of them. -/
theorem find_lists_placeholders (template : String) :
    (find template).Nodup ∧
    (∀ name, name ∈ find template ↔ ∃ i, StandsAt template i name) ∧
    (find template).Pairwise (IsNamedBefore template) ∧
    (∀ i name, template.toList[i]? = some ':' → ¬ StandsAt template (i + 1) name) ∧
    find template = distinct ((successive none template.toList).map String.ofList) := by
  refine ⟨nodup_distinct _, fun _ => mem_find_iff, pairwise_find template, ?_, ?_⟩
  · intro i name hcolon h
    exact h.single i rfl hcolon
  · rw [successive_eq_occurrences, find]

example : find ":b:a::text = :a AND :::c OR :1 = :b2" = ["b", "a", "b2"] := by decide

end Find

end SchemaJoins.Placeholder
