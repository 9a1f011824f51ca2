import Mathlib.Data.List.GetD
import Mathlib.Order.Compare
import Mathlib.Order.PiLex
import SchemaJoins.Adapter.Version
import SchemaJoins.Proofs.Data.Steps
import SchemaJoins.Proofs.Text.Split
import SchemaJoins.Proofs.Text.Trim

/-! # The order of versions

A version goes on with zeros after its last number. Versions compare as these endless
rows do, where the first number in which two rows differ decides. So the requirements that
one written version makes of another order the versions, and what stands around a version
without being read makes no difference.
-/

namespace SchemaJoins.Adapter

namespace Comparison

def Rel (comparison : Comparison) (x y : Lex (Nat → Nat)) : Prop :=
  match comparison with
  | atLeast => y ≤ x
  | above => y < x
  | atMost => x ≤ y
  | below => x < y
  | equal => x = y

theorem holds_compare_iff (comparison : Comparison) {x y : Lex (Nat → Nat)} :
    comparison.holds (Ord.compare x y) = true ↔ comparison.Rel x y := by
  cases comparison with
  | atLeast => exact bne_iff_ne.trans compare_ge_iff_ge
  | above => exact beq_iff_eq.trans compare_gt_iff_gt
  | atMost => exact bne_iff_ne.trans compare_le_iff_le
  | below => exact beq_iff_eq.trans compare_lt_iff_lt
  | equal => exact beq_iff_eq.trans compare_eq_iff_eq

theorem existsUnique_holds (o : Ordering) :
    ∃! comparison, comparison ∈ [below, equal, above] ∧ comparison.holds o = true := by
  cases o with
  | lt => exact ⟨below, by decide, by rintro (_ | _ | _ | _ | _) h <;> simp_all [holds]⟩
  | eq => exact ⟨equal, by decide, by rintro (_ | _ | _ | _ | _) h <;> simp_all [holds]⟩
  | gt => exact ⟨above, by decide, by rintro (_ | _ | _ | _ | _) h <;> simp_all [holds]⟩

end Comparison

namespace Version

variable {v w : Version} {x y : Nat} {xs ys : Version}

/-- The numbers of a version, with zeros after the last one. -/
def padded (v : Version) : Lex (Nat → Nat) := toLex fun i => v.getD i 0

theorem padded_nil : padded [] = padded [0] := by
  funext i
  cases i <;> rfl

theorem padded_cons_lt_iff :
    padded (x :: xs) < padded (y :: ys) ↔ x < y ∨ x = y ∧ padded xs < padded ys := by
  constructor
  · rintro ⟨i, hfront, hi⟩
    cases i with
    | zero => exact .inl hi
    | succ i =>
      refine .inr ⟨hfront 0 (Nat.succ_pos i), i, fun j hj => ?_, hi⟩
      exact hfront (j + 1) (Nat.succ_lt_succ hj)
  · rintro (hlt | ⟨rfl, i, hfront, hi⟩)
    · exact ⟨0, fun j hj => absurd hj (Nat.not_lt_zero j), hlt⟩
    · refine ⟨i + 1, fun j hj => ?_, hi⟩
      cases j with
      | zero => rfl
      | succ j => exact hfront j (Nat.lt_of_succ_lt_succ hj)

theorem padded_cons_eq_iff :
    padded (x :: xs) = padded (y :: ys) ↔ x = y ∧ padded xs = padded ys := by
  constructor
  · intro h
    exact ⟨congrFun h 0, funext fun i => congrFun h (i + 1)⟩
  · rintro ⟨rfl, h⟩
    funext i
    cases i with
    | zero => rfl
    | succ i => exact congrFun h i

theorem compare_padded_cons :
    Ord.compare (padded (x :: xs)) (padded (y :: ys)) =
      (Ord.compare x y).then (Ord.compare (padded xs) (padded ys)) := by
  cases hx : Ord.compare x y with
  | lt => exact compare_lt_iff_lt.mpr (padded_cons_lt_iff.mpr (.inl (compare_lt_iff_lt.mp hx)))
  | gt => exact compare_gt_iff_gt.mpr (padded_cons_lt_iff.mpr (.inl (compare_gt_iff_gt.mp hx)))
  | eq =>
    obtain rfl := compare_eq_iff_eq.mp hx
    rw [Ordering.eq_then]
    cases h : Ord.compare (padded xs) (padded ys) with
    | lt =>
      exact compare_lt_iff_lt.mpr (padded_cons_lt_iff.mpr (.inr ⟨rfl, compare_lt_iff_lt.mp h⟩))
    | gt =>
      exact compare_gt_iff_gt.mpr (padded_cons_lt_iff.mpr (.inr ⟨rfl, compare_gt_iff_gt.mp h⟩))
    | eq => exact compare_eq_iff_eq.mpr (padded_cons_eq_iff.mpr ⟨rfl, compare_eq_iff_eq.mp h⟩)

theorem compare_eq (v w : Version) : compare v w = Ord.compare (padded v) (padded w) := by
  fun_induction compare v w with
  | case1 => exact (compare_eq_iff_eq.mpr rfl).symm
  | case2 x xs ih => rw [ih, padded_nil, compare_padded_cons, ← padded_nil]
  | case3 y ys ih => rw [ih, padded_nil, compare_padded_cons, ← padded_nil]
  | case4 x xs y ys ih => rw [ih, compare_padded_cons]

theorem holds_iff (comparison : Comparison) :
    comparison.holds (compare v w) = true ↔ comparison.Rel (padded v) (padded w) := by
  rw [compare_eq, comparison.holds_compare_iff]

theorem holds_atLeast_iff :
    Comparison.atLeast.holds (compare v w) = true ↔ padded w ≤ padded v := holds_iff .atLeast

def EqualUpToZeros (v w : Version) : Prop :=
  ∃ m n, v ++ List.replicate m 0 = w ++ List.replicate n 0

theorem padded_append_zeros (v : Version) (n : Nat) :
    padded (v ++ List.replicate n 0) = padded v := by
  induction v with
  | nil =>
    induction n with
    | zero => rfl
    | succ n ih =>
      rw [List.nil_append, List.replicate_succ, padded_nil]
      exact padded_cons_eq_iff.mpr ⟨rfl, ih⟩
  | cons x xs ih => exact padded_cons_eq_iff.mpr ⟨rfl, ih⟩

theorem padded_eq_iff : padded v = padded w ↔ EqualUpToZeros v w := by
  constructor
  · intro h
    -- both filled up to the length of the two together
    refine ⟨w.length, v.length, List.ext_getElem ?_ fun i hv hw => ?_⟩
    · rw [List.length_append, List.length_append, List.length_replicate, List.length_replicate,
        Nat.add_comm]
    · have hrows : padded (v ++ List.replicate w.length 0) =
          padded (w ++ List.replicate v.length 0) := by
        rw [padded_append_zeros, padded_append_zeros, h]
      rw [← List.getD_eq_getElem _ 0 hv, ← List.getD_eq_getElem _ 0 hw]
      exact congrFun hrows i
  · rintro ⟨m, n, h⟩
    rw [← padded_append_zeros v m, h, padded_append_zeros]

section Dotted

variable {s u : String} {groups : List (List Char)} {remark : List Char}

/-- Numbers in ASCII digits, with single points between them. -/
structure IsDotted (s : String) (groups : List (List Char)) : Prop where
  text : s.toList = ['.'].intercalate groups
  ne_nil : groups ≠ []
  filled : ∀ group ∈ groups, group ≠ []
  plain : ∀ group ∈ groups, ∀ c ∈ group, c.isDigit = true
  short : ∀ group ∈ groups, group.length ≤ Text.digitLimit

/-- The numbers that groups of digits write in base ten. -/
def numbers (groups : List (List Char)) : Version := groups.map (Nat.ofDigitChars 10 · 0)

/-- The text does not go on with a number, nor with a point and a number. -/
structure EndsNumbers (remark : List Char) : Prop where
  no_digit : ∀ c rest, remark = c :: rest → Text.isDigit c = false
  no_group : ∀ c rest, remark = '.' :: c :: rest → Text.isDigit c = false

/-- The text is a version with things around it that are not read: blanks and a mark in
front, and a remark behind. -/
def IsDressed (s u : String) : Prop :=
  ∃ blanks mark remark, s.toList = blanks ++ (mark ++ (u.toList ++ remark)) ∧
    (∀ c ∈ blanks, Text.isBlank c) ∧ (mark = [] ∨ mark = ['v']) ∧ EndsNumbers remark

theorem IsDotted.isDigit_or_point (h : IsDotted s groups) {c : Char} (hc : c ∈ s.toList) :
    c.isDigit = true ∨ c = '.' := by
  rw [h.text] at hc
  obtain hpoint | ⟨group, hgroup, hc⟩ := Text.mem_of_mem_intercalate hc
  · exact .inr hpoint
  · exact .inl (h.plain group hgroup c hc)

theorem IsDotted.isBlank_of_mem (h : IsDotted s groups) {c : Char} (hc : c ∈ s.toList) :
    Text.isBlank c = false := by
  obtain hdigit | rfl := h.isDigit_or_point hc
  · exact Text.isBlank_of_isDigit hdigit
  · decide

theorem IsDotted.exists_first (h : IsDotted s groups) :
    ∃ c rest, s.toList = c :: rest ∧ c.isDigit = true := by
  obtain ⟨group, rest, rfl⟩ := List.exists_cons_of_ne_nil h.ne_nil
  obtain ⟨c, cs, rfl⟩ := List.exists_cons_of_ne_nil (h.filled group List.mem_cons_self)
  have hdigit := h.plain (c :: cs) List.mem_cons_self c List.mem_cons_self
  rw [h.text]
  cases rest with
  | nil => exact ⟨c, _, List.intercalate_singleton, hdigit⟩
  | cons next rest =>
    rw [List.intercalate_cons_of_ne_nil (List.cons_ne_nil next rest)]
    exact ⟨c, _, rfl, hdigit⟩

theorem EndsNumbers.takeWhile_cases (h : EndsNumbers remark) :
    remark.takeWhile (fun c => Text.isDigit c || c == '.') = [] ∨
      ∃ rest, remark.takeWhile (fun c => Text.isDigit c || c == '.') = '.' :: rest ∧
        (rest.splitOn '.').takeWhile (!·.isEmpty) = [] := by
  cases remark with
  | nil => exact .inl rfl
  | cons c remark =>
    have hc := h.no_digit c remark rfl
    by_cases hpoint : c = '.'
    · subst hpoint
      refine .inr ⟨_, List.takeWhile_cons_of_pos (by simp), ?_⟩
      cases remark with
      | nil => rfl
      | cons d remark =>
        have hd := h.no_group d remark rfl
        by_cases hpoint : d = '.'
        · subst hpoint
          rw [List.takeWhile_cons_of_pos (by simp), List.splitOn_cons_eq_if_modifyHead]
          rfl
        · rw [List.takeWhile_cons_of_neg (by simp [hd, hpoint])]
          rfl
    · exact .inl (List.takeWhile_cons_of_neg (by simp [hc, hpoint]))

theorem IsDotted.digitGroups_append (h : IsDotted s groups) (hremark : EndsNumbers remark) :
    digitGroups (s.toList ++ remark) = groups := by
  have hread : ∀ c ∈ s.toList, (Text.isDigit c || c == '.') = true := fun c hc =>
    (h.isDigit_or_point hc).elim (fun hdigit => by simp [Text.isDigit_of_isDigit hdigit])
      fun hpoint => by simp [hpoint]
  have hsplit : s.toList.splitOn '.' = groups := by
    rw [h.text]
    refine List.splitOn_intercalate '.' (fun group hgroup hpoint => ?_) h.ne_nil
    exact absurd (h.plain group hgroup '.' hpoint) (by decide)
  have hfilled : ∀ group ∈ groups, (!group.isEmpty) = true := fun group hgroup => by
    simpa using h.filled group hgroup
  rw [digitGroups, List.takeWhile_append_of_pos hread, Text.splitOn_eq]
  obtain hnone | ⟨rest, hpoint, hrest⟩ := hremark.takeWhile_cases
  · rw [hnone, List.append_nil, hsplit, List.takeWhile_eq_self_iff.mpr hfilled]
  · rw [hpoint, List.splitOn_append_cons_self, hsplit, List.takeWhile_append_of_pos hfilled, hrest,
      List.append_nil]

theorem IsDotted.mapM_number (h : IsDotted s groups) :
    groups.mapM number = .ok (numbers groups) := by
  refine mapM_eq_ok.mpr (List.forall₂_map_right_iff.mpr (List.forall₂_same.mpr ?_))
  intro group hgroup
  rw [number, if_neg (Nat.not_lt.mpr (h.short group hgroup)),
    Text.digitsValue_eq_ofDigitChars (h.plain group hgroup)]

theorem IsDotted.dropMark_trimLeft (h : IsDotted u groups) {blanks mark : List Char}
    (hblanks : ∀ c ∈ blanks, Text.isBlank c) (hmark : mark = [] ∨ mark = ['v']) :
    dropMark (Text.trimLeft (blanks ++ (mark ++ (u.toList ++ remark)))) = u.toList ++ remark := by
  obtain ⟨c, rest, hfirst, hdigit⟩ := h.exists_first
  rw [Text.trimLeft_append hblanks]
  obtain rfl | rfl := hmark
  · have hblank : ¬ Text.isBlank c = true := by simp [Text.isBlank_of_isDigit hdigit]
    have hv : c ≠ 'v' := by
      rintro rfl
      exact absurd hdigit (by decide)
    rw [List.nil_append, hfirst, List.cons_append, Text.trimLeft,
      List.dropWhile_cons_of_neg hblank, dropMark]
    exact fun cs hcs => hv (List.cons.inj hcs).1
  · rfl

theorem IsDotted.parse_of_isDressed (h : IsDotted u groups) (hs : IsDressed s u) :
    parse s = .ok (numbers groups) := by
  obtain ⟨blanks, mark, remark, htext, hblanks, hmark, hremark⟩ := hs
  have hgroups : digitGroups (dropMark (Text.trimLeft s.toList)) = groups := by
    rw [htext, h.dropMark_trimLeft hblanks hmark, h.digitGroups_append hremark]
  rw [parse, hgroups]
  obtain ⟨group, rest, rfl⟩ := List.exists_cons_of_ne_nil h.ne_nil
  exact h.mapM_number

theorem isDressed_self (u : String) : IsDressed u u :=
  ⟨[], [], [], by simp, by simp, .inl rfl, ⟨nofun, nofun⟩⟩

end Dotted

end Version

namespace Comparison

def sign : Comparison → String
  | atLeast => ">="
  | above => ">"
  | atMost => "<="
  | below => "<"
  | equal => "=="

theorem comparisonAt?_sign (comparison : Comparison) {cs : List Char}
    (h : ∀ rest, cs ≠ '=' :: rest) :
    Requirement.comparisonAt? (comparison.sign.toList ++ cs) = some (comparison, cs) := by
  cases comparison with
  | atLeast => rfl
  | above =>
    change Requirement.comparisonAt? ('>' :: cs) = _
    rw [Requirement.comparisonAt?]
    exact h
  | atMost => rfl
  | below =>
    change Requirement.comparisonAt? ('<' :: cs) = _
    rw [Requirement.comparisonAt?]
    exact h
  | equal => rfl

end Comparison

section Relates

variable {s u v w : String} {us vs ws : List (List Char)} {given wanted : Version}
  {comparison : Comparison} {requirement : String} {r : Requirement}

theorem Version.IsDotted.parse?_requirement (h : Version.IsDotted v vs) (comparison : Comparison) :
    Requirement.parse? (comparison.sign ++ v) = some ⟨comparison, v.toList⟩ := by
  obtain ⟨first, rest, hfirst, hdigit⟩ := h.exists_first
  have hsigns : comparison.sign.toList.all (fun c => !Text.isBlank c) = true := by
    cases comparison <;> decide
  have hblank : ∀ c ∈ comparison.sign.toList ++ v.toList, Text.isBlank c = false := by
    refine List.forall_mem_append.mpr ⟨fun c hc => ?_, fun c => h.isBlank_of_mem⟩
    simpa using List.all_eq_true.mp hsigns c hc
  have htrim : Text.trim (comparison.sign ++ v).toList = comparison.sign.toList ++ v.toList := by
    rw [String.toList_append]
    exact Text.trim_eq_self (fun c hc => hblank c (List.mem_of_head? hc))
      fun c hc => hblank c (List.mem_of_getLast? hc)
  have hsign : ∀ cs, v.toList ≠ '=' :: cs := by
    rintro cs hcs
    obtain rfl := (List.cons.inj (hfirst.symm.trans hcs)).1
    exact absurd hdigit (by decide)
  have hleft : Text.trimLeft v.toList = v.toList := by
    rw [hfirst]
    exact List.dropWhile_cons_of_neg (by simp [Text.isBlank_of_isDigit hdigit])
  have hplain {c : Char} (hc : c.isDigit = true) : Requirement.isPlainDigit c = true := hc
  have hhead : v.toList.head?.any Requirement.isPlainDigit = true := by
    rw [hfirst, List.head?_cons, Option.any_some, hplain hdigit]
  have hall : v.toList.all (fun c => Requirement.isPlainDigit c || c == '.') = true :=
    List.all_eq_true.mpr fun c hc => (h.isDigit_or_point hc).elim
      (fun hdigit => by rw [hplain hdigit, Bool.true_or]) fun hpoint => by simp [hpoint]
  simp only [Requirement.parse?, htrim, comparison.comparisonAt?_sign hsign, Option.bind_eq_bind,
    Option.bind_some, hleft, hhead, hall, Bool.and_self, if_true]

theorem Version.not_parse_empty : Version.parse "" ≠ .ok given := nofun

theorem versionSatisfies_of_parse (hrequirement : Requirement.parse? requirement = some r)
    (hgiven : Version.parse s = .ok given)
    (hwanted : Version.parse (String.ofList r.wanted) = .ok wanted) :
    versionSatisfies (some s) requirement = pure (r.comparison.holds (given.compare wanted)) := by
  have hs : s ≠ "" := by
    rintro rfl
    exact Version.not_parse_empty hgiven
  have hfilter : (some s).filter (!·.isEmpty) = some s := by simpa using hs
  unfold versionSatisfies
  rw [hfilter]
  dsimp only
  rw [hrequirement]
  dsimp only
  rw [hgiven, hwanted]
  rfl

/-- The one version stands to the other one as the comparison says: it meets the requirement
that is written with the sign and the other version. -/
def Comparison.Relates (comparison : Comparison) (u v : String) : Prop :=
  (versionSatisfies (some u) (comparison.sign ++ v)).result = .ok true

theorem versionSatisfies_of_isDotted (hgiven : Version.parse s = .ok given)
    (hv : Version.IsDotted v vs) (comparison : Comparison) :
    versionSatisfies (some s) (comparison.sign ++ v) =
      pure (comparison.holds (given.compare (Version.numbers vs))) := by
  refine versionSatisfies_of_parse (hv.parse?_requirement comparison) hgiven ?_
  rw [String.ofList_toList]
  exact hv.parse_of_isDressed (Version.isDressed_self v)

theorem relates_iff (hu : Version.IsDotted u us) (hv : Version.IsDotted v vs) :
    comparison.Relates u v ↔
      comparison.Rel (Version.numbers us).padded (Version.numbers vs).padded := by
  have hgiven := hu.parse_of_isDressed (Version.isDressed_self u)
  rw [Comparison.Relates, versionSatisfies_of_isDotted hgiven hv, ← Version.holds_iff]
  exact ⟨Except.ok.inj, congrArg Except.ok⟩

/-- The requirements that written versions make order them by the numbers that their groups
of digits write, of which missing ones are zeros. Whatever stands around the first of them
makes no difference. -/
structure ComparesByNumbers (us vs : List (List Char)) (u v w : String) : Prop where
  answered : ∀ comparison : Comparison,
    ∃ met, versionSatisfies (some u) (comparison.sign ++ v) = pure met
  refl : Comparison.atMost.Relates u u
  trans : Comparison.atMost.Relates u v → Comparison.atMost.Relates v w →
    Comparison.atMost.Relates u w
  total : Comparison.atMost.Relates u v ∨ Comparison.atMost.Relates v u
  exactly_one : ∃! comparison, comparison ∈ [Comparison.below, .equal, .above] ∧
    comparison.Relates u v
  atLeast_iff : Comparison.atLeast.Relates u v ↔
    Comparison.equal.Relates u v ∨ Comparison.above.Relates u v
  atMost_iff : Comparison.atMost.Relates u v ↔
    Comparison.equal.Relates u v ∨ Comparison.below.Relates u v
  below_iff : Comparison.below.Relates u v ↔ Comparison.above.Relates v u
  given : Version.parse u = .ok (Version.numbers us)
  wanted : Version.parse v = .ok (Version.numbers vs)
  equal_iff_numbers : Comparison.equal.Relates u v ↔
    (Version.numbers us).EqualUpToZeros (Version.numbers vs)
  below_iff_numbers : Comparison.below.Relates u v ↔
    (Version.numbers us).padded < (Version.numbers vs).padded
  reread : ∀ s, Version.parse s = Version.parse u → ∀ comparison : Comparison,
    versionSatisfies (some s) (comparison.sign ++ v) =
      versionSatisfies (some u) (comparison.sign ++ v)
  dressed : ∀ s, Version.IsDressed s u → Version.parse s = Version.parse u

theorem comparesByNumbers_of_isDotted (hu : Version.IsDotted u us) (hv : Version.IsDotted v vs)
    (hw : Version.IsDotted w ws) : ComparesByNumbers us vs u v w := by
  have hgiven := hu.parse_of_isDressed (Version.isDressed_self u)
  have hwanted := hv.parse_of_isDressed (Version.isDressed_self v)
  constructor
  case answered => exact fun comparison => ⟨_, versionSatisfies_of_isDotted hgiven hv comparison⟩
  case refl => exact (relates_iff hu hu).mpr le_rfl
  case trans =>
    rw [relates_iff hu hv, relates_iff hv hw, relates_iff hu hw]
    exact le_trans
  case total =>
    rw [relates_iff hu hv, relates_iff hv hu]
    exact le_total _ _
  case exactly_one =>
    simp only [relates_iff hu hv, ← Comparison.holds_compare_iff]
    exact Comparison.existsUnique_holds _
  case atLeast_iff =>
    simp only [relates_iff hu hv]
    exact le_iff_eq_or_lt.trans (or_congr_left eq_comm)
  case atMost_iff =>
    simp only [relates_iff hu hv]
    exact le_iff_eq_or_lt
  case below_iff =>
    rw [relates_iff hu hv, relates_iff hv hu]
    exact Iff.rfl
  case given => exact hgiven
  case wanted => exact hwanted
  case equal_iff_numbers => exact (relates_iff hu hv).trans Version.padded_eq_iff
  case below_iff_numbers => exact relates_iff hu hv
  case reread =>
    intro s hs comparison
    rw [versionSatisfies_of_isDotted (hs.trans hgiven) hv,
      versionSatisfies_of_isDotted hgiven hv]
  case dressed => exact fun s hs => (hu.parse_of_isDressed hs).trans hgiven.symm

/-- Versions of two, one and three numbers, and a text that is read as the first of them. -/
theorem comparesByNumbers_of_isDotted_eight :
    Version.IsDotted "8.0" [['8'], ['0']] ∧ Version.IsDotted "8" [['8']] ∧
      Version.IsDotted "8.0.14" [['8'], ['0'], ['1', '4']] ∧
      ComparesByNumbers [['8'], ['0']] [['8']] "8.0" "8" "8.0.14" ∧
      Version.IsDressed " v8.0-log" "8.0" := by
  have hu : Version.IsDotted "8.0" [['8'], ['0']] :=
    ⟨by decide, by decide, by decide, by simp, by decide⟩
  have hv : Version.IsDotted "8" [['8']] :=
    ⟨by decide, by decide, by decide, by simp, by decide⟩
  have hw : Version.IsDotted "8.0.14" [['8'], ['0'], ['1', '4']] :=
    ⟨by decide, by decide, by decide, by simp, by decide⟩
  have hremark : Version.EndsNumbers "-log".toList := by
    constructor
    · rintro c rest ⟨⟩
      decide
    · rintro c rest ⟨⟩
  exact ⟨hu, hv, hw, comparesByNumbers_of_isDotted hu hv hw,
    [' '], ['v'], "-log".toList, by decide, List.forall_mem_singleton.mpr (by decide), .inr rfl,
    hremark⟩

end Relates

end SchemaJoins.Adapter
