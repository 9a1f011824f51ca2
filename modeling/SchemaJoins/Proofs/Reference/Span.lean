import SchemaJoins.Proofs.Text.Trim
import SchemaJoins.Reference.Split

/-! # Quoted spans and splitting

A separator is bare where no quoted span is open. The segments of a text are its
parts between bare separators, and the last split is at the last of them. Blanks
at the ends of a text do not change its trimmed segments.
-/

namespace SchemaJoins.Reference

def spanAfterAll (span : Option Char) (cs : List Char) : Option Char := cs.foldl spanAfter span

def IsBalanced (cs : List Char) : Prop := spanAfterAll none cs = none

/-- The separator stands outside all spans of a text that starts within `span`. -/
def HasBare (sep : Char) (span : Option Char) (cs : List Char) : Prop :=
  ∃ before after, cs = before ++ sep :: after ∧ spanAfterAll span before = none

@[simp] theorem spanAfterAll_nil (span : Option Char) : spanAfterAll span [] = span := rfl

@[simp] theorem spanAfterAll_cons (span : Option Char) (c : Char) (cs : List Char) :
    spanAfterAll span (c :: cs) = spanAfterAll (spanAfter span c) cs := rfl

@[simp] theorem spanAfterAll_append (span : Option Char) (cs ds : List Char) :
    spanAfterAll span (cs ++ ds) = spanAfterAll (spanAfterAll span cs) ds := List.foldl_append

theorem isQuote_iff {c : Char} : isQuote c = true ↔ c = '\'' ∨ c = '"' := by simp [isQuote]

theorem spanAfterAll_of_not_quote {cs : List Char} (h : ∀ c ∈ cs, isQuote c = false) :
    spanAfterAll none cs = none := by
  induction cs with
  | nil => rfl
  | cons c cs ih =>
    obtain ⟨hc, hcs⟩ := List.forall_mem_cons.mp h
    have hnone : spanAfter none c = none := by simp [spanAfter, hc]
    rw [spanAfterAll_cons, hnone]
    exact ih hcs

theorem spanAfterAll_of_not_mem {q : Char} {s : List Char} (h : q ∉ s) :
    spanAfterAll (some q) s = some q := by
  induction s with
  | nil => rfl
  | cons c s ih =>
    rw [List.mem_cons, not_or] at h
    have hc : (c == q) = false := by simpa using Ne.symm h.1
    rw [spanAfterAll_cons, spanAfter, hc]
    exact ih h.2

theorem hasBare_nil {sep : Char} {span : Option Char} : ¬ HasBare sep span [] := by
  rintro ⟨before, after, h, -⟩
  exact absurd h (by simp)

theorem hasBare_cons {sep c : Char} {span : Option Char} {cs : List Char} :
    HasBare sep span (c :: cs) ↔ (span = none ∧ c = sep) ∨ HasBare sep (spanAfter span c) cs := by
  constructor
  · rintro ⟨before, after, h, hs⟩
    cases before with
    | nil => exact Or.inl ⟨hs, (List.cons.inj h).1⟩
    | cons d before =>
      obtain ⟨rfl, hc⟩ := List.cons.inj h
      exact Or.inr ⟨before, after, hc, hs⟩
  · rintro (⟨rfl, rfl⟩ | ⟨before, after, rfl, hs⟩)
    · exact ⟨[], cs, rfl, rfl⟩
    · exact ⟨c :: before, after, rfl, hs⟩

theorem hasBare_append {sep : Char} {span : Option Char} {cs ds : List Char} :
    HasBare sep span (cs ++ ds) ↔ HasBare sep span cs ∨ HasBare sep (spanAfterAll span cs) ds := by
  induction cs generalizing span with
  | nil => simp [hasBare_nil]
  | cons c cs ih =>
    rw [List.cons_append, hasBare_cons, ih, hasBare_cons, or_assoc, spanAfterAll_cons]

theorem not_hasBare {sep : Char} {span : Option Char} {cs : List Char} (h : sep ∉ cs) :
    ¬ HasBare sep span cs := by
  rintro ⟨before, after, rfl, -⟩
  exact h (by simp)

/-- The parts of a text that starts within `span`, divided at every bare separator. -/
inductive Splits (sep : Char) : Option Char → List Char → List (List Char) → Prop where
  | last {span : Option Char} {s : List Char} : ¬ HasBare sep span s → Splits sep span s [s]
  | next {span : Option Char} {s cs : List Char} {parts : List (List Char)} :
      ¬ HasBare sep span s → spanAfterAll span s = none → Splits sep none cs parts →
      Splits sep span (s ++ sep :: cs) (s :: parts)

theorem splits_singleton {sep : Char} {span : Option Char} {cs p : List Char} :
    Splits sep span cs [p] ↔ cs = p ∧ ¬ HasBare sep span p := by
  constructor
  · intro h
    cases h with
    | last hb => exact ⟨rfl, hb⟩
    | next _ _ h => cases h
  · rintro ⟨rfl, hb⟩
    exact .last hb

theorem splits_cons_cons {sep : Char} {span : Option Char} {cs p q : List Char}
    {ps : List (List Char)} :
    Splits sep span cs (p :: q :: ps) ↔
      ∃ rest, cs = p ++ sep :: rest ∧ ¬ HasBare sep span p ∧ spanAfterAll span p = none ∧
        Splits sep none rest (q :: ps) := by
  constructor
  · intro h
    cases h with
    | next hb hs h => exact ⟨_, rfl, hb, hs, h⟩
  · rintro ⟨rest, rfl, hb, hs, h⟩
    exact .next hb hs h

section Separator

variable {sep : Char} (hq : isQuote sep = false)

include hq

theorem spanAfter_separator : spanAfter none sep = none := by simp [spanAfter, hq]

theorem separates_iff {span : Option Char} {c : Char} :
    separates sep span c = true ↔ span = none ∧ c = sep := by
  simp only [separates, Bool.and_eq_true, Option.isNone_iff_eq_none, Bool.not_eq_true', beq_iff_eq]
  constructor
  · rintro ⟨⟨hs, -⟩, hc⟩
    exact ⟨hs, hc⟩
  · rintro ⟨hs, rfl⟩
    exact ⟨⟨hs, hq⟩, rfl⟩

omit hq in
theorem lastSplit?_cons_of_some {span : Option Char} {c : Char} {cs left right : List Char}
    (h : lastSplit? sep (spanAfter span c) cs = some (left, right)) :
    lastSplit? sep span (c :: cs) = some (c :: left, right) := by
  simp [lastSplit?, h]

theorem lastSplit?_cons_of_none {span : Option Char} {c : Char} {cs : List Char}
    (h : lastSplit? sep (spanAfter span c) cs = none) :
    lastSplit? sep span (c :: cs) = if span = none ∧ c = sep then some ([], cs) else none := by
  simp only [lastSplit?, h, separates_iff hq]

theorem lastSplit?_eq_none {span : Option Char} {cs : List Char} :
    lastSplit? sep span cs = none ↔ ¬ HasBare sep span cs := by
  induction cs generalizing span with
  | nil => simp [lastSplit?, hasBare_nil]
  | cons c cs ih =>
    rw [hasBare_cons]
    cases h : lastSplit? sep (spanAfter span c) cs with
    | some parts =>
      have hb : HasBare sep (spanAfter span c) cs := by
        by_contra hb
        rw [ih.mpr hb] at h
        cases h
      simp [lastSplit?_cons_of_some h, hb]
    | none =>
      have hb := ih.mp h
      rw [lastSplit?_cons_of_none hq h]
      by_cases hs : span = none ∧ c = sep
      · simp [hs]
      · simp [hs, hb]

theorem lastSplit?_eq_some {span : Option Char} {cs left right : List Char} :
    lastSplit? sep span cs = some (left, right) ↔
      cs = left ++ sep :: right ∧ spanAfterAll span left = none ∧ ¬ HasBare sep none right := by
  constructor
  · intro h
    induction cs generalizing span left with
    | nil => cases h
    | cons c cs ih =>
      cases hc : lastSplit? sep (spanAfter span c) cs with
      | some parts =>
        rw [lastSplit?_cons_of_some hc] at h
        cases h
        obtain ⟨rfl, hl, hr⟩ := ih hc
        exact ⟨rfl, hl, hr⟩
      | none =>
        rw [lastSplit?_cons_of_none hq hc] at h
        have hb := (lastSplit?_eq_none hq).mp hc
        split at h
        · rename_i hs
          obtain ⟨rfl, rfl⟩ := hs
          cases h
          rw [spanAfter_separator hq] at hb
          exact ⟨rfl, rfl, hb⟩
        · cases h
  · rintro ⟨rfl, hs, hn⟩
    induction left generalizing span with
    | nil =>
      have hr : lastSplit? sep (spanAfter span sep) right = none := by
        rw [show span = none from hs, spanAfter_separator hq]
        exact (lastSplit?_eq_none hq).mpr hn
      exact (lastSplit?_cons_of_none hq hr).trans (if_pos ⟨hs, rfl⟩)
    | cons c left ih => exact lastSplit?_cons_of_some (ih hs)

omit hq in
theorem Splits.cons {span : Option Char} {c : Char} {cs : List Char} {parts : List (List Char)}
    (hc : ¬ (span = none ∧ c = sep)) (h : Splits sep (spanAfter span c) cs parts) :
    Splits sep span (c :: cs) (consFirst c parts) := by
  have hn {s : List Char} (hb : ¬ HasBare sep (spanAfter span c) s) : ¬ HasBare sep span (c :: s) :=
    fun h => (hasBare_cons.mp h).elim hc hb
  cases h with
  | last hb => exact .last (hn hb)
  | @next _ s _ _ hb hs h => exact .next (s := c :: s) (hn hb) hs h

theorem splits_segments (span : Option Char) (cs : List Char) :
    Splits sep span cs (segments sep span cs) := by
  induction cs generalizing span with
  | nil => exact .last hasBare_nil
  | cons c cs ih =>
    rw [segments]
    split
    · rename_i hs
      obtain ⟨rfl, rfl⟩ := (separates_iff hq).mp hs
      exact .next (s := []) hasBare_nil rfl (ih none)
    · rename_i hs
      exact (ih _).cons fun hc => hs ((separates_iff hq).mpr hc)

theorem segments_cons_of_not {span : Option Char} {c : Char} {cs : List Char}
    (h : ¬ (span = none ∧ c = sep)) :
    segments sep span (c :: cs) = consFirst c (segments sep (spanAfter span c) cs) := by
  rw [segments, if_neg fun hs => h ((separates_iff hq).mp hs)]

theorem segments_of_not_hasBare {span : Option Char} {cs : List Char} (h : ¬ HasBare sep span cs) :
    segments sep span cs = [cs] := by
  induction cs generalizing span with
  | nil => rfl
  | cons c cs ih =>
    rw [hasBare_cons, not_or] at h
    rw [segments_cons_of_not hq h.1, ih h.2, consFirst]

theorem segments_append {span : Option Char} {s : List Char} (cs : List Char)
    (h : ¬ HasBare sep span s) (hs : spanAfterAll span s = none) :
    segments sep span (s ++ sep :: cs) = s :: segments sep none cs := by
  induction s generalizing span with
  | nil =>
    have hsep : separates sep span sep := (separates_iff hq).mpr ⟨hs, rfl⟩
    rw [List.nil_append, segments, if_pos hsep]
  | cons c s ih =>
    rw [hasBare_cons, not_or] at h
    rw [List.cons_append, segments_cons_of_not hq h.1, ih h.2 hs, consFirst]

/-- The segments of a text are its parts between bare separators. -/
theorem segments_eq_iff {span : Option Char} {cs : List Char} {parts : List (List Char)} :
    segments sep span cs = parts ↔ Splits sep span cs parts := by
  constructor
  · rintro rfl
    exact splits_segments hq span cs
  · intro h
    induction h with
    | last hn => exact segments_of_not_hasBare hq hn
    | next hn hs _ ih => rw [segments_append hq _ hn hs, ih]

theorem Splits.concat {span : Option Char} {cs right : List Char} {parts : List (List Char)}
    (h : Splits sep span cs parts) (hs : spanAfterAll span cs = none)
    (hn : ¬ HasBare sep none right) :
    Splits sep span (cs ++ sep :: right) (parts ++ [right]) := by
  induction h with
  | last hb => exact .next hb hs (.last hn)
  | next hb hend _ ih =>
    rw [spanAfterAll_append, hend, spanAfterAll_cons, spanAfter_separator hq] at hs
    rw [List.append_assoc, List.cons_append]
    exact .next hb hend (ih hs)

end Separator

section Blanks

variable {sep : Char} {blanks : List Char}

theorem isQuote_of_isBlank {c : Char} (h : Text.isBlank c) : isQuote c = false := by
  rw [Bool.eq_false_iff]
  intro hq
  obtain rfl | rfl := isQuote_iff.mp hq
  · exact absurd h (by decide)
  · exact absurd h (by decide)

theorem spanAfterAll_blanks (h : ∀ c ∈ blanks, Text.isBlank c) :
    spanAfterAll none blanks = none :=
  spanAfterAll_of_not_quote fun c hc => isQuote_of_isBlank (h c hc)

theorem not_mem_blanks (hsep : Text.isBlank sep = false) (h : ∀ c ∈ blanks, Text.isBlank c) :
    sep ∉ blanks := fun hm => by simp [h sep hm] at hsep

theorem Splits.blanks_append {cs : List Char} {parts : List (List Char)}
    (hsep : Text.isBlank sep = false) (hb : ∀ c ∈ blanks, Text.isBlank c)
    (h : Splits sep none cs parts) :
    ∃ parts', Splits sep none (blanks ++ cs) parts' ∧
      parts'.map Text.trim = parts.map Text.trim := by
  have hs := spanAfterAll_blanks hb
  have hn {s : List Char} (hbare : ¬ HasBare sep none s) : ¬ HasBare sep none (blanks ++ s) := by
    rw [hasBare_append, hs, not_or]
    exact ⟨not_hasBare (not_mem_blanks hsep hb), hbare⟩
  cases h with
  | last hbare => exact ⟨_, .last (hn hbare), by simp [Text.trim_blanks_append hb]⟩
  | @next _ s rest parts hbare hend h =>
    refine ⟨(blanks ++ s) :: parts, ?_, by simp [Text.trim_blanks_append hb]⟩
    rw [← List.append_assoc]
    exact .next (hn hbare) (by rw [spanAfterAll_append, hs, hend]) h

theorem Splits.append_blanks {span : Option Char} {cs : List Char} {parts : List (List Char)}
    (hsep : Text.isBlank sep = false) (hb : ∀ c ∈ blanks, Text.isBlank c)
    (h : Splits sep span cs parts) :
    ∃ parts', Splits sep span (cs ++ blanks) parts' ∧
      parts'.map Text.trim = parts.map Text.trim := by
  induction h with
  | last hbare =>
    refine ⟨_, .last fun h => ?_, by simp [Text.trim_append_blanks hb]⟩
    exact (hasBare_append.mp h).elim hbare (not_hasBare (not_mem_blanks hsep hb))
  | next hbare hend _ ih =>
    obtain ⟨parts', h, hm⟩ := ih
    rw [List.append_assoc, List.cons_append]
    exact ⟨_, .next hbare hend h, by simp [hm]⟩

theorem split_trim (hq : isQuote sep = false) (hsep : Text.isBlank sep = false) (cs : List Char) :
    split sep (Text.trim cs) = split sep cs := by
  obtain ⟨before, after, h, hb, ha⟩ := Text.exists_trim cs
  obtain ⟨parts, hp, hm⟩ := (splits_segments hq none (Text.trim cs)).append_blanks hsep ha
  obtain ⟨parts', hp', hm'⟩ := hp.blanks_append hsep hb
  rw [← h] at hp'
  rw [split, split, (segments_eq_iff hq).mpr hp', hm', hm]

end Blanks

end SchemaJoins.Reference
