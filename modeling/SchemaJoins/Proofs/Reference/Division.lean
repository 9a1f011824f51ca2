import SchemaJoins.Proofs.Reference.Span

/-! # Division at separators

A text divides at the separators that stand outside its spans. Both ways to split trim what
they return, and what they return is split again: the blanks at the ends of a part are
outside all spans or within one that is never closed, so that trimming moves no separator
into a span or out of one.
-/

namespace SchemaJoins.Reference

/-- Behind the text the character stands outside all spans: none is open, and it opens none. -/
def StandsOutside (before : List Char) (c : Char) : Prop :=
  IsBalanced before ∧ IsBalanced (before ++ [c])

def HasUnquoted (sep : Char) (cs : List Char) : Prop :=
  ∃ before after, cs = before ++ sep :: after ∧ StandsOutside before sep

/-- The parts of a text between the separators outside its spans. -/
structure IsDivision (sep : Char) (cs : List Char) (parts : List (List Char)) : Prop where
  ne_nil : parts ≠ []
  joined : cs = [sep].intercalate parts
  outside : ∀ part ∈ parts.dropLast, StandsOutside part sep
  whole : ∀ part ∈ parts, ¬ HasUnquoted sep part

variable {sep : Char} {cs left right part next : List Char} {parts : List (List Char)}

section Quote

variable (hq : isQuote sep = true)

include hq

theorem not_standsOutside_of_isQuote : ¬ StandsOutside left sep := by
  rintro ⟨hleft, hsep⟩
  have hopen : spanAfter none sep = some sep := by simp [spanAfter, hq]
  rw [IsBalanced, spanAfterAll_append, hleft, spanAfterAll_cons, hopen] at hsep
  cases hsep

theorem not_hasUnquoted_of_isQuote : ¬ HasUnquoted sep cs := by
  rintro ⟨before, after, -, houtside⟩
  exact not_standsOutside_of_isQuote hq houtside

theorem separates_of_isQuote (span : Option Char) (c : Char) : separates sep span c = false := by
  by_cases hc : c = sep
  · simp [separates, hc, hq]
  · simp [separates, hc]

theorem segments_of_isQuote (span : Option Char) (cs : List Char) :
    segments sep span cs = [cs] := by
  induction cs generalizing span with
  | nil => rfl
  | cons c cs ih => simp [segments, separates_of_isQuote hq, ih, consFirst]

theorem lastSplit?_of_isQuote (span : Option Char) (cs : List Char) :
    lastSplit? sep span cs = none := by
  induction cs generalizing span with
  | nil => rfl
  | cons c cs ih => simp [lastSplit?, separates_of_isQuote hq, ih]

end Quote

section Division

theorem isDivision_singleton : IsDivision sep cs [part] ↔ cs = part ∧ ¬ HasUnquoted sep part := by
  constructor
  · intro h
    exact ⟨by simpa using h.joined, h.whole part List.mem_cons_self⟩
  · rintro ⟨rfl, hwhole⟩
    exact ⟨List.cons_ne_nil _ _, by simp, by simp, by simpa using hwhole⟩

theorem isDivision_cons_cons : IsDivision sep cs (part :: next :: parts) ↔
    ∃ rest, cs = part ++ sep :: rest ∧ ¬ HasUnquoted sep part ∧ StandsOutside part sep ∧
      IsDivision sep rest (next :: parts) := by
  have hjoin : [sep].intercalate (part :: next :: parts) =
      part ++ sep :: [sep].intercalate (next :: parts) := by simp [List.intercalate]
  constructor
  · intro h
    obtain ⟨houtside, houtsides⟩ := List.forall_mem_cons.mp h.outside
    obtain ⟨hwhole, hwholes⟩ := List.forall_mem_cons.mp h.whole
    exact ⟨_, h.joined.trans hjoin, hwhole, houtside,
      ⟨List.cons_ne_nil _ _, rfl, houtsides, hwholes⟩⟩
  · rintro ⟨rest, rfl, hwhole, houtside, h⟩
    refine ⟨List.cons_ne_nil _ _, ?_, ?_, List.forall_mem_cons.mpr ⟨hwhole, h.whole⟩⟩
    · rw [hjoin, ← h.joined]
    · exact List.forall_mem_cons.mpr ⟨houtside, h.outside⟩

variable (hq : isQuote sep = false)

include hq

theorem standsOutside_iff : StandsOutside left sep ↔ IsBalanced left := by
  refine ⟨And.left, fun h => ⟨h, ?_⟩⟩
  rw [IsBalanced, spanAfterAll_append, h, spanAfterAll_cons, spanAfter_separator hq]
  rfl

theorem hasUnquoted_iff : HasUnquoted sep cs ↔ HasBare sep none cs := by
  simp only [HasUnquoted, HasBare, standsOutside_iff hq, IsBalanced]

theorem splits_iff_isDivision : Splits sep none cs parts ↔ IsDivision sep cs parts := by
  induction parts generalizing cs with
  | nil =>
    constructor
    · intro h
      cases h
    · exact fun h => absurd rfl h.ne_nil
  | cons part parts ih =>
    cases parts with
    | nil => rw [splits_singleton, isDivision_singleton, hasUnquoted_iff hq]
    | cons next parts =>
      rw [splits_cons_cons, isDivision_cons_cons]
      simp only [ih, hasUnquoted_iff hq, standsOutside_iff hq, IsBalanced]

end Division

theorem segments_eq_iff_isDivision : segments sep none cs = parts ↔ IsDivision sep cs parts := by
  cases hq : isQuote sep with
  | false => rw [segments_eq_iff hq, splits_iff_isDivision hq]
  | true =>
    rw [segments_of_isQuote hq]
    constructor
    · rintro rfl
      exact isDivision_singleton.mpr ⟨rfl, not_hasUnquoted_of_isQuote hq⟩
    · intro h
      cases parts with
      | nil => exact absurd rfl h.ne_nil
      | cons part parts =>
        cases parts with
        | nil => rw [(isDivision_singleton.mp h).1]
        | cons next parts =>
          obtain ⟨_, -, -, houtside, -⟩ := isDivision_cons_cons.mp h
          exact absurd houtside (not_standsOutside_of_isQuote hq)

theorem isDivision_segments (sep : Char) (cs : List Char) :
    IsDivision sep cs (segments sep none cs) :=
  segments_eq_iff_isDivision.mp rfl

theorem lastSplit?_eq_none_iff : lastSplit? sep none cs = none ↔ ¬ HasUnquoted sep cs := by
  cases hq : isQuote sep with
  | false => rw [lastSplit?_eq_none hq, hasUnquoted_iff hq]
  | true => simp [lastSplit?_of_isQuote hq, not_hasUnquoted_of_isQuote hq]

theorem segments_of_lastSplit? (h : lastSplit? sep none cs = some (left, right)) :
    segments sep none cs = segments sep none left ++ [right] := by
  cases hq : isQuote sep with
  | false =>
    obtain ⟨rfl, hleft, hright⟩ := (lastSplit?_eq_some hq).mp h
    exact (segments_eq_iff hq).mpr ((splits_segments hq none left).concat hq hleft hright)
  | true =>
    rw [lastSplit?_of_isQuote hq] at h
    cases h

section Trimmed

theorem isQuote_of_spanAfterAll {span : Option Char} (hspan : ∀ q ∈ span, isQuote q = true) :
    ∀ q ∈ spanAfterAll span cs, isQuote q = true := by
  induction cs generalizing span with
  | nil => exact hspan
  | cons c cs ih =>
    refine ih fun q hq => ?_
    cases span with
    | none =>
      rw [spanAfter] at hq
      split at hq
      · cases hq
        assumption
      · cases hq
    | some r =>
      rw [spanAfter] at hq
      split at hq
      · cases hq
      · cases hq
        exact hspan q rfl

theorem spanAfterAll_trim (cs : List Char) :
    spanAfterAll none (Text.trim cs) = spanAfterAll none cs := by
  obtain ⟨before, after, hcs, hbefore, hafter⟩ := Text.exists_trim cs
  have hend : spanAfterAll none cs = spanAfterAll (spanAfterAll none (Text.trim cs)) after :=
    calc
      spanAfterAll none cs = spanAfterAll none (before ++ (Text.trim cs ++ after)) :=
        congrArg _ hcs
      _ = spanAfterAll (spanAfterAll none (Text.trim cs)) after := by
        rw [spanAfterAll_append, spanAfterAll_blanks hbefore, spanAfterAll_append]
  rw [hend]
  cases hspan : spanAfterAll none (Text.trim cs) with
  | none => exact (spanAfterAll_blanks hafter).symm
  | some q =>
    have hquote : isQuote q = true := isQuote_of_spanAfterAll (by simp) q hspan
    have hmem : q ∉ after := fun hmem => by
      rw [isQuote_of_isBlank (hafter q hmem)] at hquote
      cases hquote
    exact (spanAfterAll_of_not_mem hmem).symm

theorem standsOutside_trim : StandsOutside (Text.trim cs) sep ↔ StandsOutside cs sep := by
  simp only [StandsOutside, IsBalanced, spanAfterAll_append, spanAfterAll_trim]

theorem hasUnquoted_of_trim (h : HasUnquoted sep (Text.trim cs)) : HasUnquoted sep cs := by
  obtain ⟨front, back, hcs, hbefore, -⟩ := Text.exists_trim cs
  obtain ⟨before, after, htrim, houtside⟩ := h
  refine ⟨front ++ before, after ++ back, by rw [hcs, htrim]; simp, ?_⟩
  simpa only [StandsOutside, IsBalanced, spanAfterAll_append, spanAfterAll_blanks hbefore]
    using houtside

theorem IsDivision.trim (h : IsDivision sep cs parts) :
    IsDivision sep ([sep].intercalate (parts.map Text.trim)) (parts.map Text.trim) := by
  refine ⟨by simpa using h.ne_nil, rfl, ?_, List.forall_mem_map.mpr fun part hpart => ?_⟩
  · rw [← List.map_dropLast]
    exact List.forall_mem_map.mpr fun part hpart => standsOutside_trim.mpr (h.outside part hpart)
  · exact fun hunquoted => h.whole part hpart (hasUnquoted_of_trim hunquoted)

end Trimmed

section Split

theorem split_of_not_hasUnquoted (h : ¬ HasUnquoted sep cs) : split sep cs = [Text.trim cs] := by
  rw [split, segments_eq_iff_isDivision.mpr (isDivision_singleton.mpr ⟨rfl, h⟩), List.map_singleton]

theorem length_split_eq_one_iff : (split sep cs).length = 1 ↔ ¬ HasUnquoted sep cs := by
  constructor
  · intro hone
    rw [split, List.length_map, List.length_eq_one_iff] at hone
    obtain ⟨part, hpart⟩ := hone
    obtain ⟨rfl, hwhole⟩ := isDivision_singleton.mp (segments_eq_iff_isDivision.mp hpart)
    exact hwhole
  · intro h
    rw [split_of_not_hasUnquoted h, List.length_singleton]

theorem splitLast?_eq_none_iff : splitLast? sep cs = none ↔ ¬ HasUnquoted sep cs := by
  rw [splitLast?, Option.map_eq_none_iff, lastSplit?_eq_none_iff]

theorem split_of_splitLast? (hsep : Text.isBlank sep = false)
    (h : splitLast? sep cs = some (left, right)) : split sep cs = split sep left ++ [right] := by
  obtain ⟨⟨front, back⟩, hlast, hparts⟩ := Option.map_eq_some_iff.mp h
  cases hparts
  have hq : isQuote sep = false := by
    rw [Bool.eq_false_iff]
    intro hq
    rw [lastSplit?_of_isQuote hq] at hlast
    cases hlast
  rw [split_trim hq hsep, split, split, segments_of_lastSplit? hlast, List.map_append,
    List.map_singleton]

/-- A segment is one segment, also where it leaves a span open. -/
theorem of_mem_split {segment : List Char} (h : segment ∈ split sep cs) :
    ¬ HasUnquoted sep segment ∧ split sep segment = [segment] := by
  obtain ⟨part, hpart, rfl⟩ := List.mem_map.mp h
  have hwhole : ¬ HasUnquoted sep (Text.trim part) := fun hunquoted =>
    (isDivision_segments sep cs).whole part hpart (hasUnquoted_of_trim hunquoted)
  exact ⟨hwhole, by rw [split_of_not_hasUnquoted hwhole, Text.trim_trim]⟩

theorem split_intercalate_split (sep : Char) (cs : List Char) :
    split sep ([sep].intercalate (split sep cs)) = split sep cs := by
  have hparts := (isDivision_segments sep cs).trim
  simp only [split, segments_eq_iff_isDivision.mpr hparts, List.map_map]
  exact List.map_congr_left fun part _ => Text.trim_trim part

/-- What is found by splitting a text at all separators and at the last one fits together,
and with the division of the text. -/
structure SplitsAlike (sep : Char) (cs : List Char) : Prop where
  division : ∃ parts, IsDivision sep cs parts ∧ split sep cs = parts.map Text.trim
  last_eq_none_iff : splitLast? sep cs = none ↔ (split sep cs).length = 1
  last_eq_some : ∀ left right, splitLast? sep cs = some (left, right) →
    split sep cs = split sep left ++ [right]
  whole : ∀ segment ∈ split sep cs, ¬ HasUnquoted sep segment ∧ split sep segment = [segment]
  rejoined : split sep ([sep].intercalate (split sep cs)) = split sep cs

/-- Both ways to split agree on every text, whether its spans are closed or not, and at every
separator that trimming does not remove. -/
theorem splitsAlike_of_not_blank (hsep : Text.isBlank sep = false) (cs : List Char) :
    SplitsAlike sep cs where
  division := ⟨_, isDivision_segments sep cs, rfl⟩
  last_eq_none_iff := by rw [splitLast?_eq_none_iff, length_split_eq_one_iff]
  last_eq_some := fun _ _ => split_of_splitLast? hsep
  whole := fun _ => of_mem_split
  rejoined := split_intercalate_split sep cs

/-- Separators between blanks, one within a span, and one within a span that stays open. -/
theorem splitsAlike_of_not_blank_openSpan : Text.isBlank ':' = false ∧
    SplitsAlike ':' " items : 'a:b' : \"c: d ".toList :=
  ⟨by decide, splitsAlike_of_not_blank (by decide) _⟩

end Split

end SchemaJoins.Reference
