import SchemaJoins.Data.Display

/-! # Plain characters

Of all that a value is written with, only texts, bytes and the collections in braces need
quotes or braces. The digits of a number, a date and a time of day do without.
-/

namespace SchemaJoins

namespace Text

def IsPlain (c : Char) : Prop := c ≠ '\'' ∧ c ≠ '"' ∧ c ≠ '{' ∧ c ≠ '}'

instance (c : Char) : Decidable (IsPlain c) :=
  inferInstanceAs (Decidable (c ≠ '\'' ∧ c ≠ '"' ∧ c ≠ '{' ∧ c ≠ '}'))

-- The characters of a list are looked at one by one, and not all that there are.
instance (cs : List Char) : Decidable (∀ c ∈ cs, IsPlain c) := List.decidableBAll IsPlain cs

variable {cs separator : List Char}

theorem isPlain_of_isDigit {c : Char} (h : c.isDigit = true) : IsPlain c := by
  refine ⟨?_, ?_, ?_, ?_⟩ <;> rintro rfl <;> exact absurd h (by decide)

theorem isPlain_toDigits (n : Nat) : ∀ c ∈ Nat.toDigits 10 n, IsPlain c := fun _ hc =>
  isPlain_of_isDigit (Nat.isDigit_of_mem_toDigits (by decide) (by decide) hc)

theorem isPlain_zeros (n : Nat) : ∀ c ∈ List.replicate n '0', IsPlain c := by
  intro c hc
  rw [List.eq_of_mem_replicate hc]
  decide

theorem isPlain_intercalate {parts : List (List Char)} (hseparator : ∀ c ∈ separator, IsPlain c)
    (hparts : ∀ part ∈ parts, ∀ c ∈ part, IsPlain c) :
    ∀ c ∈ separator.intercalate parts, IsPlain c := by
  induction parts with
  | nil => exact fun _ hc => absurd hc List.not_mem_nil
  | cons part parts ih =>
    obtain ⟨hpart, hparts⟩ := List.forall_mem_cons.mp hparts
    by_cases hlast : parts = []
    · subst hlast
      simpa [List.intercalate] using hpart
    · rw [List.intercalate_cons_of_ne_nil hlast, List.forall_mem_append, List.forall_mem_append]
      exact ⟨⟨hpart, hseparator⟩, ih hparts⟩

end Text

open Text

def IsPlainText (s : String) : Prop := ∀ c ∈ s.toList, IsPlain c

namespace IsPlainText

variable {s t : String}

@[simp] theorem append_iff : IsPlainText (s ++ t) ↔ IsPlainText s ∧ IsPlainText t := by
  rw [IsPlainText, String.toList_append, List.forall_mem_append]
  rfl

@[simp] theorem ofList_iff {cs : List Char} :
    IsPlainText (String.ofList cs) ↔ ∀ c ∈ cs, IsPlain c := by
  rw [IsPlainText, String.toList_ofList]

instance (s : String) : Decidable (IsPlainText s) :=
  inferInstanceAs (Decidable (∀ c ∈ s.toList, IsPlain c))

theorem nat (n : Nat) : IsPlainText (toString n) := by
  rw [Nat.toString_eq_repr, Nat.repr, ofList_iff]
  exact isPlain_toDigits n

theorem int (n : Int) : IsPlainText (toString n) := by
  cases n with
  | ofNat m => exact nat m
  | negSucc m =>
    show IsPlainText ("-" ++ toString (m + 1))
    rw [append_iff]
    exact ⟨by decide, nat (m + 1)⟩

theorem intercalate {parts : List String} (hs : IsPlainText s)
    (hparts : ∀ part ∈ parts, IsPlainText part) : IsPlainText (s.intercalate parts) := by
  rw [IsPlainText, String.toList_intercalate]
  exact isPlain_intercalate hs (List.forall_mem_map.mpr hparts)

end IsPlainText

open IsPlainText (append_iff ofList_iff)

namespace RealNotation

theorem isPlainText_padLeft {s : String} (width : Nat) (h : IsPlainText s) :
    IsPlainText (padLeft width s) := by
  rw [padLeft, append_iff, ofList_iff]
  exact ⟨isPlain_zeros _, h⟩

theorem mem_of_mem_stripZeros {digits : List Char} {c : Char} (h : c ∈ (stripZeros digits).1) :
    c ∈ digits := by
  have hreverse := List.mem_reverse.mp h
  exact List.mem_reverse.mp ((List.dropWhile_sublist _).subset hreverse)

theorem isPlainText_writeDigits {digits : List Char} (power : Int)
    (h : ∀ c ∈ digits, IsPlain c) : IsPlainText (standard.writeDigits digits power) := by
  have htake (n : Nat) : ∀ c ∈ digits.take n, IsPlain c := fun c hc => h c (List.mem_of_mem_take hc)
  have hdrop (n : Nat) : ∀ c ∈ digits.drop n, IsPlain c := fun c hc => h c (List.mem_of_mem_drop hc)
  unfold writeDigits
  dsimp only
  split
  · split
    · rw [append_iff]
      refine ⟨by decide, ofList_iff.mpr ?_⟩
      exact List.forall_mem_append.mpr ⟨isPlain_zeros _, h⟩
    · rw [append_iff, append_iff, ofList_iff,
        List.forall_mem_append]
      refine ⟨⟨⟨htake _, isPlain_zeros _⟩, by decide⟩, ?_⟩
      split
      · decide
      · exact ofList_iff.mpr (hdrop _)
  · simp only [append_iff, ofList_iff]
    refine ⟨⟨⟨⟨htake 1, ?_⟩, by decide⟩, ?_⟩, isPlainText_padLeft _ (IsPlainText.nat _)⟩
    · split
      · decide
      · exact append_iff.mpr ⟨by decide, ofList_iff.mpr (hdrop 1)⟩
    · split <;> decide

end RealNotation

theorem Binary64.isPlainText_text (x : Binary64) : IsPlainText x.text := by
  unfold text RealNotation.write
  cases x with
  | nan => decide
  | infinite negative => cases negative <;> decide
  | finite negative mantissa exponent =>
    have hsign : IsPlainText (if negative then "-" else "") := by
      cases negative <;> decide
    dsimp only
    split
    · exact append_iff.mpr ⟨hsign, by decide⟩
    · refine append_iff.mpr ⟨hsign, RealNotation.isPlainText_writeDigits _ ?_⟩
      exact fun c hc => isPlain_toDigits _ c (RealNotation.mem_of_mem_stripZeros hc)

theorem Moment.isPlainText_offsetLiteral (offset : Int) : IsPlainText (offsetLiteral offset) := by
  unfold offsetLiteral
  split
  · decide
  · rw [append_iff, append_iff]
    refine ⟨⟨by decide, IsPlainText.intercalate (by decide) ?_⟩, by decide⟩
    rw [List.forall_mem_append]
    constructor
    · split
      · nofun
      · exact List.forall_mem_singleton.mpr (append_iff.mpr ⟨by decide, IsPlainText.int _⟩)
    · split
      · nofun
      · exact List.forall_mem_singleton.mpr (append_iff.mpr ⟨by decide, IsPlainText.int _⟩)

theorem Moment.isPlainText_literal (m : Moment) : IsPlainText m.literal := by
  unfold literal
  rw [append_iff, append_iff]
  refine ⟨⟨by decide, IsPlainText.intercalate (by decide) ?_⟩, by decide⟩
  rw [List.forall_mem_append, List.forall_mem_map]
  refine ⟨fun n _ => IsPlainText.nat n, fun zone hzone => ?_⟩
  obtain ⟨offset, -, rfl⟩ := Option.map_eq_some_iff.mp (Option.mem_toList.mp hzone)
  exact append_iff.mpr ⟨by decide, isPlainText_offsetLiteral offset⟩

theorem CalendarDate.isPlainText_literal (d : CalendarDate) :
    IsPlainText s!"datetime.date({d.year}, {d.month}, {d.day})" := by
  show IsPlainText ("datetime.date(" ++ toString d.year ++ ", " ++ toString d.month ++ ", " ++
    toString d.day ++ ")")
  simp only [append_iff]
  have hcomma : IsPlainText ", " := by decide
  exact ⟨⟨⟨⟨⟨⟨by decide, .nat _⟩, hcomma⟩, .nat _⟩, hcomma⟩, .nat _⟩, by decide⟩

end SchemaJoins
