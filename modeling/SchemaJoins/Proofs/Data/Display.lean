import Mathlib.Tactic.SplitIfs
import SchemaJoins.Data.Display

/-! # Shown values

Everything but the empty text is shown by at least one character.
-/

namespace SchemaJoins

theorem RealNotation.writeDigits_ne_empty {n : RealNotation} (h : n.exponentMark ≠ "")
    (digits : List Char) (power : Int) : n.writeDigits digits power ≠ "" := by
  unfold writeDigits
  dsimp only
  split_ifs <;> simp [h]

theorem Binary64.text_ne_empty (x : Binary64) : x.text ≠ "" := by
  unfold Binary64.text RealNotation.write
  cases x with
  | nan => decide
  | infinite negative => simp [RealNotation.standard]
  | finite negative mantissa exponent =>
    dsimp only
    split
    · simp
    · have hmark : RealNotation.standard.exponentMark ≠ "" := by decide
      simp [RealNotation.writeDigits_ne_empty hmark]

theorem CalendarDate.iso_ne_empty (d : CalendarDate) : d.iso ≠ "" := by simp [iso]

theorem Moment.iso_ne_empty (m : Moment) : m.iso ≠ "" := by simp [iso]

theorem Moment.literal_ne_empty (m : Moment) : m.literal ≠ "" := fun h =>
  absurd (String.append_eq_empty_iff.mp h).2 (by decide)

namespace Value

theorem literalChars_int_ne_nil (n : Int) : (int n).literalChars ≠ [] := by
  rw [literalChars, ne_eq, String.toList_eq_nil_iff]
  cases n with
  | ofNat k =>
    change k.repr ≠ ""
    simp [Nat.repr]
  | negSucc k =>
    change "-" ++ (k + 1).repr ≠ ""
    simp

theorem literalChars_ne_nil (v : Value) : v.literalChars ≠ [] := by
  cases v with
  | null => simp [literalChars]
  | bool b => cases b <;> simp [literalChars]
  | int n => exact literalChars_int_ne_nil n
  | real x => simpa [literalChars] using x.text_ne_empty
  | text s => simp [literalChars, Text.quote]
  | list xs => simp [literalChars]
  | tuple xs => rcases xs with _ | ⟨x, _ | ⟨y, xs⟩⟩ <;> simp [literalChars]
  | map es => simp [literalChars]
  | set xs => cases xs <;> simp [literalChars]
  | bytes bs => simp [literalChars, Text.quoteBytes]
  | date d =>
    rw [literalChars, ne_eq, String.toList_eq_nil_iff]
    exact fun h => absurd (String.append_eq_empty_iff.mp h).2 (by decide)
  | moment m =>
    rw [literalChars, ne_eq, String.toList_eq_nil_iff]
    exact m.literal_ne_empty

theorem display_ne_empty {v : Value} (h : v.isTrue = true) : v.display ≠ "" := by
  cases v with
  | text s =>
    rintro ⟨⟩
    cases h
  | date d => exact d.iso_ne_empty
  | moment m => exact m.iso_ne_empty
  | _ => exact fun he => literalChars_ne_nil _ (String.ofList_eq_empty_iff.mp he)

end Value

end SchemaJoins
