import Mathlib.Data.List.TakeWhile
import SchemaJoins.Text.Identifier

/-! # Identifiers as a whole and at the beginning

An identifier is ASCII letters, digits and underscores throughout. The test of a whole
text lets one line end close it, and the longest identifier at the beginning of an
identifier is all of it.
-/

namespace SchemaJoins.Text

variable {cs word name : List Char} {c : Char}

theorem isIdentifierRest_of_isIdentifierStart (h : isIdentifierStart c = true) :
    isIdentifierRest c = true := by
  simp only [isIdentifierStart, isIdentifierRest, Char.isAlphanum, Bool.or_eq_true] at h ⊢
  exact h.imp Or.inl id

theorem isIdentifierRest_of_mem (h : isIdentifierWord cs = true) (hc : c ∈ cs) :
    isIdentifierRest c = true := by
  cases cs with
  | nil => cases hc
  | cons d cs =>
    obtain ⟨hd, hcs⟩ := Bool.and_eq_true_iff.mp h
    rcases List.mem_cons.mp hc with rfl | hc
    · exact isIdentifierRest_of_isIdentifierStart hd
    · exact List.all_eq_true.mp hcs c hc

theorem not_mem_of_isIdentifierWord (hc : isIdentifierRest c = false)
    (h : isIdentifierWord cs = true) : c ∉ cs := by
  intro hm
  rw [isIdentifierRest_of_mem h hm] at hc
  cases hc

section LineEnd

@[simp] theorem dropFinalNewline_append : dropFinalNewline (word ++ ['\n']) = word := by
  simp [dropFinalNewline]

theorem dropFinalNewline_eq_self (h : ∀ word, cs ≠ word ++ ['\n']) : dropFinalNewline cs = cs := by
  unfold dropFinalNewline
  split
  · rename_i rest hrest
    refine absurd ?_ (h rest.reverse)
    rw [← List.reverse_cons, ← hrest, List.reverse_reverse]
  · rfl

/-- What passes for an identifier is one, or one with a line end behind it. -/
theorem isIdentifier_iff : isIdentifier cs = true ↔
    isIdentifierWord cs = true ∨ ∃ word, cs = word ++ ['\n'] ∧ isIdentifierWord word = true := by
  by_cases h : ∃ word, cs = word ++ ['\n']
  · obtain ⟨word, rfl⟩ := h
    have hline : isIdentifierRest '\n' = false := by decide
    have hno : ¬ isIdentifierWord (word ++ ['\n']) = true :=
      fun hword => not_mem_of_isIdentifierWord hline hword (by simp)
    rw [isIdentifier, dropFinalNewline_append, or_iff_right hno]
    simp
  · have hno : ∀ word, cs ≠ word ++ ['\n'] := fun word he => h ⟨word, he⟩
    rw [isIdentifier, dropFinalNewline_eq_self hno, or_iff_left]
    rintro ⟨word, he, -⟩
    exact hno word he

end LineEnd

section Beginning

theorem isIdentifierWord_of_identifierAt? (h : identifierAt? cs = some name) :
    isIdentifierWord name = true := by
  cases cs with
  | nil => cases h
  | cons c cs =>
    obtain ⟨hc, hname⟩ := Option.ite_none_right_eq_some.mp h
    cases hname
    exact Bool.and_eq_true_iff.mpr ⟨hc, List.all_takeWhile⟩

theorem identifierAt?_of_isIdentifierWord (h : isIdentifierWord cs = true) :
    identifierAt? cs = some cs := by
  cases cs with
  | nil => cases h
  | cons c cs =>
    obtain ⟨hc, hcs⟩ := Bool.and_eq_true_iff.mp h
    rw [identifierAt?, if_pos hc, List.takeWhile_eq_self_iff.mpr (List.all_eq_true.mp hcs)]

structure IsLongestIdentifier (cs name : List Char) : Prop where
  word : isIdentifierWord name = true
  starts : name <+: cs
  longest : ∀ other, isIdentifierWord other = true → other <+: cs → other.length ≤ name.length

theorem IsLongestIdentifier.unique (h : IsLongestIdentifier cs name)
    (h' : IsLongestIdentifier cs word) : name = word := by
  have hle := h.longest word h'.word h'.starts
  have hge := h'.longest name h.word h.starts
  exact (List.prefix_of_prefix_length_le h.starts h'.starts hge).eq_of_length_le hle

theorem isLongestIdentifier_of_identifierAt? (h : identifierAt? cs = some name) :
    IsLongestIdentifier cs name := by
  have hword := isIdentifierWord_of_identifierAt? h
  cases cs with
  | nil => cases h
  | cons c cs =>
    obtain ⟨-, hname⟩ := Option.ite_none_right_eq_some.mp h
    cases hname
    refine ⟨hword, List.cons_prefix_cons.mpr ⟨rfl, List.takeWhile_prefix _⟩, ?_⟩
    intro other hother hstarts
    cases other with
    | nil => cases hother
    | cons d other =>
      obtain ⟨-, rest, rfl⟩ := List.cons_prefix_cons.mp hstarts
      obtain ⟨-, hall⟩ := Bool.and_eq_true_iff.mp hother
      rw [List.takeWhile_append_of_pos (List.all_eq_true.mp hall)]
      simp

theorem exists_identifierAt? (hword : isIdentifierWord word = true) (h : word <+: cs) :
    ∃ name, identifierAt? cs = some name := by
  cases word with
  | nil => cases hword
  | cons c word =>
    obtain ⟨rest, rfl⟩ := h
    obtain ⟨hc, -⟩ := Bool.and_eq_true_iff.mp hword
    exact ⟨_, if_pos hc⟩

theorem identifierAt?_eq_some_iff : identifierAt? cs = some name ↔ IsLongestIdentifier cs name := by
  refine ⟨isLongestIdentifier_of_identifierAt?, fun h => ?_⟩
  obtain ⟨found, hfound⟩ := exists_identifierAt? h.word h.starts
  rw [hfound, h.unique (isLongestIdentifier_of_identifierAt? hfound)]

end Beginning

end SchemaJoins.Text
