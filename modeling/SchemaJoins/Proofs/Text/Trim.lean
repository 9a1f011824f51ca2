import SchemaJoins.Proofs.Text.Identifier
import SchemaJoins.Text.Blank
import SchemaJoins.Text.DecimalDigit

/-! # Trimming

Trimming takes blanks away at both ends and nothing else: what is left neither
begins nor ends with a blank, and blanks around a text do not change it.
-/

namespace SchemaJoins.Text

variable {cs blanks : List Char}

theorem isBlank_of_toNat {c : Char} (h : 48 ≤ c.toNat) (h' : c.toNat ≤ 122) :
    isBlank c = false := by
  have hascii : c.toNat < 128 := by omega
  simp only [isBlank, hascii, if_true]
  simp
  omega

theorem isBlank_of_isDigit {c : Char} (h : c.isDigit = true) : isBlank c = false := by
  obtain ⟨hlow, hhigh⟩ := toNat_of_isDigit h
  exact isBlank_of_toNat hlow (by omega)

theorem trimLeft_append (h : ∀ c ∈ blanks, isBlank c) : trimLeft (blanks ++ cs) = trimLeft cs :=
  List.dropWhile_append_of_pos h

theorem trimRight_append (h : ∀ c ∈ blanks, isBlank c) :
    trimRight (cs ++ blanks) = trimRight cs := by
  rw [trimRight, List.reverse_append, List.dropWhile_append_of_pos, trimRight]
  exact fun c hc => h c (List.mem_reverse.mp hc)

theorem trim_blanks_append (h : ∀ c ∈ blanks, isBlank c) : trim (blanks ++ cs) = trim cs := by
  rw [trim, trimLeft_append h, trim]

theorem trim_append_blanks (h : ∀ c ∈ blanks, isBlank c) : trim (cs ++ blanks) = trim cs := by
  rw [trim, trim, trimLeft, List.dropWhile_append]
  split
  · rename_i he
    have hb : blanks.dropWhile isBlank = [] := List.dropWhile_eq_nil_iff.mpr h
    rw [hb, trimLeft, List.isEmpty_iff.mp he]
  · exact trimRight_append h

theorem exists_trimLeft (cs : List Char) :
    ∃ blanks, cs = blanks ++ trimLeft cs ∧ ∀ c ∈ blanks, isBlank c :=
  ⟨cs.takeWhile isBlank, List.takeWhile_append_dropWhile.symm, fun _ => List.mem_takeWhile_imp⟩

theorem exists_trimRight (cs : List Char) :
    ∃ blanks, cs = trimRight cs ++ blanks ∧ ∀ c ∈ blanks, isBlank c := by
  obtain ⟨blanks, h, hb⟩ := exists_trimLeft cs.reverse
  refine ⟨blanks.reverse, ?_, fun c hc => hb c (List.mem_reverse.mp hc)⟩
  have := congrArg List.reverse h
  simpa [trimLeft, trimRight] using this

theorem trim_eq_self (hfirst : ∀ c, cs.head? = some c → isBlank c = false)
    (hlast : ∀ c, cs.getLast? = some c → isBlank c = false) : trim cs = cs := by
  have hleft : trimLeft cs = cs := by
    cases cs with
    | nil => rfl
    | cons c cs => exact List.dropWhile_cons_of_neg (by simp [hfirst c rfl])
  rw [trim, hleft, trimRight]
  cases h : cs.reverse with
  | nil => simpa using h.symm
  | cons c rest =>
    have hc : cs.getLast? = some c := by rw [← List.head?_reverse, h, List.head?_cons]
    rw [List.dropWhile_cons_of_neg (by simp [hlast c hc]), ← h, List.reverse_reverse]

theorem exists_trim (cs : List Char) :
    ∃ before after, cs = before ++ (trim cs ++ after) ∧ (∀ c ∈ before, isBlank c) ∧
      ∀ c ∈ after, isBlank c := by
  obtain ⟨before, h, hb⟩ := exists_trimLeft cs
  obtain ⟨after, h', ha⟩ := exists_trimRight (trimLeft cs)
  exact ⟨before, after, by rw [trim, ← h', ← h], hb, ha⟩

@[simp] theorem trim_trim (cs : List Char) : trim (trim cs) = trim cs := by
  obtain ⟨before, after, h, hb, ha⟩ := exists_trim cs
  have hc := congrArg trim h
  rw [trim_blanks_append hb, trim_append_blanks ha] at hc
  exact hc.symm

theorem isBlank_getLast_trim {c : Char} (h : (trim cs).getLast? = some c) : isBlank c = false := by
  rw [trim, trimRight, List.getLast?_reverse] at h
  have := List.head?_dropWhile_not isBlank (trimLeft cs).reverse
  rw [h] at this
  simpa using this

/-- No line end closes a trimmed text, so that only its characters decide
whether it is an identifier. -/
theorem isIdentifier_trim (cs : List Char) :
    isIdentifier (trim cs) = isIdentifierWord (trim cs) := by
  rw [isIdentifier, dropFinalNewline_eq_self]
  intro word he
  have hlast : (trim cs).getLast? = some '\n' := by rw [he, List.getLast?_concat]
  exact absurd (isBlank_getLast_trim hlast) (by decide)

end SchemaJoins.Text
