import Mathlib.Data.List.Basic
import SchemaJoins.Text.Lowercase

/-! # Lower case is reached once

No character that a row of the table shifts lands in a row of the table, so that
a text in lower case is its own lower case. No character is lost.
-/

namespace SchemaJoins.Text

/-- No character from `a` to `b` is in the row. Where the row holds every other
character only, a single one and every other one may lie between them. -/
def isClearOf (a b step : Nat) : (Nat × Nat × Nat × Int) → Bool
  | (lo, hi, step', _) =>
      Nat.blt b lo || Nat.blt hi a || ((step == 2 || a == b) && step' == 2 && (a - lo) % 2 == 1)

/-- What a row yields is in no row. The dotted capital `İ`, which is not in the
table, counts as a row of its own. -/
theorem lowerRuns_clear : ∀ r ∈ lowerRuns, ∀ r' ∈ ((0x130, 0x130, 1, 0) :: lowerRuns),
    isClearOf (r.1 + r.2.2.2).toNat (r.2.1 + r.2.2.2).toNat r.2.2.1 r' = true := by
  have h : (lowerRuns.all fun r => ((0x130, 0x130, 1, 0) :: lowerRuns).all
      (isClearOf (r.1 + r.2.2.2).toNat (r.2.1 + r.2.2.2).toNat r.2.2.1)) = true := by
    decide +kernel
  simpa only [List.all_eq_true] using h

theorem lowerRuns_nonneg : ∀ r ∈ lowerRuns, 0 ≤ (r.1 : Int) + r.2.2.2 := by
  decide +kernel

def inRun (n : Nat) : (Nat × Nat × Nat × Int) → Bool
  | (lo, hi, step, _) => decide (lo ≤ n) && decide (n ≤ hi) && (n - lo) % step == 0

theorem lowerCode_eq (n : Nat) : lowerCode n =
    ((lowerRuns.find? (inRun n)).map fun r => ((n : Int) + r.2.2.2).toNat).getD n := by
  have hp : (fun (lo, hi, step, _) => decide (lo ≤ n) && decide (n ≤ hi) && (n - lo) % step == 0 :
      (Nat × Nat × Nat × Int) → Bool) = inRun n := rfl
  rw [lowerCode, hp]
  cases lowerRuns.find? (inRun n) <;> rfl

theorem not_inRun_of_mem {n : Nat} {r r' : Nat × Nat × Nat × Int} (hr : r ∈ lowerRuns)
    (hr' : r' ∈ (0x130, 0x130, 1, 0) :: lowerRuns) (hn : inRun n r = true) :
    inRun (n + r.2.2.2).toNat r' = false := by
  have hclear := lowerRuns_clear r hr r' hr'
  have hpos := lowerRuns_nonneg r hr
  obtain ⟨lo, hi, step, shift⟩ := r
  obtain ⟨lo', hi', step', shift'⟩ := r'
  rw [Bool.eq_false_iff]
  intro hn'
  simp only [isClearOf, inRun, Bool.and_eq_true, Bool.or_eq_true, decide_eq_true_eq, beq_iff_eq,
    Nat.blt_eq] at hclear hn hn' hpos
  obtain ⟨⟨hlo, hhi⟩, hstep⟩ := hn
  obtain ⟨⟨hlo', hhi'⟩, hstep'⟩ := hn'
  rcases hclear with (hbelow | habove) | ⟨⟨heven | hone, htwo⟩, hodd⟩
  · omega
  · omega
  · subst heven htwo
    omega
  · subst htwo
    omega

theorem lowerCode_cases (n : Nat) : lowerCode n = n ∨
    ∃ r ∈ lowerRuns, inRun n r = true ∧ lowerCode n = (n + r.2.2.2).toNat := by
  rw [lowerCode_eq]
  cases h : lowerRuns.find? (inRun n) with
  | none => exact .inl rfl
  | some r => exact .inr ⟨r, List.mem_of_find?_eq_some h, List.find?_some h, rfl⟩

theorem lowerCode_of_not_inRun {n : Nat} (h : ∀ r ∈ lowerRuns, inRun n r = false) :
    lowerCode n = n := by
  have hnone : lowerRuns.find? (inRun n) = none :=
    List.find?_eq_none.mpr fun r hr => by simp [h r hr]
  rw [lowerCode_eq, hnone]
  rfl

theorem lowerCode_lowerCode (n : Nat) : lowerCode (lowerCode n) = lowerCode n := by
  rcases lowerCode_cases n with h | ⟨r, hr, hn, h⟩
  · rw [h, h]
  · rw [h]
    exact lowerCode_of_not_inRun fun r' hr' => not_inRun_of_mem hr (List.mem_cons_of_mem _ hr') hn

theorem lowerCode_ne_dotted {n : Nat} (hn : n ≠ 0x130) : lowerCode n ≠ 0x130 := by
  rcases lowerCode_cases n with h | ⟨r, hr, hrun, h⟩
  · rwa [h]
  · intro he
    have hclear := not_inRun_of_mem hr List.mem_cons_self hrun
    rw [← h, he] at hclear
    exact absurd hclear (by decide)

theorem lowerCode_ascii {n : Nat} (hn : n < 128) :
    lowerCode n = if 65 ≤ n ∧ n ≤ 90 then n + 32 else n := by
  have hrest : ∀ r ∈ lowerRuns.tail, 128 ≤ r.1 := by decide +kernel
  have htail : lowerRuns.tail.find? (inRun n) = none := by
    refine List.find?_eq_none.mpr fun r hr => ?_
    have := hrest r hr
    simp only [inRun, Bool.and_eq_true, decide_eq_true_eq, not_and]
    omega
  have hfirst : inRun n (65, 90, 1, 32) = decide (65 ≤ n ∧ n ≤ 90) := by
    simp [inRun, Nat.mod_one]
  have hcons : lowerRuns = (65, 90, 1, 32) :: lowerRuns.tail := rfl
  rw [lowerCode_eq, hcons, List.find?_cons, hfirst, htail]
  by_cases h : 65 ≤ n ∧ n ≤ 90
  · rw [decide_eq_true h, if_pos h]
    rfl
  · rw [decide_eq_false h, if_neg h]
    rfl

theorem toLower_ascii {c : Char} (hc : c.toNat < 128) :
    c.toLower = Char.ofNat (lowerCode c.toNat) := by
  have hall : ∀ n < 128, (Char.ofNat n).toLower =
      Char.ofNat (if 65 ≤ n ∧ n ≤ 90 then n + 32 else n) := by decide
  have h := hall c.toNat hc
  rwa [Char.ofNat_toNat, ← lowerCode_ascii hc] at h

theorem lowerChar_eq {c : Char} (h : c ≠ 'İ') : lowerChar c = [Char.ofNat (lowerCode c.toNat)] := by
  rw [lowerChar]
  split
  · rw [toLower_ascii ‹_›]
  · rw [if_neg (by simpa using h)]

structure IsLower (c : Char) : Prop where
  code : lowerCode c.toNat = c.toNat
  ne_dotted : c ≠ 'İ'

theorem IsLower.lowerChar {c : Char} (h : IsLower c) : lowerChar c = [c] := by
  rw [lowerChar_eq h.ne_dotted, h.code, Char.ofNat_toNat]

theorem IsLower.ne_sigma {c : Char} (h : IsLower c) : c ≠ 'Σ' := by
  rintro rfl
  exact absurd h.code (by decide +kernel)

theorem isLower_ofNat {n : Nat} (hn : n ≠ 0x130) : IsLower (Char.ofNat (lowerCode n)) := by
  have hcode : (Char.ofNat (lowerCode n)).toNat = lowerCode n ∨
      (Char.ofNat (lowerCode n)).toNat = 0 := by
    by_cases hv : (lowerCode n).isValidChar
    · refine .inl ?_
      rw [Char.ofNat, dif_pos hv]
      rfl
    · refine .inr ?_
      rw [Char.ofNat, dif_neg hv]
      rfl
  constructor
  · rcases hcode with h | h
    · rw [h, lowerCode_lowerCode]
    · rw [h]
      decide +kernel
  · intro hd
    rw [hd] at hcode
    rcases hcode with h | h
    · exact lowerCode_ne_dotted hn h.symm
    · exact absurd h (by decide)

theorem isLower_lowerChar {c : Char} : ∀ d ∈ lowerChar c, IsLower d := by
  by_cases hc : c = 'İ'
  · subst hc
    have hdot : lowerChar 'İ' = ['i', Char.ofNat 0x307] := rfl
    rw [hdot]
    exact List.forall_mem_cons.mpr ⟨⟨by decide +kernel, by decide⟩,
      List.forall_mem_singleton.mpr ⟨by decide +kernel, by decide⟩⟩
  · rw [lowerChar_eq hc, List.forall_mem_singleton]
    refine isLower_ofNat fun hn => hc ?_
    rw [← Char.ofNat_toNat c, hn]

theorem isLower_lowerFrom {before cs : List Char} : ∀ d ∈ lowerFrom before cs, IsLower d := by
  induction cs generalizing before with
  | nil => exact fun _ hd => absurd hd List.not_mem_nil
  | cons c cs ih =>
    have hsmall : IsLower 'σ' ∧ IsLower 'ς' :=
      ⟨⟨by decide +kernel, by decide⟩, ⟨by decide +kernel, by decide⟩⟩
    rw [lowerFrom]
    refine List.forall_mem_append.mpr ⟨?_, ih⟩
    split
    · split
      · exact List.forall_mem_singleton.mpr hsmall.2
      · exact List.forall_mem_singleton.mpr hsmall.1
    · exact isLower_lowerChar

theorem lowerFrom_of_isLower {before cs : List Char} (h : ∀ c ∈ cs, IsLower c) :
    lowerFrom before cs = cs := by
  induction cs generalizing before with
  | nil => rfl
  | cons c cs ih =>
    obtain ⟨hc, hcs⟩ := List.forall_mem_cons.mp h
    have hsigma : (c == 'Σ') = false := by simpa using hc.ne_sigma
    rw [lowerFrom, hsigma, ih hcs]
    simp [hc.lowerChar]

theorem lower_lower (s : String) : lower (lower s) = lower s := by
  rw [lower, lower, String.toList_ofList, lowerFrom_of_isLower isLower_lowerFrom]

theorem lowerChar_ne_nil (c : Char) : lowerChar c ≠ [] := by
  unfold lowerChar
  split
  · simp
  · split <;> simp

theorem lower_ne_empty {s : String} (h : s ≠ "") : lower s ≠ "" := by
  cases hs : s.toList with
  | nil => exact absurd (String.toList_eq_nil_iff.mp hs) h
  | cons c cs =>
    rw [lower, hs, lowerFrom, ne_eq, String.ofList_eq_empty_iff, List.append_eq_nil_iff]
    rintro ⟨hc, -⟩
    split at hc
    · split at hc <;> cases hc
    · exact lowerChar_ne_nil c hc

end SchemaJoins.Text
