import Mathlib.Algebra.Order.Field.Power
import Mathlib.Tactic.Linarith
import Mathlib.Tactic.NormNum
import Mathlib.Tactic.Positivity
import SchemaJoins.Number.Binary64

/-! # Doubles in one form

A double is kept in one form only, so that doubles of one value differ at most in the sign
of zero. Rounding gives no other form.
-/

namespace SchemaJoins

theorem divNearestEven_cases (num den : Nat) :
    divNearestEven num den = num / den ∨ divNearestEven num den = num / den + 1 := by
  unfold divNearestEven
  dsimp only
  split
  · exact .inl rfl
  split
  · exact .inr rfl
  split
  · exact .inl rfl
  · exact .inr rfl

theorem divNearestEven_le {num den bound : Nat} (h : num < bound * den) :
    divNearestEven num den ≤ bound := by
  have hquotient : num / den < bound := Nat.div_lt_of_lt_mul (by rwa [Nat.mul_comm])
  rcases divNearestEven_cases num den with hq | hq <;> omega

theorem le_divNearestEven {num den bound : Nat} (hden : 0 < den) (h : bound * den ≤ num) :
    bound ≤ divNearestEven num den := by
  have hquotient : bound ≤ num / den := (Nat.le_div_iff_mul_le hden).mpr h
  rcases divNearestEven_cases num den with hq | hq <;> omega

namespace Binary64

variable {negative negative' : Bool} {mantissa mantissa' num den : Nat} {exponent exponent' : Int}

section Form

/-- A mantissa and an exponent as they are kept: the mantissa has 53 bits, if the exponent is
not the least one. -/
structure IsNormal (mantissa : Nat) (exponent : Int) : Prop where
  pos : 0 < mantissa
  lt : mantissa < 2 ^ 53
  least : -1074 ≤ exponent
  greatest : exponent ≤ 971
  full : exponent ≠ -1074 → 2 ^ 52 ≤ mantissa

/-- A number in the form in which numbers are kept, or an infinity. -/
def IsProper : Binary64 → Prop
  | nan => False
  | infinite _ => True
  | finite _ mantissa exponent => mantissa = 0 ∧ exponent = 0 ∨ IsNormal mantissa exponent

def value (negative : Bool) (mantissa : Nat) (exponent : Int) : ℚ :=
  (if negative then -1 else 1) * (mantissa * 2 ^ exponent)

theorem isProper_zero : (zero negative).IsProper := .inl ⟨rfl, rfl⟩

end Form

section Value

theorem two_zpow_pos (exponent : Int) : (0 : ℚ) < 2 ^ exponent := by positivity

theorem two_zpow_of_neg (h : exponent < 0) :
    (2 : ℚ) ^ exponent = (2 ^ exponent.natAbs)⁻¹ := by
  rw [← zpow_natCast, ← zpow_neg]
  congr 1
  omega

theorem two_zpow_of_not_neg (h : ¬ exponent < 0) :
    (2 : ℚ) ^ exponent = 2 ^ exponent.natAbs := by
  rw [← zpow_natCast]
  congr 1
  omega

theorem value_eq_zero_iff : value negative mantissa exponent = 0 ↔ mantissa = 0 := by
  have hpower := (two_zpow_pos exponent).ne'
  cases negative <;> simp [value, hpower]

theorem IsNormal.exponent_le (h : IsNormal mantissa exponent) (h' : IsNormal mantissa' exponent')
    (he : (mantissa : ℚ) * 2 ^ exponent = mantissa' * 2 ^ exponent') : exponent' ≤ exponent := by
  by_contra hlt
  have hfull : (2 ^ 52 : ℚ) ≤ mantissa' := by
    have := h.least
    exact_mod_cast h'.full (by omega)
  have hstep : (2 : ℚ) ^ (exponent + 1) ≤ 2 ^ exponent' :=
    zpow_le_zpow_right₀ (by norm_num) (by omega)
  have hshort : (mantissa : ℚ) < 2 ^ 53 := by exact_mod_cast h.lt
  have hlow : (mantissa : ℚ) * 2 ^ exponent < 2 ^ 53 * 2 ^ exponent :=
    mul_lt_mul_of_pos_right hshort (two_zpow_pos exponent)
  have hhigh : (2 ^ 52 : ℚ) * 2 ^ (exponent + 1) ≤ mantissa' * 2 ^ exponent' :=
    mul_le_mul hfull hstep (two_zpow_pos _).le (by positivity)
  rw [zpow_add_one₀ (by norm_num)] at hhigh
  linarith

theorem IsNormal.unique (h : IsNormal mantissa exponent) (h' : IsNormal mantissa' exponent')
    (he : (mantissa : ℚ) * 2 ^ exponent = mantissa' * 2 ^ exponent') :
    mantissa = mantissa' ∧ exponent = exponent' := by
  obtain rfl : exponent = exponent' := le_antisymm (h'.exponent_le h he.symm) (h.exponent_le h' he)
  have hm := mul_right_cancel₀ (two_zpow_pos exponent).ne' he
  exact ⟨by exact_mod_cast hm, rfl⟩

theorem sign_unique (h : 0 < mantissa) (h' : 0 < mantissa')
    (he : value negative mantissa exponent = value negative' mantissa' exponent') :
    negative = negative' ∧ (mantissa : ℚ) * 2 ^ exponent = mantissa' * 2 ^ exponent' := by
  have hpos : (0 : ℚ) < mantissa * 2 ^ exponent := by positivity
  have hpos' : (0 : ℚ) < mantissa' * 2 ^ exponent' := by positivity
  unfold value at he
  cases negative <;> cases negative' <;> simp only [Bool.false_eq_true, if_true, if_false] at he
  · exact ⟨rfl, by linarith⟩
  · linarith
  · linarith
  · exact ⟨rfl, by linarith⟩

theorem same_finite_iff (h : IsProper (finite negative mantissa exponent))
    (h' : IsProper (finite negative' mantissa' exponent')) :
    (finite negative mantissa exponent).same (finite negative' mantissa' exponent') = true ↔
      value negative mantissa exponent = value negative' mantissa' exponent' := by
  have hsame : (finite negative mantissa exponent).same (finite negative' mantissa' exponent') =
      true ↔ mantissa = 0 ∧ mantissa' = 0 ∨
        negative = negative' ∧ mantissa = mantissa' ∧ exponent = exponent' := by
    simp [same, and_assoc]
  rw [hsame]
  constructor
  · rintro (⟨hzero, hzero'⟩ | ⟨rfl, rfl, rfl⟩)
    · rw [value_eq_zero_iff.mpr hzero, value_eq_zero_iff.mpr hzero']
    · rfl
  · intro he
    rcases h with ⟨hzero, -⟩ | hnormal
    · exact .inl ⟨hzero, value_eq_zero_iff.mp (he ▸ value_eq_zero_iff.mpr hzero)⟩
    rcases h' with ⟨hzero', -⟩ | hnormal'
    · exact .inl ⟨value_eq_zero_iff.mp (he ▸ value_eq_zero_iff.mpr hzero'), hzero'⟩
    obtain ⟨hsign, hvalue⟩ := sign_unique hnormal.pos hnormal'.pos he
    exact .inr ⟨hsign, hnormal.unique hnormal' hvalue⟩

theorem isInt_iff (n : Int) : (finite negative mantissa exponent).isInt n = true ↔
    value negative mantissa exponent = n := by
  have hpower : (2 : ℚ) ^ exponent.natAbs ≠ 0 := by positivity
  unfold isInt toFraction? value
  by_cases hneg : exponent < 0
  · simp only [hneg, if_true, beq_iff_eq]
    rw [two_zpow_of_neg hneg, ← mul_assoc, ← div_eq_mul_inv, div_eq_iff hpower]
    cases negative <;> simp [← @Int.cast_inj ℚ]
  · simp only [hneg, if_false, beq_iff_eq]
    rw [two_zpow_of_not_neg hneg]
    cases negative <;> simp [← @Int.cast_inj ℚ]

end Value

section Rounding

theorem log2_bounds (h : 0 < num) :
    (2 : ℚ) ^ (num.log2 : Int) ≤ num ∧ (num : ℚ) < 2 ^ ((num.log2 : Int) + 1) := by
  constructor
  · rw [zpow_natCast]
    exact_mod_cast Nat.log2_self_le h.ne'
  · have hlt := Nat.lt_log2_self (n := num)
    rw [← Nat.cast_succ, zpow_natCast]
    exact_mod_cast hlt

theorem reaches_iff (num den : Nat) (gap : Int) :
    (if gap < 0 then decide (den ≤ num * Nat.pow 2 gap.natAbs)
      else decide (den * Nat.pow 2 gap.natAbs ≤ num)) = true ↔ (den : ℚ) * 2 ^ gap ≤ num := by
  have hpower : (0 : ℚ) < 2 ^ gap.natAbs := by positivity
  by_cases hneg : gap < 0
  · rw [if_pos hneg, decide_eq_true_eq, two_zpow_of_neg hneg, ← div_eq_mul_inv, div_le_iff₀ hpower]
    exact_mod_cast Iff.rfl
  · rw [if_neg hneg, decide_eq_true_eq, two_zpow_of_not_neg hneg]
    exact_mod_cast Iff.rfl

/-- At the unit exponent the integer part of a quotient has 53 bits. -/
theorem unitExponent_bounds (hnum : 0 < num) (hden : 0 < den) :
    (den : ℚ) * 2 ^ (unitExponent num den + 52) ≤ num ∧
      (num : ℚ) < den * 2 ^ (unitExponent num den + 53) := by
  obtain ⟨hlow, hhigh⟩ := log2_bounds hnum
  obtain ⟨hlow', hhigh'⟩ := log2_bounds hden
  have hiff := reaches_iff num den ((num.log2 : Int) - den.log2)
  unfold unitExponent
  dsimp only
  generalize hgap : (num.log2 : Int) - den.log2 = gap at hiff ⊢
  by_cases hreaches : (den : ℚ) * 2 ^ gap ≤ num
  · rw [if_pos (hiff.mpr hreaches)]
    have hnext : (2 : ℚ) ^ ((num.log2 : Int) + 1) ≤ den * 2 ^ (gap + 1) := by
      have hsplit : (num.log2 : Int) + 1 = den.log2 + (gap + 1) := by omega
      rw [hsplit, zpow_add₀ (by norm_num)]
      exact mul_le_mul_of_nonneg_right hlow' (two_zpow_pos _).le
    refine ⟨?_, ?_⟩
    · rw [sub_add_cancel]
      exact hreaches
    · have hexponent : gap - 52 + 53 = gap + 1 := by omega
      rw [hexponent]
      exact hhigh.trans_le hnext
  · rw [if_neg fun h => hreaches (hiff.mp h)]
    have hbefore : (den : ℚ) * 2 ^ (gap - 1) ≤ 2 ^ (num.log2 : Int) := by
      have hsplit : (num.log2 : Int) = (den.log2 + 1) + (gap - 1) := by omega
      rw [hsplit, zpow_add₀ (by norm_num)]
      exact mul_le_mul_of_nonneg_right hhigh'.le (two_zpow_pos _).le
    refine ⟨?_, ?_⟩
    · have hexponent : gap - 53 + 52 = gap - 1 := by omega
      rw [hexponent]
      exact hbefore.trans hlow
    · rw [sub_add_cancel]
      exact not_le.mp hreaches

def inUnits (num den : Nat) (exponent : Int) : Nat :=
  if exponent < 0 then divNearestEven (num * Nat.pow 2 exponent.natAbs) den
  else divNearestEven num (den * Nat.pow 2 exponent.natAbs)

theorem inUnits_le (h : (num : ℚ) < den * 2 ^ (exponent + 53)) :
    inUnits num den exponent ≤ 2 ^ 53 := by
  have hpower : (0 : ℚ) < 2 ^ exponent.natAbs := by positivity
  rw [zpow_add₀ (by norm_num)] at h
  unfold inUnits
  by_cases hneg : exponent < 0
  · rw [two_zpow_of_neg hneg, ← mul_assoc, mul_right_comm, ← div_eq_mul_inv,
      lt_div_iff₀ hpower] at h
    rw [if_pos hneg]
    refine divNearestEven_le ?_
    rw [Nat.mul_comm (2 ^ 53)]
    exact_mod_cast h
  · rw [two_zpow_of_not_neg hneg, ← mul_assoc] at h
    rw [if_neg hneg]
    refine divNearestEven_le ?_
    rw [Nat.mul_comm (2 ^ 53)]
    exact_mod_cast h

theorem le_inUnits (hden : 0 < den) (h : (den : ℚ) * 2 ^ (exponent + 52) ≤ num) :
    2 ^ 52 ≤ inUnits num den exponent := by
  have hpower : (0 : ℚ) < 2 ^ exponent.natAbs := by positivity
  rw [zpow_add₀ (by norm_num)] at h
  unfold inUnits
  by_cases hneg : exponent < 0
  · rw [two_zpow_of_neg hneg, ← mul_assoc, mul_right_comm, ← div_eq_mul_inv,
      div_le_iff₀ hpower] at h
    rw [if_pos hneg]
    refine le_divNearestEven hden ?_
    rw [Nat.mul_comm (2 ^ 52)]
    exact_mod_cast h
  · rw [two_zpow_of_not_neg hneg, ← mul_assoc] at h
    rw [if_neg hneg]
    refine le_divNearestEven (Nat.mul_pos hden (Nat.pow_pos (by decide))) ?_
    rw [Nat.mul_comm (2 ^ 52)]
    exact_mod_cast h

/-- A mantissa that rounding has carried to 54 bits loses the last of them, which is zero. -/
theorem isProper_carried {q : Nat} (hle : q ≤ 2 ^ 53) (hleast : -1074 ≤ exponent)
    (hfull : exponent ≠ -1074 → 2 ^ 52 ≤ q) :
    (let (m, e) := if q = Nat.pow 2 53 then (Nat.pow 2 52, exponent + 1) else (q, exponent)
      if m = 0 then zero negative
      else if e > 971 then infinite negative
      else finite negative m e).IsProper := by
  by_cases hcarry : q = Nat.pow 2 53
  · rw [if_pos hcarry]
    dsimp only
    rw [if_neg (by decide)]
    split
    · trivial
    · exact .inr ⟨by decide, by decide, by omega, by omega, fun _ => le_refl _⟩
  · rw [if_neg hcarry]
    dsimp only
    split
    · exact isProper_zero
    · rename_i hzero
      split
      · trivial
      · have hlt : q < 2 ^ 53 := lt_of_le_of_ne hle hcarry
        exact .inr ⟨by omega, hlt, hleast, by omega, hfull⟩

/-- Rounding a quotient gives a double in its one form. -/
theorem isProper_ofRatio (negative : Bool) (num den : Nat) :
    (ofRatio negative num den).IsProper := by
  unfold ofRatio
  split
  · exact isProper_zero
  rename_i hpos
  have hnum : 0 < num := by omega
  have hden : 0 < den := by omega
  obtain ⟨hlow, hhigh⟩ := unitExponent_bounds hnum hden
  refine isProper_carried (inUnits_le (hhigh.trans_le ?_)) (le_max_right _ _) fun hfull => ?_
  · have hexponent : (2 : ℚ) ^ (unitExponent num den + 53) ≤
        2 ^ (max (unitExponent num den) (-1074) + 53) :=
      zpow_le_zpow_right₀ (by norm_num) (by omega)
    exact mul_le_mul_of_nonneg_left hexponent (Nat.cast_nonneg den)
  · have hexponent : max (unitExponent num den) (-1074) = unitExponent num den := by omega
    exact le_inUnits hden (by rwa [hexponent])

theorem isProper_ofDecimal (negative : Bool) (digits : Nat) (exponent : Int) :
    (ofDecimal negative digits exponent).IsProper := by
  unfold ofDecimal
  dsimp only
  split
  · exact isProper_zero
  split
  · trivial
  split
  · exact isProper_zero
  split
  · exact isProper_ofRatio ..
  · exact isProper_ofRatio ..

end Rounding

end Binary64

end SchemaJoins
