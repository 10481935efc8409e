/-
# Rounding to a number of significant digits

The arithmetic of a floating-point format, decimal or binary, rounds the exact result
to `p` significant digits in base `b`, half to even.  **A number that has no more
digits is left as it is** (`significant_of_digits`), so what was rounded once is not
changed by rounding it again (`significant_significant`).
-/

import Mathlib.Data.Int.Log
import Mathlib.Algebra.Order.Floor.Ring
import Mathlib.Algebra.Group.Int.Even
import Mathlib.Tactic.Linarith
import Mathlib.Tactic.Ring

namespace Numeric

variable {K : Type} [Field K] [LinearOrder K] [FloorRing K]

/-- The nearest integer, of two the even one. -/
def roundEven (q : K) : ℤ :=
  if q - ⌊q⌋ < 1 / 2 then ⌊q⌋
  else if 1 / 2 < q - ⌊q⌋ then ⌊q⌋ + 1
  else if ⌊q⌋ % 2 = 0 then ⌊q⌋ else ⌊q⌋ + 1

/-- **`q` to `p` significant digits in base `b`.** -/
def significant (b p : ℕ) (q : K) : K :=
  if q = 0 then 0
  else
    let e := Int.log b |q| + 1 - p
    roundEven (q / (b : K) ^ e) * (b : K) ^ e

theorem significant_zero (b p : ℕ) : significant b p (0 : K) = 0 := if_pos rfl

theorem le_roundEven (q : K) : ⌊q⌋ ≤ roundEven q := by
  unfold roundEven
  split_ifs <;> omega

theorem roundEven_le (q : K) : roundEven q ≤ ⌊q⌋ + 1 := by
  unfold roundEven
  split_ifs <;> omega

variable [IsStrictOrderedRing K]

theorem roundEven_intCast (n : ℤ) : roundEven (n : K) = n := by
  rw [roundEven, Int.floor_intCast, sub_self, if_pos (by norm_num)]

/-- What lies below an integer in size is not rounded beyond it. -/
theorem abs_roundEven_le {q : K} {n : ℤ} (h : |q| < n) : |roundEven q| ≤ n := by
  obtain ⟨hlow, hhigh⟩ := abs_lt.1 h
  have hfloor : ⌊q⌋ < n := Int.floor_lt.2 hhigh
  have hneg : -n ≤ ⌊q⌋ := Int.le_floor.2 (by push_cast; exact hlow.le)
  have h₁ := le_roundEven q
  have h₂ := roundEven_le q
  rw [abs_le]
  omega

section Digits

variable {b p : ℕ} (hb : 1 < b)
include hb

theorem zpow_pos_of_one_lt (e : ℤ) : (0 : K) < (b : K) ^ e :=
  zpow_pos (by exact_mod_cast lt_trans Nat.zero_lt_one hb) e

/-- **A number of at most `p` digits is left as it is.** -/
theorem significant_of_digits {n e : ℤ} (hn : |n| < (b : ℤ) ^ p) :
    significant b p ((n : K) * (b : K) ^ e) = n * (b : K) ^ e := by
  by_cases hzero : n = 0
  · subst hzero
    simp [significant_zero]
  have hb0 : (b : K) ≠ 0 := by
    have : b ≠ 0 := by omega
    exact_mod_cast this
  have hne : (n : K) * (b : K) ^ e ≠ 0 :=
    mul_ne_zero (by exact_mod_cast hzero) (zpow_ne_zero _ hb0)
  have hpos := @zpow_pos_of_one_lt K _ _ _ _ b hb e
  have habs : |(n : K) * (b : K) ^ e| = |(n : K)| * (b : K) ^ e := by
    rw [abs_mul, abs_of_pos hpos]
  -- the number is below `b ^ (p + e)`, so the last digit kept is worth at most `b ^ e`
  have hlt : |(n : K) * (b : K) ^ e| < (b : K) ^ ((p : ℤ) + e) := by
    have hcast : |(n : K)| < (b : K) ^ (p : ℤ) := by
      rw [zpow_natCast, ← Int.cast_abs]
      exact_mod_cast hn
    rw [habs, zpow_add₀ hb0]
    exact mul_lt_mul_of_pos_right hcast hpos
  have hlog : Int.log b |(n : K) * (b : K) ^ e| < (p : ℤ) + e :=
    (Int.lt_zpow_iff_log_lt hb (abs_pos.2 hne)).1 hlt
  rw [significant, if_neg hne]
  dsimp only
  obtain ⟨k, hk⟩ : ∃ k : ℕ, e = Int.log b |(n : K) * (b : K) ^ e| + 1 - (p : ℤ) + k :=
    ⟨(e - (Int.log b |(n : K) * (b : K) ^ e| + 1 - (p : ℤ))).toNat, by omega⟩
  generalize Int.log b |(n : K) * (b : K) ^ e| + 1 - (p : ℤ) = f at hk ⊢
  have hquot : (n : K) * (b : K) ^ e / (b : K) ^ f = ((n * (b : ℤ) ^ k : ℤ) : K) := by
    rw [hk, zpow_add₀ hb0, zpow_natCast]
    push_cast
    field_simp
  rw [hquot, roundEven_intCast, ← hquot, div_mul_cancel₀ _ (zpow_ne_zero _ hb0)]

/-- The digits of what was rounded. -/
theorem significant_eq (hp : 0 < p) (q : K) :
    ∃ n e : ℤ, |n| < (b : ℤ) ^ p ∧ significant b p q = n * (b : K) ^ e := by
  by_cases hq : q = 0
  · exact ⟨0, 0, by simpa using pow_pos (by omega : (0 : ℤ) < b) p, by simp [significant, hq]⟩
  have hb0 : (b : K) ≠ 0 := by
    have : b ≠ 0 := by omega
    exact_mod_cast this
  rw [significant, if_neg hq]
  dsimp only
  have hsize : |q| < (b : K) ^ (Int.log b |q| + 1) := Int.lt_zpow_succ_log_self hb |q|
  have hf : Int.log b |q| + 1 = (p : ℤ) + (Int.log b |q| + 1 - p) := by omega
  rw [hf, zpow_add₀ hb0] at hsize
  generalize Int.log b |q| + 1 - (p : ℤ) = f at hsize ⊢
  have hpos := @zpow_pos_of_one_lt K _ _ _ _ b hb f
  have hquot : |q / (b : K) ^ f| < ((b ^ p : ℕ) : ℤ) := by
    rw [abs_div, abs_of_pos hpos, div_lt_iff₀ hpos]
    rw [zpow_natCast] at hsize
    exact_mod_cast hsize
  have hround := abs_roundEven_le hquot
  push_cast at hround
  rcases lt_or_eq_of_le hround with hlt | hcarry
  · exact ⟨_, f, hlt, rfl⟩
  -- the digits were all nines: one digit less, and the next power
  · obtain ⟨k, rfl⟩ : ∃ k, p = k + 1 := ⟨p - 1, by omega⟩
    have hdvd : (b : ℤ) ∣ roundEven (q / (b : K) ^ f) := by
      rw [← dvd_abs, hcarry]
      exact dvd_pow_self _ (by omega)
    obtain ⟨n, hn⟩ := hdvd
    refine ⟨n, f + 1, ?_, ?_⟩
    · rw [hn, abs_mul, pow_succ', abs_of_nonneg (by omega : (0 : ℤ) ≤ b)] at hcarry
      rw [mul_left_cancel₀ (by omega : (b : ℤ) ≠ 0) hcarry]
      exact pow_lt_pow_right₀ (by omega) (by omega)
    · rw [hn, zpow_add_one₀ hb0]
      push_cast
      ring

/-- **Rounding what was rounded changes nothing.** -/
theorem significant_significant (hp : 0 < p) (q : K) :
    significant b p (significant b p q) = significant b p q := by
  obtain ⟨n, e, hn, hq⟩ := significant_eq hb hp q
  rw [hq, significant_of_digits hb hn]

end Digits

end Numeric
