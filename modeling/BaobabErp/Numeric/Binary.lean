/-
# Binary floating-point numbers and the decimals that denote them

A binary format keeps a number of significant bits and an exponent between two bounds.
**A number of the format is what rounding leaves of its own value** (`Format.round_value`).
A decimal denotes the number it rounds to; the shortest one is found by counting its
digits up, and **it is found for every number of the format** (`round_shortest`), because
the exact value of the number is a decimal itself.
-/

import BaobabErp.Numeric.Significant
import Mathlib.Data.Rat.Floor
import Mathlib.Algebra.Order.Field.Rat

namespace Numeric

/-- **A binary format**: how many bits a significand has, and the least and the greatest
exponent of its last bit. -/
structure Format where
  bits : ℕ
  least : ℤ
  greatest : ℤ
  bits_pos : 0 < bits
  le_greatest : least ≤ greatest

/-- **A non-negative number of the format**, with as many bits as its exponent lets it have. -/
@[ext]
structure Magnitude (F : Format) where
  significand : ℕ
  exponent : ℤ
  significand_lt : significand < 2 ^ F.bits
  least_le : F.least ≤ exponent
  le_greatest : exponent ≤ F.greatest
  canonical : 2 ^ (F.bits - 1) ≤ significand ∨ exponent = F.least
deriving DecidableEq

namespace Magnitude

variable {F : Format}

/-- The number it denotes. -/
def value (x : Magnitude F) : ℚ := x.significand * (2 : ℚ) ^ x.exponent

def zero (F : Format) : Magnitude F :=
  ⟨0, F.least, Nat.two_pow_pos _, le_rfl, F.le_greatest, .inr rfl⟩

instance : Inhabited (Magnitude F) := ⟨zero F⟩

theorem value_nonneg (x : Magnitude F) : 0 ≤ x.value :=
  mul_nonneg (Nat.cast_nonneg _) (zpow_nonneg (by norm_num) _)

theorem value_eq_zero {x : Magnitude F} : x.value = 0 ↔ x = zero F := by
  constructor
  · intro h
    have hpow : (2 : ℚ) ^ x.exponent ≠ 0 := zpow_ne_zero _ (by norm_num)
    have hs : x.significand = 0 := by
      rcases mul_eq_zero.1 h with h | h
      · exact_mod_cast h
      · exact absurd h hpow
    have hexponent : x.exponent = F.least := by
      rcases x.canonical with h | h
      · have := Nat.two_pow_pos (F.bits - 1)
        omega
      · exact h
    exact Magnitude.ext hs hexponent
  · rintro rfl
    simp [value, zero]

end Magnitude

namespace Format

variable (F : Format)

/-- The number with these parts, when they are in their bounds. -/
def number (significand : ℕ) (exponent : ℤ) : Option (Magnitude F) :=
  if h : significand < 2 ^ F.bits ∧ F.least ≤ exponent ∧ exponent ≤ F.greatest ∧
      (2 ^ (F.bits - 1) ≤ significand ∨ exponent = F.least) then
    some ⟨significand, exponent, h.1, h.2.1, h.2.2.1, h.2.2.2⟩
  else none

/-- The exponent of the last bit that is kept of a positive number. -/
def quantum (q : ℚ) : ℤ := max (Int.log 2 q + 1 - F.bits) F.least

/-- **The nearest number of the format, of two the even one**; `none` where it is beyond
the greatest. -/
def round (q : ℚ) : Option (Magnitude F) :=
  if q = 0 then some (Magnitude.zero F)
  else
    let kept := (roundEven (q / (2 : ℚ) ^ F.quantum q)).toNat
    if kept = 2 ^ F.bits then F.number (2 ^ (F.bits - 1)) (F.quantum q + 1)
    else F.number kept (F.quantum q)

theorem number_eq (x : Magnitude F) : F.number x.significand x.exponent = some x :=
  dif_pos ⟨x.significand_lt, x.least_le, x.le_greatest, x.canonical⟩

/-- The last bit of a number of the format has the exponent it is kept with. -/
theorem quantum_value {x : Magnitude F} (h : x.value ≠ 0) : F.quantum x.value = x.exponent := by
  have hpos : 0 < x.value := lt_of_le_of_ne x.value_nonneg h.symm
  have htwo : (2 : ℚ) ≠ 0 := by norm_num
  have hunit : (0 : ℚ) < 2 ^ x.exponent := zpow_pos (by norm_num) _
  have hbits : ((F.bits - 1 : ℕ) : ℤ) = (F.bits : ℤ) - 1 := by
    have := F.bits_pos
    omega
  have hlow : x.significand < 2 ^ (F.bits - 1) → Int.log 2 x.value < F.bits - 1 + x.exponent := by
    intro hs
    have hs' : (x.significand : ℚ) < 2 ^ (F.bits - 1) := by exact_mod_cast hs
    refine (Int.lt_zpow_iff_log_lt (by norm_num) hpos).1 ?_
    rw [← hbits]
    push_cast
    rw [zpow_add₀ htwo, zpow_natCast]
    exact mul_lt_mul_of_pos_right hs' hunit
  have hhigh : 2 ^ (F.bits - 1) ≤ x.significand → F.bits - 1 + x.exponent ≤ Int.log 2 x.value := by
    intro hs
    have hs' : (2 : ℚ) ^ (F.bits - 1) ≤ x.significand := by exact_mod_cast hs
    refine (Int.zpow_le_iff_le_log (by norm_num) hpos).1 ?_
    rw [← hbits]
    push_cast
    rw [zpow_add₀ htwo, zpow_natCast]
    exact mul_le_mul_of_nonneg_right hs' hunit.le
  have hlt : Int.log 2 x.value < F.bits + x.exponent := by
    have hs' : (x.significand : ℚ) < 2 ^ F.bits := by exact_mod_cast x.significand_lt
    refine (Int.lt_zpow_iff_log_lt (by norm_num) hpos).1 ?_
    push_cast
    rw [zpow_add₀ htwo, zpow_natCast]
    exact mul_lt_mul_of_pos_right hs' hunit
  have hleast := x.least_le
  unfold quantum
  by_cases hs : 2 ^ (F.bits - 1) ≤ x.significand
  · have := hhigh hs
    omega
  · have := hlow (by omega)
    rcases x.canonical with h | h
    · exact absurd h hs
    · omega

/-- **Rounding a number of the format leaves it as it is.** -/
theorem round_value (x : Magnitude F) : F.round x.value = some x := by
  by_cases hzero : x.value = 0
  · rw [round, if_pos hzero, Magnitude.value_eq_zero.1 hzero]
  have hunit : (2 : ℚ) ^ x.exponent ≠ 0 := zpow_ne_zero _ (by norm_num)
  have hkept : (roundEven (x.value / (2 : ℚ) ^ F.quantum x.value)).toNat = x.significand := by
    have hquot : x.value / (2 : ℚ) ^ x.exponent = ((x.significand : ℤ) : ℚ) := by
      rw [Magnitude.value, mul_div_cancel_right₀ _ hunit]
      rfl
    rw [F.quantum_value hzero, hquot, roundEven_intCast, Int.toNat_natCast]
  rw [round, if_neg hzero]
  simp only [hkept]
  rw [if_neg (Nat.ne_of_lt x.significand_lt), F.quantum_value hzero, number_eq]

theorem roundEven_le_of_le {q : ℚ} {n : ℤ} (h : q ≤ n) : roundEven q ≤ n := by
  have hfloor : ⌊q⌋ ≤ n := by
    have := Int.floor_mono h
    rwa [Int.floor_intCast] at this
  have hround := roundEven_le q
  by_cases heq : ⌊q⌋ = n
  · have hq : q = n := le_antisymm h (heq ▸ Int.floor_le q)
    rw [hq, roundEven_intCast]
  · omega

theorem number_isSome {significand : ℕ} {exponent : ℤ} (hs : significand < 2 ^ F.bits)
    (hleast : F.least ≤ exponent) (hgreatest : exponent ≤ F.greatest)
    (h : 2 ^ (F.bits - 1) ≤ significand ∨ exponent = F.least) :
    (F.number significand exponent).isSome = true := by
  rw [number, dif_pos ⟨hs, hleast, hgreatest, h⟩]
  rfl

/-- What rounding keeps of a number fits the format, or carries into one more bit. -/
theorem kept_bounds {q : ℚ} (h : 0 < q) :
    let kept := (roundEven (q / (2 : ℚ) ^ F.quantum q)).toNat
    kept ≤ 2 ^ F.bits ∧ (2 ^ (F.bits - 1) ≤ kept ∨ F.quantum q = F.least) := by
  have hunit : (0 : ℚ) < 2 ^ F.quantum q := zpow_pos (by norm_num) _
  have htwo : (2 : ℚ) ≠ 0 := by norm_num
  have hquot : 0 < q / (2 : ℚ) ^ F.quantum q := div_pos h hunit
  have hlt : |q / (2 : ℚ) ^ F.quantum q| < ((2 ^ F.bits : ℕ) : ℤ) := by
    have hlog : q < (2 : ℚ) ^ (F.bits + F.quantum q) := by
      refine (Int.lt_zpow_iff_log_lt (by norm_num : 1 < 2) h).2 ?_
      have := le_max_left (Int.log 2 q + 1 - F.bits) F.least
      unfold quantum
      omega
    rw [zpow_add₀ htwo, zpow_natCast] at hlog
    rw [abs_of_pos hquot, div_lt_iff₀ hunit]
    exact_mod_cast hlog
  have hkept := (abs_le.1 (abs_roundEven_le hlt)).2
  refine ⟨Int.toNat_le.2 hkept, ?_⟩
  by_cases hquantum : F.quantum q = F.least
  · exact .inr hquantum
  · left
    have hq : F.quantum q = Int.log 2 q + 1 - F.bits := by
      unfold quantum at hquantum ⊢
      omega
    have hbits : ((F.bits - 1 : ℕ) : ℤ) + F.quantum q = Int.log 2 q := by
      have := F.bits_pos
      omega
    have hle : ((2 ^ (F.bits - 1) : ℕ) : ℤ) ≤ ⌊q / (2 : ℚ) ^ F.quantum q⌋ := by
      have hlog : (2 : ℚ) ^ (((F.bits - 1 : ℕ) : ℤ) + F.quantum q) ≤ q := by
        rw [hbits]
        exact Int.zpow_log_le_self (by norm_num) h
      rw [zpow_add₀ htwo, zpow_natCast] at hlog
      rw [Int.le_floor, le_div_iff₀ hunit]
      exact_mod_cast hlog
    have := hle.trans (le_roundEven _)
    omega

/-- **Only what is beyond the greatest number of the format has no number to be rounded to.** -/
theorem lt_of_round_eq_none {q : ℚ} (hq : 0 ≤ q) (h : F.round q = none) :
    ((2 ^ F.bits - 1 : ℕ) : ℚ) * (2 : ℚ) ^ F.greatest < q := by
  by_contra hle
  rw [not_lt] at hle
  have hzero : q ≠ 0 := by
    rintro rfl
    rw [round, if_pos rfl] at h
    exact absurd h (by simp)
  have hpos : 0 < q := lt_of_le_of_ne hq hzero.symm
  have htwo : (2 : ℚ) ≠ 0 := by norm_num
  have hunit : (0 : ℚ) < 2 ^ F.greatest := zpow_pos (by norm_num) _
  have hbits := Nat.two_pow_pos F.bits
  have hleast : F.least ≤ F.quantum q := le_max_right _ _
  have hquantum : F.quantum q ≤ F.greatest := by
    have hlog : Int.log 2 q < F.bits + F.greatest := by
      refine (Int.lt_zpow_iff_log_lt (by norm_num) hpos).1 (lt_of_le_of_lt hle ?_)
      push_cast
      rw [zpow_add₀ htwo, zpow_natCast]
      refine mul_lt_mul_of_pos_right ?_ hunit
      have : ((2 ^ F.bits - 1 : ℕ) : ℚ) < ((2 ^ F.bits : ℕ) : ℚ) := by
        exact_mod_cast Nat.sub_lt hbits Nat.one_pos
      exact_mod_cast this
    have := F.le_greatest
    unfold quantum
    omega
  obtain ⟨hkept, hcanonical⟩ := F.kept_bounds hpos
  rw [round, if_neg hzero] at h
  simp only at h hkept hcanonical
  split at h
  · rename_i hcarry
    by_cases heq : F.quantum q = F.greatest
    -- below the greatest number nothing carries
    · have hquot : q / (2 : ℚ) ^ F.quantum q ≤ ((2 ^ F.bits - 1 : ℕ) : ℤ) := by
        rw [heq, div_le_iff₀ hunit]
        exact_mod_cast hle
      have := roundEven_le_of_le hquot
      omega
    · have hlt : 2 ^ (F.bits - 1) < 2 ^ F.bits := Nat.pow_lt_pow_right (by norm_num) (by
        have := F.bits_pos
        omega)
      have := @number_isSome F _ (F.quantum q + 1) hlt (by omega) (by omega) (.inl le_rfl)
      rw [h] at this
      exact absurd this (by simp)
  · have := F.number_isSome (by omega) hleast hquantum hcanonical
    rw [h] at this
    exact absurd this (by simp)

end Format

/-! ### Decimals -/

namespace Magnitude

variable {F : Format}

/-- The place of the last of `n` decimal digits. -/
def lastPlace (x : Magnitude F) (n : ℕ) : ℤ := Int.log 10 x.value + 1 - n

/-- The greatest number of `n` digits that is not above the value, counted in last places. -/
def below (x : Magnitude F) (n : ℕ) : ℕ := ⌊x.value / (10 : ℚ) ^ x.lastPlace n⌋.toNat

/-- The decimal `i * 10 ^ e` is rounded to this number. -/
def Denotes (x : Magnitude F) (i : ℕ) (e : ℤ) : Prop := F.round (i * (10 : ℚ) ^ e) = some x

instance (x : Magnitude F) (i : ℕ) (e : ℤ) : Decidable (x.Denotes i e) :=
  inferInstanceAs (Decidable (_ = _))

/-- One of the two decimals of `n` digits next to the value denotes it. -/
def Enough (x : Magnitude F) (n : ℕ) : Prop :=
  x.Denotes (x.below n) (x.lastPlace n) ∨ x.Denotes (x.below n + 1) (x.lastPlace n)

instance (x : Magnitude F) (n : ℕ) : Decidable (x.Enough n) := inferInstanceAs (Decidable (_ ∨ _))

/-- In a decimal place below its last bit the value is a whole number. -/
theorem value_eq_natCast (x : Magnitude F) {e : ℤ} (hzero : e ≤ 0) (hleast : e ≤ F.least) :
    ∃ n : ℕ, x.value = n * (10 : ℚ) ^ e := by
  have hexponent := x.least_le
  obtain ⟨j, hj⟩ : ∃ j : ℕ, x.exponent = e + j := ⟨(x.exponent - e).toNat, by omega⟩
  obtain ⟨k, hk⟩ : ∃ k : ℕ, e = -k := ⟨(-e).toNat, by omega⟩
  refine ⟨x.significand * 2 ^ j * 5 ^ k, ?_⟩
  have hten : (10 : ℚ) ^ k = 2 ^ k * 5 ^ k := by rw [← mul_pow]; norm_num
  rw [value, hj, zpow_add₀ (by norm_num), hk, zpow_neg, zpow_neg, zpow_natCast, zpow_natCast,
    zpow_natCast, hten]
  push_cast
  field_simp

/-- **The exact value is a decimal**: with enough digits nothing is left over. -/
theorem exists_enough (x : Magnitude F) : ∃ n, 2 ≤ n ∧ x.Enough n := by
  obtain ⟨e, he⟩ : ∃ e, e = min F.least (min (Int.log 10 x.value - 1) 0) := ⟨_, rfl⟩
  obtain ⟨n, hn⟩ := x.value_eq_natCast (by omega : e ≤ 0) (by omega)
  have hunit : (10 : ℚ) ^ e ≠ 0 := zpow_ne_zero _ (by norm_num)
  have hplace : x.lastPlace (Int.log 10 x.value + 1 - e).toNat = e := by
    unfold lastPlace
    omega
  have hbelow : x.below (Int.log 10 x.value + 1 - e).toNat = n := by
    rw [below, hplace, hn, mul_div_cancel_right₀ _ hunit, Int.floor_natCast, Int.toNat_natCast]
  refine ⟨(Int.log 10 x.value + 1 - e).toNat, by omega, .inl ?_⟩
  rw [hbelow, hplace, Denotes, ← hn, F.round_value]

/-- How many digits the number is written with: at least two. -/
def digitCount (x : Magnitude F) : ℕ := Nat.find x.exists_enough

/-- **The decimal the number is written as**, of the shortest ones the nearest to its value,
of two such the one with an even last digit. -/
def shortest (x : Magnitude F) : ℕ × ℤ :=
  let i := x.below x.digitCount
  let e := x.lastPlace x.digitCount
  if ¬ x.Denotes i e then (i + 1, e)
  else if ¬ x.Denotes (i + 1) e then (i, e)
  else
    let half := x.value - (i + 1 / 2) * (10 : ℚ) ^ e
    if half < 0 ∨ (half = 0 ∧ i % 2 = 0) then (i, e) else (i + 1, e)

theorem round_shortest (x : Magnitude F) : x.Denotes x.shortest.1 x.shortest.2 := by
  have henough := (Nat.find_spec x.exists_enough).2
  unfold shortest
  simp only
  split
  · rename_i hi
    exact henough.resolve_left hi
  · rename_i hi
    rw [not_not] at hi
    split
    · exact hi
    · rename_i hnext
      rw [not_not] at hnext
      split
      · exact hi
      · exact hnext

end Magnitude

end Numeric
