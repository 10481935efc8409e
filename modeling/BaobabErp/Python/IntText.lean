/-
# `int(str(n))`

A version is kept as the text of a number and read back by `int`.  The decimal
digits of a number are read back as that number (`intOfText_toString`).
-/

import BaobabErp.Python.Dumps

namespace BaobabErp
namespace Python

theorem toNat_of_isDigit {c : Char} (h : c.isDigit = true) : 48 ≤ c.toNat ∧ c.toNat ≤ 57 := by
  unfold Char.isDigit at h
  simp only [Bool.and_eq_true, decide_eq_true_eq, ge_iff_le, UInt32.le_iff_toNat_le] at h
  exact h

theorem digitValue_of_isDigit {c : Char} (h : c.isDigit = true) :
    digitValue c = some (c.toNat - '0'.toNat) := by
  obtain ⟨hlow, hhigh⟩ := toNat_of_isDigit h
  unfold digitValue digitZeros
  rw [List.find?_cons_of_pos (by simp; omega)]
  rfl

/-- A character of a number written out is no white space to `int`. -/
theorem isIntSpace_of_isDigit {c : Char} (h : c = '-' ∨ c.isDigit = true) :
    isIntSpace c = false := by
  have hrange : 33 ≤ c.toNat ∧ c.toNat ≤ 57 := by
    rcases h with rfl | h
    · decide
    · have := toNat_of_isDigit h
      omega
  unfold isIntSpace isSpace
  simp
  omega

/-- **Nothing of a number written out is skipped or replaced.** -/
theorem intChars_of_digits {cs : List Char} (h : ∀ c ∈ cs, c = '-' ∨ c.isDigit = true) :
    intChars cs = cs := by
  have hdrop : ∀ ds : List Char, (∀ c ∈ ds, c = '-' ∨ c.isDigit = true) →
      ds.dropWhile isIntSpace = ds := by
    intro ds hds
    cases ds with
    | nil => rfl
    | cons d ds =>
      rw [List.dropWhile_cons, isIntSpace_of_isDigit (hds d List.mem_cons_self)]
      exact if_neg Bool.false_ne_true
  unfold intChars
  rw [hdrop cs h, hdrop cs.reverse fun c hc => h c (List.mem_reverse.1 hc), List.reverse_reverse]
  refine (List.map_congr_left fun c hc => ?_).trans (List.map_id' _)
  rcases h c hc with rfl | hd
  · rfl
  · have := toNat_of_isDigit hd
    rw [digitValue_of_isDigit hd]
    show Char.ofNat (48 + (c.toNat - 48)) = c
    rw [show 48 + (c.toNat - 48) = c.toNat by omega, Char.ofNat_toNat]

/-- The digits of a number are read one after another. -/
theorem digitsWith_of_digits {cs : List Char} (h : ∀ c ∈ cs, c.isDigit = true) (acc : Nat) :
    digitsWith digitValue 10 true acc cs = some (Nat.ofDigitChars 10 cs acc) := by
  induction cs generalizing acc with
  | nil => rfl
  | cons c cs ih =>
    have hc := h c List.mem_cons_self
    have hne : (c == '_') = false := by
      rw [beq_eq_false_iff_ne]
      rintro rfl
      exact absurd hc (by decide)
    rw [digitsWith, hne, if_neg Bool.false_ne_true, digitValue_of_isDigit hc,
      Nat.ofDigitChars_cons, Nat.mul_comm 10 acc]
    exact ih (fun d hd => h d (List.mem_cons_of_mem _ hd)) _

/-- The digits of a natural number denote it. -/
theorem digitsWith_toDigits (n : Nat) :
    digitsWith digitValue 10 false 0 (Nat.toDigits 10 n) = some n := by
  have hdigits : ∀ c ∈ Nat.toDigits 10 n, c.isDigit = true := fun c hc =>
    Nat.isDigit_of_mem_toDigits (by decide) (by decide) hc
  have hread := digitsWith_of_digits hdigits 0
  rw [Nat.ofDigitChars_ten_toDigits] at hread
  cases hcs : Nat.toDigits 10 n with
  | nil => exact absurd hcs Nat.toDigits_ne_nil
  | cons c cs =>
    rw [hcs] at hdigits hread
    have hne : (c == '_') = false := by
      rw [beq_eq_false_iff_ne]
      rintro rfl
      exact absurd (hdigits _ List.mem_cons_self) (by decide)
    rw [digitsWith, hne, if_neg Bool.false_ne_true] at hread ⊢
    exact hread

/-- **`int(str(n))` is `n`.** -/
theorem intOfText_toString (n : Int) : intOfText (toString n) = some n := by
  have hchars : intChars (toString n).toList = (toString n).toList :=
    intChars_of_digits fun c hc => Json.toString_int_mem hc
  unfold intOfText
  rw [hchars]
  cases n with
  | ofNat m =>
    have hlist : (toString (Int.ofNat m)).toList = Nat.toDigits 10 m := Nat.toList_repr
    have hdigits : ∀ c ∈ Nat.toDigits 10 m, c.isDigit = true := fun c hc =>
      Nat.isDigit_of_mem_toDigits (by decide) (by decide) hc
    have hread := digitsWith_toDigits m
    rw [hlist]
    split
    · rename_i cs hcs
      exact absurd (hdigits '-' (by rw [hcs]; exact List.mem_cons_self)) (by decide)
    · rename_i cs hcs
      exact absurd (hdigits '+' (by rw [hcs]; exact List.mem_cons_self)) (by decide)
    · rw [hread]
      rfl
  | negSucc m =>
    have hlist : (toString (Int.negSucc m)).toList = '-' :: Nat.toDigits 10 (m + 1) := by
      show ("-" ++ Nat.repr (m + 1)).toList = _
      rw [String.toList_append, Nat.toList_repr]
      rfl
    have hread := digitsWith_toDigits (m + 1)
    rw [hlist]
    simp only [hread]
    rfl

end Python
end BaobabErp
