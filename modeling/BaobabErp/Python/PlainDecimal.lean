/-
# Plain decimals

A text of ASCII digits with at most one decimal point, and the number it denotes, digit by
digit from its place in the text.  `Decimal(text)` takes much more than plain decimals; **a
text of digits and points alone that it takes is a plain decimal**, and it reads the number
the text denotes (`plain_of_number`, `decimalValue_number`).
-/

import BaobabErp.Inventory.Availability
import BaobabErp.Python.Uuid

namespace BaobabErp
namespace Python

open Inventory

/-- A character of a plain decimal. -/
def isPlainChar (c : Char) : Bool := isAsciiDigit c || c == '.'

/-- **A plain base-ten decimal**: ASCII digits with at most one decimal point. -/
def isPlainDecimal (text : String) : Bool :=
  text.toList.all isPlainChar && text.toList.count '.' ≤ 1 && text.toList.any isAsciiDigit

/-- The whole number some ASCII digits denote. -/
def wholeNumber (cs : List Char) : Nat := cs.foldl (fun n c => n * 10 + (c.toNat - 48)) 0

/-- **The number a plain decimal denotes.** -/
def plainValue (text : String) : ℚ :=
  let whole := text.toList.takeWhile isAsciiDigit
  let frac := (text.toList.dropWhile isAsciiDigit).drop 1
  wholeNumber whole + wholeNumber frac / 10 ^ frac.length

/-! ### Digits -/

theorem digitValue_of_isAsciiDigit {c : Char} (h : isAsciiDigit c = true) :
    digitValue c = some (c.toNat - 48) := by
  have hlt := lt_of_isAsciiDigit h
  have hzero : '0'.toNat = 48 := rfl
  rw [digitValue_ascii (by omega), if_pos h, hzero]

theorem filterMap_digitValue {cs : List Char} (h : ∀ c ∈ cs, isAsciiDigit c = true) :
    cs.filterMap digitValue = cs.map fun c => c.toNat - 48 := by
  induction cs with
  | nil => rfl
  | cons c cs ih =>
    rw [List.filterMap_cons_some (digitValue_of_isAsciiDigit (h c List.mem_cons_self)),
      List.map_cons, ih fun d hd => h d (List.mem_cons_of_mem _ hd)]

theorem isAsciiDigit_of_isPlainChar {c : Char} (h : isPlainChar c = true)
    (hd : (digitValue c).isSome = true) : isAsciiDigit c = true := by
  rcases Bool.or_eq_true_iff.1 h with h | h
  · exact h
  · rw [beq_iff_eq.1 h] at hd
    exact absurd hd (by decide)

theorem isSpace_of_isPlainChar {c : Char} (h : isPlainChar c = true) : isSpace c = false := by
  rcases Bool.or_eq_true_iff.1 h with h | h
  · have hlt := lt_of_isAsciiDigit h
    have hzero : '0'.toNat = 48 := rfl
    simp only [isSpace, Bool.or_eq_false_iff, Bool.and_eq_false_iff, decide_eq_false_iff_not,
      beq_eq_false_iff_ne]
    omega
  · rw [beq_iff_eq.1 h]
    decide

theorem ne_of_isPlainChar {c d : Char} (h : isPlainChar c = true) (hd : isPlainChar d = false) :
    c ≠ d := by
  rintro rfl
  rw [h] at hd
  exact absurd hd (by decide)

/-! ### The number some digits denote -/

theorem foldl_digits (cs : List Char) (n : Nat) :
    cs.foldl (fun n c => n * 10 + (c.toNat - 48)) n = n * 10 ^ cs.length + wholeNumber cs := by
  induction cs generalizing n with
  | nil => simp [wholeNumber]
  | cons c cs ih =>
    have hzero := ih (0 * 10 + (c.toNat - 48))
    have hn := ih (n * 10 + (c.toNat - 48))
    rw [wholeNumber, List.foldl_cons, List.foldl_cons, hn, hzero, List.length_cons, pow_succ]
    ring

theorem wholeNumber_append (a b : List Char) :
    wholeNumber (a ++ b) = wholeNumber a * 10 ^ b.length + wholeNumber b := by
  rw [wholeNumber, List.foldl_append, foldl_digits b]
  rfl

/-- A number is zero when all of its digits are. -/
theorem foldl_values_eq_zero (ds : List Nat) (n : Nat) :
    ds.foldl (fun n d => n * 10 + d) n = 0 ↔ n = 0 ∧ ∀ d ∈ ds, d = 0 := by
  induction ds generalizing n with
  | nil => simp
  | cons d ds ih =>
    rw [List.foldl_cons, ih, List.forall_mem_cons, Nat.add_eq_zero_iff]
    constructor
    · rintro ⟨⟨hn, hd⟩, hds⟩
      exact ⟨by omega, hd, hds⟩
    · rintro ⟨hn, hd, hds⟩
      exact ⟨⟨by omega, hd⟩, hds⟩

/-! ### What `Decimal` reads of digits and points -/

/-- Where the fraction of a text of digits and points starts. -/
theorem splitAtChar_point {cs : List Char} (h : ∀ c ∈ cs, isPlainChar c = true) :
    splitAtChar (· == '.') cs =
      (cs.takeWhile isAsciiDigit, (cs.dropWhile isAsciiDigit).tail?) := by
  induction cs with
  | nil => rfl
  | cons c cs ih =>
    have ih := ih fun d hd => h d (List.mem_cons_of_mem _ hd)
    rcases Bool.or_eq_true_iff.1 (h c List.mem_cons_self) with hc | hc
    · have hpoint : (c == '.') = false := by
        rw [beq_eq_false_iff_ne]
        rintro rfl
        exact absurd hc (by decide)
      simp [splitAtChar, hpoint, hc, ih]
    · obtain rfl := beq_iff_eq.1 hc
      rfl

theorem splitAtChar_none {p : Char → Bool} {cs : List Char} (h : ∀ c ∈ cs, p c = false) :
    splitAtChar p cs = (cs, none) := by
  induction cs with
  | nil => rfl
  | cons c cs ih =>
    rw [splitAtChar, h c List.mem_cons_self, ih fun d hd => h d (List.mem_cons_of_mem _ hd)]
    rfl

theorem splitAtChar_exponent {cs : List Char} (h : ∀ c ∈ cs, isPlainChar c = true) :
    splitAtChar (fun c => c == 'e' || c == 'E') cs = (cs, none) := by
  refine splitAtChar_none fun c hc => ?_
  rw [Bool.or_eq_false_iff, beq_eq_false_iff_ne, beq_eq_false_iff_ne]
  exact ⟨ne_of_isPlainChar (h c hc) (by decide), ne_of_isPlainChar (h c hc) (by decide)⟩

/-- White space and underscores, which `Decimal` drops, are none of these characters. -/
theorem stripped_plain {cs : List Char} (h : ∀ c ∈ cs, isPlainChar c = true) :
    (stripChars cs).filter (· != '_') = cs := by
  have hhead : ∀ ds : List Char, (∀ c ∈ ds, isPlainChar c = true) → ds.dropWhile isSpace = ds := by
    intro ds hds
    cases ds with
    | nil => rfl
    | cons d ds =>
      exact List.dropWhile_cons_of_neg (by
        rw [isSpace_of_isPlainChar (hds d List.mem_cons_self)]
        decide)
  have hrev : ∀ c ∈ cs.reverse, isPlainChar c = true := fun c hc => h c (List.mem_reverse.1 hc)
  rw [stripChars, hhead cs h, hhead _ hrev, List.reverse_reverse, List.filter_eq_self]
  intro c hc
  exact bne_iff_ne.2 (ne_of_isPlainChar (h c hc) (by decide))

/-- The digits of a text of digits and points, and how many of them follow the point. -/
def plainDigits (cs : List Char) : List Char :=
  cs.takeWhile isAsciiDigit ++ (cs.dropWhile isAsciiDigit).tail

theorem tail?_getD (cs : List Char) : cs.tail?.getD [] = cs.tail := by
  cases cs <;> rfl

theorem mem_of_mem_plainDigits {cs : List Char} {c : Char} (h : c ∈ plainDigits cs) : c ∈ cs := by
  rcases List.mem_append.1 h with h | h
  · exact (List.takeWhile_sublist _).subset h
  · exact (List.dropWhile_sublist _).subset (List.mem_of_mem_tail h)

/-- **What `Decimal` takes of such a text is digits around at most one point.** -/
theorem digits_of_number {cs : List Char} {v : DecimalValue}
    (h : ∀ c ∈ cs, isPlainChar c = true) (hv : decimalNumber false cs = some v) :
    plainDigits cs ≠ [] ∧ (∀ c ∈ plainDigits cs, isAsciiDigit c = true) ∧
      v = ⟨true, false, ((plainDigits cs).filterMap digitValue).all (· == 0)⟩ := by
  unfold decimalNumber at hv
  simp only [splitAtChar_exponent h, splitAtChar_point h, tail?_getD] at hv
  split at hv
  · exact absurd hv (by simp)
  · rename_i hdigits
    rw [Bool.or_eq_true, not_or, List.isEmpty_iff, bne_iff_ne, not_not,
      List.filterMap_length_eq_length] at hdigits
    obtain ⟨hne, hsome⟩ := hdigits
    refine ⟨hne, fun c hc =>
      isAsciiDigit_of_isPlainChar (h c (mem_of_mem_plainDigits hc)) (hsome c hc), ?_⟩
    simp only [Option.elim_none] at hv
    split at hv
    · exact absurd hv (by simp)
    · exact (Option.some.inj hv).symm

/-- **Such a text is a plain decimal.** -/
theorem plain_of_number {text : String} {v : DecimalValue}
    (h : ∀ c ∈ text.toList, isPlainChar c = true)
    (hv : decimalNumber false text.toList = some v) : isPlainDecimal text = true := by
  obtain ⟨hne, hdigits, -⟩ := digits_of_number h hv
  have hcount : ∀ ds : List Char, (∀ c ∈ ds, isAsciiDigit c = true) → ds.count '.' = 0 := by
    intro ds hds
    exact List.count_eq_zero.2 fun hmem => absurd (hds _ hmem) (by decide)
  have hwhole := hcount _ fun c hc => hdigits c (List.mem_append_left _ hc)
  have hfrac := hcount _ fun c hc => hdigits c (List.mem_append_right _ hc)
  have hsplit : text.toList.count '.' = (text.toList.takeWhile isAsciiDigit).count '.' +
      (text.toList.dropWhile isAsciiDigit).count '.' := by
    rw [← List.count_append, List.takeWhile_append_dropWhile]
  have htail : (text.toList.dropWhile isAsciiDigit).count '.' ≤
      (text.toList.dropWhile isAsciiDigit).tail.count '.' + 1 := by
    cases text.toList.dropWhile isAsciiDigit with
    | nil => simp
    | cons c cs =>
      rw [List.count_cons, List.tail_cons]
      split <;> omega
  have hpoints : text.toList.count '.' ≤ 1 := by omega
  obtain ⟨c, hc⟩ := List.exists_mem_of_ne_nil _ hne
  simp only [isPlainDecimal, Bool.and_eq_true, List.all_eq_true, decide_eq_true_eq, List.any_eq_true]
  exact ⟨⟨h, hpoints⟩, c, mem_of_mem_plainDigits hc, hdigits c hc⟩

theorem coefficient_number {cs : List Char} (h : ∀ c ∈ cs, isPlainChar c = true) (negative : Bool) :
    (Decimal.number negative cs).coefficient =
      ((plainDigits cs).filterMap digitValue).foldl (fun n d => n * 10 + d) 0 := by
  simp only [Decimal.number, splitAtChar_exponent h, splitAtChar_point h, tail?_getD, plainDigits]

theorem exponent_number {cs : List Char} (h : ∀ c ∈ cs, isPlainChar c = true) (negative : Bool) :
    (Decimal.number negative cs).exponent = -((cs.dropWhile isAsciiDigit).tail.length : Int) := by
  simp only [Decimal.number, splitAtChar_exponent h, splitAtChar_point h, tail?_getD,
    Option.elim_none, Option.getD_some, zero_sub]

theorem foldl_filterMap_digits {cs : List Char} (h : ∀ c ∈ cs, isAsciiDigit c = true) :
    (cs.filterMap digitValue).foldl (fun n d => n * 10 + d) 0 = wholeNumber cs := by
  rw [filterMap_digitValue h, List.foldl_map, wholeNumber]

/-- **`Decimal` reads the number a plain decimal denotes.** -/
theorem decimalValue_number {text : String} {v : DecimalValue}
    (h : ∀ c ∈ text.toList, isPlainChar c = true)
    (hv : decimalNumber false text.toList = some v) :
    decimalValue (Decimal.number false text.toList) = plainValue text := by
  obtain ⟨-, hdigits, -⟩ := digits_of_number h hv
  have hnegative : (Decimal.number false text.toList).negative = false := rfl
  have hten : (10 : ℚ) ^ (text.toList.dropWhile isAsciiDigit).tail.length ≠ 0 :=
    pow_ne_zero _ (by norm_num)
  rw [decimalValue, hnegative, coefficient_number h, exponent_number h,
    foldl_filterMap_digits hdigits, plainDigits, wholeNumber_append, zpow_neg, zpow_natCast,
    plainValue, List.drop_one]
  push_cast
  field_simp

theorem decimalValue_eq_zero (d : Decimal) : decimalValue d = 0 ↔ d.coefficient = 0 := by
  have hten : (10 : ℚ) ^ d.exponent ≠ 0 := zpow_ne_zero _ (by norm_num)
  have hsign : (if d.negative then -1 else 1 : ℚ) ≠ 0 := by split <;> norm_num
  rw [decimalValue, mul_eq_zero_iff_right hten, mul_eq_zero_iff_left hsign, Nat.cast_eq_zero]

/-- It is zero when every digit is. -/
theorem zero_iff_plainValue {text : String} {v : DecimalValue}
    (h : ∀ c ∈ text.toList, isPlainChar c = true)
    (hv : decimalNumber false text.toList = some v) : v.zero = true ↔ plainValue text = 0 := by
  obtain ⟨-, -, rfl⟩ := digits_of_number h hv
  have hcoefficient := foldl_values_eq_zero ((plainDigits text.toList).filterMap digitValue) 0
  rw [← coefficient_number h false] at hcoefficient
  rw [← decimalValue_number h hv, decimalValue_eq_zero, hcoefficient, List.all_eq_true]
  simp only [true_and, beq_iff_eq]

theorem plainValue_nonneg (text : String) : 0 ≤ plainValue text := by
  unfold plainValue
  positivity

end Python
end BaobabErp
