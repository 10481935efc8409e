/-
# Java strings, and the texts of `Long` and `Double`

A `String` is a sequence of UTF-16 units, which may hold half of a surrogate pair.  Here are
the parts of `Character`, `Long` and `Double` the JSON code of the bundles rests on.

`Double.toString` is the documented one: the shortest decimal that denotes the number, as
`d.ddd` between `10^-3` and `10^7` and with an exponent beyond.  `parseDouble` rounds to
the nearest number.  **Both texts are read back** (`parseLong_toString`,
`parseDouble_toString`).
-/

import BaobabErp.Numeric.Binary
import BaobabErp.Python.Text
import Mathlib.Data.List.DropRight
import Mathlib.Data.Nat.Digits.Lemmas

namespace BaobabErp
namespace Java

open Numeric

/-- A `String`, as its UTF-16 units. -/
abbrev JString := List UInt16

/-- The unit of a character below U+10000. -/
def unit (c : Char) : UInt16 := UInt16.ofNat c.toNat

/-- A literal of such characters. -/
def units (s : String) : JString := s.toList.map unit

/-- `Character.isWhitespace(c)`: separators but the no-break ones, and the control characters
that separate. -/
def isWhitespace (c : UInt16) : Bool :=
  let n := c.toNat
  (9 ≤ n && n ≤ 13) || (28 ≤ n && n ≤ 32) || n == 0x1680 || (0x2000 ≤ n && n ≤ 0x2006) ||
    (0x2008 ≤ n && n ≤ 0x200A) || n == 0x2028 || n == 0x2029 || n == 0x205F || n == 0x3000

/-- `Character.digit(c, radix)`: a decimal digit of any script, a Latin letter or its
full-width form. -/
def digit (radix : Nat) (c : UInt16) : Option Nat :=
  let n := c.toNat
  let value : Option Nat :=
    match Python.digitZeros.find? fun z => z ≤ n && n < z + 10 with
    | some z => some (n - z)
    | none =>
      ([0x41, 0x61, 0xFF21, 0xFF41].find? fun z => z ≤ n && n < z + 26).map fun z => n - z + 10
  value.filter (· < radix)

/-- `Character.isDigit(c)`. -/
def isDigit (c : UInt16) : Bool := (digit 10 c).isSome

/-- The unit of a decimal digit. -/
def digitUnit (d : Nat) : UInt16 := UInt16.ofNat (48 + d)

/-- The number some digits denote. -/
def ofDigits (radix : Nat) (ds : List Nat) : Nat := ds.foldl (fun n d => n * radix + d) 0

/-- The decimal digits of a number, the most significant first. -/
def digitsOf (n : Nat) : List Nat := if n = 0 then [0] else (Nat.digits 10 n).reverse

/-- The text of an integer. -/
def intText (n : Int) : JString :=
  (if n < 0 then [unit '-'] else []) ++ (digitsOf n.natAbs).map digitUnit

/-- A sign in front of a number; no sign is a plus. -/
def signOf : JString → Bool × JString
  | [] => (false, [])
  | c :: cs => if c = unit '-' then (true, cs) else if c = unit '+' then (false, cs) else (false, c :: cs)

/-- An integer with a sign in front of it, by the digits that are `read`. -/
def signedOf (read : UInt16 → Option Nat) (radix : Nat) (s : JString) : Option Int :=
  match signOf s with
  | (_, []) => none
  | (negative, body) => (body.mapM read).map fun ds =>
      if negative then -(ofDigits radix ds : Int) else ofDigits radix ds

/-- `Integer.parseInt(s, radix)` and `Long.parseLong(s)` before their range is checked. -/
def integerOf (radix : Nat) (s : JString) : Option Int := signedOf (digit radix) radix s

namespace Long

/-- `Long.toString(n)`. -/
def text (n : Int64) : JString := intText n.toInt

/-- `Long.parseLong(s)`; `none` for its `NumberFormatException`. -/
def parseLong (s : JString) : Option Int64 :=
  ((integerOf 10 s).filter fun n => -2 ^ 63 ≤ n && n < 2 ^ 63).map Int64.ofInt

end Long

/-- The format of `double`. -/
def binary64 : Format := ⟨53, -1074, 971, by decide, by decide⟩

/-- A `Double`. -/
inductive Double
  | finite (negative : Bool) (magnitude : Magnitude binary64)
  | infinity (negative : Bool)
  | nan
deriving DecidableEq

namespace Double

/-- Digits around a decimal point. -/
def pointText (whole frac : List Nat) : JString :=
  whole.map digitUnit ++ unit '.' :: frac.map digitUnit

/-- At least one digit. -/
def orZero (ds : List Nat) : List Nat := if ds = [] then [0] else ds

/-- The text of the decimal `i * 10 ^ e`, `i` not zero. -/
def decimalText (i : Nat) (e : Int) : JString :=
  let ds := (digitsOf i).rdropWhile (· == 0)
  -- the decimal is `0.ds * 10 ^ point`
  let point := e + (digitsOf i).length
  if 0 < point ∧ point ≤ 7 then
    pointText (ds.take point.toNat ++ List.replicate (point.toNat - ds.length) 0)
      (orZero (ds.drop point.toNat))
  else if -3 < point ∧ point ≤ 0 then
    pointText [0] (List.replicate (-point).toNat 0 ++ ds)
  else
    pointText (ds.take 1) (orZero (ds.drop 1)) ++ unit 'E' :: intText (point - 1)

/-- `Double.toString(d)`. -/
def text : Double → JString
  | finite negative x =>
    (if negative then [unit '-'] else []) ++
      if x = Magnitude.zero binary64 then units "0.0" else decimalText x.shortest.1 x.shortest.2
  | infinity negative => (if negative then [unit '-'] else []) ++ units "Infinity"
  | nan => units "NaN"

/-- An ASCII digit, the only ones `parseDouble` knows. -/
def asciiDigit (c : UInt16) : Option Nat :=
  if 48 ≤ c.toNat ∧ c.toNat ≤ 57 then some (c.toNat - 48) else none

/-- The exponent of a number: none at all, or a sign and at least one digit. -/
def exponentOf : Option JString → Option Int
  | none => some 0
  | some s => signedOf asciiDigit 10 s

/-- The number with this sign nearest to a decimal. -/
def ofDecimal (negative : Bool) (q : ℚ) : Double :=
  match binary64.round q with
  | some x => finite negative x
  | none => infinity negative

/-- `Double.parseDouble(s)` of a text of digits, points, exponents and signs; `none` for its
`NumberFormatException`. -/
def parseDouble (s : JString) : Option Double :=
  let isMark := fun c => c = unit 'e' ∨ c = unit 'E'
  let mantissa := (signOf s).2.takeWhile fun c => !isMark c
  let exponent := ((signOf s).2.dropWhile fun c => !isMark c).tail?
  let whole := mantissa.takeWhile (· != unit '.')
  let frac := (mantissa.dropWhile (· != unit '.')).tail
  match (whole ++ frac).mapM asciiDigit, exponentOf exponent with
  | some (d :: ds), some e =>
    some (ofDecimal (signOf s).1 (ofDigits 10 (d :: ds) * (10 : ℚ) ^ (e - frac.length)))
  | _, _ => none

end Double

/-! ### Digits -/

theorem digit_digitUnit {d : Nat} (h : d < 10) : digit 10 (digitUnit d) = some d := by
  have htable : ∀ d < 10, digit 10 (digitUnit d) = some d := by decide +kernel
  exact htable d h

theorem asciiDigit_digitUnit {d : Nat} (h : d < 10) : Double.asciiDigit (digitUnit d) = some d := by
  have htable : ∀ d < 10, Double.asciiDigit (digitUnit d) = some d := by decide +kernel
  exact htable d h

theorem mapM_digitUnit {read : UInt16 → Option Nat} {ds : List Nat}
    (h : ∀ d ∈ ds, read (digitUnit d) = some d) : (ds.map digitUnit).mapM read = some ds := by
  induction ds with
  | nil => rfl
  | cons d ds ih =>
    rw [List.map_cons, List.mapM_cons, h d List.mem_cons_self,
      ih fun e he => h e (List.mem_cons_of_mem _ he)]
    rfl

theorem ofDigits_eq (radix : Nat) (ds : List Nat) :
    ofDigits radix ds = Nat.ofDigits radix ds.reverse := by
  rw [ofDigits, Nat.ofDigits_eq_foldr, List.foldl_eq_foldr_reverse]
  congr 1
  funext d n
  simp [Nat.mul_comm, Nat.add_comm]

theorem ofDigits_append (radix : Nat) (a b : List Nat) :
    ofDigits radix (a ++ b) = ofDigits radix a * radix ^ b.length + ofDigits radix b := by
  rw [ofDigits_eq, ofDigits_eq, ofDigits_eq, List.reverse_append, Nat.ofDigits_append,
    List.length_reverse, Nat.add_comm, Nat.mul_comm]

theorem ofDigits_zeros (radix k : Nat) : ofDigits radix (List.replicate k 0) = 0 := by
  induction k with
  | zero => rfl
  | succ k ih =>
    rw [List.replicate_succ', ofDigits_append, ih]
    simp [ofDigits]

theorem digitsOf_eq {n : Nat} : ofDigits 10 (digitsOf n) = n := by
  unfold digitsOf
  split
  · rename_i h
    rw [h]
    rfl
  · rw [ofDigits_eq, List.reverse_reverse, Nat.ofDigits_digits]

theorem digitsOf_lt {n d : Nat} (h : d ∈ digitsOf n) : d < 10 := by
  unfold digitsOf at h
  split at h
  · obtain rfl := List.mem_singleton.1 h
    norm_num
  · exact Nat.digits_lt_base (by norm_num) (List.mem_reverse.1 h)

theorem digitsOf_ne_nil (n : Nat) : digitsOf n ≠ [] := by
  unfold digitsOf
  split
  · simp
  · rename_i h
    simpa [Nat.digits_eq_nil_iff_eq_zero] using h

/-! ### Integers -/

/-- Digits start with no sign. -/
theorem signOf_digits {ds : List Nat} (h : ∀ d ∈ ds, d < 10) (rest : JString) :
    ds ≠ [] → signOf (ds.map digitUnit ++ rest) = (false, ds.map digitUnit ++ rest) := by
  have htable : ∀ d < 10, digitUnit d ≠ unit '-' ∧ digitUnit d ≠ unit '+' := by decide +kernel
  intro hne
  cases ds with
  | nil => exact absurd rfl hne
  | cons d ds =>
    obtain ⟨hminus, hplus⟩ := htable d (h d List.mem_cons_self)
    rw [List.map_cons, List.cons_append, signOf, if_neg hminus, if_neg hplus]

theorem signOf_minus (s : JString) : signOf (unit '-' :: s) = (true, s) := by
  rw [signOf, if_pos rfl]

/-- **The text of an integer is read back** by whatever reads its digits. -/
theorem signedOf_intText {read : UInt16 → Option Nat} (hread : ∀ d < 10, read (digitUnit d) = some d)
    (n : Int) : signedOf read 10 (intText n) = some n := by
  have hdigits : ((digitsOf n.natAbs).map digitUnit).mapM read = some (digitsOf n.natAbs) :=
    mapM_digitUnit fun d hd => hread d (digitsOf_lt hd)
  have hne : (digitsOf n.natAbs).map digitUnit ≠ [] := by
    simpa using digitsOf_ne_nil n.natAbs
  unfold signedOf intText
  by_cases hn : n < 0
  · rw [if_pos hn, List.singleton_append, signOf_minus]
    generalize (digitsOf n.natAbs).map digitUnit = body at hdigits hne
    cases body with
    | nil => exact absurd rfl hne
    | cons c cs =>
      simp only [hdigits, Option.map_some, digitsOf_eq, if_true, Option.some.injEq]
      omega
  · have hsign := signOf_digits (fun d hd => digitsOf_lt hd) [] (digitsOf_ne_nil n.natAbs)
    rw [List.append_nil] at hsign
    rw [if_neg hn, List.nil_append, hsign]
    generalize (digitsOf n.natAbs).map digitUnit = body at hdigits hne
    cases body with
    | nil => exact absurd rfl hne
    | cons c cs =>
      simp only [hdigits, Option.map_some, digitsOf_eq, Bool.false_eq_true, if_false,
        Option.some.injEq]
      omega

theorem Long.parseLong_text (n : Int64) : Long.parseLong (Long.text n) = some n := by
  have hrange : (-2 ^ 63 ≤ n.toInt && n.toInt < 2 ^ 63) = true := by
    rw [Bool.and_eq_true, decide_eq_true_eq, decide_eq_true_eq]
    exact ⟨n.le_toInt, n.toInt_lt⟩
  rw [Long.parseLong, Long.text, integerOf, signedOf_intText fun d hd => digit_digitUnit hd,
    Option.filter, if_pos hrange, Option.map_some,
    Int64.ofInt_toInt]

/-! ### Decimals -/

namespace Double

/-- The value of digits around a point, with an exponent. -/
def pointValue (whole frac : List Nat) (k : Int) : ℚ :=
  ofDigits 10 (whole ++ frac) * (10 : ℚ) ^ (k - frac.length)

theorem pointValue_orZero (whole frac : List Nat) (k : Int) :
    pointValue whole (orZero frac) k = pointValue whole frac k := by
  unfold orZero
  split
  · rename_i h
    have hten : (10 : ℚ) ≠ 0 := by norm_num
    rw [h, pointValue, pointValue, ofDigits_append, List.append_nil, List.length_nil,
      List.length_singleton, Nat.cast_zero, sub_zero, Nat.cast_one, zpow_sub_one₀ hten]
    have hzero : ofDigits 10 [0] = 0 := rfl
    rw [hzero]
    push_cast
    field_simp
    ring
  · rfl

/-- Zeros in front change nothing. -/
theorem pointValue_zeros (k : Nat) (ds : List Nat) (e : Int) :
    pointValue [0] (List.replicate k 0 ++ ds) e = ofDigits 10 ds * (10 : ℚ) ^ (e - k - ds.length) := by
  have hzeros : [0] ++ (List.replicate k 0 ++ ds) = List.replicate (k + 1) 0 ++ ds := by
    rw [List.replicate_succ, ← List.append_assoc]
    rfl
  rw [pointValue, hzeros, ofDigits_append, ofDigits_zeros, Nat.zero_mul, Nat.zero_add,
    List.length_append, List.length_replicate, Nat.cast_add, sub_add_eq_sub_sub]

/-- Zeros behind count as places. -/
theorem ofDigits_padded (ds : List Nat) (k : Nat) :
    (ofDigits 10 (ds ++ List.replicate k 0) : ℚ) = ofDigits 10 ds * (10 : ℚ) ^ (k : Int) := by
  rw [ofDigits_append, ofDigits_zeros, List.length_replicate, Nat.add_zero, zpow_natCast]
  push_cast
  rfl

/-- The digits of a number without the zeros at its end. -/
theorem trimmed_eq (i : Nat) :
    ∃ z : Nat, digitsOf i = (digitsOf i).rdropWhile (· == 0) ++ List.replicate z 0 := by
  refine ⟨((digitsOf i).rtakeWhile (· == 0)).length, ?_⟩
  have hzeros : (digitsOf i).rtakeWhile (· == 0) =
      List.replicate ((digitsOf i).rtakeWhile (· == 0)).length 0 := by
    refine List.eq_replicate_iff.2 ⟨rfl, fun d hd => ?_⟩
    exact beq_iff_eq.1 (@List.mem_rtakeWhile_imp _ (· == 0) _ _ hd)
  rw [← hzeros, List.rdropWhile_append_rtakeWhile]

/-- The exponent of a number, if it is written with one. -/
def exponentText : Option Int → JString
  | none => []
  | some k => unit 'E' :: intText k

/-- **The text of a decimal is digits around a point that denote it.** -/
theorem decimalText_eq {i : Nat} (hi : i ≠ 0) (e : Int) :
    ∃ whole frac expo, decimalText i e = pointText whole frac ++ exponentText expo ∧
      whole ≠ [] ∧ (∀ d ∈ whole ++ frac, d < 10) ∧
      pointValue whole frac (expo.getD 0) = i * (10 : ℚ) ^ e := by
  have hten : (10 : ℚ) ≠ 0 := by norm_num
  obtain ⟨z, hz⟩ := trimmed_eq i
  have hdigit : ∀ d ∈ (digitsOf i).rdropWhile (· == 0), d < 10 := fun d hd =>
    digitsOf_lt ((List.rdropWhile_prefix _ _).subset hd)
  have hvalue : (i : ℚ) * (10 : ℚ) ^ e = ofDigits 10 ((digitsOf i).rdropWhile (· == 0)) *
      (10 : ℚ) ^ (e + (digitsOf i).length - ((digitsOf i).rdropWhile (· == 0)).length) := by
    have hi := ofDigits_padded ((digitsOf i).rdropWhile (· == 0)) z
    rw [← hz, digitsOf_eq] at hi
    have hlength := congrArg List.length hz
    rw [List.length_append, List.length_replicate] at hlength
    rw [hi, mul_assoc, ← zpow_add₀ hten]
    congr 2
    omega
  have hne : (digitsOf i).rdropWhile (· == 0) ≠ [] := by
    intro hnil
    rw [hnil, List.nil_append] at hz
    have := congrArg (ofDigits 10) hz
    rw [digitsOf_eq, ofDigits_zeros] at this
    exact hi this
  rw [hvalue]
  unfold decimalText
  simp only
  generalize (digitsOf i).rdropWhile (· == 0) = ds at hdigit hne
  generalize e + ((digitsOf i).length : Int) = point
  have hlength : 0 < ds.length := List.length_pos_iff.2 hne
  have hzero : ∀ k, ∀ d ∈ List.replicate k 0, d < 10 := by
    intro k d hd
    rw [List.eq_of_mem_replicate hd]
    norm_num
  have horZero : ∀ ds : List Nat, (∀ d ∈ ds, d < 10) → ∀ d ∈ orZero ds, d < 10 := by
    intro ds hds d hd
    unfold orZero at hd
    split at hd
    · rw [List.mem_singleton.1 hd]
      norm_num
    · exact hds d hd
  split
  · rename_i hpoint
    refine ⟨_, _, none, (List.append_nil _).symm, ?_, ?_, ?_⟩
    · intro hnil
      have := congrArg List.length hnil
      rw [List.length_append, List.length_take, List.length_replicate, List.length_nil] at this
      omega
    · intro d hd
      rcases List.mem_append.1 hd with hd | hd
      · rcases List.mem_append.1 hd with hd | hd
        · exact hdigit d (List.mem_of_mem_take hd)
        · exact hzero _ d hd
      · exact horZero _ (fun d hd => hdigit d (List.mem_of_mem_drop hd)) d hd
    · rw [pointValue_orZero, pointValue, Option.getD_none]
      rcases le_total ds.length point.toNat with hle | hle
      · rw [List.take_of_length_le hle, List.drop_of_length_le hle, List.append_nil, ofDigits_padded,
          mul_assoc, ← zpow_add₀ hten]
        congr 2
        rw [List.length_nil]
        omega
      · have hpad : point.toNat - ds.length = 0 := by omega
        rw [hpad, List.replicate_zero, List.append_nil, List.take_append_drop, List.length_drop]
        congr 2
        omega
  · split
    · rename_i hpoint
      refine ⟨[0], _, none, (List.append_nil _).symm, by simp, ?_, ?_⟩
      · intro d hd
        rcases List.mem_append.1 hd with hd | hd
        · exact hzero 1 d hd
        · rcases List.mem_append.1 hd with hd | hd
          · exact hzero _ d hd
          · exact hdigit d hd
      · rw [pointValue_zeros, Option.getD_none]
        congr 2
        omega
    · refine ⟨_, _, some (point - 1), rfl, ?_, ?_, ?_⟩
      · intro hnil
        have := congrArg List.length hnil
        rw [List.length_take, List.length_nil] at this
        omega
      · intro d hd
        rcases List.mem_append.1 hd with hd | hd
        · exact hdigit d (List.mem_of_mem_take hd)
        · exact horZero _ (fun d hd => hdigit d (List.mem_of_mem_drop hd)) d hd
      · rw [pointValue_orZero, pointValue, Option.getD_some, List.take_append_drop, List.length_drop]
        congr 2
        omega

/-! ### Reading a decimal -/

/-- The units of digits around a point: none of them starts an exponent. -/
theorem pointText_units {whole frac : List Nat} (h : ∀ d ∈ whole ++ frac, d < 10) {c : UInt16}
    (hc : c ∈ pointText whole frac) : c = unit '.' ∨ ∃ d < 10, c = digitUnit d := by
  rcases List.mem_append.1 hc with hc | hc
  · obtain ⟨d, hd, rfl⟩ := List.mem_map.1 hc
    exact .inr ⟨d, h d (List.mem_append_left _ hd), rfl⟩
  · rcases List.mem_cons.1 hc with hc | hc
    · exact .inl hc
    · obtain ⟨d, hd, rfl⟩ := List.mem_map.1 hc
      exact .inr ⟨d, h d (List.mem_append_right _ hd), rfl⟩

theorem digitUnit_ne {d : Nat} (h : d < 10) :
    digitUnit d ≠ unit '.' ∧ digitUnit d ≠ unit 'e' ∧ digitUnit d ≠ unit 'E' := by
  have htable : ∀ d < 10,
      digitUnit d ≠ unit '.' ∧ digitUnit d ≠ unit 'e' ∧ digitUnit d ≠ unit 'E' := by decide +kernel
  exact htable d h

theorem exponentOf_text (expo : Option Int) :
    exponentOf (exponentText expo).tail? = some (expo.getD 0) := by
  cases expo with
  | none => rfl
  | some k => exact signedOf_intText (fun d hd => asciiDigit_digitUnit hd) k

/-- **Digits around a point are read as the number they denote.** -/
theorem parseDouble_pointText (negative : Bool) {whole frac : List Nat} (expo : Option Int)
    (hne : whole ≠ []) (h : ∀ d ∈ whole ++ frac, d < 10) :
    parseDouble ((if negative then [unit '-'] else []) ++
        (pointText whole frac ++ exponentText expo)) =
      some (ofDecimal negative (pointValue whole frac (expo.getD 0))) := by
  have hsign : signOf ((if negative then [unit '-'] else []) ++
      (pointText whole frac ++ exponentText expo)) =
        (negative, pointText whole frac ++ exponentText expo) := by
    cases negative with
    | true => exact signOf_minus _
    | false =>
      have := signOf_digits (fun d hd => h d (List.mem_append_left _ hd))
        (unit '.' :: frac.map digitUnit ++ exponentText expo) hne
      rwa [← List.append_assoc] at this
  have hmark : ∀ c ∈ pointText whole frac,
      (!decide (c = unit 'e' ∨ c = unit 'E')) = true := by
    intro c hc
    rcases pointText_units h hc with rfl | ⟨d, hd, rfl⟩
    · decide
    · simp [digitUnit_ne hd]
  have htake : (pointText whole frac ++ exponentText expo).takeWhile
      (fun c => !decide (c = unit 'e' ∨ c = unit 'E')) = pointText whole frac := by
    rw [List.takeWhile_append_of_pos hmark]
    cases expo with
    | none => exact List.append_nil _
    | some k => exact List.append_nil _
  have hdrop : (pointText whole frac ++ exponentText expo).dropWhile
      (fun c => !decide (c = unit 'e' ∨ c = unit 'E')) = exponentText expo := by
    rw [List.dropWhile_append_of_pos hmark]
    cases expo with
    | none => rfl
    | some k => rfl
  have hpoint : ∀ c ∈ whole.map digitUnit, (c != unit '.') = true := by
    intro c hc
    obtain ⟨d, hd, rfl⟩ := List.mem_map.1 hc
    exact bne_iff_ne.2 (digitUnit_ne (h d (List.mem_append_left _ hd))).1
  have hwhole : (pointText whole frac).takeWhile (· != unit '.') = whole.map digitUnit := by
    rw [pointText, List.takeWhile_append_of_pos hpoint]
    exact List.append_nil _
  have hfrac : ((pointText whole frac).dropWhile (· != unit '.')).tail = frac.map digitUnit := by
    rw [pointText, List.dropWhile_append_of_pos hpoint]
    rfl
  have hdigits : ((whole ++ frac).map digitUnit).mapM asciiDigit = some (whole ++ frac) :=
    mapM_digitUnit fun d hd => asciiDigit_digitUnit (h d hd)
  unfold parseDouble
  simp only [hsign, htake, hdrop, hwhole, hfrac, exponentOf_text, ← List.map_append, hdigits,
    List.length_map]
  rw [pointValue]
  cases whole with
  | nil => exact absurd rfl hne
  | cons d ds => rfl

/-- The text of a finite `double` is digits around a point that denote it. -/
theorem text_finite (negative : Bool) (x : Magnitude binary64) :
    ∃ whole frac expo, text (finite negative x) =
        (if negative then [unit '-'] else []) ++ (pointText whole frac ++ exponentText expo) ∧
      whole ≠ [] ∧ (∀ d ∈ whole ++ frac, d < 10) ∧
      binary64.round (pointValue whole frac (expo.getD 0)) = some x := by
  rw [text]
  by_cases hzero : x = Magnitude.zero binary64
  · have hvalue : pointValue [0] [0] ((none : Option Int).getD 0) = x.value := by
      rw [Magnitude.value_eq_zero.2 hzero]
      simp [pointValue, ofDigits]
    rw [if_pos hzero]
    exact ⟨[0], [0], none, rfl, by simp, by simp, by rw [hvalue, binary64.round_value]⟩
  · have hdenotes := x.round_shortest
    have hi : x.shortest.1 ≠ 0 := by
      intro hi
      rw [hi, Magnitude.Denotes, Nat.cast_zero, zero_mul, Format.round, if_pos rfl] at hdenotes
      exact hzero (Option.some.inj hdenotes).symm
    obtain ⟨whole, frac, expo, htext, hne, hlt, hvalue⟩ := decimalText_eq hi x.shortest.2
    rw [if_neg hzero, htext]
    exact ⟨whole, frac, expo, rfl, hne, hlt, by rw [hvalue]; exact hdenotes⟩

/-- **The text of a finite `double` is read back.** -/
theorem parseDouble_text (negative : Bool) (x : Magnitude binary64) :
    parseDouble (text (finite negative x)) = some (finite negative x) := by
  obtain ⟨whole, frac, expo, htext, hne, hlt, hround⟩ := text_finite negative x
  rw [htext, parseDouble_pointText negative expo hne hlt, ofDecimal, hround]

end Double

end Java
end BaobabErp
