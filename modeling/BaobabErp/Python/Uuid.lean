/-
# The canonical text of a UUID

`str(uuid.UUID(text))` is thirty-two lower-case hexadecimal digits in groups of
8, 4, 4, 4 and 12.  Reading it back gives the value it was written from, so the
canonical text of a canonical text is itself.
-/

import BaobabErp.Python.Dumps

namespace BaobabErp
namespace Python

theorem hexValue_hexDigit {n : Nat} (h : n < 16) : hexValue (hexDigit n) = some n := by
  revert h; revert n; decide

theorem hexDigit_lower {n : Nat} (h : n < 16) :
    isAsciiDigit (hexDigit n) = true ∨ ('a' ≤ hexDigit n ∧ hexDigit n ≤ 'f') := by
  revert h; revert n; decide

/-- A digit of the canonical text: `0` to `9` or `a` to `f`. -/
def isUuidDigit (c : Char) : Bool := isAsciiDigit c || ('a' ≤ c && c ≤ 'f')

theorem isUuidDigit_of_mem_hexText {k n : Nat} {c : Char} (h : c ∈ hexText k n) :
    isUuidDigit c = true := by
  induction k generalizing n with
  | zero => exact absurd h List.not_mem_nil
  | succ k ih =>
    rw [hexText] at h
    rcases List.mem_append.1 h with h | h
    · exact ih h
    · rw [List.mem_singleton.1 h]
      have hlt : n % 16 < 16 := Nat.mod_lt _ (by omega)
      rcases hexDigit_lower hlt with hd | ⟨ha, hf⟩
      · simp [isUuidDigit, hd]
      · simp [isUuidDigit, ha, hf]

/-- None of the characters the reader of a UUID treats specially is a digit of one. -/
theorem ne_of_isUuidDigit {c : Char} (h : isUuidDigit c = true) :
    c ≠ '-' ∧ c ≠ ':' ∧ c ≠ '{' ∧ c ≠ '}' ∧ c ≠ '_' ∧ c ≠ '+' ∧ c ≠ 'x' ∧ c ≠ 'X' ∧ c ≠ 'u' := by
  refine ⟨?_, ?_, ?_, ?_, ?_, ?_, ?_, ?_, ?_⟩ <;>
    · rintro rfl
      revert h
      decide

theorem digitValue_ascii {c : Char} (h : c.toNat < 128) :
    digitValue c = if isAsciiDigit c then some (c.toNat - '0'.toNat) else none := by
  have htable : ∀ n < 128, digitValue (Char.ofNat n) =
      if isAsciiDigit (Char.ofNat n) then some ((Char.ofNat n).toNat - '0'.toNat) else none := by
    decide +kernel
  have hc := htable c.toNat h
  rwa [Char.ofNat_toNat] at hc

theorem lt_of_isAsciiDigit {c : Char} (h : isAsciiDigit c = true) :
    '0'.toNat ≤ c.toNat ∧ c.toNat < '0'.toNat + 10 := by
  simp only [isAsciiDigit, Bool.and_eq_true, decide_eq_true_eq, Char.le_def, UInt32.le_iff_toNat_le]
    at h
  have h0 : ('0' : Char).val.toNat = 48 := rfl
  have h9 : ('9' : Char).val.toNat = 57 := rfl
  have hc : c.val.toNat = c.toNat := rfl
  have hz : '0'.toNat = 48 := rfl
  omega

theorem toNat_of_isUuidDigit {c : Char} (h : isUuidDigit c = true) :
    (48 ≤ c.toNat ∧ c.toNat ≤ 57) ∨ (97 ≤ c.toNat ∧ c.toNat ≤ 102) := by
  simp only [isUuidDigit, isAsciiDigit, Bool.or_eq_true, Bool.and_eq_true, decide_eq_true_eq,
    Char.le_def, UInt32.le_iff_toNat_le] at h
  exact h

theorem isSpace_of_isUuidDigit {c : Char} (h : isUuidDigit c = true) : isSpace c = false := by
  have hn := toNat_of_isUuidDigit h
  unfold isSpace
  simp only [Bool.or_eq_false_iff, Bool.and_eq_false_iff, decide_eq_false_iff_not, beq_eq_false_iff_ne]
  omega

/-- `int` reads such a digit as it stands. -/
theorem digit_of_isUuidDigit {c : Char} (h : isUuidDigit c = true) :
    (match digitValue c with
      | some d => Char.ofNat ('0'.toNat + d)
      | none => c) = c := by
  have hdigits : ∀ k < 10, (match digitValue (Char.ofNat (48 + k)) with
      | some d => Char.ofNat ('0'.toNat + d)
      | none => Char.ofNat (48 + k)) = Char.ofNat (48 + k) := by decide
  have hletters : ∀ k < 6, (match digitValue (Char.ofNat (97 + k)) with
      | some d => Char.ofNat ('0'.toNat + d)
      | none => Char.ofNat (97 + k)) = Char.ofNat (97 + k) := by decide
  rw [← Char.ofNat_toNat c]
  rcases toNat_of_isUuidDigit h with ⟨h₁, h₂⟩ | ⟨h₁, h₂⟩
  · obtain ⟨k, hk⟩ := Nat.exists_eq_add_of_le h₁
    rw [hk]
    exact hdigits k (by omega)
  · obtain ⟨k, hk⟩ := Nat.exists_eq_add_of_le h₁
    rw [hk]
    exact hletters k (by omega)

/-! ### Reading the digits -/

/-- Digits are read one after another. -/
theorem digitsWith_append {digit : Char → Option Nat} {b v : Nat} {cs ds : List Char} :
    ∀ {last : Bool} {acc : Nat}, digitsWith digit b last acc cs = some v →
      digitsWith digit b last acc (cs ++ ds) = digitsWith digit b true v ds := by
  induction cs with
  | nil =>
    intro last acc h
    cases last with
    | false => cases h
    | true =>
      obtain rfl := Option.some.inj h
      rfl
  | cons c cs ih =>
    intro last acc h
    rw [List.cons_append]
    rw [digitsWith] at h ⊢
    split_ifs at h ⊢ with hc hl
    · exact ih h
    · cases hd : digit c with
      | none =>
        rw [hd] at h
        cases h
      | some d =>
        rw [hd] at h
        exact ih h

theorem digitsWith_hexText (k n : Nat) :
    digitsWith hexValue 16 true 0 (hexText k n) = some (n % 16 ^ k) := by
  induction k generalizing n with
  | zero => simp [hexText, digitsWith, Nat.mod_one]
  | succ k ih =>
    have hlt : n % 16 < 16 := Nat.mod_lt _ (by omega)
    have hne : (hexDigit (n % 16) == '_') = false := by
      rcases hexDigit_lower hlt with hd | ⟨ha, -⟩
      · rw [beq_eq_false_iff_ne]
        exact (ne_of_isUuidDigit (by simp [isUuidDigit, hd])).2.2.2.2.1
      · rw [beq_eq_false_iff_ne]
        rintro h
        rw [h] at ha
        exact absurd ha (by decide)
    rw [hexText, digitsWith_append (ih (n / 16)), digitsWith, hne, if_neg Bool.false_ne_true,
      hexValue_hexDigit hlt]
    have hsplit : n % 16 ^ (k + 1) = n % 16 + 16 * (n / 16 % 16 ^ k) := by
      rw [pow_succ', Nat.mod_mul]
    show some (n / 16 % 16 ^ k * 16 + n % 16) = _
    rw [hsplit]
    congr 1
    omega

/-- Nothing is removed where the pattern's first character does not occur. -/
theorem removeAll_of_not_mem {p : Char} {pat cs : List Char} (h : p ∉ cs) (fuel : Nat) :
    removeAll (p :: pat) fuel cs = cs := by
  induction fuel generalizing cs with
  | zero => rfl
  | succ fuel ih =>
    cases cs with
    | nil => rfl
    | cons c cs =>
      have hc : p ≠ c := fun hc => h (hc ▸ List.mem_cons_self ..)
      have hcs : p ∉ cs := fun hm => h (List.mem_cons_of_mem _ hm)
      have hpre : (p :: pat).isPrefixOf (c :: cs) = false := by
        rw [List.isPrefixOf, beq_eq_false_iff_ne.2 hc, Bool.false_and]
      rw [removeAll, hpre, if_neg Bool.false_ne_true, ih hcs]

/-- Stripping leaves a text without such characters as it is. -/
theorem dropWhile_both {p : Char → Bool} {cs : List Char} (h : ∀ c ∈ cs, p c = false) :
    ((cs.dropWhile p).reverse.dropWhile p).reverse = cs := by
  have drop : ∀ ds : List Char, (∀ c ∈ ds, p c = false) → ds.dropWhile p = ds := by
    intro ds hds
    cases ds with
    | nil => rfl
    | cons d ds => rw [List.dropWhile_cons, hds d (List.mem_cons_self ..), if_neg Bool.false_ne_true]
  rw [drop cs h, drop _ fun c hc => h c (List.mem_reverse.1 hc), List.reverse_reverse]

/-- The characters of a canonical text. -/
theorem mem_uuidText {n : Nat} {c : Char} (h : c ∈ (uuidText n).toList) :
    c = '-' ∨ isUuidDigit c = true := by
  have sub : ∀ {i j : Nat}, c ∈ ((hexText 32 n).drop i).take j → isUuidDigit c = true := fun h =>
    isUuidDigit_of_mem_hexText (List.mem_of_mem_drop (List.mem_of_mem_take h))
  rw [uuidText, String.toList_ofList] at h
  simp only [List.mem_append, List.mem_cons] at h
  rcases h with h | h | h | h | h | h | h | h | h
  · exact Or.inr (isUuidDigit_of_mem_hexText (List.mem_of_mem_take h))
  · exact Or.inl h
  · exact Or.inr (sub h)
  · exact Or.inl h
  · exact Or.inr (sub h)
  · exact Or.inl h
  · exact Or.inr (sub h)
  · exact Or.inl h
  · exact Or.inr (isUuidDigit_of_mem_hexText (List.mem_of_mem_drop h))

/-- Without its hyphens it is the thirty-two digits. -/
theorem filter_uuidText (n : Nat) :
    (uuidText n).toList.filter (· != '-') = hexText 32 n := by
  have digits : ∀ {ds : List Char}, (∀ c ∈ ds, c ∈ hexText 32 n) →
      ds.filter (· != '-') = ds := fun h => List.filter_eq_self.2 fun c hc =>
    bne_iff_ne.2 (ne_of_isUuidDigit (isUuidDigit_of_mem_hexText (h c hc))).1
  have hdash : ('-' != '-') = false := rfl
  rw [uuidText, String.toList_ofList]
  simp only [List.filter_append, List.filter_cons, hdash, Bool.false_eq_true, if_false]
  rw [digits fun c hc => List.mem_of_mem_take hc,
    digits fun c hc => List.mem_of_mem_drop (List.mem_of_mem_take hc),
    digits fun c hc => List.mem_of_mem_drop (List.mem_of_mem_take hc),
    digits fun c hc => List.mem_of_mem_drop (List.mem_of_mem_take hc),
    digits fun c hc => List.mem_of_mem_drop hc]
  have step : ∀ i j : Nat, ((hexText 32 n).drop i).take j ++ (hexText 32 n).drop (i + j) =
      (hexText 32 n).drop i := by
    intro i j
    rw [← List.drop_drop, List.take_append_drop]
  rw [step 16 4, step 12 4, step 8 4, List.take_append_drop]

/-- **Reading a canonical text gives the value it was written from.** -/
theorem uuidValue_uuidText (n : Nat) : uuidValue (uuidText n) = some (n % 16 ^ 32) := by
  have hchars : ∀ c ∈ (uuidText n).toList, c ≠ 'u' ∧ (c == '{' || c == '}') = false := by
    intro c hc
    rcases mem_uuidText hc with rfl | hd
    · decide
    · obtain ⟨-, -, h₁, h₂, -, -, -, -, hu⟩ := ne_of_isUuidDigit hd
      exact ⟨hu, Bool.or_eq_false_iff.2 ⟨beq_eq_false_iff_ne.2 h₁, beq_eq_false_iff_ne.2 h₂⟩⟩
  have hu : 'u' ∉ (uuidText n).toList := fun h => (hchars _ h).1 rfl
  have hdigits : ∀ c ∈ hexText 32 n, isUuidDigit c = true := fun c => isUuidDigit_of_mem_hexText
  have hint : intChars (hexText 32 n) = hexText 32 n := by
    unfold intChars
    rw [dropWhile_both fun c hc => by rw [isIntSpace, isSpace_of_isUuidDigit (hdigits c hc), Bool.false_and]]
    exact (List.map_congr_left fun c hc => digit_of_isUuidDigit (hdigits c hc)).trans (List.map_id _)
  have hlen : (hexText 32 n).length = 32 := length_hexText 32 n
  have hread : hexDigits (hexText 32 n) = some (n % 16 ^ 32) := by
    have hx : 'x' ∉ hexText 32 n := fun h => (ne_of_isUuidDigit (hdigits _ h)).2.2.2.2.2.2.1 rfl
    have hX : 'X' ∉ hexText 32 n :=
      fun h => (ne_of_isUuidDigit (hdigits _ h)).2.2.2.2.2.2.2.1 rfl
    rw [← digitsWith_hexText]
    unfold hexDigits
    split
    · rename_i hh
      exact absurd (hh ▸ by simp) hx
    · rename_i hh
      exact absurd (hh ▸ by simp) hX
    · rename_i hh
      exact absurd (hh ▸ by simp) hx
    · rename_i hh
      exact absurd (hh ▸ by simp) hX
    · cases hh : hexText 32 n with
      | nil =>
        rw [hh] at hlen
        cases hlen
      | cons c cs =>
        have hc : c ≠ '_' :=
          (ne_of_isUuidDigit (hdigits c (hh ▸ List.mem_cons_self ..))).2.2.2.2.1
        rw [digitsWith, digitsWith, beq_eq_false_iff_ne.2 hc, if_neg Bool.false_ne_true,
          if_neg Bool.false_ne_true]
  unfold uuidValue
  rw [show "urn:".toList = 'u' :: "rn:".toList from rfl,
    show "uuid:".toList = 'u' :: "uid:".toList from rfl]
  simp only [removeAll_of_not_mem hu, dropWhile_both fun c hc => (hchars c hc).2,
    filter_uuidText, hlen, hint]
  rw [if_neg (by decide)]
  split
  · rename_i hh
    exact absurd rfl (ne_of_isUuidDigit (hdigits '+' (hh ▸ List.mem_cons_self ..))).2.2.2.2.2.1
  · exact hread

/-- The canonical text of a UUID is a UUID. -/
theorem uuidValue_canonical {s u : String} (h : canonicalUuid s = some u) :
    (uuidValue u).isSome = true := by
  obtain ⟨n, -, rfl⟩ := Option.map_eq_some_iff.1 h
  rw [uuidValue_uuidText]
  rfl

end Python
end BaobabErp
