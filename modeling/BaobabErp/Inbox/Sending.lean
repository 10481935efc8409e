/-
# Texts as parameters

The driver encodes a text and refuses a NUL in it.  A text that one of the grammars of the
envelope takes is sent as it is, and so is a UUID in any spelling.
-/

import BaobabErp.Inbox.Receive
import BaobabErp.Python.UuidSpelling

namespace BaobabErp
namespace Inbox

open Python

theorem encode_ofString (s : String) : (PyStr.ofString s).encode = some s := by
  have hall : ∀ cs : List Char, (cs.map CodePoint.scalar).mapM CodePoint.char? = some cs := by
    intro cs
    induction cs with
    | nil => rfl
    | cons c cs ih =>
      rw [List.map_cons, List.mapM_cons, ih]
      rfl
  unfold PyStr.encode PyStr.ofString
  rw [hall]
  exact congrArg some String.ofList_toList

/-- A text that is sent is the text of its characters. -/
theorem encode_some {s : PyStr} {t : String} (h : s.encode = some t) : s = PyStr.ofString t := by
  have hall : ∀ {cs : PyStr} {ds : List Char}, cs.mapM CodePoint.char? = some ds →
      cs = ds.map CodePoint.scalar := by
    intro cs
    induction cs with
    | nil =>
      intro ds hds
      obtain rfl := Option.some.inj hds
      rfl
    | cons c cs ih =>
      intro ds hds
      rw [List.mapM_cons] at hds
      obtain ⟨d, hd, hds⟩ := Option.bind_eq_some_iff.1 hds
      obtain ⟨rest, hrest, hds⟩ := Option.bind_eq_some_iff.1 hds
      obtain rfl := Option.some.inj hds
      cases c with
      | scalar c =>
        obtain rfl := Option.some.inj hd
        rw [ih hrest]
        rfl
      | surrogate n => cases hd
  obtain ⟨ds, hds, rfl⟩ := Option.map_eq_some_iff.1 h
  unfold PyStr.ofString
  rw [String.toList_ofList]
  exact hall hds

/-- A text without a surrogate is sent as it is shown. -/
theorem encode_shown {s : PyStr} (h : '\uFFFD' ∉ s.shown.toList) : s.encode = some s.shown := by
  have hall : ∀ {cs : PyStr}, '\uFFFD' ∉ cs.map CodePoint.shown →
      cs.mapM CodePoint.char? = some (cs.map CodePoint.shown) := by
    intro cs
    induction cs with
    | nil => exact fun _ => rfl
    | cons c cs ih =>
      intro hcs
      rw [List.map_cons, List.mem_cons, not_or] at hcs
      rw [List.mapM_cons, ih hcs.2]
      cases c with
      | scalar c => rfl
      | surrogate n => exact absurd rfl hcs.1
  unfold PyStr.shown at h ⊢
  rw [String.toList_ofList] at h
  unfold PyStr.encode
  rw [hall h]
  rfl

/-- A text that is sent, with what it is sent as. -/
def Sent (value : PyJson) (text : String) : Prop := Param.of value = .ok (.text text)

theorem sent_ofString {t : String} (h : '\x00' ∉ t.toList) : Sent (.str (PyStr.ofString t)) t := by
  unfold Sent Param.of
  dsimp only
  rw [encode_ofString]
  dsimp only
  rw [if_neg (by simpa using h)]

theorem sent_shown {s : PyStr} (h : ∀ c ∈ s.shown.toList, c ≠ '\uFFFD' ∧ c ≠ '\x00') :
    Sent (.str s) s.shown := by
  have hs := encode_some (encode_shown fun hmem => (h _ hmem).1 rfl)
  have hsent := sent_ofString fun hmem => (h '\x00' hmem).2 rfl
  rwa [← hs] at hsent

theorem Sent.eq {value : PyJson} {t : String} (h : Sent value t) : value = .str (PyStr.ofString t) := by
  unfold Sent Param.of at h
  split at h
  · split at h
    · cases h
    · next text htext =>
      split_ifs at h
      cases h
      exact congrArg PyJson.str (encode_some htext)
  · cases h
  · cases h

/-- The characters of an ASCII grammar. -/
theorem ascii_char {c : Char} (h : 32 ≤ c.toNat ∧ c.toNat ≤ 126) : c ≠ '\uFFFD' ∧ c ≠ '\x00' := by
  constructor
  · rintro rfl
    exact absurd h.2 (by decide)
  · rintro rfl
    exact absurd h.1 (by decide)

/-! ### The grammars -/

theorem range_of_le {c : Char} (low high : Char) (h : low ≤ c ∧ c ≤ high) (hlow : 32 ≤ low.toNat)
    (hhigh : high.toNat ≤ 126) : 32 ≤ c.toNat ∧ c.toNat ≤ 126 := by
  simp only [Char.le_def, UInt32.le_iff_toNat_le] at h
  exact ⟨le_trans hlow h.1, le_trans h.2 hhigh⟩

theorem range_of_digit {c : Char} (h : isAsciiDigit c = true) : 32 ≤ c.toNat ∧ c.toNat ≤ 126 := by
  unfold isAsciiDigit at h
  rw [Bool.and_eq_true, decide_eq_true_eq, decide_eq_true_eq] at h
  exact range_of_le '0' '9' h (by decide) (by decide)

theorem range_of_lower {c : Char} (h : isAsciiLower c = true) : 32 ≤ c.toNat ∧ c.toNat ≤ 126 := by
  unfold isAsciiLower at h
  rw [Bool.and_eq_true, decide_eq_true_eq, decide_eq_true_eq] at h
  exact range_of_le 'a' 'z' h (by decide) (by decide)

theorem range_of_alnum {c : Char} (h : isAsciiAlnum c = true) : 32 ≤ c.toNat ∧ c.toNat ≤ 126 := by
  unfold isAsciiAlnum at h
  rw [Bool.or_eq_true, Bool.or_eq_true] at h
  rcases h with (h | h) | h
  · unfold isAsciiUpper at h
    rw [Bool.and_eq_true, decide_eq_true_eq, decide_eq_true_eq] at h
    exact range_of_le 'A' 'Z' h (by decide) (by decide)
  · exact range_of_lower h
  · exact range_of_digit h

theorem range_of_idTail {c : Char} (h : isIdTail c = true) : 32 ≤ c.toNat ∧ c.toNat ≤ 126 := by
  unfold isIdTail at h
  simp only [Bool.or_eq_true, beq_iff_eq] at h
  rcases h with (((h | rfl) | rfl) | rfl) | rfl
  · exact range_of_alnum h
  all_goals decide

theorem range_of_lowerHex {c : Char} (h : CloudEvent.isLowerHex c = true) : 32 ≤ c.toNat ∧ c.toNat ≤ 126 := by
  unfold CloudEvent.isLowerHex at h
  rw [Bool.or_eq_true, Bool.and_eq_true, decide_eq_true_eq, decide_eq_true_eq] at h
  rcases h with h | h
  · exact range_of_digit h
  · exact range_of_le 'a' 'f' h (by decide) (by decide)

/-- A text of printable ASCII characters is sent as it is. -/
theorem sent_of_range {s : PyStr} (h : ∀ c ∈ s.shown.toList, 32 ≤ c.toNat ∧ c.toNat ≤ 126) :
    Sent (.str s) s.shown := sent_shown fun c hc => ascii_char (h c hc)

theorem tenant_sent {s : PyStr} (h : Identifiers.isTenantId s.shown = true) : Sent (.str s) s.shown := by
  refine sent_of_range fun c hc => ?_
  unfold Identifiers.isTenantId at h
  simp only [Bool.and_eq_true] at h
  obtain ⟨⟨-, hpre⟩, hall⟩ := h
  rw [← List.prefix_iff_eq_append.1 (List.isPrefixOf_iff_prefix.1 hpre)] at hc
  rcases List.mem_append.1 hc with hc | hc
  · have hscheme : "tn_".toList.all (fun c => 32 ≤ c.toNat && c.toNat ≤ 126) = true := by decide
    simpa using List.all_eq_true.1 hscheme c hc
  · rcases Bool.or_eq_true_iff.1 (List.all_eq_true.1 hall c hc) with hc | hc
    · exact range_of_lower hc
    · exact range_of_digit hc

theorem idempotency_sent {s : PyStr} (h : CloudEvent.isIdempotencyKey s.shown = true) :
    Sent (.str s) s.shown := by
  refine sent_of_range fun c hc => ?_
  unfold CloudEvent.isIdempotencyKey at h
  rw [Bool.and_eq_true] at h
  obtain ⟨-, h⟩ := h
  split at h
  · next d ds hs =>
    rw [hs] at hc
    rw [Bool.and_eq_true] at h
    rcases List.mem_cons.1 hc with rfl | hc
    · exact range_of_alnum h.1
    · exact range_of_idTail (List.all_eq_true.1 h.2 c hc)
  · cases h

theorem tracestate_sent {s : PyStr} (h : CloudEvent.isTracestate s.shown = true) : Sent (.str s) s.shown := by
  refine sent_of_range fun c hc => ?_
  unfold CloudEvent.isTracestate at h
  rw [Bool.and_eq_true] at h
  have hchar := List.all_eq_true.1 h.2 c hc
  rw [Bool.and_eq_true, decide_eq_true_eq, decide_eq_true_eq] at hchar
  exact range_of_le ' ' '~' hchar (by decide) (by decide)

theorem mem_window {cs : List Char} {c : Char} {a n i : Nat} (h : cs[i]? = some c) (ha : a ≤ i)
    (hn : i < a + n) : c ∈ (cs.drop a).take n := by
  refine List.mem_of_getElem? (i := i - a) ?_
  rw [List.getElem?_take, if_pos (by omega), List.getElem?_drop, Nat.add_sub_cancel' ha]
  exact h

theorem traceparent_sent {s : PyStr} (h : CloudEvent.isTraceparent s.shown = true) :
    Sent (.str s) s.shown := by
  refine sent_of_range fun c hc => ?_
  unfold CloudEvent.isTraceparent at h
  simp only [Bool.and_eq_true, beq_iff_eq] at h
  obtain ⟨⟨⟨⟨⟨⟨⟨⟨hlen, hpre⟩, htrace⟩, -⟩, hdash⟩, hspan⟩, -⟩, hdash'⟩, hflags⟩ := h
  obtain ⟨i, hi, hget⟩ := List.mem_iff_getElem.1 hc
  have hsome := List.getElem?_eq_getElem hi
  rw [hget] at hsome
  have hdashes : ∀ {d : Char}, some d = some '-' → 32 ≤ d.toNat ∧ d.toNat ≤ 126 := by
    intro d hd
    rw [Option.some.inj hd]
    decide
  rcases Nat.lt_or_ge i 3 with h₁ | h₁
  · have hmem : c ∈ "00-".toList := by
      obtain ⟨rest, hrest⟩ := List.isPrefixOf_iff_prefix.1 hpre
      rw [← hrest, List.getElem?_append_left (by simpa using h₁)] at hsome
      exact List.mem_of_getElem? hsome
    have hscheme : "00-".toList.all (fun c => 32 ≤ c.toNat && c.toNat ≤ 126) = true := by decide
    simpa using List.all_eq_true.1 hscheme c hmem
  rcases Nat.lt_or_ge i 35 with h₂ | h₂
  · exact range_of_lowerHex (List.all_eq_true.1 htrace c (mem_window hsome h₁ (by omega)))
  rcases Nat.eq_or_lt_of_le h₂ with h₃ | h₃
  · rw [← h₃, hdash] at hsome
    exact hdashes hsome.symm
  rcases Nat.lt_or_ge i 52 with h₄ | h₄
  · exact range_of_lowerHex (List.all_eq_true.1 hspan c (mem_window hsome h₃ (by omega)))
  rcases Nat.eq_or_lt_of_le h₄ with h₅ | h₅
  · rw [← h₅, hdash'] at hsome
    exact hdashes hsome.symm
  · have hmem := mem_window (n := 2) hsome h₅ (by omega)
    exact range_of_lowerHex (List.all_eq_true.1 hflags c (List.mem_of_mem_take hmem))

/-! ### UUIDs -/

end Inbox
end BaobabErp
