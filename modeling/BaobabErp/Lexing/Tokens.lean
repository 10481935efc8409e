/-
# Words, marks and quoted literals

A text of words, single-character marks and literals between quotes, in which a
quote inside a literal is written twice, is read by a scanner that looks at one
character at a time.  Whatever stands between the quotes, **tokens written with a
blank between them are read back as they were** (`scan_spaced`): no character of a
literal is taken for a blank, a mark, a word or the closing quote.

The alphabet is a parameter: what separates tokens, what the quote is, and which
characters are tokens of their own.
-/

import Mathlib.Data.List.Basic

namespace Lexing

/-- **The characters that are not part of a word.** -/
structure Alphabet (α : Type) where
  separator : α
  quote : α
  isMark : α → Bool
  separator_ne_quote : separator ≠ quote

/-- A token of the text. -/
inductive Token (α : Type)
  | word (cs : List α)
  | literal (cs : List α)
  | mark (c : α)
deriving DecidableEq

/-- What the scanner is inside of, and what it has read of it. -/
inductive Place (α : Type)
  | between
  | word (read : List α)
  | literal (read : List α)
  /-- Behind a quote that either closed the literal or is the first of two. -/
  | closed (read : List α)

section Scanner

variable {α : Type} [DecidableEq α] (A : Alphabet α)

/-- A character that may stand in a word. -/
def Alphabet.isPlain (c : α) : Bool := c != A.separator && c != A.quote && !A.isMark c

/-- **The scanner.**  A word does not run into a quote, and a literal is followed by a
separator, a mark or the end. -/
def scan : Place α → List α → Option (List (Token α))
  | .between, [] => some []
  | .between, c :: cs =>
    if c = A.separator then scan .between cs
    else if c = A.quote then scan (.literal []) cs
    else if A.isMark c then (scan .between cs).map (.mark c :: ·)
    else scan (.word [c]) cs
  | .word r, [] => some [.word r]
  | .word r, c :: cs =>
    if c = A.separator then (scan .between cs).map (.word r :: ·)
    else if c = A.quote then none
    else if A.isMark c then (scan .between cs).map (.word r :: .mark c :: ·)
    else scan (.word (r ++ [c])) cs
  | .literal _, [] => none
  | .literal r, c :: cs =>
    if c = A.quote then scan (.closed r) cs else scan (.literal (r ++ [c])) cs
  | .closed r, [] => some [.literal r]
  | .closed r, c :: cs =>
    if c = A.quote then scan (.literal (r ++ [c])) cs
    else if c = A.separator then (scan .between cs).map (.literal r :: ·)
    else if A.isMark c then (scan .between cs).map (.literal r :: .mark c :: ·)
    else none

/-- The tokens of a text. -/
def tokens (cs : List α) : Option (List (Token α)) := scan A .between cs

/-! ### Writing tokens -/

/-- A text with every quote doubled. -/
def doubled : List α → List α
  | [] => []
  | c :: cs => if c = A.quote then A.quote :: A.quote :: doubled cs else c :: doubled cs

/-- How a token is written. -/
def written : Token α → List α
  | .word cs => cs
  | .literal cs => A.quote :: (doubled A cs ++ [A.quote])
  | .mark c => [c]

/-- Tokens with a separator between them. -/
def spaced : List (Token α) → List α
  | [] => []
  | [t] => written A t
  | t :: ts => written A t ++ A.separator :: spaced ts

/-- **A token that reads as itself**: a word of word characters, a mark that is one.
A literal may hold anything. -/
def Token.Proper : Token α → Prop
  | .word cs => cs ≠ [] ∧ ∀ c ∈ cs, A.isPlain c = true
  | .literal _ => True
  | .mark c => A.isMark c = true ∧ c ≠ A.separator ∧ c ≠ A.quote

variable {A}

/-- Two sequences one after the other have a separator between them. -/
theorem spaced_append {ts us : List (Token α)} (ht : ts ≠ []) (hu : us ≠ []) :
    spaced A (ts ++ us) = spaced A ts ++ A.separator :: spaced A us := by
  induction ts with
  | nil => exact absurd rfl ht
  | cons t ts ih =>
    cases ts with
    | nil =>
      obtain ⟨u, us, rfl⟩ := List.exists_cons_of_ne_nil hu
      rfl
    | cons v vs =>
      have hfirst : spaced A (t :: v :: vs) = written A t ++ A.separator :: spaced A (v :: vs) := rfl
      calc spaced A (t :: v :: vs ++ us)
          = written A t ++ A.separator :: spaced A (v :: vs ++ us) := rfl
        _ = spaced A (t :: v :: vs) ++ A.separator :: spaced A us := by
            rw [ih (List.cons_ne_nil _ _), hfirst, List.append_assoc, List.cons_append]

theorem isPlain_iff {c : α} :
    A.isPlain c = true ↔ c ≠ A.separator ∧ c ≠ A.quote ∧ A.isMark c = false := by
  simp [Alphabet.isPlain, and_assoc]

theorem scan_word_plain {r cs rest : List α} (h : ∀ c ∈ cs, A.isPlain c = true) :
    scan A (.word r) (cs ++ rest) = scan A (.word (r ++ cs)) rest := by
  induction cs generalizing r with
  | nil => simp
  | cons c cs ih =>
    obtain ⟨hs, hq, hm⟩ := isPlain_iff.1 (h c (List.mem_cons_self ..))
    have hstep : scan A (.word r) (c :: (cs ++ rest)) = scan A (.word (r ++ [c])) (cs ++ rest) := by
      simp [scan, hs, hq, hm]
    rw [List.cons_append, hstep, ih fun d hd => h d (List.mem_cons_of_mem _ hd), List.append_assoc]
    rfl

/-- A doubled quote never closes the literal. -/
theorem scan_literal_doubled {r cs rest : List α} :
    scan A (.literal r) (doubled A cs ++ A.quote :: rest) = scan A (.closed (r ++ cs)) rest := by
  induction cs generalizing r with
  | nil => simp [doubled, scan]
  | cons c cs ih =>
    by_cases hc : c = A.quote
    · subst hc
      simp [doubled, scan, ih]
    · simp [doubled, scan, hc, ih]

/-- What is left to read behind a token: nothing, or a separator. -/
theorem scan_written {t : Token α} (h : t.Proper A) :
    scan A .between (written A t) = some [t] ∧
      ∀ rest, scan A .between (written A t ++ A.separator :: rest) =
        (scan A .between rest).map (t :: ·) := by
  cases t with
  | word cs =>
    obtain ⟨hne, hplain⟩ := h
    obtain ⟨c, cs, rfl⟩ := List.exists_cons_of_ne_nil hne
    obtain ⟨hs, hq, hm⟩ := isPlain_iff.1 (hplain c (List.mem_cons_self ..))
    have hrest : ∀ rest, scan A .between (c :: cs ++ rest) = scan A (.word (c :: cs)) rest := by
      intro rest
      have hstep : scan A .between (c :: (cs ++ rest)) = scan A (.word [c]) (cs ++ rest) := by
        simp [scan, hs, hq, hm]
      rw [List.cons_append, hstep, scan_word_plain fun d hd => hplain d (List.mem_cons_of_mem _ hd)]
      rfl
    refine ⟨?_, fun rest => ?_⟩
    · have := hrest []
      rw [List.append_nil] at this
      rw [written, this, scan]
    · rw [written, hrest, scan, if_pos rfl]
  | literal cs =>
    have hopen : ∀ rest, scan A .between (A.quote :: rest) = scan A (.literal []) rest := by
      intro rest
      simp [scan, A.separator_ne_quote.symm]
    refine ⟨?_, fun rest => ?_⟩
    · rw [written, hopen, scan_literal_doubled, List.nil_append, scan]
    · have happ : written A (.literal cs) ++ A.separator :: rest =
          A.quote :: (doubled A cs ++ A.quote :: A.separator :: rest) := by
        simp [written]
      rw [happ, hopen, scan_literal_doubled, List.nil_append, scan,
        if_neg A.separator_ne_quote, if_pos rfl]
  | mark c =>
    obtain ⟨hm, hs, hq⟩ := h
    simp [written, scan, hm, hs, hq]

/-- **Tokens written with a separator between them are read back as they were.** -/
theorem scan_spaced {ts : List (Token α)} (h : ∀ t ∈ ts, t.Proper A) :
    tokens A (spaced A ts) = some ts := by
  induction ts with
  | nil => rfl
  | cons t ts ih =>
    have ht := scan_written (h t (List.mem_cons_self ..))
    have hts := ih fun u hu => h u (List.mem_cons_of_mem _ hu)
    cases ts with
    | nil => exact ht.1
    | cons u us =>
      calc tokens A (spaced A (t :: u :: us))
          = (tokens A (spaced A (u :: us))).map (t :: ·) := ht.2 _
        _ = some (t :: u :: us) := by rw [hts, Option.map_some]

/-- Two sequences of tokens are not written alike. -/
theorem spaced_injective {ts us : List (Token α)} (ht : ∀ t ∈ ts, t.Proper A)
    (hu : ∀ u ∈ us, u.Proper A) (h : spaced A ts = spaced A us) : ts = us := by
  have hread := scan_spaced ht
  rw [h, scan_spaced hu] at hread
  exact (Option.some.inj hread).symm

end Scanner

end Lexing
