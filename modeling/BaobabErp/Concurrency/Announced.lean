/-
# A row whose revisions are announced

A row counts its own changes, and each of its revisions is announced by one entry
elsewhere in the store (an outbox), written by the transaction that made the
revision.  `InStep` says of a set of rows that the entries about the row are those
of its revisions so far, each once and where it belongs, and that the newest one
describes the row.

A transaction is out of step from its write of the row to its write of the entry.
Nobody sees that: it holds the row meanwhile, and whoever does not hold the row
neither changes it nor touches what is said of it (`Kept.quiet`).  So it is enough
that a transaction is in step when it commits (`Kept.commit`).
-/

import BaobabErp.Concurrency.Store

set_option linter.unusedSectionVars false

namespace Concurrency

/-- **A row and what is said of it.** An entry may carry a note about the row at
`head` (`note`), which names a revision of the row. -/
structure Announcing {K : Type} (V : K → Type) where
  head : K
  revision : V head → Nat
  Note : Type
  note : (k : K) → V k → Option Note
  number : Note → Nat
  /-- Where the note about a revision belongs. -/
  entry : Nat → K
  Describes : V head → Note → Prop
  Sound : V head → Prop
  /-- What may come after a version of the row. -/
  Follows : V head → V head → Prop
  apart : ∀ v, note head v = none
  refl : ∀ v, Follows v v
  trans : ∀ a b c, Follows a b → Follows b c → Follows a c

namespace Announcing

variable {T K : Type} {V : K → Type} (A : Announcing V)

/-- What the entry at `k` says of the row. -/
def notes (rows : (k : K) → Option (V k)) (k : K) : Option A.Note := (rows k).bind (A.note k)

/-- The revisions so far. -/
def count (rows : (k : K) → Option (V k)) : Nat := (rows A.head).elim 0 A.revision

/-- The notes are those of the revisions `1 … n`, each where it belongs. -/
structure UpTo (rows : (k : K) → Option (V k)) (n : Nat) : Prop where
  placed : ∀ k m, A.notes rows k = some m →
    k = A.entry (A.number m) ∧ 1 ≤ A.number m ∧ A.number m ≤ n
  present : ∀ r, 1 ≤ r → r ≤ n → ∃ m, A.notes rows (A.entry r) = some m ∧ A.number m = r

/-- **Every revision is announced, and nothing else is.** -/
structure InStep (rows : (k : K) → Option (V k)) : Prop where
  upTo : A.UpTo rows (A.count rows)
  latest : ∀ v, rows A.head = some v →
    ∃ m, A.notes rows (A.entry (A.revision v)) = some m ∧ A.Describes v m

/-- The newest revision still has to be announced. -/
structure Owes (rows : (k : K) → Option (V k)) (v : V A.head) : Prop where
  head : rows A.head = some v
  upTo : ∃ n, A.revision v = n + 1 ∧ A.UpTo rows n

/-- A row at `k` can matter: it is the row itself, or may carry a note. -/
def Tracked (k : K) : Prop := k = A.head ∨ ∃ v, A.note k v ≠ none

variable {A} {rows rows' : (k : K) → Option (V k)} {n : Nat} {v : V A.head}

theorem notes_congr {k : K} (h : rows' k = rows k) : A.notes rows' k = A.notes rows k := by
  unfold notes
  rw [h]

theorem notes_eq {k : K} {x : V k} (h : rows k = some x) : A.notes rows k = A.note k x := by
  unfold notes
  rw [h, Option.bind_some]

theorem notes_of_none {k : K} (h : rows k = none) : A.notes rows k = none := by
  unfold notes
  rw [h, Option.bind_none]

theorem notes_head : A.notes rows A.head = none := by
  cases h : rows A.head with
  | none => exact notes_of_none h
  | some v => rw [notes_eq h, A.apart]

theorem notes_of_not_tracked {k : K} (h : ¬ A.Tracked k) : A.notes rows k = none := by
  cases hk : rows k with
  | none => exact notes_of_none hk
  | some x =>
    rw [notes_eq hk]
    by_contra hx
    exact h (.inr ⟨x, hx⟩)

theorem count_eq (h : rows A.head = some v) : A.count rows = A.revision v := by
  unfold count
  rw [h, Option.elim_some]

theorem UpTo.congr (h : A.UpTo rows n) (hn : ∀ k, A.notes rows' k = A.notes rows k) :
    A.UpTo rows' n := by
  constructor
  · intro k m hm
    rw [hn] at hm
    exact h.placed k m hm
  · intro r h₁ h₂
    rw [hn]
    exact h.present r h₁ h₂

/-- **Being in step is a matter of the row and the notes.** -/
theorem InStep.congr (h : A.InStep rows) (hn : ∀ k, A.notes rows' k = A.notes rows k)
    (hh : rows' A.head = rows A.head) : A.InStep rows' := by
  constructor
  · have hcount : A.count rows' = A.count rows := by
      unfold count
      rw [hh]
    rw [hcount]
    exact h.upTo.congr hn
  · intro v hv
    rw [hh] at hv
    rw [hn]
    exact h.latest v hv

theorem Owes.congr (h : A.Owes rows v) (hn : ∀ k, A.notes rows' k = A.notes rows k)
    (hh : rows' A.head = rows A.head) : A.Owes rows' v := by
  obtain ⟨n, hrev, hup⟩ := h.upTo
  exact ⟨hh.trans h.head, n, hrev, hup.congr hn⟩

/-- Nothing is said of a row that is not there. -/
theorem inStep_of_absent (hh : rows A.head = none) (hn : ∀ k, A.notes rows k = none) :
    A.InStep rows := by
  have hcount : A.count rows = 0 := by
    unfold count
    rw [hh, Option.elim_none]
  constructor
  · constructor
    · intro k m hm
      rw [hn] at hm
      cases hm
    · intro r h₁ h₂
      omega
  · intro v hv
    rw [hh] at hv
    cases hv

/-- **The next revision is written.** -/
theorem InStep.revise (h : A.InStep rows) (hn : ∀ k, A.notes rows' k = A.notes rows k)
    (hh : rows' A.head = some v) (hv : A.revision v = A.count rows + 1) : A.Owes rows' v :=
  ⟨hh, A.count rows, hv, h.upTo.congr hn⟩

/-- **The newest revision is announced**, where nothing was. -/
theorem Owes.announce {m : A.Note} (h : A.Owes rows v)
    (hfree : A.notes rows (A.entry (A.revision v)) = none)
    (hself : A.notes rows' (A.entry (A.revision v)) = some m)
    (hother : ∀ k, k ≠ A.entry (A.revision v) → A.notes rows' k = A.notes rows k)
    (hhead : rows' A.head = rows A.head) (hm : A.number m = A.revision v)
    (hd : A.Describes v m) : A.InStep rows' := by
  obtain ⟨n, hrev, hup⟩ := h.upTo
  have hv : rows' A.head = some v := hhead.trans h.head
  constructor
  · rw [count_eq hv]
    constructor
    · intro k x hx
      by_cases hk : k = A.entry (A.revision v)
      · subst hk
        obtain rfl := Option.some.inj (hself.symm.trans hx)
        rw [hm]
        exact ⟨rfl, by omega, by omega⟩
      · rw [hother k hk] at hx
        obtain ⟨hplace, h₁, h₂⟩ := hup.placed k x hx
        exact ⟨hplace, h₁, by omega⟩
    · intro r h₁ h₂
      by_cases hr : r = A.revision v
      · subst hr
        exact ⟨m, hself, hm⟩
      · obtain ⟨x, hx, hnum⟩ := hup.present r h₁ (by omega)
        refine ⟨x, ?_, hnum⟩
        rw [hother _ fun he => ?_]
        · exact hx
        · rw [he, hfree] at hx
          cases hx
  · intro u hu
    obtain rfl := Option.some.inj (hv.symm.trans hu)
    exact ⟨m, hself, hd⟩

end Announcing

namespace Store

open Announcing

variable {T K : Type} {V : K → Type} [DecidableEq T] [DecidableEq K]

/-- **What the transactions of a store keep to about an announced row**: the
committed rows are in step, a transaction that does not hold the row says nothing
new of it, and one that has written it has written what follows. -/
structure Kept (A : Announcing V) (σ : Store T V) : Prop where
  inStep : A.InStep σ.committed
  quiet : ∀ t, ¬ σ.Holds t A.head → ∀ k, A.notes (σ.view t) k = A.notes σ.committed k
  sound : ∀ v, σ.committed A.head = some v → A.Sound v
  written : ∀ t x, σ.pending A.head = some (t, x) →
    ∃ d, x = some d ∧ A.Sound d ∧ ∀ c, σ.committed A.head = some c → A.Follows c d

namespace Kept

variable {A : Announcing V} {σ τ : Store T V} {t u : T} {k : K}

/-- Who does not hold the row sees it in step. -/
theorem inStep_view (h : Kept A σ) (ht : ¬ σ.Holds t A.head) : A.InStep (σ.view t) :=
  h.inStep.congr (h.quiet t ht) (view_of_not_holds ht)

/-- What a transaction sees of the row follows on what is committed. -/
theorem view_follows {c : V A.head} (h : Kept A σ) (hc : σ.committed A.head = some c) (t : T) :
    ∃ d, σ.view t A.head = some d ∧ A.Follows c d := by
  by_cases ht : σ.Holds t A.head
  · obtain ⟨x, hx⟩ := ht
    obtain ⟨d, rfl, -, hd⟩ := h.written t x hx
    exact ⟨d, view_of_pending hx, hd c hc⟩
  · exact ⟨c, (view_of_not_holds ht).trans hc, A.refl c⟩

theorem view_sound {d : V A.head} (h : Kept A σ) (hd : σ.view t A.head = some d) : A.Sound d := by
  by_cases ht : σ.Holds t A.head
  · obtain ⟨x, hx⟩ := ht
    obtain ⟨e, rfl, he, -⟩ := h.written t x hx
    rw [view_of_pending hx] at hd
    obtain rfl := Option.some.inj hd
    exact he
  · rw [view_of_not_holds ht] at hd
    exact h.sound d hd

/-! ### The steps -/

theorem ofRows {rows : (k : K) → Option (V k)} (hh : rows A.head = none)
    (hn : ∀ k, A.notes rows k = none) : Kept A (Store.ofRows rows : Store T V) := by
  constructor
  · exact inStep_of_absent hh hn
  · intro t _ k
    exact notes_congr ((clean_ofRows rows t).view k)
  · intro v hv
    rw [committed_ofRows, hh] at hv
    cases hv
  · intro t x hx
    cases hx

/-- Rows that do not matter may change as they like. -/
theorem congr (h : Kept A σ) (hc : ∀ k, A.Tracked k → τ.committed k = σ.committed k)
    (hp : ∀ k, A.Tracked k → τ.pending k = σ.pending k) : Kept A τ := by
  have hhead : A.Tracked A.head := .inl rfl
  have hnotes : ∀ k, A.notes τ.committed k = A.notes σ.committed k := by
    intro k
    by_cases hk : A.Tracked k
    · exact notes_congr (hc k hk)
    · rw [notes_of_not_tracked hk, notes_of_not_tracked hk]
  constructor
  · exact h.inStep.congr hnotes (hc _ hhead)
  · intro t ht k
    have hs : ¬ σ.Holds t A.head := by
      unfold Holds at ht ⊢
      rwa [hp _ hhead] at ht
    rw [hnotes, ← h.quiet t hs k]
    by_cases hk : A.Tracked k
    · refine notes_congr ?_
      unfold view
      rw [hp k hk, hc k hk]
    · rw [notes_of_not_tracked hk, notes_of_not_tracked hk]
  · intro v hv
    rw [hc _ hhead] at hv
    exact h.sound v hv
  · intro t x hx
    rw [hp _ hhead] at hx
    rw [hc _ hhead]
    exact h.written t x hx

theorem rollback (h : Kept A σ) (t : T) : Kept A (σ.rollback t) := by
  constructor
  · exact h.inStep
  · intro u hu k
    rw [committed_rollback]
    by_cases hut : u = t
    · subst hut
      exact notes_congr view_rollback_self
    · rw [notes_congr (view_rollback hut)]
      exact h.quiet u (fun hh => hu (holds_rollback_iff.2 ⟨hut, hh⟩)) k
  · exact h.sound
  · intro u x hx
    exact h.written u x (drop_eq_some_iff.1 hx).1

/-- **A transaction in step commits.** -/
theorem commit (h : Kept A σ) (ht : A.InStep (σ.view t)) : Kept A (σ.commit t) := by
  constructor
  · exact ht
  · intro u hu k
    rw [committed_commit]
    by_cases hut : u = t
    · subst hut
      exact notes_congr (clean_commit.view k)
    · have hs : ¬ σ.Holds u A.head := fun hh => hu (holds_commit_iff.2 ⟨hut, hh⟩)
      by_cases hk : σ.Holds u k
      · -- a row `u` has, `t` has not
        rw [notes_congr (view_commit_of_holds hut hk), h.quiet u hs]
        refine notes_congr (view_of_not_holds fun hh => hut (holds_unique hk hh)).symm
      · exact notes_congr (view_commit_of_not_holds hk)
  · intro v hv
    exact h.view_sound hv
  · intro u x hx
    obtain ⟨hp, hut⟩ := drop_eq_some_iff.1 hx
    obtain ⟨d, rfl, hd, hf⟩ := h.written u x hp
    refine ⟨d, rfl, hd, fun c hc => hf c ?_⟩
    rw [committed_commit, view_of_not_holds fun hh => hut (holds_unique ⟨_, hp⟩ hh)] at hc
    exact hc

/-- **A write elsewhere**, by the holder of the row or with nothing new to say of it. -/
theorem put_other {x : Option (V k)} (h : Kept A σ) (hf : σ.free t k = true) (hk : k ≠ A.head)
    (hx : σ.Holds t A.head ∨ x.bind (A.note k) = A.notes (σ.view t) k) : Kept A (σ.put t k x) := by
  constructor
  · exact h.inStep
  · intro u hu l
    have hs : ¬ σ.Holds u A.head := fun hh => hu (holds_put_iff.2 (.inr ⟨hk.symm, hh⟩))
    rw [committed_put, ← h.quiet u hs l]
    by_cases hl : l = k
    · subst hl
      by_cases hut : u = t
      · subst hut
        unfold notes at hx ⊢
        rw [view_put_self]
        exact hx.resolve_left hs
      · exact notes_congr (view_put_other hut hf)
    · exact notes_congr (view_put_of_ne hl)
  · exact h.sound
  · intro u y hy
    rw [pending_put_of_ne hk.symm] at hy
    exact h.written u y hy

/-- **A write of the row**, over what the transaction sees. -/
theorem put_head {d : V A.head} (h : Kept A σ) (hf : σ.free t A.head = true) (hs : A.Sound d)
    (hd : ∀ c, σ.view t A.head = some c → A.Follows c d) :
    Kept A (σ.put t A.head (some d)) := by
  constructor
  · exact h.inStep
  · intro u hu l
    have hut : u ≠ t := by
      rintro rfl
      exact hu holds_put_self
    have hus : ¬ σ.Holds u A.head := fun hh => hut (free_iff.1 hf u hh)
    rw [committed_put, ← h.quiet u hus l]
    by_cases hl : l = A.head
    · subst hl
      exact notes_congr (view_put_other hut hf)
    · exact notes_congr (view_put_of_ne hl)
  · exact h.sound
  · intro u x hx
    rw [pending_put_self] at hx
    obtain ⟨-, rfl⟩ := Prod.mk.inj (Option.some.inj hx)
    refine ⟨d, rfl, hs, fun c hc => ?_⟩
    obtain ⟨e, he, hce⟩ := h.view_follows hc t
    exact A.trans c e d hce (hd e he)

/-! ### What a holder of the row relies on -/

/-- **While a transaction holds the row, the others change nothing it sees of it.** -/
theorem steady (h : Kept A σ) (ht : σ.Holds t A.head)
    (hp : ∀ k x, τ.pending k = some (t, x) ↔ σ.pending k = some (t, x))
    (hc : ∀ k, A.Tracked k →
      τ.committed k = σ.committed k ∨ ∃ u, u ≠ t ∧ τ.committed k = σ.view u k) :
    τ.view t A.head = σ.view t A.head ∧ ∀ k, A.notes (τ.view t) k = A.notes (σ.view t) k := by
  have hheld : ∀ k, τ.Holds t k ↔ σ.Holds t k := fun k =>
    ⟨fun ⟨x, hx⟩ => ⟨x, (hp k x).1 hx⟩, fun ⟨x, hx⟩ => ⟨x, (hp k x).2 hx⟩⟩
  have hview : ∀ k, σ.Holds t k → τ.view t k = σ.view t k := by
    rintro k ⟨x, hx⟩
    rw [view_of_pending hx, view_of_pending ((hp k x).2 hx)]
  refine ⟨hview _ ht, fun k => ?_⟩
  by_cases hk : σ.Holds t k
  · exact notes_congr (hview k hk)
  · have hτ : τ.view t k = τ.committed k := view_of_not_holds fun hh => hk ((hheld k).1 hh)
    rw [notes_congr (view_of_not_holds hk), notes_congr hτ]
    by_cases htrack : A.Tracked k
    · rcases hc k htrack with hc | ⟨u, hut, hc⟩
      · exact notes_congr hc
      · rw [notes_congr hc]
        exact h.quiet u (fun hh => hut (holds_unique hh ht)) k
    · rw [notes_of_not_tracked htrack, notes_of_not_tracked htrack]

/-- **The committed row moves forwards.** -/
theorem advances (h : Kept A σ)
    (hc : τ.committed A.head = σ.committed A.head ∨ τ.committed A.head = σ.view u A.head)
    {c : V A.head} (hcom : σ.committed A.head = some c) :
    ∃ d, τ.committed A.head = some d ∧ A.Follows c d := by
  rcases hc with hc | hc
  · exact ⟨c, hc.trans hcom, A.refl c⟩
  · obtain ⟨d, hd, hf⟩ := h.view_follows hcom u
    exact ⟨d, hc.trans hd, hf⟩

end Kept

end Store

end Concurrency
