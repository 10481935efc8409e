/-
# A keyed store under READ COMMITTED

A database as its transactions see it, one version of every row and at most one
writer of it: `committed` is what everybody reads, `pending` what an open
transaction has made of a row (`none` for a deleted row).  A row with a pending
version is locked by that transaction, so a `SELECT … FOR UPDATE` is a pending
version equal to the one it read, and a second writer waits (`free`).

Rows are keyed by what identifies them (a primary key, or the entry of a unique
index), and a table is a family of keys, so a store has one row type for every
key.  A statement reads through `view`: its own transaction's version where it
has one, else the last committed one; each statement looks again, which is READ
COMMITTED.  `commit` and `rollback` end a transaction and release its rows.
-/

import Mathlib.Logic.Function.Basic
import Mathlib.Tactic.SplitIfs

set_option linter.unusedSectionVars false

namespace Concurrency

/-- **Committed rows and the rows open transactions hold.** -/
structure Store (T : Type) {K : Type} (V : K → Type) where
  committed : (k : K) → Option (V k)
  pending : (k : K) → Option (T × Option (V k))

namespace Store

variable {T K : Type} {V : K → Type} [DecidableEq T] [DecidableEq K]

/-- A store with no open transaction. -/
def ofRows (rows : (k : K) → Option (V k)) : Store T V := ⟨rows, fun _ => none⟩

/-- The row at `k` as a statement of transaction `t` reads it. -/
def view (σ : Store T V) (t : T) (k : K) : Option (V k) :=
  match σ.pending k with
  | some (u, v) => if u = t then v else σ.committed k
  | none => σ.committed k

/-- Nobody but `t` holds the row at `k`: a write of it does not wait. -/
def free (σ : Store T V) (t : T) (k : K) : Bool :=
  match σ.pending k with
  | some (u, _) => u = t
  | none => true

/-- `t` writes (or locks) the row at `k`. -/
def put (σ : Store T V) (t : T) (k : K) (v : Option (V k)) : Store T V :=
  { σ with pending := Function.update σ.pending k (some (t, v)) }

/-- The pending versions without those of `t`. -/
def drop (σ : Store T V) (t : T) (k : K) : Option (T × Option (V k)) :=
  match σ.pending k with
  | some (u, v) => if u = t then none else some (u, v)
  | none => none

/-- Everything `t` wrote becomes what is committed, all at once. -/
def commit (σ : Store T V) (t : T) : Store T V := ⟨σ.view t, σ.drop t⟩

/-- Nothing `t` wrote remains. -/
def rollback (σ : Store T V) (t : T) : Store T V := ⟨σ.committed, σ.drop t⟩

/-- `t` holds the row at `k`. -/
def Holds (σ : Store T V) (t : T) (k : K) : Prop := ∃ v, σ.pending k = some (t, v)

/-- `t` has no open changes. -/
def Clean (σ : Store T V) (t : T) : Prop := ∀ k, ¬ σ.Holds t k

section Lemmas

variable {σ : Store T V} {t u : T} {k l : K} {v : Option (V k)}

theorem free_iff : σ.free t k = true ↔ ∀ u, σ.Holds u k → u = t := by
  unfold free Holds
  split
  · rename_i u v h
    simp only [h, decide_eq_true_eq, Option.some.injEq, Prod.mk.injEq]
    exact ⟨fun hu w ⟨_, hw, _⟩ => hw ▸ hu, fun hw => hw u ⟨v, rfl, rfl⟩⟩
  · rename_i h
    simp only [h, reduceCtorEq, exists_false, false_implies, implies_true]

theorem view_of_pending (h : σ.pending k = some (t, v)) : σ.view t k = v := by
  simp only [view, h, if_true]

theorem view_of_not_holds (h : ¬ σ.Holds t k) : σ.view t k = σ.committed k := by
  unfold view
  split
  · rename_i u v hp
    rw [if_neg]
    rintro rfl
    exact h ⟨v, hp⟩
  · rfl

theorem Clean.view (h : σ.Clean t) (k : K) : σ.view t k = σ.committed k :=
  view_of_not_holds (h k)

theorem holds_unique (h : σ.Holds t k) (h' : σ.Holds u k) : t = u := by
  obtain ⟨v, hv⟩ := h
  obtain ⟨v', hv'⟩ := h'
  rw [hv] at hv'
  exact congrArg Prod.fst (Option.some.inj hv')

/-! ### `ofRows` -/

@[simp] theorem committed_ofRows (rows : (k : K) → Option (V k)) :
    (ofRows rows : Store T V).committed = rows := rfl

@[simp] theorem pending_ofRows (rows : (k : K) → Option (V k)) (k : K) :
    (ofRows rows : Store T V).pending k = none := rfl

theorem clean_ofRows (rows : (k : K) → Option (V k)) (t : T) : (ofRows rows : Store T V).Clean t :=
  fun _ ⟨_, h⟩ => absurd h (by simp only [pending_ofRows, reduceCtorEq, not_false_eq_true])

/-! ### `put` -/

@[simp] theorem committed_put : (σ.put t k v).committed = σ.committed := rfl

@[simp] theorem pending_put_self : (σ.put t k v).pending k = some (t, v) :=
  Function.update_self ..

theorem pending_put_of_ne (h : l ≠ k) : (σ.put t k v).pending l = σ.pending l :=
  Function.update_of_ne h ..

@[simp] theorem view_put_self : (σ.put t k v).view t k = v :=
  view_of_pending pending_put_self

theorem view_put_of_ne (h : l ≠ k) : (σ.put t k v).view u l = σ.view u l := by
  simp only [view, pending_put_of_ne h, committed_put]

theorem view_put_other (h : u ≠ t) (hf : σ.free t k = true) :
    (σ.put t k v).view u k = σ.view u k := by
  have hu : ¬ σ.Holds u k := fun hu => h (free_iff.1 hf u hu)
  rw [view_of_not_holds hu, view_of_not_holds, committed_put]
  rintro ⟨v', hv'⟩
  rw [pending_put_self] at hv'
  exact h (congrArg Prod.fst (Option.some.inj hv')).symm

theorem holds_put_self : (σ.put t k v).Holds t k := ⟨v, pending_put_self⟩

theorem holds_put_iff : (σ.put t k v).Holds u l ↔ (l = k ∧ u = t) ∨ (l ≠ k ∧ σ.Holds u l) := by
  by_cases h : l = k
  · subst h
    simp only [Holds, pending_put_self, true_and, ne_eq, not_true_eq_false, false_and, or_false,
      Option.some.injEq, Prod.mk.injEq]
    exact ⟨fun ⟨_, h, _⟩ => h.symm, fun h => ⟨v, h.symm, rfl⟩⟩
  · simp only [Holds, pending_put_of_ne h, h, false_and, false_or, ne_eq, not_false_eq_true,
      true_and]

/-! ### `commit` and `rollback` -/

theorem drop_eq_some_iff {p : T × Option (V k)} :
    σ.drop t k = some p ↔ σ.pending k = some p ∧ p.1 ≠ t := by
  unfold drop
  split
  · rename_i u v h
    rw [h]
    split_ifs with hu
    · simp only [Option.some.injEq, false_iff, not_and, ne_eq, not_not]
      rintro rfl
      exact hu
    · simp only [Option.some.injEq]
      exact ⟨fun hp => ⟨hp, hp ▸ hu⟩, fun hp => hp.1⟩
  · rename_i h
    simp only [h, reduceCtorEq, false_and]

@[simp] theorem committed_commit : (σ.commit t).committed = σ.view t := rfl

@[simp] theorem committed_rollback : (σ.rollback t).committed = σ.committed := rfl

@[simp] theorem pending_commit : (σ.commit t).pending = σ.drop t := rfl

@[simp] theorem pending_rollback : (σ.rollback t).pending = σ.drop t := rfl

theorem holds_commit_iff : (σ.commit t).Holds u k ↔ u ≠ t ∧ σ.Holds u k := by
  simp only [Holds, pending_commit, drop_eq_some_iff]
  exact ⟨fun ⟨v, hv, h⟩ => ⟨h, v, hv⟩, fun ⟨h, v, hv⟩ => ⟨v, hv, h⟩⟩

theorem holds_rollback_iff : (σ.rollback t).Holds u k ↔ u ≠ t ∧ σ.Holds u k := by
  simp only [Holds, pending_rollback, drop_eq_some_iff]
  exact ⟨fun ⟨v, hv, h⟩ => ⟨h, v, hv⟩, fun ⟨h, v, hv⟩ => ⟨v, hv, h⟩⟩

theorem clean_commit : (σ.commit t).Clean t := fun _ h => (holds_commit_iff.1 h).1 rfl

theorem clean_rollback : (σ.rollback t).Clean t := fun _ h => (holds_rollback_iff.1 h).1 rfl

theorem Clean.commit (h : σ.Clean u) : (σ.commit t).Clean u :=
  fun k hk => h k (holds_commit_iff.1 hk).2

theorem Clean.rollback (h : σ.Clean u) : (σ.rollback t).Clean u :=
  fun k hk => h k (holds_rollback_iff.1 hk).2

theorem Clean.put (h : σ.Clean u) (hu : u ≠ t) : (σ.put t k v).Clean u := by
  intro l hl
  rcases holds_put_iff.1 hl with ⟨-, rfl⟩ | ⟨-, hl⟩
  · exact hu rfl
  · exact h l hl

/-- What `u` sees of a row it holds does not change when another transaction ends. -/
theorem view_commit_of_holds (hu : u ≠ t) (h : σ.Holds u k) :
    (σ.commit t).view u k = σ.view u k := by
  obtain ⟨v, hv⟩ := h
  rw [view_of_pending hv, view_of_pending]
  exact drop_eq_some_iff.2 ⟨hv, hu⟩

theorem view_commit_of_not_holds (h : ¬ σ.Holds u k) : (σ.commit t).view u k = σ.view t k := by
  rw [view_of_not_holds fun h' => h (holds_commit_iff.1 h').2, committed_commit]

theorem view_rollback (hu : u ≠ t) : (σ.rollback t).view u k = σ.view u k := by
  by_cases h : σ.Holds u k
  · obtain ⟨v, hv⟩ := h
    rw [view_of_pending hv, view_of_pending]
    exact drop_eq_some_iff.2 ⟨hv, hu⟩
  · rw [view_of_not_holds h, view_of_not_holds fun h' => h (holds_rollback_iff.1 h').2,
      committed_rollback]

theorem view_rollback_self : (σ.rollback t).view t k = σ.committed k :=
  clean_rollback.view k

/-- A transaction that changed nothing commits nothing. -/
theorem Clean.commit_eq (h : σ.Clean t) : σ.commit t = σ := by
  have hp : σ.drop t = σ.pending := by
    funext k
    unfold drop
    split
    · rename_i u v hk
      rw [if_neg, hk]
      rintro rfl
      exact h k ⟨v, hk⟩
    · rename_i hk
      exact hk.symm
  unfold Store.commit
  rw [hp, show σ.view t = σ.committed from funext h.view]

/-- One write and its commit, by a transaction with no other changes. -/
theorem Clean.commit_put (h : σ.Clean t) (hf : σ.free t k = true) :
    (σ.put t k v).commit t = ⟨Function.update σ.committed k v, σ.pending⟩ := by
  unfold Store.commit
  congr 1
  · funext l
    by_cases hl : l = k
    · subst hl
      rw [view_put_self, Function.update_self]
    · rw [view_put_of_ne hl, h.view, Function.update_of_ne hl]
  · funext l
    by_cases hl : l = k
    · subst hl
      unfold drop
      rw [pending_put_self]
      dsimp only
      rw [if_pos rfl]
      cases hp : σ.pending l with
      | none => rfl
      | some p => exact absurd ⟨p.2, by rw [hp, ← free_iff.1 hf p.1 ⟨p.2, hp⟩]⟩ (h l)
    · unfold drop
      rw [pending_put_of_ne hl]
      split
      · rename_i u v' hp
        rw [if_neg, hp]
        rintro rfl
        exact h l ⟨v', hp⟩
      · rename_i hp
        exact hp.symm

/-- A row that `t` does not hold is committed unchanged. -/
theorem committed_commit_of_not_holds (h : ¬ σ.Holds t k) :
    (σ.commit t).committed k = σ.committed k :=
  view_of_not_holds h

end Lemmas

end Store

end Concurrency
