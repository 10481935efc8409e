/-
# Histories of an inbox row

What can have happened to a row of `baobab.event_inbox` (`Fenced`): claims are
numbered in the order they were made, and a settlement stands directly on the
claim it was made for.  An attempt number can come back, because a refund takes
it down again; the number of a claim never does.

Once a claim has a later claim above it, nothing is settled for it any more
(`Fenced.superseded`), and nothing is settled for a claim twice
(`Fenced.settled_once`).
-/

import BaobabErp.Platform.World

namespace BaobabErp
namespace Inbox

open World

/-- **The histories the fence admits**, newest first. -/
inductive Fenced : List RowEvent → Prop
  | received : Fenced []
  | claimed {h : List RowEvent} (w : Worker) :
      Fenced h → Fenced (.claimed (claimCount h + 1) w :: h)
  | settled {h : List RowEvent} {n : Nat} {w : Worker} (status : InboxStatus) :
      Fenced (.claimed n w :: h) → Fenced (.settled n status :: .claimed n w :: h)

/-- The row's columns say what its last event was: a claimed row is `processing`
for the worker that claimed it, a settled one has the status it was settled with. -/
def Consistent (row : InboxRow) : Prop :=
  match row.history with
  | [] => row.status ≠ .processing
  | .claimed _ w :: _ => row.status = .processing ∧ row.claimedBy = some w
  | .settled _ status :: _ => row.status = status ∧ status ≠ .processing

/-- Whether an event is a settlement of the claim numbered `n`. -/
def settles (n : Nat) : RowEvent → Bool
  | .claimed _ _ => false
  | .settled m _ => m = n

section

variable {h newer older : List RowEvent} {m n : Nat} {v w : Worker} {status : InboxStatus}

@[simp] theorem claimCount_nil : claimCount [] = 0 := rfl

@[simp] theorem claimCount_claimed : claimCount (.claimed n w :: h) = claimCount h + 1 := by
  simp only [claimCount, List.countP_cons, if_true]

@[simp] theorem claimCount_settled : claimCount (.settled n status :: h) = claimCount h := by
  simp only [claimCount, List.countP_cons, Bool.false_eq_true, if_false, Nat.add_zero]

theorem Fenced.tail {e : RowEvent} (hf : Fenced (e :: h)) : Fenced h := by
  cases hf with
  | claimed w hf => exact hf
  | settled status hf => exact hf

/-- Claims are numbered from one, without gaps. -/
theorem Fenced.claim_no (hf : Fenced (.claimed n w :: h)) : n = claimCount h + 1 := by
  cases hf with
  | claimed w hf => rfl

/-- Every number in a history is the number of a claim made so far. -/
theorem Fenced.le_claimCount (hf : Fenced h) :
    (∀ n w, .claimed n w ∈ h → n ≤ claimCount h) ∧
      ∀ n status, .settled n status ∈ h → n ≤ claimCount h := by
  induction hf with
  | received => exact ⟨fun _ _ hm => (List.not_mem_nil hm).elim,
      fun _ _ hm => (List.not_mem_nil hm).elim⟩
  | @claimed h w hf ih =>
    rw [claimCount_claimed]
    refine ⟨fun n v hm => ?_, fun n status hm => ?_⟩
    · rcases List.mem_cons.1 hm with he | hm
      · cases he
        omega
      · have := ih.1 n v hm
        omega
    · rcases List.mem_cons.1 hm with he | hm
      · cases he
      · have := ih.2 n status hm
        omega
  | @settled h n w status hf ih =>
    rw [claimCount_settled]
    refine ⟨fun m v hm => ?_, fun m st hm => ?_⟩
    · rcases List.mem_cons.1 hm with he | hm
      · cases he
      · exact ih.1 m v hm
    · rcases List.mem_cons.1 hm with he | hm
      · cases he
        exact ih.1 n w List.mem_cons_self
      · exact ih.2 m st hm

/-- Above a claim stand only claims and settlements with numbers from its own on. -/
theorem Fenced.le_of_newer (hf : Fenced (newer ++ .claimed m v :: older)) :
    (∀ n w, .claimed n w ∈ newer → m < n) ∧
      ∀ n status, .settled n status ∈ newer → m ≤ n := by
  induction newer with
  | nil => exact ⟨fun _ _ hm => (List.not_mem_nil hm).elim,
      fun _ _ hm => (List.not_mem_nil hm).elim⟩
  | cons e es ih =>
    rw [List.cons_append] at hf
    obtain ⟨hc, hs⟩ := ih hf.tail
    refine ⟨fun n w hm => ?_, fun n status hm => ?_⟩
    · rcases List.mem_cons.1 hm with rfl | hm
      · have hn := hf.claim_no
        have hm' := hf.tail.le_claimCount.1 m v
          (List.mem_append_right _ List.mem_cons_self)
        omega
      · exact hc n w hm
    · rcases List.mem_cons.1 hm with rfl | hm
      · -- what stands under a settlement is its own claim: `m` itself or a newer one
        generalize hrest : es ++ .claimed m v :: older = rest at hf
        cases hf with
        | settled status hf' =>
          cases es with
          | nil =>
            injection hrest with he
            cases he
            exact Nat.le_refl m
          | cons e' es' =>
            injection hrest with he
            exact Nat.le_of_lt (hc n _ (by rw [he]; exact List.mem_cons_self))
      · exact hs n status hm

/-- **A superseded claim never settles.** Once a claim `m` was made after the
claim `n`, no settlement for `n` follows. -/
theorem Fenced.superseded (hf : Fenced (newer ++ .claimed m v :: older))
    (hn : .claimed n w ∈ older) : .settled n status ∉ newer := by
  intro hs
  have hle := hf.le_of_newer.2 n status hs
  have hf' : Fenced (.claimed m v :: older) := by
    clear hs hle
    induction newer with
    | nil => exact hf
    | cons e es ih => exact ih hf.tail
  have hm := hf'.claim_no
  have hno := hf'.tail.le_claimCount.1 n w hn
  omega

/-- **A claim settles its row at most once.** -/
theorem Fenced.settled_once (hf : Fenced h) (n : Nat) : h.countP (settles n) ≤ 1 := by
  induction hf with
  | received => exact Nat.zero_le 1
  | @claimed h w hf ih =>
    rw [List.countP_cons_of_neg (by simp only [settles, Bool.false_eq_true, not_false_eq_true])]
    exact ih
  | @settled h k w status hf ih =>
    by_cases hk : k = n
    · -- the claim numbered `k` is new in this history, so nothing below settles it
      have hno := hf.claim_no
      have hzero : (RowEvent.claimed k w :: h).countP (settles n) = 0 := by
        rw [List.countP_eq_zero]
        intro e he
        cases e with
        | claimed m v => simp only [settles, Bool.false_eq_true, not_false_eq_true]
        | settled m st =>
          rcases List.mem_cons.1 he with he | he
          · cases he
          · have hm := hf.tail.le_claimCount.2 m st he
            simp only [settles, decide_eq_true_eq]
            omega
      rw [List.countP_cons, hzero]
      split <;> omega
    · rw [List.countP_cons_of_neg (by simpa only [settles, decide_eq_true_eq] using hk)]
      exact ih

end

end Inbox
end BaobabErp
