/-
# Numbered rows that many transactions append

A sequence is the rows `key 1`, `key 2`, … of a store.  Nobody changes or
removes a row of it, and a transaction adds one at the end of what it sees,
which includes what it added before.  Then what is committed is `1 … n` without a
gap in every state, and so is what any transaction sees.

The reason needs no lock: a transaction that has added rows holds the one after
the last committed one (`Sequence.holds_next`), and a row has one holder.  So two
transactions never both have rows of the sequence to commit.
-/

import BaobabErp.Concurrency.Database

namespace Concurrency
namespace Store

variable {T K : Type} {V : K → Type}

/-- The rows of the sequence are those of the numbers `1 … n`. -/
def Dense (rows : (k : K) → Option (V k)) (key : Int → K) (n : Int) : Prop :=
  0 ≤ n ∧ ∀ v, (rows (key v)).isSome = true ↔ 1 ≤ v ∧ v ≤ n

theorem Dense.congr {rows rows' : (k : K) → Option (V k)} {key : Int → K} {n : Int}
    (h : Dense rows key n) (heq : ∀ v, rows' (key v) = rows (key v)) : Dense rows' key n :=
  ⟨h.1, fun v => by rw [heq v]; exact h.2 v⟩

variable [DecidableEq T] [DecidableEq K]

/-- **A sequence that is only appended to**: without a gap as it is committed and
as every transaction sees it, and a row somebody holds of it is a new one. -/
structure Sequence (σ : Store T V) (key : Int → K) : Prop where
  committed : ∃ n, Dense σ.committed key n
  view : ∀ t, ∃ n, Dense (σ.view t) key n
  fresh : ∀ t v, σ.Holds t (key v) →
    σ.committed (key v) = none ∧ (σ.view t (key v)).isSome = true

variable {σ : Store T V} {t u : T} {k : K} {key : Int → K} {n v : Int}

theorem Sequence.ofRows {rows : (k : K) → Option (V k)} (h : ∀ v, rows (key v) = none) :
    Sequence (ofRows rows : Store T V) key := by
  have hd : Dense rows key 0 := by
    refine ⟨Int.le_refl 0, fun v => ?_⟩
    rw [h v]
    simp only [Option.isSome_none, Bool.false_eq_true, false_iff]
    omega
  exact ⟨⟨0, hd⟩, fun t => ⟨0, hd⟩, fun t v hv => absurd hv (clean_ofRows rows t (key v))⟩

/-- **Who holds a row of the sequence holds the next one to be committed.** -/
theorem Sequence.holds_next (hs : Sequence σ key) (hc : Dense σ.committed key n)
    (hv : σ.Holds t (key v)) : σ.Holds t (key (n + 1)) := by
  obtain ⟨m, hm⟩ := hs.view t
  obtain ⟨hnone, hsome⟩ := hs.fresh t v hv
  have hvm : 1 ≤ v ∧ v ≤ m := (hm.2 v).1 hsome
  have hnv : ¬ (1 ≤ v ∧ v ≤ n) := by
    intro hle
    have := (hc.2 v).2 hle
    rw [hnone] at this
    cases this
  have hn : 0 ≤ n := hc.1
  by_contra hno
  have hsee : (σ.view t (key (n + 1))).isSome = true := (hm.2 (n + 1)).2 (by omega)
  rw [view_of_not_holds hno] at hsee
  have hle : 1 ≤ n + 1 ∧ n + 1 ≤ n := (hc.2 (n + 1)).1 hsee
  omega

/-- A write of another row leaves the sequence. -/
theorem Sequence.put_other {w : Option (V k)} (hs : Sequence σ key) (hk : ∀ v, key v ≠ k) :
    Sequence (σ.put t k w) key := by
  have hview : ∀ u v, (σ.put t k w).view u (key v) = σ.view u (key v) :=
    fun u v => view_put_of_ne (hk v)
  refine ⟨hs.committed, fun u => ?_, fun u v hv => ?_⟩
  · obtain ⟨m, hm⟩ := hs.view u
    exact ⟨m, hm.congr (hview u)⟩
  · rcases holds_put_iff.1 hv with ⟨hkv, -⟩ | ⟨-, hv⟩
    · exact absurd hkv (hk v)
    · rw [hview u v]
      exact hs.fresh u v hv

/-- **Appending**: the row after the last one `t` sees. -/
theorem Sequence.append {r : V (key v)} (hs : Sequence σ key) (hinj : Function.Injective key)
    (hn : Dense (σ.view t) key n) (hv : v = n + 1) (hf : σ.free t (key v) = true) :
    Sequence (σ.put t (key v) (some r)) key := by
  subst hv
  have hnew : σ.view t (key (n + 1)) = none := by
    rw [← Option.not_isSome_iff_eq_none, hn.2 (n + 1)]
    omega
  have hunheld : ¬ σ.Holds t (key (n + 1)) := by
    intro hh
    have := (hs.fresh t (n + 1) hh).2
    rw [hnew] at this
    cases this
  have hother : ∀ u, u ≠ t → ∀ v,
      (σ.put t (key (n + 1)) (some r)).view u (key v) = σ.view u (key v) := by
    intro u hu v
    by_cases hv : v = n + 1
    · subst hv
      exact view_put_other hu hf
    · exact view_put_of_ne fun h => hv (hinj h)
  have hself : ∀ v, ((σ.put t (key (n + 1)) (some r)).view t (key v)).isSome = true ↔
      1 ≤ v ∧ v ≤ n + 1 := by
    intro v
    have hn0 : 0 ≤ n := hn.1
    by_cases hv : v = n + 1
    · subst hv
      rw [view_put_self]
      simp only [Option.isSome_some, true_iff]
      omega
    · rw [view_put_of_ne fun h => hv (hinj h), hn.2 v]
      omega
  refine ⟨hs.committed, fun u => ?_, fun u v hv => ?_⟩
  · by_cases hu : u = t
    · subst hu
      exact ⟨n + 1, by have := hn.1; omega, hself⟩
    · obtain ⟨m, hm⟩ := hs.view u
      exact ⟨m, hm.congr (hother u hu)⟩
  · rcases holds_put_iff.1 hv with ⟨hkv, rfl⟩ | ⟨hkv, hv⟩
    · have hvn : v = n + 1 := hinj hkv
      subst hvn
      rw [committed_put, ← view_of_not_holds hunheld, view_put_self]
      exact ⟨hnew, rfl⟩
    · rw [committed_put, view_put_of_ne hkv]
      exact hs.fresh u v hv

theorem Sequence.rollback (hs : Sequence σ key) : Sequence (σ.rollback t) key := by
  refine ⟨hs.committed, fun u => ?_, fun u v hv => ?_⟩
  · by_cases hu : u = t
    · subst hu
      obtain ⟨n, hn⟩ := hs.committed
      exact ⟨n, hn.congr fun v => view_rollback_self⟩
    · obtain ⟨m, hm⟩ := hs.view u
      exact ⟨m, hm.congr fun v => view_rollback hu⟩
  · obtain ⟨hu, hv⟩ := holds_rollback_iff.1 hv
    rw [committed_rollback, view_rollback hu]
    exact hs.fresh u v hv

/-- **Committing what was appended.** -/
theorem Sequence.commit (hs : Sequence σ key) : Sequence (σ.commit t) key := by
  obtain ⟨n, hn⟩ := hs.committed
  -- where another transaction holds a row of the sequence, `t` commits none of it
  have hsame : ∀ u, u ≠ t → ∀ w, σ.Holds u (key w) → ∀ v,
      σ.view t (key v) = σ.committed (key v) := by
    intro u hu w hw v
    refine view_of_not_holds fun hv => hu ?_
    exact holds_unique (hs.holds_next hn hw) (hs.holds_next hn hv)
  refine ⟨hs.view t, fun u => ?_, fun u v hv => ?_⟩
  · by_cases hu : u = t
    · subst hu
      obtain ⟨m, hm⟩ := hs.view u
      exact ⟨m, hm.congr fun v => by rw [clean_commit.view, committed_commit]⟩
    · by_cases hheld : ∃ w, σ.Holds u (key w)
      · obtain ⟨w, hw⟩ := hheld
        obtain ⟨m, hm⟩ := hs.view u
        refine ⟨m, hm.congr fun v => ?_⟩
        by_cases hv : σ.Holds u (key v)
        · exact view_commit_of_holds hu hv
        · rw [view_commit_of_not_holds hv, hsame u hu w hw v, view_of_not_holds hv]
      · obtain ⟨m, hm⟩ := hs.view t
        exact ⟨m, hm.congr fun v => view_commit_of_not_holds fun hv => hheld ⟨v, hv⟩⟩
  · obtain ⟨hu, hv⟩ := holds_commit_iff.1 hv
    rw [committed_commit, hsame u hu v hv v, view_commit_of_holds hu hv]
    exact hs.fresh u v hv

end Store
end Concurrency
