/-
# Rows that are inserted once and refined afterwards

A register of a store is a family of rows that nobody removes: a transaction
inserts one, or replaces one by a version that may follow it (`Ref`).  So what a
transaction sees of a register only grows when others commit (`Refining.grows`).

What holds of any two rows a transaction sees, and survives refining them, holds
after any commit as soon as it holds of two rows that two transactions have
inserted and not committed yet (`Compatible.commit`); a lock that both of them
would need is one way to have that.  Where the rows of a register are numbered,
no two transactions have inserted rows of one sequence at once
(`Refining.fresh_unique`), and no gap appears (`Refining.dense_commit`).
-/

import BaobabErp.Concurrency.Append

set_option linter.unusedSectionVars false

namespace Concurrency
namespace Store

variable {T K ι : Type} {V : K → Type} [DecidableEq T] [DecidableEq K]

/-- **What open transactions hold of a register are rows**, and each may follow
the committed one. -/
structure Refining (σ : Store T V) (key : ι → K) (Ref : ∀ i, V (key i) → V (key i) → Prop) :
    Prop where
  row : ∀ t i v, σ.pending (key i) = some (t, v) → ∃ r, v = some r
  refines : ∀ t i r r₀, σ.pending (key i) = some (t, some r) → σ.committed (key i) = some r₀ →
    Ref i r r₀

/-- The transaction has inserted the row. -/
def Fresh (σ : Store T V) (t : T) (k : K) : Prop := σ.Holds t k ∧ σ.committed k = none

/-- Any two of the rows are related. -/
def Compatible (rows : (k : K) → Option (V k)) (key : ι → K)
    (R : ∀ i j, V (key i) → V (key j) → Prop) : Prop :=
  ∀ i j a b, i ≠ j → rows (key i) = some a → rows (key j) = some b → R i j a b

variable {σ : Store T V} {key : ι → K} {Ref : ∀ i, V (key i) → V (key i) → Prop}
  {R : ∀ i j, V (key i) → V (key j) → Prop} {t u : T} {i j : ι} {n m : Int}

namespace Refining

theorem ofRows {rows : (k : K) → Option (V k)} : Refining (ofRows rows : Store T V) key Ref :=
  ⟨nofun, nofun⟩

/-- A held row is seen. -/
theorem view_of_holds (h : Refining σ key Ref) (hh : σ.Holds t (key i)) :
    ∃ r, σ.pending (key i) = some (t, some r) ∧ σ.view t (key i) = some r := by
  obtain ⟨v, hv⟩ := hh
  obtain ⟨r, rfl⟩ := h.row t i v hv
  exact ⟨r, hv, view_of_pending hv⟩

/-- **Everybody sees what is committed**, or what may follow it. -/
theorem view_of_committed (h : Refining σ key Ref) (hrefl : ∀ i r, Ref i r r) {r₀ : V (key i)}
    (hc : σ.committed (key i) = some r₀) : ∃ r, σ.view t (key i) = some r ∧ Ref i r r₀ := by
  by_cases hh : σ.Holds t (key i)
  · obtain ⟨r, hp, hv⟩ := h.view_of_holds hh
    exact ⟨r, hv, h.refines t i r r₀ hp hc⟩
  · exact ⟨r₀, (view_of_not_holds hh).trans hc, hrefl i r₀⟩

theorem put (h : Refining σ key Ref) (hinj : Function.Injective key)
    (htrans : ∀ i a b c, Ref i a b → Ref i b c → Ref i a c) {r : V (key i)}
    (hr : ∀ r₀, σ.view t (key i) = some r₀ → Ref i r r₀) : Refining (σ.put t (key i) (some r)) key Ref := by
  have hpending : ∀ j, j ≠ i → (σ.put t (key i) (some r)).pending (key j) = σ.pending (key j) :=
    fun j hj => pending_put_of_ne fun hk => hj (hinj hk)
  refine ⟨fun u j v hp => ?_, fun u j a a₀ hp hc => ?_⟩
  · by_cases hj : j = i
    · subst hj
      rw [pending_put_self] at hp
      obtain ⟨-, rfl⟩ := Prod.mk.inj (Option.some.inj hp)
      exact ⟨r, rfl⟩
    · exact h.row u j v ((hpending j hj).symm.trans hp)
  · by_cases hj : j = i
    · subst hj
      rw [pending_put_self] at hp
      obtain ⟨rfl, ha⟩ := Prod.mk.inj (Option.some.inj hp)
      obtain rfl := Option.some.inj ha
      by_cases hh : σ.Holds t (key j)
      · obtain ⟨b, hb, hv⟩ := h.view_of_holds hh
        exact htrans j _ b _ (hr b hv) (h.refines t j b a₀ hb hc)
      · exact hr a₀ ((view_of_not_holds hh).trans hc)
    · exact h.refines u j a a₀ ((hpending j hj).symm.trans hp) hc

theorem put_other {k : K} {v : Option (V k)} (h : Refining σ key Ref) (hk : ∀ i, key i ≠ k) :
    Refining (σ.put t k v) key Ref :=
  ⟨fun u j w hp => h.row u j w ((pending_put_of_ne (hk j)).symm.trans hp),
    fun u j a a₀ hp hc => h.refines u j a a₀ ((pending_put_of_ne (hk j)).symm.trans hp) hc⟩

theorem rollback (h : Refining σ key Ref) : Refining (σ.rollback t) key Ref :=
  ⟨fun u j v hp => h.row u j v (drop_eq_some_iff.1 hp).1,
    fun u j a a₀ hp hc => h.refines u j a a₀ (drop_eq_some_iff.1 hp).1 hc⟩

theorem commit (h : Refining σ key Ref) : Refining (σ.commit t) key Ref := by
  refine ⟨fun u j v hp => h.row u j v (drop_eq_some_iff.1 hp).1, fun u j a a₀ hp hc => ?_⟩
  obtain ⟨hp, hu⟩ := drop_eq_some_iff.1 hp
  have hno : ¬ σ.Holds t (key j) := fun hh => hu (holds_unique ⟨_, hp⟩ hh)
  exact h.refines u j a a₀ hp ((view_of_not_holds hno).symm.trans hc)

/-- **What a transaction sees only grows when another commits.** -/
theorem grows (h : Refining σ key Ref) (hrefl : ∀ i r, Ref i r r) (hu : u ≠ t) {r : V (key i)}
    (hv : σ.view u (key i) = some r) : ∃ r', (σ.commit t).view u (key i) = some r' ∧ Ref i r' r := by
  by_cases hh : σ.Holds u (key i)
  · exact ⟨r, (view_commit_of_holds hu hh).trans hv, hrefl i r⟩
  · rw [view_commit_of_not_holds hh]
    exact h.view_of_committed hrefl ((view_of_not_holds hh).symm.trans hv)

/-! ### Numbered rows -/

section Numbered

variable {num : Int → ι}

/-- **Who has inserted a row of a sequence holds the next one to be committed.** -/
theorem fresh_next (h : Refining σ key Ref) (hc : Dense σ.committed (fun v => key (num v)) n)
    (hm : Dense (σ.view t) (fun v => key (num v)) m) {v : Int} (hv : σ.Fresh t (key (num v))) :
    σ.Holds t (key (num (n + 1))) := by
  obtain ⟨r, -, hr⟩ := h.view_of_holds hv.1
  have hvm : 1 ≤ v ∧ v ≤ m := (hm.2 v).1 (by rw [hr]; rfl)
  have hnv : ¬ (1 ≤ v ∧ v ≤ n) := fun hle => by
    have hsome := (hc.2 v).2 hle
    rw [hv.2] at hsome
    cases hsome
  have hn : 0 ≤ n := hc.1
  by_contra hno
  have hsee : (σ.view t (key (num (n + 1)))).isSome = true := (hm.2 (n + 1)).2 (by omega)
  rw [view_of_not_holds hno] at hsee
  have hle : 1 ≤ n + 1 ∧ n + 1 ≤ n := (hc.2 (n + 1)).1 hsee
  omega

/-- **No two transactions have inserted rows of one sequence.** -/
theorem fresh_unique (h : Refining σ key Ref)
    (hc : ∃ n, Dense σ.committed (fun v => key (num v)) n)
    (hm : ∀ t, ∃ m, Dense (σ.view t) (fun v => key (num v)) m) {v w : Int}
    (hv : σ.Fresh t (key (num v))) (hw : σ.Fresh u (key (num w))) : t = u := by
  obtain ⟨n, hn⟩ := hc
  obtain ⟨m, hm'⟩ := hm t
  obtain ⟨l, hl⟩ := hm u
  exact holds_unique (h.fresh_next hn hm' hv) (h.fresh_next hn hl hw)

/-- **No commit makes a gap** in what a transaction sees. -/
theorem dense_commit (h : Refining σ key Ref) (hrefl : ∀ i r, Ref i r r)
    (hc : ∃ n, Dense σ.committed (fun v => key (num v)) n)
    (hm : ∀ t, ∃ m, Dense (σ.view t) (fun v => key (num v)) m) (u : T) :
    ∃ m, Dense ((σ.commit t).view u) (fun v => key (num v)) m := by
  -- a row that is committed is seen by everybody
  have hseen : ∀ s v, (σ.committed (key (num v))).isSome = true →
      (σ.view s (key (num v))).isSome = true := by
    intro s v hv
    obtain ⟨r₀, hr₀⟩ := Option.isSome_iff_exists.1 hv
    obtain ⟨r, hr, -⟩ := h.view_of_committed (t := s) hrefl hr₀
    rw [hr]
    rfl
  by_cases hu : u = t
  · subst hu
    obtain ⟨m, hm'⟩ := hm u
    exact ⟨m, hm'.congr fun v => clean_commit.view _⟩
  by_cases hfresh : ∃ w, σ.Fresh u (key (num w))
  · -- `t` has inserted none, so `u` sees the rows it saw
    obtain ⟨w, hw⟩ := hfresh
    obtain ⟨m, hm'⟩ := hm u
    refine ⟨m, hm'.1, fun v => ?_⟩
    rw [← hm'.2 v]
    by_cases hh : σ.Holds u (key (num v))
    · rw [view_commit_of_holds hu hh]
    · rw [view_commit_of_not_holds hh, view_of_not_holds hh]
      refine ⟨fun hv => ?_, hseen t v⟩
      by_contra hnone
      have hht : σ.Holds t (key (num v)) := by
        by_contra hno
        rw [view_of_not_holds hno] at hv
        exact hnone hv
      exact hu (h.fresh_unique hc hm hw ⟨hht, Option.not_isSome_iff_eq_none.1 hnone⟩)
  · -- what `u` holds is committed, so `u` sees the rows that `t` commits
    obtain ⟨m, hm'⟩ := hm t
    refine ⟨m, hm'.1, fun v => ?_⟩
    rw [← hm'.2 v]
    by_cases hh : σ.Holds u (key (num v))
    · have hsome : (σ.committed (key (num v))).isSome = true := by
        by_contra hnone
        exact hfresh ⟨v, hh, Option.not_isSome_iff_eq_none.1 hnone⟩
      obtain ⟨r, -, hr⟩ := h.view_of_holds hh
      rw [view_commit_of_holds hu hh, hr]
      exact iff_of_true rfl (hseen t v hsome)
    · rw [view_commit_of_not_holds hh]

/-- **Another row of the sequence**, or another version of one, by who sees the ones
before it. -/
theorem dense_put (hm : ∀ t, ∃ m, Dense (σ.view t) (fun v => key (num v)) m)
    (hinj : Function.Injective fun v => key (num v)) {v : Int} {r : V (key (num v))}
    (hv : 1 ≤ v) (hprev : 1 < v → (σ.view t (key (num (v - 1)))).isSome = true)
    (hf : σ.free t (key (num v)) = true) (u : T) :
    ∃ m, Dense ((σ.put t (key (num v)) (some r)).view u) (fun v => key (num v)) m := by
  obtain ⟨m, hm⟩ := hm u
  by_cases hu : u = t
  · subst hu
    have hm0 : 0 ≤ m := hm.1
    have hle : v ≤ m + 1 := by
      by_cases hv1 : 1 < v
      · have hpm : 1 ≤ v - 1 ∧ v - 1 ≤ m := (hm.2 (v - 1)).1 (hprev hv1)
        omega
      · omega
    refine ⟨max m v, by omega, fun w => ?_⟩
    by_cases hw : w = v
    · subst hw
      rw [view_put_self]
      exact iff_of_true rfl ⟨hv, by omega⟩
    · rw [view_put_of_ne fun hk => hw (hinj hk), hm.2 w]
      omega
  · refine ⟨m, hm.congr fun w => ?_⟩
    by_cases hw : w = v
    · subst hw
      exact view_put_other hu hf
    · exact view_put_of_ne fun hk => hw (hinj hk)

theorem dense_rollback (hc : ∃ n, Dense σ.committed (fun v => key (num v)) n)
    (hm : ∀ t, ∃ m, Dense (σ.view t) (fun v => key (num v)) m) (u : T) :
    ∃ m, Dense ((σ.rollback t).view u) (fun v => key (num v)) m := by
  by_cases hu : u = t
  · subst hu
    obtain ⟨n, hn⟩ := hc
    exact ⟨n, hn.congr fun v => view_rollback_self⟩
  · obtain ⟨m, hm'⟩ := hm u
    exact ⟨m, hm'.congr fun v => view_rollback hu⟩

end Numbered

end Refining

/-! ### Two rows -/

/-- **A relation of two rows survives a commit** when it holds between what one
transaction holds of the first and the other of the second. -/
theorem view_commit_pair {k l : K} {P : Option (V k) → Option (V l) → Prop}
    (hu : P (σ.view u k) (σ.view u l)) (ht : P (σ.view t k) (σ.view t l))
    (hkl : u ≠ t → σ.Holds u k → σ.Holds t l → P (σ.view u k) (σ.view t l))
    (hlk : u ≠ t → σ.Holds u l → σ.Holds t k → P (σ.view t k) (σ.view u l)) :
    P ((σ.commit t).view u k) ((σ.commit t).view u l) := by
  by_cases hut : u = t
  · subst hut
    rwa [clean_commit.view, clean_commit.view, committed_commit]
  by_cases hk : σ.Holds u k <;> by_cases hl : σ.Holds u l
  · rwa [view_commit_of_holds hut hk, view_commit_of_holds hut hl]
  · rw [view_commit_of_holds hut hk, view_commit_of_not_holds hl]
    by_cases htl : σ.Holds t l
    · exact hkl hut hk htl
    · rwa [view_of_not_holds htl, ← view_of_not_holds hl]
  · rw [view_commit_of_not_holds hk, view_commit_of_holds hut hl]
    by_cases htk : σ.Holds t k
    · exact hlk hut hl htk
    · rwa [view_of_not_holds htk, ← view_of_not_holds hk]
  · rwa [view_commit_of_not_holds hk, view_commit_of_not_holds hl]

/-- Of a relation that what is committed keeps as well. -/
theorem view_rollback_pair {k l : K} {P : Option (V k) → Option (V l) → Prop}
    (hu : P (σ.view u k) (σ.view u l)) (hc : P (σ.committed k) (σ.committed l)) :
    P ((σ.rollback t).view u k) ((σ.rollback t).view u l) := by
  by_cases hut : u = t
  · subst hut
    rwa [view_rollback_self, view_rollback_self]
  · rwa [view_rollback hut, view_rollback hut]

/-! ### Rows that are related -/

namespace Compatible

theorem congr {rows rows' : (k : K) → Option (V k)} (h : Compatible rows key R)
    (heq : ∀ i, rows' (key i) = rows (key i)) : Compatible rows' key R :=
  fun i j a b hij ha hb => h i j a b hij ((heq i).symm.trans ha) ((heq j).symm.trans hb)

/-- One more row, or another version of one. -/
theorem update {rows : (k : K) → Option (V k)} (h : Compatible rows key R)
    (hinj : Function.Injective key) {r : V (key i)}
    (hr : ∀ j b, j ≠ i → rows (key j) = some b → R i j r b ∧ R j i b r) :
    Compatible (Function.update rows (key i) (some r)) key R := by
  have hother : ∀ j, j ≠ i → Function.update rows (key i) (some r) (key j) = rows (key j) :=
    fun j hj => Function.update_of_ne (fun hk => hj (hinj hk)) _ _
  intro j l a b hjl ha hb
  by_cases hj : j = i
  · subst hj
    rw [Function.update_self] at ha
    obtain rfl := Option.some.inj ha
    rw [hother l hjl.symm] at hb
    exact (hr l b hjl.symm hb).1
  · rw [hother j hj] at ha
    by_cases hl : l = i
    · subst hl
      rw [Function.update_self] at hb
      obtain rfl := Option.some.inj hb
      exact (hr j a hj ha).2
    · rw [hother l hl] at hb
      exact h j l a b hjl ha hb

/-- **A commit keeps rows related** that two transactions have not both inserted. -/
theorem commit (h : Refining σ key Ref) (hrefl : ∀ i r, Ref i r r)
    (hview : ∀ u, Compatible (σ.view u) key R)
    (hR : ∀ i j a a' b b', R i j a b → Ref i a' a → Ref j b' b → R i j a' b')
    (hnew : ∀ u t i j a b, u ≠ t → i ≠ j → σ.pending (key i) = some (u, some a) →
      σ.pending (key j) = some (t, some b) → σ.committed (key i) = none →
      σ.committed (key j) = none → R i j a b) (u : T) :
    Compatible ((σ.commit t).view u) key R := by
  -- one transaction has one of the rows to commit, another one has the other
  have hmixed : ∀ s s' i j (a : V (key i)) (b : V (key j)), s ≠ s' → i ≠ j → σ.Holds s (key i) →
      σ.Holds s' (key j) → σ.view s (key i) = some a → σ.view s' (key j) = some b → R i j a b := by
    intro s s' i j a b hs hij hi hj ha hb
    obtain ⟨a', ha', hva⟩ := h.view_of_holds hi
    obtain rfl := Option.some.inj (hva.symm.trans ha)
    obtain ⟨b', hb', hvb⟩ := h.view_of_holds hj
    obtain rfl := Option.some.inj (hvb.symm.trans hb)
    cases hcj : σ.committed (key j) with
    | some b₀ =>
      have hsj : σ.view s (key j) = some b₀ :=
        (view_of_not_holds fun hh => hs (holds_unique hh hj)).trans hcj
      exact hR i j a' a' b₀ b' (hview s i j a' b₀ hij ha hsj) (hrefl i a')
        (h.refines s' j b' b₀ hb' hcj)
    | none =>
      cases hci : σ.committed (key i) with
      | some a₀ =>
        have hsi : σ.view s' (key i) = some a₀ :=
          (view_of_not_holds fun hh => hs (holds_unique hi hh)).trans hci
        exact hR i j a₀ a' b' b' (hview s' i j a₀ b' hij hsi hb) (h.refines s i a' a₀ ha' hci)
          (hrefl j b')
      | none => exact hnew s s' i j a' b' hs hij ha' hb' hci hcj
  intro i j a b hij ha hb
  exact view_commit_pair (P := fun x y => ∀ a b, x = some a → y = some b → R i j a b)
    (fun a b => hview u i j a b hij) (fun a b => hview t i j a b hij)
    (fun hu hi hj a b => hmixed u t i j a b hu hij hi hj)
    (fun hu hj hi a b => hmixed t u i j a b (Ne.symm hu) hij hi hj) a b ha hb

theorem rollback (hc : Compatible σ.committed key R) (hview : ∀ u, Compatible (σ.view u) key R)
    (u : T) : Compatible ((σ.rollback t).view u) key R := by
  by_cases hu : u = t
  · subst hu
    exact hc.congr fun i => view_rollback_self
  · exact (hview u).congr fun i => view_rollback hu

end Compatible

end Store
end Concurrency
