/-
# What a session lock guards

An executor takes the session lock of its subject and does two things under it:
it looks a record up in the engine before it creates one, and it reads a row
before it writes it.  If every session that creates such a record, or writes
that row, holds the lock, there is never a second record (`OneRecord`), and the
row is replaced by what follows on the row that was read (`LockedRow`).

Nothing is said here of what the subject is; the executors' protocols take the
facts about one call from this module.
-/

import BaobabErp.Platform.Machine

namespace BaobabErp

open Python Concurrency World

/-- `w` holds the session lock `key`. -/
def HasLock (D : Deployment) (w : Worker) (key : String) (s : World) : Prop :=
  ∃ n, s.locks (D.hashes.hashtext key) = some (w, n)

section

variable {D : Deployment} {w v : Worker} {c : Choice} {s u : World} {key : String}

theorem HasLock.unique (h : HasLock D w key s) (h' : HasLock D v key s) : w = v := by
  obtain ⟨n, hn⟩ := h
  obtain ⟨m, hm⟩ := h'
  exact (Prod.mk.inj (Option.some.inj (hn.symm.trans hm))).1

theorem HasLock.own (h : HasLock D w key s) (hsame : OwnSame w s u) : HasLock D w key u := by
  obtain ⟨n, hn⟩ := h
  exact ⟨n, (hsame.locks _ _).2 hn⟩

/-- A session loses a lock by its own unlocking only. -/
theorem HasLock.exec {e : Eff} {r : Except Exc (Ans e)} (h : HasLock D w key s)
    (he : exec D v e c s = some (r, u)) (hunlock : v = w → ∀ key, e ≠ .unlock key) :
    HasLock D w key u := by
  by_cases hv : w = v
  · subst hv
    obtain ⟨n, hn⟩ := h
    rcases (exec_session he).2 with ⟨l, rfl | rfl⟩ | hl
    · rcases exec_tryLock he with ⟨-, rfl⟩ | ⟨-, rfl⟩ | ⟨-, m, rfl, -⟩
      · exact ⟨n, hn⟩
      · exact ⟨n, hn⟩
      · by_cases hkey : D.hashes.hashtext key = D.hashes.hashtext l
        · exact ⟨m + 1, by rw [hkey]; exact Function.update_self ..⟩
        · exact ⟨n, (Function.update_of_ne hkey ..).trans hn⟩
    · exact absurd rfl (hunlock rfl l)
    · exact ⟨n, by rw [hl]; exact hn⟩
  · exact h.own (exec_own hv he)

end

/-! ### A record created once -/

/-- A kind of engine record that updates keep and only the platform's own
sessions create. -/
structure Tracked (P : EngineRecord → Bool) : Prop where
  same : ∀ a b, SameRecord a b → P a = P b
  ours : ∀ q : EngineRecord, q.creator = none → P q = false

/-- The engine holds no such record. -/
def Absent (P : EngineRecord → Bool) (s : World) : Prop := ∀ r ∈ s.engine, P r = false

/-- At most one such record, which `σ` created. -/
structure OneRecord (P : EngineRecord → Bool) (σ : Session) (s : World) : Prop where
  home : ∀ r ∈ s.engine, P r = true → r.home = σ
  once : s.engine.countP P ≤ 1

section OneRecord

variable {P : EngineRecord → Bool} {σ : Session} {D : Deployment} {w : Worker} {c : Choice}
  {s u : World}

theorem Absent.countP (h : Absent P s) : s.engine.countP P = 0 :=
  List.countP_eq_zero.2 fun r hr => by rw [h r hr]; exact Bool.false_ne_true

theorem Absent.of_map {f : EngineRecord → EngineRecord} (hP : Tracked P) (h : Absent P s)
    (hu : u.engine = s.engine.map f) (hf : ∀ q, SameRecord (f q) q) : Absent P u := by
  intro q hq
  rw [hu] at hq
  obtain ⟨p, hp, rfl⟩ := List.mem_map.1 hq
  rw [hP.same _ _ (hf p)]
  exact h p hp

theorem Absent.of_cons {q : EngineRecord} (h : Absent P s) (hu : u.engine = q :: s.engine)
    (hq : P q = false) : Absent P u := by
  intro p hp
  rw [hu] at hp
  rcases List.mem_cons.1 hp with rfl | hp
  · exact hq
  · exact h p hp

/-- A call that creates no such record leaves none. -/
theorem Absent.exec {e : Eff} {r : Except Exc (Ans e)} (hP : Tracked P) (h : Absent P s)
    (hg : ∀ τ fields, e = .createRecord τ fields → P ⟨c.id, τ, fields, s.current w⟩ = false)
    (he : exec D w e c s = some (r, u)) : Absent P u := by
  rcases exec_engine he with ⟨f, hu, hf⟩ | ⟨τ, fields, rfl, hu⟩
  · exact h.of_map hP hu hf
  · exact h.of_cons hu (hg τ fields rfl)

theorem Absent.env {a : Env} (hP : Tracked P) (h : Absent P s) (he : env a s = some u) :
    Absent P u := by
  obtain ⟨-, -, -, ⟨hen, -⟩ | ⟨q, -, -, -, hen⟩⟩ := env_cases he
  · intro r hr
    rw [hen] at hr
    exact h r hr
  · exact h.of_cons hen (hP.ours _ rfl)

theorem OneRecord.of_cons {q : EngineRecord} (h : OneRecord P σ s) (hu : u.engine = q :: s.engine)
    (hq : P q = true → q.home = σ ∧ Absent P s) : OneRecord P σ u := by
  by_cases hnew : P q = true
  · obtain ⟨hhome, hnone⟩ := hq hnew
    refine ⟨fun p hp hc => ?_, ?_⟩
    · rw [hu] at hp
      rcases List.mem_cons.1 hp with rfl | hp
      · exact hhome
      · exact h.home p hp hc
    · have hcount := List.countP_cons_of_pos (l := s.engine) hnew
      have hzero := hnone.countP
      rw [hu]
      omega
  · refine ⟨fun p hp hc => ?_, ?_⟩
    · rw [hu] at hp
      rcases List.mem_cons.1 hp with rfl | hp
      · exact absurd hc hnew
      · exact h.home p hp hc
    · rw [hu, List.countP_cons_of_neg hnew]
      exact h.once

/-- **A record created where there is none stays the only one.** -/
theorem OneRecord.exec {e : Eff} {r : Except Exc (Ans e)} (hP : Tracked P) (h : OneRecord P σ s)
    (hg : ∀ τ fields, e = .createRecord τ fields → P ⟨c.id, τ, fields, s.current w⟩ = true →
      τ = σ ∧ Absent P s)
    (he : exec D w e c s = some (r, u)) : OneRecord P σ u := by
  rcases exec_engine he with ⟨f, hu, hf⟩ | ⟨τ, fields, rfl, hu⟩
  · refine ⟨fun q hq hc => ?_, ?_⟩
    · rw [hu] at hq
      obtain ⟨p, hp, rfl⟩ := List.mem_map.1 hq
      rw [(hf p).home]
      exact h.home p hp ((hP.same _ _ (hf p)).symm.trans hc)
    · have hsame : (P ∘ f) = P := funext fun q => hP.same _ _ (hf q)
      rw [hu, List.countP_map, hsame]
      exact h.once
  · exact h.of_cons hu (hg τ fields rfl)

theorem OneRecord.env {a : Env} (hP : Tracked P) (h : OneRecord P σ s) (he : env a s = some u) :
    OneRecord P σ u := by
  obtain ⟨-, -, -, ⟨hen, -⟩ | ⟨q, -, -, -, hen⟩⟩ := env_cases he
  · refine ⟨fun r hr => ?_, by rw [hen]; exact h.once⟩
    rw [hen] at hr
    exact h.home r hr
  · exact h.of_cons hen fun hc => (by rw [hP.ours _ rfl] at hc; cases hc)

end OneRecord

/-! ### A row written under a lock -/

/-- Whoever has written the row holds the lock, and has written what follows on
the committed one. -/
structure LockedRow (D : Deployment) (k : Key) (key : String) (R : Row k → Row k → Prop)
    (s : World) : Prop where
  held : ∀ w x, s.store.pending k = some (w, x) → HasLock D w key s
  follows : ∀ w x, s.store.pending k = some (w, x) →
    ∃ d, x = some d ∧ ∀ c, s.store.committed k = some c → R c.row d.row

/-- The committed row is still there, or is replaced by one that follows on it. -/
def Advances (k : Key) (R : Row k → Row k → Prop) (s u : World) : Prop :=
  ∀ c, s.store.committed k = some c → ∃ d, u.store.committed k = some d ∧ (d = c ∨ R c.row d.row)

/-- What is asked of a call at the row: it upserts what follows on the row, under
the lock and as the first write of its transaction. -/
def RowGuard (D : Deployment) (k : Key) (key : String) (R : Row k → Row k → Prop) (w : Worker)
    (e : Eff) (s : World) : Prop :=
  (e.written = some k → ∃ row set, e = .upsert k row set ∧ HasLock D w key s ∧
    ¬ s.store.Holds w k ∧ ∀ c, s.store.committed k = some c → R c.row (set c.row)) ∧
  ((∃ key, e = .unlock key) → s.store.Clean w)

section LockedRow

variable {D : Deployment} {k : Key} {key : String} {R : Row k → Row k → Prop} {w v : Worker}
  {c : Choice} {s u : World}

theorem Advances.refl : Advances k R s s := fun c hc => ⟨c, hc, .inl rfl⟩

theorem Advances.of_eq (h : u.store.committed k = s.store.committed k) : Advances k R s u :=
  fun c hc => ⟨c, h.trans hc, .inl rfl⟩

theorem Advances.trans {t : World} (hR : ∀ a b c, R a b → R b c → R a c) (h : Advances k R s t)
    (h' : Advances k R t u) : Advances k R s u := by
  intro c hc
  obtain ⟨d, hd, hcd⟩ := h c hc
  obtain ⟨f, hf, hdf⟩ := h' d hd
  refine ⟨f, hf, ?_⟩
  rcases hcd with rfl | hcd
  · exact hdf
  · rcases hdf with rfl | hdf
    · exact .inr hcd
    · exact .inr (hR _ _ _ hcd hdf)

/-- A session with the lock sees the committed row, unless it has written it. -/
theorem LockedRow.view (h : LockedRow D k key R s) (hlock : HasLock D w key s) (hv : v ≠ w) :
    s.store.view v k = s.store.committed k :=
  Store.view_of_not_holds fun ⟨x, hx⟩ => hv ((h.held v x hx).unique hlock)

/-- **Nobody else replaces the row while a session holds the lock.** -/
theorem LockedRow.committed_other {e : Eff} {r : Except Exc (Ans e)} (h : LockedRow D k key R s)
    (hinbox : ∀ id, k ≠ .inbox id) (hindex : ∀ i, k ≠ .index i) (hlock : HasLock D w key s)
    (hv : v ≠ w) (hg : RowGuard D k key R v e s) (he : exec D v e c s = some (r, u)) :
    u.store.committed k = s.store.committed k := by
  by_cases hwritten : e.written = some k
  · obtain ⟨_, _, -, hlock', -⟩ := hg.1 hwritten
    exact absurd (hlock'.unique hlock) hv
  · rcases exec_at he hinbox hindex hwritten with ⟨-, hc⟩ | ⟨-, hc | hc⟩
    · exact hc
    · exact hc
    · exact hc.trans (h.view hlock hv)

/-- What `w` has pending after the end of its transaction at the row. -/
theorem LockedRow.of_drop (h : LockedRow D k key R s) (hp : u.store.pending k = s.store.drop w k)
    (hc : u.store.committed k = s.store.committed k ∨ u.store.committed k = s.store.view w k)
    (hlock : ∀ v, v ≠ w → HasLock D v key s → HasLock D v key u) : LockedRow D k key R u := by
  have hother : ∀ v x, u.store.pending k = some (v, x) →
      s.store.pending k = some (v, x) ∧ v ≠ w := fun v x hv => by
    rw [hp, Store.drop_eq_some_iff] at hv
    exact hv
  refine ⟨fun v x hv => ?_, fun v x hv => ?_⟩
  · obtain ⟨hs, hne⟩ := hother v x hv
    exact hlock v hne (h.held v x hs)
  · obtain ⟨hs, hne⟩ := hother v x hv
    obtain ⟨d, rfl, hd⟩ := h.follows v x hs
    refine ⟨d, rfl, fun c hcom => hd c ?_⟩
    rcases hc with hc | hc
    · exact hc.symm.trans hcom
    · rw [hc, Store.view_of_not_holds fun hh => hne (Store.holds_unique ⟨_, hs⟩ hh)] at hcom
      exact hcom

/-- A transaction that ends at the row leaves it, or puts there what follows on it. -/
theorem LockedRow.advances (h : LockedRow D k key R s)
    (hc : u.store.committed k = s.store.committed k ∨ u.store.committed k = s.store.view w k) :
    Advances k R s u := by
  rcases hc with hc | hc
  · exact .of_eq hc
  · intro c hcom
    by_cases hheld : s.store.Holds w k
    · obtain ⟨x, hx⟩ := hheld
      obtain ⟨d, rfl, hd⟩ := h.follows w x hx
      exact ⟨d, hc.trans (Store.view_of_pending hx), .inr (hd c hcom)⟩
    · exact ⟨c, hc.trans ((Store.view_of_not_holds hheld).trans hcom), .inl rfl⟩

/-- **A guarded call keeps the row to its lock, and moves it forwards only.** -/
theorem LockedRow.exec {e : Eff} {r : Except Exc (Ans e)} (h : LockedRow D k key R s)
    (hinbox : ∀ id, k ≠ .inbox id) (hindex : ∀ i, k ≠ .index i) (hg : RowGuard D k key R w e s)
    (he : exec D w e c s = some (r, u)) : LockedRow D k key R u ∧ Advances k R s u := by
  have hothers : ∀ v, v ≠ w → HasLock D v key s → HasLock D v key u := fun v hv hl =>
    hl.own (exec_own hv he)
  by_cases hwritten : e.written = some k
  · obtain ⟨row, set, rfl, hlock, hfree, hset⟩ := hg.1 hwritten
    have hview : s.cell w k = s.store.committed k := Store.view_of_not_holds hfree
    rcases exec_upsert he with ⟨-, rfl⟩ | ⟨ht, hcases⟩
    · exact ⟨h.of_drop rfl (.inl rfl) hothers, .of_eq rfl⟩
    · have hlock' : HasLock D w key u := by
        obtain ⟨n, hn⟩ := hlock
        exact ⟨n, by rw [ht.locks]; exact hn⟩
      refine ⟨?_, .of_eq (by rw [ht.committed])⟩
      rcases hcases with ⟨cell, hcell, -, hst⟩ | ⟨hnone, -, -⟩
      · have hpend : u.store.pending k = some (w, some ⟨set cell.row, s.creatorOf w k, s.current w⟩) := by
          rw [hst]
          exact Store.pending_put_self
        refine ⟨fun v x hv => ?_, fun v x hv => ?_⟩
        · obtain ⟨rfl, -⟩ := Prod.mk.inj (Option.some.inj (hpend.symm.trans hv))
          exact hlock'
        · obtain ⟨rfl, rfl⟩ := Prod.mk.inj (Option.some.inj (hpend.symm.trans hv))
          refine ⟨_, rfl, fun d hd => ?_⟩
          rw [ht.committed, ← hview, hcell] at hd
          obtain rfl := Option.some.inj hd
          exact hset cell (hview.symm.trans hcell)
      · -- a first row: nothing is committed that it would have to follow on
        have hcom : u.store.committed k = none := by
          rw [ht.committed, ← hview]
          exact hnone
        rcases ht.pending k with hp | ⟨-, -, d, hp, -⟩
        · refine ⟨fun v x hv => ?_, fun v x hv => ?_⟩
          · rw [hp] at hv
            obtain ⟨n, hn⟩ := h.held v x hv
            exact ⟨n, by rw [ht.locks]; exact hn⟩
          · rw [hp] at hv
            obtain ⟨d, rfl, -⟩ := h.follows v x hv
            exact ⟨d, rfl, fun c hc => by rw [hcom] at hc; cases hc⟩
        · refine ⟨fun v x hv => ?_, fun v x hv => ?_⟩
          · obtain ⟨rfl, -⟩ := Prod.mk.inj (Option.some.inj (hp.symm.trans hv))
            exact hlock'
          · obtain ⟨rfl, rfl⟩ := Prod.mk.inj (Option.some.inj (hp.symm.trans hv))
            exact ⟨d, rfl, fun c hc => by rw [hcom] at hc; cases hc⟩
  · rcases exec_at he hinbox hindex hwritten with ⟨hp, hc⟩ | ⟨hp, hc⟩
    · refine ⟨⟨fun v x hv => ?_, fun v x hv => ?_⟩, .of_eq hc⟩
      · rw [hp] at hv
        refine (h.held v x hv).exec he ?_
        rintro rfl l rfl
        exact hg.2 ⟨l, rfl⟩ k ⟨x, hv⟩
      · rw [hp] at hv
        rw [hc]
        exact h.follows v x hv
    · exact ⟨h.of_drop hp hc hothers, h.advances hc⟩

theorem LockedRow.close (h : LockedRow D k key R s) (w : Worker) :
    LockedRow D k key R (World.close w s) :=
  h.of_drop (w := w) rfl (.inl rfl) fun _ hv hl => hl.own (close_own hv)

/-- The environment leaves the row to its lock, unless it writes it. -/
theorem LockedRow.env {a : Env} (h : LockedRow D k key R s) (he : env a s = some u)
    (hc : u.store.committed k = s.store.committed k) : LockedRow D k key R u := by
  have hp : ∀ v x, u.store.pending k = some (v, x) → s.store.pending k = some (v, x) :=
    fun v x hv => ((env_own he).held k x).1 hv
  refine ⟨fun v x hv => (h.held v x (hp v x hv)).own (env_own he), fun v x hv => ?_⟩
  rw [hc]
  exact h.follows v x (hp v x hv)

end LockedRow

end BaobabErp
