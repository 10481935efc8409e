/-
# What every call keeps

Statements about all effects at once, from the inversions of `Platform.Steps`:
which row versions a call can make (`exec_at`, `exec_inbox`), what it leaves of
the session (`exec_session`), the engine (`exec_engine`) and the other sessions
(`exec_own`), and what the environment can do (`env_version`, `env_own`).
-/

import BaobabErp.Platform.Steps

namespace BaobabErp

open Python Concurrency World

section

variable {D : Deployment} {w : Worker} {c : Choice} {s t : World}

/-! ### Versions of a row -/

/-- `c` is the committed row at `k` or what an open transaction has made of it. -/
def World.Version (s : World) (k : Key) (c : Cell k) : Prop :=
  s.store.committed k = some c ∨ ∃ w, s.store.pending k = some (w, some c)

/-- The key a keyed statement writes or locks; a `SELECT` does neither. -/
def Eff.written : Eff → Option Key
  | .select _ => none
  | e => e.key?

section Version

variable {k : Key} {d : Cell k}

theorem World.Version.of_store (hs : t.store = s.store) (h : t.Version k d) : s.Version k d := by
  unfold World.Version at h ⊢
  rwa [hs] at h

theorem World.Version.of_rollback (hs : t.store = s.store.rollback w) (h : t.Version k d) :
    s.Version k d := by
  rcases h with h | ⟨v, h⟩
  · rw [hs] at h
    exact .inl h
  · rw [hs, Store.pending_rollback, Store.drop_eq_some_iff] at h
    exact .inr ⟨v, h.1⟩

/-- A commit makes no new versions. -/
theorem World.Version.of_commit (hs : t.store = s.store.commit w) (h : t.Version k d) :
    s.Version k d := by
  rcases h with h | ⟨v, h⟩
  · rw [hs, Store.committed_commit] at h
    by_cases hheld : s.store.Holds w k
    · obtain ⟨x, hx⟩ := hheld
      rw [Store.view_of_pending hx] at h
      exact .inr ⟨w, by rw [hx, h]⟩
    · rw [Store.view_of_not_holds hheld] at h
      exact .inl h
  · rw [hs, Store.pending_commit, Store.drop_eq_some_iff] at h
    exact .inr ⟨v, h.1⟩

theorem World.Version.of_put_ne {l : Key} {x : Option (Cell l)} (hl : k ≠ l)
    (hs : t.store = s.store.put w l x) (h : t.Version k d) : s.Version k d := by
  rcases h with h | ⟨v, h⟩
  · rw [hs] at h
    exact .inl h
  · rw [hs, Store.pending_put_of_ne hl] at h
    exact .inr ⟨v, h⟩

theorem World.Version.of_put {x : Option (Cell k)} (hs : t.store = s.store.put w k x)
    (h : t.Version k d) : x = some d ∨ s.Version k d := by
  rcases h with h | ⟨v, h⟩
  · rw [hs] at h
    exact .inr (.inl h)
  · rw [hs, Store.pending_put_self] at h
    exact .inl (Prod.mk.inj (Option.some.inj h)).2

theorem World.Version.of_touched {l : Key} (ht : Touched w l s t) (hl : k ≠ l)
    (hindex : ∀ i, k ≠ .index i) (h : t.Version k d) : s.Version k d := by
  rcases h with h | ⟨v, h⟩
  · rw [ht.committed] at h
    exact .inl h
  · rcases ht.pending k with hp | ⟨-, hk | ⟨i, hk⟩, -⟩
    · exact .inr ⟨v, hp.symm.trans h⟩
    · exact absurd hk hl
    · exact absurd hk (hindex i)

theorem version_empty (h : World.empty.Version k d) : False := by
  rcases h with h | ⟨v, h⟩ <;> cases h

/-- What a session reads is a version. -/
theorem version_of_cell (h : s.cell w k = some d) : s.Version k d := by
  by_cases hheld : s.store.Holds w k
  · obtain ⟨x, hx⟩ := hheld
    have hview : s.cell w k = x := Store.view_of_pending hx
    exact .inr ⟨w, by rw [hx, ← hview, h]⟩
  · exact .inl ((Store.view_of_not_holds hheld).symm.trans h)

end Version

/-- What happens at a key a call does not write: nothing, or the session's
transaction ends, with or without a commit. -/
def EndsAt (w : Worker) (k : Key) (s t : World) : Prop :=
  (t.store.pending k = s.store.pending k ∧ t.store.committed k = s.store.committed k) ∨
    (t.store.pending k = s.store.drop w k ∧
      (t.store.committed k = s.store.committed k ∨ t.store.committed k = s.store.view w k))

/-- **A call leaves the keys it does not write to the end of its transaction**:
every key but an inbox row and an index entry. -/
theorem exec_at {e : Eff} {r : Except Exc (Ans e)} {k : Key}
    (h : exec D w e c s = some (r, t)) (hinbox : ∀ id, k ≠ .inbox id)
    (hindex : ∀ i, k ≠ .index i) (hw : e.written ≠ some k) : EndsAt w k s t := by
  have same : t.store = s.store → EndsAt w k s t := fun hs => .inl (by rw [hs]; exact ⟨rfl, rfl⟩)
  have aborted : t.store = s.store.rollback w → EndsAt w k s t := fun hs =>
    .inr (by rw [hs]; exact ⟨rfl, .inl rfl⟩)
  have committed : t.store = s.store.commit w → EndsAt w k s t := fun hs =>
    .inr (by rw [hs]; exact ⟨rfl, .inr rfl⟩)
  have claimed : ∀ {id : Nat} {row : InboxRow}, t.store = (s.claimRow w id row).store →
      EndsAt w k s t := fun {id row} hst => by
    have hput : (s.settleRow w id row).store.pending k = s.store.pending k :=
      Store.pending_put_of_ne (hinbox id)
    have hview : (s.settleRow w id row).store.view w k = s.store.view w k :=
      Store.view_put_of_ne (hinbox id)
    refine .inr ⟨?_, .inr ?_⟩
    · rw [hst]
      show (s.settleRow w id row).store.drop w k = _
      unfold Store.drop
      rw [hput]
    · rw [hst]
      exact hview
  have keyed : ∀ l, e.written = some l → e.key? = some l → EndsAt w k s t := fun l hl hkey => by
    rcases exec_keyed hkey h with ⟨-, rfl⟩ | ht
    · exact aborted rfl
    · rcases ht.pending k with hp | ⟨-, rfl | ⟨i, rfl⟩, -⟩
      · exact .inl ⟨hp, by rw [ht.committed]⟩
      · exact absurd hl hw
      · exact absurd rfl (hindex i)
  have quiet : e.quiet = true → EndsAt w k s t := fun hq => same (exec_quiet hq h).1
  cases e with
  | claim ty lease =>
    obtain ⟨-, -, -, ⟨_, id, cell, -, -, -, -, -, hst, -⟩ | ⟨-, -, hst⟩⟩ := exec_claim h
    · exact claimed hst
    · rcases hst with hst | hst | ⟨id, cell, -, -, hst⟩
      · exact committed hst
      · exact aborted hst
      · exact claimed hst
  | settle claim st =>
    rcases exec_settle h with ⟨-, rfl⟩ | ⟨-, rfl⟩ | ⟨cell, -, -, -, -, rfl⟩
    · exact aborted rfl
    · exact same rfl
    · exact .inl ⟨Store.pending_put_of_ne (hinbox _), rfl⟩
  | select l =>
    rcases exec_select h with ⟨-, rfl⟩ | ⟨-, rfl⟩
    · exact aborted rfl
    · exact same seeRow_store
  | commit =>
    rcases exec_commit h with rfl | ⟨-, rfl⟩
    · exact committed rfl
    · exact aborted rfl
  | rollback =>
    obtain rfl := exec_rollback h
    exact aborted rfl
  | tryLock key =>
    rcases exec_tryLock h with ⟨-, rfl⟩ | ⟨-, rfl⟩ | ⟨-, n, rfl, -⟩
    · exact aborted rfl
    · exact same rfl
    · exact same rfl
  | unlock key =>
    rcases exec_unlock h with ⟨-, rfl⟩ | rfl
    · exact aborted rfl
    · exact same release_same.1
  | createRecord σ fields =>
    rcases (exec_createRecord h).2 with ⟨rfl, -⟩ | ⟨-, rfl⟩ <;> exact same rfl
  | updateRecord σ id fields =>
    rcases exec_updateRecord h with rfl | rfl <;> exact same rfl
  | selectForUpdate l => exact keyed l rfl rfl
  | insert l row => exact keyed l rfl rfl
  | insertNew l row => exact keyed l rfl rfl
  | update l set => exact keyed l rfl rfl
  | upsert l row set => exact keyed l rfl rfl
  | query σ table value => exact quiet rfl
  | defaultGroups σ => exact quiet rfl
  | getRecord σ table id => exact quiet rfl
  | executeProcess σ p ps => exact quiet rfl
  | now => exact quiet rfl
  | uuid4 => exact quiet rfl
  | authorityFor claim => exact quiet rfl
  | assess op => exact quiet rfl

theorem EndsAt.version {k : Key} {d : Cell k} (h : EndsAt w k s t) (hd : t.Version k d) :
    s.Version k d := by
  rcases h with ⟨hp, hc⟩ | ⟨hp, hc⟩
  · unfold World.Version at hd ⊢
    rwa [hp, hc] at hd
  · rcases hd with hd | ⟨v, hd⟩
    · rcases hc with hc | hc
      · exact .inl (hc.symm.trans hd)
      · exact version_of_cell (w := w) (hc.symm.trans hd)
    · rw [hp, Store.drop_eq_some_iff] at hd
      exact .inr ⟨v, hd.1⟩

/-- The versions a call does not write were there before. -/
theorem exec_version {e : Eff} {r : Except Exc (Ans e)} {k : Key} {d : Cell k}
    (h : exec D w e c s = some (r, t)) (hinbox : ∀ id, k ≠ .inbox id)
    (hindex : ∀ i, k ≠ .index i) (hw : e.written ≠ some k) (hd : t.Version k d) :
    s.Version k d :=
  (exec_at h hinbox hindex hw).version hd

/-- A row that only ever is inserted: while a transaction holds it, it is not there. -/
def InsertOnly (s : World) (k : Key) : Prop :=
  ∀ w x, s.store.pending k = some (w, x) → s.store.committed k = none

/-- **A row that is only inserted stays as it was committed.** -/
theorem exec_insertOnly {e : Eff} {r : Except Exc (Ans e)} {k : Key}
    (h : exec D w e c s = some (r, t)) (hinbox : ∀ id, k ≠ .inbox id)
    (hindex : ∀ i, k ≠ .index i) (hw : e.written = some k → ∃ row, e = .insert k row)
    (hk : InsertOnly s k) :
    InsertOnly t k ∧ ∀ d, s.store.committed k = some d → t.store.committed k = some d := by
  by_cases hwritten : e.written = some k
  · obtain ⟨row, rfl⟩ := hw hwritten
    rcases exec_insert h with ⟨-, rfl⟩ | ⟨-, hc, -, -, -, ht⟩
    · refine ⟨fun v x hv => ?_, fun d hd => hd⟩
      exact hk v x (Store.drop_eq_some_iff.1 hv).1
    · refine ⟨fun v x hv => ?_, fun d hd => by rw [ht.committed]; exact hd⟩
      rw [ht.committed]
      -- the inserting session saw no row, in its own transaction or committed
      by_cases hheld : s.store.Holds w k
      · obtain ⟨y, hy⟩ := hheld
        exact hk w y hy
      · exact (Store.view_of_not_holds hheld).symm.trans hc
  · rcases exec_at h hinbox hindex hwritten with ⟨hp, hc⟩ | ⟨hp, hc⟩
    · refine ⟨fun v x hv => ?_, fun d hd => hc.trans hd⟩
      rw [hc]
      exact hk v x (hp.symm.trans hv)
    · have hview : ∀ d, s.store.committed k = some d → s.store.view w k = some d := by
        intro d hd
        rw [Store.view_of_not_holds, hd]
        rintro ⟨x, hx⟩
        rw [hk w x hx] at hd
        cases hd
      refine ⟨fun v x hv => ?_, fun d hd => ?_⟩
      · rw [hp, Store.drop_eq_some_iff] at hv
        have hnone := hk v x hv.1
        rcases hc with hc | hc
        · exact hc.trans hnone
        · rw [hc, Store.view_of_not_holds, hnone]
          exact fun hheld => hv.2 (Store.holds_unique hheld ⟨x, hv.1⟩).symm
      · rcases hc with hc | hc
        · exact hc.trans hd
        · exact hc.trans (hview d hd)

/-- The columns of an inbox row that never change: the event it received. -/
structure SameEvent (a b : InboxRow) : Prop where
  eventId : a.eventId = b.eventId
  eventType : a.eventType = b.eventType
  tenantId : a.tenantId = b.tenantId
  data : a.data = b.data
  receivedAt : a.receivedAt = b.receivedAt

/-- **Claiming and settling leave the event of a row alone.** -/
theorem exec_inbox {e : Eff} {r : Except Exc (Ans e)} {id : Nat} {d : Cell (.inbox id)}
    (h : exec D w e c s = some (r, t)) (hw : e.written ≠ some (.inbox id))
    (hd : t.Version (.inbox id) d) :
    ∃ d', s.Version (.inbox id) d' ∧ SameEvent d.row d'.row := by
  have same : s.Version (.inbox id) d →
      ∃ d', s.Version (.inbox id) d' ∧ SameEvent d.row d'.row := fun h =>
    ⟨d, h, rfl, rfl, rfl, rfl, rfl⟩
  have keyed : ∀ l, e.written = some l → e.key? = some l → s.Version (.inbox id) d :=
    fun l hl hkey => by
      rcases exec_keyed hkey h with ⟨-, rfl⟩ | ht
      · exact hd.of_rollback rfl
      · exact hd.of_touched ht (by rintro rfl; exact hw hl) fun _ => by rintro ⟨⟩
  have quiet : e.quiet = true → s.Version (.inbox id) d := fun hq =>
    hd.of_store (exec_quiet hq h).1
  -- a row put at some inbox key keeps the event of the version it was made from
  have put : ∀ {id' : Nat} {cell : Cell (.inbox id')} {row : InboxRow} {u : World},
      u.store = s.store.put w (.inbox id') (some ⟨row, none, none⟩) →
      s.cell w (.inbox id') = some cell → SameEvent row cell.row → u.Version (.inbox id) d →
        ∃ d', s.Version (.inbox id) d' ∧ SameEvent d.row d'.row := by
    intro id' cell row u hu hc hsame hdu
    by_cases hid : id = id'
    · subst hid
      rcases hdu.of_put hu with he | hv
      · obtain rfl := Option.some.inj he
        exact ⟨cell, version_of_cell hc, hsame⟩
      · exact same hv
    · exact same (hdu.of_put_ne (fun he => hid (Key.inbox.inj he)) hu)
  have claimed : ∀ {id' : Nat} {cell : Cell (.inbox id')} {lease : Int},
      s.cell w (.inbox id') = some cell →
      t.store = (s.claimRow w id' (claimedRow cell.row w lease c.now)).store →
        ∃ d', s.Version (.inbox id) d' ∧ SameEvent d.row d'.row := fun {id' cell lease} hc hst =>
    put (u := s.settleRow w id' (claimedRow cell.row w lease c.now)) rfl hc
      ⟨rfl, rfl, rfl, rfl, rfl⟩ (hd.of_commit hst)
  cases e with
  | claim ty lease =>
    obtain ⟨-, -, -, ⟨_, id', cell, -, hc, -, -, -, hst, -⟩ | ⟨-, -, hst⟩⟩ := exec_claim h
    · exact claimed hc hst
    · rcases hst with hst | hst | ⟨id', cell, hc, -, hst⟩
      · exact same (hd.of_commit hst)
      · exact same (hd.of_rollback hst)
      · exact claimed hc hst
  | settle claim st =>
    rcases exec_settle h with ⟨-, rfl⟩ | ⟨-, rfl⟩ | ⟨cell, -, -, hc, -, rfl⟩
    · exact same (hd.of_rollback rfl)
    · exact same hd
    · exact put (u := s.settleRow w claim.rowId (settledRow cell.row claim st c.now)) rfl hc
        ⟨rfl, rfl, rfl, rfl, rfl⟩ hd
  | select l =>
    rcases exec_select h with ⟨-, rfl⟩ | ⟨-, rfl⟩
    · exact same (hd.of_rollback rfl)
    · exact same (hd.of_store seeRow_store)
  | commit =>
    rcases exec_commit h with rfl | ⟨-, rfl⟩
    · exact same (hd.of_commit rfl)
    · exact same (hd.of_rollback rfl)
  | rollback =>
    obtain rfl := exec_rollback h
    exact same (hd.of_rollback rfl)
  | tryLock key =>
    rcases exec_tryLock h with ⟨-, rfl⟩ | ⟨-, rfl⟩ | ⟨-, n, rfl, -⟩
    · exact same (hd.of_rollback rfl)
    · exact same hd
    · exact same hd
  | unlock key =>
    rcases exec_unlock h with ⟨-, rfl⟩ | rfl
    · exact same (hd.of_rollback rfl)
    · exact same (hd.of_store release_same.1)
  | createRecord σ fields =>
    rcases (exec_createRecord h).2 with ⟨rfl, -⟩ | ⟨-, rfl⟩ <;> exact same hd
  | updateRecord σ id fields =>
    rcases exec_updateRecord h with rfl | rfl <;> exact same hd
  | selectForUpdate l => exact same (keyed l rfl rfl)
  | insert l row => exact same (keyed l rfl rfl)
  | insertNew l row => exact same (keyed l rfl rfl)
  | update l set => exact same (keyed l rfl rfl)
  | upsert l row set => exact same (keyed l rfl rfl)
  | query σ table value => exact same (quiet rfl)
  | defaultGroups σ => exact same (quiet rfl)
  | getRecord σ table id => exact same (quiet rfl)
  | executeProcess σ p ps => exact same (quiet rfl)
  | now => exact same (quiet rfl)
  | uuid4 => exact same (quiet rfl)
  | authorityFor claim => exact same (quiet rfl)
  | assess op => exact same (quiet rfl)

/-- **Which calls concern the session itself**: only a claim changes what it
executes, only the two lock calls change the locks. -/
theorem exec_session {e : Eff} {r : Except Exc (Ans e)} (h : exec D w e c s = some (r, t)) :
    ((∃ ty lease, e = .claim ty lease) ∨ t.current = s.current) ∧
      ((∃ key, e = .tryLock key ∨ e = .unlock key) ∨ t.locks = s.locks) := by
  have keyed : ∀ k, e.key? = some k → t.current = s.current ∧ t.locks = s.locks := fun k hk => by
    rcases exec_keyed hk h with ⟨-, rfl⟩ | ht
    · exact ⟨rfl, rfl⟩
    · exact ⟨ht.current, ht.locks⟩
  have both : t.current = s.current ∧ t.locks = s.locks →
      ((∃ ty lease, e = .claim ty lease) ∨ t.current = s.current) ∧
        ((∃ key, e = .tryLock key ∨ e = .unlock key) ∨ t.locks = s.locks) := fun h =>
    ⟨.inr h.1, .inr h.2⟩
  have quiet : e.quiet = true → t.current = s.current ∧ t.locks = s.locks := fun hq => by
    obtain ⟨-, hl, -, hc⟩ := exec_quiet hq h
    exact ⟨hc, hl⟩
  cases e with
  | claim ty lease => exact ⟨.inl ⟨ty, lease, rfl⟩, .inr (exec_claim h).1⟩
  | settle claim st =>
    rcases exec_settle h with ⟨-, rfl⟩ | ⟨-, rfl⟩ | ⟨cell, -, -, -, -, rfl⟩ <;> exact both ⟨rfl, rfl⟩
  | commit =>
    rcases exec_commit h with rfl | ⟨-, rfl⟩ <;> exact both ⟨rfl, rfl⟩
  | rollback =>
    obtain rfl := exec_rollback h
    exact both ⟨rfl, rfl⟩
  | tryLock key =>
    refine ⟨.inr ?_, .inl ⟨key, .inl rfl⟩⟩
    rcases exec_tryLock h with ⟨-, rfl⟩ | ⟨-, rfl⟩ | ⟨-, n, rfl, -⟩ <;> rfl
  | unlock key =>
    refine ⟨.inr ?_, .inl ⟨key, .inr rfl⟩⟩
    rcases exec_unlock h with ⟨-, rfl⟩ | rfl
    · rfl
    · exact release_same.2.2
  | createRecord σ fields =>
    rcases (exec_createRecord h).2 with ⟨rfl, -⟩ | ⟨-, rfl⟩ <;> exact both ⟨rfl, rfl⟩
  | updateRecord σ id fields =>
    rcases exec_updateRecord h with rfl | rfl <;> exact both ⟨rfl, rfl⟩
  | select l => exact both (keyed l rfl)
  | selectForUpdate l => exact both (keyed l rfl)
  | insert l row => exact both (keyed l rfl)
  | insertNew l row => exact both (keyed l rfl)
  | update l set => exact both (keyed l rfl)
  | upsert l row set => exact both (keyed l rfl)
  | query σ table value => exact both (quiet rfl)
  | defaultGroups σ => exact both (quiet rfl)
  | getRecord σ table id => exact both (quiet rfl)
  | executeProcess σ p ps => exact both (quiet rfl)
  | now => exact both (quiet rfl)
  | uuid4 => exact both (quiet rfl)
  | authorityFor claim => exact both (quiet rfl)
  | assess op => exact both (quiet rfl)

/-! ### Engine records -/

/-- What an update leaves of a record. -/
structure SameRecord (a b : EngineRecord) : Prop where
  id : a.id = b.id
  home : a.home = b.home
  creator : a.creator = b.creator
  table : a.fields.table = b.fields.table
  lookup : a.fields.lookup = b.fields.lookup

theorem SameRecord.refl (a : EngineRecord) : SameRecord a a := ⟨rfl, rfl, rfl, rfl, rfl⟩

/-- **The engine grows by the record a call creates, or keeps its records.** -/
theorem exec_engine {e : Eff} {r : Except Exc (Ans e)} (h : exec D w e c s = some (r, t)) :
    (∃ f : EngineRecord → EngineRecord, t.engine = s.engine.map f ∧ ∀ q, SameRecord (f q) q) ∨
      ∃ σ fields, e = .createRecord σ fields ∧
        t.engine = ⟨c.id, σ, fields, s.current w⟩ :: s.engine := by
  have same : t.engine = s.engine →
      ∃ f : EngineRecord → EngineRecord, t.engine = s.engine.map f ∧ ∀ q, SameRecord (f q) q :=
    fun he => ⟨fun q => q, by rw [he, List.map_id'], fun q => .refl q⟩
  have keyed : ∀ l, e.key? = some l → t.engine = s.engine := fun l hl => by
    rcases exec_keyed hl h with ⟨-, rfl⟩ | ht
    · rfl
    · exact ht.engine
  have quiet : e.quiet = true → t.engine = s.engine := fun hq => (exec_quiet hq h).2.2.1
  cases e with
  | claim ty lease => exact .inl (same (exec_claim h).2.1)
  | settle claim st =>
    rcases exec_settle h with ⟨-, rfl⟩ | ⟨-, rfl⟩ | ⟨cell, -, -, -, -, rfl⟩ <;>
      exact .inl (same rfl)
  | commit =>
    rcases exec_commit h with rfl | ⟨-, rfl⟩ <;> exact .inl (same rfl)
  | rollback =>
    obtain rfl := exec_rollback h
    exact .inl (same rfl)
  | tryLock key =>
    rcases exec_tryLock h with ⟨-, rfl⟩ | ⟨-, rfl⟩ | ⟨-, n, rfl, -⟩ <;> exact .inl (same rfl)
  | unlock key =>
    rcases exec_unlock h with ⟨-, rfl⟩ | rfl
    · exact .inl (same rfl)
    · exact .inl (same release_same.2.1)
  | createRecord σ fields =>
    rcases (exec_createRecord h).2 with ⟨rfl, -⟩ | ⟨-, rfl⟩
    · exact .inr ⟨σ, fields, rfl, rfl⟩
    · exact .inl (same rfl)
  | updateRecord σ id fields =>
    rcases exec_updateRecord h with rfl | rfl
    · refine .inl ⟨_, rfl, fun q => ?_⟩
      split
      · exact ⟨rfl, rfl, rfl, Fields.table_merge _ _, Fields.lookup_merge _ _⟩
      · exact .refl q
    · exact .inl (same rfl)
  | select l => exact .inl (same (keyed l rfl))
  | selectForUpdate l => exact .inl (same (keyed l rfl))
  | insert l row => exact .inl (same (keyed l rfl))
  | insertNew l row => exact .inl (same (keyed l rfl))
  | update l set => exact .inl (same (keyed l rfl))
  | upsert l row set => exact .inl (same (keyed l rfl))
  | query σ table value => exact .inl (same (quiet rfl))
  | defaultGroups σ => exact .inl (same (quiet rfl))
  | getRecord σ table id => exact .inl (same (quiet rfl))
  | executeProcess σ p ps => exact .inl (same (quiet rfl))
  | now => exact .inl (same (quiet rfl))
  | uuid4 => exact .inl (same (quiet rfl))
  | authorityFor claim => exact .inl (same (quiet rfl))
  | assess op => exact .inl (same (quiet rfl))

/-! ### What another session's call leaves alone -/

/-- The rows and locks `w` holds and the claim it executes are the same in `s` and `t`. -/
structure OwnSame (w : Worker) (s t : World) : Prop where
  held : ∀ k x, t.store.pending k = some (w, x) ↔ s.store.pending k = some (w, x)
  current : t.current w = s.current w
  locks : ∀ h n, t.locks h = some (w, n) ↔ s.locks h = some (w, n)

theorem OwnSame.holds {v : Worker} (h : OwnSame v s t) (k : Key) :
    t.store.Holds v k ↔ s.store.Holds v k :=
  exists_congr fun x => h.held k x

theorem OwnSame.clean {v : Worker} (h : OwnSame v s t) : t.store.Clean v ↔ s.store.Clean v :=
  forall_congr' fun k => not_congr (h.holds k)

section Own

variable {v : Worker}

theorem ownSame_of_drop (hv : v ≠ w) (hp : t.store.pending = s.store.drop w)
    (hc : t.current v = s.current v)
    (hl : ∀ h n, t.locks h = some (v, n) ↔ s.locks h = some (v, n)) : OwnSame v s t := by
  refine ⟨fun k x => ?_, hc, hl⟩
  rw [hp, Store.drop_eq_some_iff]
  exact ⟨fun h => h.1, fun h => ⟨h, hv⟩⟩

theorem ownSame_abort (hv : v ≠ w) : OwnSame v s (s.abort w) :=
  ownSame_of_drop hv rfl rfl fun _ _ => .rfl

theorem Touched.ownSame {k : Key} (h : Touched w k s t) (hv : v ≠ w) : OwnSame v s t := by
  refine ⟨fun l x => ?_, by rw [h.current], fun _ _ => by rw [h.locks]⟩
  rcases h.pending l with hl | ⟨hf, -, c, hc, -⟩
  · rw [hl]
  · rw [hc]
    constructor
    · intro he
      exact absurd (Prod.mk.inj (Option.some.inj he)).1.symm hv
    · intro he
      exact absurd (Store.free_iff.1 hf v ⟨x, he⟩) hv

/-- One write of `w`, and perhaps its commit, where `w` could write. -/
theorem ownSame_put {k : Key} {x : Option (Cell k)} (hv : v ≠ w) (hf : s.store.free w k = true)
    (hp : t.store.pending = (s.store.put w k x).pending ∨
      t.store.pending = (s.store.put w k x).drop w)
    (hc : t.current v = s.current v) (hl : t.locks = s.locks) : OwnSame v s t := by
  have key : ∀ l y, (s.store.put w k x).pending l = some (v, y) ↔
      s.store.pending l = some (v, y) := by
    intro l y
    by_cases hl : l = k
    · subst hl
      rw [Store.pending_put_self]
      constructor
      · intro he
        exact absurd (Prod.mk.inj (Option.some.inj he)).1.symm hv
      · intro he
        exact absurd (Store.free_iff.1 hf v ⟨y, he⟩) hv
    · rw [Store.pending_put_of_ne hl]
  refine ⟨fun l y => ?_, hc, fun _ _ => by rw [hl]⟩
  rcases hp with hp | hp
  · rw [hp, key]
  · rw [hp, Store.drop_eq_some_iff, key]
    exact ⟨fun h => h.1, fun h => ⟨h, hv⟩⟩

/-- Taking a lock that is free or one's own takes none from another session. -/
theorem acquire_locks {h : Int} {n : Nat} (hv : v ≠ w)
    (hl : ∀ u m, s.locks h = some (u, m) → u = w ∧ m = n) (k : Int) (m : Nat) :
    (s.acquire w h n).locks k = some (v, m) ↔ s.locks k = some (v, m) := by
  show Function.update s.locks h (some (w, n + 1)) k = some (v, m) ↔ _
  by_cases hk : k = h
  · subst hk
    rw [Function.update_self]
    constructor
    · intro he
      exact absurd (Prod.mk.inj (Option.some.inj he)).1.symm hv
    · intro he
      exact absurd (hl v m he).1 hv
  · rw [Function.update_of_ne hk]

/-- Giving a lock back leaves the locks of the others. -/
theorem release_locks {h : Int} (hv : v ≠ w) (k : Int) (m : Nat) :
    (s.release w h).locks k = some (v, m) ↔ s.locks k = some (v, m) := by
  unfold World.release
  split
  · rename_i u n hu
    split
    · rename_i huw
      show Function.update s.locks h (if n ≤ 1 then none else some (u, n - 1)) k = some (v, m) ↔ _
      by_cases hk : k = h
      · subst hk
        rw [Function.update_self, hu]
        constructor
        · intro he
          split at he
          · cases he
          · exact absurd ((Prod.mk.inj (Option.some.inj he)).1.symm.trans huw) hv
        · intro he
          exact absurd ((Prod.mk.inj (Option.some.inj he)).1.symm.trans huw) hv
      · rw [Function.update_of_ne hk]
    · rfl
  · rfl

/-- **A call of one session leaves every other session's rows and claim alone.** -/
theorem exec_own {e : Eff} {r : Except Exc (Ans e)} (hv : v ≠ w)
    (h : exec D w e c s = some (r, t)) : OwnSame v s t := by
  have keyed : ∀ k, e.key? = some k → OwnSame v s t := fun k hk => by
    rcases exec_keyed hk h with ⟨-, rfl⟩ | ht
    · exact ownSame_abort hv
    · exact ht.ownSame hv
  have quiet : e.quiet = true → OwnSame v s t := fun hq => by
    obtain ⟨hs, hl, -, hc⟩ := exec_quiet hq h
    exact ⟨fun k x => by rw [hs], by rw [hc], fun _ _ => by rw [hl]⟩
  cases e with
  | claim ty lease =>
    obtain ⟨hl, -, -, hcl⟩ := exec_claim h
    rcases hcl with ⟨claim, id, cell, -, -, hf, -, -, hst, hcur⟩ | ⟨-, hcur, hst⟩
    · have hc : t.current v = s.current v := by rw [hcur, Function.update_of_ne hv]
      exact ownSame_put hv hf (.inr (by rw [hst]; rfl)) hc hl
    · have hc : t.current v = s.current v := by rw [hcur, Function.update_of_ne hv]
      rcases hst with hst | hst | ⟨id, cell, -, hf, hst⟩
      · exact ownSame_of_drop hv (by rw [hst]; rfl) hc fun _ _ => by rw [hl]
      · exact ownSame_of_drop hv (by rw [hst]; rfl) hc fun _ _ => by rw [hl]
      · exact ownSame_put hv hf (.inr (by rw [hst]; rfl)) hc hl
  | settle claim st =>
    rcases exec_settle h with ⟨-, rfl⟩ | ⟨-, rfl⟩ | ⟨cell, -, hf, -, -, rfl⟩
    · exact ownSame_abort hv
    · exact ⟨fun _ _ => .rfl, rfl, fun _ _ => .rfl⟩
    · exact ownSame_put hv hf (.inl rfl) rfl rfl
  | commit =>
    rcases exec_commit h with rfl | ⟨-, rfl⟩
    · exact ownSame_of_drop hv rfl rfl fun _ _ => .rfl
    · exact ownSame_abort hv
  | rollback =>
    obtain rfl := exec_rollback h
    exact ownSame_abort hv
  | tryLock key =>
    rcases exec_tryLock h with ⟨-, rfl⟩ | ⟨-, rfl⟩ | ⟨-, n, rfl, hl⟩
    · exact ownSame_abort hv
    · exact ⟨fun _ _ => .rfl, rfl, fun _ _ => .rfl⟩
    · exact ⟨fun _ _ => .rfl, rfl, acquire_locks hv hl⟩
  | unlock key =>
    rcases exec_unlock h with ⟨-, rfl⟩ | rfl
    · exact ownSame_abort hv
    · obtain ⟨hs, -, hc⟩ := release_same (s := s) (w := w) (h := D.hashes.hashtext key)
      exact ⟨fun k x => by rw [hs], by rw [hc], release_locks hv⟩
  | createRecord σ fields =>
    rcases (exec_createRecord h).2 with ⟨rfl, -⟩ | ⟨-, rfl⟩ <;>
      exact ⟨fun _ _ => .rfl, rfl, fun _ _ => .rfl⟩
  | updateRecord σ id fields =>
    rcases exec_updateRecord h with rfl | rfl <;>
      exact ⟨fun _ _ => .rfl, rfl, fun _ _ => .rfl⟩
  | select k => exact keyed k rfl
  | selectForUpdate k => exact keyed k rfl
  | insert k row => exact keyed k rfl
  | insertNew k row => exact keyed k rfl
  | update k set => exact keyed k rfl
  | upsert k row set => exact keyed k rfl
  | query σ table value => exact quiet rfl
  | defaultGroups σ => exact quiet rfl
  | getRecord σ table id => exact quiet rfl
  | executeProcess σ p ps => exact quiet rfl
  | now => exact quiet rfl
  | uuid4 => exact quiet rfl
  | authorityFor claim => exact quiet rfl
  | assess op => exact quiet rfl

theorem close_own (hv : v ≠ w) : OwnSame v s (World.close w s) := by
  refine ownSame_of_drop hv rfl ?_ fun h n => ?_
  · show Function.update s.current w none v = s.current v
    rw [Function.update_of_ne hv]
  · unfold World.close
    dsimp only
    cases hl : s.locks h with
    | none => rfl
    | some p =>
      obtain ⟨u, m⟩ := p
      by_cases hu : u = w
      · dsimp only
        rw [if_pos hu]
        constructor
        · intro he
          cases he
        · intro he
          exact absurd ((Prod.mk.inj (Option.some.inj he)).1.symm.trans hu) hv
      · dsimp only
        rw [if_neg hu]

end Own

/-! ### The environment -/

theorem env_cases {a : Env} (h : env a s = some t) :
    t.locks = s.locks ∧ t.current = s.current ∧ t.accesses = s.accesses ∧
      ((t.engine = s.engine ∧ t.store.pending = s.store.pending ∧
          ∃ (k : Key) (row : Option (Row k)), s.store.pending k = none ∧
            t.store.committed = Function.update s.store.committed k (row.map fun r =>
              ⟨r, (s.store.committed k).elim none Cell.creator, none⟩) ∧
            ((∃ id eid ty ten data corr at_, a = .receive id eid ty ten data corr at_ ∧
                s.store.committed (.inbox id) = none ∧ k = .inbox id ∧
                HEq row (some (receivedRow eid ty ten data corr at_))) ∨
              (∃ tenant le row', a = .remap tenant le row' ∧ k = .tenantMapping tenant le ∧
                HEq row row') ∨
              (∃ ei le kind cid row', a = .bootstrap ei le kind cid row' ∧
                k = .masterData ei le kind cid ∧ HEq row (some row')))) ∨
        (∃ q, a = .foreign q ∧ (∀ p ∈ s.engine, p.sameIdentity q = false) ∧ t.store = s.store ∧
          t.engine = { q with creator := none } :: s.engine)) := by
  have replaced : ∀ {k : Key} {row : Option (Row k)}, s.replace k row = some t →
      s.store.pending k = none ∧ t = { s with store := { s.store with
        committed := Function.update s.store.committed k (row.map fun r =>
          ⟨r, (s.store.committed k).elim none Cell.creator, none⟩) } } := by
    intro k row hr
    unfold World.replace at hr
    split at hr
    · cases hr
    · rename_i hp
      exact ⟨hp, (Option.some.inj hr).symm⟩
  cases a with
  | receive id eid ty ten data corr at_ =>
    simp only [env] at h
    split_ifs at h with hc
    obtain ⟨hp, rfl⟩ := replaced h
    exact ⟨rfl, rfl, rfl, .inl ⟨rfl, rfl, _, _, hp, rfl,
      .inl ⟨id, eid, ty, ten, data, corr, at_, rfl, by simpa using hc, rfl, .rfl⟩⟩⟩
  | remap tenant le row =>
    obtain ⟨hp, rfl⟩ := replaced h
    exact ⟨rfl, rfl, rfl, .inl ⟨rfl, rfl, _, _, hp, rfl,
      .inr (.inl ⟨tenant, le, row, rfl, rfl, .rfl⟩)⟩⟩
  | bootstrap ei le kind cid row =>
    obtain ⟨hp, rfl⟩ := replaced h
    exact ⟨rfl, rfl, rfl, .inl ⟨rfl, rfl, _, _, hp, rfl,
      .inr (.inr ⟨ei, le, kind, cid, row, rfl, rfl, .rfl⟩)⟩⟩
  | foreign q =>
    simp only [env] at h
    split_ifs at h with hq
    obtain rfl := (Option.some.inj h).symm
    refine ⟨rfl, rfl, rfl, .inr ⟨q, rfl, fun p hp => ?_, rfl, rfl⟩⟩
    by_contra hne
    exact hq (List.any_eq_true.2 ⟨p, hp, by simpa using hne⟩)

/-- **The versions the environment makes**: of a received event, a tenant mapping
or a master-data mapping. -/
theorem env_version {a : Env} {k : Key} {d : Cell k} (h : env a s = some t)
    (hd : t.Version k d) :
    s.Version k d ∨
      (∃ id eid ty ten data corr at_, a = .receive id eid ty ten data corr at_ ∧ k = .inbox id ∧
        HEq d.row (receivedRow eid ty ten data corr at_)) ∨
      (∃ tenant le row, a = .remap tenant le (some row) ∧ k = .tenantMapping tenant le ∧
        HEq d.row row) ∨
      (∃ ei le kind cid row, a = .bootstrap ei le kind cid row ∧
        k = .masterData ei le kind cid ∧ HEq d.row row) := by
  obtain ⟨-, -, -, ⟨-, hpend, l, row, -, hcom, hk⟩ | ⟨_, -, -, hst, -⟩⟩ := env_cases h
  · rcases hd with hd | ⟨v, hd⟩
    · by_cases hkl : k = l
      · subst hkl
        rw [hcom, Function.update_self] at hd
        obtain ⟨r, rfl, rfl⟩ := Option.map_eq_some_iff.1 hd
        rcases hk with ⟨id, eid, ty, ten, data, corr, at_, ha, -, rfl, hrow⟩ |
          ⟨tenant, le, row', ha, rfl, hrow⟩ | ⟨ei, le, kind, cid, row', ha, rfl, hrow⟩
        · obtain rfl := Option.some.inj (eq_of_heq hrow)
          exact .inr (.inl ⟨id, eid, ty, ten, data, corr, at_, ha, rfl, .rfl⟩)
        · obtain rfl := eq_of_heq hrow
          exact .inr (.inr (.inl ⟨tenant, le, r, ha, rfl, .rfl⟩))
        · obtain rfl := Option.some.inj (eq_of_heq hrow)
          exact .inr (.inr (.inr ⟨ei, le, kind, cid, r, ha, rfl, .rfl⟩))
      · rw [hcom, Function.update_of_ne hkl] at hd
        exact .inl (.inl hd)
    · rw [hpend] at hd
      exact .inl (.inr ⟨v, hd⟩)
  · exact .inl (hd.of_store hst)

/-- The environment writes received events, tenant mappings and master data only. -/
theorem env_other {a : Env} {k : Key} (h : env a s = some t) (hinbox : ∀ id, k ≠ .inbox id)
    (hmapping : ∀ tenant le, k ≠ .tenantMapping tenant le)
    (hdata : ∀ ei le kind cid, k ≠ .masterData ei le kind cid) :
    t.store.pending k = s.store.pending k ∧ t.store.committed k = s.store.committed k := by
  obtain ⟨-, -, -, ⟨-, hpend, l, row, -, hcom, hl⟩ | ⟨_, -, -, hst, -⟩⟩ := env_cases h
  · refine ⟨by rw [hpend], ?_⟩
    rw [hcom, Function.update_of_ne]
    rintro rfl
    rcases hl with ⟨id, _, _, _, _, _, _, -, -, hl, -⟩ | ⟨tn, le, _, -, hl, -⟩ |
      ⟨ei, le, kind, cid, _, -, hl, -⟩
    · exact hinbox id hl
    · exact hmapping tn le hl
    · exact hdata ei le kind cid hl
  · rw [hst]
    exact ⟨rfl, rfl⟩

theorem env_own {a : Env} {v : Worker} (h : env a s = some t) : OwnSame v s t := by
  obtain ⟨hl, hc, -, ⟨-, hp, -⟩ | ⟨q, -, -, hs, -⟩⟩ := env_cases h
  · exact ⟨fun k x => by rw [hp], by rw [hc], fun _ _ => by rw [hl]⟩
  · exact ⟨fun k x => by rw [hs], by rw [hc], fun _ _ => by rw [hl]⟩

end

end BaobabErp
