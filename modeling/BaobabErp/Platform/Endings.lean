/-
# What a call does to the rows as a whole

`exec_at` says what a call does at one key.  What is said of several rows at once
(an order and the events that announce it) asks for all keys together: a call leaves
the store, rolls the session's transaction back, commits it, or writes one row
(`exec_ends`).  Inbox rows and index entries are left out: no such statement is
about them.
-/

import BaobabErp.Platform.Alone

namespace BaobabErp

open Python Concurrency World

/-- The same rows, but for inbox rows and index entries. -/
def Agrees (σ τ : Store Worker Cell) : Prop :=
  ∀ k, (∀ id, k ≠ .inbox id) → (∀ i, k ≠ .index i) →
    τ.committed k = σ.committed k ∧ τ.pending k = σ.pending k

/-- The row a statement leaves at `k`, where `old` is what its session saw there. -/
def Eff.Leaves (c : Choice) (k : Key) (old : Option (Cell k)) (new : Row k) : Eff → Prop
  | .selectForUpdate _ => ∃ cell, old = some cell ∧ new = cell.row
  | .insert l row => old = none ∧ ∃ h : l = k, new = h ▸ row c.defaults
  | .insertNew l row => old = none ∧ ∃ h : l = k, new = h ▸ row
  | .update l set => ∃ (cell : Cell k) (h : l = k), old = some cell ∧ new = (h ▸ set) cell.row
  | .upsert l row set => (old = none ∧ ∃ h : l = k, new = h ▸ row c.defaults) ∨
      ∃ (cell : Cell k) (h : l = k), old = some cell ∧ new = (h ▸ set) cell.row
  | _ => False

/-- **What a call does to the rows.** -/
inductive Ends (w : Worker) (e : Eff) (c : Choice) (s t : World) : Prop
  | same (h : Agrees s.store t.store)
  | rolledBack (h : Agrees (s.store.rollback w) t.store)
  | committed (he : commits e = true) (h : Agrees (s.store.commit w) t.store)
  | wrote (k : Key) (d : Cell k) (he : e.written = some k) (hf : s.store.free w k = true)
      (hd : e.Leaves c k (s.cell w k) d.row) (h : Agrees (s.store.put w k (some d)) t.store)

section

variable {D : Deployment} {w : Worker} {c : Choice} {s t : World}

theorem Agrees.refl (σ : Store Worker Cell) : Agrees σ σ := fun _ _ _ => ⟨rfl, rfl⟩

theorem Agrees.of_eq {σ τ : Store Worker Cell} (h : τ = σ) : Agrees σ τ := h ▸ Agrees.refl σ

/-- A statement at an inbox row does nothing else. -/
theorem agrees_put_inbox {σ : Store Worker Cell} {id : Nat} {x : Option (Cell (.inbox id))} :
    Agrees σ (σ.put w (.inbox id) x) :=
  fun _ hinbox _ => ⟨rfl, Store.pending_put_of_ne (hinbox id)⟩

theorem agrees_claim {id : Nat} {row : InboxRow} :
    Agrees (s.store.commit w) (s.claimRow w id row).store := by
  intro k hinbox _
  constructor
  · exact Store.view_put_of_ne (hinbox id)
  · show Store.drop _ w k = s.store.drop w k
    unfold Store.drop
    rw [Store.pending_put_of_ne (hinbox id)]

/-- What a keyed statement touches is its row, beside index entries. -/
theorem Touched.agrees_put {k : Key} {d : Cell k} (h : Touched w k s t)
    (hd : t.store.pending k = some (w, some d)) : Agrees (s.store.put w k (some d)) t.store := by
  intro l _ hindex
  refine ⟨by rw [h.committed]; rfl, ?_⟩
  by_cases hl : l = k
  · subst hl
    rw [hd, Store.pending_put_self]
  · rw [Store.pending_put_of_ne hl]
    rcases h.pending l with hp | ⟨-, hk | ⟨i, hk⟩, -⟩
    · exact hp
    · exact absurd hk hl
    · exact absurd hk (hindex i)

/-- A statement on an index entry, or on a row of the inbox, is nothing here. -/
theorem Touched.agrees_of_hidden {k : Key} (h : Touched w k s t)
    (hk : (∃ id, k = .inbox id) ∨ ∃ i, k = .index i) : Agrees s.store t.store := by
  intro l hinbox hindex
  refine ⟨by rw [h.committed], ?_⟩
  rcases h.pending l with hp | ⟨-, rfl | ⟨i, rfl⟩, -⟩
  · exact hp
  · rcases hk with ⟨id, rfl⟩ | ⟨i, rfl⟩
    · exact absurd rfl (hinbox id)
    · exact absurd rfl (hindex i)
  · exact absurd rfl (hindex i)

/-- The pending version of a row that was inserted with its index entries. -/
theorem pending_writeIndexed {k : Key} {row : Row k} (hindex : ∀ i, k ≠ .index i) :
    (s.writeIndexed w k row).store.pending k =
      some (w, some ⟨row, s.creatorOf w k, s.current w⟩) := by
  have hfold : ∀ (entries : List Index) (u : World),
      (entries.foldl (fun s e => s.write w (.index e) ()) u).store.pending k = u.store.pending k := by
    intro entries
    induction entries with
    | nil => exact fun _ => rfl
    | cons e rest ih => exact fun u => (ih _).trans (write_pending_of_ne (hindex e))
  unfold World.writeIndexed
  rw [hfold]
  exact write_pending_self

theorem ends_insert {k : Key} {row : Defaults → Row k} {r : Except Exc (Row k)}
    (h : exec D w (.insert k row) c s = some (r, t)) : Ends w (.insert k row) c s t := by
  rcases exec_insert h with ⟨-, rfl⟩ | ⟨-, hc, -, rfl, hf, ht⟩
  · exact .rolledBack (.refl _)
  · by_cases hk : ∃ i, k = .index i
    · exact .same (ht.agrees_of_hidden (.inr hk))
    · have hfree : s.store.free w k = true := by
        unfold World.unlocked at hf
        rw [Bool.and_eq_true] at hf
        exact hf.1
      refine .wrote k _ rfl hfree ⟨hc, rfl, rfl⟩ (ht.agrees_put (pending_writeIndexed ?_))
      exact fun i hi => hk ⟨i, hi⟩

theorem ends_upsert {k : Key} {row : Defaults → Row k} {set : Row k → Row k}
    {r : Except Exc (Row k)} (h : exec D w (.upsert k row set) c s = some (r, t)) :
    Ends w (.upsert k row set) c s t := by
  rcases exec_upsert h with ⟨-, rfl⟩ | ⟨ht, hcases⟩
  · exact .rolledBack (.refl _)
  by_cases hk : ∃ i, k = .index i
  · exact .same (ht.agrees_of_hidden (.inr hk))
  have hindex : ∀ i, k ≠ .index i := fun i hi => hk ⟨i, hi⟩
  have hfree : ∀ d, t.store.pending k = some (w, some d) → s.store.pending k = some (w, some d) ∨
      s.store.free w k = true := by
    intro d hd
    rcases ht.pending k with hp | ⟨hf, -⟩
    · exact .inl (hp.symm.trans hd)
    · exact .inr hf
  have holds_free : ∀ d, s.store.pending k = some (w, some d) → s.store.free w k = true := fun d hd =>
    Store.free_iff.2 fun u hu => Store.holds_unique hu ⟨_, hd⟩
  rcases hcases with ⟨cell, hcell, -, hst⟩ | ⟨hnone, -, rfl⟩
  · have hp : t.store.pending k = some (w, some ⟨set cell.row, s.creatorOf w k, s.current w⟩) := by
      rw [hst]
      exact Store.pending_put_self
    exact .wrote k _ rfl ((hfree _ hp).elim (holds_free _) id) (.inr ⟨cell, rfl, hcell, rfl⟩)
      (ht.agrees_put hp)
  · have hp : (s.writeIndexed w k (row c.defaults)).store.pending k =
        some (w, some ⟨row c.defaults, s.creatorOf w k, s.current w⟩) := pending_writeIndexed hindex
    exact .wrote k _ rfl ((hfree _ hp).elim (holds_free _) id) (.inl ⟨hnone, rfl, rfl⟩)
      (ht.agrees_put hp)

/-- **What every call does to the rows.** -/
theorem exec_ends {e : Eff} {r : Except Exc (Ans e)} (h : exec D w e c s = some (r, t)) :
    Ends w e c s t := by
  have quiet : e.quiet = true → Ends w e c s t := fun hq => .same (.of_eq (exec_quiet hq h).1)
  cases e with
  | claim ty lease =>
    obtain ⟨-, -, -, ⟨_, id, cell, -, -, -, -, -, hst, -⟩ | ⟨-, -, hst⟩⟩ := exec_claim h
    · exact .committed rfl (hst ▸ agrees_claim)
    · rcases hst with hst | hst | ⟨id, cell, -, -, hst⟩
      · exact .committed rfl (.of_eq hst)
      · exact .rolledBack (.of_eq hst)
      · exact .committed rfl (hst ▸ agrees_claim)
  | settle claim st =>
    rcases exec_settle h with ⟨-, rfl⟩ | ⟨-, rfl⟩ | ⟨cell, -, -, -, -, rfl⟩
    · exact .rolledBack (.refl _)
    · exact .same (.refl _)
    · exact .same agrees_put_inbox
  | select l =>
    rcases exec_select h with ⟨-, rfl⟩ | ⟨-, rfl⟩
    · exact .rolledBack (.refl _)
    · exact .same (.of_eq seeRow_store)
  | selectForUpdate l =>
    rcases exec_selectForUpdate h with ⟨-, rfl⟩ | ⟨hf, -, -, ⟨-, rfl⟩ | ⟨cell, hc, hst⟩⟩
    · exact .rolledBack (.refl _)
    · exact .same (.refl _)
    · exact .wrote l cell rfl hf ⟨cell, hc, rfl⟩ (.of_eq hst)
  | insert l row => exact ends_insert h
  | insertNew l row =>
    rcases exec_insertNew h with ⟨-, rfl⟩ | ⟨hf, -, ⟨-, -, rfl⟩ | ⟨-, hc, rfl⟩⟩
    · exact .rolledBack (.refl _)
    · exact .same (.refl _)
    · exact .wrote l _ rfl hf ⟨hc, rfl, rfl⟩ (.of_eq write_store)
  | update l set =>
    rcases exec_update h with ⟨-, rfl⟩ | ⟨hf, -, ⟨-, -, rfl⟩ | ⟨cell, -, hc, hst⟩⟩
    · exact .rolledBack (.refl _)
    · exact .same (.refl _)
    · exact .wrote l _ rfl hf ⟨cell, rfl, hc, rfl⟩ (.of_eq hst)
  | upsert l row set => exact ends_upsert h
  | commit =>
    rcases exec_commit h with rfl | ⟨-, rfl⟩
    · exact .committed rfl (.refl _)
    · exact .rolledBack (.refl _)
  | rollback =>
    obtain rfl := exec_rollback h
    exact .rolledBack (.refl _)
  | tryLock key =>
    rcases exec_tryLock h with ⟨-, rfl⟩ | ⟨-, rfl⟩ | ⟨-, n, rfl, -⟩
    · exact .rolledBack (.refl _)
    · exact .same (.refl _)
    · exact .same (.refl _)
  | unlock key =>
    rcases exec_unlock h with ⟨-, rfl⟩ | rfl
    · exact .rolledBack (.refl _)
    · exact .same (.of_eq release_same.1)
  | createRecord σ fields =>
    rcases (exec_createRecord h).2 with ⟨rfl, -⟩ | ⟨-, rfl⟩ <;> exact .same (.refl _)
  | updateRecord σ id fields =>
    rcases exec_updateRecord h with rfl | rfl <;> exact .same (.refl _)
  | query σ table value => exact quiet rfl
  | defaultGroups σ => exact quiet rfl
  | getRecord σ table id => exact quiet rfl
  | executeProcess σ p ps => exact quiet rfl
  | now => exact quiet rfl
  | uuid4 => exact quiet rfl
  | authorityFor claim => exact quiet rfl
  | assess op => exact quiet rfl

/-- **What a call leaves committed**: what was, or what its session saw. -/
theorem Ends.committed_at {e : Eff} (h : Ends w e c s t) {k : Key} (hinbox : ∀ id, k ≠ .inbox id)
    (hindex : ∀ i, k ≠ .index i) :
    t.store.committed k = s.store.committed k ∨ t.store.committed k = s.store.view w k := by
  cases h with
  | same h => exact .inl (h k hinbox hindex).1
  | rolledBack h => exact .inl (h k hinbox hindex).1
  | committed _ h => exact .inr (h k hinbox hindex).1
  | wrote l d _ _ _ h => exact .inl (h k hinbox hindex).1

end

end BaobabErp
