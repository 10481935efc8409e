/-
# What one call can do

Each kind of effect inverted once: what it answers and which part of the state
it leaves different.  Proofs about runs use these and never unfold `exec`.

A keyed statement either fails and aborts its transaction, or touches row
versions of its own key and of unique-index entries (`Touched`); what is touched
is a row the session could write, and carries the claim the session executes.
-/

import BaobabErp.Platform.World

namespace BaobabErp

open Python Concurrency

namespace World

variable {s t : World} {w v : Worker} {k l : Key}

/-! ### Projections of the state changes -/

@[simp] theorem abort_store : (s.abort w).store = s.store.rollback w := rfl
@[simp] theorem abort_locks : (s.abort w).locks = s.locks := rfl
@[simp] theorem abort_engine : (s.abort w).engine = s.engine := rfl
@[simp] theorem abort_current : (s.abort w).current = s.current := rfl
@[simp] theorem abort_accesses : (s.abort w).accesses = s.accesses := rfl

@[simp] theorem seeRow_store : (s.seeRow w k).store = s.store := by
  unfold seeRow; split <;> rfl

@[simp] theorem seeRow_locks : (s.seeRow w k).locks = s.locks := by
  unfold seeRow; split <;> rfl

@[simp] theorem seeRow_engine : (s.seeRow w k).engine = s.engine := by
  unfold seeRow; split <;> rfl

@[simp] theorem seeRow_current : (s.seeRow w k).current = s.current := by
  unfold seeRow; split <;> rfl

@[simp] theorem seeRow_cell : (s.seeRow w k).cell v l = s.cell v l := by
  unfold cell; rw [seeRow_store]

variable {rs : List EngineRecord}

@[simp] theorem seeRecords_store : (s.seeRecords w rs).store = s.store := rfl
@[simp] theorem seeRecords_locks : (s.seeRecords w rs).locks = s.locks := rfl
@[simp] theorem seeRecords_engine : (s.seeRecords w rs).engine = s.engine := rfl
@[simp] theorem seeRecords_current : (s.seeRecords w rs).current = s.current := rfl

variable {row : Row k}

/-- The claim a row written now is recorded as created by. -/
def creatorOf (s : World) (w : Worker) (k : Key) : Option Ticket :=
  match s.cell w k with
  | some c => c.creator
  | none => s.current w

theorem write_store : (s.write w k row).store =
    s.store.put w k (some ⟨row, s.creatorOf w k, s.current w⟩) := rfl

@[simp] theorem write_locks : (s.write w k row).locks = s.locks := rfl
@[simp] theorem write_engine : (s.write w k row).engine = s.engine := rfl
@[simp] theorem write_current : (s.write w k row).current = s.current := rfl
@[simp] theorem write_accesses : (s.write w k row).accesses = s.accesses := rfl
@[simp] theorem write_committed : (s.write w k row).store.committed = s.store.committed := rfl

theorem write_pending_self : (s.write w k row).store.pending k =
    some (w, some ⟨row, s.creatorOf w k, s.current w⟩) :=
  Store.pending_put_self

theorem write_pending_of_ne (h : l ≠ k) :
    (s.write w k row).store.pending l = s.store.pending l :=
  Store.pending_put_of_ne h

end World

open World

/-! ### Keyed statements -/

/-- `t` is `s` but for row versions that `w` wrote or locked at `k` and at index entries. -/
structure Touched (w : Worker) (k : Key) (s t : World) : Prop where
  locks : t.locks = s.locks
  engine : t.engine = s.engine
  current : t.current = s.current
  committed : t.store.committed = s.store.committed
  pending : ∀ l, t.store.pending l = s.store.pending l ∨
    (s.store.free w l = true ∧ (l = k ∨ ∃ i, l = .index i) ∧
      ∃ c : Cell l, t.store.pending l = some (w, some c) ∧
        (s.cell w l = some c ∨ (c.writer = s.current w ∧ c.creator = s.creatorOf w l)))

namespace Touched

variable {w : Worker} {k : Key} {s t : World}

theorem of_eq (hs : t.store = s.store) (hl : t.locks = s.locks) (he : t.engine = s.engine)
    (hc : t.current = s.current) : Touched w k s t :=
  ⟨hl, he, hc, by rw [hs], fun l => .inl (by rw [hs])⟩

theorem write {row : Row k} (hf : s.store.free w k = true) : Touched w k s (s.write w k row) := by
  refine ⟨rfl, rfl, rfl, rfl, fun l => ?_⟩
  by_cases h : l = k
  · subst h
    exact .inr ⟨hf, .inl rfl, _, write_pending_self, .inr ⟨rfl, rfl⟩⟩
  · exact .inl (write_pending_of_ne h)

/-- The entries of a row are written after the row, each at a free index key. -/
theorem writes {entries : List Index} (h : Touched w k s t)
    (hf : ∀ e ∈ entries, s.store.free w (.index e) = true) :
    Touched w k s (entries.foldl (fun s e => s.write w (.index e) ()) t) := by
  induction entries generalizing t with
  | nil => exact h
  | cons e es ih =>
    refine ih ⟨h.locks, h.engine, h.current, h.committed, fun l => ?_⟩ fun e' he' =>
      hf e' (List.mem_cons_of_mem _ he')
    by_cases hl : l = .index e
    · subst hl
      refine .inr ⟨hf e List.mem_cons_self, .inr ⟨e, rfl⟩, _, write_pending_self, ?_⟩
      refine .inr ⟨congrFun h.current w, ?_⟩
      -- the entry's creator: unchanged, unless this statement wrote the entry already
      show World.creatorOf t w (.index e) = _
      rcases h.pending (.index e) with hp | ⟨-, -, c, hp, hc⟩
      · unfold World.creatorOf World.cell Store.view
        rw [hp, h.committed, h.current]
      · have ht : t.cell w (.index e) = some c := Store.view_of_pending hp
        unfold World.creatorOf
        rw [ht]
        rcases hc with hc | ⟨-, hc⟩
        · rw [hc]
        · simpa [World.creatorOf] using hc
    · rcases h.pending l with hp | hp
      · exact .inl ((write_pending_of_ne hl).trans hp)
      · obtain ⟨hfl, hk, c, hc, hw⟩ := hp
        exact .inr ⟨hfl, hk, c, (write_pending_of_ne hl).trans hc, hw⟩

theorem writeIndexed {row : Row k} (hf : s.unlocked w k (Schema.indexed k row) = true) :
    Touched w k s (s.writeIndexed w k row) := by
  rw [World.unlocked, Bool.and_eq_true, List.all_eq_true] at hf
  exact (Touched.write hf.1).writes fun e he => hf.2 e he

end Touched

/-- The key of a keyed statement. -/
def Eff.key? : Eff → Option Key
  | .select k => some k
  | .selectForUpdate k => some k
  | .insert k _ => some k
  | .insertNew k _ => some k
  | .update k _ => some k
  | .upsert k _ _ => some k
  | _ => none

section

variable {D : Deployment} {w : Worker} {c : Choice} {s t : World}

theorem insertRow_cases {k : Key} {row : Row k} {r : Except Exc (Row k)}
    (hf : s.unlocked w k (Schema.indexed k row) = true) (h : s.insertRow w k row = (r, t)) :
    ((∃ x, r = .error x) ∧ t = s.abort w) ∨
      (r = .ok row ∧ s.cell w k = none ∧ Schema.check k row = true ∧
        t = s.writeIndexed w k row ∧ Touched w k s t) := by
  unfold World.insertRow at h
  split_ifs at h with h₁ h₂ h₃
  · exact .inl ⟨⟨_, (congrArg Prod.fst h).symm⟩, (congrArg Prod.snd h).symm⟩
  · exact .inl ⟨⟨_, (congrArg Prod.fst h).symm⟩, (congrArg Prod.snd h).symm⟩
  · exact .inl ⟨⟨_, (congrArg Prod.fst h).symm⟩, (congrArg Prod.snd h).symm⟩
  · obtain rfl : s.writeIndexed w k row = t := congrArg Prod.snd h
    refine .inr ⟨(congrArg Prod.fst h).symm, ?_, by simpa using h₂, rfl, .writeIndexed hf⟩
    rw [Bool.or_eq_true, not_or] at h₁
    simpa using h₁.1

theorem updateRow_cases {k : Key} {row : Row k} {r : Except Exc (Row k)}
    (hf : s.store.free w k = true) (h : s.updateRow w k row = (r, t)) :
    ((∃ x, r = .error x) ∧ t = s.abort w) ∨
      (r = .ok row ∧ t.store = s.store.put w k (some ⟨row, s.creatorOf w k, s.current w⟩) ∧
        Touched w k s t) := by
  unfold World.updateRow at h
  split_ifs at h with h₁
  · obtain rfl : (s.seeRow w k).write w k row = t := congrArg Prod.snd h
    have hst : ((s.seeRow w k).write w k row).store =
        s.store.put w k (some ⟨row, s.creatorOf w k, s.current w⟩) := by
      simp only [write_store, World.creatorOf, seeRow_store, seeRow_cell, seeRow_current]
    refine .inr ⟨(congrArg Prod.fst h).symm, hst, ?_⟩
    refine ⟨by simp, by simp, by simp, by simp, fun l => ?_⟩
    rw [hst]
    by_cases hl : l = k
    · subst hl
      exact .inr ⟨hf, .inl rfl, _, Store.pending_put_self, .inr ⟨rfl, rfl⟩⟩
    · exact .inl (Store.pending_put_of_ne hl)
  · exact .inl ⟨⟨_, (congrArg Prod.fst h).symm⟩, (congrArg Prod.snd h).symm⟩

theorem exec_select {k : Key} {r : Except Exc (Option (Row k))}
    (h : exec D w (.select k) c s = some (r, t)) :
    ((∃ x, r = .error x) ∧ t = s.abort w) ∨
      (r = .ok ((s.cell w k).map Cell.row) ∧ t = s.seeRow w k) := by
  simp only [exec] at h
  split at h
  · obtain ⟨rfl, rfl⟩ := Prod.mk.inj (Option.some.inj h)
    exact .inl ⟨⟨_, rfl⟩, rfl⟩
  · obtain ⟨rfl, rfl⟩ := Prod.mk.inj (Option.some.inj h)
    exact .inr ⟨rfl, rfl⟩

theorem exec_selectForUpdate {k : Key} {r : Except Exc (Option (Row k))}
    (h : exec D w (.selectForUpdate k) c s = some (r, t)) :
    ((∃ x, r = .error x) ∧ t = s.abort w) ∨
      (s.store.free w k = true ∧ r = .ok ((s.cell w k).map Cell.row) ∧ Touched w k s t ∧
        ((s.cell w k = none ∧ t = s) ∨
          ∃ cell, s.cell w k = some cell ∧ t.store = s.store.put w k (some cell))) := by
  simp only [exec] at h
  split at h
  · obtain ⟨rfl, rfl⟩ := Prod.mk.inj (Option.some.inj h)
    exact .inl ⟨⟨_, rfl⟩, rfl⟩
  · split_ifs at h with hf
    split at h
    · rename_i hc
      obtain ⟨rfl, rfl⟩ := Prod.mk.inj (Option.some.inj h)
      exact .inr ⟨hf, by rw [hc]; rfl, .of_eq rfl rfl rfl rfl, .inl ⟨hc, rfl⟩⟩
    · rename_i cell hc
      obtain ⟨rfl, rfl⟩ := Prod.mk.inj (Option.some.inj h)
      refine .inr ⟨hf, by rw [hc]; rfl, ⟨by simp, by simp, by simp, rfl, fun l => ?_⟩,
        .inr ⟨cell, hc, rfl⟩⟩
      by_cases hl : l = k
      · subst hl
        exact .inr ⟨hf, .inl rfl, _, Store.pending_put_self, .inl hc⟩
      · exact .inl (Store.pending_put_of_ne hl)

theorem exec_insert {k : Key} {row : Defaults → Row k} {r : Except Exc (Row k)}
    (h : exec D w (.insert k row) c s = some (r, t)) :
    ((∃ x, r = .error x) ∧ t = s.abort w) ∨
      (r = .ok (row c.defaults) ∧ s.cell w k = none ∧ Schema.check k (row c.defaults) = true ∧
        t = s.writeIndexed w k (row c.defaults) ∧
        s.unlocked w k (Schema.indexed k (row c.defaults)) = true ∧ Touched w k s t) := by
  simp only [exec] at h
  split at h
  · obtain ⟨rfl, rfl⟩ := Prod.mk.inj (Option.some.inj h)
    exact .inl ⟨⟨_, rfl⟩, rfl⟩
  · split_ifs at h with hf
    rcases insertRow_cases hf (Option.some.inj h) with hx | ⟨hr, hn, hc, ht, htouch⟩
    · exact .inl hx
    · exact .inr ⟨hr, hn, hc, ht, hf, htouch⟩

theorem exec_insertNew {k : Key} {row : Row k} {r : Except Exc Bool}
    (h : exec D w (.insertNew k row) c s = some (r, t)) :
    ((∃ x, r = .error x) ∧ t = s.abort w) ∨
      (s.store.free w k = true ∧ Touched w k s t ∧
        ((r = .ok false ∧ (s.cell w k).isSome ∧ t = s) ∨
          (r = .ok true ∧ s.cell w k = none ∧ t = s.write w k row))) := by
  simp only [exec] at h
  split at h
  · obtain ⟨rfl, rfl⟩ := Prod.mk.inj (Option.some.inj h)
    exact .inl ⟨⟨_, rfl⟩, rfl⟩
  · split_ifs at h with hf hc hk
    · obtain ⟨rfl, rfl⟩ := Prod.mk.inj (Option.some.inj h)
      exact .inr ⟨hf, .of_eq rfl rfl rfl rfl, .inl ⟨rfl, hc, rfl⟩⟩
    · obtain ⟨rfl, rfl⟩ := Prod.mk.inj (Option.some.inj h)
      exact .inr ⟨hf, .write hf, .inr ⟨rfl, by simpa using hc, rfl⟩⟩
    · obtain ⟨rfl, rfl⟩ := Prod.mk.inj (Option.some.inj h)
      exact .inl ⟨⟨_, rfl⟩, rfl⟩

theorem exec_update {k : Key} {set : Row k → Row k} {r : Except Exc Nat}
    (h : exec D w (.update k set) c s = some (r, t)) :
    ((∃ x, r = .error x) ∧ t = s.abort w) ∨
      (s.store.free w k = true ∧ Touched w k s t ∧
        ((r = .ok 0 ∧ s.cell w k = none ∧ t = s) ∨
          ∃ cell, r = .ok 1 ∧ s.cell w k = some cell ∧
            t.store = s.store.put w k (some ⟨set cell.row, s.creatorOf w k, s.current w⟩))) := by
  simp only [exec] at h
  split at h
  · obtain ⟨rfl, rfl⟩ := Prod.mk.inj (Option.some.inj h)
    exact .inl ⟨⟨_, rfl⟩, rfl⟩
  · split_ifs at h with hf
    split at h
    · rename_i hc
      obtain ⟨rfl, rfl⟩ := Prod.mk.inj (Option.some.inj h)
      exact .inr ⟨hf, .of_eq rfl rfl rfl rfl, .inl ⟨rfl, hc, rfl⟩⟩
    · rename_i cell hc
      split at h
      · rename_i row' t' hu
        obtain ⟨rfl, rfl⟩ := Prod.mk.inj (Option.some.inj h)
        rcases updateRow_cases hf hu with ⟨⟨x, hx⟩, -⟩ | ⟨-, hst, ht⟩
        · cases hx
        · exact .inr ⟨hf, ht, .inr ⟨cell, rfl, hc, hst⟩⟩
      · rename_i x t' hu
        obtain ⟨rfl, rfl⟩ := Prod.mk.inj (Option.some.inj h)
        rcases updateRow_cases hf hu with ⟨-, ht⟩ | ⟨hr, -, -⟩
        · exact .inl ⟨⟨_, rfl⟩, ht⟩
        · cases hr

theorem exec_upsert {k : Key} {row : Defaults → Row k} {set : Row k → Row k}
    {r : Except Exc (Row k)} (h : exec D w (.upsert k row set) c s = some (r, t)) :
    ((∃ x, r = .error x) ∧ t = s.abort w) ∨
      (Touched w k s t ∧
        ((∃ cell, s.cell w k = some cell ∧ r = .ok (set cell.row) ∧
            t.store = s.store.put w k (some ⟨set cell.row, s.creatorOf w k, s.current w⟩)) ∨
          (s.cell w k = none ∧ r = .ok (row c.defaults) ∧
            t = s.writeIndexed w k (row c.defaults)))) := by
  simp only [exec] at h
  split at h
  · obtain ⟨rfl, rfl⟩ := Prod.mk.inj (Option.some.inj h)
    exact .inl ⟨⟨_, rfl⟩, rfl⟩
  · split at h
    · rename_i cell hc
      split_ifs at h with hf
      rcases updateRow_cases hf (Option.some.inj h) with hx | ⟨hr, hst, ht⟩
      · exact .inl hx
      · exact .inr ⟨ht, .inl ⟨cell, hc, hr, hst⟩⟩
    · rename_i hc
      split_ifs at h with hf
      rcases insertRow_cases hf (Option.some.inj h) with hx | ⟨hr, -, -, ht, htouch⟩
      · exact .inl hx
      · exact .inr ⟨htouch, .inr ⟨hc, hr, ht⟩⟩

/-- **A keyed statement fails and aborts, or touches its key.** -/
theorem exec_keyed {e : Eff} {k : Key} (hk : e.key? = some k) {r : Except Exc (Ans e)}
    (h : exec D w e c s = some (r, t)) :
    ((∃ x, r = .error x) ∧ t = s.abort w) ∨ Touched w k s t := by
  cases e with
  | select l =>
    obtain rfl : l = k := Option.some.inj hk
    rcases exec_select h with hx | ⟨-, rfl⟩
    · exact .inl hx
    · exact .inr (.of_eq (by simp) (by simp) (by simp) (by simp))
  | selectForUpdate l =>
    obtain rfl : l = k := Option.some.inj hk
    exact (exec_selectForUpdate h).imp_right fun h => h.2.2.1
  | insert l row =>
    obtain rfl : l = k := Option.some.inj hk
    exact (exec_insert h).imp_right fun h => h.2.2.2.2.2
  | insertNew l row =>
    obtain rfl : l = k := Option.some.inj hk
    exact (exec_insertNew h).imp_right fun h => h.2.1
  | update l set =>
    obtain rfl : l = k := Option.some.inj hk
    exact (exec_update h).imp_right fun h => h.2.1
  | upsert l row set =>
    obtain rfl : l = k := Option.some.inj hk
    exact (exec_upsert h).imp_right fun h => h.1
  | _ => cases hk

/-! ### Claiming and settling -/

theorem claimable_type {row : InboxRow} {eventType : String} {now : Instant}
    (h : claimable row eventType now = true) : row.eventType = eventType := by
  unfold claimable at h
  exact eq_of_beq (Bool.and_eq_true_iff.1 h).1

theorem exec_claim {eventType : String} {lease : Int} {r : Except Exc (Option Claim)}
    (h : exec D w (.claim eventType lease) c s = some (r, t)) :
    t.locks = s.locks ∧ t.engine = s.engine ∧ t.accesses = s.accesses ∧
      ((∃ claim id cell, r = .ok (some claim) ∧ s.cell w (.inbox id) = some cell ∧
          s.store.free w (.inbox id) = true ∧
          claim = claimOf id (claimedRow cell.row w lease c.now) w ∧
          cell.row.eventType = eventType ∧
          t.store = (s.claimRow w id (claimedRow cell.row w lease c.now)).store ∧
          t.current = Function.update s.current w (some claim.ticket)) ∨
        ((r = .ok none ∨ ∃ x, r = .error x) ∧
          t.current = Function.update s.current w none ∧
          (t.store = s.store.commit w ∨ t.store = s.store.rollback w ∨
            ∃ id cell, s.cell w (.inbox id) = some cell ∧ s.store.free w (.inbox id) = true ∧
              t.store = (s.claimRow w id (claimedRow cell.row w lease c.now)).store))) := by
  simp only [exec] at h
  split at h
  · split at h
    · obtain ⟨rfl, rfl⟩ := Prod.mk.inj (Option.some.inj h)
      exact ⟨rfl, rfl, rfl, .inr ⟨.inr ⟨_, rfl⟩, rfl, .inr (.inl rfl)⟩⟩
    · obtain ⟨rfl, rfl⟩ := Prod.mk.inj (Option.some.inj h)
      exact ⟨rfl, rfl, rfl, .inr ⟨.inl rfl, rfl, .inl rfl⟩⟩
  · rename_i id hid
    split at h
    · cases h
    · rename_i cell hc
      by_cases hf : (claimable cell.row eventType c.now && s.store.free w (.inbox id)) = true
      · rw [if_pos hf] at h
        rw [Bool.and_eq_true] at hf
        split at h
        · obtain ⟨rfl, rfl⟩ := Prod.mk.inj (Option.some.inj h)
          exact ⟨rfl, rfl, rfl, .inl ⟨_, id, cell, rfl, hc, hf.2, rfl, claimable_type hf.1, rfl, rfl⟩⟩
        · cases hl : c.late with
          | true =>
            rw [hl, if_pos rfl] at h
            obtain ⟨rfl, rfl⟩ := Prod.mk.inj (Option.some.inj h)
            exact ⟨rfl, rfl, rfl,
              .inr ⟨.inr ⟨_, rfl⟩, rfl, .inr (.inr ⟨id, cell, hc, hf.2, rfl⟩)⟩⟩
          | false =>
            rw [hl, if_neg Bool.false_ne_true] at h
            obtain ⟨rfl, rfl⟩ := Prod.mk.inj (Option.some.inj h)
            exact ⟨rfl, rfl, rfl, .inr ⟨.inr ⟨_, rfl⟩, rfl, .inr (.inl rfl)⟩⟩
      · rw [if_neg hf] at h
        cases h

theorem exec_settle {claim : Claim} {st : Settlement} {r : Except Exc Nat}
    (h : exec D w (.settle claim st) c s = some (r, t)) :
    ((∃ x, r = .error x) ∧ t = s.abort w) ∨ (r = .ok 0 ∧ t = s) ∨
      (∃ cell, r = .ok 1 ∧ s.store.free w (.inbox claim.rowId) = true ∧
        s.cell w (.inbox claim.rowId) = some cell ∧ fenced cell.row claim = true ∧
        t = s.settleRow w claim.rowId (settledRow cell.row claim st c.now)) := by
  simp only [exec] at h
  split at h
  · obtain ⟨rfl, rfl⟩ := Prod.mk.inj (Option.some.inj h)
    exact .inl ⟨⟨_, rfl⟩, rfl⟩
  · split_ifs at h with hf
    split at h
    · obtain ⟨rfl, rfl⟩ := Prod.mk.inj (Option.some.inj h)
      exact .inr (.inl ⟨rfl, rfl⟩)
    · rename_i cell hc
      split_ifs at h with hfe
      · obtain ⟨rfl, rfl⟩ := Prod.mk.inj (Option.some.inj h)
        exact .inr (.inr ⟨cell, rfl, hf, hc, hfe, rfl⟩)
      · obtain ⟨rfl, rfl⟩ := Prod.mk.inj (Option.some.inj h)
        exact .inr (.inl ⟨rfl, rfl⟩)

/-! ### Transactions and locks -/

theorem exec_commit {r : Except Exc Unit} (h : exec D w .commit c s = some (r, t)) :
    t = { s with store := s.store.commit w } ∨ ((∃ x, r = .error x) ∧ t = s.abort w) := by
  simp only [exec] at h
  split at h
  · obtain ⟨rfl, rfl⟩ := Prod.mk.inj (Option.some.inj h)
    exact .inl rfl
  · obtain ⟨rfl, rfl⟩ := Prod.mk.inj (Option.some.inj h)
    split_ifs
    · exact .inl rfl
    · exact .inr ⟨⟨_, rfl⟩, rfl⟩

theorem exec_rollback {r : Except Exc Unit} (h : exec D w .rollback c s = some (r, t)) :
    t = s.abort w := by
  simp only [exec] at h
  split at h <;> exact (Prod.mk.inj (Option.some.inj h)).2.symm

theorem exec_tryLock {key : String} {r : Except Exc Bool}
    (h : exec D w (.tryLock key) c s = some (r, t)) :
    ((∃ x, r = .error x) ∧ t = s.abort w) ∨ (r = .ok false ∧ t = s) ∨
      (r = .ok true ∧ ∃ n, t = s.acquire w (D.hashes.hashtext key) n ∧
        ∀ v m, s.locks (D.hashes.hashtext key) = some (v, m) → v = w ∧ m = n) := by
  simp only [exec] at h
  split at h
  · obtain ⟨rfl, rfl⟩ := Prod.mk.inj (Option.some.inj h)
    exact .inl ⟨⟨_, rfl⟩, rfl⟩
  · split at h
    · rename_i hl
      obtain ⟨rfl, rfl⟩ := Prod.mk.inj (Option.some.inj h)
      exact .inr (.inr ⟨rfl, 0, rfl, fun v m hv => by rw [hl] at hv; cases hv⟩)
    · rename_i v n hl
      split_ifs at h with hv
      · obtain ⟨rfl, rfl⟩ := Prod.mk.inj (Option.some.inj h)
        refine .inr (.inr ⟨rfl, n, rfl, fun v' m hv' => ?_⟩)
        rw [hl] at hv'
        obtain ⟨rfl, rfl⟩ := Prod.mk.inj (Option.some.inj hv')
        exact ⟨hv, rfl⟩
      · obtain ⟨rfl, rfl⟩ := Prod.mk.inj (Option.some.inj h)
        exact .inr (.inl ⟨rfl, rfl⟩)

theorem release_same {h : Int} :
    (s.release w h).store = s.store ∧ (s.release w h).engine = s.engine ∧
      (s.release w h).current = s.current := by
  unfold World.release
  split
  · split_ifs <;> exact ⟨rfl, rfl, rfl⟩
  · exact ⟨rfl, rfl, rfl⟩

theorem exec_unlock {key : String} {r : Except Exc Unit}
    (h : exec D w (.unlock key) c s = some (r, t)) :
    ((∃ x, r = .error x) ∧ t = s.abort w) ∨ t = s.release w (D.hashes.hashtext key) := by
  simp only [exec] at h
  split at h
  · obtain ⟨rfl, rfl⟩ := Prod.mk.inj (Option.some.inj h)
    exact .inl ⟨⟨_, rfl⟩, rfl⟩
  · obtain ⟨rfl, rfl⟩ := Prod.mk.inj (Option.some.inj h)
    exact .inr rfl

/-! ### The engine -/

theorem exec_query {σ : Session} {table : Table} {value : String} {r : Except Exc (List Int)}
    (h : exec D w (.query σ table value) c s = some (r, t)) :
    ((∃ x, r = .error x) ∧ t = s) ∨
      (∃ found, found = (s.engine.filter fun r =>
          r.fields.lookup == some (table, value) && D.sees σ r) ∧
        r = .ok (found.map EngineRecord.id) ∧ t = s.seeRecords w found) := by
  simp only [exec] at h
  split at h
  · obtain ⟨rfl, rfl⟩ := Prod.mk.inj (Option.some.inj h)
    exact .inl ⟨⟨_, rfl⟩, rfl⟩
  · obtain ⟨rfl, rfl⟩ := Prod.mk.inj (Option.some.inj h)
    exact .inr ⟨_, rfl, rfl, rfl⟩

theorem exec_createRecord {σ : Session} {fields : Fields} {r : Except Exc Int}
    (h : exec D w (.createRecord σ fields) c s = some (r, t)) :
    (∀ q ∈ s.engine, q.sameIdentity ⟨c.id, σ, fields, none⟩ = false) ∧
      ((t = s.create w σ c.id fields ∧ ∀ id, r = .ok id → id = c.id) ∨
        ((∃ x, r = .error x) ∧ t = s)) := by
  simp only [exec] at h
  by_cases hid : (s.engine.any fun r => r.sameIdentity ⟨c.id, σ, fields, none⟩) = true
  · rw [if_pos hid] at h
    cases h
  rw [if_neg hid] at h
  refine ⟨fun q hq => ?_, ?_⟩
  · by_contra hne
    exact hid (List.any_eq_true.2 ⟨q, hq, by simpa using hne⟩)
  · split at h
    · obtain ⟨rfl, rfl⟩ := Prod.mk.inj (Option.some.inj h)
      exact .inl ⟨rfl, fun id hid => (Except.ok.inj hid).symm⟩
    · obtain ⟨rfl, rfl⟩ := Prod.mk.inj (Option.some.inj h)
      cases c.late with
      | true => exact .inl ⟨rfl, fun id hid => by cases hid⟩
      | false => exact .inr ⟨⟨_, rfl⟩, rfl⟩

theorem exec_updateRecord {σ : Session} {id : Int} {fields : Fields} {r : Except Exc Unit}
    (h : exec D w (.updateRecord σ id fields) c s = some (r, t)) :
    t = updateEngine D s w σ id fields ∨ t = s := by
  simp only [exec] at h
  split at h
  · exact .inl (Prod.mk.inj (Option.some.inj h)).2.symm
  · obtain ⟨rfl, rfl⟩ := Prod.mk.inj (Option.some.inj h)
    split_ifs
    · exact .inl rfl
    · exact .inr rfl

/-- Effects that only answer: what the engine, a clock or an authority says. -/
def Eff.quiet : Eff → Bool
  | .query _ _ _ => true
  | .defaultGroups _ => true
  | .getRecord _ _ _ => true
  | .executeProcess _ _ _ => true
  | .now => true
  | .uuid4 => true
  | .authorityFor _ => true
  | .assess _ => true
  | _ => false

/-- An effect that only answers leaves everything but what has been shown. -/
theorem exec_quiet {e : Eff} (he : e.quiet = true) {r : Except Exc (Ans e)}
    (h : exec D w e c s = some (r, t)) :
    t.store = s.store ∧ t.locks = s.locks ∧ t.engine = s.engine ∧ t.current = s.current := by
  cases e with
  | query σ table value =>
    rcases exec_query h with ⟨-, rfl⟩ | ⟨found, -, -, rfl⟩ <;> exact ⟨rfl, rfl, rfl, rfl⟩
  | defaultGroups σ =>
    simp only [exec] at h
    split at h <;> (obtain ⟨-, rfl⟩ := Prod.mk.inj (Option.some.inj h); exact ⟨rfl, rfl, rfl, rfl⟩)
  | getRecord σ table id =>
    simp only [exec] at h
    split at h <;> (obtain ⟨-, rfl⟩ := Prod.mk.inj (Option.some.inj h); exact ⟨rfl, rfl, rfl, rfl⟩)
  | executeProcess σ p ps =>
    simp only [exec] at h
    split at h <;> (obtain ⟨-, rfl⟩ := Prod.mk.inj (Option.some.inj h); exact ⟨rfl, rfl, rfl, rfl⟩)
  | now =>
    obtain ⟨-, rfl⟩ := Prod.mk.inj (Option.some.inj h)
    exact ⟨rfl, rfl, rfl, rfl⟩
  | uuid4 =>
    obtain ⟨-, rfl⟩ := Prod.mk.inj (Option.some.inj h)
    exact ⟨rfl, rfl, rfl, rfl⟩
  | authorityFor claim =>
    simp only [exec] at h
    split at h <;> (obtain ⟨-, rfl⟩ := Prod.mk.inj (Option.some.inj h); exact ⟨rfl, rfl, rfl, rfl⟩)
  | assess op =>
    simp only [exec] at h
    split at h <;> (obtain ⟨-, rfl⟩ := Prod.mk.inj (Option.some.inj h); exact ⟨rfl, rfl, rfl, rfl⟩)
  | _ => cases he

end

end BaobabErp
