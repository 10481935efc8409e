/-
# The lease fence of the inbox

`modules/inbox/postgres_queue.py` settles a row only while `(status, claimed_by,
attempts)` still say that it belongs to the claim, and `execution_support.settle`
and the executors write everything an attempt writes in the transaction that
settles its row.

`fence` says when this is safe: a session that claims, settles and commits under
its guard keeps the histories of all rows fenced, keeps at most one settlement
open per claim, and commits a business row only together with the settlement of
the claim that wrote it.  The attempts counter plays no part in the argument: a
session executes one claim at a time, so the last claim made in its name is the
one it settles (`Fence.owner`).
-/

import BaobabErp.Inbox.Executors
import BaobabErp.Inbox.LeaseHistory

namespace BaobabErp
namespace Inbox

open Python Concurrency World ExecutionPolicy
open Concurrency.Protocol (Keeps closed_keeps)

/-- **What the fence keeps true of the shared state.** -/
structure Fence (s : World) : Prop where
  rows : ∀ id c, s.store.committed (.inbox id) = some c → Fenced c.row.history ∧ Consistent c.row
  /-- The last claim of a row, made by a session that executes a claim of that row,
  is the claim it executes. -/
  owner : ∀ id c n w h tk, s.store.committed (.inbox id) = some c →
    c.row.history = .claimed n w :: h → s.current w = some tk → tk.row = id → tk.no = n
  /-- A row an open transaction holds is settled for the claim its session executes. -/
  settling : ∀ id w x, s.store.pending (.inbox id) = some (w, x) →
    ∃ tk c d status h, s.current w = some tk ∧ tk.row = id ∧
      s.store.committed (.inbox id) = some c ∧ c.row.history = .claimed tk.no w :: h ∧
      x = some d ∧ d.row.history = .settled tk.no status :: c.row.history ∧ Consistent d.row
  /-- An open transaction wrote a row for the claim its session executes, or locked it. -/
  writing : ∀ k w x, Business k → s.store.pending k = some (w, x) →
    ∃ c, x = some c ∧ (c.writer = s.current w ∨ s.store.committed k = some c)
  /-- What a claim wrote is committed with its settlement. -/
  written : ∀ k c tk, Business k → s.store.committed k = some c → c.writer = some tk →
    ∃ r, s.store.committed (.inbox tk.row) = some r ∧ .settled tk.no .processed ∈ r.row.history

/-- The row `w` executes is settled as processed in its open transaction. -/
def Settled (w : Worker) (tk : Ticket) (s : World) : Prop :=
  s.current w = some tk ∧ ∃ c h, s.store.pending (.inbox tk.row) = some (w, some c) ∧
    c.row.history = .settled tk.no .processed :: h

/-- `w` holds inbox rows only. -/
def Released (w : Worker) (s : World) : Prop := ∀ k, Business k → ¬ s.store.Holds w k

/-- **When a call is within the fence.** -/
def FenceGuard (w : Worker) (e : Eff) (s : World) : Prop :=
  match e with
  | .claim _ _ => s.store.Clean w
  | .settle claim st => s.current w = some claim.ticket ∧ claim.workerId = w ∧
      st.status ≠ .processing
  | .commit => Released w s ∨ ∃ tk, Settled w tk s
  | e => ∀ k, e.key? = some k → Business k

namespace Fence

variable {s t : World} {w : Worker} {D : Deployment} {c : Choice}

/-- The fence does not depend on the locks, the engine or what has been shown. -/
theorem of_same (h : Fence s) (hs : t.store = s.store) (hc : t.current = s.current) : Fence t := by
  constructor
  · rw [hs]; exact h.rows
  · rw [hs, hc]; exact h.owner
  · rw [hs, hc]; exact h.settling
  · rw [hs, hc]; exact h.writing
  · rw [hs]; exact h.written

/-- A transaction that ends without committing, with its session's claim or not. -/
theorem abandon (h : Fence s) (hs : t.store = s.store.rollback w)
    (hc : ∀ v, v ≠ w → t.current v = s.current v)
    (hw : t.current w = s.current w ∨ t.current w = none) : Fence t := by
  have hcom : t.store.committed = s.store.committed := by rw [hs]; rfl
  have hpen : ∀ k v x, t.store.pending k = some (v, x) →
      v ≠ w ∧ s.store.pending k = some (v, x) := by
    intro k v x hp
    rw [hs, Store.pending_rollback, Store.drop_eq_some_iff] at hp
    exact ⟨hp.2, hp.1⟩
  constructor
  · rw [hcom]; exact h.rows
  · intro id c n v hh tk hid hch hv htk
    rw [hcom] at hid
    refine h.owner id c n v hh tk hid hch ?_ htk
    by_cases hvw : v = w
    · subst hvw
      rcases hw with hw | hw
      · rwa [hw] at hv
      · rw [hw] at hv
        cases hv
    · rwa [hc v hvw] at hv
  · intro id v x hp
    obtain ⟨hv, hp⟩ := hpen _ v x hp
    rw [hcom, hc v hv]
    exact h.settling id v x hp
  · intro k v x hk hp
    obtain ⟨hv, hp⟩ := hpen k v x hp
    rw [hcom, hc v hv]
    exact h.writing k v x hk hp
  · rw [hcom]; exact h.written

/-- A transaction that holds nothing commits nothing. -/
theorem quit (h : Fence s) (hclean : s.store.Clean w) (hs : t.store = s.store.commit w)
    (hc : t.current = Function.update s.current w none) : Fence t := by
  refine h.abandon (w := w) ?_ (fun v hv => by rw [hc, Function.update_of_ne hv])
    (.inr (by rw [hc, Function.update_self]))
  rw [hs, hclean.commit_eq]
  have hr : s.store.rollback w = ⟨s.store.committed, (s.store.commit w).pending⟩ := rfl
  rw [hr, hclean.commit_eq]

/-- A keyed statement on a business table. -/
theorem touched {k : Key} (h : Fence s) (hk : Business k) (ht : Touched w k s t) : Fence t := by
  have hinbox : ∀ id, t.store.pending (.inbox id) = s.store.pending (.inbox id) := by
    intro id
    rcases ht.pending (.inbox id) with hp | ⟨-, hl | ⟨i, hl⟩, -⟩
    · exact hp
    · exact absurd hl.symm (hk id)
    · cases hl
  constructor
  · rw [ht.committed]; exact h.rows
  · rw [ht.committed, ht.current]; exact h.owner
  · intro id v x hp
    rw [ht.committed, ht.current]
    exact h.settling id v x (hinbox id ▸ hp)
  · intro l v x hl hp
    rw [ht.committed, ht.current]
    rcases ht.pending l with hp' | ⟨-, -, cell, hc, hw⟩
    · exact h.writing l v x hl (hp' ▸ hp)
    · obtain ⟨rfl, rfl⟩ := Prod.mk.inj (Option.some.inj (hc.symm.trans hp))
      refine ⟨cell, rfl, ?_⟩
      rcases hw with hw | ⟨hw, -⟩
      · -- a version `w` has read: its own, or the committed one
        by_cases hheld : s.store.Holds w l
        · obtain ⟨y, hy⟩ := hheld
          obtain ⟨d, rfl, hd⟩ := h.writing l w y hl hy
          have hview : s.cell w l = some d := Store.view_of_pending hy
          obtain rfl : d = cell := Option.some.inj (hview.symm.trans hw)
          exact hd
        · exact .inr ((Store.view_of_not_holds hheld).symm.trans hw)
      · exact .inl hw
  · rw [ht.committed]; exact h.written

/-- A claim by a session that holds nothing. -/
theorem claim {id : Nat} {cell : Cell (.inbox id)} {lease : Int} {now : Instant} (h : Fence s)
    (hclean : s.store.Clean w) (hc : s.cell w (.inbox id) = some cell)
    (hf : s.store.free w (.inbox id) = true)
    (hs : t.store = (s.claimRow w id (claimedRow cell.row w lease now)).store)
    (hv : ∀ v, v ≠ w → t.current v = s.current v)
    (hw : ∀ tk, t.current w = some tk → tk = (claimOf id (claimedRow cell.row w lease now) w).ticket) :
    Fence t := by
  have hold : s.store.committed (.inbox id) = some cell := (hclean.view _).symm.trans hc
  have hnew : t.store = ⟨Function.update s.store.committed (.inbox id)
      (some ⟨claimedRow cell.row w lease now, none, none⟩), s.store.pending⟩ := by
    rw [hs]
    exact hclean.commit_put hf
  have hself : t.store.committed (.inbox id) =
      some ⟨claimedRow cell.row w lease now, none, none⟩ := by
    rw [hnew]
    exact Function.update_self ..
  have hother : ∀ k : Key, k ≠ .inbox id → t.store.committed k = s.store.committed k := by
    intro k hk
    rw [hnew]
    exact Function.update_of_ne hk ..
  have hpend : t.store.pending = s.store.pending := by rw [hnew]
  have hfree : ∀ v x, s.store.pending (.inbox id) ≠ some (v, x) := by
    intro v x hp
    obtain rfl := Store.free_iff.1 hf v ⟨x, hp⟩
    exact hclean _ ⟨x, hp⟩
  have hholder : ∀ k v x, s.store.pending k = some (v, x) → v ≠ w := by
    rintro k v x hp rfl
    exact hclean k ⟨x, hp⟩
  constructor
  · intro id' d hd
    by_cases hid : id' = id
    · subst hid
      obtain rfl := Option.some.inj (hself.symm.trans hd)
      exact ⟨.claimed w (h.rows _ _ hold).1, rfl, rfl⟩
    · exact h.rows id' d ((hother _ fun he => hid (Key.inbox.inj he)).symm.trans hd)
  · intro id' d n v hh tk hd hdh hcur hrow
    by_cases hid : id' = id
    · subst hid
      obtain rfl := Option.some.inj (hself.symm.trans hd)
      obtain ⟨hn, rfl⟩ := RowEvent.claimed.inj (List.cons.inj hdh).1
      rw [hw tk hcur, ← hn]
      exact claimCount_claimed (n := claimCount cell.row.history + 1) (w := w)
    · have hd' := (hother _ fun he => hid (Key.inbox.inj he)).symm.trans hd
      by_cases hvw : v = w
      · subst hvw
        rw [hw tk hcur] at hrow
        exact absurd hrow.symm hid
      · exact h.owner id' d n v hh tk hd' hdh (hv v hvw ▸ hcur) hrow
  · intro id' v x hp
    rw [hpend] at hp
    have hid : id' ≠ id := by
      rintro rfl
      exact hfree v x hp
    rw [hother _ fun he => hid (Key.inbox.inj he), hv v (hholder _ v x hp)]
    exact h.settling id' v x hp
  · intro k v x hk hp
    rw [hpend] at hp
    rw [hother k (hk id), hv v (hholder k v x hp)]
    exact h.writing k v x hk hp
  · intro k d tk hk hd hwr
    obtain ⟨r, hr, hm⟩ := h.written k d tk hk ((hother k (hk id)).symm.trans hd) hwr
    by_cases hid : tk.row = id
    · subst hid
      obtain rfl := Option.some.inj (hold.symm.trans hr)
      exact ⟨_, hself, List.mem_cons_of_mem _ hm⟩
    · exact ⟨r, (hother _ fun he => hid (Key.inbox.inj he)).trans hr, hm⟩

/-- **The fence admits only the last claim.** What `_settle` compares, and a
session that executes one claim at a time, leave no other claim. -/
theorem admits {claim : Claim} {cell : Cell (.inbox claim.rowId)} (h : Fence s)
    (hcur : s.current w = some claim.ticket) (hid : claim.workerId = w)
    (hf : s.store.free w (.inbox claim.rowId) = true)
    (hc : s.cell w (.inbox claim.rowId) = some cell) (hfence : fenced cell.row claim = true) :
    s.store.committed (.inbox claim.rowId) = some cell ∧
      ∃ h', cell.row.history = .claimed claim.no w :: h' := by
  unfold fenced at hfence
  rw [Bool.and_eq_true, Bool.and_eq_true, beq_iff_eq, beq_iff_eq] at hfence
  obtain ⟨⟨hstatus, hby⟩, -⟩ := hfence
  -- an open settlement of the row would have left it in another status
  have hcom : s.store.committed (.inbox claim.rowId) = some cell := by
    refine (Store.view_of_not_holds ?_).symm.trans hc
    rintro ⟨x, hx⟩
    obtain ⟨tk, c, d, status, h', -, -, -, -, rfl, hd, hcons⟩ := h.settling _ w x hx
    have hview : s.cell w (.inbox claim.rowId) = some d := Store.view_of_pending hx
    obtain rfl : d = cell := Option.some.inj (hview.symm.trans hc)
    unfold Consistent at hcons
    rw [hd] at hcons
    exact hcons.2 (hcons.1.symm.trans hstatus)
  refine ⟨hcom, ?_⟩
  have hcons := (h.rows _ _ hcom).2
  unfold Consistent at hcons
  cases hh : cell.row.history with
  | nil =>
    rw [hh] at hcons
    exact absurd hstatus hcons
  | cons e h' =>
    cases e with
    | settled n status =>
      rw [hh] at hcons
      exact absurd (hcons.1.symm.trans hstatus) hcons.2
    | claimed n v =>
      rw [hh] at hcons
      have hv : v = w := by
        have := hcons.2.symm.trans hby
        rw [hid] at this
        exact Option.some.inj this
      subst hv
      have hno : claim.no = n := h.owner _ cell n v h' _ hcom hh hcur rfl
      exact ⟨h', by rw [hno]⟩

/-- The row an admitted settlement leaves pending. -/
theorem settle {claim : Claim} {cell : Cell (.inbox claim.rowId)} {st : Settlement} {now : Instant}
    (h : Fence s) (hcur : s.current w = some claim.ticket) (hid : claim.workerId = w)
    (hst : st.status ≠ .processing) (hf : s.store.free w (.inbox claim.rowId) = true)
    (hc : s.cell w (.inbox claim.rowId) = some cell) (hfence : fenced cell.row claim = true) :
    Fence (s.settleRow w claim.rowId (settledRow cell.row claim st now)) := by
  obtain ⟨hcom, h', hh⟩ := h.admits hcur hid hf hc hfence
  have hself : (s.settleRow w claim.rowId (settledRow cell.row claim st now)).store.pending
      (.inbox claim.rowId) = some (w, some ⟨settledRow cell.row claim st now, none, none⟩) :=
    Store.pending_put_self
  have hother : ∀ k : Key, k ≠ .inbox claim.rowId →
      (s.settleRow w claim.rowId (settledRow cell.row claim st now)).store.pending k =
        s.store.pending k := fun k hk => Store.pending_put_of_ne hk
  constructor
  · exact h.rows
  · exact h.owner
  · intro id v x hp
    by_cases hidr : id = claim.rowId
    · subst hidr
      obtain ⟨rfl, rfl⟩ := Prod.mk.inj (Option.some.inj (hself.symm.trans hp))
      exact ⟨claim.ticket, cell, _, st.status, h', hcur, rfl, hcom, hh, rfl, rfl, rfl, hst⟩
    · rw [hother _ fun he => hidr (Key.inbox.inj he)] at hp
      exact h.settling id v x hp
  · intro k v x hk hp
    rw [hother k (hk _)] at hp
    exact h.writing k v x hk hp
  · exact h.written

/-- The row a commit makes of an inbox row: the settlement the session holds open,
or the row as it was. -/
theorem committed_commit (h : Fence s) (w : Worker) (id : Nat) :
    ((s.store.commit w).committed (.inbox id) = s.store.committed (.inbox id) ∧
        ¬ s.store.Holds w (.inbox id)) ∨
      ∃ tk c d status h', s.current w = some tk ∧ tk.row = id ∧
        s.store.committed (.inbox id) = some c ∧ c.row.history = .claimed tk.no w :: h' ∧
        s.store.pending (.inbox id) = some (w, some d) ∧
        (s.store.commit w).committed (.inbox id) = some d ∧
        d.row.history = .settled tk.no status :: c.row.history ∧ Consistent d.row := by
  by_cases hheld : s.store.Holds w (.inbox id)
  · obtain ⟨x, hx⟩ := hheld
    obtain ⟨tk, c, d, status, h', hcur, hrow, hc, hch, rfl, hd, hcons⟩ := h.settling id w x hx
    exact .inr ⟨tk, c, d, status, h', hcur, hrow, hc, hch, hx, Store.view_of_pending hx, hd, hcons⟩
  · exact .inl ⟨Store.committed_commit_of_not_holds hheld, hheld⟩

/-- **A commit within the fence**: nothing held but inbox rows, or the settlement
of the claim is part of the transaction. -/
theorem commit (h : Fence s) (hg : Released w s ∨ ∃ tk, Settled w tk s) :
    Fence { s with store := s.store.commit w } := by
  -- a row another session holds is none of `w`'s
  have hothers : ∀ k v x, (s.store.commit w).pending k = some (v, x) →
      s.store.pending k = some (v, x) ∧
        (s.store.commit w).committed k = s.store.committed k := by
    intro k v x hp
    rw [Store.pending_commit, Store.drop_eq_some_iff] at hp
    refine ⟨hp.1, Store.committed_commit_of_not_holds fun hw => hp.2 ?_⟩
    exact (Store.holds_unique hw ⟨x, hp.1⟩).symm
  constructor
  · intro id c hc
    rcases h.committed_commit w id with ⟨hsame, -⟩ |
      ⟨tk, c', d, status, h', -, -, hc', hch, -, hd, hdh, hcons⟩
    · exact h.rows id c (hsame.symm.trans hc)
    · obtain rfl : d = c := Option.some.inj (hd.symm.trans hc)
      have hf := (h.rows id c' hc').1
      rw [hch] at hf hdh
      exact ⟨hdh ▸ .settled status hf, hcons⟩
  · intro id c n v hh tk hc hch hcur hrow
    rcases h.committed_commit w id with ⟨hsame, -⟩ | ⟨tk', c', d, status, h', -, -, -, -, -, hd, hdh, -⟩
    · exact h.owner id c n v hh tk (hsame.symm.trans hc) hch hcur hrow
    · obtain rfl : d = c := Option.some.inj (hd.symm.trans hc)
      rw [hdh] at hch
      cases (List.cons.inj hch).1
  · intro id v x hp
    obtain ⟨hp', hcom⟩ := hothers _ v x hp
    obtain ⟨tk, c, d, status, h', hcur, hrow, hc, hrest⟩ := h.settling id v x hp'
    exact ⟨tk, c, d, status, h', hcur, hrow, hcom.trans hc, hrest⟩
  · intro k v x hk hp
    obtain ⟨hp', hcom⟩ := hothers k v x hp
    obtain ⟨c, hc, hw⟩ := h.writing k v x hk hp'
    exact ⟨c, hc, hw.imp_right fun hw => hcom.trans hw⟩
  · intro k c tk hk hc hwr
    -- an old version keeps its settlement, which a commit only adds to
    have hold : ∀ r, s.store.committed (.inbox tk.row) = some r →
        .settled tk.no .processed ∈ r.row.history →
          ∃ r', (s.store.commit w).committed (.inbox tk.row) = some r' ∧
            .settled tk.no .processed ∈ r'.row.history := by
      intro r hr hm
      rcases h.committed_commit w tk.row with ⟨hsame, -⟩ |
        ⟨_, c', d, _, _, -, -, hc', -, -, hd, hdh, -⟩
      · exact ⟨r, hsame.trans hr, hm⟩
      · obtain rfl : c' = r := Option.some.inj (hc'.symm.trans hr)
        exact ⟨d, hd, hdh ▸ List.mem_cons_of_mem _ hm⟩
    by_cases hheld : s.store.Holds w k
    · obtain ⟨x, hx⟩ := hheld
      obtain ⟨d, rfl, hd⟩ := h.writing k w x hk hx
      obtain rfl : d = c := Option.some.inj ((Store.view_of_pending hx).symm.trans hc)
      rcases hd with hd | hd
      · rcases hg with hg | ⟨tk', hcur, e, h', hp, he⟩
        · exact absurd ⟨_, hx⟩ (hg k hk)
        · obtain rfl : tk' = tk := Option.some.inj (hcur.symm.trans (hd.symm.trans hwr))
          exact ⟨e, Store.view_of_pending hp, he ▸ List.mem_cons_self⟩
      · obtain ⟨r, hr, hm⟩ := h.written k d tk hk hd hwr
        exact hold r hr hm
    · obtain ⟨r, hr, hm⟩ := h.written k c tk hk
        ((Store.committed_commit_of_not_holds hheld).symm.trans hc) hwr
      exact hold r hr hm

/-- Events arrive, mappings and engine records change: none of it is a claim's. -/
theorem env {a : Env} (h : Fence s) (he : env a s = some t) : Fence t := by
  obtain ⟨-, hcur, -, hcases⟩ := env_cases he
  obtain ⟨_, -, -, hst, -⟩ | ⟨-, hpend, k, row, hfree, hcom, hk⟩ := hcases.symm
  · exact h.of_same hst hcur
  -- the replaced row: a new inbox row with nothing in its history, or a business row
  have hself : t.store.committed k = row.map fun r =>
      ⟨r, (s.store.committed k).elim none Cell.creator, none⟩ := by
    rw [hcom]
    exact Function.update_self ..
  have hother : ∀ l, l ≠ k → t.store.committed l = s.store.committed l := by
    intro l hl
    rw [hcom]
    exact Function.update_of_ne hl ..
  have hinbox : ∀ id, t.store.committed (.inbox id) = s.store.committed (.inbox id) ∨
      (k = .inbox id ∧ s.store.committed (.inbox id) = none ∧
        ∃ c, t.store.committed (.inbox id) = some c ∧ c.row.history = [] ∧
          c.row.status = .received) := by
    intro id
    by_cases hid : Key.inbox id = k
    · rcases hk with ⟨id', eid, ty, ten, data, corr, at_, -, hnone, rfl, hrow⟩ |
        ⟨tenant, le, row', -, rfl, -⟩ | ⟨ei, le, kind, cid, row', -, rfl, -⟩
      · obtain rfl := Key.inbox.inj hid
        obtain rfl := eq_of_heq hrow
        exact .inr ⟨rfl, hnone, _, hself, rfl, rfl⟩
      · cases hid
      · cases hid
    · exact .inl (hother _ hid)
  have hwriter : ∀ l c, Business l → t.store.committed l = some c →
      s.store.committed l = some c ∨ c.writer = none := by
    intro l c hl hc
    by_cases hlk : l = k
    · subst hlk
      rw [hself] at hc
      cases row with
      | none => cases hc
      | some r =>
        obtain rfl := Option.some.inj hc
        exact .inr rfl
    · exact .inl ((hother l hlk).symm.trans hc)
  constructor
  · intro id c hc
    rcases hinbox id with hsame | ⟨-, -, d, hd, hh, hst⟩
    · exact h.rows id c (hsame.symm.trans hc)
    · obtain rfl := Option.some.inj (hd.symm.trans hc)
      refine ⟨hh ▸ .received, ?_⟩
      unfold Consistent
      rw [hh]
      show d.row.status ≠ .processing
      rw [hst]
      exact InboxStatus.noConfusion
  · intro id c n v hh tk hc hch
    rw [hcur]
    rcases hinbox id with hsame | ⟨-, -, d, hd, hdh, -⟩
    · exact h.owner id c n v hh tk (hsame.symm.trans hc) hch
    · obtain rfl := Option.some.inj (hd.symm.trans hc)
      rw [hdh] at hch
      cases hch
  · intro id v x hp
    rw [hpend] at hp
    obtain ⟨tk, c, d, status, h', hcu, hrow, hc, hrest⟩ := h.settling id v x hp
    rw [hcur]
    refine ⟨tk, c, d, status, h', hcu, hrow, ?_, hrest⟩
    rcases hinbox id with hsame | ⟨rfl, -, -⟩
    · exact hsame.trans hc
    · rw [hfree] at hp
      cases hp
  · intro l v x hl hp
    rw [hpend] at hp
    rw [hcur, hother l (by rintro rfl; rw [hfree] at hp; cases hp)]
    exact h.writing l v x hl hp
  · intro l c tk hl hc hw
    rcases hwriter l c hl hc with hc | hn
    · obtain ⟨r, hr, hm⟩ := h.written l c tk hl hc hw
      rcases hinbox tk.row with hsame | ⟨-, hnone, -⟩
      · exact ⟨r, hsame.trans hr, hm⟩
      · rw [hnone] at hr
        cases hr
    · rw [hn] at hw
      cases hw

/-- A session's end. -/
theorem close (h : Fence s) (w : Worker) : Fence (World.close w s) :=
  h.abandon (w := w) rfl
    (fun v hv => by
      show Function.update s.current w none v = s.current v
      rw [Function.update_of_ne hv])
    (.inr (by
      show Function.update s.current w none w = none
      rw [Function.update_self]))

/-- **A guarded call keeps the fence.** -/
theorem exec {e : Eff} {r : Except Exc (Ans e)} (h : Fence s) (hg : FenceGuard w e s)
    (he : exec D w e c s = some (r, t)) : Fence t := by
  have abort : Fence (s.abort w) := h.abandon (w := w) rfl (fun _ _ => rfl) (.inl rfl)
  have keyed : ∀ k, e.key? = some k → Business k → Fence t := fun k hk hb => by
    rcases exec_keyed hk he with ⟨-, rfl⟩ | ht
    · exact abort
    · exact h.touched hb ht
  have quiet : e.quiet = true → Fence t := fun hq => by
    obtain ⟨hs, -, -, hc⟩ := exec_quiet hq he
    exact h.of_same hs hc
  cases e with
  | claim ty lease =>
    have hclean : s.store.Clean w := hg
    obtain ⟨-, -, -, ⟨claim, id, cell, -, hc, hf, rfl, -, hst, hcur⟩ | ⟨-, hcur, hst⟩⟩ :=
      exec_claim he
    · refine h.claim hclean hc hf hst (fun v hv => by rw [hcur, Function.update_of_ne hv]) ?_
      intro tk htk
      rw [hcur, Function.update_self] at htk
      exact (Option.some.inj htk).symm
    · have hv : ∀ v, v ≠ w → t.current v = s.current v := fun v hv => by
        rw [hcur, Function.update_of_ne hv]
      have hw : t.current w = none := by rw [hcur, Function.update_self]
      rcases hst with hst | hst | ⟨id, cell, hc, hf, hst⟩
      · exact h.quit hclean hst hcur
      · exact h.abandon hst hv (.inr hw)
      · exact h.claim hclean hc hf hst hv fun tk htk => by rw [hw] at htk; cases htk
  | settle claim st =>
    obtain ⟨hcur, hid, hstatus⟩ := hg
    rcases exec_settle he with ⟨-, rfl⟩ | ⟨-, rfl⟩ | ⟨cell, -, hf, hc, hfence, rfl⟩
    · exact abort
    · exact h
    · exact h.settle hcur hid hstatus hf hc hfence
  | commit =>
    rcases exec_commit he with rfl | ⟨-, rfl⟩
    · exact h.commit hg
    · exact abort
  | rollback =>
    obtain rfl := exec_rollback he
    exact abort
  | tryLock key =>
    rcases exec_tryLock he with ⟨-, rfl⟩ | ⟨-, rfl⟩ | ⟨-, n, rfl, -⟩
    · exact abort
    · exact h
    · exact h.of_same rfl rfl
  | unlock key =>
    rcases exec_unlock he with ⟨-, rfl⟩ | rfl
    · exact abort
    · obtain ⟨hs, -, hc⟩ := release_same (s := s) (w := w) (h := D.hashes.hashtext key)
      exact h.of_same hs hc
  | createRecord σ fields =>
    rcases (exec_createRecord he).2 with ⟨rfl, -⟩ | ⟨-, rfl⟩
    · exact h.of_same rfl rfl
    · exact h
  | updateRecord σ id fields =>
    rcases exec_updateRecord he with rfl | rfl
    · exact h.of_same rfl rfl
    · exact h
  | select k => exact keyed k rfl (hg k rfl)
  | selectForUpdate k => exact keyed k rfl (hg k rfl)
  | insert k row => exact keyed k rfl (hg k rfl)
  | insertNew k row => exact keyed k rfl (hg k rfl)
  | update k set => exact keyed k rfl (hg k rfl)
  | upsert k row set => exact keyed k rfl (hg k rfl)
  | query σ table value => exact quiet rfl
  | defaultGroups σ => exact quiet rfl
  | getRecord σ table id => exact quiet rfl
  | executeProcess σ p ps => exact quiet rfl
  | now => exact quiet rfl
  | uuid4 => exact quiet rfl
  | authorityFor claim => exact quiet rfl
  | assess op => exact quiet rfl

end Fence

/-! ### The executors are within the fence -/

/-- The protocol of the lease fence. -/
def fence (D : Deployment) : Protocol (InboxWorker.machine D) where
  Inv := Fence
  Guard := FenceGuard
  EnvOk _ _ := True
  inv_exec h hg he := Fence.exec h hg he
  inv_close h := Fence.close h _
  inv_env h _ he := Fence.env h he

/-- `w` holds nothing. -/
def Idle (w : Worker) (s : World) : Prop := s.store.Clean w

/-- `w` executes `claim` and holds nothing. -/
def Working (w : Worker) (claim : Claim) (s : World) : Prop :=
  s.store.Clean w ∧ s.current w = some claim.ticket ∧ claim.workerId = w

/-- `w` executes `claim` and may have written business rows. -/
def Writing (w : Worker) (claim : Claim) (s : World) : Prop :=
  (∀ id, ¬ s.store.Holds w (.inbox id)) ∧ s.current w = some claim.ticket ∧ claim.workerId = w

/-- `w` executes `claim`, whatever it has written. -/
def Executing (w : Worker) (claim : Claim) (s : World) : Prop :=
  s.current w = some claim.ticket ∧ claim.workerId = w

section Walk

variable {D : Deployment} {w : Worker} {claim : Claim} {s t : World}

theorem Working.writing (h : Working w claim s) : Writing w claim s := ⟨fun _ => h.1 _, h.2⟩

theorem Working.executing (h : Working w claim s) : Executing w claim s := h.2

theorem Working.abort (h : Executing w claim s) : Working w claim (s.abort w) :=
  ⟨Store.clean_rollback, h⟩

def idle (w : Worker) : (fence D).Assertion w := own (Idle w) fun _ _ h => h.clean.2

def working (w : Worker) (claim : Claim) : (fence D).Assertion w :=
  own (Working w claim) fun _ _ h hA => ⟨h.clean.2 hA.1, h.current.trans hA.2.1, hA.2.2⟩

def writing (w : Worker) (claim : Claim) : (fence D).Assertion w :=
  own (Writing w claim) fun _ _ h hA =>
    ⟨fun id hid => hA.1 id ((h.holds _).1 hid), h.current.trans hA.2.1, hA.2.2⟩

def executing (w : Worker) (claim : Claim) : (fence D).Assertion w :=
  own (Executing w claim) fun _ _ h hA => ⟨h.current.trans hA.1, hA.2⟩

/-- The row of `claim` is settled as processed in the open transaction. -/
def settled (w : Worker) (claim : Claim) : (fence D).Assertion w :=
  own (fun s => Executing w claim s ∧ Settled w claim.ticket s) fun _ _ h ⟨hA, hs, c, h', hp, hh⟩ =>
    ⟨⟨h.current.trans hA.1, hA.2⟩, h.current.trans hs, c, h', (h.held _ _).2 hp, hh⟩

/-- Only the row of `claim` is settled in the open transaction. -/
def released (w : Worker) (claim : Claim) : (fence D).Assertion w :=
  own (fun s => Executing w claim s ∧ Released w s) fun _ _ h ⟨hA, hr⟩ =>
    ⟨⟨h.current.trans hA.1, hA.2⟩, fun k hk hh => hr k hk ((h.holds k).1 hh)⟩

/-! #### Single calls -/

/-- Calls that hold no row: reads, locks, the engine. -/
def steady : Eff → Bool
  | .tryLock _ => true
  | .unlock _ => true
  | .createRecord _ _ => true
  | .updateRecord _ _ _ => true
  | e => e.reads

theorem steady_of_reads {e : Eff} (h : e.reads = true) : steady e = true := by
  cases e <;> first | exact h | rfl

theorem guard_of_quiet {e : Eff} (he : e.quiet = true) : FenceGuard w e s := by
  cases e <;> first | cases he; done | (intro k hk; cases hk)

theorem guard_of_key {e : Eff} {k : Key} (he : e.key? = some k) (hk : Business k) :
    FenceGuard w e s := by
  have hkey : ∀ l, e.key? = some l → Business l := fun l hl => by
    obtain rfl := Option.some.inj (he.symm.trans hl)
    exact hk
  cases e <;> first | exact hkey | cases he

theorem guard_of_steady {e : Eff} (he : steady e = true) (hs : s.store.Clean w) :
    FenceGuard w e s := by
  cases e with
  | select k =>
    refine guard_of_key rfl ?_
    rintro id rfl
    cases he
  | commit => exact .inl fun k _ => hs k
  | rollback => exact fun k hk => by cases hk
  | tryLock _ => exact fun k hk => by cases hk
  | unlock _ => exact fun k hk => by cases hk
  | createRecord _ _ => exact fun k hk => by cases hk
  | updateRecord _ _ _ => exact fun k hk => by cases hk
  | claim _ _ => cases he
  | settle _ _ => cases he
  | selectForUpdate _ => cases he
  | insert _ _ => cases he
  | insertNew _ _ => cases he
  | update _ _ => cases he
  | upsert _ _ _ => cases he
  | _ => exact guard_of_quiet he

/-- A call that holds no row leaves the session as it was. -/
theorem steady_keeps {e : Eff} (he : steady e = true) :
    Keeps (working w claim : (fence D).Assertion w) _ (.perform e) := by
  have same : ∀ {s t : World}, t.store = s.store → t.current = s.current → Working w claim s →
      Working w claim t := fun hs hc hA => ⟨by rw [hs]; exact hA.1, by rw [hc]; exact hA.2.1, hA.2.2⟩
  refine call_keeps (fun s _ hA => guard_of_steady he hA.1) fun c s t r _ _ hA hex => ?_
  have quiet : e.quiet = true → Working w claim t := fun hq => by
    obtain ⟨hs, -, -, hc⟩ := exec_quiet hq hex
    exact same hs hc hA
  cases e with
  | select k =>
    rcases exec_select hex with ⟨-, rfl⟩ | ⟨-, rfl⟩
    · exact .abort hA.2
    · exact same seeRow_store seeRow_current hA
  | commit =>
    rcases exec_commit hex with rfl | ⟨-, rfl⟩
    · exact ⟨Store.clean_commit, hA.2⟩
    · exact .abort hA.2
  | rollback =>
    obtain rfl := exec_rollback hex
    exact .abort hA.2
  | tryLock key =>
    rcases exec_tryLock hex with ⟨-, rfl⟩ | ⟨-, rfl⟩ | ⟨-, n, rfl, -⟩
    · exact .abort hA.2
    · exact hA
    · exact same rfl rfl hA
  | unlock key =>
    rcases exec_unlock hex with ⟨-, rfl⟩ | rfl
    · exact .abort hA.2
    · obtain ⟨hs, -, hc⟩ := release_same (s := s) (w := w) (h := D.hashes.hashtext key)
      exact same hs hc hA
  | createRecord σ fields =>
    rcases (exec_createRecord hex).2 with ⟨rfl, -⟩ | ⟨-, rfl⟩
    · exact same rfl rfl hA
    · exact hA
  | updateRecord σ id fields =>
    rcases exec_updateRecord hex with rfl | rfl
    · exact same rfl rfl hA
    · exact hA
  | claim _ _ => cases he
  | settle _ _ => cases he
  | selectForUpdate _ => cases he
  | insert _ _ => cases he
  | insertNew _ _ => cases he
  | update _ _ => cases he
  | upsert _ _ _ => cases he
  | _ => exact quiet rfl

/-- A statement on a business row inside the recording transaction. -/
theorem records_keep (e : Eff) (hrec : e.records = true) :
    Keeps (writing w claim : (fence D).Assertion w) _ (.perform e) := by
  obtain ⟨k, he, hk⟩ := e.key_of_records hrec
  refine call_keeps (fun s _ _ => guard_of_key he hk) fun c s t r _ _ hA hex => ?_
  rcases exec_keyed he hex with ⟨-, rfl⟩ | ht
  · exact (Working.abort hA.2).writing
  · refine ⟨fun id ⟨x, hx⟩ => ?_, by rw [ht.current]; exact hA.2.1, hA.2.2⟩
    rcases ht.pending (.inbox id) with hp | ⟨-, hl | ⟨i, hl⟩, -⟩
    · exact hA.1 id ⟨x, hp.symm.trans hx⟩
    · exact hk id hl.symm
    · cases hl

theorem quiet_keeps {e : Eff} (he : e.quiet = true) :
    Keeps (writing w claim : (fence D).Assertion w) _ (.perform e) := by
  refine call_keeps (fun s _ _ => guard_of_quiet he) fun c s t r _ _ hA hex => ?_
  obtain ⟨hs, -, -, hc⟩ := exec_quiet he hex
  exact ⟨fun id hid => hA.1 id (by rwa [hs] at hid), by rw [hc]; exact hA.2.1, hA.2.2⟩

/-- A rollback, and a failed one too, leaves the session holding nothing. -/
theorem rollback_triple :
    (fence D).Triple w (executing w claim) Call.rollback fun _ => working w claim := by
  refine call_triple (fun _ _ _ k hk => by cases hk) fun c s t r _ _ hA _ hex => ?_
  obtain rfl := exec_rollback hex
  exact Working.abort hA

theorem commit_triple {A : (fence D).Assertion w} (hA : ∀ s, A.holds s → Executing w claim s ∧
      (Released w s ∨ ∃ tk, Settled w tk s)) :
    (fence D).Triple w A Call.commit fun _ => working w claim := by
  refine call_triple (fun s _ h => (hA s h).2) fun c s t r _ _ h _ hex => ?_
  rcases exec_commit hex with rfl | ⟨-, rfl⟩
  · exact ⟨Store.clean_commit, (hA s h).1⟩
  · exact Working.abort (hA s h).1

/-! #### The transactions -/

/-- A settlement is made, or the row belongs to another worker now, or the call fails. -/
theorem settleRow_triple {A B : (fence D).Assertion w} {st : Settlement}
    (hst : st.status ≠ .processing) (hA : ∀ s, A.holds s → Executing w claim s)
    (hB : ∀ (s : World) (cell : Cell (.inbox claim.rowId)) (now : Instant), Fence s → A.holds s →
      s.cell w (.inbox claim.rowId) = some cell →
      B.holds (s.settleRow w claim.rowId (settledRow cell.row claim st now))) :
    (fence D).Triple w A (settleRow claim st) (.ends (fun _ => B) (executing w claim)) := by
  have hcall : (fence D).Triple w A (Call.settle claim st) (.ends (fun n : Nat =>
      (Protocol.Assertion.const (n = 1)).and B |>.or
        ((Protocol.Assertion.const (n = 0)).and (executing w claim))) (executing w claim)) := by
    refine call_triple (fun s _ h => ⟨(hA s h).1, (hA s h).2, hst⟩) fun c s t r hs _ h _ hex => ?_
    rcases exec_settle hex with ⟨⟨x, rfl⟩, rfl⟩ | ⟨rfl, rfl⟩ | ⟨cell, rfl, -, hc, -, rfl⟩
    · exact hA s h
    · exact .inr ⟨rfl, hA t h⟩
    · exact .inl ⟨rfl, hB s cell c.now hs h hc⟩
  refine hcall.seq fun n => .or (.given ?_) (.given ?_)
  · rintro rfl
    exact .pure fun _ _ h => h
  · rintro rfl
    exact .throw fun _ _ h => h

theorem nextAttempt_keeps (delay : Option Int) :
    Keeps (working w claim : (fence D).Assertion w) _ (nextAttempt delay) :=
  nextAttempt_closed closed_keeps (fun _ he _ => steady_keeps (steady_of_reads he)) delay

/-- Settling a row by itself: nothing else is in the transaction. -/
theorem settleRow_released {st : Settlement} (hst : st.status ≠ .processing) :
    (fence D).Triple w (working w claim) (settleRow claim st)
      (.ends (fun _ => released w claim) (executing w claim)) := by
  refine settleRow_triple hst (fun _ h => h.2) fun s cell now _ hA _ => ⟨hA.2, fun k hk hh => ?_⟩
  rcases Store.holds_put_iff.1 hh with ⟨hl, -⟩ | ⟨-, hh⟩
  · exact hk claim.rowId hl
  · exact hA.1 k hh

theorem release_released {status : InboxStatus} {code error : String} {next : Option Instant}
    {refund : Bool} :
    (fence D).Triple w (working w claim) (release claim status code error next refund)
      (.ends (fun _ => released w claim) (executing w claim)) := by
  unfold release
  split
  · rename_i hstatus
    have hst : ∀ error, (⟨status, code, error, next, refund⟩ : Settlement).status ≠ .processing := by
      rintro error rfl
      rcases hstatus with h | h | h <;> cases h
    exact settleRow_released (hst _)
  · exact .throw fun _ _ h => h.2

theorem commit_released :
    (fence D).Triple w (released w claim) Call.commit fun _ => working w claim :=
  commit_triple fun _ h => ⟨h.1, .inl h.2⟩

theorem commit_settled :
    (fence D).Triple w (settled w claim) Call.commit fun _ => working w claim :=
  commit_triple fun _ h => ⟨h.1, .inr ⟨_, h.2⟩⟩

/-- The end of a recording transaction. -/
theorem finish_triple (code : String) :
    (fence D).Triple w (writing w claim) (do processed claim code; Call.commit)
      (.ends (fun _ => working w claim) (executing w claim)) := by
  have hsettle : (fence D).Triple w (writing w claim) (processed claim code)
      (.ends (fun _ => settled w claim) (executing w claim)) := by
    refine settleRow_triple (fun h => by cases h) (fun _ h => h.2) fun s cell now _ hA _ => ?_
    exact ⟨hA.2, hA.2.1, _, cell.row.history, Store.pending_put_self, rfl⟩
  refine hsettle.seq fun _ => commit_settled.post fun r _ _ h => ?_
  cases r with
  | ok _ => exact h
  | error _ => exact h.2

/-- One statement of a recording transaction and what follows it. -/
theorem writing_seq {α β : Type} {p : Program α} {f : α → Program β} {B : (fence D).Assertion w}
    (hp : Keeps (writing w claim : (fence D).Assertion w) _ p)
    (hf : ∀ a, (fence D).Triple w (writing w claim) (f a) (.ends (fun _ => B) (executing w claim))) :
    (fence D).Triple w (writing w claim) (p >>= f) (.ends (fun _ => B) (executing w claim)) :=
  hp.bind hf fun _ _ _ h => h.2

/-- **The recording transaction.** Whatever fails in it, all of it is rolled back. -/
theorem orRollback_keeps {body : Program Unit}
    (hbody : (fence D).Triple w (writing w claim) body
      (.ends (fun _ => working w claim) (executing w claim))) :
    Keeps (working w claim : (fence D).Assertion w) _ (orRollback body) := by
  have hbody : (fence D).Triple w (working w claim) body
      (.ends (fun _ => working w claim) (executing w claim)) :=
    hbody.pre fun _ _ h => Working.writing h
  refine hbody.tryCatch (fun _ _ _ h => h) fun x => ?_
  exact rollback_triple.bind (fun _ => .throw fun _ _ h => h) fun _ _ _ h => h

/-! #### `settle` -/

theorem settleOutcome_triple (outcome : Outcome) :
    (fence D).Triple w (working w claim) (settleOutcome claim outcome)
      (.ends (fun _ => working w claim) (executing w claim)) := by
  have hex : ∀ {α : Type} {p : Program α},
      (fence D).Triple w (working w claim) p (fun _ => working w claim) →
        (fence D).Triple w (working w claim) p
          (.ends (fun _ => working w claim) (executing w claim)) := fun h =>
    h.post fun r _ _ hr => by
      cases r with
      | ok _ => exact hr
      | error _ => exact hr.2
  refine (hex (steady_keeps (e := .now) rfl)).seq fun now => ?_
  refine (hex (steady_keeps (e := .rollback) rfl)).seq fun _ => ?_
  have hcommit : (fence D).Triple w (released w claim)
      (do Call.commit; pure (failureOutcome outcome claim.attempts claim.receivedAt now))
      (.ends (fun _ => working w claim) (executing w claim)) :=
    commit_released.bind (fun _ => .pure fun _ _ h => h) fun _ _ _ h => h.2
  split
  · exact (settleRow_released (by exact fun h => by cases h)).seq fun _ => hcommit
  · refine (hex (nextAttempt_keeps _)).seq fun next => ?_
    exact release_released.seq fun _ => hcommit

theorem settleException_triple (x : Exc) :
    (fence D).Triple w (executing w claim) (settleException claim x)
      fun _ => working w claim := by
  have hrelease : ∀ {status code error next refund},
      (fence D).Triple w (working w claim)
        (do release claim status code error next refund; Call.commit)
        (.ends (fun _ => working w claim) (executing w claim)) := fun {_ _ _ _ _} =>
    release_released.seq fun _ => commit_released.post fun r _ _ h => by
      cases r with
      | ok _ => exact h
      | error _ => exact h.2
  unfold settleException
  split
  · exact rollback_triple.bind (fun _ => .pure fun _ _ h => h) fun _ _ _ h => h
  · refine rollback_triple.bind (fun _ => ?_) fun _ _ _ h => h
    refine (steady_keeps (e := .now) rfl).bind (fun now => ?_) fun _ _ _ h => h
    refine Protocol.Triple.bind (Q := fun _ => working w claim) ?_
      (fun _ => .pure fun _ _ h => h) fun _ _ _ h => h
    refine Protocol.Triple.tryCatch (Q := .ends (fun _ => working w claim) (executing w claim)) ?_
      (fun _ _ _ h => h) fun _ => rollback_triple
    refine (nextAttempt_keeps _).bind (fun next => hrelease) fun _ _ _ h => h.2

/-- **One attempt**: from an executor that leaves its transaction closed. -/
theorem settle_keeps {execute : Program Outcome} {codes : List String}
    (h : Keeps (working w claim : (fence D).Assertion w) _ execute) :
    Keeps (working w claim : (fence D).Assertion w) _ (settle claim execute codes) := by
  refine Protocol.Triple.tryCatch (Q := .ends (fun _ => working w claim) (executing w claim)) ?_
    (fun _ _ _ h => h) fun x => settleException_triple x
  have hexecute : Keeps (working w claim : (fence D).Assertion w) _ (outcomeOf execute) :=
    outcomeOf_closed closed_keeps h
  refine hexecute.bind (fun outcome => ?_) fun _ _ _ h => h.2
  split
  · exact .pure fun _ _ h => h
  · exact settleOutcome_triple outcome

/-! #### The two executors -/

theorem reads_keep {e : Eff} (he : e.reads = true) :
    Keeps (working w claim : (fence D).Assertion w) _ (.perform e) :=
  steady_keeps (steady_of_reads he)

theorem withLock_keeps {key : String} {body : Bool → Program Outcome}
    (h : ∀ held, Keeps (working w claim : (fence D).Assertion w) _ (body held)) :
    Keeps (working w claim : (fence D).Assertion w) _ (withLock key body) :=
  withLock_closed closed_keeps (fun _ h _ => reads_keep h) (steady_keeps (e := .tryLock key) rfl)
    (steady_keeps (e := .unlock key) rfl) h

theorem order_record_keeps {tenantId : String} {order : PlacedOrder} {nativeId : Int}
    {adopted : Bool} :
    Keeps (working w claim : (fence D).Assertion w) _
      (OrderExecution.record D claim tenantId order nativeId adopted) := by
  have hopen : ∀ now, Keeps (writing w claim : (fence D).Assertion w) _
      (Consequence.openOrder tenantId order.legalEntityId order.commerceOrderId
        order.orderVersion (erpOrderId D.hashes tenantId order.commerceOrderId) now) :=
    fun _ => Consequence.openOrder_closed closed_keeps fun e he _ => records_keep e he
  have hinsert : ∀ row, Keeps (writing w claim : (fence D).Assertion w) _
      (Call.insert (.execution tenantId order.commerceOrderId) row) :=
    fun row => records_keep (.insert (.execution _ _) row) rfl
  have hannounce : ∀ record, Keeps (writing w claim : (fence D).Assertion w) _
      (Consequence.announceRecord D.hashes record claim.correlationId) :=
    fun record => Consequence.announceRecord_closed closed_keeps fun e he _ => records_keep e he
  unfold OrderExecution.record
  refine orRollback_keeps (writing_seq (quiet_keeps (e := .now) rfl) fun now => ?_)
  refine writing_seq (hopen now) fun opened => ?_
  split
  · exact .throw fun _ _ h => h.2
  · refine writing_seq (hinsert _) fun _ => ?_
    refine writing_seq (hannounce _) fun _ => ?_
    exact finish_triple _

theorem customer_record_keeps {tenantId engineInstance code : String}
    {customer : CustomerProjection} {nativeId : Int} :
    Keeps (working w claim : (fence D).Assertion w) _
      (CustomerExecution.record D claim tenantId engineInstance customer nativeId code) := by
  refine orRollback_keeps (writing_seq
    (CustomerExecution.put_closed closed_keeps
      fun _ _ => records_keep (.upsert (.masterData _ _ _ _) _ _) rfl) fun publicId => ?_)
  exact writing_seq (CustomerExecution.announcePartner_closed closed_keeps
    (fun e he _ => records_keep e he) (quiet_keeps (e := .now) rfl)
    (records_keep (.selectForUpdate (.outcome _ _ _)) rfl)
    (fun _ => records_keep (.insertNew (.outcome _ _ _) _) rfl)
    fun _ => records_keep (.update (.outcome _ _ _) _) rfl) fun _ => finish_triple code

theorem order_keeps (authority : Option InboxNativeAuthority) :
    Keeps (working w claim : (fence D).Assertion w) _
      (OrderExecution.runClaim D claim authority) := by
  refine settle_keeps (OrderExecution.execute_closed closed_keeps (fun _ h _ => reads_keep h) ?_)
  intro tenantId engineInstance placement order _
  refine withLock_keeps (OrderExecution.executeLocked_closed closed_keeps (fun _ h _ => reads_keep h) ?_)
  refine OrderExecution.executeNew_closed closed_keeps (fun _ _ => reads_keep (e := .select _) rfl)
    (fun σ scope customer products _ => ?_) fun _ _ => order_record_keeps
  refine OrderExecution.nativeOrder_closed closed_keeps (fun _ => reads_keep (e := .assess _) rfl) ?_
  exact OrderExecution.lookupOrCreate_closed closed_keeps (fun _ h _ => reads_keep h)
    (reads_keep (e := .query _ _ _) rfl) fun fields => steady_keeps (e := .createRecord σ (.order fields)) rfl

theorem customer_keeps :
    Keeps (working w claim : (fence D).Assertion w) _ (CustomerExecution.runClaim D claim) := by
  refine settle_keeps (CustomerExecution.execute_closed closed_keeps (fun _ h _ => reads_keep h) ?_)
  intro tenantId engineInstance placement customer _
  refine withLock_keeps (CustomerExecution.executeLocked_closed closed_keeps
    (fun _ h _ => reads_keep h) (reads_keep (e := .select _) rfl) ?_)
  refine fun mapped => CustomerExecution.executeNewer_closed closed_keeps (fun σ _ => ?_)
    fun _ _ => customer_record_keeps
  exact CustomerExecution.nativePartner_closed closed_keeps (fun _ h _ => reads_keep h)
    (fun _ => reads_keep (e := .query _ _ _) rfl) (fun _ => reads_keep (e := .getRecord _ _ _) rfl)
    (fun id fields => steady_keeps (e := .updateRecord σ id (.partner fields)) rfl)
    fun fields => steady_keeps (e := .createRecord σ (.partner fields)) rfl

theorem claim_triple (eventType : String) (lease : Int) :
    (fence D).Triple w (idle w) (Call.claim eventType lease)
      (.ends (fun found => found.elim (idle w) (working w)) (idle w)) := by
  refine call_triple (fun _ _ h => h) fun c s t r _ _ hA _ hex => ?_
  have hA : s.store.Clean w := hA
  -- whatever the claim does, it ends its transaction
  have hput : ∀ {id : Nat} {cell : Cell (.inbox id)},
      t.store = (s.claimRow w id (claimedRow cell.row w lease c.now)).store → t.store.Clean w :=
    fun hst => by
      rw [hst]
      exact Store.clean_commit
  obtain ⟨-, -, -, ⟨claim, id, cell, rfl, hc, hf, rfl, -, hst, hcur⟩ | ⟨hr, hcur, hst⟩⟩ :=
    exec_claim hex
  · refine ⟨hput hst, ?_, rfl⟩
    rw [hcur, Function.update_self]
  · have hclean : t.store.Clean w := by
      rcases hst with hst | hst | ⟨id, cell, -, -, hst⟩
      · rw [hst]
        exact Store.clean_commit
      · rw [hst]
        exact Store.clean_rollback
      · exact hput hst
    rcases hr with rfl | ⟨x, rfl⟩
    · exact hclean
    · exact hclean

/-- **Every worker stays within the fence.** -/
def fenceVerified (D : Deployment) : (fence D).Verified fun _ _ => True where
  idle := idle
  envOk _ := trivial
  close _ := Store.clean_rollback
  main w launch := by
    have hend : ∀ {e : Eff}, (e = .commit ∨ e = .rollback) →
        Keeps (idle w : (fence D).Assertion w) _ (.perform e) := by
      intro e he
      refine call_keeps (fun s _ hA => guard_of_steady ?_ hA) fun c s t r _ _ hA hex => ?_
      · rcases he with rfl | rfl <;> rfl
      · rcases he with rfl | rfl
        · rcases exec_commit hex with rfl | ⟨-, rfl⟩
          · exact Store.clean_commit
          · exact Store.clean_rollback
        · obtain rfl := exec_rollback hex
          exact Store.clean_rollback
    have hmain : Keeps (idle w : (fence D).Assertion w) _ (InboxWorker.main D launch) :=
      InboxWorker.main_triple (W := fun _ => working w) claim_triple
        (fun claim => InboxWorker.authority_closed closed_keeps (fun _ h _ => reads_keep h) _)
        (fun claim authority => (order_keeps authority).post fun _ _ _ h => h.1)
        (fun claim => customer_keeps.post fun _ _ _ h => h.1)
        (hend (.inl rfl)) (hend (.inr rfl)) fun _ _ _ _ h => h.1
    exact hmain.post fun _ _ _ _ => trivial

end Walk

/-! ### Every run -/

/-- No transaction is open, no row is being executed, and no row has been written
by a claim yet. -/
structure Fresh (s : World) : Prop where
  closed : ∀ k, s.store.pending k = none
  free : ∀ w, s.current w = none
  waiting : ∀ id c, s.store.committed (.inbox id) = some c →
    c.row.history = [] ∧ c.row.status ≠ .processing
  unwritten : ∀ k c, Business k → s.store.committed k = some c → c.writer = none

theorem Fresh.fence {s : World} (h : Fresh s) : Fence s where
  rows id c hc := by
    obtain ⟨hh, hst⟩ := h.waiting id c hc
    refine ⟨hh ▸ .received, ?_⟩
    unfold Consistent
    rw [hh]
    exact hst
  owner id c n w hh tk _ _ hcur := by rw [h.free] at hcur; cases hcur
  settling id w x hp := by rw [h.closed] at hp; cases hp
  writing k w x _ hp := by rw [h.closed] at hp; cases hp
  written k c tk hk hc hw := by rw [h.unwritten k c hk hc] at hw; cases hw

/-- Histories only grow. -/
def Grows (s t : World) : Prop :=
  ∀ id c, s.store.committed (.inbox id) = some c →
    ∃ d new, t.store.committed (.inbox id) = some d ∧ d.row.history = new ++ c.row.history

namespace Grows

variable {s t u : World} {w : Worker} {D : Deployment} {c : Choice}

theorem of_eq (h : t.store.committed = s.store.committed) : Grows s t :=
  fun _ c hc => ⟨c, [], h ▸ hc, rfl⟩

theorem trans (h : Grows s t) (h' : Grows t u) : Grows s u := by
  intro id c hc
  obtain ⟨d, new, hd, hdh⟩ := h id c hc
  obtain ⟨e, new', he, heh⟩ := h' id d hd
  exact ⟨e, new' ++ new, he, by rw [heh, hdh, List.append_assoc]⟩

/-- A claim adds itself to the history of its row. -/
theorem claim {id : Nat} {cell : Cell (.inbox id)} {lease : Int} {now : Instant}
    (hclean : s.store.Clean w) (hc : s.cell w (.inbox id) = some cell)
    (hf : s.store.free w (.inbox id) = true)
    (hs : t.store = (s.claimRow w id (claimedRow cell.row w lease now)).store) : Grows s t := by
  have hold : s.store.committed (.inbox id) = some cell := (hclean.view _).symm.trans hc
  have hnew : t.store.committed = Function.update s.store.committed (.inbox id)
      (some ⟨claimedRow cell.row w lease now, none, none⟩) := by
    rw [hs]
    exact congrArg Store.committed (hclean.commit_put hf)
  intro id' d hd
  by_cases hid : id' = id
  · subst hid
    obtain rfl := Option.some.inj (hold.symm.trans hd)
    exact ⟨_, [_], by rw [hnew, Function.update_self], rfl⟩
  · refine ⟨d, [], ?_, rfl⟩
    rw [hnew, Function.update_of_ne fun he => hid (Key.inbox.inj he)]
    exact hd

/-- A commit adds the settlement the session holds open. -/
theorem commit (h : Fence s) (ht : t.store = s.store.commit w) : Grows s t := by
  intro id c hc
  rcases h.committed_commit w id with ⟨hsame, -⟩ |
    ⟨_, c', d, status, _, -, -, hc', -, -, hd, hdh, -⟩
  · exact ⟨c, [], by rw [ht]; exact hsame.trans hc, rfl⟩
  · obtain rfl := Option.some.inj (hc'.symm.trans hc)
    exact ⟨d, [_], by rw [ht]; exact hd, hdh⟩

theorem exec {e : Eff} {r : Except Exc (Ans e)} (h : Fence s) (hg : FenceGuard w e s)
    (he : exec D w e c s = some (r, t)) : Grows s t := by
  have keyed : ∀ k, e.key? = some k → Grows s t := fun k hk => by
    rcases exec_keyed hk he with ⟨-, rfl⟩ | ht
    · exact of_eq rfl
    · exact of_eq ht.committed
  have quiet : e.quiet = true → Grows s t := fun hq => of_eq (by rw [(exec_quiet hq he).1])
  cases e with
  | claim ty lease =>
    have hclean : s.store.Clean w := hg
    obtain ⟨-, -, -, ⟨_, id, cell, -, hc, hf, -, -, hst, -⟩ | ⟨-, -, hst⟩⟩ := exec_claim he
    · exact claim hclean hc hf hst
    · rcases hst with hst | hst | ⟨id, cell, hc, hf, hst⟩
      · exact commit h hst
      · exact of_eq (by rw [hst]; rfl)
      · exact claim hclean hc hf hst
  | settle claim st =>
    rcases exec_settle he with ⟨-, rfl⟩ | ⟨-, rfl⟩ | ⟨cell, -, -, -, -, rfl⟩ <;> exact of_eq rfl
  | commit =>
    rcases exec_commit he with rfl | ⟨-, rfl⟩
    · exact commit h rfl
    · exact of_eq rfl
  | rollback =>
    obtain rfl := exec_rollback he
    exact of_eq rfl
  | tryLock key =>
    rcases exec_tryLock he with ⟨-, rfl⟩ | ⟨-, rfl⟩ | ⟨-, n, rfl, -⟩ <;> exact of_eq rfl
  | unlock key =>
    rcases exec_unlock he with ⟨-, rfl⟩ | rfl
    · exact of_eq rfl
    · exact of_eq (by rw [release_same.1])
  | createRecord σ fields =>
    rcases (exec_createRecord he).2 with ⟨rfl, -⟩ | ⟨-, rfl⟩ <;> exact of_eq rfl
  | updateRecord σ id fields =>
    rcases exec_updateRecord he with rfl | rfl <;> exact of_eq rfl
  | select k => exact keyed k rfl
  | selectForUpdate k => exact keyed k rfl
  | insert k row => exact keyed k rfl
  | insertNew k row => exact keyed k rfl
  | update k set => exact keyed k rfl
  | upsert k row set => exact keyed k rfl
  | query σ table value => exact quiet rfl
  | defaultGroups σ => exact quiet rfl
  | getRecord σ table id => exact quiet rfl
  | executeProcess σ p ps => exact quiet rfl
  | now => exact quiet rfl
  | uuid4 => exact quiet rfl
  | authorityFor claim => exact quiet rfl
  | assess op => exact quiet rfl

theorem env {a : Env} (he : env a s = some t) : Grows s t := by
  obtain ⟨-, -, -, ⟨-, -, k, row, -, hcom, hk⟩ | ⟨_, -, -, hst, -⟩⟩ := env_cases he
  · intro id c hc
    refine ⟨c, [], ?_, rfl⟩
    rw [hcom, Function.update_of_ne, hc]
    -- the row an event creates was not there
    rintro rfl
    rcases hk with ⟨id', _, _, _, _, _, _, -, hnone, hid, -⟩ | ⟨_, _, _, -, hid, -⟩ |
      ⟨_, _, _, _, _, -, hid, -⟩
    · rw [← hid, hc] at hnone
      cases hnone
    · cases hid
    · cases hid
  · exact of_eq (by rw [hst])

end Grows

/-- **The lease fence.** In every run of any number of inbox workers, from any
state with no claim in progress: what a row's columns say is the last thing in
its history, and a claim settles its row at most once.  Once a row with a claim
`n` has been claimed again (`m`), whatever happens later, no settlement for `n`
is added to the history; and unless `n` had settled the row as processed before,
no row that `n` wrote is ever committed. -/
theorem lease_fence {D : Deployment} {s : World} {p : (InboxWorker.machine D).Pool}
    (hs : Fresh s) (hp : Machine.Reaches (fun _ _ => True) (Machine.idle s) p) :
    (∀ id c, p.state.store.committed (.inbox id) = some c →
      Consistent c.row ∧ ∀ n, c.row.history.countP (settles n) ≤ 1) ∧
    ∀ id c newer m v older n u, p.state.store.committed (.inbox id) = some c →
      c.row.history = newer ++ .claimed m v :: older → .claimed n u ∈ older →
      ∀ q, Machine.Reaches (fun _ _ => True) p q →
        ∃ d new, q.state.store.committed (.inbox id) = some d ∧
          d.row.history = new ++ c.row.history ∧ Consistent d.row ∧
          (∀ status, .settled n status ∉ new ++ newer) ∧
          (.settled n .processed ∉ older → ∀ k e tk, Business k →
            q.state.store.committed k = some e → e.writer = some tk → tk.row = id → tk.no ≠ n) := by
  have hsound : (fenceVerified D).Sound p :=
    (Protocol.Verified.sound_idle hs.fence fun w k ⟨x, hx⟩ => by
      rw [hs.closed] at hx; cases hx).reaches hp
  refine ⟨fun id c hc => ?_, fun id c newer m v older n u hc hh hn q hq => ?_⟩
  · obtain ⟨hf, hcons⟩ := hsound.1.rows id c hc
    exact ⟨hcons, fun n => hf.settled_once n⟩
  have hfence : Fence q.state := (hsound.reaches hq).1
  have hgrows : Grows p.state q.state :=
    hsound.relates (R := Grows) (fun _ => .of_eq rfl) Grows.trans
      (fun h hg he => Grows.exec (D := D) h hg he) (fun _ => .of_eq rfl)
      (fun _ _ he => Grows.env he) hq
  obtain ⟨d, new, hd, hdh⟩ := hgrows id c hc
  obtain ⟨hf, hcons⟩ := hfence.rows id d hd
  have hnone : ∀ status, .settled n status ∉ new ++ newer := fun status => by
    rw [hdh, hh, ← List.append_assoc] at hf
    exact hf.superseded hn
  refine ⟨d, new, hd, hdh, hcons, hnone, fun hold k e tk hk he hw hrow hno => ?_⟩
  -- a committed row of claim `n` would need the settlement that cannot be there
  subst hrow
  obtain ⟨r, hr, hm⟩ := hfence.written k e tk hk he hw
  obtain rfl := Option.some.inj (hd.symm.trans hr)
  rw [hdh, hh, ← List.append_assoc, List.mem_append, hno] at hm
  rcases hm with hm | hm
  · exact hnone _ hm
  · rcases List.mem_cons.1 hm with hm | hm
    · cases hm
    · exact hold hm

/-- A deployment without engine credentials. -/
def noEngine : Deployment where
  hashes := ⟨fun ns name => ns ++ name, id, fun _ => 0⟩
  protectedRuntime := false
  credentials _ := none
  sees _ _ := true

/-- Worker `a` claims a row and is slow; its lease of ten seconds expires and
worker `b` claims the row. -/
def overtaken : List (InboxWorker.machine noEngine).Action :=
  [.env (.receive 1 "event-1" orderPlaced (some "tenant_a") .null none 0),
   .launch "a" ⟨1, 10, false⟩, .call "a" {}, .call "a" { row := some 1 },
   .launch "b" ⟨1, 10, false⟩, .call "b" {}, .call "b" { row := some 1, now := seconds 60 }]

/-- Worker `a` settles: its dead letter finds no row and it gives the row up. -/
def tooLate : List (InboxWorker.machine noEngine).Action :=
  [.call "a" {}, .call "a" {}, .call "a" {}, .call "a" {}, .call "a" {}]

theorem overtaken_runs : (Machine.run overtaken (Machine.idle World.empty)).isSome = true := by
  decide +kernel

def overtakenPool : (InboxWorker.machine noEngine).Pool :=
  (Machine.run overtaken (Machine.idle World.empty)).get overtaken_runs

theorem tooLate_runs : (Machine.run tooLate overtakenPool).isSome = true := by decide +kernel

theorem fresh_empty : Fresh World.empty where
  closed _ := rfl
  free _ := rfl
  waiting _ _ hc := by cases hc
  unwritten _ _ _ hc := by cases hc

/-- The late settlement of `a` leaves the row with the claim of `b`. -/
theorem lease_fence_overtaken :
    ∃ d new, ((Machine.run tooLate overtakenPool).get tooLate_runs).state.store.committed
        (.inbox 1) = some d ∧
      d.row.history = new ++ [.claimed 2 "b", .claimed 1 "a"] ∧ Consistent d.row ∧
      ∀ status, .settled 1 status ∉ new := by
  have hrow : (overtakenPool.state.store.committed (.inbox 1)).map (fun c =>
      (c.row : InboxRow).history) = some [.claimed 2 "b", .claimed 1 "a"] := by decide +kernel
  obtain ⟨c, hc, hhistory⟩ := Option.map_eq_some_iff.1 hrow
  obtain ⟨d, new, hd, hdh, hcons, hnone, -⟩ :=
    (lease_fence fresh_empty (Machine.reaches_get (fun _ _ _ => trivial) overtaken_runs)).2
      1 c [] 2 "b" [.claimed 1 "a"] 1 "a" hc hhistory
      List.mem_cons_self _ (Machine.reaches_get (fun _ _ _ => trivial) tooLate_runs)
  have hhistory : c.row.history = [.claimed 2 "b", .claimed 1 "a"] := hhistory
  rw [hhistory] at hdh
  exact ⟨d, new, hd, hdh, hcons, fun status hm => hnone status (List.mem_append_left _ hm)⟩

end Inbox
end BaobabErp
