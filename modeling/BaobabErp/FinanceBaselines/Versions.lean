/-
# The versions of a legal entity are 1 … n

What every history of recordings and withdrawals keeps (`Recorded`): the versions
of a legal entity have no gap, neither as they are committed nor as any open
transaction sees them, and a version is stored under its own key.

A statement changes the tables in one of six ways (`Change`), and only one of
them touches the versions: a row after the last one its transaction sees, which
`Store.Sequence.append` is about.
-/

import BaobabErp.FinanceBaselines.Store

namespace BaobabErp
namespace FinanceBaselines

open Concurrency Python
open Provisioning (FinancialConfigurationBaseline)

variable {D : Deployment} {db db' : Db} {s s' : State} {t u : Session} {le : String} {n : Int}

/-! ### What a statement does to the tables -/

/-- **What one statement of `t` can do.** -/
inductive Change (t : Session) (db : Db) : Db → Prop
  | none : Change t db db
  | commit : Change t db (db.commit t)
  | rollback : Change t db (db.rollback t)
  | lock (h : Int) : Change t db (db.enter t h)
  | record (b : FinancialConfigurationBaseline) :
      b.version = maxVersion db t b.legalEntityId + 1 →
      db.store.free t (.baseline b.legalEntityId b.version) = true →
      Change t db (db.put t ⟨.baseline b.legalEntityId b.version, some b⟩)
  | withdraw (le : String) (v : Int) (w : Withdrawal) :
      (db.view t (.baseline le v)).isSome = true →
      db.store.free t (.withdrawal le v) = true →
      Change t db (db.put t ⟨.withdrawal le v, some w⟩)

theorem State.insert_eq {k : Key} {row : Row k} (h : s.insert t k row = some s') :
    s.db.store.free t k = true ∧ s' = { s with db := s.db.put t ⟨k, some row⟩ } := by
  unfold State.insert at h
  split at h
  · rename_i hf
    exact ⟨hf, (Option.some.inj h).symm⟩
  · cases h

theorem run_change {clock : Instant} {e : Statement} {r : Except Exc e.Ans}
    (h : run D t s clock e = some (r, s')) : Change t s.db s'.db := by
  cases e with
  | now =>
    obtain ⟨-, rfl⟩ := Prod.mk.inj (Option.some.inj h)
    exact .none
  | read q =>
    obtain ⟨-, rfl⟩ := Prod.mk.inj (Option.some.inj h)
    exact .none
  | lock le =>
    unfold run at h
    dsimp only at h
    split_ifs at h with hfree
    obtain ⟨-, rfl⟩ := Prod.mk.inj (Option.some.inj h)
    exact .lock _
  | insertBaseline values =>
    unfold run at h
    dsimp only at h
    split_ifs at h with hint hcheck hview
    · obtain ⟨-, rfl⟩ := Prod.mk.inj (Option.some.inj h)
      exact .rollback
    · obtain ⟨-, rfl⟩ := Prod.mk.inj (Option.some.inj h)
      exact .rollback
    · obtain ⟨s₁, hs₁, heq⟩ := Option.map_eq_some_iff.1 h
      obtain ⟨-, rfl⟩ := Prod.mk.inj heq
      obtain ⟨hf, rfl⟩ := State.insert_eq hs₁
      exact .record { values with version := maxVersion s.db t values.legalEntityId + 1 } rfl hf
    · obtain ⟨-, rfl⟩ := Prod.mk.inj (Option.some.inj h)
      exact .rollback
  | insertWithdrawal le v w =>
    unfold run at h
    dsimp only at h
    split_ifs at h with hcheck hview hparent
    · obtain ⟨-, rfl⟩ := Prod.mk.inj (Option.some.inj h)
      exact .rollback
    · obtain ⟨-, rfl⟩ := Prod.mk.inj (Option.some.inj h)
      exact .rollback
    · obtain ⟨s₁, hs₁, heq⟩ := Option.map_eq_some_iff.1 h
      obtain ⟨-, rfl⟩ := Prod.mk.inj heq
      obtain ⟨hf, rfl⟩ := State.insert_eq hs₁
      refine .withdraw le v w ?_ hf
      rw [← Option.not_isNone, Bool.not_eq_true', Bool.eq_false_iff]
      exact hparent
    · obtain ⟨-, rfl⟩ := Prod.mk.inj (Option.some.inj h)
      exact .rollback
  | commit =>
    obtain ⟨-, rfl⟩ := Prod.mk.inj (Option.some.inj h)
    exact .commit
  | rollback =>
    obtain ⟨-, rfl⟩ := Prod.mk.inj (Option.some.inj h)
    exact .rollback

/-- **One statement changes the tables in one of these ways**, whatever it meets. -/
theorem exec_change {c : Choice} {e : Statement} {r : Except Exc e.Ans}
    (h : exec D t e c s = some (r, s')) : Change t s.db s'.db := by
  unfold exec at h
  split at h
  · obtain ⟨-, rfl⟩ := Prod.mk.inj (Option.some.inj h)
    exact .none
  · split_ifs at h with hfailed
    · split at h
      · obtain ⟨-, rfl⟩ := Prod.mk.inj (Option.some.inj h)
        exact .rollback
      · obtain ⟨-, rfl⟩ := Prod.mk.inj (Option.some.inj h)
        exact .rollback
      · obtain ⟨-, rfl⟩ := Prod.mk.inj (Option.some.inj h)
        exact .none
    · exact run_change h
  · obtain ⟨-, rfl⟩ := Prod.mk.inj (Option.some.inj h)
    exact .rollback
  · obtain ⟨-, rfl⟩ := Prod.mk.inj (Option.some.inj h)
    split_ifs
    · exact .rollback
    · exact .commit
  · obtain ⟨-, rfl⟩ := Prod.mk.inj (Option.some.inj h)
    exact .rollback

/-! ### What every history keeps -/

/-- Every version is stored under its legal entity and its number. -/
def Filed (rows : (k : Key) → Option (Row k)) : Prop :=
  ∀ le v (b : FinancialConfigurationBaseline), rows (.baseline le v) = some b →
    b.legalEntityId = le ∧ b.version = v

/-- **What every history of the two tables keeps.** -/
structure Recorded (db : Db) : Prop where
  indexed : db.Indexed
  filed : Filed db.store.committed
  filedView : ∀ t, Filed (db.view t)
  versions : ∀ le, db.store.Sequence (.baseline le)

namespace Recorded

theorem empty : Recorded .empty :=
  ⟨.empty, nofun, fun _ => nofun, fun _ => .ofRows fun _ => rfl⟩

theorem key_injective (le : String) : Function.Injective (Key.baseline le) :=
  fun _ _ h => (Key.baseline.inj h).2

/-! The versions a session reads. -/

theorem mem_recorded (hd : Recorded db) {b : FinancialConfigurationBaseline} :
    b ∈ recorded db t le ↔ b.legalEntityId = le ∧ baselineAt db t le b.version = some b := by
  unfold recorded
  rw [List.mem_filterMap]
  constructor
  · rintro ⟨k, -, hk⟩
    cases k with
    | withdrawal e v => cases hk
    | baseline e v =>
      dsimp only at hk
      by_cases he : e = le
      · subst he
        rw [if_pos rfl] at hk
        obtain ⟨hle, hv⟩ := hd.filedView t e v b hk
        exact ⟨hle, by rw [hv]; exact hk⟩
      · rw [if_neg he] at hk
        cases hk
  · rintro ⟨-, hv⟩
    have hmem : Key.baseline le b.version ∈ db.keys :=
      hd.indexed.view (Option.isSome_iff_exists.2 ⟨b, hv⟩)
    exact ⟨_, hmem, by dsimp only; rw [if_pos rfl]; exact hv⟩

/-- `MAX(version)` is the number of the last one. -/
theorem maxVersion_eq (hd : Recorded db) (hn : Store.Dense (db.view t) (.baseline le) n) :
    maxVersion db t le = n := by
  have hmem : ∀ v, v ∈ (recorded db t le).map (·.version) ↔ 1 ≤ v ∧ v ≤ n := by
    intro v
    rw [List.mem_map, ← hn.2 v]
    constructor
    · rintro ⟨b, hb, rfl⟩
      exact Option.isSome_iff_exists.2 ⟨b, (hd.mem_recorded.1 hb).2⟩
    · intro hv
      obtain ⟨b, hb⟩ := Option.isSome_iff_exists.1 hv
      obtain ⟨hle, hbv⟩ := hd.filedView t le v b hb
      exact ⟨b, hd.mem_recorded.2 ⟨hle, by rw [hbv]; exact hb⟩, hbv⟩
  unfold maxVersion
  have hn0 : 0 ≤ n := hn.1
  cases hmax : ((recorded db t le).map (·.version)).max? with
  | none =>
    rw [List.max?_eq_none_iff] at hmax
    have : ¬ (1 ≤ n ∧ n ≤ n) := by
      rw [← hmem n, hmax]
      exact List.not_mem_nil
    show (0 : Int) = n
    omega
  | some m =>
    obtain ⟨hm, hle⟩ := List.max?_eq_some_iff.1 hmax
    have hmn : 1 ≤ m ∧ m ≤ n := (hmem m).1 hm
    have hnm : n ≤ m := hle n ((hmem n).2 (by omega))
    show m = n
    omega

/-! One change of the tables. -/

theorem filed_commit (hd : Recorded db) (u : Session) : Filed ((db.commit t).view u) := by
  intro e v b hb
  by_cases hut : u = t
  · subst hut
    exact hd.filedView u e v b ((Store.clean_commit.view _).symm.trans hb)
  · by_cases hh : db.store.Holds u (.baseline e v)
    · exact hd.filedView u e v b ((Store.view_commit_of_holds hut hh).symm.trans hb)
    · exact hd.filedView t e v b ((Store.view_commit_of_not_holds hh).symm.trans hb)

theorem filed_rollback (hd : Recorded db) (u : Session) : Filed ((db.rollback t).view u) := by
  intro e v b hb
  by_cases hut : u = t
  · subst hut
    exact hd.filed e v b (Store.view_rollback_self.symm.trans hb)
  · exact hd.filedView u e v b ((Store.view_rollback hut).symm.trans hb)

theorem filed_put {k : Key} {row : Row k} (hd : Recorded db) (hf : db.store.free t k = true)
    (hrow : ∀ e v (b : FinancialConfigurationBaseline),
      (⟨k, row⟩ : (k : Key) × Row k) = ⟨.baseline e v, b⟩ → b.legalEntityId = e ∧ b.version = v)
    (u : Session) : Filed ((db.put t ⟨k, some row⟩).view u) := by
  intro e v b hb
  by_cases hk : Key.baseline e v = k
  · subst hk
    by_cases hut : u = t
    · subst hut
      have hrb : some row = some b := Store.view_put_self.symm.trans hb
      exact hrow e v b (congrArg (Sigma.mk _) (Option.some.inj hrb))
    · exact hd.filedView u e v b ((Store.view_put_other hut hf).symm.trans hb)
  · exact hd.filedView u e v b ((Store.view_put_of_ne hk).symm.trans hb)

/-- **Every change keeps it.** -/
theorem change (hd : Recorded db) (h : Change t db db') : Recorded db' := by
  cases h with
  | none => exact hd
  | commit =>
    exact ⟨hd.indexed.commit, hd.filedView t, hd.filed_commit, fun le => (hd.versions le).commit⟩
  | rollback =>
    exact ⟨hd.indexed.rollback, hd.filed, hd.filed_rollback, fun le => (hd.versions le).rollback⟩
  | lock h => exact ⟨hd.indexed, hd.filed, hd.filedView, hd.versions⟩
  | record b hv hf =>
    refine ⟨hd.indexed.put, hd.filed, hd.filed_put hf ?_, fun le => ?_⟩
    · intro e v c hc
      cases hc
      exact ⟨rfl, rfl⟩
    · by_cases hle : le = b.legalEntityId
      · subst hle
        obtain ⟨n, hn⟩ := (hd.versions b.legalEntityId).view t
        rw [hd.maxVersion_eq hn] at hv
        exact (hd.versions b.legalEntityId).append (key_injective _) hn hv hf
      · exact (hd.versions le).put_other fun v hk => hle (Key.baseline.inj hk).1
  | withdraw e v w hsome hf =>
    refine ⟨hd.indexed.put, hd.filed, hd.filed_put hf ?_, fun le => ?_⟩
    · intro e v' c hc
      cases hc
    · exact (hd.versions le).put_other fun v hk => nomatch hk

theorem close (hd : Recorded db) : Recorded (db.close t) :=
  ⟨hd.indexed.close, hd.filed, hd.filed_rollback, fun le => (hd.versions le).rollback⟩

end Recorded

/-- **Every history keeps the versions without a gap.** -/
theorem Reached.recorded {p : (Sessions D).Pool} (h : Reached D p) : Recorded p.state.db := by
  refine Machine.Reaches.invariant (I := fun p : (Sessions D).Pool => Recorded p.state.db) h .empty ?_
  intro a q r _ hq hst
  rcases Machine.step_cases hst with ⟨w, l, rfl, hw, rfl⟩ | ⟨w, c, e, k, r, s, rfl, hw, he, rfl⟩ |
    ⟨w, m, rfl, hw, rfl⟩ | ⟨b, s, rfl, hb, rfl⟩
  · exact hq
  · exact hq.change (exec_change he)
  · exact hq.close
  · exact nomatch b

end FinanceBaselines
end BaobabErp
