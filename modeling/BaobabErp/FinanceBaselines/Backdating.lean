/-
# A withdrawal and the days before it

`withdraw` takes the instant of a withdrawal from its caller and refuses one that lies
in the future, not one that lies in the past; `effective` and `status` count the
withdrawal from the day of that instant.  So the answers for the days before the call
stay what they were exactly where none of these days is the day of the withdrawal or a
later one (`history_kept_iff`).
-/

import BaobabErp.Concurrency.Alone
import BaobabErp.FinanceBaselines.InForce

namespace BaobabErp
namespace FinanceBaselines

open Concurrency Python
open Provisioning (FinancialConfigurationBaseline)

variable {D : Deployment} {s s' : State} {t : Session} {a : WithdrawArgs} {now : Instant}

/-! ### One call -/

/-- A statement of a session that nothing disturbs, at one reading of the clock. -/
def undisturbed (D : Deployment) (t : Session) (now : Instant) (e : Statement) (s : State) :
    Option (Except Exc e.Ans × State) :=
  exec D t e (.runs now) s

/-- **`withdraw` succeeds at the time `now`**: that of its argument, or of the clock. -/
structure Withdraws (D : Deployment) (t : Session) (a : WithdrawArgs) (now : Instant)
    (s s' : State) : Prop where
  run : Prog.Alone.along (undisturbed D t now) (withdraw a) s = some (.ok (), s')
  time : ∀ d, a.now = some d → d.instant = some now

/-- What a withdrawal writes. -/
structure Written (t : Session) (le : String) (v : Int) (w : Withdrawal) (s s' : State) :
    Prop where
  approved : (s.db.view t (.baseline le v)).isSome = true
  first : s.db.view t (.withdrawal le v) = none
  after : s'.db = s.db.put t ⟨.withdrawal le v, some w⟩

theorem insertWithdrawal_ok {le : String} {v : Int} {w : Withdrawal}
    (h : undisturbed D t now (.insertWithdrawal le v w) s = some (.ok (), s')) :
    Written t le v w s s' := by
  unfold undisturbed exec at h
  dsimp only at h
  split_ifs at h with hfailed
  · cases h
  · unfold run at h
    dsimp only at h
    split_ifs at h with hcheck hview hparent
    · cases h
    · cases h
    · obtain ⟨s₁, hs₁, heq⟩ := Option.map_eq_some_iff.1 h
      obtain ⟨-, rfl⟩ := Prod.mk.inj heq
      obtain ⟨-, rfl⟩ := State.insert_eq hs₁
      refine ⟨?_, Option.not_isSome_iff_eq_none.1 hview, rfl⟩
      rw [← Option.not_isNone, Bool.not_eq_true', Bool.eq_false_iff]
      exact hparent
    · cases h

/-- A run of the statements of one call. -/
abbrev Undisturbed {α : Type} (D : Deployment) (t : Session) (now : Instant)
    (p : Prog Statement.Ans Exc α) (s : State) (x : Except Exc α) (s' : State) : Prop :=
  Prog.Alone (fun e s r s' => undisturbed D t now e s = some (r, s')) p s x s'

theorem accountablePerson_ok {by_ : Option String} {byName atName : String} {at_ : DateTime}
    {limit : Option DateTime} {person : String} {instant : Instant}
    (hlimit : ∀ d, limit = some d → d.instant = some now)
    (h : Undisturbed D t now (accountablePerson by_ byName at_ atName limit) s
      (.ok (person, instant)) s') :
    s' = s ∧ at_.instant = some instant ∧ instant ≤ now := by
  unfold accountablePerson at h
  obtain ⟨name, s₁, hname, h₁⟩ := h.of_bind_ok
  obtain ⟨-, rfl⟩ := Prog.Alone.of_ret hname
  have hraised : ∀ {α β : Type} {z : Exc} {f : α → Prog Statement.Ans Exc β} {b : β} {u u' : State},
      ¬ Undisturbed D t now (throw z >>= f) u (.ok b) u' := fun hz => by
    obtain ⟨_, _, hz, -⟩ := hz.of_bind_ok
    cases hz.of_throw.1
  cases hat : at_.instant with
  | none =>
    rw [hat] at h₁
    dsimp only at h₁
    split at h₁
    · exact (hraised h₁).elim
    · cases h₁.of_throw.1
  | some i =>
    rw [hat] at h₁
    dsimp only at h₁
    split at h₁
    · exact (hraised h₁).elim
    have hlast : ∀ {l : Instant} {u : State}, Undisturbed D t now
        (if l < i then (throw (.financeBaseline (atName ++ " is in the future")) :
            Prog Statement.Ans Exc Unit) >>= fun _ => pure (name, i)
          else pure (name, i)) u (.ok (person, instant)) s' →
        s' = u ∧ i = instant ∧ i ≤ l := fun {l u} hl => by
      split at hl
      · exact (hraised hl).elim
      · rename_i hle
        obtain ⟨hx, rfl⟩ := hl.of_pure
        exact ⟨rfl, (Prod.mk.inj (Except.ok.inj hx)).2.symm, not_lt.1 hle⟩
    cases limit with
    | none =>
      obtain ⟨l, s₂, hl, h₂⟩ := h₁.of_bind_ok
      have hclock := Prog.Alone.of_perform hl
      unfold undisturbed exec at hclock
      obtain ⟨hnow, rfl⟩ := Prod.mk.inj (Option.some.inj hclock)
      obtain rfl := Except.ok.inj hnow
      obtain ⟨rfl, rfl, hle⟩ := hlast h₂
      exact ⟨rfl, rfl, hle⟩
    | some d =>
      dsimp only at h₁
      rw [hlimit d rfl] at h₁
      obtain ⟨l, s₂, hl, h₂⟩ := h₁.of_bind_ok
      obtain ⟨hnow, rfl⟩ := hl.of_pure
      obtain rfl := Except.ok.inj hnow
      obtain ⟨rfl, rfl, hle⟩ := hlast h₂
      exact ⟨rfl, rfl, hle⟩

/-- **What a call that succeeded wrote**, and when. -/
theorem Withdraws.written (h : Withdraws D t a now s s') :
    ∃ le w, Written t le a.version w s s' ∧ a.withdrawnAt.instant = some w.withdrawnAt ∧
      w.withdrawnAt ≤ now := by
  have hrun : Undisturbed D t now (withdraw a) s (.ok ()) s' := Prog.Alone.of_along h.run
  unfold withdraw at hrun
  obtain ⟨⟨person, instant⟩, s₁, hperson, h₁⟩ := hrun.of_bind_ok
  obtain ⟨rfl, hat, hle⟩ := accountablePerson_ok h.time hperson
  obtain ⟨entity, s₂, hentity, h₂⟩ := h₁.of_bind_ok
  obtain ⟨-, rfl⟩ := Prog.Alone.of_ret hentity
  obtain ⟨reason, s₃, hreason, h₃⟩ := h₂.of_bind_ok
  obtain ⟨-, rfl⟩ := Prog.Alone.of_ret hreason
  obtain ⟨evidence, s₄, hevidence, h₄⟩ := h₃.of_bind_ok
  obtain ⟨-, rfl⟩ := Prog.Alone.of_ret hevidence
  exact ⟨entity, ⟨person, instant, reason, evidence⟩,
    insertWithdrawal_ok (Prog.Alone.of_perform h₄), hat, hle⟩

/-! ### What the queries answer after it -/

namespace Written

variable {le e : String} {v n d : Int} {w : Withdrawal}

/-- The versions are those from before. -/
theorem recorded_eq (h : Written t le v w s s') : recorded s'.db t e = recorded s.db t e := by
  have hview : ∀ k, k ≠ .withdrawal le v → s'.db.view t k = s.db.view t k := fun k hk => by
    rw [h.after]
    exact Store.view_put_of_ne hk
  have hat : ∀ e n, baselineAt s'.db t e n = baselineAt s.db t e n := fun e n => hview _ nofun
  unfold recorded
  simp only [hat]
  rw [h.after]
  show (if Key.withdrawal le v ∈ s.db.keys then s.db.keys
    else .withdrawal le v :: s.db.keys).filterMap _ = _
  split_ifs
  · rfl
  · rfl

theorem withdrawalAt_self (h : Written t le v w s s') : withdrawalAt s'.db t le v = some w :=
  (congrArg (fun db => withdrawalAt db t le v) h.after).trans Store.view_put_self

theorem withdrawalAt_other (h : Written t le v w s s') (hk : ¬ (e = le ∧ n = v)) :
    withdrawalAt s'.db t e n = withdrawalAt s.db t e n :=
  (congrArg (fun db => withdrawalAt db t e n) h.after).trans
    (Store.view_put_of_ne fun hkey => hk (Key.withdrawal.inj hkey))

/-- Before the day of the withdrawal nothing is withdrawn that was not. -/
theorem withdrawnBy_eq (h : Written t le v w s s') (hd : d < utcDay w.withdrawnAt) :
    withdrawnBy s'.db t e n d = withdrawnBy s.db t e n d := by
  unfold withdrawnBy
  by_cases hk : e = le ∧ n = v
  · obtain ⟨rfl, rfl⟩ := hk
    have hnone : withdrawalAt s.db t e n = none := h.first
    rw [h.withdrawalAt_self, hnone]
    exact decide_eq_false (by omega)
  · rw [h.withdrawalAt_other hk]

theorem answer_eq (h : Written t le v w s s') {on : Date} (hd : dayOf on < utcDay w.withdrawnAt) :
    (Query.inForce e on).answer s'.db t = (Query.inForce e on).answer s.db t := by
  show Temporal.latest rank _ (recorded s'.db t e) = Temporal.latest rank _ (recorded s.db t e)
  rw [h.recorded_eq]
  simp only [h.withdrawnBy_eq hd]

theorem effective_eq (h : Written t le v w s s') {on : Date} (hd : dayOf on < utcDay w.withdrawnAt) :
    (effective e on).answered (reads s'.db t) = (effective e on).answered (reads s.db t) :=
  congrArg Except.ok (h.answer_eq hd)

theorem status_eq (h : Written t le v w s s') {on : Date} (hd : dayOf on < utcDay w.withdrawnAt)
    (b : FinancialConfigurationBaseline) :
    (status b on).answered (reads s'.db t) = (status b on).answered (reads s.db t) := by
  rw [answered_status, answered_status, h.withdrawnBy_eq hd, h.answer_eq hd]

/-- From its day on the version is withdrawn, and it was not before the call. -/
theorem status_ne (h : Written t le v w s s') {on : Date} (hd : utcDay w.withdrawnAt ≤ dayOf on)
    {b : FinancialConfigurationBaseline} (hle : b.legalEntityId = le) (hv : b.version = v) :
    (status b on).answered (reads s'.db t) ≠ (status b on).answered (reads s.db t) := by
  have hafter : withdrawnBy s'.db t b.legalEntityId b.version (dayOf on) = true := by
    refine withdrawnBy_iff.2 ⟨w, ?_, hd⟩
    rw [hle, hv]
    exact h.withdrawalAt_self
  have hbefore : withdrawnBy s.db t b.legalEntityId b.version (dayOf on) = false := by
    have hnone : withdrawalAt s.db t b.legalEntityId b.version = none := by
      rw [hle, hv]
      exact h.first
    unfold withdrawnBy
    rw [hnone]
  rw [answered_status, answered_status, if_pos hafter, hbefore, if_neg (by decide)]
  intro heq
  split_ifs at heq
  · cases heq
  · split at heq
    · split_ifs at heq
      · cases heq
      · cases heq
    · cases heq

end Written

/-! ### Every history -/

/-- **What was answered for the days before `now` is answered still.** -/
def HistoryKept (t : Session) (now : Instant) (s s' : State) : Prop :=
  ∀ (le : String) (on : Date), dayOf on < utcDay now →
    (effective le on).answered (reads s'.db t) = (effective le on).answered (reads s.db t) ∧
    ∀ b, (register s.db t le).Recorded b →
      (status b on).answered (reads s'.db t) = (status b on).answered (reads s.db t)

/-- A day that the withdrawal reaches back to is answered differently. -/
theorem Written.not_kept {le : String} {v : Int} {w : Withdrawal} {on : Date}
    (h : Written t le v w s s') (hs : Recorded s.db) (hd : utcDay w.withdrawnAt ≤ dayOf on)
    (hon : dayOf on < utcDay now) : ¬ HistoryKept t now s s' := by
  intro hkept
  obtain ⟨b, hb⟩ := Option.isSome_iff_exists.1 h.approved
  obtain ⟨hle, hv⟩ := hs.filedView t le v b hb
  have hrecorded : (register s.db t le).Recorded b := ⟨hle, by rw [hv]; exact hb⟩
  exact h.status_ne hd hle hv ((hkept le on hon).2 b hrecorded)

/-- **A withdrawal leaves the answers for the days before the call exactly where each of
these days is before that of the withdrawal**, over the tables of any history. -/
theorem history_kept_iff {D : Deployment} {p : (Sessions D).Pool} (hp : Reached D p) (t : Session)
    (a : WithdrawArgs) (now : Instant) (s' : State) (h : Withdraws D t a now p.state s') :
    HistoryKept t now p.state s' ↔
      ∀ on : Date, dayOf on < utcDay now → ∀ i, a.withdrawnAt.instant = some i →
        dayOf on < utcDay i := by
  obtain ⟨le, w, hwritten, hat, -⟩ := h.written
  constructor
  · intro hkept on hon i hi
    obtain rfl : w.withdrawnAt = i := Option.some.inj (hat.symm.trans hi)
    by_contra hd
    exact hwritten.not_kept hp.recorded (not_lt.1 hd) hon hkept
  · intro hall e on hon
    have hd := hall on hon w.withdrawnAt hat
    exact ⟨hwritten.effective_eq hd, fun b _ => hwritten.status_eq hd b⟩

/-! ### A withdrawal reported a month later -/

/-- Version 2 of `withdrawnLeader`, withdrawn as a day began. -/
def withdrawal (on : Date) : WithdrawArgs where
  legalEntityId := some "le-1"
  version := 2
  withdrawnBy := some "A. Wanjiru"
  withdrawnAt := ⟨on, 0, 0, 0, 0, some 0, DateTime.midnight_valid⟩
  reason := some "error"
  evidenceReference := some "min-2"

theorem may_valid : 1 ≤ 2026 ∧ 2026 ≤ 9999 ∧ 1 ≤ 5 ∧ 5 ≤ 12 ∧ 1 ≤ 1 ∧
    1 ≤ daysInMonth 2026 5 := by decide

/-- The first of May, and the clock then. -/
def may : Date := ⟨2026, 5, 1, may_valid⟩

def firstOfMay : Instant := 1777593600000000

/-- Both versions of `withdrawnLeader` are approved, and version 2 can be withdrawn. -/
theorem withdrawal_run {on : Date}
    (h : ((Machine.run (withdrawnLeaderRun 7) (Machine.idle initial)).bind fun p =>
      (Prog.Alone.along (undisturbed plain "a" firstOfMay) (withdraw (withdrawal on)) p.state).map
        Prod.fst) = some (.ok ())) :
    ∃ (p : (Sessions plain).Pool) (s' : State), Reached plain p ∧
      Withdraws plain "a" (withdrawal on) firstOfMay p.state s' := by
  obtain ⟨p, hp, hrest⟩ := Option.bind_eq_some_iff.1 h
  obtain ⟨⟨x, s'⟩, hrun, hx⟩ := Option.map_eq_some_iff.1 hrest
  obtain rfl : x = .ok () := hx
  exact ⟨p, s', Machine.reaches_of_run (fun _ _ _ => trivial) hp, hrun, nofun⟩

/-- A withdrawal reported on its own day leaves what was answered for the days before. -/
theorem withdrawal_today_kept : ∃ (p : (Sessions plain).Pool) (s' : State), Reached plain p ∧
    Withdraws plain "a" (withdrawal may) firstOfMay p.state s' ∧
    HistoryKept "a" firstOfMay p.state s' := by
  obtain ⟨p, s', hp, h⟩ := @withdrawal_run may (by decide +kernel)
  refine ⟨p, s', hp, h, (history_kept_iff hp "a" (withdrawal may) firstOfMay s' h).2 ?_⟩
  intro on hon i hi
  have hnow : (withdrawal may).withdrawnAt.instant = some firstOfMay := by decide
  obtain rfl := Option.some.inj (hnow.symm.trans hi)
  exact hon

/-- **A withdrawal reported a month later rewrites the month**: on its days the version
was in force, and now was withdrawn. -/
theorem withdrawal_rewrites : ∃ (p : (Sessions plain).Pool) (s' : State), Reached plain p ∧
    Withdraws plain "a" (withdrawal ⟨2026, 4, 1, by decide⟩) firstOfMay p.state s' ∧
    ¬ HistoryKept "a" firstOfMay p.state s' := by
  obtain ⟨p, s', hp, h⟩ := @withdrawal_run ⟨2026, 4, 1, by decide⟩ (by decide +kernel)
  obtain ⟨le, w, hwritten, hat, -⟩ := h.written
  have hday : (withdrawal ⟨2026, 4, 1, by decide⟩).withdrawnAt.instant =
      some 1775001600000000 := by decide
  have hw := Option.some.inj (hday.symm.trans hat)
  have hon : utcDay w.withdrawnAt ≤ dayOf ⟨2026, 4, 15, by decide⟩ := by
    rw [← hw]
    decide +kernel
  exact ⟨p, s', hp, h, hwritten.not_kept hp.recorded hon (by decide +kernel)⟩

end FinanceBaselines
end BaobabErp
