/-
# The version in force

`effective` and `status` are two queries, written apart.  Over the tables of any
history both answer from one register (`register`): `effective` finds its version
in force (`effective_answered`), and `status` is the standing the register gives
the version (`status_answered`), so the two agree on every date
(`one_version_in_force`).
-/

import BaobabErp.FinanceBaselines.Versions

namespace BaobabErp
namespace FinanceBaselines

open Concurrency Python
open Provisioning (FinancialConfigurationBaseline)
open Temporal (Register)

variable {D : Deployment} {db : Db} {t : Session} {le : String} {on : Date}
  {b c : FinancialConfigurationBaseline}

/-- **The versions of a legal entity as a session reads them.**  A withdrawal
counts from the day it was recorded on. -/
def register (db : Db) (t : Session) (le : String) :
    Register FinancialConfigurationBaseline Int Int where
  Recorded b := b.legalEntityId = le ∧ baselineAt db t le b.version = some b
  starts b := dayOf b.effectiveFrom
  number b := b.version
  Withdrawn b d := ∃ w, withdrawalAt db t le b.version = some w ∧ utcDay w.withdrawnAt ≤ d

/-- What a session's queries answer while the tables stay as they are. -/
def reads (db : Db) (t : Session) (q : Query) : Except Exc q.Ans := .ok (q.answer db t)

theorem numbered : (register db t le).Numbered := by
  rintro b c ⟨-, hb⟩ ⟨-, hc⟩ (hv : b.version = c.version)
  rw [hv, hc] at hb
  exact (Option.some.inj hb).symm

theorem withdrawnBy_iff {v d : Int} :
    withdrawnBy db t le v d = true ↔
      ∃ w, withdrawalAt db t le v = some w ∧ utcDay w.withdrawnAt ≤ d := by
  unfold withdrawnBy
  cases withdrawalAt db t le v with
  | none => simp only [Bool.false_eq_true, reduceCtorEq, false_and, exists_false]
  | some w => simp only [decide_eq_true_eq, Option.some.injEq, exists_eq_left']

/-- The answer `status` puts together. -/
theorem answered_status :
    (status b on).answered (reads db t) =
      if withdrawnBy db t b.legalEntityId b.version (dayOf on) then .ok .withdrawn
      else if dayOf on < dayOf b.effectiveFrom then .ok .notYetEffective
      else match (Query.inForce b.legalEntityId on).answer db t with
        | some c => .ok (if c.version = b.version then .effective else .superseded)
        | none => .ok .superseded := by
  have hask : ∀ q, (ask q).answered (reads db t) = .ok (q.answer db t) := fun q => rfl
  unfold status
  rw [Prog.answered_bind (hask _)]
  show Prog.answered _ (if withdrawnBy db t b.legalEntityId b.version (dayOf on) = true then _
    else _) = _
  split_ifs with hw hs
  · rfl
  · rfl
  · rw [effective, Prog.answered_bind (hask _)]
    cases (Query.inForce b.legalEntityId on).answer db t with
    | none => rfl
    | some c => rfl

namespace Recorded

/-- What the query of `effective` filters by. -/
theorem filter_iff (b : FinancialConfigurationBaseline) (hb : (register db t le).Recorded b) :
    (dayOf b.effectiveFrom ≤ dayOf on &&
        !withdrawnBy db t b.legalEntityId b.version (dayOf on)) = true ↔
      (register db t le).starts b ≤ dayOf on ∧ ¬ (register db t le).Withdrawn b (dayOf on) := by
  rw [Bool.and_eq_true, decide_eq_true_eq, Bool.not_eq_true', Bool.eq_false_iff, hb.1, ne_eq,
    withdrawnBy_iff]
  exact .rfl

variable (hd : Recorded db)

include hd

/-- **`effective` finds the version in force.** -/
theorem effective_answered :
    (effective le on).answered (reads db t) = .ok (some b) ↔
      (register db t le).InForce (dayOf on) b := by
  rw [← Register.latest_eq_some_iff_inForce numbered (fun c => hd.mem_recorded)
    fun c hc => filter_iff c hc]
  exact ⟨fun h => Except.ok.inj h, fun h => congrArg _ h⟩

/-- **`effective` finds none when no version stands.** -/
theorem effective_answered_none :
    (effective le on).answered (reads db t) = .ok none ↔
      ∀ b, ¬ (register db t le).Stands (dayOf on) b := by
  rw [← Register.latest_eq_none_iff_stands (fun c => hd.mem_recorded)
    fun c hc => filter_iff c hc]
  exact ⟨fun h => Except.ok.inj h, fun h => congrArg _ h⟩

/-- **`status` is the standing of the version.** -/
theorem status_answered (hb : (register db t le).Recorded b) :
    (status b on).answered (reads db t) = .ok ((register db t le).standing (dayOf on) b) := by
  have hle : b.legalEntityId = le := hb.1
  rw [answered_status, hle]
  split_ifs with hw hs
  · rw [Register.standing_eq_withdrawn_iff.2 (withdrawnBy_iff.1 hw)]
  · rw [Register.standing_eq_notYetEffective_iff.2 ⟨fun h => hw (withdrawnBy_iff.2 h), hs⟩]
  · have hstands : (register db t le).Stands (dayOf on) b :=
      ⟨hb, not_lt.1 hs, fun h => hw (withdrawnBy_iff.2 h)⟩
    cases hq : (Query.inForce le on).answer db t with
    | none =>
      have hnone : (effective le on).answered (reads db t) = .ok none := congrArg _ hq
      exact absurd hstands (hd.effective_answered_none.1 hnone b)
    | some c =>
      have hc : (register db t le).InForce (dayOf on) c :=
        hd.effective_answered.1 (congrArg Except.ok hq)
      dsimp only
      split_ifs with hv
      · obtain rfl : c = b := numbered c b hc.stands.recorded hb hv
        rw [Register.standing_eq_effective_iff.2 hc]
      · rw [(Register.standing_eq_superseded_iff hb).2 ⟨hstands, fun hf => hv ?_⟩]
        rw [hc.unique numbered hf]

end Recorded

/-! ### Every history -/

/-- **One version is in force, and every other says why it is not.**  For the
tables of any history, as any session reads them: the versions are `1 … n`;
`effective` is the version in force or none; `status` calls that version effective
and no other one; and a version that is not in force is withdrawn, not yet
effective or superseded, by its own row and the version in force. -/
theorem one_version_in_force {p : (Sessions D).Pool} (h : Reached D p) (t : Session) (le : String)
    (on : Date) :
    let answers := reads p.state.db t
    let versions := register p.state.db t le
    (∃ n : Nat, ∀ v, (baselineAt p.state.db t le v).isSome = true ↔ 1 ≤ v ∧ v ≤ n) ∧
      (∀ b, (effective le on).answered answers = .ok (some b) ↔ versions.InForce (dayOf on) b) ∧
      ((effective le on).answered answers = .ok none ↔ ∀ b, ¬ versions.Stands (dayOf on) b) ∧
      ∀ b, versions.Recorded b →
        ((status b on).answered answers = .ok .effective ↔
          (effective le on).answered answers = .ok (some b)) ∧
        ((status b on).answered answers = .ok .withdrawn ↔ versions.Withdrawn b (dayOf on)) ∧
        ((status b on).answered answers = .ok .notYetEffective ↔
          ¬ versions.Withdrawn b (dayOf on) ∧ dayOf on < dayOf b.effectiveFrom) ∧
        ((status b on).answered answers = .ok .superseded ↔
          versions.Stands (dayOf on) b ∧
            ∃ c, c ≠ b ∧ (effective le on).answered answers = .ok (some c)) ∧
        ∃ x, (status b on).answered answers = .ok x := by
  intro answers versions
  have hd : Recorded p.state.db := h.recorded
  refine ⟨?_, fun b => hd.effective_answered, hd.effective_answered_none, fun b hb => ?_⟩
  · obtain ⟨n, hn0, hn⟩ := (hd.versions le).view t
    obtain ⟨m, rfl⟩ := Int.eq_ofNat_of_zero_le hn0
    exact ⟨m, hn⟩
  · have hstatus : ∀ x, (status b on).answered answers = .ok x ↔
        versions.standing (dayOf on) b = x := by
      intro x
      rw [hd.status_answered hb]
      exact ⟨Except.ok.inj, congrArg _⟩
    refine ⟨?_, ?_, ?_, ?_, ⟨_, hd.status_answered hb⟩⟩
    · rw [hstatus, hd.effective_answered, Register.standing_eq_effective_iff]
    · rw [hstatus, Register.standing_eq_withdrawn_iff]
    · rw [hstatus, Register.standing_eq_notYetEffective_iff]
      exact .rfl
    · rw [hstatus, Register.standing_eq_superseded_iff hb]
      refine and_congr_right fun hs => ?_
      constructor
      · intro hnot
        cases hq : (Query.inForce le on).answer p.state.db t with
        | none =>
          have hnone : (effective le on).answered (reads p.state.db t) = .ok none :=
            congrArg _ hq
          exact absurd hs (hd.effective_answered_none.1 hnone b)
        | some c =>
          have hc : (effective le on).answered answers = .ok (some c) := congrArg Except.ok hq
          exact ⟨c, fun hcb => hnot (hcb ▸ hd.effective_answered.1 hc), hc⟩
      · rintro ⟨c, hcb, hc⟩ hb'
        exact hcb ((hd.effective_answered.1 hc).unique numbered hb')

/-! ### A withdrawn leader -/

theorem january_valid : 1 ≤ 2026 ∧ 2026 ≤ 9999 ∧ 1 ≤ 1 ∧ 1 ≤ 12 ∧ 1 ≤ 1 ∧
    1 ≤ daysInMonth 2026 1 := by decide

theorem march_valid : 1 ≤ 2026 ∧ 2026 ≤ 9999 ∧ 1 ≤ 3 ∧ 3 ≤ 12 ∧ 1 ≤ 1 ∧
    1 ≤ daysInMonth 2026 3 := by decide

/-- Version 1 applies from January, version 2 from March; version 2 is withdrawn
in April. -/
def withdrawnLeader : Caller := do
  let first : RecordArgs := {
    legalEntityId := some "le-1"
    functionalCurrency := some "KES"
    fiscalYearStartMonth := 1
    chartOfAccountsTemplate := some "ifrs"
    accountingSchema := some "accrual"
    taxProfile := some "vat"
    costingMethod := some "average"
    effectiveFrom := ⟨2026, 1, 1, january_valid⟩
    approvedBy := some "A. Wanjiru"
    approvedAt := ⟨⟨2026, 1, 1, january_valid⟩, 0, 0, 0, 0, some 0, DateTime.midnight_valid⟩
    evidenceReference := some "min-1" }
  let _ ← Call.perform (.record first)
  let _ ← Call.perform (.record { first with effectiveFrom := ⟨2026, 3, 1, march_valid⟩ })
  Call.perform .commit
  Call.perform (.withdraw {
    legalEntityId := some "le-1"
    version := 2
    withdrawnBy := some "A. Wanjiru"
    withdrawnAt := ⟨⟨2026, 4, 1, by decide⟩, 0, 0, 0, 0, some 0, DateTime.midnight_valid⟩
    reason := some "error"
    evidenceReference := some "min-2" })
  Call.perform .commit

/-- A database that folds ASCII letters and takes every lock on one hash. -/
def plain : Deployment := ⟨lower, fun _ => 0⟩

/-- The first `n` statements of the caller alone, its clock in May 2026. -/
def withdrawnLeaderRun (n : Nat) : List (Sessions plain).Action :=
  .launch "a" withdrawnLeader :: List.replicate n (.call "a" (.runs 1777593600000000))

theorem withdrawnLeader_runs :
    (Machine.run (withdrawnLeaderRun 10) (Machine.idle initial)).map (fun p =>
      ((Query.inForce "le-1" ⟨2026, 4, 1, by decide⟩).answer p.state.db "b").map (·.version)) =
      some (some 1) := by
  decide +kernel

/-- On the day of the withdrawal another session finds version 1 in force again. -/
theorem in_force_after_withdrawal : ∃ (p : (Sessions plain).Pool)
    (b : FinancialConfigurationBaseline), Reached plain p ∧ b.version = 1 ∧
      (register p.state.db "b" "le-1").InForce (dayOf ⟨2026, 4, 1, by decide⟩) b ∧
      (status b ⟨2026, 4, 1, by decide⟩).answered (reads p.state.db "b") = .ok .effective := by
  obtain ⟨p, hp, hv⟩ := Option.map_eq_some_iff.1 withdrawnLeader_runs
  obtain ⟨b, hb, hversion⟩ := Option.map_eq_some_iff.1 hv
  have h : Reached plain p := Machine.reaches_of_run (fun _ _ _ => trivial) hp
  obtain ⟨-, heffective, -, hstatus⟩ := one_version_in_force h "b" "le-1" ⟨2026, 4, 1, by decide⟩
  have hf := (heffective b).1 (congrArg Except.ok hb)
  exact ⟨p, b, h, hversion, hf, (hstatus b hf.stands.recorded).1.2 (congrArg Except.ok hb)⟩

end FinanceBaselines
end BaobabErp
