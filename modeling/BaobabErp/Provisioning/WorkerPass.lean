/-
# A pass of the worker

One due operation from its lock to its unlock: the pass moves its status forward
only (`move_triple`), applies what is not completed yet (`runPrepared_triple`),
and whatever goes wrong on the way, the transaction it leaves open is rolled back
before the outcome is recorded (`settle_triple`).
-/

import BaobabErp.Provisioning.Registering
import BaobabErp.Provisioning.StatusChange

namespace BaobabErp
namespace Provisioning

open Python Concurrency

section

variable {D : ProvisioningDeployment} {w : Worker} {pid : String} {b : Blueprint}
  {mine mine' : Rows} {s t : World} {σ : Session} {runnable : List ProvisioningStep}

/-! ### The status of the operation -/

/-- **A later status of the operation.** -/
structure MovedTo (D : ProvisioningDeployment) (pid : String) (b : Blueprint)
    (status : ProvisioningStatus) (mine mine' : Rows) : Prop where
  isOf : IsOf D pid b mine'
  status : ∀ row : OperationRow, mine' (.operation pid) = some row → row.status = status
  step : ∀ key, mine' (.step pid key) = mine (.step pid key)

theorem move_triple {status : ProvisioningStatus} {error : Option String} (huuid : IsUuid5 D.hashes)
    (hb : IsOf D pid b mine) (hexec : status.executed)
    (hrank : ∀ row : OperationRow, mine (.operation pid) = some row →
      row.status.rank ≤ status.rank)
    (hfin : 2 ≤ status.rank → status.rank < 4 → ∀ step ∈ b.plan.steps,
      (mine (.step pid step.key)).isSome = true) :
    (coordination D).Triple w (working D w pid mine [] .top)
      (ProvisioningStore.setStatus D pid status error)
      (.ends (fun _ => .ex fun mine' => (Protocol.Assertion.const (MovedTo D pid b status mine mine')).and
        (working D w pid mine' [] .top)) (stopped D w pid)) := by
  obtain ⟨row, hrow, hplanned⟩ := hb
  have hchange : StatusChange D pid mine row { row with status, lastError := error } :=
    { found := hrow
      moved := rfl
      key := rfl
      executed := hexec
      forward := hrank row hrow
      finished := fun h₂ h₄ b' hb' step hs => by
        rw [(hplanned.agree hb').2.1] at hs
        exact hfin h₂ h₄ step hs }
  refine (setStatus_triple huuid hchange).post fun r s _ hr => ?_
  cases r with
  | error x => exact hr
  | ok a =>
    refine ⟨_, ⟨⟨_, Function.update_self .., hplanned.moved hchange.moved⟩, fun row' hrow' => ?_,
      fun key => Function.update_of_ne (by simp) _ _⟩, hr⟩
    exact congrArg OperationRow.status
      (Option.some.inj (hrow'.symm.trans (Function.update_self ..)))

/-! ### The pass -/

/-- **What a pass has taken up**: the operation's row as it is. -/
structure Loaded (D : ProvisioningDeployment) (pid : String) (mine : Rows)
    (operation : Execution.LoadedOperation) (row : OperationRow) : Prop where
  found : mine (.operation pid) = some row
  provisioningId : operation.provisioningId = pid
  state : operation.state = row.desiredState
  digest : operation.digest = row.desiredStateDigest
  status : operation.status = row.status
  plan : Execution.planRows D.runtime row.plan = .ok operation.plan
  isOpen : Query.isOpen row.status = true

theorem Loaded.rank_le {operation : Execution.LoadedOperation} {row : OperationRow}
    (h : Loaded D pid mine operation row) : row.status.rank ≤ 2 := by
  have hopen := h.isOpen
  revert hopen
  cases row.status <;> decide

/-- **The steps that are not completed yet.** -/
theorem completedSteps_triple :
    (coordination D).Triple w (working D w pid mine [] .top) (ProvisioningStore.completedSteps pid)
      (.ends (fun done => (Protocol.Assertion.const (∀ key, key ∈ done ↔ ∃ row : StepRow,
          mine (.step pid key) = some row ∧ row.status = "completed")).and
        (working D w pid mine [] .top)) (stopped D w pid)) := by
  refine Working.sql (fun _ h => h) fun s now done ws hs hA hq => ?_
  obtain ⟨rfl, hdone⟩ := Query.completedSteps_ok hs.indexed hq
  rw [World.write_nil]
  refine ⟨fun key => ?_, hA⟩
  have hview : s.db.view w (.step pid key) = mine (.step pid key) := hA.view_mine rfl
  exact (hdone key).trans (by rw [hview])

/-- An operation that is reconciling has nothing left to apply. -/
theorem pending_nil {row : OperationRow} {done : List String} (hl : Ledger D s.rows s.engine)
    (hA : Working D w pid mine [] .top s) (hrow : mine (.operation pid) = some row)
    (hb : Planned D pid row b) (hp : Prepared D b σ runnable)
    (hdone : ∀ key, key ∈ done ↔ ∃ row : StepRow, mine (.step pid key) = some row ∧
      row.status = "completed") (hstatus : row.status = .reconciling) :
    runnable.filter (fun step => !done.contains step.key) = [] := by
  have hplaced := hl.provisioned.placed pid row b ((hA.mine _ rfl).trans hrow) hb
  rw [hstatus] at hplaced
  rw [List.filter_eq_nil_iff]
  intro step hstep
  obtain ⟨s', hs', hkey, -⟩ := hp.planned step hstep
  obtain ⟨srow, hsrow⟩ := Option.isSome_iff_exists.1
    (hplaced.finished (by decide) (by decide) s' hs')
  have hmem : s'.key ∈ done :=
    (hdone _).2 ⟨srow, (hA.mine _ rfl).symm.trans hsrow, (hplaced.done s' hs' srow hsrow).1⟩
  rw [hkey]
  simpa using hmem

/-- A move that is made only if something holds, and what comes after it. -/
theorem moveIf_triple {α : Type} {c : Prop} [Decidable c] {status : ProvisioningStatus}
    {k : Program α} {Q : α → (coordination D).Assertion w} (huuid : IsUuid5 D.hashes)
    (hb : IsOf D pid b mine) (hexec : status.executed)
    (hrank : c → ∀ row : OperationRow, mine (.operation pid) = some row →
      row.status.rank ≤ status.rank)
    (hfin : c → 2 ≤ status.rank → status.rank < 4 → ∀ step ∈ b.plan.steps,
      (mine (.step pid step.key)).isSome = true)
    (hk : ∀ mine', (¬ c ∧ mine' = mine) ∨ (c ∧ MovedTo D pid b status mine mine') →
      (coordination D).Triple w (working D w pid mine' [] .top) k (.ends Q (astray D w pid))) :
    (coordination D).Triple w (working D w pid mine [] .top)
      (if c then (do ProvisioningStore.setStatus D pid status none; k) else k)
      (.ends Q (astray D w pid)) := by
  by_cases hc : c
  · rw [if_pos hc]
    exact .seq (astray_of_stopped (move_triple huuid hb hexec (hrank hc) (hfin hc))) fun _ =>
      .ex fun mine' => .given fun hmoved => hk mine' (.inr ⟨hc, hmoved⟩)
  · rw [if_neg hc]
    exact hk mine (.inl ⟨hc, rfl⟩)

/-- **`_run` after its preparation.** -/
theorem runPrepared_triple {operation : Execution.LoadedOperation} {row : OperationRow}
    (huuid : IsUuid5 D.hashes) (hload : Loaded D pid mine operation row) (hb : Planned D pid row b)
    (hp : Prepared D b σ runnable) :
    (coordination D).Triple w (working D w pid mine [] .top)
      (Execution.runPrepared D operation b.request σ runnable)
      (.ends (fun _ => astray D w pid) (astray D w pid)) := by
  have hrow : ∀ row₁ : OperationRow, mine (.operation pid) = some row₁ → row₁ = row :=
    fun row₁ h => Option.some.inj (h.symm.trans hload.found)
  unfold Execution.runPrepared
  rw [hload.provisioningId]
  refine .seq (astray_of_stopped completedSteps_triple) fun done => .given fun hdone => ?_
  refine learn_triple (P := row.status = .reconciling →
    runnable.filter (fun step => !done.contains step.key) = [])
    (fun s hs hA => pending_nil hs.ledger hA hload.found hb hp hdone) fun hpending => ?_
  -- whatever is not completed is applied
  refine moveIf_triple huuid ⟨row, hload.found, hb⟩ (.inr (.inl rfl)) (fun hc row₁ h => ?_)
    (fun _ h => absurd h (by decide)) fun mine₁ hmine₁ => ?_
  · obtain rfl := hrow row₁ h
    rw [Bool.and_eq_true] at hc
    have hne : row₁.status ≠ .reconciling := fun h => by
      rw [hpending h] at hc
      cases hc.1
    have hopen := hload.isOpen
    revert hne hopen
    cases row₁.status <;> decide
  have hb₁ : IsOf D pid b mine₁ := by
    rcases hmine₁ with ⟨-, rfl⟩ | ⟨-, hmoved⟩
    · exact ⟨row, hload.found, hb⟩
    · exact hmoved.isOf
  have hrank₁ : ∀ row₁ : OperationRow, mine₁ (.operation pid) = some row₁ →
      row₁.status.rank ≤ 2 := fun row₁ h => by
    rcases hmine₁ with ⟨-, rfl⟩ | ⟨-, hmoved⟩
    · obtain rfl := hrow row₁ h
      exact hload.rank_le
    · rw [hmoved.status row₁ h]
      decide
  have hstep₁ : ∀ key, mine₁ (.step pid key) = mine (.step pid key) := fun key => by
    rcases hmine₁ with ⟨-, rfl⟩ | ⟨-, hmoved⟩
    · rfl
    · exact hmoved.step key
  refine .seq (applySteps_triple hp _ mine₁ (fun x hx => List.mem_of_mem_filter hx) hb₁) fun _ =>
    .ex fun mine₂ => .given fun ⟨hgrown, happlied⟩ => ?_
  have hb₂ := hgrown.isOf hb₁
  have hall : ∀ step ∈ b.plan.steps, (mine₂ (.step pid step.key)).isSome = true := by
    intro s' hs'
    obtain ⟨step, hstep, hkey, -⟩ := hp.covers s' hs'
    rw [← hkey]
    by_cases hmem : step.key ∈ done
    · obtain ⟨srow, hsrow, -⟩ := (hdone _).1 hmem
      refine hgrown.step _ ?_
      rw [hstep₁, hsrow]
      rfl
    · exact happlied step (List.mem_filter.2 ⟨hstep, by simpa using hmem⟩)
  refine .seq (astray_of_stopped (registerWarehouses_triple hb₂ runnable)) fun _ => ?_
  refine moveIf_triple huuid hb₂ (.inr (.inr (.inl rfl)))
    (fun _ row₂ h => hrank₁ row₂ (hgrown.operation.symm.trans h)) (fun _ _ _ => hall)
    fun mine₃ hmine₃ => ?_
  have hb₃ : IsOf D pid b mine₃ := by
    rcases hmine₃ with ⟨-, rfl⟩ | ⟨-, hmoved⟩
    · exact hb₂
    · exact hmoved.isOf
  have hrank₃ : ∀ row₃ : OperationRow, mine₃ (.operation pid) = some row₃ →
      row₃.status.rank ≤ 3 := fun row₃ h => by
    rcases hmine₃ with ⟨-, rfl⟩ | ⟨-, hmoved⟩
    · have := hrank₁ row₃ (hgrown.operation.symm.trans h)
      omega
    · rw [hmoved.status row₃ h]
      decide
  have hstep₃ : ∀ step ∈ b.plan.steps, (mine₃ (.step pid step.key)).isSome = true := by
    intro step hs
    rcases hmine₃ with ⟨-, rfl⟩ | ⟨-, hmoved⟩
    · exact hall step hs
    · rw [hmoved.step]
      exact hall step hs
  refine .seq (orRaise_triple (Q := fun _ => working D w pid mine₃ [] .top) (fun _ _ _ hA => hA)
    fun _ _ _ hA => Working.astray hA) fun own => .seq (astray_of_stopped (checkSteps_triple hb₃ _))
      fun checks => ?_
  dsimp only
  split_ifs
  · exact .seq (astray_of_stopped (move_triple huuid hb₃ (.inr (.inr (.inr (.inl rfl)))) hrank₃
      fun _ _ => hstep₃)) fun _ => .ex fun _ => .given fun _ => .pure fun _ _ hA => Working.astray hA
  · exact .pure fun _ _ hA => Working.astray hA

/-- **`run`**: whatever goes wrong is an outcome, and the operation stays locked. -/
theorem run_triple {operation : Execution.LoadedOperation} {row : OperationRow}
    (huuid : IsUuid5 D.hashes) (hload : Loaded D pid mine operation row)
    (hb : Planned D pid row b) :
    (coordination D).Triple w (working D w pid mine [] .top) (Execution.run D operation)
      (.ends (fun _ => astray D w pid) (.const False)) := by
  unfold Execution.run
  refine .tryCatch (Q := .ends (fun _ => astray D w pid) (astray D w pid)) ?_ (fun _ _ _ hA => hA)
    fun x => .pure fun _ _ hA => hA
  unfold Execution.runOperation
  refine .seq (B := fun x => (Protocol.Assertion.const (Execution.prepare D operation.state
    operation.digest operation.plan = .ok x)).and (working D w pid mine [] .top))
    (orRaise_triple (fun x hx s hA => ⟨hx, hA⟩) fun _ _ _ hA => Working.astray hA) fun x =>
      .given fun hx => ?_
  obtain ⟨request, σ, runnable⟩ := x
  rw [hload.state, hload.digest] at hx
  obtain ⟨rfl, hp⟩ := hb.prepared hload.plan hx
  exact runPrepared_triple huuid hload hb hp

/-! ### Recording how the pass ended -/

theorem overlay_self {rows : Rows} {k : Key} {v : Option (Row k)} :
    Database.overlay rows [⟨k, v⟩] k = v := by
  rw [Database.overlay_cons]
  exact Function.update_self k v rows

/-- An operation's row may change in what the ledger does not read. -/
theorem Alike.withOperation {rows : Rows} {row row' : OperationRow}
    (hrow : rows (.operation pid) = some row) (hcore : row'.core = row.core) :
    Alike rows (Function.update rows (.operation pid) (some row')) where
  operation p r hr := by
    by_cases hp : p = pid
    · subst hp
      obtain rfl : row = r := Option.some.inj (hrow.symm.trans hr)
      exact ⟨row', Function.update_self .., hcore⟩
    · exact ⟨r, (Function.update_of_ne (fun h => hp (Key.operation.inj h)) _ _).trans hr, rfl⟩
  core p r' hr' := by
    by_cases hp : p = pid
    · subst hp
      rw [Function.update_self] at hr'
      obtain rfl := Option.some.inj hr'
      exact ⟨row, hrow, hcore⟩
    · rw [Function.update_of_ne (fun h => hp (Key.operation.inj h))] at hr'
      exact ⟨r', hr', rfl⟩
  same k hk := Function.update_of_ne (by rintro rfl; cases hk) _ _
  outbox id o ho := (Function.update_of_ne (by simp) _ _).trans ho
  fresh id o ho _ _ _ := by
    rwa [Function.update_of_ne (by simp)] at ho

/-- What a commit of such a change needs. -/
theorem Working.commits_alike {row row' : OperationRow}
    (hA : Working D w pid mine [⟨.operation pid, some row'⟩] .top s) (hs : Coordinated D s)
    (hrow : mine (.operation pid) = some row) (hcore : row'.core = row.core) : Commits D w s := by
  have halike : Alike s.rows (Database.overlay s.rows [⟨.operation pid, some row'⟩]) :=
    .withOperation ((hA.mine _ rfl).trans hrow) hcore
  refine hA.commits (fun k hk p hp => ?_) (hs.ledger.alike halike) (.of_alike halike)
    (.inl fun r r' hr hr' => ?_)
  · obtain rfl := List.mem_singleton.1 hk
    exact (Option.some.inj hp).symm
  · obtain rfl : row = r := Option.some.inj (hrow.symm.trans hr)
    rw [overlay_self] at hr'
    obtain rfl : row' = r' := Option.some.inj hr'
    exact (congrArg Prod.fst hcore).symm

theorem recordOutcome_triple {code : String} {delay : Option Int} {error : Option String}
    {refund : Bool} :
    (coordination D).Triple w (working D w pid mine [] .top)
      (Execution.record pid code delay error refund)
      (.ends (fun _ => stopped D w pid) (stopped D w pid)) := by
  unfold Execution.record
  refine .seq (B := fun _ => .ex fun row : OperationRow => .ex fun row' : OperationRow =>
    (Protocol.Assertion.const (mine (.operation pid) = some row ∧ row'.core = row.core)).and
      (working D w pid mine [⟨.operation pid, some row'⟩] .top))
    (Working.sql (fun _ h => h) fun s now a ws hs hA hq => ?_) fun _ => .ex fun row => .ex fun row' =>
      .given fun ⟨hrow, hcore⟩ => commit_triple (fun s hs hA => Working.commits_alike hA hs hrow hcore)
        (fun s _ hA => (Working.abort hA).stopped) fun s _ hg hA => ?_
  · obtain ⟨row, hrow⟩ := Option.isSome_iff_exists.1 hA.found
    have hview : s.view w (.operation pid) = some row := (hA.view_mine rfl).trans hrow
    obtain ⟨-, hws⟩ := Query.update_ok hview (fun d hd => by
      obtain rfl := Option.some.inj hd
      rfl) hq
    rcases hws with ⟨hset, -⟩ | ⟨row', hset, rfl⟩
    · cases hset
    · obtain rfl := Option.some.inj hset
      refine ⟨row, _, ⟨hrow, ?_⟩, hA.write⟩
      rfl
  · exact (Working.commit hA hg (by rw [overlay_self]; rfl)).stopped

/-- The rows of a session that has stopped. -/
theorem working_of_stopped {s : World} (h : (stopped D w pid).holds s) :
    Working D w pid s.rows [] .top s :=
  ⟨h.2.1, h.2.2, fun _ _ => rfl, h.1, trivial⟩

/-- **`settle`**: what the pass left open is gone before its outcome is recorded. -/
theorem settle_triple {operation : Execution.LoadedOperation} {outcome : Execution.Outcome}
    {now : Instant} (huuid : IsUuid5 D.hashes) (hid : operation.provisioningId = pid) :
    (coordination D).Triple w (astray D w pid) (Execution.settle D operation outcome now)
      (.ends (fun _ => stopped D w pid) (stopped D w pid)) := by
  unfold Execution.settle
  rw [hid]
  refine Protocol.Triple.bind (Q := fun _ => stopped D w pid)
    (rollback_triple fun s _ hA => ⟨World.clean_abort, hA⟩) (fun _ => ?_) fun _ _ _ hA => hA
  refine Protocol.Triple.pre (A := .ex fun mine => working D w pid mine [] .top)
    (.ex fun mine => ?_) fun s _ hA => ⟨s.rows, working_of_stopped hA⟩
  refine learn_triple (P := ∃ b, IsOf D pid b mine) (fun s hs hA => ?_) fun ⟨b, hb⟩ => ?_
  · obtain ⟨row, hrow⟩ := Option.isSome_iff_exists.1 (Working.found hA)
    obtain ⟨-, b, hb⟩ := hs.ledger.provisioned.planned pid row ((Working.mine hA _ rfl).trans hrow)
    exact ⟨b, row, hrow, hb⟩
  dsimp only
  split
  · refine .seq (move_triple huuid hb (.inr (.inr (.inr (.inr rfl))))
      (fun row _ => rank_le row.status) fun _ h => absurd h (by decide)) fun _ =>
        .ex fun mine' => .given fun _ => .seq recordOutcome_triple fun _ => .pure fun _ _ hA => hA
  · exact .seq recordOutcome_triple fun _ => .pure fun _ _ hA => hA
  · exact .seq recordOutcome_triple fun _ => .pure fun _ _ hA => hA
  · exact .seq recordOutcome_triple fun _ => .pure fun _ _ hA => hA

/-! ### Taking an operation up -/

/-- The lock of an operation is held, which need not be there. -/
def holding (D : ProvisioningDeployment) (w : Worker) (pid : String) :
    (coordination D).Assertion w :=
  settled (fun s => s.Clean w ∧ s.db.Locked w (lockOf D pid)) fun _ h ⟨hc, hl⟩ =>
    ⟨by unfold World.Clean; rw [h.same.own]; exact hc, h.same.kept.locked.1 hl⟩

/-- An operation is taken up. -/
def takenUp (D : ProvisioningDeployment) (w : Worker) (pid : String)
    (operation : Execution.LoadedOperation) : (coordination D).Assertion w :=
  .ex fun mine => .ex fun row : OperationRow => .ex fun b =>
    (Protocol.Assertion.const (Loaded D pid mine operation row ∧ Planned D pid row b)).and
      (working D w pid mine [] .top)

theorem begin_triple :
    (coordination D).Triple w (holding D w pid) (Execution.begin D pid)
      (.ends (fun
        | none => clean D w
        | some operation => takenUp D w pid operation) (clean D w)) := by
  unfold Execution.begin
  -- the pass is counted, which the ledger does not read
  refine .seq (B := fun a : Option OperationRow => match a with
    | none => holding D w pid
    | some counted => .ex fun mine => .ex fun row : OperationRow => .ex fun b =>
      (Protocol.Assertion.const ((mine (.operation pid) = some row ∧ counted.core = row.core) ∧
        Planned D pid counted b ∧ Query.isOpen counted.status = true)).and
        (working D w pid mine [⟨.operation pid, some counted⟩] .top))
    (sql_triple (fun s _ _ => World.clean_abort) fun s now a ws hs ⟨hclean, hlocked⟩ hq => ?_)
    fun a => ?_
  · unfold Query.run at hq
    dsimp only at hq
    rw [hclean.view] at hq
    split at hq
    · rename_i row hrow
      split_ifs at hq with hopen
      · obtain ⟨rfl, rfl⟩ := Prod.mk.inj (Except.ok.inj hq)
        rw [Bool.and_eq_true] at hopen
        obtain ⟨-, b, hb⟩ := hs.ledger.provisioned.planned pid row hrow
        refine ⟨s.rows, row, b, ⟨⟨hrow, rfl⟩, hb.moved rfl, hopen.1⟩, ?_⟩
        have hworking : Working D w pid s.rows [] .top s :=
          ⟨hlocked, by rw [hrow]; rfl, fun _ _ => rfl, hclean, trivial⟩
        exact hworking.write
      · obtain ⟨rfl, rfl⟩ := Prod.mk.inj (Except.ok.inj hq)
        rw [World.write_nil]
        exact ⟨hclean, hlocked⟩
    · obtain ⟨rfl, rfl⟩ := Prod.mk.inj (Except.ok.inj hq)
      rw [World.write_nil]
      exact ⟨hclean, hlocked⟩
  · cases a with
    | none =>
      refine .seq (commit_triple (Q := fun _ => clean D w) (fun s hs hA => .of_clean hs hA.1)
        (fun s _ _ => World.clean_abort) fun s _ _ _ => World.clean_commit) fun _ =>
          .pure fun _ _ hA => hA
    | some counted =>
      refine .ex fun mine => .ex fun row => .ex fun b => .given fun ⟨⟨hrow, hcore⟩, hb, hopen⟩ => ?_
      refine .seq (B := fun _ => working D w pid
          (Function.update mine (.operation pid) (some counted)) [] .top)
        (commit_triple (fun s hs hA => Working.commits_alike hA hs hrow hcore)
          (fun s _ _ => World.clean_abort) fun s _ hg hA => Working.commit hA hg (by
            rw [overlay_self]; rfl)) fun _ => ?_
      refine .seq (B := fun plan => (Protocol.Assertion.const
        (Execution.planRows D.runtime counted.plan = .ok plan)).and (working D w pid
          (Function.update mine (.operation pid) (some counted)) [] .top))
        (orRaise_triple (fun plan hplan s hA => ⟨hplan, hA⟩) fun _ _ s hA => Working.wrote hA)
        fun plan => .given fun hplan => .pure fun s _ hA => ?_
      exact ⟨_, counted, b, ⟨⟨Function.update_self .., rfl, rfl, rfl, rfl, hplan, hopen⟩, hb⟩, hA⟩

/-! ### The worker -/

theorem now_triple {A : (coordination D).Assertion w} {B : (coordination D).Assertion w} :
    (coordination D).Triple w A Call.now (.ends (fun _ => A) B) := by
  refine .perform (fun _ _ _ => trivial) fun c s r t _ _ hA _ he => ?_
  obtain ⟨rfl, rfl⟩ := Prod.mk.inj (Option.some.inj he)
  exact hA

theorem commit_clean : (coordination D).Triple w (clean D w) Call.commit
    (.ends (fun _ => clean D w) (clean D w)) :=
  commit_triple (fun _ hs hA => .of_clean hs hA) (fun _ _ _ => World.clean_abort)
    fun _ _ _ _ => World.clean_commit

theorem unlock_triple : (coordination D).Triple w (clean D w) (Execution.unlock pid)
    (.ends (fun _ => clean D w) (clean D w)) := by
  unfold Execution.unlock
  refine .seq (B := fun _ => clean D w) (.perform (fun _ _ _ => trivial)
    fun c s r t _ _ hA _ he => ?_) fun _ => commit_clean
  rcases exec_unlock (D := D) he with ⟨f, rfl, rfl⟩ | ⟨rfl, rfl⟩
  · exact World.clean_abort
  · show World.own _ w = _
    unfold World.own
    dsimp only
    rw [Database.store_release]
    exact hA

/-- **`run_once` takes one operation at a time**, and leaves nothing open. -/
theorem attempt_triple (huuid : IsUuid5 D.hashes) :
    (coordination D).Triple w (clean D w) (Execution.attempt D pid)
      (.ends (fun _ => clean D w) (clean D w)) := by
  unfold Execution.attempt
  refine .seq (B := fun taken : Bool => if taken then holding D w pid else clean D w) (.perform
    (fun _ _ _ => trivial) fun c s r t _ _ hA _ he => ?_) fun taken => ?_
  · rcases exec_tryLock (D := D) he with ⟨f, rfl, rfl⟩ | ⟨rfl, rfl⟩ | ⟨rfl, -, rfl⟩
    · exact World.clean_abort
    · exact hA
    · exact ⟨hA, Database.locked_acquire⟩
  cases taken with
  | false => exact .pure fun _ _ hA => hA
  | true =>
    refine Protocol.Triple.ensure (B := clean D w) (Q := fun _ => clean D w)
      (R := .ends (fun _ => clean D w) (clean D w)) ?_ (fun r => ?_) fun _ _ _ hA => hA
    · refine Protocol.Triple.bind begin_triple (fun a => ?_) fun _ _ _ hA => hA
      cases a with
      | none => exact .pure fun _ _ hA => hA
      | some operation =>
        refine .ex fun mine => .ex fun row => .ex fun b => .given fun ⟨hload, hb⟩ => ?_
        refine Protocol.Triple.post (Q := .ends (fun _ => stopped D w pid) (stopped D w pid)) ?_
          fun r s _ hr => ?_
        · have hid := hload.provisioningId
          refine Protocol.Triple.bind (run_triple huuid hload hb) (fun outcome => ?_)
            fun _ _ _ hA => hA.elim
          exact Protocol.Triple.bind (Q := .ends (fun _ => astray D w pid) (stopped D w pid))
            now_triple (fun now => .seq (settle_triple huuid hid) fun _ => .pure fun _ _ hA => hA)
            fun _ _ _ hA => hA
        · cases r with
          | ok a => exact hr.1
          | error x => exact hr.1
    · refine unlock_triple.post fun r' s _ hr => ?_
      cases r with
      | ok a =>
        cases r' with
        | ok a => exact hr
        | error x => exact hr
      | error x =>
        cases r' with
        | ok a => exact hr
        | error x => exact hr

theorem attempts_triple (huuid : IsUuid5 D.hashes) : ∀ pids : List String,
    (coordination D).Triple w (clean D w) (Execution.attempts D pids)
      (.ends (fun _ => clean D w) (clean D w))
  | [] => .pure fun _ _ hA => hA
  | _ :: pids => .seq (attempt_triple huuid) fun _ => attempts_triple huuid pids

/-- **`run_once`.** -/
theorem runOnce_triple (huuid : IsUuid5 D.hashes) {limit : Nat} :
    (coordination D).Triple w (clean D w) (Execution.runOnce D limit)
      (.ends (fun _ => clean D w) (clean D w)) := by
  unfold Execution.runOnce
  refine .seq (B := fun _ => clean D w) (sql_triple (fun s _ _ => World.clean_abort)
    fun s now a ws hs hA hq => ?_) fun ids => .seq commit_clean fun _ => attempts_triple huuid ids
  obtain ⟨-, rfl⟩ := Prod.mk.inj (Except.ok.inj hq)
  rw [World.write_nil]
  exact hA

end

end Provisioning
end BaobabErp
