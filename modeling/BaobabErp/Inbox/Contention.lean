/-
# An attempt that finds its lock held

"Another worker is on this very order; neither a failure nor an attempt"
(`order_to_cash/inbox_execution.py`).  Such an attempt ends as a retry that gives
the attempt back.  But the outcome passes through the budgets, which know nothing
of the refund: at the last attempt they make a dead letter of it.
-/

import BaobabErp.Concurrency.Trace
import BaobabErp.Inbox.Inputs

namespace BaobabErp
namespace Inbox

open Python Concurrency ExecutionPolicy World

/-! ### What the transactions of a trace settled -/

/-- The settlements that were committed; `pending` is one that is not yet. -/
def settlements (pending : Option Settlement) : List (Prog.Event Ans Exc) → List Settlement
  | [] => []
  | ⟨.settle _ s, .ok n⟩ :: tr => settlements (if (show Nat from n) = 1 then some s else pending) tr
  | ⟨.commit, .ok _⟩ :: tr => pending.toList ++ settlements none tr
  | ⟨.rollback, _⟩ :: tr => settlements none tr
  -- a statement that fails aborts the transaction
  | ⟨_, .error _⟩ :: tr => settlements none tr
  | ⟨_, .ok _⟩ :: tr => settlements pending tr

/-- **The row is released as it was before it was claimed**: for a retry, with its
attempts what they were. -/
def ReleasedUnspent (row : InboxRow) (w : Worker) (lease : Int) (claimedAt : Instant) (claim : Claim)
    (tr : List (Prog.Event Ans Exc)) : Prop :=
  ∃ s, settlements none tr = [s] ∧ ∀ now,
    (settledRow (claimedRow row w lease claimedAt) claim s now).status = .retry ∧
      (settledRow (claimedRow row w lease claimedAt) claim s now).attempts = row.attempts

/-- **Nothing else happens to the attempt**: every call is answered, and the row is
still the worker's when it is settled. -/
def Undisturbed (tr : List (Prog.Event Ans Exc)) : Prop :=
  (∀ x ∈ tr, ∃ a, x.2 = .ok a) ∧ ∀ claim s n, (⟨.settle claim s, .ok n⟩ : Prog.Event Ans Exc) ∈ tr →
    n = (1 : Nat)

/-- The calls were answered as the platform answers them, whatever its state was. -/
def Answered (D : Deployment) (tr : List (Prog.Event Ans Exc)) : Prop :=
  ∀ x ∈ tr, ∃ w c s u, exec D w x.1 c s = some (x.2, u)

variable {D : Deployment} {claim : Claim} {row : InboxRow} {w : Worker} {lease : Int}
  {claimedAt : Instant} {tr : List (Prog.Event Ans Exc)} {key : String}

/-- A call of the platform never raises what only an executor raises. -/
theorem commit_not_stop {c : Choice} {s u : World} {o : Outcome}
    (h : exec D w .commit c s = some (.error (.stop o), u)) : False := by
  unfold exec at h
  simp only at h
  split at h
  · cases h
  · rename_i f _
    injection h with h
    injection h with h _
    injection h with h
    cases f <;> cases h

/-! ### The attempt up to its lock -/

/-- The outcome of an attempt that does not get its lock. -/
def contended (code : String) : Outcome :=
  { status := .retry, code, delaySeconds := some contentionDelaySeconds, refundAttempt := true }

/-- What is left of an attempt that does not get its lock. -/
def contendedAttempt (code : String) : Program Outcome := do
  Call.commit
  pure (contended code)

/-- A call that tries to take a session lock. -/
def triesLock : Eff → Bool
  | .tryLock _ => true
  | _ => false

theorem quiet_call {e : Eff} (h : triesLock e = false) :
    ¬ Prog.Calls (triesLock · = true) (.perform e : Program (Ans e)) :=
  Prog.quiet_perform (by rw [h]; exact Bool.false_ne_true)

theorem triesLock_of_reads {e : Eff} (h : e.reads = true) : triesLock e = false := by
  cases e <;> first | rfl | cases h

theorem triesLock_of_records {e : Eff} (h : e.records = true) : triesLock e = false := by
  cases e <;> first | rfl | cases h

theorem settleOutcome_quiet (o : Outcome) :
    ¬ Prog.Calls (triesLock · = true) (settleOutcome claim o) :=
  settleOutcome_closed Prog.closed_quiet (fun _ h _ => quiet_call (triesLock_of_reads h))
    (fun _ => quiet_call rfl) o

theorem settleException_quiet (x : Exc) :
    ¬ Prog.Calls (triesLock · = true) (settleException claim x) :=
  settleException_closed Prog.closed_quiet (fun _ h _ => quiet_call (triesLock_of_reads h))
    (fun _ => quiet_call rfl) x

/-- `settle` tries a lock where the attempt does. -/
theorem settle_at {execute : Program Outcome} {codes : List String}
    {k : Except Exc Bool → Program Outcome}
    (h : Prog.Trace (settle claim execute codes) tr (.call (.tryLock key) k)) :
    ∃ k', Prog.Trace execute tr (.call (.tryLock key) k') ∧
      k = fun r => settle claim (k' r) codes := by
  unfold settle at h
  rw [Prog.tryCatch_eq] at h
  obtain ⟨k₁, h₁, hk₁⟩ := h.call_of_handle (triesLock · = true) rfl fun r => by
    cases r with
    | ok a => exact Prog.not_calls_ret
    | error x => exact settleException_quiet x
  rw [Prog.bind_eq] at h₁
  obtain ⟨k₂, h₂, hk₂⟩ := h₁.call_of_handle (triesLock · = true) rfl fun r => by
    cases r with
    | ok o =>
      simp only
      split
      · exact Prog.not_calls_ret
      · exact settleOutcome_quiet o
    | error x => exact Prog.not_calls_ret
  unfold outcomeOf at h₂
  rw [Prog.tryCatch_eq] at h₂
  obtain ⟨k₃, h₃, hk₃⟩ := h₂.call_of_handle (triesLock · = true) rfl fun r => by
    cases r with
    | ok a => exact Prog.not_calls_ret
    | error x => cases x <;> exact Prog.not_calls_ret
  subst hk₁ hk₂ hk₃
  exact ⟨k₃, h₃, rfl⟩

theorem parsed_ok_bind {α β : Type} (a : α) (f : α → Program β) :
    (parsed (.ok a) >>= f) = f a := rfl

/-- A region under a lock tries it first, and goes on without it. -/
theorem withLock_at {α : Type} {key' : String} {body : Bool → Program α}
    {k : Except Exc Bool → Program α}
    (hbody : ∀ held, ¬ Prog.Calls (triesLock · = true) (body held))
    (h : Prog.Trace (withLock key' body) tr (.call (.tryLock key) k)) :
    k (.ok false) = Call.commit >>= fun _ => (body false).ensure (pure ()) := by
  have hrest : ∀ held, ¬ Prog.Calls (triesLock · = true)
      (Call.commit >>= fun _ => (body held).ensure (unlockIf held key')) := fun held =>
    Prog.closed_quiet.bind (quiet_call rfl) fun _ => Prog.closed_quiet.ensure (hbody held)
      (unlockIf_closed Prog.closed_quiet (fun _ h _ => quiet_call (triesLock_of_reads h))
        (quiet_call rfl) held)
  unfold withLock at h
  rw [Prog.bind_eq] at h
  change Prog.Trace (.call (.tryLock key') _) tr _ at h
  generalize hq : (Prog.call (Eff.tryLock key) k : Program α) = q at h
  cases h with
  | nil =>
    obtain ⟨-, hk⟩ := Prog.call.inj hq
    rw [eq_of_heq hk]
    rfl
  | @cons _ _ r _ _ h =>
    subst hq
    have hcall : Prog.Calls (triesLock · = true) _ := h.calls (.here rfl)
    cases r with
    | ok held => exact absurd hcall (hrest held)
    | error x => exact absurd hcall Prog.not_calls_ret

end Inbox

namespace OrderExecution

open Concurrency Inbox ExecutionPolicy

variable {D : Deployment} {claim : Claim} {authority : Option InboxNativeAuthority} {key : String}
  {tr : List (Prog.Event Ans Exc)} {k : Except Exc Bool → Program Outcome}

theorem executeLocked_quiet {tenantId ei : String} {placement : TenantMappingRow}
    {order : PlacedOrder} (held : Bool) : ¬ Prog.Calls (triesLock · = true)
      (executeLocked D claim authority tenantId ei placement order held) := by
  have hread : ∀ e : Eff, e.reads = true → e.looks = false →
      ¬ Prog.Calls (triesLock · = true) (.perform e : Program (Ans e)) :=
    fun _ h _ => quiet_call (triesLock_of_reads h)
  have hrecords : ∀ e : Eff, e.records = true → e.ties = false →
      ¬ Prog.Calls (triesLock · = true) (.perform e : Program (Ans e)) :=
    fun _ h _ => quiet_call (triesLock_of_records h)
  refine executeLocked_closed Prog.closed_quiet hread ?_ held
  refine executeNew_closed Prog.closed_quiet (fun _ _ => quiet_call rfl) (fun σ _ _ _ _ => ?_)
    fun _ _ => record_closed Prog.closed_quiet hread hrecords (fun _ => quiet_call rfl)
      fun _ _ => quiet_call rfl
  exact nativeOrder_closed Prog.closed_quiet (fun _ => quiet_call rfl)
    (lookupOrCreate_closed Prog.closed_quiet hread (quiet_call rfl) fun _ => quiet_call rfl)

/-- **An order attempt that does not get its lock** commits and is contended. -/
theorem execute_at (h : Prog.Trace (execute D claim authority) tr (.call (.tryLock key) k)) :
    k (.ok false) = contendedAttempt "ORDER_CONTENDED" := by
  unfold execute at h
  cases hparse : PlacedOrder.parsePlacedOrder claim.data with
  | error reason =>
    rw [hparse] at h
    cases (Prog.Trace.of_ret h).2
  | ok order =>
    rw [hparse, parsed_ok_bind] at h
    split at h
    · cases (Prog.Trace.of_ret h).2
    · rw [Prog.bind_eq] at h
      obtain ⟨before, after, r, rfl, -, h'⟩ := h.call_of_quiet (triesLock · = true) rfl
        (quiet_call rfl)
      cases r with
      | error x => cases (Prog.Trace.of_ret h').2
      | ok placement =>
        simp only at h'
        split at h'
        · cases (Prog.Trace.of_ret h').2
        · exact withLock_at executeLocked_quiet h'

end OrderExecution

namespace CustomerExecution

open Concurrency Inbox ExecutionPolicy

variable {D : Deployment} {claim : Claim} {key : String} {tr : List (Prog.Event Ans Exc)}
  {k : Except Exc Bool → Program Outcome}

theorem executeLocked_quiet {tenantId ei : String} {placement : TenantMappingRow}
    {customer : CustomerProjection} (held : Bool) : ¬ Prog.Calls (triesLock · = true)
      (executeLocked D claim tenantId ei placement customer held) := by
  have hread : ∀ e : Eff, e.reads = true → e.looks = false →
      ¬ Prog.Calls (triesLock · = true) (.perform e : Program (Ans e)) :=
    fun _ h _ => quiet_call (triesLock_of_reads h)
  have hrecords : ∀ e : Eff, e.records = true →
      ¬ Prog.Calls (triesLock · = true) (.perform e : Program (Ans e)) :=
    fun _ h => quiet_call (triesLock_of_records h)
  refine executeLocked_closed Prog.closed_quiet hread (quiet_call rfl) (fun mapped => ?_) held
  refine executeNewer_closed Prog.closed_quiet (fun σ _ => ?_) fun _ _ =>
    record_closed Prog.closed_quiet hread (fun e h _ => hrecords e h) (fun _ => quiet_call rfl)
      fun e h _ => hrecords e (Eff.records_of_ties h)
  exact nativePartner_closed Prog.closed_quiet hread (fun _ => quiet_call rfl)
    (fun _ => quiet_call rfl) (fun _ _ => quiet_call rfl) fun _ => quiet_call rfl

/-- **A customer attempt that does not get its lock** commits and is contended. -/
theorem execute_at (h : Prog.Trace (execute D claim) tr (.call (.tryLock key) k)) :
    k (.ok false) = contendedAttempt "CUSTOMER_CONTENDED" := by
  unfold execute at h
  cases hparse : CustomerProjection.parseCustomerProjected claim.data with
  | error reason =>
    rw [hparse] at h
    cases (Prog.Trace.of_ret h).2
  | ok customer =>
    rw [hparse, parsed_ok_bind] at h
    split at h
    · cases (Prog.Trace.of_ret h).2
    · rw [Prog.bind_eq] at h
      obtain ⟨before, after, r, rfl, -, h'⟩ := h.call_of_quiet (triesLock · = true) rfl
        (quiet_call rfl)
      cases r with
      | error x => cases (Prog.Trace.of_ret h').2
      | ok placement =>
        simp only at h'
        split at h'
        · cases (Prog.Trace.of_ret h').2
        · exact withLock_at executeLocked_quiet h'

end CustomerExecution

namespace Inbox

open Concurrency ExecutionPolicy World

variable {D : Deployment} {claim : Claim} {row : InboxRow} {w : Worker} {lease : Int}
  {claimedAt : Python.Instant} {tr : List (Prog.Event Ans Exc)} {key eventType : String}
  {governed : Bool} {r : Except Exc Outcome}

/-- **What is left of an attempt that does not get its lock** is to settle it as
contended. -/
theorem runClaim_at {k : Except Exc Bool → Program Outcome}
    (h : Prog.Trace (InboxWorker.runClaim D governed eventType claim) tr
      (.call (.tryLock key) k)) :
    ∃ code codes, k (.ok false) = settle claim (contendedAttempt code) codes := by
  unfold InboxWorker.runClaim at h
  split at h
  · rw [Prog.bind_eq] at h
    obtain ⟨before, after, r, rfl, -, h'⟩ := h.call_of_quiet (triesLock · = true) rfl
      (InboxWorker.authority_closed Prog.closed_quiet
        (fun _ h _ => quiet_call (triesLock_of_reads h)) governed)
    cases r with
    | error x => cases (Prog.Trace.of_ret h').2
    | ok authority =>
      obtain ⟨k', h'', rfl⟩ := settle_at h'
      exact ⟨_, _, congrArg (settle claim · _) (OrderExecution.execute_at h'')⟩
  · obtain ⟨k', h', rfl⟩ := settle_at h
    exact ⟨_, _, congrArg (settle claim · _) (CustomerExecution.execute_at h')⟩

/-! ### Settling a contended attempt -/

/-- What was committed had been settled. -/
theorem mem_settlements {pending : Option Settlement} {s : Settlement}
    (h : s ∈ settlements pending tr) :
    pending = some s ∨ ∃ claim n, (⟨.settle claim s, .ok n⟩ : Prog.Event Ans Exc) ∈ tr := by
  fun_induction settlements pending tr with
  | case1 => cases h
  | case2 pending claim s' n tr ih =>
    rcases ih h with hp | ⟨c, m, hm⟩
    · split at hp
      · obtain rfl := Option.some.inj hp
        exact Or.inr ⟨claim, n, List.mem_cons_self ..⟩
      · exact Or.inl hp
    · exact Or.inr ⟨c, m, List.mem_cons_of_mem _ hm⟩
  | case3 pending a tr ih =>
    rcases List.mem_append.1 h with hp | h
    · exact Or.inl (Option.mem_toList.1 hp)
    · rcases ih h with hp | ⟨c, m, hm⟩
      · cases hp
      · exact Or.inr ⟨c, m, List.mem_cons_of_mem _ hm⟩
  | case4 pending a tr ih =>
    rcases ih h with hp | ⟨c, m, hm⟩
    · cases hp
    · exact Or.inr ⟨c, m, List.mem_cons_of_mem _ hm⟩
  | case5 =>
    rename_i ih
    rcases ih h with hp | ⟨c, m, hm⟩
    · cases hp
    · exact Or.inr ⟨c, m, List.mem_cons_of_mem _ hm⟩
  | case6 =>
    rename_i ih
    rcases ih h with hp | ⟨c, m, hm⟩
    · exact Or.inl hp
    · exact Or.inr ⟨c, m, List.mem_cons_of_mem _ hm⟩

/-- A settlement that gives the attempt back. -/
def refunds : Eff → Bool
  | .settle _ s => s.refund
  | _ => false

/-- A failed attempt gives nothing back. -/
theorem settleException_spends (x : Exc) :
    ¬ Prog.Calls (refunds · = true) (settleException claim x) := by
  have quiet : ∀ e : Eff, refunds e = false →
      ¬ Prog.Calls (refunds · = true) (.perform e : Program (Ans e)) := fun e h =>
    Prog.quiet_perform (by rw [h]; exact Bool.false_ne_true)
  have hread : ∀ e : Eff, e.reads = true → e.looks = false →
      ¬ Prog.Calls (refunds · = true) (.perform e : Program (Ans e)) := fun e h _ =>
    quiet e (by cases e <;> first | rfl | cases h)
  unfold settleException
  split
  · exact Prog.closed_quiet.bind (quiet _ rfl) fun _ => Prog.closed_quiet.pure _
  · refine Prog.closed_quiet.bind (quiet _ rfl) fun _ =>
      Prog.closed_quiet.bind (quiet _ rfl) fun now => ?_
    refine Prog.closed_quiet.bind (Prog.closed_quiet.tryCatch ?_ fun _ => quiet _ rfl)
      fun _ => Prog.closed_quiet.pure _
    refine Prog.closed_quiet.bind (nextAttempt_closed Prog.closed_quiet hread _) fun next =>
      Prog.closed_quiet.bind ?_ fun _ => quiet _ rfl
    unfold release
    split
    · refine Prog.closed_quiet.bind (quiet _ rfl) fun rowcount => ?_
      split
      · exact Prog.closed_quiet.pure _
      · exact Prog.closed_quiet.throw _
    · exact Prog.closed_quiet.throw _

/-- A failed attempt begins by rolling back. -/
theorem settleException_first {x : Exc} (h : Prog.Trace (settleException claim x) tr (.ret r)) :
    ∃ a rest, tr = ⟨.rollback, a⟩ :: rest := by
  cases x <;> exact (Prog.Trace.call_ret h).imp fun a ⟨rest, hrest, _⟩ => ⟨rest, hrest⟩

/-- **What a failed attempt is released with spends it.** -/
theorem settlements_settleException {x : Exc} (h : Prog.Trace (settleException claim x) tr (.ret r))
    (pending : Option Settlement) : ∀ s ∈ settlements pending tr, s.refund = false := by
  intro s hs
  obtain ⟨a, rest, rfl⟩ := settleException_first h
  have hs' : s ∈ settlements none rest := by
    rw [settlements] at hs
    exact hs
  rcases mem_settlements hs' with hp | ⟨c, n, hn⟩
  · cases hp
  · rw [Bool.eq_false_iff]
    intro hr
    exact settleException_spends x
      (h.calls_of_mem (List.mem_cons_of_mem _ hn) hr)

/-- Until its transaction commits, a rollback undoes what a trace settled. -/
theorem settlements_rollback {pending : Option Settlement} {a : Except Exc Unit}
    {rest : List (Prog.Event Ans Exc)}
    (h : ∀ u, (⟨.commit, .ok u⟩ : Prog.Event Ans Exc) ∉ tr) :
    settlements pending (tr ++ ⟨.rollback, a⟩ :: rest) = settlements none rest := by
  fun_induction settlements pending tr with
  | case1 pending => rfl
  | case2 pending claim s n tr ih =>
    exact ih fun u hu => h u (List.mem_cons_of_mem _ hu)
  | case3 pending u tr ih => exact absurd (List.mem_cons_self ..) (h u)
  | case4 pending b tr ih => exact ih fun u hu => h u (List.mem_cons_of_mem _ hu)
  | case5 =>
    rename_i hne _ ih
    rw [List.cons_append, settlements]
    · exact ih fun u hu => h u (List.mem_cons_of_mem _ hu)
    all_goals assumption
  | case6 =>
    rename_i ih
    rw [List.cons_append, settlements]
    · exact ih fun u hu => h u (List.mem_cons_of_mem _ hu)
    all_goals assumption

/-- What the budgets make of a contended attempt. -/
theorem failureOutcome_contended (code : String) (attempts : Nat)
    (receivedAt now : Python.Instant) :
    failureOutcome (contended code) attempts receivedAt now =
      if attempts ≥ maxAttempts then
        { status := .deadLetter, code := "ATTEMPTS_EXHAUSTED", detail := code }
      else contended code := by
  unfold failureOutcome contended
  simp

/-- **A settlement in a transaction of its own**: all of it is done, or a call of it
failed and nothing was committed. -/
theorem settlement_ret {status : InboxStatus} {code error : String} {o : Outcome}
    {next : Option Python.Instant} {refund : Bool}
    (hstatus : status = .retry ∨ status = .blocked ∨ status = .deadLetter)
    (h : Prog.Trace (release claim status code error next refund >>= fun _ =>
      Call.commit >>= fun _ => (pure o : Program Outcome)) tr (.ret r)) :
    (settlements none tr = [⟨status, code, some (truncated error), next, refund⟩] ∧
      Undisturbed tr ∧ r = .ok o) ∨
    ((∃ x, r = .error x) ∧ ¬ Undisturbed tr ∧
      ∀ u, (⟨.commit, .ok u⟩ : Prog.Event Ans Exc) ∉ tr) := by
  have hne : ∀ (a : Except Exc Nat) (u : Unit),
      (⟨.commit, .ok u⟩ : Prog.Event Ans Exc) ≠
        ⟨.settle claim ⟨status, code, some (truncated error), next, refund⟩, a⟩ := by
    intro a u h
    cases congrArg Sigma.fst h
  unfold release at h
  rw [if_pos hstatus] at h
  obtain ⟨a, rest, rfl, h₁⟩ := Prog.Trace.call_ret h
  cases a with
  | error x =>
    obtain ⟨rfl, hr⟩ := Prog.Trace.of_ret h₁
    cases hr
    refine .inr ⟨⟨x, rfl⟩, fun hu => ?_, fun u hm => ?_⟩
    · obtain ⟨b, hb⟩ := hu.1 _ (List.mem_cons_self ..)
      cases hb
    · exact hne _ u (List.mem_singleton.1 hm)
  | ok n =>
    by_cases hn : (show Nat from n) = 1
    · have h₁ : Prog.Trace ((if (show Nat from n) = 1 then (pure () : Program Unit)
          else throw .leaseLost) >>= fun _ => Call.commit >>= fun _ => (pure o : Program Outcome))
          rest (.ret r) := h₁
      rw [if_pos hn] at h₁
      obtain ⟨b, rest', rfl, h₂⟩ := Prog.Trace.call_ret h₁
      obtain rfl : n = (1 : Nat) := hn
      cases b with
      | error x =>
        obtain ⟨rfl, hr⟩ := Prog.Trace.of_ret h₂
        cases hr
        refine .inr ⟨⟨x, rfl⟩, fun hu => ?_, fun u hm => ?_⟩
        · obtain ⟨b, hb⟩ := hu.1 _ (List.mem_cons_of_mem _ (List.mem_cons_self ..))
          cases hb
        · rcases List.mem_cons.1 hm with hm | hm
          · exact hne _ u hm
          · have hm := List.mem_singleton.1 hm
            cases hm
      | ok u =>
        obtain ⟨rfl, hr⟩ := Prog.Trace.of_ret h₂
        cases hr
        refine .inl ⟨rfl, ⟨fun x hx => ?_, fun c s m hm => ?_⟩, rfl⟩
        · rcases List.mem_cons.1 hx with rfl | hx
          · exact ⟨_, rfl⟩
          · obtain rfl := List.mem_singleton.1 hx
            exact ⟨_, rfl⟩
        · rcases List.mem_cons.1 hm with hm | hm
          · cases hm
            rfl
          · cases congrArg Sigma.fst (List.mem_singleton.1 hm)
    · have h₁ : Prog.Trace ((if (show Nat from n) = 1 then (pure () : Program Unit)
          else throw .leaseLost) >>= fun _ => Call.commit >>= fun _ => (pure o : Program Outcome))
          rest (.ret r) := h₁
      rw [if_neg hn] at h₁
      obtain ⟨rfl, hr⟩ := Prog.Trace.of_ret h₁
      cases hr
      refine .inr ⟨⟨_, rfl⟩, fun hu => ?_, fun u hm => ?_⟩
      · exact hn (hu.2 _ _ _ (List.mem_cons_self ..))
      · exact hne _ u (List.mem_singleton.1 hm)

/-- A call that is answered and settles nothing disturbs nothing. -/
theorem undisturbed_cons {e : Eff} {a : Ans e} (he : ∀ claim s, e ≠ .settle claim s) :
    Undisturbed (⟨e, .ok a⟩ :: tr) ↔ Undisturbed tr := by
  constructor
  · intro h
    exact ⟨fun x hx => h.1 x (List.mem_cons_of_mem _ hx),
      fun c s n hm => h.2 c s n (List.mem_cons_of_mem _ hm)⟩
  · intro h
    refine ⟨fun x hx => ?_, fun c s n hm => ?_⟩
    · rcases List.mem_cons.1 hx with rfl | hx
      · exact ⟨a, rfl⟩
      · exact h.1 x hx
    · rcases List.mem_cons.1 hm with hm | hm
      · exact absurd (congrArg Sigma.fst hm).symm (he c s)
      · exact h.2 c s n hm

/-- A call that raises disturbs the attempt. -/
theorem not_undisturbed_error {e : Eff} {x : Exc} : ¬ Undisturbed (⟨e, .error x⟩ :: tr) := by
  intro h
  obtain ⟨a, ha⟩ := h.1 _ (List.mem_cons_self ..)
  cases ha

/-- What `settleOutcome` releases the row with after a contended attempt. -/
def contendedSettlement (claim : Claim) (code : String) (next : Option Python.Instant) :
    Settlement :=
  if claim.attempts ≥ maxAttempts then
    ⟨.deadLetter, "ATTEMPTS_EXHAUSTED", some (truncated code), none, false⟩
  else ⟨.retry, code, some (truncated ""), next, true⟩

/-- What `settleOutcome` does with the outcome the budgets made. -/
def settleAs (claim : Claim) (outcome : Outcome) : Program Outcome := do
  if outcome.status = .processed then
    processed claim outcome.code
  else
    let next ← nextAttempt outcome.delaySeconds
    release claim outcome.status outcome.code outcome.detail next outcome.refundAttempt
  Call.commit
  pure outcome

theorem settleOutcome_eq (claim : Claim) (o : Outcome) :
    settleOutcome claim o = (Call.now >>= fun now => Call.rollback >>= fun _ =>
      settleAs claim (failureOutcome o claim.attempts claim.receivedAt now)) := rfl

/-- The settlement of a contended attempt: all of it is done, or a call of it failed
and nothing was committed. -/
theorem settleOutcome_contended {code : String}
    (h : Prog.Trace (settleOutcome claim (contended code)) tr (.ret r)) :
    ((∃ next, settlements none tr = [contendedSettlement claim code next]) ∧ Undisturbed tr ∧
      ∃ o, r = .ok o) ∨
    ((∃ x, r = .error x) ∧ ¬ Undisturbed tr ∧
      ∀ u, (⟨.commit, .ok u⟩ : Prog.Event Ans Exc) ∉ tr) := by
  obtain ⟨a, tr₁, rfl, h₁⟩ := Prog.Trace.call_ret h
  cases a with
  | error x =>
    obtain ⟨rfl, hr⟩ := Prog.Trace.of_ret h₁
    cases hr
    exact .inr ⟨⟨x, rfl⟩, not_undisturbed_error, fun u hm => by cases List.mem_singleton.1 hm⟩
  | ok now =>
    obtain ⟨b, tr₂, rfl, h₂⟩ := Prog.Trace.call_ret h₁
    cases b with
    | error x =>
      obtain ⟨rfl, hr⟩ := Prog.Trace.of_ret h₂
      cases hr
      refine .inr ⟨⟨x, rfl⟩, fun hu => ?_, fun u hm => ?_⟩
      · exact not_undisturbed_error ((undisturbed_cons (e := .now) nofun).1 hu)
      · rcases List.mem_cons.1 hm with hm | hm
        · cases hm
        · cases List.mem_singleton.1 hm
    | ok u =>
      have hrel : ∀ tr', settlements none (⟨.now, .ok now⟩ :: ⟨.rollback, .ok u⟩ :: tr') =
          settlements none tr' := fun _ => rfl
      have hund : Undisturbed (⟨.now, .ok now⟩ :: ⟨.rollback, .ok u⟩ :: tr₂) ↔
          Undisturbed tr₂ :=
        (undisturbed_cons (e := .now) nofun).trans (undisturbed_cons (e := .rollback) nofun)
      have hcommit : ∀ v, (⟨.commit, .ok v⟩ : Prog.Event Ans Exc) ∈
          (⟨.now, .ok now⟩ :: ⟨.rollback, .ok u⟩ :: tr₂ : List (Prog.Event Ans Exc)) →
            (⟨.commit, .ok v⟩ : Prog.Event Ans Exc) ∈ tr₂ := by
        intro v hm
        rcases List.mem_cons.1 hm with hm | hm
        · cases hm
        · rcases List.mem_cons.1 hm with hm | hm
          · cases hm
          · exact hm
      rw [hrel, hund]
      have h₂ : Prog.Trace (settleAs claim _) tr₂ (.ret r) := h₂
      rw [failureOutcome_contended code claim.attempts claim.receivedAt now] at h₂
      by_cases hmax : claim.attempts ≥ maxAttempts
      · rw [if_pos hmax] at h₂
        rcases settlement_ret (.inr (.inr rfl)) h₂ with ⟨hs, hu, hr⟩ | ⟨hx, hu, hm⟩
        · refine .inl ⟨⟨none, hs.trans ?_⟩, hu, _, hr⟩
          rw [contendedSettlement, if_pos hmax]
        · exact .inr ⟨hx, hu, fun v hv => hm v (hcommit v hv)⟩
      · rw [if_neg hmax] at h₂
        obtain ⟨d, tr₃, rfl, h₃⟩ := Prog.Trace.call_ret h₂
        cases d with
        | error x =>
          obtain ⟨rfl, hr⟩ := Prog.Trace.of_ret h₃
          cases hr
          refine .inr ⟨⟨x, rfl⟩, not_undisturbed_error, fun v hv => ?_⟩
          cases List.mem_singleton.1 (hcommit v hv)
        | ok then_ =>
          have hund' : Undisturbed (⟨.now, .ok then_⟩ :: tr₃) ↔ Undisturbed tr₃ :=
            undisturbed_cons (e := .now) nofun
          rw [hund']
          rcases settlement_ret (.inl rfl) h₃ with ⟨hs, hu, hr⟩ | ⟨hx, hu, hm⟩
          · refine .inl ⟨⟨some ((show Python.Instant from then_) +
              Python.seconds contentionDelaySeconds), hs.trans ?_⟩, hu, _, hr⟩
            rw [contendedSettlement, if_neg hmax]
            rfl
          · refine .inr ⟨hx, hu, fun v hv => ?_⟩
            rcases List.mem_cons.1 (hcommit v hv) with hv | hv
            · cases hv
            · exact hm v hv

/-- **A contended attempt ends in its settlement**, or a call of it failed and what
is released spends the attempt. -/
theorem settle_contended {code : String} {codes : List String} (hans : Answered D tr)
    (h : Prog.Trace (settle claim (contendedAttempt code) codes) tr (.ret r)) :
    (Undisturbed tr ∧ ∃ next, settlements none tr = [contendedSettlement claim code next]) ∨
      (¬ Undisturbed tr ∧ ∀ s ∈ settlements none tr, s.refund = false) := by
  obtain ⟨a, rest, rfl, h₁⟩ := Prog.Trace.call_ret h
  cases a with
  | error x =>
    refine .inr ⟨not_undisturbed_error, ?_⟩
    have hstop : ∀ o, x ≠ .stop o := by
      rintro o rfl
      obtain ⟨w, c, s, u, hex⟩ := hans _ (List.mem_cons_self ..)
      exact commit_not_stop hex
    have h₁ : Prog.Trace (settleException claim x) rest (.ret r) := by
      cases x with
      | stop o => exact absurd rfl (hstop o)
      | _ => exact h₁
    exact settlements_settleException h₁ none
  | ok u =>
    have hund : Undisturbed (⟨.commit, .ok u⟩ :: rest) ↔ Undisturbed rest :=
      undisturbed_cons (e := .commit) nofun
    have hrel : settlements none (⟨.commit, .ok u⟩ :: rest) = settlements none rest := rfl
    rw [hund, hrel]
    have hcode : ¬ ((contended code).status = .processed ∧ (contended code).code ∈ codes) :=
      fun h => by cases h.1
    simp only [Prog.handle, Prog.pure_eq, if_neg hcode] at h₁
    rcases h₁.of_handle with ⟨p', -, hne, heq⟩ | ⟨before, after, q, rfl, hb, ha⟩
    · cases p' with
      | ret q => exact absurd rfl (hne q)
      | call e k => cases heq
    · rcases settleOutcome_contended hb with ⟨hs, hu, o, rfl⟩ | ⟨⟨x, rfl⟩, hu, hm⟩
      · obtain ⟨rfl, -⟩ := Prog.Trace.of_ret ha
        rw [List.append_nil]
        exact .inl ⟨hu, hs⟩
      · have ha : Prog.Trace (settleException claim x) after (.ret r) := ha
        refine .inr ⟨fun h => hu ⟨fun y hy => h.1 y (List.mem_append_left _ hy),
          fun c s n hc => h.2 c s n (List.mem_append_left _ hc)⟩, ?_⟩
        obtain ⟨b, rest, rfl⟩ := settleException_first ha
        have hr : settlements none (before ++ ⟨.rollback, b⟩ :: rest) = settlements none rest :=
          settlements_rollback hm
        rw [hr]
        exact settlements_settleException ha none

/-- **A contended attempt gives itself back iff it is not the last one** and nothing
else goes wrong. -/
theorem contended_unspent_iff {id : Nat} {before after : List (Prog.Event Ans Exc)}
    (hclaim : claim = claimOf id (claimedRow row w lease claimedAt) w) (hans : Answered D after)
    (h : Prog.Trace (InboxWorker.runClaim D governed eventType claim)
      (before ++ ⟨.tryLock key, .ok false⟩ :: after) (.ret r)) :
    ReleasedUnspent row w lease claimedAt claim after ↔
      row.attempts + 1 < maxAttempts ∧ Undisturbed after := by
  obtain ⟨k, hb, ha⟩ := h.split
  obtain ⟨code, codes, hk⟩ := runClaim_at hb
  have hk : k (⟨.tryLock key, .ok false⟩ : Prog.Event Ans Exc).2 =
      settle claim (contendedAttempt code) codes := hk
  rw [hk] at ha
  have hattempts : claim.attempts = row.attempts + 1 := by
    rw [hclaim]
    rfl
  rcases settle_contended hans ha with ⟨hu, next, hs⟩ | ⟨hu, hs⟩
  · constructor
    · rintro ⟨s, hs', hrow⟩
      refine ⟨?_, hu⟩
      obtain rfl := List.singleton_inj.1 (hs.symm.trans hs')
      by_contra hmax
      have hstatus := (hrow 0).1
      have hdead : (contendedSettlement claim code next).status = .deadLetter := by
        rw [contendedSettlement, if_pos (by omega)]
      exact absurd (hdead.symm.trans hstatus) (by decide)
    · rintro ⟨hlt, -⟩
      refine ⟨_, hs, fun now => ?_⟩
      have hset : contendedSettlement claim code next =
          ⟨.retry, code, some (truncated ""), next, true⟩ := by
        rw [contendedSettlement, if_neg (by omega)]
      rw [hset]
      exact ⟨rfl, rfl⟩
  · refine ⟨?_, fun h => absurd h.2 hu⟩
    rintro ⟨s, hs', hrow⟩
    have hspent : s.refund = false := hs s (hs' ▸ List.mem_singleton_self s)
    have hkept := (hrow 0).2
    simp only [settledRow, claimedRow, hspent] at hkept
    exact absurd hkept (by simp)

/-- An order row that was claimed and released before. -/
def retriedRow (attempts : Nat) : InboxRow :=
  { receivedRow "event-1" orderPlaced (some "tn_acme") (PlacedOrder.sampleData "NABH" "order-1")
      none 0 with
    status := .retry
    attempts }

/-- The claim of it by worker `a`. -/
def retriedClaim (attempts : Nat) : Claim :=
  claimOf 1 (claimedRow (retriedRow attempts) "a" 60 0) "a"

/-- The attempt up to its lock: the tenant's placement is read. -/
def placementRead : List (Prog.Event Ans Exc) :=
  [⟨.select (.tenantMapping "tn_acme" "NABH"), .ok (some ⟨11, 11, some "engine-1"⟩)⟩]

theorem retried_at (attempts : Nat) : ∃ k, Prog.Trace
    (InboxWorker.runClaim oneEngine false orderPlaced (retriedClaim attempts)) placementRead
    (.call (.tryLock (OrderExecution.lockKey "tn_acme" "order-1")) k) ∧
      k (.ok false) = settle (retriedClaim attempts) (contendedAttempt "ORDER_CONTENDED")
        ["EXECUTED", "ADOPTED_NATIVE_ORDER"] := by
  have hparse : PlacedOrder.parsePlacedOrder (retriedClaim attempts).data = .ok
      ⟨"NABH", "order-1", 1, "customer-1", "EUR", [⟨"line-1", "sku-1", "2", "EA", "10.00"⟩]⟩ := by
    have h : (PlacedOrder.parsePlacedOrder (PlacedOrder.sampleData "NABH" "order-1")).toOption =
        some ⟨"NABH", "order-1", 1, "customer-1", "EUR",
          [⟨"line-1", "sku-1", "2", "EA", "10.00"⟩]⟩ := by decide +kernel
    change PlacedOrder.parsePlacedOrder (PlacedOrder.sampleData "NABH" "order-1") = _
    cases hp : PlacedOrder.parsePlacedOrder (PlacedOrder.sampleData "NABH" "order-1") with
    | error reason =>
      rw [hp] at h
      cases h
    | ok o =>
      rw [hp] at h
      exact congrArg Except.ok (Option.some.inj h)
  have htrace : ∃ k, Prog.Trace
      (OrderExecution.execute oneEngine (retriedClaim attempts) none) placementRead
      (.call (.tryLock (OrderExecution.lockKey "tn_acme" "order-1")) k) := by
    unfold OrderExecution.execute
    rw [hparse]
    exact ⟨_, .cons .nil⟩
  obtain ⟨k, hk⟩ := htrace
  refine ⟨_, hk.handle.handle.handle, ?_⟩
  exact congrArg (settle (retriedClaim attempts) · _) (OrderExecution.execute_at hk)

/-- The row of a claim is settled where it is the claim's. -/
theorem settle_answered {row : InboxRow} (st : Settlement) (h : fenced row claim = true) :
    ∃ w c s u, exec D w (.settle claim st) c s = some (.ok (1 : Nat), u) := by
  let s : World := { World.empty with
    store := .ofRows (Function.update (fun _ => none) (.inbox claim.rowId) (some ⟨row, none, none⟩)) }
  have hcell : s.cell "a" (.inbox claim.rowId) = some ⟨row, none, none⟩ := by
    refine ((Store.clean_ofRows _ _).view _).trans ?_
    exact Function.update_self (Key.inbox claim.rowId)
      (some ⟨row, none, none⟩ : Option (Cell (.inbox claim.rowId))) fun _ => none
  have hfree : s.store.free "a" (.inbox claim.rowId) = true :=
    Store.free_iff.2 fun u hu => absurd hu (Store.clean_ofRows _ _ _)
  refine ⟨"a", {}, s, s.settleRow "a" claim.rowId (settledRow row claim st 0), ?_⟩
  simp only [exec, hfree, if_true, hcell, h]

/-- The end of the attempt at `retriedRow` that finds the lock held; `clock` is the
reading of a second clock, for the time of the next attempt. -/
def settledAfter (attempts : Nat) (clock : List (Prog.Event Ans Exc))
    (next : Option Python.Instant) : List (Prog.Event Ans Exc) :=
  [⟨.commit, .ok ()⟩, ⟨.now, .ok (0 : Int)⟩, ⟨.rollback, .ok ()⟩] ++ clock ++
    [⟨.settle (retriedClaim attempts)
        (contendedSettlement (retriedClaim attempts) "ORDER_CONTENDED" next), .ok (1 : Nat)⟩,
     ⟨.commit, .ok ()⟩]

theorem settledAfter_answered {attempts : Nat} {next : Option Python.Instant}
    {clock : List (Prog.Event Ans Exc)} (hclock : ∀ x ∈ clock, x = ⟨.now, .ok (0 : Int)⟩) :
    Answered oneEngine (settledAfter attempts clock next) := by
  have hnow : ∃ w c s u, exec oneEngine w .now c s = some (.ok (0 : Int), u) :=
    ⟨"a", {}, World.empty, _, rfl⟩
  have hcommit : ∃ w c s u, exec oneEngine w .commit c s = some (.ok (), u) :=
    ⟨"a", {}, World.empty, _, rfl⟩
  have hrollback : ∃ w c s u, exec oneEngine w .rollback c s = some (.ok (), u) :=
    ⟨"a", {}, World.empty, _, rfl⟩
  have hfenced : fenced (claimedRow (retriedRow attempts) "a" 60 0) (retriedClaim attempts) =
      true := by
    simp [fenced, claimedRow, retriedClaim, claimOf]
  intro x hx
  unfold settledAfter at hx
  simp only [List.mem_append, List.mem_cons, List.not_mem_nil, or_false] at hx
  rcases hx with ((rfl | rfl | rfl) | hx) | rfl | rfl
  · exact hcommit
  · exact hnow
  · exact hrollback
  · rw [hclock x hx]
    exact hnow
  · exact settle_answered _ hfenced
  · exact hcommit

theorem settledAfter_undisturbed {attempts : Nat} {next : Option Python.Instant}
    {clock : List (Prog.Event Ans Exc)} (hclock : ∀ x ∈ clock, x = ⟨.now, .ok (0 : Int)⟩) :
    Undisturbed (settledAfter attempts clock next) := by
  constructor
  · intro x hx
    unfold settledAfter at hx
    simp only [List.mem_append, List.mem_cons, List.not_mem_nil, or_false] at hx
    rcases hx with ((rfl | rfl | rfl) | hx) | rfl | rfl
    case inl.inr =>
      rw [hclock x hx]
      exact ⟨_, rfl⟩
    all_goals exact ⟨_, rfl⟩
  · intro c s n hx
    unfold settledAfter at hx
    simp only [List.mem_append, List.mem_cons, List.not_mem_nil, or_false] at hx
    rcases hx with ((hx | hx | hx) | hx) | hx | hx
    · cases hx
    · cases hx
    · cases hx
    · cases hclock _ hx
    · cases hx
      rfl
    · cases hx

/-- An attempt that finds the order's lock held, at a row with few attempts: it is
given back. -/
theorem contended_unspent_early :
    ReleasedUnspent (retriedRow 3) "a" 60 0 (retriedClaim 3)
      (settledAfter 3 [⟨.now, .ok (0 : Int)⟩] (some (0 + Python.seconds contentionDelaySeconds))) := by
  obtain ⟨k, hb, hk⟩ := retried_at 3
  have hclock : ∀ x ∈ [(⟨.now, .ok (0 : Int)⟩ : Prog.Event Ans Exc)], x = ⟨.now, .ok (0 : Int)⟩ :=
    fun x hx => List.mem_singleton.1 hx
  have hrest : Prog.Trace (k (.ok false)) (settledAfter 3 [⟨.now, .ok (0 : Int)⟩] (some (0 + Python.seconds contentionDelaySeconds)))
      (.ret (.ok (contended "ORDER_CONTENDED"))) := by
    rw [hk]
    exact .cons (.cons (.cons (.cons (.cons (.cons .nil)))))
  exact (contended_unspent_iff rfl (settledAfter_answered hclock) (hb.trans (.cons hrest))).2
    ⟨by decide, settledAfter_undisturbed hclock⟩

/-- **The last attempt finds the lock held and is made a dead letter of**: it is
counted, and the row is never tried again. -/
theorem contended_dead_lettered : ∃ before after r,
    Prog.Trace (InboxWorker.runClaim oneEngine false orderPlaced (retriedClaim 23))
      (before ++ ⟨.tryLock (OrderExecution.lockKey "tn_acme" "order-1"), .ok false⟩ :: after)
      (.ret r) ∧ Answered oneEngine after ∧ Undisturbed after ∧
    ¬ ReleasedUnspent (retriedRow 23) "a" 60 0 (retriedClaim 23) after ∧
    ∃ s, settlements none after = [s] ∧
      (settledRow (claimedRow (retriedRow 23) "a" 60 0) (retriedClaim 23) s 0).status =
        .deadLetter := by
  obtain ⟨k, hb, hk⟩ := retried_at 23
  have hclock : ∀ x ∈ ([] : List (Prog.Event Ans Exc)), x = ⟨.now, .ok (0 : Int)⟩ :=
    fun x hx => nomatch hx
  have hrest : Prog.Trace (k (.ok false)) (settledAfter 23 [] none)
      (.ret (.ok ⟨.deadLetter, "ATTEMPTS_EXHAUSTED", "ORDER_CONTENDED", none, false⟩)) := by
    rw [hk]
    exact .cons (.cons (.cons (.cons (.cons .nil))))
  refine ⟨placementRead, settledAfter 23 [] none, _, hb.trans (.cons hrest),
    settledAfter_answered hclock, settledAfter_undisturbed hclock, ?_, _, rfl, rfl⟩
  rintro ⟨s, hs, hrow⟩
  obtain rfl := List.singleton_inj.1 hs
  exact absurd (hrow 0).1 (by decide)

end Inbox
end BaobabErp
