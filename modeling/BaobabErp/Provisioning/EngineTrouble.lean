/-
# Engine trouble in a provisioning pass

`classify` of `modules/provisioning/execution.py` sorts what a pass ends with by its class,
and the client has settled the class before: a body that is no JSON is a `ValueError`, and
whatever status a login is answered with is an `IdempiereAuthenticationError`.  **Trouble is
retried, and only a refusal of 400 to 499 is rejected, exactly where no request of a step
comes to one of three ends** (`trouble_retried_iff`): a success whose body is no JSON, a
login answered with trouble, a status below 400 that is no success.
-/

import BaobabErp.Integration.Endings
import BaobabErp.Provisioning.ApprovedPlan
import BaobabErp.Provisioning.Refusals

namespace BaobabErp
namespace Provisioning

open Python Concurrency Prog Execution

/-! ### A call of the engine -/

/-- The `ValueError`s among the exceptions the client passes on. -/
def valueErrors : List String := ["ValueError", "JSONDecodeError", "UnicodeDecodeError"]

/-- What the client raises, as this code sees it. -/
def ofClient : Egress.Exc → Exc
  | .denied => .client
  | .authentication => .authentication
  | .api status => .api status.toNat
  | .client => .client
  | .other name => if name ∈ valueErrors then .value name else .other name

/-- **A call as the client carries it out**: in any state of the client and of the engine. -/
structure EngineCall where
  deployment : Egress.Deployment
  path : Scoping.Path Egress.Scope
  client : Nat
  method : Egress.Method
  ends : List Egress.Sent → Egress.Ending
  replies : ∀ wire, deployment.network.reply wire = (ends wire).reply
  before : Egress.World

namespace EngineCall

def outcome (c : EngineCall) : Except Egress.Exc Unit × Egress.World :=
  (c.method.act c.deployment c.path c.client).run c.before

/-- The last request it sent, and what that came to. -/
def last (c : EngineCall) : Option (Egress.Sent × Egress.Ending) :=
  (c.outcome.2.wire.drop c.before.wire.length).getLast?.map fun s => (s, c.ends c.outcome.2.wire)

/-- The program is answered so: with the exception of the client, or with what it makes of
the document. -/
def Answers {α : Type} (c : EngineCall) (r : Except Exc α) : Prop :=
  match c.outcome.1 with
  | .error x => r = .error (ofClient x)
  | .ok _ => ∀ x, r = .error x → ∃ name, x = .value name ∨ x = .other name

/-- What it raises is the fault of its last request. -/
theorem told (c : EngineCall) :
    match c.last.bind fun p => Egress.fault p.1 p.2 with
    | some x => c.outcome.1 = .error x
    | none => ∀ status, c.outcome.1 ≠ .error (.api status) := by
  obtain ⟨sent, hwire, htold⟩ :=
    @Egress.talks_act c.deployment c.path c.client c.ends c.replies c.method c.before
  have hlast : c.last = sent.getLast?.map fun s => (s, c.ends (c.before.wire ++ sent)) := by
    unfold last outcome
    rw [hwire, List.drop_left]
  unfold Egress.Told at htold
  rw [hlast, Option.bind_map]
  exact htold

end EngineCall

/-- The method that carries out an effect. -/
def Carries : Eff → Egress.Method → Prop
  | .query _ table value, .query table' conditions select =>
    table' = table ∧ conditions = [⟨"Description", .str value⟩] ∧ select = [table ++ "_ID"]
  | .getRecord _ table id, .getRecord table' recordId => table' = table ∧ recordId = id
  | .createRecord _ table fields, .createRecord table' body =>
    table' = table ∧ body.image = .obj fields
  | .executeProcess _ process parameters, .executeProcess processId body =>
    processId = process ∧ body.image = .obj parameters
  | _, _ => False

/-! ### What becomes of an ending -/

/-- An error is read from the body, or the body is taken for none. -/
def legible : Egress.Content → Bool
  | .document (.obj _) => true
  | .empty => true
  | .unreadable _ => true
  | _ => false

/-- **The three ends that are misjudged.** -/
def misjudged (s : Egress.Sent) : Egress.Ending → Bool
  | .answered status content =>
    if Egress.Ending.success status then match content with
      | .unreadable _ => true
      | _ => false
    else legible content &&
      if s.exchange.bearer = none then (Egress.Ending.answered status content).trouble else status < 400
  | _ => false

/-- An exception that is no `ValueError` and not the client's is retried. -/
theorem retried_other {name : String} (h : name ∉ valueErrors) :
    ofClient (.other name) = .other name ∧ (classify (ofClient (.other name))).status = .retry := by
  have hother : ofClient (.other name) = .other name := if_neg h
  rw [hother]
  exact ⟨rfl, rfl⟩

theorem break_name (how : Egress.Break) : how.name ∉ valueErrors := by
  cases how <;> decide

/-- A success that is no answer. -/
theorem fault_of_success {s : Egress.Sent} {status : Nat} {content : Egress.Content}
    (hs : Egress.Ending.success status = true) :
    match content with
    | .document _ => Egress.fault s (.answered status content) = none
    | .empty => Egress.fault s (.answered status content) = none
    | .unreadable why => Egress.fault s (.answered status content) = some (.other why.name)
    | .nested => Egress.fault s (.answered status content) = some (.other "RecursionError")
    | .cut how => Egress.fault s (.answered status content) = some (.other how.name) := by
  cases content
  all_goals
    dsimp only
    unfold Egress.fault Egress.Ending.reply
    dsimp only
    try rw [if_pos hs]
    rfl

/-- A failure whose body is an error document, or no JSON, is told by its status. -/
theorem fault_of_legible {s : Egress.Sent} {status : Nat} {content : Egress.Content}
    (hs : Egress.Ending.success status = false) (hlegible : legible content = true) :
    Egress.fault s (.answered status content) =
      some (if status = 401 ∨ s.exchange.bearer = none then .authentication else .api status) := by
  have hreply : ∃ members, (Egress.Ending.answered status content).reply =
      .error status (.obj members) := by
    unfold Egress.Ending.reply
    cases content with
    | document j =>
      cases j with
      | obj members => exact ⟨members, by simp [hs]⟩
      | _ => cases hlegible
    | empty => exact ⟨[], by simp [hs]⟩
    | unreadable why => exact ⟨[], by simp [hs]⟩
    | nested => cases hlegible
    | cut how => cases hlegible
  obtain ⟨members, hreply⟩ := hreply
  unfold Egress.fault
  rw [hreply]
  unfold Egress.outcome
  by_cases h401 : status = 401
  · subst h401
    rfl
  · have hne : ¬ ((status : Int) = 401) := by omega
    dsimp only
    rw [if_neg hne]
    simp [h401]

/-- Any other failure is raised as something that is no `ValueError`. -/
theorem fault_of_illegible {s : Egress.Sent} {status : Nat} {content : Egress.Content}
    (hs : Egress.Ending.success status = false) (hlegible : legible content = false) :
    ∃ name, name ∉ valueErrors ∧ Egress.fault s (.answered status content) = some (.other name) := by
  cases content with
  | document j =>
    refine ⟨"AttributeError", by decide, ?_⟩
    unfold Egress.fault Egress.Ending.reply
    dsimp only
    rw [hs]
    cases j with
    | obj members => cases hlegible
    | _ => rfl
  | empty => cases hlegible
  | unreadable why => cases hlegible
  | nested => exact ⟨"RecursionError", by decide, rfl⟩
  | cut how => exact ⟨how.name, break_name how, rfl⟩

/-- Trouble is raised, and is retried unless it is misjudged. -/
theorem fault_of_trouble {s : Egress.Sent} {e : Egress.Ending} (he : e.trouble = true) :
    ∃ x, Egress.fault s e = some x ∧
      ((classify (ofClient x)).status = .retry ↔ misjudged s e = false) := by
  cases e with
  | unreachable => exact ⟨.client, rfl, iff_of_true rfl rfl⟩
  | broken how =>
    exact ⟨.other how.name, rfl, iff_of_true (retried_other (break_name how)).2 rfl⟩
  | answered status content =>
    cases hs : Egress.Ending.success status with
    | true =>
      have hfault := @fault_of_success s status content hs
      unfold misjudged
      dsimp only
      rw [if_pos hs]
      cases content with
      | document j => simp [Egress.Ending.trouble, hs] at he
      | empty => simp [Egress.Ending.trouble, hs] at he
      | unreadable why => exact ⟨_, hfault, iff_of_false (by cases why <;> decide) nofun⟩
      | nested => exact ⟨_, hfault, iff_of_true (retried_other (by decide)).2 rfl⟩
      | cut how => exact ⟨_, hfault, iff_of_true (retried_other (break_name how)).2 rfl⟩
    | false =>
      cases hlegible : legible content with
      | false =>
        obtain ⟨name, hname, hfault⟩ := @fault_of_illegible s status content hs hlegible
        refine ⟨_, hfault, iff_of_true (retried_other hname).2 ?_⟩
        unfold misjudged
        dsimp only
        rw [hs, hlegible]
        rfl
      | true =>
        refine ⟨_, fault_of_legible hs hlegible, ?_⟩
        have hstatus : 500 ≤ status ∨ status = 408 ∨ status = 425 ∨ status = 429 := by
          simpa [Egress.Ending.trouble, hs, or_assoc] using he
        have h401 : status ≠ 401 := by omega
        unfold misjudged
        dsimp only
        rw [hs, hlegible]
        by_cases hlogin : s.exchange.bearer = none
        · simp [hlogin, he, ofClient, classify]
        · have h400 : ¬ status < 400 := by omega
          simp [hlogin, h401, h400, ofClient, classify, hstatus]

/-- What an `IdempiereApiError` is told by. -/
theorem answered_of_fault {s : Egress.Sent} {e : Egress.Ending} {status : Int}
    (h : Egress.fault s e = some (.api status)) :
    ∃ (n : Nat) (content : Egress.Content), e = .answered n content ∧ status = n ∧
      Egress.Ending.success n = false ∧ legible content = true ∧ s.exchange.bearer ≠ none := by
  cases e with
  | unreachable => cases h
  | broken how => cases h
  | answered n content =>
    cases hs : Egress.Ending.success n with
    | true =>
      have hfault := @fault_of_success s n content hs
      cases content with
      | document j => cases hfault.symm.trans h
      | empty => cases hfault.symm.trans h
      | unreadable why => cases hfault.symm.trans h
      | nested => cases hfault.symm.trans h
      | cut how => cases hfault.symm.trans h
    | false =>
      cases hlegible : legible content with
      | false =>
        obtain ⟨name, -, hfault⟩ := @fault_of_illegible s n content hs hlegible
        cases hfault.symm.trans h
      | true =>
        rw [fault_of_legible hs hlegible] at h
        have hraised := Option.some.inj h
        split at hraised
        · cases hraised
        · next hbearer =>
          exact ⟨n, content, rfl, (Egress.Exc.api.inj hraised).symm, hs, hlegible,
            fun hnone => hbearer (.inr hnone)⟩

/-- **What is rejected is refused**, unless it is misjudged. -/
theorem refusal_of_rejected {s : Egress.Sent} {e : Egress.Ending} {status : Int}
    (h : Egress.fault s e = some (.api status))
    (hcode : (classify (.api status.toNat)).code = "ENGINE_REJECTED") :
    e.refusal = true ↔ misjudged s e = false := by
  obtain ⟨n, content, rfl, rfl, hs, hlegible, hbearer⟩ := answered_of_fault h
  have hn : ¬ (500 ≤ n ∨ n = 408 ∨ n = 425 ∨ n = 429) := by
    intro htrouble
    unfold classify at hcode
    dsimp only at hcode
    rw [Int.toNat_natCast, if_pos htrouble] at hcode
    exact absurd (show "ENGINE_UNAVAILABLE" = "ENGINE_REJECTED" from hcode) (by decide)
  have hmisjudged : misjudged s (.answered n content) = decide (n < 400) := by
    unfold misjudged
    dsimp only
    rw [hs, hlegible, if_neg hbearer]
    rfl
  rw [hmisjudged]
  simp only [Egress.Ending.refusal, Bool.and_eq_true, decide_eq_true_eq, decide_eq_false_iff_not]
  omega

/-- A refusal is raised; as an `IdempiereApiError`, of its status. -/
theorem fault_of_refusal {s : Egress.Sent} {e : Egress.Ending} (he : e.refusal = true) :
    ∃ x, Egress.fault s e = some x ∧ ∀ status, ofClient x = .api status → 400 ≤ status := by
  cases e with
  | unreachable => cases he
  | broken how => cases he
  | answered n content =>
    have hn : 400 ≤ n ∧ n ≤ 499 := by
      simp only [Egress.Ending.refusal, Bool.and_eq_true, decide_eq_true_eq] at he
      exact ⟨he.1.1.1.1, he.1.1.1.2⟩
    have hs : Egress.Ending.success n = false := by
      simp only [Egress.Ending.success, Bool.and_eq_false_iff, decide_eq_false_iff_not]
      omega
    cases hlegible : legible content with
    | false =>
      obtain ⟨name, hname, hfault⟩ := @fault_of_illegible s n content hs hlegible
      refine ⟨_, hfault, fun status h => ?_⟩
      rw [(retried_other hname).1] at h
      cases h
    | true =>
      refine ⟨_, fault_of_legible hs hlegible, fun status h => ?_⟩
      split at h
      · cases h
      · have hstatus : n = status := Exc.api.inj h
        omega

/-- What is misjudged is raised: trouble, or what is told as rejected. -/
theorem fault_of_misjudged {s : Egress.Sent} {e : Egress.Ending} (h : misjudged s e = true) :
    e.trouble = true ∨ ∃ status, Egress.fault s e = some (.api status) ∧ status.toNat < 400 ∧
      (classify (.api status.toNat)).status = .failed ∧
      (classify (.api status.toNat)).code = "ENGINE_REJECTED" := by
  cases e with
  | unreachable => cases h
  | broken how => cases h
  | answered n content =>
    unfold misjudged at h
    dsimp only at h
    cases hs : Egress.Ending.success n with
    | true =>
      rw [hs] at h
      cases content with
      | unreadable why =>
        left
        unfold Egress.Ending.trouble
        dsimp only
        rw [if_pos hs]
      | _ => cases h
    | false =>
      rw [hs] at h
      cases hlegible : legible content with
      | false =>
        rw [hlegible] at h
        cases h
      | true =>
        rw [hlegible] at h
        by_cases hbearer : s.exchange.bearer = none
        · left
          simpa [hbearer] using h
        · right
          have hn : n < 400 := by simpa [hbearer] using h
          have hne : ¬ (n = 401 ∨ s.exchange.bearer = none) := by
            rintro (rfl | hnone)
            · omega
            · exact hbearer hnone
          have hrejected : ¬ (500 ≤ n ∨ n = 408 ∨ n = 425 ∨ n = 429) := by omega
          refine ⟨n, ?_, ?_, ?_⟩
          · rw [fault_of_legible hs hlegible, if_neg hne]
          · exact hn
          · rw [Int.toNat_natCast]
            unfold classify
            dsimp only
            rw [if_neg hrejected]
            exact ⟨rfl, rfl⟩

/-! ### A pass -/

/-- What a statement of the database raises: no `ValueError`, and nothing of the engine's. -/
def Ordinary : Exc → Prop
  | .uniqueViolation => True
  | .foreignKeyViolation => True
  | .checkViolation => True
  | .database => True
  | .other _ => True
  | _ => False

theorem Ordinary.notApi {x : Exc} (h : Ordinary x) : NotApi x := by
  rintro status rfl
  exact h

theorem Ordinary.retried {x : Exc} (h : Ordinary x) : (classify x).status = .retry := by
  cases x <;> first | rfl | exact h.elim

/-- **A pass over an operation**, from its first call to its outcome: every call of the engine
is carried out by the client, and what else is called raises what is ordinary. -/
structure Pass (D : ProvisioningDeployment) (operation : LoadedOperation) where
  events : List (Event Ans Exc)
  outcome : Outcome
  ran : Trace (run D operation) events (ret (.ok outcome))
  call : Nat → EngineCall
  carried : ∀ n e r, events[n]? = some ⟨e, r⟩ → e.OfEngine →
    Carries e (call n).method ∧ (call n).Answers r
  others : Expected Eff.OfEngine Ordinary events

namespace Pass

variable {D : ProvisioningDeployment} {operation : LoadedOperation} (pass : Pass D operation)

/-- The call at `n` is one of the engine, and its last request came to `e`. -/
def At (n : Nat) (s : Egress.Sent) (e : Egress.Ending) : Prop :=
  ∃ y, pass.events[n]? = some y ∧ y.1.OfEngine ∧ (pass.call n).last = some (s, e)

/-- The call at `n` is made before the readiness checks. -/
def InSteps (n : Nat) : Prop := ∃ q, Trace (stepsPhase D operation) (pass.events.take (n + 1)) q

/-- **Trouble is retried, and only a refusal is rejected.** -/
def Retries : Prop :=
  (∀ n s e, pass.At n s e → e.trouble = true → pass.outcome.status = .retry) ∧
  (pass.outcome.status = .failed → pass.outcome.code = "ENGINE_REJECTED" →
    ∃ n s e, pass.At n s e ∧ e.refusal = true)

/-- Before the readiness checks no call comes to an end that is misjudged. -/
def Judged : Prop := ∀ n s e, pass.At n s e → pass.InSteps n → misjudged s e = false

end Pass

/-! ### What the calls of a pass raise -/

/-- What a request came to is what its call raises. -/
theorem EngineCall.raises {α : Type} {c : EngineCall} {r : Except Exc α} (h : c.Answers r)
    {s : Egress.Sent} {e : Egress.Ending} (hlast : c.last = some (s, e)) {x : Egress.Exc}
    (hx : Egress.fault s e = some x) : r = .error (ofClient x) := by
  have htold := c.told
  rw [hlast, Option.bind_some] at htold
  dsimp only at htold
  rw [hx] at htold
  dsimp only at htold
  unfold EngineCall.Answers at h
  rw [htold] at h
  exact h

/-- An `IdempiereApiError` is what the last request came to. -/
theorem EngineCall.told_api {α : Type} {c : EngineCall} {status : Nat}
    (h : c.Answers (.error (.api status) : Except Exc α)) :
    ∃ s e, ∃ n : Int, c.last = some (s, e) ∧ Egress.fault s e = some (.api n) ∧ n.toNat = status := by
  have htold := c.told
  unfold EngineCall.Answers at h
  rcases hout : c.outcome.1 with x | u
  · rw [hout] at h htold
    dsimp only at h
    have hx : ofClient x = .api status := (Except.error.inj h).symm
    cases x with
    | api n =>
      split at htold
      · next y hy =>
        obtain rfl := Except.error.inj htold
        obtain ⟨⟨s, e⟩, hlast, hfault⟩ := Option.bind_eq_some_iff.1 hy
        exact ⟨s, e, n, hlast, hfault, Exc.api.inj hx⟩
      · exact absurd rfl (htold n)
    | other name =>
      by_cases hname : name ∈ valueErrors
      · rw [show ofClient (.other name) = .value name from if_pos hname] at hx
        cases hx
      · rw [(retried_other hname).1] at hx
        cases hx
    | denied => cases hx
    | authentication => cases hx
    | client => cases hx
  · rw [hout] at h
    obtain ⟨name, hname | hname⟩ := h _ rfl
    · cases hname
    · cases hname

/-! ### The readiness checks -/

section Checks

variable (D : ProvisioningDeployment)

/-- What raises nothing but what is ordinary, and calls no engine. -/
abbrev Plain {α : Type} (p : Program α) : Prop := Prog.PassesOn Eff.OfEngine Ordinary p

theorem plain_textParam (value : Json) : Plain (textParam value) := by
  unfold textParam
  split
  · exact .pure _
  · exact .throw True.intro

theorem plain_getNativeId (pid key : String) : Plain (NativeMappings.getNativeId pid key) :=
  .perform _

/-- A good check, as a good result. -/
abbrev IsReady (c : ReadinessCheck) : Prop := c.ready = true

/-- **A check passes over the engine's exceptions**: where one is raised, it is not ready. -/
theorem shows_check (σ : Session) (request : ErpProvisioningRequest) (step : ProvisioningStep) :
    Shows Eff.OfEngine Ordinary IsReady (IdempiereAdapter.check D σ request step) := by
  refine .after (plain_textParam _) ?_ fun pid => .after (plain_getNativeId _ _) (quiet_perform id) fun native => ?_
  · unfold textParam
    split
    · exact closed_quiet.pure _
    · exact closed_quiet.throw _
  · split
    · exact .quiet (.pure _) (closed_quiet.pure _)
    · split
      · exact .quiet (.pure _) (closed_quiet.pure _)
      · exact .tryCatch (.bind (.perform _) fun _ => .pure _) Bool.false_ne_true

theorem shows_checkSteps (σ : Session) (request : ErpProvisioningRequest) (steps : List ProvisioningStep) :
    Shows Eff.OfEngine Ordinary (fun cs => ∀ c ∈ cs, IsReady c) (checkSteps D σ request steps) := by
  induction steps with
  | nil => exact .quiet (.pure _) (closed_quiet.pure _)
  | cons step steps ih =>
    refine .bind (shows_check D σ request step) (fun check => .bind ih (fun checks => ?_) ?_) ?_
    · exact .quiet (.pure _) (closed_quiet.pure _)
    · intro checks hchecks tr all htr hall
      obtain ⟨-, heq⟩ := Trace.of_ret htr
      cases heq
      exact hchecks fun c hc => hall c (List.mem_cons_of_mem _ hc)
    · intro check hcheck tr all htr hall
      obtain ⟨before, after, checks, rfl, -, hpure⟩ := Trace.bind_ok htr
      obtain ⟨-, heq⟩ := Trace.of_ret hpure
      cases heq
      exact hcheck (hall check List.mem_cons_self)

/-- How a pass ends that ended so. -/
def ended : Except Exc Outcome → Outcome
  | .ok outcome => outcome
  | .error x => classify x

theorem api_of_rejected {x : Exc} (h : (classify x).code = "ENGINE_REJECTED") : ∃ status, x = .api status := by
  cases x with
  | api status => exact ⟨status, rfl⟩
  | _ => simp [classify] at h

/-- **The second phase**: with an exception of the engine the pass is retried, and it is never
rejected. -/
theorem checksOf_ends {operation : LoadedOperation} {request : ErpProvisioningRequest} {σ : Session}
    {runnable : List ProvisioningStep} {tr : List (Event Ans Exc)} {r : Except Exc Outcome}
    (h : Trace (checksOf D operation request σ runnable) tr (ret r))
    (hV : Expected Eff.OfEngine Ordinary tr) :
    (Failed Eff.OfEngine tr → (ended r).status = .retry) ∧ (ended r).code ≠ "ENGINE_REJECTED" := by
  have hvalid := noApi_validateRequest D.runtime request
  unfold checksOf at h
  cases hown : validateRequest D.runtime request with
  | error x =>
    rw [hown] at h
    obtain ⟨rfl, heq⟩ := Trace.of_ret h
    obtain rfl : r = .error x := Prog.ret.inj heq
    refine ⟨fun ⟨y, hy, _⟩ => absurd hy List.not_mem_nil, fun hcode => ?_⟩
    obtain ⟨status, rfl⟩ := api_of_rejected hcode
    exact hvalid _ hown status rfl
  | ok own =>
    rw [hown] at h
    have hrest : Trace (checkSteps D σ request runnable >>= fun checks =>
        (if (own ++ checks).all ReadinessCheck.ready then do
          ProvisioningStore.setStatus D operation.provisioningId .ready none
          pure { status := .ready, code := "READY" }
        else
          pure { status := .retry, code := "NOT_READY", detail := failingText (own ++ checks) } :
          Program Outcome)) tr (ret r) := h
    rcases Trace.of_bind hrest with ⟨p', -, hne, heq⟩ | ⟨x, hb, heq⟩ | ⟨before, after, checks, rfl, hb, ha⟩
    · cases p' with
      | ret r => exact absurd rfl (hne r)
      | call e k => cases heq
    · obtain rfl : r = .error x := Prog.ret.inj heq
      have hx := (shows_checkSteps D σ request runnable tr _ hb hV).1 x rfl
      refine ⟨fun _ => hx.retried, fun hcode => ?_⟩
      obtain ⟨status, rfl⟩ := api_of_rejected hcode
      exact hx.notApi status rfl
    · have hshown := (shows_checkSteps D σ request runnable before _ hb
        fun y hy => hV y (List.mem_append_left _ hy)).2 checks rfl
      split at ha
      · next hall =>
        have hready : ∀ c ∈ checks, IsReady c := fun c hc =>
          List.all_eq_true.1 hall c (List.mem_append_right _ hc)
        have hlocal : Local (do
            ProvisioningStore.setStatus D operation.provisioningId .ready none
            pure { status := .ready, code := "READY" } : Program Outcome) :=
          .bind (local_setStatus D _ _ _) fun _ => .pure _
        constructor
        · intro hfailed
          rcases failed_append.1 hfailed with hfailed | hfailed
          · exact absurd hready (hshown hfailed)
          · exact absurd hfailed (not_failed hlocal.quiet ha)
        · intro hcode
          have hV' : Expected Eff.OfEngine NotApi after := fun y hy he x hx =>
            (hV y (List.mem_append_right _ hy) he x hx).notApi
          rcases Trace.of_bind ha with ⟨p', -, hne, heq⟩ | ⟨x, hb', heq⟩ | ⟨b, a, u, rfl, -, hpure⟩
          · cases p' with
            | ret r => exact absurd rfl (hne r)
            | call e k => cases heq
          · obtain rfl : r = .error x := Prog.ret.inj heq
            obtain ⟨status, rfl⟩ := api_of_rejected hcode
            rcases ((local_setStatus D _ _ _).candid after _ hb' hV').2 _ rfl with hx | ⟨y, hy, he, -⟩
            · exact hx status rfl
            · exact (local_setStatus D _ _ _).quiet (hb'.calls_of_mem hy he)
          · obtain ⟨-, heq⟩ := Trace.of_ret hpure
            obtain rfl := Prog.ret.inj heq
            exact absurd hcode (by decide)
      · obtain ⟨-, heq⟩ := Trace.of_ret ha
        obtain rfl := Prog.ret.inj heq
        exact ⟨fun _ => rfl, fun hcode => absurd (show "NOT_READY" = "ENGINE_REJECTED" from hcode) (by decide)⟩

end Checks

namespace Pass

variable {D : ProvisioningDeployment} {operation : LoadedOperation} (pass : Pass D operation)

/-- **A pass ended in its first phase, or in its second.** -/
theorem phases :
    (∃ x, pass.outcome = classify x ∧ Trace (stepsPhase D operation) pass.events (ret (.error x))) ∨
    ∃ before after prepared r, pass.events = before ++ after ∧ pass.outcome = ended r ∧
      Trace (stepsPhase D operation) before (ret (.ok prepared)) ∧
      Trace (checksOf D operation prepared.1 prepared.2.1 prepared.2.2) after (ret r) := by
  have hrun : ∃ r, pass.outcome = ended r ∧ Trace (runOperation D operation) pass.events (ret r) := by
    rcases Trace.tryCatch_ok pass.ran with h | ⟨before, after, x, heq, hb, ha⟩
    · exact ⟨.ok pass.outcome, rfl, h⟩
    · obtain ⟨rfl, hret⟩ := Trace.of_ret ha
      rw [heq, List.append_nil]
      exact ⟨.error x, Except.ok.inj (Prog.ret.inj hret), hb⟩
  obtain ⟨r, houtcome, hrun⟩ := hrun
  rw [runOperation_eq] at hrun
  rcases Trace.of_bind hrun with ⟨p', -, hne, heq⟩ | ⟨x, hb, heq⟩ | ⟨before, after, prepared, heq, hb, ha⟩
  · cases p' with
    | ret r => exact absurd rfl (hne r)
    | call e k => cases heq
  · obtain rfl : r = .error x := Prog.ret.inj heq
    exact .inl ⟨x, houtcome, hb⟩
  · exact .inr ⟨before, after, prepared, r, heq, houtcome, hb, ha⟩

/-- The call whose request went wrong raised. -/
theorem At.raised {n : Nat} {s : Egress.Sent} {e : Egress.Ending} (h : pass.At n s e)
    {x : Egress.Exc} (hx : Egress.fault s e = some x) :
    ∃ y, pass.events[n]? = some y ∧ y.1.OfEngine ∧ y.2 = .error (ofClient x) := by
  obtain ⟨⟨eff, r⟩, hy, heff, hlast⟩ := h
  exact ⟨_, hy, heff, EngineCall.raises (pass.carried n eff r hy heff).2 hlast hx⟩

/-- What the engine raises in the first phase is what it ends with. -/
theorem first_phase {x : Exc} (h : Trace (stepsPhase D operation) pass.events (ret (.error x)))
    {n : Nat} {s : Egress.Sent} {e : Egress.Ending} (hat : pass.At n s e) {y : Egress.Exc}
    (hy : Egress.fault s e = some y) : x = ofClient y := by
  have hV : Expected Eff.OfEngine NotApi pass.events := fun y hy he x hx => (pass.others y hy he x hx).notApi
  obtain ⟨z, hz, heff, hraised⟩ := hat.raised pass hy
  exact Except.error.inj ((candid_stepsPhase D operation _ _ h hV).1 z (List.mem_of_getElem? hz) heff _ hraised)

/-- After a first phase that ended well, what the engine raised was raised to a check. -/
theorem second_phase {before after : List (Event Ans Exc)}
    {prepared : ErpProvisioningRequest × Session × List ProvisioningStep}
    (heq : pass.events = before ++ after)
    (hb : Trace (stepsPhase D operation) before (ret (.ok prepared))) {n : Nat} {s : Egress.Sent}
    {e : Egress.Ending} (hat : pass.At n s e) {y : Egress.Exc} (hy : Egress.fault s e = some y) :
    Failed Eff.OfEngine after ∧ ¬ pass.InSteps n := by
  have hV : Expected Eff.OfEngine NotApi before := fun y hy he x hx =>
    (pass.others y (heq ▸ List.mem_append_left _ hy) he x hx).notApi
  obtain ⟨z, hz, heff, hraised⟩ := hat.raised pass hy
  rw [heq] at hz
  by_cases hn : n < before.length
  · rw [List.getElem?_append_left hn] at hz
    cases (candid_stepsPhase D operation _ _ hb hV).1 z (List.mem_of_getElem? hz) heff _ hraised
  · have hle : before.length ≤ n := by omega
    rw [List.getElem?_append_right hle] at hz
    refine ⟨⟨z, List.mem_of_getElem? hz, heff, _, hraised⟩, ?_⟩
    rintro ⟨q, hq⟩
    rw [heq, List.take_append, List.take_of_length_le (by omega)] at hq
    have hnil := (Trace.of_ret (hq.rest hb)).1
    have hlength := congrArg List.length hnil
    have hlt := (List.getElem?_eq_some_iff.1 hz).1
    rw [List.length_take, List.length_nil] at hlength
    omega

/-- **Which passes retry trouble**: in every pass, with any answers of the engine and of the
database, trouble is retried and only a refusal of 400 to 499 is rejected, exactly when no
call before the readiness checks comes to an end that is misjudged. -/
theorem trouble_retried_iff : pass.Retries ↔ pass.Judged := by
  rcases pass.phases with ⟨x, houtcome, hsteps⟩ | ⟨before, after, prepared, r, heq, houtcome, hb, ha⟩
  · have hin : ∀ n, pass.InSteps n := fun n => hsteps.upTo (n + 1)
    unfold Retries
    rw [houtcome]
    constructor
    · rintro ⟨htrouble, hrejected⟩ n s e hat -
      by_contra hmisjudged
      rw [Bool.not_eq_false] at hmisjudged
      rcases fault_of_misjudged hmisjudged with he | ⟨status, hfault, hlow, hfailed, hcode⟩
      · obtain ⟨y, hy, hiff⟩ := @fault_of_trouble s e he
        have hretry := htrouble n s e hat he
        rw [pass.first_phase hsteps hat hy] at hretry
        rw [hiff.1 hretry] at hmisjudged
        cases hmisjudged
      · obtain rfl := pass.first_phase hsteps hat hfault
        obtain ⟨n', s', e', hat', he'⟩ := hrejected hfailed hcode
        obtain ⟨y, hy, hhigh⟩ := @fault_of_refusal s' e' he'
        have := hhigh _ (pass.first_phase hsteps hat' hy).symm
        omega
    · intro hjudged
      refine ⟨fun n s e hat he => ?_, fun _ hcode => ?_⟩
      · obtain ⟨y, hy, hiff⟩ := @fault_of_trouble s e he
        rw [pass.first_phase hsteps hat hy]
        exact hiff.2 (hjudged n s e hat (hin n))
      · obtain ⟨status, rfl⟩ := api_of_rejected hcode
        have hV : Expected Eff.OfEngine NotApi pass.events := fun y hy he x hx =>
          (pass.others y hy he x hx).notApi
        rcases (candid_stepsPhase D operation _ _ hsteps hV).2 _ rfl with hx | ⟨⟨eff, r⟩, hy, heff, hr⟩
        · exact absurd rfl (hx status)
        · obtain ⟨n, hn⟩ := List.mem_iff_getElem?.1 hy
          have hanswers := (pass.carried n eff r hn heff).2
          rw [show r = .error (.api status) from hr] at hanswers
          obtain ⟨s, e, m, hlast, hfault, rfl⟩ := EngineCall.told_api hanswers
          have hat : pass.At n s e := ⟨_, hn, heff, hlast⟩
          exact ⟨n, s, e, hat, (refusal_of_rejected hfault hcode).2 (hjudged n s e hat (hin n))⟩
  · have hV : Expected Eff.OfEngine Ordinary after := fun y hy =>
      pass.others y (heq ▸ List.mem_append_right _ hy)
    obtain ⟨hretry, hcode⟩ := checksOf_ends D ha hV
    refine iff_of_true ⟨fun n s e hat he => ?_, fun _ hrejected => ?_⟩ fun n s e hat hin => ?_
    · obtain ⟨y, hy, -⟩ := @fault_of_trouble s e he
      rw [houtcome]
      exact hretry (pass.second_phase heq hb hat hy).1
    · rw [houtcome] at hrejected
      exact absurd hrejected hcode
    · by_contra hmisjudged
      rw [Bool.not_eq_false] at hmisjudged
      have hfault : ∃ y, Egress.fault s e = some y := by
        rcases fault_of_misjudged hmisjudged with he | ⟨status, hfault, -⟩
        · obtain ⟨y, hy, -⟩ := @fault_of_trouble s e he
          exact ⟨y, hy⟩
        · exact ⟨_, hfault⟩
      obtain ⟨y, hy⟩ := hfault
      exact (pass.second_phase heq hb hat hy).2 hin

end Pass

/-! ### An engine that is down -/

/-- The record of the first step is read again, and the login is answered so. -/
def rereading (status : Nat) (content : Egress.Content) : EngineCall where
  deployment :=
    { Egress.rejecting with
      network := { reply := fun _ => (Egress.Ending.answered status content).reply, clock := fun n => n } }
  path := []
  client := 0
  method := .getRecord "AD_Client" 1000
  ends _ := .answered status content
  replies _ := rfl
  before := .initial

/-- The first step was carried out and not recorded, and the engine raises `x`. -/
def raising (x : Exc) : (e : Eff) → Except Exc (Ans e)
  | .sql (.completedSteps _) => .ok []
  | .sql (.select (.nativeMapping _ _)) => .ok (some (1000 : Int))
  | .getRecord _ _ _ => .error x
  | _ => .error .database

theorem ordinary_raising {x y : Exc} {e : Eff} (he : ¬ e.OfEngine) (h : raising x e = .error y) :
    Ordinary y := by
  cases e with
  | sql q =>
    cases q with
    | select k => cases k <;> (cases h; try exact True.intro)
    | completedSteps => cases h
    | _ => cases h; exact True.intro
  | getRecord => exact absurd True.intro he
  | _ => cases h; exact True.intro

/-- A call of the client that reads it, and no other. -/
def isReading : Eff → Bool
  | .getRecord _ table id => table = "AD_Client" && id = 1000
  | _ => false

def isStatement : Eff → Bool
  | .sql _ => true
  | _ => false

/-- The operation, when a pass over it began before. -/
def keApplying : LoadedOperation := { keOperation (.int 1) with status := .applying }

section

variable {status : Nat} {content : Egress.Content} {x : Exc} {outcome : Outcome}
  {events : List (Event Ans Exc)}

/-- The pass in which the engine raises `x`, where nothing but that record is read from it. -/
def downPass (ran : Trace (run keDeployment keApplying) events (ret (.ok outcome)))
    (hraised : ∀ y ∈ events, y.2 = raising x y.1)
    (hcalls : events.all (fun y => isStatement y.1 || isReading y.1) = true)
    (hanswers : (rereading status content).Answers (.error x : Except Exc (List (String × Json)))) :
    Pass keDeployment keApplying where
  events := events
  outcome := outcome
  ran := ran
  call _ := rereading status content
  carried n e r h he := by
    have hmem := List.mem_of_getElem? h
    have hr : r = raising x e := hraised _ hmem
    have hreading := List.all_eq_true.1 hcalls _ hmem
    subst hr
    cases e with
    | getRecord σ table id =>
      have hrecord : table = "AD_Client" ∧ id = 1000 := by
        simpa [isStatement, isReading] using hreading
      obtain ⟨rfl, rfl⟩ := hrecord
      exact ⟨⟨rfl, rfl⟩, hanswers⟩
    | query => cases hreading
    | createRecord => cases hreading
    | executeProcess => cases hreading
    | _ => exact he.elim
  others y hy he x' hx' := by
    rw [hraised y hy] at hx'
    exact ordinary_raising he hx'

/-- It comes to trouble, so ending otherwise than as `retry` it does not retry trouble. -/
theorem downPass_not_retried (ran : Trace (run keDeployment keApplying) events (ret (.ok outcome)))
    (hraised : ∀ y ∈ events, y.2 = raising x y.1)
    (hcalls : events.all (fun y => isStatement y.1 || isReading y.1) = true)
    (hanswers : (rereading status content).Answers (.error x : Except Exc (List (String × Json))))
    (hread : (events[2]?).any (fun y => isReading y.1) = true)
    (hlast : ∃ s, (rereading status content).last = some (s, .answered status content))
    (he : (Egress.Ending.answered status content).trouble = true) (hne : outcome.status ≠ .retry) :
    ¬ (downPass ran hraised hcalls hanswers).Retries := by
  intro h
  obtain ⟨s, hlast⟩ := hlast
  obtain ⟨y, hy, hreading⟩ := (Option.any_eq_true _ _).1 hread
  have heff : y.1.OfEngine := by
    obtain ⟨eff, r⟩ := y
    cases eff with
    | getRecord => exact True.intro
    | _ => cases hreading
  exact hne (h.1 2 s _ ⟨y, hy, heff, hlast⟩ he)

/-- A pass that is answered so ends as it is computed to. -/
theorem ends_down (hanswers : (rereading status content).Answers (.error x : Except Exc (List (String × Json))))
    (houtcome : (run keDeployment keApplying).answered (raising x) = .ok outcome)
    (hcalls : ((run keDeployment keApplying).answeredCalls (raising x)).all
      (fun y => isStatement y.1 || isReading y.1) = true)
    (hread : (((run keDeployment keApplying).answeredCalls (raising x))[2]?).any
      (fun y => isReading y.1) = true)
    (hlast : ∃ s, (rereading status content).last = some (s, .answered status content))
    (he : (Egress.Ending.answered status content).trouble = true) (hne : outcome.status ≠ .retry) :
    ∃ pass : Pass keDeployment keApplying, pass.outcome = outcome ∧ ¬ pass.Retries := by
  have ran := trace_answered (raising x) (run keDeployment keApplying)
  have hraised : ∀ y ∈ (run keDeployment keApplying).answeredCalls (raising x), y.2 = raising x y.1 :=
    fun y hy => answered_of_mem hy
  rw [houtcome] at ran
  generalize (run keDeployment keApplying).answeredCalls (raising x) = events at *
  exact ⟨downPass ran hraised hcalls hanswers, rfl,
    downPass_not_retried ran hraised hcalls hanswers hread hlast he hne⟩

end

/-- **An engine that is down blocks the pass**: its login is answered with 503.  Behind a page
that is no JSON the pass fails. -/
theorem engine_down_blocks :
    (∃ pass : Pass keDeployment keApplying,
      pass.outcome = { status := .blocked, code := "ENGINE_AUTH" } ∧ ¬ pass.Retries) ∧
    ∃ pass : Pass keDeployment keApplying,
      pass.outcome = { status := .failed, code := "STEP_INVALID", detail := "JSONDecodeError" } ∧
        ¬ pass.Retries := by
  have hlogin : (rereading 503 .empty).outcome.1 = .error .authentication := rfl
  have hpage : (rereading 200 (.unreadable .notJson)).outcome.1 = .error (.other "JSONDecodeError") := rfl
  constructor
  · refine @ends_down 503 .empty .authentication _ ?_ ?_ ?_ ?_ ⟨_, rfl⟩ rfl nofun
    · unfold EngineCall.Answers
      rw [hlogin]
      rfl
    · decide +kernel
    · decide +kernel
    · decide +kernel
  · refine @ends_down 200 (.unreadable .notJson) (.value "JSONDecodeError") _ ?_ ?_ ?_ ?_ ⟨_, rfl⟩ rfl nofun
    · unfold EngineCall.Answers
      rw [hpage]
      rfl
    · decide +kernel
    · decide +kernel
    · decide +kernel

end Provisioning
end BaobabErp
