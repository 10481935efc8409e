/-
# When a governed native action runs

What each check of `GovernedAction` comes to when it does not raise, and what the
calls before the native one then were (`Cleared`): two decisions of the legal actor
that name one mandate, the first before and the second after the provider's
readiness, which stands between two unblocked documentary decisions.

Both gates run the native call at most once, last, and after a trace like that
only (`native_call_after_clearance`).
-/

import BaobabErp.OrderToCash.GovernedAction

namespace BaobabErp
namespace GovernedAction

open Python Concurrency Prog
open OrderExecution (TenantScope actionRole)

variable {T : Type} {V : Validator} {ports given : Ports} {o : LegalActorOperation} {now : DateTime}
  {mandate : String}

/-! ### What a decision says -/

/-- A decision of the legal actor, evaluated at `e` and valid until `v`, is within
its lease at `n`. -/
structure LegalLease (e v n : Instant) : Prop where
  evaluated : e ≤ n + seconds 1
  fresh : n - e ≤ seconds 30
  valid : n < v
  bounded : v ≤ e + seconds 31

/-- A documentary decision, evaluated at `e` and expiring at `x`, is within its
lease at `n`. -/
structure DocumentaryLease (e x n : Instant) : Prop where
  evaluated : e ≤ n + seconds 1
  fresh : n - e ≤ seconds 3
  valid : n < x
  forward : e < x
  bounded : x - e ≤ seconds 2

/-- **The decision authorises the operation under the mandate**, as the clock
reading `now` has it. -/
def Authorises (o : LegalActorOperation) (decision : Json) (now : DateTime) (mandate : String) :
    Prop :=
  ∃ response resolution evaluated validUntil e v n, decision = .obj response ∧
    Json.get response "context_id" = .str o.contextId ∧
    Json.get response "operation_reference" = .str o.operationReference ∧
    Json.get response "provider_permissions_granted" = .bool false ∧
    Json.get response "legal_actor_resolution" = .obj resolution ∧
    Json.get resolution "outcome" = .str "AUTHORIZED" ∧
    Json.get resolution "responsible_legal_entity_id" = .str o.expectedLegalEntityId ∧
    Json.get resolution "mandate_id" = .str mandate ∧ mandate ≠ "" ∧
    evidenceTime resolution "evaluated_at" = .ok evaluated ∧ evaluated.instant = some e ∧
    evidenceTime resolution "valid_until" = .ok validUntil ∧ validUntil.instant = some v ∧
    now.instant = some n ∧ LegalLease e v n

/-- **The documentary decision leaves the operation unblocked**, as the clock
reading `now` has it. -/
def Unblocked (o : LegalActorOperation) (decision : Json) (now : DateTime) : Prop :=
  ∃ response e x n, decision = .obj response ∧
    (∀ m ∈ o.echoed, Json.get response m.1 = .str m.2) ∧
    Json.get response "blocked" = .bool false ∧
    Json.get response "authority_granted" = .bool false ∧
    leaseTime (Json.get response "evaluated_at") = .ok e ∧
    leaseTime (Json.get response "expires_at") = .ok x ∧
    now.instant = some n ∧ DocumentaryLease e x n

/-- The documentary request of an operation. -/
def LegalActorOperation.restriction (o : LegalActorOperation) : List (String × Json) :=
  [("context_id", .str o.contextId), ("capability", .str o.capability), ("market", .str o.market),
    ("operation_reference", .str o.operationReference)]

/-- **The calls that clear an operation**, in this order and no others: the first
decision of the legal actor, an unblocked documentary decision, the provider's
readiness, a second unblocked documentary decision, and a second decision of the
legal actor under the same mandate.  Each decision is checked with a clock reading
of its own. -/
def Cleared (T : Type) (o : LegalActorOperation) (tr : List (Event (Eff.Ans T) Exc)) : Prop :=
  ∃ mandate first t₁ t₂ before t₃ after second t₄,
    tr = [⟨.assessLegalActor o.request, .ok first⟩, ⟨.now, .ok t₁⟩,
      ⟨.now, .ok t₂⟩, ⟨.assessDocumentary o.restriction, .ok before⟩,
      ⟨.ensureUsable o mandate, .ok ()⟩,
      ⟨.now, .ok t₃⟩, ⟨.assessDocumentary o.restriction, .ok after⟩,
      ⟨.assessLegalActor o.request, .ok second⟩, ⟨.now, .ok t₄⟩] ∧
    Authorises o first t₁ mandate ∧ Unblocked o before t₂ ∧ Unblocked o after t₃ ∧
    Authorises o second t₄ mandate

/-! ### What a check that passed found -/

theorem deny_ok {cond : Bool} {m : String} {u : Unit} (h : deny cond m = .ok u) : cond = false := by
  unfold deny at h
  cases cond with
  | false => rfl
  | true => cases h

theorem str?_eq_some {j : Json} {s : String} (h : j.str? = some s) : j = .str s := by
  cases j <;> first | exact congrArg Json.str (Option.some.inj h) | cases h

theorem obj?_eq_some {j : Json} {m : List (String × Json)} (h : j.obj? = some m) : j = .obj m := by
  cases j <;> first | exact congrArg Json.obj (Option.some.inj h) | cases h

theorem eq_false_of_isFalse {j : Json} (h : isFalse j = true) : j = .bool false := by
  cases j with
  | bool b =>
    cases b with
    | false => rfl
    | true => cases h
  | _ => cases h

theorem str_of_bne {j : Json} {s : String} (h : (j.str? != some s) = false) : j = .str s :=
  str?_eq_some (bne_eq_false_iff_eq.1 h)

theorem false_of_not {j : Json} (h : (!isFalse j) = false) : j = .bool false :=
  eq_false_of_isFalse (by rwa [Bool.not_eq_false'] at h)

theorem plus_ok {t : DateTime} {i j : Instant} {d : Int} (h : plus t i d = .ok j) : j = i + d := by
  unfold plus at h
  split_ifs at h
  exact (Except.ok.inj h).symm

theorem astimezoneUtc_ok {i j : Instant} (h : astimezoneUtc i = .ok j) : j = i := by
  unfold astimezoneUtc at h
  split_ifs at h
  exact (Except.ok.inj h).symm

/-- `currentAt` found the decision within its lease. -/
theorem currentAt_ok {evaluated validUntil : DateTime} {u : Unit}
    (h : currentAt evaluated validUntil now = .ok u) :
    ∃ e v n, evaluated.instant = some e ∧ validUntil.instant = some v ∧ now.instant = some n ∧
      LegalLease e v n := by
  unfold currentAt at h
  split at h
  · rename_i e v n he hv hn
    obtain ⟨soon, hsoon, h⟩ := bind_eq_ok h
    obtain ⟨_, hdeny, h⟩ := bind_eq_ok h
    obtain ⟨limit, hlimit, h⟩ := bind_eq_ok h
    obtain rfl := plus_ok hsoon
    obtain rfl := plus_ok hlimit
    have hfirst := deny_ok hdeny
    have hlast := deny_ok h
    simp only [Bool.or_eq_false_iff, decide_eq_false_iff_not, not_lt, not_le] at hfirst hlast
    exact ⟨e, v, n, he, hv, hn, hfirst.1.1, hfirst.1.2, hfirst.2, hlast⟩
  · cases h

/-- **`assert_current_decision` returns the mandate of a decision that authorises.** -/
theorem assertCurrentDecision_ok {response : List (String × Json)}
    (h : assertCurrentDecision V o response now = .ok mandate) :
    Authorises o (.obj response) now mandate := by
  unfold assertCurrentDecision at h
  obtain ⟨-, -, h⟩ := bind_eq_ok h
  obtain ⟨-, -, h⟩ := bind_eq_ok h
  obtain ⟨_, hecho, h⟩ := bind_eq_ok h
  have hecho := deny_ok hecho
  simp only [Bool.or_eq_false_iff] at hecho
  split at h
  · rename_i resolution hres
    obtain ⟨_, houtcome, h⟩ := bind_eq_ok h
    obtain ⟨_, hactor, h⟩ := bind_eq_ok h
    obtain ⟨evaluated, heval, h⟩ := bind_eq_ok h
    obtain ⟨validUntil, hvalid, h⟩ := bind_eq_ok h
    obtain ⟨_, hcurrent, h⟩ := bind_eq_ok h
    obtain ⟨e, v, n, he, hv, hn, hlease⟩ := currentAt_ok hcurrent
    have houtcome := deny_ok houtcome
    have hactor := deny_ok hactor
    simp only [Bool.or_eq_false_iff] at hactor
    have hmandate : mandate ≠ "" ∧ Json.get resolution "mandate_id" = .str mandate := by
      obtain rfl := Except.ok.inj h
      cases hm : (Json.get resolution "mandate_id").str? with
      | none =>
        rw [hm] at hactor
        exact absurd hactor.1.1.2 (by decide)
      | some m =>
        rw [hm] at hactor
        exact ⟨beq_eq_false_iff_ne.1 hactor.1.1.2, str?_eq_some hm⟩
    exact ⟨response, resolution, evaluated, validUntil, e, v, n, rfl, str_of_bne hecho.1.1,
      str_of_bne hecho.1.2, false_of_not hecho.2, obj?_eq_some hres, str_of_bne houtcome,
      str_of_bne hactor.1.1.1, hmandate.2, hmandate.1, heval, he, hvalid, hv, hn, hlease⟩
  · cases h

/-- **`assert_documentary_scope_unblocked` passes an unblocked scope.** -/
theorem assertDocumentaryScopeUnblocked_ok {raw : Json} {u : Unit}
    (h : assertDocumentaryScopeUnblocked V o raw now = .ok u) : Unblocked o raw now := by
  unfold assertDocumentaryScopeUnblocked at h
  obtain ⟨-, -, h⟩ := bind_eq_ok h
  obtain ⟨-, -, h⟩ := bind_eq_ok h
  split at h
  · rename_i response hraw
    split at h
    · rename_i n hn
      obtain ⟨_, hecho, h⟩ := bind_eq_ok h
      obtain ⟨e, he, h⟩ := bind_eq_ok h
      obtain ⟨x, hx, h⟩ := bind_eq_ok h
      obtain ⟨m, hm, h⟩ := bind_eq_ok h
      obtain ⟨soon, hsoon, h⟩ := bind_eq_ok h
      obtain rfl := astimezoneUtc_ok hm
      obtain rfl := astimezoneUtc_ok hsoon
      have hecho := deny_ok hecho
      have hlease := deny_ok h
      simp only [Bool.or_eq_false_iff, decide_eq_false_iff_not, not_lt, not_le,
        List.any_eq_false, Bool.not_eq_true] at hecho hlease
      obtain ⟨⟨hmembers, hblocked⟩, hgranted⟩ := hecho
      obtain ⟨⟨⟨⟨h₁, h₂⟩, h₃⟩, h₄⟩, h₅⟩ := hlease
      exact ⟨response, e, x, m, obj?_eq_some hraw, fun y hy => str_of_bne (hmembers y hy),
        false_of_not hblocked, false_of_not hgranted, he, hx, hn, h₁, h₂, h₃, h₄, h₅⟩
    · cases h
  · cases h

/-! ### The calls of each part -/

variable {tr : List (Event (Eff.Ans T) Exc)}

/-- A check that passed made no call. -/
theorem check_ok {α : Type} {r : Except Exc α} {a : α}
    (h : Trace (.ret r : Gate T α) tr (.ret (.ok a))) : tr = [] ∧ r = .ok a := by
  obtain ⟨rfl, heq⟩ := Trace.of_ret h
  cases heq
  exact ⟨rfl, rfl⟩

theorem assessed_ok {unavailable : String}
    (h : Trace (assessed V o unavailable : Gate T String) tr (.ret (.ok mandate))) :
    ∃ decision t, tr = [⟨.assessLegalActor o.request, .ok decision⟩, ⟨.now, .ok t⟩] ∧
      Authorises o decision t mandate := by
  unfold assessed at h
  obtain ⟨tr₁, tr₂, decision, rfl, h₁, h₂⟩ := Trace.bind_ok h
  obtain rfl := Trace.perform_ok h₁
  split at h₂
  · rename_i response hd
    obtain ⟨tr₃, tr₄, t, rfl, h₃, h₄⟩ := Trace.bind_ok h₂
    obtain rfl := Trace.perform_ok h₃
    obtain ⟨rfl, hm⟩ := check_ok h₄
    refine ⟨decision, t, rfl, ?_⟩
    rw [obj?_eq_some hd]
    exact assertCurrentDecision_ok hm
  · exact nomatch (Trace.of_ret h₂).2

theorem requireDocumentary_ok {u : Unit}
    (h : Trace (requireDocumentaryScopeUnblocked V ports o now : Gate T Unit) tr (.ret (.ok u))) :
    ∃ raw, tr = [⟨.assessDocumentary o.restriction, .ok raw⟩] ∧ Unblocked o raw now := by
  unfold requireDocumentaryScopeUnblocked at h
  obtain ⟨tr₁, tr₂, _, rfl, h₁, h₂⟩ := Trace.bind_ok h
  obtain ⟨rfl, -⟩ := check_ok h₁
  rcases Trace.tryCatch_ok h₂ with h₃ | ⟨tr₃, tr₄, x, -, -, h₃⟩
  · obtain ⟨tr₃, tr₄, request, rfl, h₄, h₅⟩ := Trace.bind_ok h₃
    obtain ⟨rfl, hrequest⟩ := check_ok h₄
    obtain ⟨_, -, hrequest⟩ := bind_eq_ok hrequest
    obtain rfl := Except.ok.inj hrequest
    obtain ⟨tr₅, tr₆, raw, rfl, h₆, h₇⟩ := Trace.bind_ok h₅
    obtain rfl := Trace.perform_ok h₆
    obtain ⟨rfl, hu⟩ := check_ok h₇
    exact ⟨raw, rfl, assertDocumentaryScopeUnblocked_ok hu⟩
  · cases x <;> exact nomatch (Trace.of_ret h₃).2

theorem ensureLegalActorUsable_ok {u : Unit}
    (h : Trace (ensureLegalActorUsable V ports o mandate : Gate T Unit) tr (.ret (.ok u))) :
    ∃ t₂ before t₃ after, tr = [⟨.now, .ok t₂⟩, ⟨.assessDocumentary o.restriction, .ok before⟩,
      ⟨.ensureUsable o mandate, .ok ()⟩, ⟨.now, .ok t₃⟩,
      ⟨.assessDocumentary o.restriction, .ok after⟩] ∧ Unblocked o before t₂ ∧
      Unblocked o after t₃ := by
  unfold ensureLegalActorUsable at h
  obtain ⟨tr₁, _, t₂, rfl, h₁, h⟩ := Trace.bind_ok h
  obtain ⟨tr₂, _, _, rfl, h₂, h⟩ := Trace.bind_ok h
  obtain ⟨tr₃, _, _, rfl, h₃, h⟩ := Trace.bind_ok h
  obtain ⟨tr₄, tr₅, t₃, rfl, h₄, h₅⟩ := Trace.bind_ok h
  obtain rfl := Trace.perform_ok h₁
  obtain ⟨before, rfl, hbefore⟩ := requireDocumentary_ok h₂
  obtain rfl := Trace.perform_ok h₃
  obtain rfl := Trace.perform_ok h₄
  obtain ⟨after, rfl, hafter⟩ := requireDocumentary_ok h₅
  exact ⟨t₂, before, t₃, after, rfl, hbefore, hafter⟩

/-- **What came before the last line of the gate.** -/
theorem authorise_ok {u : Unit}
    (h : Trace (authorise V given o (ensureLegalActorUsable V ports o) : Gate T Unit) tr
      (.ret (.ok u))) : Cleared T o tr := by
  unfold authorise at h
  obtain ⟨tr₀, _, _, rfl, h₀, h⟩ := Trace.bind_ok h
  obtain ⟨tr₁, _, _, rfl, h₁, h⟩ := Trace.bind_ok h
  obtain ⟨tr₂, _, mandate, rfl, h₂, h⟩ := Trace.bind_ok h
  obtain ⟨tr₃, _, _, rfl, h₃, h⟩ := Trace.bind_ok h
  obtain ⟨tr₄, tr₅, current, rfl, h₄, h₅⟩ := Trace.bind_ok h
  obtain ⟨rfl, -⟩ := check_ok h₀
  obtain ⟨rfl, -⟩ := check_ok h₁
  obtain ⟨first, t₁, rfl, hfirst⟩ := assessed_ok h₂
  obtain ⟨t₂, before, t₃, after, rfl, hbefore, hafter⟩ := ensureLegalActorUsable_ok h₃
  obtain ⟨second, t₄, rfl, hsecond⟩ := assessed_ok h₄
  obtain ⟨rfl, hsame⟩ := check_ok h₅
  obtain rfl := bne_eq_false_iff_eq.1 (deny_ok hsame)
  exact ⟨current, first, t₁, t₂, before, t₃, after, second, t₄, rfl, hfirst, hbefore, hafter,
    hsecond⟩

/-! ### The native call -/

/-- No part before the last line makes the native call. -/
theorem authorise_quiet :
    ¬ Calls (fun e => e.isExecute = true)
      (authorise V given o (ensureLegalActorUsable V ports o) : Gate T Unit) := by
  have quiet : Closed fun α (p : Gate T α) => ¬ Calls (fun e => e.isExecute = true) p :=
    closed_quiet
  have asked : ∀ e : Eff, e.isExecute = false →
      ¬ Calls (fun e => e.isExecute = true) (ask e : Gate T (e.Ans T)) :=
    fun e he => quiet_perform (by rw [he]; exact Bool.false_ne_true)
  have hassessed : ∀ m, ¬ Calls (fun e => e.isExecute = true) (assessed V o m : Gate T String) := by
    intro m
    refine quiet.bind (asked _ rfl) fun decision => ?_
    split
    · exact quiet.bind (asked _ rfl) fun now => quiet.ret _
    · exact quiet.throw _
  have hdocumentary : ∀ now, ¬ Calls (fun e => e.isExecute = true)
      (requireDocumentaryScopeUnblocked V ports o now : Gate T Unit) := by
    intro now
    refine quiet.bind (quiet.ret _) fun _ => quiet.tryCatch ?_ fun x => ?_
    · exact quiet.bind (quiet.ret _) fun request => quiet.bind (asked _ rfl) fun raw => quiet.ret _
    · cases x <;> exact quiet.throw _
  refine quiet.bind (quiet.ret _) fun _ => quiet.bind (quiet.ret _) fun _ =>
    quiet.bind (hassessed _) fun mandate => quiet.bind ?_ fun _ =>
      quiet.bind (hassessed _) fun current => quiet.ret _
  exact quiet.bind (asked _ rfl) fun before => quiet.bind (hdocumentary _) fun _ =>
    quiet.bind (asked _ rfl) fun _ => quiet.bind (asked _ rfl) fun after => hdocumentary _

/-- **The native call of the gate comes after a cleared trace.** -/
theorem performGoverned_onlyAfter (permit : Permit) :
    OnlyAfter Eff.isExecute (.execute permit) (Cleared T o)
      (performGovernedFinancialAction V given o (ensureLegalActorUsable V ports o) permit) :=
  .bind authorise_quiet rfl authorise_ok

/-- **The operation is the one the policy approves**, for this scope and resource. -/
structure BoundTo (p : NativeActionPolicy) (o : LegalActorOperation) (scope : TenantScope)
    (resourceReference : String) : Prop where
  role : actionRole p.action = some o.role
  activity : o.activity = p.activity
  capability : o.capability = p.capability
  tenant : o.tenantId = scope.tenantId
  legalEntity : o.expectedLegalEntityId = scope.legalEntityId
  reference : o.operationReference = resourceReference

/-- **The operation is the posting of this invoice.** -/
structure PostsInvoice (o : LegalActorOperation) (scope : TenantScope)
    (invoiceCanonicalId : String) : Prop where
  role : o.role = "INVOICE_ISSUER"
  capability : o.capability = "accounting.customer-invoice.post"
  tenant : o.tenantId = scope.tenantId
  legalEntity : o.expectedLegalEntityId = scope.legalEntityId
  reference : o.operationReference = invoiceCanonicalId

variable {scope : TenantScope}

theorem nativeAction_onlyAfter (p : NativeActionPolicy) (resourceReference : String) :
    OnlyAfter Eff.isExecute (.execute (.nativeAction scope p.action resourceReference))
      (fun tr => BoundTo p o scope resourceReference ∧ Cleared T o tr)
      (performGovernedNativeAction V ports (some p) o scope resourceReference) := by
  unfold performGovernedNativeAction
  dsimp only
  split
  · exact .throw _
  · rename_i hbound
    simp only [not_or, ne_eq, not_not] at hbound
    obtain ⟨-, -, -, -, hrole, hactivity, hcapability, htenant, hentity, href, -⟩ := hbound
    refine (performGoverned_onlyAfter _).imp fun tr hcleared => ⟨?_, hcleared⟩
    exact ⟨hrole.symm, hactivity, hcapability, htenant, hentity, href⟩

theorem invoice_onlyAfter (invoiceCanonicalId : String) :
    OnlyAfter Eff.isExecute (.execute (.invoicePost scope invoiceCanonicalId))
      (fun tr => PostsInvoice o scope invoiceCanonicalId ∧ Cleared T o tr)
      (postCustomerInvoiceGoverned V ports o scope invoiceCanonicalId) := by
  unfold postCustomerInvoiceGoverned
  split
  · exact .throw _
  · rename_i hbound
    split
    · exact .throw _
    · simp only [not_or, ne_eq, not_not] at hbound
      obtain ⟨hrole, hcapability, href, htenant, hentity⟩ := hbound
      exact (performGoverned_onlyAfter _).imp fun tr hcleared =>
        ⟨⟨hrole, hcapability, htenant, hentity, href⟩, hcleared⟩

/-- **The native call runs once, last and cleared, or not at all.**  Whatever the
assessors, the provider, the clock and the native call answer, raise or leave
unanswered: both gates make the native call at most once and as their last call,
under the scope's own permit, for an operation the policy (or the invoice) is of,
and after exactly the calls of `Cleared`; and they return only what that call
returned.  Without a policy nothing runs. -/
theorem native_call_after_clearance (V : Validator) (ports : Ports) (o : LegalActorOperation)
    (scope : TenantScope) :
    (∀ (p : NativeActionPolicy) (resourceReference : String),
      OnlyAfter Eff.isExecute (.execute (.nativeAction scope p.action resourceReference))
        (fun tr => BoundTo p o scope resourceReference ∧ Cleared T o tr)
        (performGovernedNativeAction V ports (some p) o scope resourceReference)) ∧
    (∀ (resourceReference : String) (permit : Permit),
      OnlyAfter Eff.isExecute (.execute permit) (fun _ => False)
        (performGovernedNativeAction (T := T) V ports none o scope resourceReference)) ∧
    ∀ invoiceCanonicalId : String,
      OnlyAfter Eff.isExecute (.execute (.invoicePost scope invoiceCanonicalId))
        (fun tr => PostsInvoice o scope invoiceCanonicalId ∧ Cleared T o tr)
        (postCustomerInvoiceGoverned V ports o scope invoiceCanonicalId) :=
  ⟨nativeAction_onlyAfter, fun _ _ => .throw _, invoice_onlyAfter⟩

/-! ### A cleared operation -/

/-- The payment of a receipt, for the entity's own books. -/
def receiptOperation : LegalActorOperation where
  contextId := "c-1"
  tenantId := "t-1"
  operatingOrganisationId := "org-1"
  expectedLegalEntityId := "le-1"
  role := "ACCOUNTING_ENTITY"
  activity := "receipts"
  market := "KE"
  capability := "accounting.receipt"
  operationReference := "pay-1"

/-- Everybody agrees, at noon. -/
def agreeing : (e : Eff) → Except Exc (e.Ans Nat)
  | .assessLegalActor _ => .ok (.obj [("context_id", .str "c-1"),
      ("operation_reference", .str "pay-1"), ("provider_permissions_granted", .bool false),
      ("legal_actor_resolution", .obj [("outcome", .str "AUTHORIZED"),
        ("responsible_legal_entity_id", .str "le-1"), ("mandate_id", .str "m-1"),
        ("evidence_references", .arr [.str "ev-1"]),
        ("evaluated_at", .str "2026-05-01T12:00:00Z"),
        ("valid_until", .str "2026-05-01T12:00:20Z")])])
  | .assessDocumentary _ => .ok (.obj [("context_id", .str "c-1"),
      ("organisation_id", .str "org-1"), ("capability", .str "accounting.receipt"),
      ("market", .str "KE"), ("operation_reference", .str "pay-1"),
      ("policy_reference", .str policy), ("blocked", .bool false),
      ("authority_granted", .bool false), ("evaluated_at", .str "2026-05-01T12:00:00Z"),
      ("expires_at", .str "2026-05-01T12:00:02Z")])
  | .ensureUsable _ _ => .ok ()
  | .now => .ok ⟨⟨2026, 5, 1, by decide⟩, 12, 0, 1, 0, some 0, by decide⟩
  | .execute _ => .ok 7

/-- The gate is not shut to everybody: this one runs. -/
example : (performGovernedNativeAction (T := Nat) (fun _ _ => .ok ()) ⟨true, true, true, true⟩
    (some ⟨"create_payment", "receipts", "accounting.receipt", "adr-1"⟩) receiptOperation
    ⟨"t-1", "le-1", 11, 12⟩ "pay-1").answered agreeing = .ok 7 := by
  decide +kernel

end GovernedAction
end BaobabErp
