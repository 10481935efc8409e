/-
# Governed native actions

`modules/order_to_cash/legal_actor_gate.py`, `documentary_restriction.py`,
`governed_service.py` and `native_action_gate.py`: what stands before a native
iDempiere mutation.  Control Plane decides who is legally responsible, its
documentary assessor may veto, the provider says whether the company is ready, and
only then the native call runs.

Nobody who is asked is trusted to answer: each of them, and the clock, is a call
that may return anything, another thing the next time, raise, or never return.
What the packaged Shared schemas accept is a parameter.
-/

import BaobabErp.Concurrency.Trace
import BaobabErp.OrderToCash.InboxExecution
import BaobabErp.Provisioning.Assignment

namespace BaobabErp
namespace GovernedAction

open Python Concurrency
open OrderExecution (TenantScope actionRole textOf)

/-! ### Exceptions and calls -/

inductive Exc
  /-- `LegalActorNotAuthorised`. -/
  | notAuthorised (message : String)
  /-- Any other `Exception`. -/
  | exception (name : String)
  /-- A `BaseException` that is no `Exception`: the process is being stopped. -/
  | interrupt
  deriving DecidableEq

/-- The packaged Shared schemas the gate validates against. -/
inductive Contract
  | contextUuid | legalRequest | legalResponse | documentaryResponse

/-- What `validate_contract` raises. -/
inductive ContractError
  | violation
  | other (x : Exc)

/-- **`validate_contract`**, which reads immutable packaged bytes. -/
abbrev Validator := Contract → Json → Except ContractError Unit

/-- `LegalActorOperation`. -/
structure LegalActorOperation where
  contextId : String
  tenantId : String
  operatingOrganisationId : String
  expectedLegalEntityId : String
  role : String
  activity : String
  market : String
  capability : String
  operationReference : String
  deriving DecidableEq

/-- The marker that is set while the native call runs. -/
inductive Permit
  /-- `_authorised_native_action`. -/
  | nativeAction (scope : TenantScope) (action reference : String)
  /-- `_authorised_invoice_post`. -/
  | invoicePost (scope : TenantScope) (invoiceCanonicalId : String)

/-- **The calls of the gate.** -/
inductive Eff
  /-- `LegalActorAssessor.assess`. -/
  | assessLegalActor (request : List (String × Json))
  /-- `DocumentaryRestrictionAssessor.assess`. -/
  | assessDocumentary (request : List (String × Json))
  /-- `LegalActorProviderReadiness.ensure_legal_actor_usable`. -/
  | ensureUsable (operation : LegalActorOperation) (mandateId : String)
  /-- `now`. -/
  | now
  /-- The native call. -/
  | execute (permit : Permit)

/-- What a call returns; `T` is what the native call does. -/
@[reducible] def Eff.Ans (T : Type) : Eff → Type
  | .assessLegalActor _ | .assessDocumentary _ => Json
  | .ensureUsable _ _ => Unit
  | .now => DateTime
  | .execute _ => T

/-- The native call. -/
def Eff.isExecute : Eff → Bool
  | .execute _ => true
  | _ => false

/-- A program of the gate. -/
abbrev Gate (T α : Type) := Prog (Eff.Ans T) Exc α

variable {T : Type}

/-- One call. -/
def ask (e : Eff) : Gate T (e.Ans T) := .perform e

/-- `if cond: raise LegalActorNotAuthorised(message)`. -/
def deny (cond : Bool) (message : String) : Except Exc Unit :=
  if cond then .error (.notAuthorised message) else .ok ()

/-- `validate_contract`, with its `ContractViolation` turned into a denial. -/
def conforms (V : Validator) (c : Contract) (instance_ : Json) (message : String) :
    Except Exc Unit :=
  match V c instance_ with
  | .ok () => .ok ()
  | .error .violation => .error (.notAuthorised message)
  | .error (.other x) => .error x

/-! ### Times -/

/-- The last microsecond of year 9999, as a wall clock. -/
def maxWallClock : Int := 3652059 * 86400000000 + 86399999999

/-- `t + timedelta(microseconds=d)`, for `d` not negative. -/
def plus (t : DateTime) (i : Instant) (d : Int) : Except Exc Instant :=
  if maxWallClock < t.wallClock + d then .error (.exception "OverflowError") else .ok (i + d)

/-- `t.astimezone(timezone.utc)`. -/
def astimezoneUtc (i : Instant) : Except Exc Instant :=
  if i + 719163 * 86400000000 < 86400000000 ∨ maxWallClock < i + 719163 * 86400000000 then
    .error (.exception "OverflowError")
  else .ok i

/-- `text.replace("Z", "+00:00")`. -/
def zoneText (s : String) : String :=
  String.ofList (s.toList.flatMap fun c => if c = 'Z' then "+00:00".toList else [c])

/-- `value is False`. -/
def isFalse : Json → Bool
  | .bool b => !b
  | _ => false

/-! ### The legal actor gate -/

/-- The request that is sent, and that `validate` checks. -/
def LegalActorOperation.request (o : LegalActorOperation) : List (String × Json) :=
  [("context_id", .str o.contextId), ("role", .str o.role), ("activity", .str o.activity),
    ("market", .str o.market), ("capability", .str o.capability),
    ("operation_reference", .str o.operationReference)]

/-- `validate`. -/
def LegalActorOperation.validate (V : Validator) (o : LegalActorOperation) : Except Exc Unit := do
  conforms V .contextUuid (.str o.contextId) "invalid canonical operation scope"
  conforms V .legalRequest (.obj o.request) "invalid canonical operation scope"
  deny ([o.contextId, o.tenantId, o.operatingOrganisationId, o.expectedLegalEntityId, o.activity,
      o.capability, o.operationReference].any (· == "") ||
    !(["INVOICE_ISSUER", "ACCOUNTING_ENTITY", "CONTRACTING_PARTY"].contains o.role) ||
    !(o.market.toList.length == 2 && o.market.toList.all isAsciiUpper))
    "explicit scoped operation identity required"

/-- A member that should be an ISO datetime, in a decision of the legal actor. -/
def evidenceTime (resolution : List (String × Json)) (name : String) : Except Exc DateTime :=
  match resolution.lookup name with
  | none => .error (.notAuthorised "missing or invalid validity evidence")
  | some v =>
    match DateTime.fromisoformat (zoneText (textOf v)) with
    | none => .error (.notAuthorised "missing or invalid validity evidence")
    | some t => .ok t

/-- The last check of a decision of the legal actor: it is current at `now`. -/
def currentAt (evaluated validUntil now : DateTime) : Except Exc Unit :=
  match evaluated.instant, validUntil.instant, now.instant with
  | some e, some v, some n => do
    let soon ← plus now n (seconds 1)
    deny (decide (soon < e) || decide (seconds 30 < n - e) || decide (v ≤ n))
      "expired or stale legal-actor decision"
    let limit ← plus evaluated e (seconds 31)
    deny (decide (limit < v)) "expired or stale legal-actor decision"
  | _, _, _ => .error (.notAuthorised "expired or stale legal-actor decision")

/-- `assert_current_decision`. -/
def assertCurrentDecision (V : Validator) (o : LegalActorOperation)
    (response : List (String × Json)) (now : DateTime) : Except Exc String := do
  o.validate V
  conforms V .legalResponse (.obj response) "invalid canonical legal-actor decision"
  deny ((Json.get response "context_id").str? != some o.contextId ||
      (Json.get response "operation_reference").str? != some o.operationReference ||
      !isFalse (Json.get response "provider_permissions_granted"))
    "CP response is not this operation's decision"
  let some resolution := (Json.get response "legal_actor_resolution").obj?
    | throw (.notAuthorised "current legal actor authority denied")
  deny ((Json.get resolution "outcome").str? != some "AUTHORIZED")
    "current legal actor authority denied"
  let mandate := ((Json.get resolution "mandate_id").str?).getD ""
  let evidence := ((Json.get resolution "evidence_references").arr?).getD []
  deny ((Json.get resolution "responsible_legal_entity_id").str? != some o.expectedLegalEntityId ||
      mandate == "" || evidence.isEmpty || !evidence.all fun v => v.str?.any (· != ""))
    "verified legal-actor identity/evidence mismatch"
  let evaluated ← evidenceTime resolution "evaluated_at"
  let validUntil ← evidenceTime resolution "valid_until"
  currentAt evaluated validUntil now
  return mandate

/-- The ports a caller has supplied; an absent one is Python's `None`. -/
structure Ports where
  assessor : Bool
  provider : Bool
  documentary : Bool
  execute : Bool

/-- One assessment of the legal actor and what it comes to. -/
def assessed (V : Validator) (o : LegalActorOperation) (unavailable : String) : Gate T String := do
  let decision ← ask (.assessLegalActor o.request)
  let some response := Json.obj? decision | throw (.notAuthorised unavailable)
  let now ← ask .now
  .ret (assertCurrentDecision V o response now)

/-- `perform_governed_financial_action`, up to its last line. -/
def authorise (V : Validator) (ports : Ports) (o : LegalActorOperation)
    (ensureUsable : String → Gate T Unit) : Gate T Unit := do
  .ret (o.validate V)
  .ret (deny (!ports.assessor || !ports.provider || !ports.execute)
    "CP assessment and ERP provider readiness required")
  let mandate ← assessed V o "CP legal actor assessment unavailable"
  ensureUsable mandate
  let current ← assessed V o "current CP legal actor authority unavailable"
  .ret (deny (current != mandate) "legal actor mandate changed during readiness")

/-- `perform_governed_financial_action`. -/
def performGovernedFinancialAction (V : Validator) (ports : Ports) (o : LegalActorOperation)
    (ensureUsable : String → Gate T Unit) (permit : Permit) : Gate T T :=
  authorise V ports o ensureUsable >>= fun _ => ask (.execute permit)

/-! ### The documentary veto -/

/-- `restriction_request`. -/
def restrictionRequest (V : Validator) (o : LegalActorOperation) :
    Except Exc (List (String × Json)) := do
  o.validate V
  return [("context_id", .str o.contextId), ("capability", .str o.capability),
    ("market", .str o.market), ("operation_reference", .str o.operationReference)]

/-- `_instant`. -/
def leaseTime (value : Json) : Except Exc Instant :=
  match value.str? with
  | none => .error (.notAuthorised "documentary restriction has no valid decision time")
  | some s =>
    match DateTime.fromisoformat (zoneText s) with
    | none => .error (.notAuthorised "invalid documentary restriction validity")
    | some t =>
      match t.instant with
      | none => .error (.notAuthorised "unbounded documentary restriction decision time")
      | some i => astimezoneUtc i

/-- `POLICY`. -/
def policy : String := "ADR-BCP-026/PEO-02T:negative-only"

/-- The members a documentary decision has to echo. -/
def LegalActorOperation.echoed (o : LegalActorOperation) : List (String × String) :=
  [("context_id", o.contextId), ("organisation_id", o.operatingOrganisationId),
    ("capability", o.capability), ("market", o.market),
    ("operation_reference", o.operationReference), ("policy_reference", policy)]

/-- `assert_documentary_scope_unblocked`. -/
def assertDocumentaryScopeUnblocked (V : Validator) (o : LegalActorOperation) (raw : Json)
    (now : DateTime) : Except Exc Unit := do
  o.validate V
  conforms V .documentaryResponse raw "invalid canonical documentary decision"
  let some response := raw.obj?
    | throw (.notAuthorised "current CP documentary restriction unavailable")
  let some n := now.instant
    | throw (.notAuthorised "current CP documentary restriction unavailable")
  deny ((o.echoed.any fun m => (Json.get response m.1).str? != some m.2) ||
      !isFalse (Json.get response "blocked") || !isFalse (Json.get response "authority_granted"))
    "CP documentary scope blocked or mismatched"
  let evaluated ← leaseTime (Json.get response "evaluated_at")
  let expires ← leaseTime (Json.get response "expires_at")
  let utcNow ← astimezoneUtc n
  let soon ← astimezoneUtc (utcNow + seconds 1)
  deny (decide (soon < evaluated) || decide (seconds 3 < utcNow - evaluated) ||
      decide (expires ≤ utcNow) || decide (expires ≤ evaluated) ||
      decide (seconds 2 < expires - evaluated))
    "documentary scope lease expired or overlong"

/-- `require_documentary_scope_unblocked`. -/
def requireDocumentaryScopeUnblocked (V : Validator) (ports : Ports) (o : LegalActorOperation)
    (now : DateTime) : Gate T Unit := do
  .ret (deny (!ports.documentary) "documentary restriction assessor not configured")
  tryCatch (do
    let request ← .ret (restrictionRequest V o)
    let raw ← ask (.assessDocumentary request)
    .ret (assertDocumentaryScopeUnblocked V o raw now))
    fun
    | .exception _ => throw (.notAuthorised "documentary restriction authority unavailable")
    | x => throw x

/-! ### The composed readiness and the two gates -/

/-- `_DocumentaryAndNativeReadiness.ensure_legal_actor_usable`. -/
def ensureLegalActorUsable (V : Validator) (ports : Ports) (o : LegalActorOperation)
    (mandateId : String) : Gate T Unit := do
  let before ← ask .now
  requireDocumentaryScopeUnblocked V ports o before
  ask (.ensureUsable o mandateId)
  let after ← ask .now
  requireDocumentaryScopeUnblocked V ports o after

/-- `NativeActionPolicy`. -/
structure NativeActionPolicy where
  action : String
  activity : String
  capability : String
  authorityReference : String

/-- `perform_governed_native_action`. -/
def performGovernedNativeAction (V : Validator) (ports : Ports)
    (policy : Option NativeActionPolicy) (o : LegalActorOperation) (scope : TenantScope)
    (resourceReference : String) : Gate T T :=
  let refused : Gate T T := throw (.notAuthorised ("exact approved ERP action, responsible actor, " ++
    "documentary and provider contract binding required"))
  match policy with
  | none => refused
  | some p =>
    if actionRole p.action = none ∨ p.activity = "" ∨ p.capability = "" ∨
        p.authorityReference = "" ∨ some o.role ≠ actionRole p.action ∨ o.activity ≠ p.activity ∨
        o.capability ≠ p.capability ∨ o.tenantId ≠ scope.tenantId ∨
        o.expectedLegalEntityId ≠ scope.legalEntityId ∨
        o.operationReference ≠ resourceReference ∨ resourceReference = "" ∨
        !ports.assessor ∨ !ports.provider ∨ !ports.documentary ∨ !ports.execute then refused
    else performGovernedFinancialAction V ports o (ensureLegalActorUsable V ports o)
      (.nativeAction scope p.action resourceReference)

/-- `post_customer_invoice_governed`. -/
def postCustomerInvoiceGoverned (V : Validator) (ports : Ports) (o : LegalActorOperation)
    (scope : TenantScope) (invoiceCanonicalId : String) : Gate T T :=
  if o.role ≠ "INVOICE_ISSUER" ∨ o.capability ≠ "accounting.customer-invoice.post" ∨
      o.operationReference ≠ invoiceCanonicalId ∨ o.tenantId ≠ scope.tenantId ∨
      o.expectedLegalEntityId ≠ scope.legalEntityId then
    throw (.notAuthorised "invoice posting legal actor context mismatch")
  else if !ports.documentary ∨ !ports.provider then
    throw (.notAuthorised "independent documentary and provider readiness required")
  else performGovernedFinancialAction V { ports with execute := true } o
    (ensureLegalActorUsable V ports o) (.invoicePost scope invoiceCanonicalId)

end GovernedAction
end BaobabErp
