/-
# Accepting a provisioning command

`modules/application/provisioning_operations.py` (`request_provisioning`) and
`PostgresProvisioningCommandStore.accept`.  A request is checked, its key is
locked and looked up, the approved plan and the Finance baselines are compared
with what it names, and one transaction records the command with every legal
entity's operation; whatever the request is answered, the answer is sent after
its transaction ended.
-/

import BaobabErp.Provisioning.CommandStore

namespace BaobabErp
namespace Provisioning

open Python Concurrency

namespace AcceptOperation

/-- The body of a request, as far as the handler reads it. -/
inductive Body
  | tooLarge
  | notJson
  | json (value : Json)

/-- A `POST /provisioning-operations`, authenticated and bound to a tenant. -/
structure Post where
  tenantId : String
  principal : String
  body : Body
  idempotencyKey : Option String

/-- `fail(kind, detail)`. -/
def fail (kind : ProblemKind) (detail : String) : Response :=
  .problem kind (some detail) none [] false

/-- `fail("conflict", detail, code=code)`. -/
def conflict (detail code : String) : Response := .problem .conflict (some detail) (some code) [] false

/-- `fail("unavailable", detail, headers={"Retry-After": …})`. -/
def unavailable (detail : String) : Response := .problem .unavailable (some detail) none [] true

def planAuthorityMismatch : String := "PLAN_AUTHORITY_MISMATCH"

def idempotencyKeyReused : String := "IDEMPOTENCY_KEY_REUSED"

def financeBaselineMismatch : String := "FINANCE_BASELINE_MISMATCH"

def financeBaselineNotUsable : String := "FINANCE_BASELINE_NOT_USABLE"

variable (D : ProvisioningDeployment)

/-- The checks before the key is looked up: the key, the command and what the
deployment is configured with, or the refusal. -/
def admission (post : Post) :
    Except Response (String × ProvisioningCommand × ProvisioningDependencies) := do
  let key ← match post.idempotencyKey.filter isIdempotencyKey with
    | some key => pure key
    | none => throw (.problem .invalidRequest
        (some "Idempotency-Key is required (16-128 characters of the canonical grammar)") none
        [⟨"ERP_INVALID_PARAMETER", "missing or malformed", "Idempotency-Key"⟩] false)
  let body ← match post.body with
    | .tooLarge => throw (fail .invalidRequest "the request body is too large")
    | .notJson => throw (fail .invalidRequest "the request body is not valid JSON")
    | .json body => pure body
  let command ← match parseCommand D.runtime body with
    | .ok command => pure command
    | .error errors => throw (.problem .invalidRequest
        (some "the provisioning request is invalid") none
        (errors.map fun e => ⟨"ERP_INVALID_PARAMETER", e.2, e.1⟩) false)
  if command.tenantId ≠ post.tenantId then
    throw (fail .forbidden "tenant_id differs from the tenant of the validated context")
  match D.dependencies with
  | none => throw (unavailable "provisioning is not configured in this deployment")
  | some dependencies => pure (key, command, dependencies)

/-- `_differences`. -/
def differences (a : CpErpAssignment) (command : ProvisioningCommand) (legalEntityId : String) :
    List String :=
  ([("tenant_id", decide (a.tenantId = command.tenantId)),
    ("tenant_provisioning_id",
      decide (a.tenantProvisioningId = command.authority.tenantProvisioningId)),
    ("plan_id", decide (a.planId = command.authority.planId)),
    ("plan_version", decide (a.planVersion = command.authority.planVersion)),
    ("plan_digest", decide (a.planDigest = command.authority.planDigest)),
    ("legal_entity_id", decide (a.legalEntityId = legalEntityId))].filter fun p => !p.2).map Prod.fst

/-- Control Plane's assignment of one legal entity, or the refusal. -/
def resolveOne (command : ProvisioningCommand) (tenant legalEntityId : String) :
    Program (Except Response CpErpAssignment) :=
  tryCatch
    (do
      let a ← Call.resolveAssignment tenant command.authority.tenantProvisioningId legalEntityId
      let different := differences a command legalEntityId
      if different.isEmpty then pure (.ok a)
      else pure (.error (conflict ("the approved plan differs from the request for " ++
        legalEntityId ++ ": " ++ ", ".intercalate different) planAuthorityMismatch)))
    fun
      | .assignmentNotEstablished status code => pure (.error (conflict
          ("Control Plane has no executable approved plan for " ++ legalEntityId ++ ": " ++
            (code.filter (· ≠ "")).getD (toString status)) planAuthorityMismatch))
      | .controlPlaneUnavailable => pure (.error (unavailable
          "Control Plane's assignment could not be read; nothing was provisioned"))
      | .assignment message => pure (.error (conflict message planAuthorityMismatch))
      | x => throw x

/-- The assignments of the legal entities, in order. -/
def resolveAll (command : ProvisioningCommand) (tenant : String) :
    List String → Program (Except Response (List CpErpAssignment))
  | [] => pure (.ok [])
  | legalEntityId :: rest => do
    match ← resolveOne command tenant legalEntityId with
    | .error refusal => pure (.error refusal)
    | .ok a => do
      match ← resolveAll command tenant rest with
      | .error refusal => pure (.error refusal)
      | .ok as => pure (.ok (a :: as))

/-- Whether ERP holds exactly the baseline a reference names. -/
def isReferenced (H : Hashes) (ref : FinanceBaselineRef) (b : FinancialConfigurationBaseline) : Bool :=
  baselineIdFor H ref.legalEntityId == ref.baselineId &&
    (b.approvedAt.instant.any fun t =>
      "sha256:" ++ H.sha256 (baselineDocument b t).dumps == ref.digest) &&
    b.effectiveFrom.str == ref.effectiveFrom

/-- The baselines the references name, in the order of their legal entities. -/
def exactBaselines : List FinanceBaselineRef →
    Program (Except Response (List (String × FinancialConfigurationBaseline)))
  | [] => pure (.ok [])
  | ref :: refs => do
    let baseline ← Call.baseline ref.legalEntityId ref.version
    match baseline.filter (isReferenced D.hashes ref) with
    | none => pure (.error (conflict ("the Finance baseline reference for " ++ ref.legalEntityId ++
        " is not what ERP holds") financeBaselineMismatch))
    | some b => do
      match ← exactBaselines refs with
      | .error refusal => pure (.error refusal)
      | .ok bs => pure (.ok ((ref.legalEntityId, b) :: bs))

/-- Whether every baseline is in force. -/
def effectiveBaselines (now : Instant) :
    List (String × FinancialConfigurationBaseline) → Program (Except Response Unit)
  | [] => pure (.ok ())
  | (legalEntityId, b) :: bs => do
    if (← Call.baselineStatus b.legalEntityId b.version now) = "EFFECTIVE" then
      effectiveBaselines now bs
    else pure (.error (conflict ("the referenced Finance baseline of " ++ legalEntityId ++
      " is not effective") financeBaselineNotUsable))

/-- `PlannedEntity`, with the document of its request. -/
structure PlannedEntity where
  legalEntityId : String
  assignment : CpErpAssignment
  request : ErpProvisioningRequest
  desiredState : Json
  plan : ProvisioningPlan

/-- The request and the plan of one legal entity. -/
def planEntity (P : ProvisioningDependencies) (tenant : String) (now : Instant)
    (baselines : List (String × FinancialConfigurationBaseline)) (a : CpErpAssignment) :
    Except Exc PlannedEntity := do
  let request ← buildRequest D.hashes D.runtime P tenant a.legalEntityId a
    (baselines.lookup a.legalEntityId) now
  let plan ← buildPlan D.hashes D.runtime request
  let document ← desiredState D.runtime request
  pure ⟨a.legalEntityId, a, request, document, plan⟩

/-- The text of an exception `planEntity` is refused with. -/
def refusalText : Exc → Option String
  | .assignment message => some message
  | .invalidRequest message => some message
  | .notImplemented message => some message
  | _ => none

/-- The planned entities, or the refusal. -/
def planAll (P : ProvisioningDependencies) (tenant : String) (now : Instant)
    (baselines : List (String × FinancialConfigurationBaseline)) :
    List CpErpAssignment → Except Exc (Except Response (List PlannedEntity))
  | [] => .ok (.ok [])
  | a :: as =>
    match planEntity D P tenant now baselines a with
    | .error x => match refusalText x with
      | some message => .ok (.error (fail .conflict
          (a.legalEntityId ++ " cannot be provisioned yet: " ++ message)))
      | none => .error x
    | .ok entity => match planAll P tenant now baselines as with
      | .error x => .error x
      | .ok (.error refusal) => .ok (.error refusal)
      | .ok (.ok entities) => .ok (.ok (entity :: entities))

/-! ### `accept` -/

/-- `json.dumps([{"key": …, "kind": …, "payload": …}, …])`. -/
def planDocument (steps : List ProvisioningStep) : Json :=
  .arr (steps.map fun s => .obj [("key", .str s.key), ("kind", .str s.kind.value),
    ("payload", .obj s.payload)])

/-- The row of a planned operation. -/
def operationRow (entity : PlannedEntity) (key : String) (d : Defaults) : OperationRow :=
  { idempotencyKey := key, desiredState := entity.desiredState
    desiredStateDigest := some entity.plan.desiredStateDigest
    plan := planDocument entity.plan.steps, status := .planned, createdAt := d.now }

/-- The operations of the entities. -/
def insertOperations : List PlannedEntity → Program Unit
  | [] => pure ()
  | entity :: entities => do
    match entity.request.provisioningId, entity.request.idempotencyKey with
    | .str pid, .str key => do
      let _ ← Call.sql (.insert (.operation pid) (operationRow entity key))
      insertOperations entities
    | _, _ => throw (.other "ProgrammingError")

/-- The links from the command to its operations. -/
def insertEntities (op : String) : List PlannedEntity → Program Unit
  | [] => pure ()
  | entity :: entities => do
    match entity.request.provisioningId with
    | .str pid => do
      let _ ← Call.sql (.insert (.commandEntity op entity.legalEntityId) fun _ => pid)
      insertEntities op entities
    | _ => throw (.other "ProgrammingError")

/-- The row of an accepted command. -/
def commandRow (command : ProvisioningCommand) (key principal fingerprint : String) (d : Defaults) :
    CommandRow :=
  { tenantId := command.tenantId, idempotencyKey := key, principal, requestFingerprint := fingerprint
    tenantProvisioningId := command.authority.tenantProvisioningId
    planId := command.authority.planId, planVersion := command.authority.planVersion
    planDigest := command.authority.planDigest, legalEntityIds := sorted command.legalEntityIds
    updatedAt := d.now }

/-- `accept`. -/
def accept (command : ProvisioningCommand) (key principal fingerprint : String)
    (entities : List PlannedEntity) : Program (String × CommandRow) := do
  let op ← Call.uuid4
  insertOperations entities
  let row : CommandRow ←
    Call.sql (.insert (.command op) (commandRow command key principal fingerprint))
  insertEntities op entities
  CommandStore.announce D op row
  pure (op, row)

/-! ### `request_provisioning` -/

/-- Steps 1 to 4: the entities the request provisions, or the refusal. -/
def plan (P : ProvisioningDependencies) (tenant : String) (command : ProvisioningCommand) :
    Program (Except Response (List PlannedEntity)) := do
  match ← resolveAll command tenant (sorted command.legalEntityIds) with
  | .error refusal => pure (.error refusal)
  | .ok assignments => do
    let approved := (assignments.map CpErpAssignment.markets).flatten.map CpMarketAssignment.market
    if Json.sortedTexts approved ≠ Json.sortedTexts command.requestedCountries then
      pure (.error (conflict "requested_countries differ from the markets of the approved plan"
        planAuthorityMismatch))
    else do
      let now ← Call.now
      let referenced := command.financeBaselines.map FinanceBaselineRef.legalEntityId
      if Json.sortedTexts referenced ≠ Json.sortedTexts command.legalEntityIds then
        pure (.error (conflict ("finance_baselines must reference exactly the requested legal " ++
          "entities, one each") financeBaselineMismatch))
      else
        match ← exactBaselines D (command.financeBaselines.insertionSort
            fun r s => r.legalEntityId ≤ s.legalEntityId) with
        | .error refusal => pure (.error refusal)
        | .ok baselines =>
          match ← effectiveBaselines now baselines with
          | .error refusal => pure (.error refusal)
          | .ok () =>
            match ← orRaise (planAll D P tenant now baselines assignments) with
            | .error refusal => pure (.error refusal)
            | .ok entities =>
              let currencies := entities.map fun e =>
                OrderExecution.textOf e.request.accounting.functionalCurrency
              if Json.sortedTexts currencies ≠ Json.sortedTexts command.functionalCurrencies then
                pure (.error (conflict
                  "functional_currencies differ from the Finance-approved baselines"
                  planAuthorityMismatch))
              else pure (.ok entities)

/-- `_state(record)` with its status. -/
def accepted (op : String) (row : CommandRow) : Response :=
  .state op (CommandEvents.stateDocument op row)

/-- Step 5. -/
def acceptOnce (command : ProvisioningCommand) (key principal fingerprint : String)
    (entities : List PlannedEntity) : Program Response :=
  tryCatch
    (do
      let (op, row) ← accept D command key principal fingerprint entities
      pure (accepted op row))
    fun
      | .uniqueViolation => do
        Call.rollback
        pure (fail .conflict ("a legal entity of this request is already being provisioned under " ++
          "this approved plan by another command"))
      | x => throw x

/-- `request_provisioning` once the request is admitted; its turn comes with the lock. -/
def requestAdmitted (post : Post) (key : String) (command : ProvisioningCommand)
    (P : ProvisioningDependencies) : Program Response := do
  let fingerprint := command.fingerprint D.hashes post.principal
  CommandStore.lockScope post.tenantId key
  Call.receive post.tenantId key
  match ← CommandStore.find post.tenantId key with
  | some (op, row) =>
    if row.requestFingerprint ≠ fingerprint then
      pure (conflict "this Idempotency-Key was used for a different request" idempotencyKeyReused)
    else pure (accepted op row)
  | none => do
    match ← plan D P post.tenantId command with
    | .error refusal => pure refusal
    | .ok entities => acceptOnce D command key post.principal fingerprint entities

/-- `request_provisioning`. -/
def requestProvisioning (post : Post) : Program Response :=
  match admission D post with
  | .error refusal => pure refusal
  | .ok (key, command, P) => requestAdmitted D post key command P

/-- The fingerprint of an admitted request. -/
def fingerprintOf (post : Post) : Option String :=
  match admission D post with
  | .error _ => none
  | .ok (_, command, _) => some (command.fingerprint D.hashes post.principal)

/-- What the server does with a request: the handler inside a connection block,
which commits or rolls back, and only then the answer. -/
def serve (post : Post) : Program Unit := do
  let key := post.idempotencyKey.getD ""
  Call.receive post.tenantId key
  let response ← tryCatch
    (do
      let response ← requestProvisioning D post
      Call.commit
      pure response)
    fun _ => do
      tryCatch Call.rollback fun _ => pure ()
      pure (.problem .internal none none [] false)
  Call.answer post.tenantId key (fingerprintOf D post) response

end AcceptOperation

end Provisioning
end BaobabErp
