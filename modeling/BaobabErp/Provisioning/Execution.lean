/-
# Executing accepted operations

`modules/provisioning/execution.py`, `execution_store.py` and
`modules/application/provisioning_worker.py`.  A worker takes every due operation
in turn, under a lock on its id: it reads the operation back, proves that it is
still what was approved (`prepare`), applies the steps that are not completed,
and records how the pass ended.
-/

import BaobabErp.Provisioning.RequestState
import BaobabErp.Provisioning.WarehouseIdentity

namespace BaobabErp
namespace Provisioning

open Python Concurrency

namespace Execution

/-! ### Outcomes -/

inductive OutcomeStatus
  | ready
  | retry
  | blocked
  | failed
deriving DecidableEq, Repr

/-- `Outcome`. -/
structure Outcome where
  status : OutcomeStatus
  code : String
  detail : String := ""
  delaySeconds : Option Int := none
deriving DecidableEq, Repr

/-- `classify`. -/
def classify : Exc → Outcome
  | .stateUnreadable => { status := .failed, code := "STATE_UNREADABLE" }
  | .stateDrift => { status := .failed, code := "STATE_DRIFT" }
  | .engineUnconfigured => { status := .blocked, code := "ENGINE_UNCONFIGURED" }
  | .processUnconfigured => { status := .blocked, code := "PROCESS_UNCONFIGURED" }
  | .authentication => { status := .blocked, code := "ENGINE_AUTH" }
  | .api status =>
    let detail := "HTTP " ++ toString status
    if 500 ≤ status ∨ status = 408 ∨ status = 425 ∨ status = 429 then
      { status := .retry, code := "ENGINE_UNAVAILABLE", detail }
    else { status := .failed, code := "ENGINE_REJECTED", detail }
  | .client => { status := .retry, code := "ENGINE_UNAVAILABLE" }
  | .duplicateNativeRecords => { status := .failed, code := "DUPLICATE_NATIVE_RECORDS" }
  | .mappingConflict => { status := .failed, code := "TENANT_MAPPING_CONFLICT" }
  | .warehouseIdentityConflict => { status := .failed, code := "WAREHOUSE_IDENTITY_CONFLICT" }
  | .invalidRequest _ =>
    { status := .failed, code := "STEP_INVALID", detail := "InvalidProvisioningRequestError" }
  | .assignment _ => { status := .failed, code := "STEP_INVALID", detail := "AssignmentError" }
  | .envelope _ => { status := .failed, code := "STEP_INVALID", detail := "EnvelopeError" }
  | .value name => { status := .failed, code := "STEP_INVALID", detail := name }
  | .assignmentNotEstablished _ _ =>
    { status := .failed, code := "STEP_INVALID", detail := "AssignmentNotEstablished" }
  | .controlPlaneUnavailable =>
    { status := .retry, code := "UNEXPECTED_ERROR", detail := "ControlPlaneUnavailable" }
  | .notImplemented _ =>
    { status := .retry, code := "UNEXPECTED_ERROR", detail := "NotImplementedError" }
  | .uniqueViolation => { status := .retry, code := "UNEXPECTED_ERROR", detail := "UniqueViolation" }
  | .foreignKeyViolation =>
    { status := .retry, code := "UNEXPECTED_ERROR", detail := "ForeignKeyViolation" }
  | .checkViolation => { status := .retry, code := "UNEXPECTED_ERROR", detail := "CheckViolation" }
  | .database => { status := .retry, code := "UNEXPECTED_ERROR", detail := "OperationalError" }
  | .other name => { status := .retry, code := "UNEXPECTED_ERROR", detail := name }

def maxAttempts : Nat := 24

def blockedDelaySeconds : Int := 900

def blockedHorizon : Int := hours 72

/-- `apply_budgets`. -/
def applyBudgets (outcome : Outcome) (attempts : Nat) (createdAt now : Instant) : Outcome :=
  match outcome.status with
  | .retry =>
    if maxAttempts ≤ attempts then
      { status := .failed, code := "ATTEMPTS_EXHAUSTED", detail := outcome.code }
    else { outcome with delaySeconds := some (ExecutionPolicy.retryDelaySeconds attempts) }
  | .blocked =>
    if blockedHorizon < now - createdAt then
      { status := .failed, code := "BLOCKED_HORIZON_EXCEEDED", detail := outcome.code }
    else { outcome with delaySeconds := some blockedDelaySeconds }
  | _ => outcome

/-! ### Only what was approved runs -/

/-- `LoadedOperation`. -/
structure LoadedOperation where
  provisioningId : String
  state : Json
  digest : Option String
  plan : List Json
  status : ProvisioningStatus
  attempts : Nat
  createdAt : Instant

/-- One stored step; the inner `none` is a step no plan has (a key that is no
text, or a payload with one). -/
def storedStep (row : Json) : Except Exc (Option ProvisioningStep) := do
  let key ← raised (row.subscript "key")
  let kind ← StepKind.ofJson (← raised (row.subscript "kind"))
  let payload ← raised (Json.dict (← raised (row.subscript "payload")))
  match key, payload with
  | .str key, some payload => pure (some ⟨key, kind, payload⟩)
  | _, _ => pure none

/-- `step == other`. -/
def sameStep (R : Runtime) (step other : ProvisioningStep) : Bool :=
  step.key == other.key && step.kind == other.kind &&
    Json.equal R (.obj step.payload) (.obj other.payload)

/-- `steps == other`, of two tuples. -/
def sameSteps (R : Runtime) : List ProvisioningStep → List ProvisioningStep → Bool
  | [], [] => true
  | s :: ss, t :: ts => sameStep R s t && sameSteps R ss ts
  | _, _ => false

/-- The stored steps, proven to be the plan of the request. -/
def approvedSteps (H : Hashes) (R : Runtime) (request : ErpProvisioningRequest) (rows : List Json) :
    Except Exc (List ProvisioningStep) := do
  let stored ← rows.mapM storedStep
  let plan ← buildPlan H R request
  match stored.mapM id with
  | some steps => if sameSteps R steps plan.steps then pure steps else throw .stateDrift
  | none => throw .stateDrift

/-- `engine_for`. -/
def engineFor (D : ProvisioningDeployment) (engineInstance : Json) : Except Exc (Option Session) :=
  if engineInstance.hashable then .ok (engineInstance.str?.bind D.credentials)
  else .error (.other "TypeError")

/-- What `_run` does before its first step: the request, the engine session and
the steps with their process ids. -/
def prepare (D : ProvisioningDeployment) (state : Json) (digest : Option String) (plan : List Json) :
    Except Exc (ErpProvisioningRequest × Session × List ProvisioningStep) := do
  let request ← verifiedRequest D.hashes D.runtime state digest
  let steps ← approvedSteps D.hashes D.runtime request plan
  match ← engineFor D request.engineInstanceId with
  | none => throw .engineUnconfigured
  | some σ => do
    let runnable ← steps.mapM (enrichStep D.processes)
    pure (request, σ, runnable)

/-! ### One pass -/

variable (D : ProvisioningDeployment)

/-- `countries[market_id]`. -/
def countryOf (request : ErpProvisioningRequest) (marketId : Json) : Program Json :=
  match request.markets.reverse.find? fun m => m.marketId.equal D.runtime marketId with
  | some m => pure m.countryCode
  | none => throw (.other "KeyError")

/-- The body of `_register_warehouses` for one warehouse step. -/
def registerWarehouse (request : ErpProvisioningRequest) (step : ProvisioningStep) :
    Program Unit := do
  let pid ← textParam request.provisioningId
  match ← NativeMappings.getNativeId pid (IdempiereAdapter.resourceKey step) with
  | none => pure ()
  | some nativeId => do
    let code ← payloadItem step "warehouse_code"
    let country ← countryOf D request (← payloadItem step "market_id")
    let timezone ← match Json.get step.payload "timezone" with
      | .null => pure none
      | value => do pure (some (← textParam value))
    let now ← Call.now
    WarehouseIdentity.record D
      { tenantId := ← textParam request.tenantId, legalEntityId := ← textParam request.legalEntityId
        code := ← textParam code, name := ← textParam code, country := ← textParam country
        timezone, status := "active"
        engineInstanceId := ← textParam request.engineInstanceId, nativeId } now

/-- `_register_warehouses`. -/
def registerWarehouses (request : ErpProvisioningRequest) : List ProvisioningStep → Program Unit
  | [] => pure ()
  | step :: steps => do
    if step.kind = .createWarehouse then registerWarehouse D request step
    registerWarehouses request steps

/-- Applies the steps in order, recording each. -/
def applySteps (σ : Session) (request : ErpProvisioningRequest) (pid : String) :
    List ProvisioningStep → Program Unit
  | [] => pure ()
  | step :: steps => do
    let result ← IdempiereAdapter.apply D σ request step
    ProvisioningStore.markStep pid step.key "completed" result
    applySteps σ request pid steps

/-- The checks of the steps, in order. -/
def checkSteps (σ : Session) (request : ErpProvisioningRequest) :
    List ProvisioningStep → Program (List ReadinessCheck)
  | [] => pure []
  | step :: steps => do
    let check ← IdempiereAdapter.check D σ request step
    return check :: (← checkSteps σ request steps)

/-- The codes of the checks that fail, as the detail of an outcome. -/
def failingText (checks : List ReadinessCheck) : String :=
  String.ofList ((",".intercalate (sorted ((checks.filter fun c => !c.ready).map
    ReadinessCheck.code))).toList.take 200)

/-- `_run` after its preparation. -/
def runPrepared (operation : LoadedOperation) (request : ErpProvisioningRequest) (σ : Session)
    (runnable : List ProvisioningStep) : Program Outcome := do
  let done ← ProvisioningStore.completedSteps operation.provisioningId
  let pending := runnable.filter fun step => !done.contains step.key
  if !pending.isEmpty && operation.status != .applying then
    ProvisioningStore.setStatus D operation.provisioningId .applying none
  applySteps D σ request operation.provisioningId pending
  registerWarehouses D request runnable
  if operation.status != .reconciling then
    ProvisioningStore.setStatus D operation.provisioningId .reconciling none
  let own ← orRaise (validateRequest D.runtime request)
  let checks ← checkSteps D σ request runnable
  if (own ++ checks).all ReadinessCheck.ready then
    ProvisioningStore.setStatus D operation.provisioningId .ready none
    pure { status := .ready, code := "READY" }
  else
    pure { status := .retry, code := "NOT_READY", detail := failingText (own ++ checks) }

/-- `_run`. -/
def runOperation (operation : LoadedOperation) : Program Outcome := do
  let (request, σ, runnable) ← orRaise (prepare D operation.state operation.digest operation.plan)
  runPrepared D operation request σ runnable

/-- `run`: whatever goes wrong becomes an outcome. -/
def run (operation : LoadedOperation) : Program Outcome :=
  tryCatch (runOperation D operation) fun x => pure (classify x)

/-! ### The queue -/

/-- `_LOCK_SEED`. -/
def lockSeed : Int := 19

/-- `tuple(plan or ())`. -/
def planRows (R : Runtime) (plan : Json) : Except Exc (List Json) :=
  if plan.truthy R then raised plan.iterate else .ok []

/-- `begin`. -/
def begin (pid : String) : Program (Option LoadedOperation) := do
  let row ← Call.sql (.begin pid)
  Call.commit
  match row with
  | none => pure none
  | some row => do
    let plan ← orRaise (planRows D.runtime row.plan)
    pure (some { provisioningId := pid, state := row.desiredState, digest := row.desiredStateDigest
                 plan, status := row.status, attempts := row.attempts, createdAt := row.createdAt })

/-- The `UPDATE` of `_record`. -/
def recorded (code : String) (delaySeconds : Option Int) (lastError : Option String) (refund : Bool)
    (d : Defaults) (row : OperationRow) : Option OperationRow :=
  some { row with
    outcomeCode := some code
    nextAttemptAt := delaySeconds.map fun n => d.now + seconds n
    attempts := if refund then row.attempts - 1 else row.attempts
    lastError := lastError.or row.lastError }

/-- `_record`. -/
def record (pid code : String) (delaySeconds : Option Int) (lastError : Option String)
    (refund : Bool) : Program Unit := do
  let _ ← Call.sql (.update (.operation pid) (recorded code delaySeconds lastError refund))
  Call.commit

/-- `f"{code}: {detail}".rstrip(": ")`. -/
def errorText (outcome : Outcome) : String :=
  String.ofList (((outcome.code ++ ": " ++ outcome.detail).toList.reverse.dropWhile
    fun c => c == ':' || c == ' ').reverse)

/-- `settle`. -/
def settle (operation : LoadedOperation) (outcome : Outcome) (now : Instant) : Program Outcome := do
  Call.rollback
  let outcome := applyBudgets outcome operation.attempts operation.createdAt now
  match outcome.status with
  | .failed => do
    ProvisioningStore.setStatus D operation.provisioningId .failed (some (errorText outcome))
    record operation.provisioningId outcome.code none none false
  | .ready => record operation.provisioningId outcome.code none none false
  | .retry | .blocked => do
    let delay := outcome.delaySeconds.getD 0
    record operation.provisioningId outcome.code (some delay) (some (errorText outcome))
      (outcome.status == .blocked)
  pure outcome

/-- `unlock`. -/
def unlock (pid : String) : Program Unit := do
  Call.unlock pid lockSeed
  Call.commit

/-- What `run_once` does with one due operation. -/
def attempt (pid : String) : Program Unit := do
  if ← Call.tryLock pid lockSeed then
    Prog.ensure
      (do
        match ← begin D pid with
        | none => pure ()
        | some operation => do
          let outcome ← run D operation
          let now ← Call.now
          let _ ← settle D operation outcome now
          pure ())
      (unlock pid)

def attempts : List String → Program Unit
  | [] => pure ()
  | pid :: pids => do
    attempt D pid
    attempts pids

/-- `run_once`, without its report. -/
def runOnce (limit : Nat) : Program Unit := do
  let ids ← Call.sql (.due limit)
  Call.commit
  attempts D ids

end Execution

end Provisioning
end BaobabErp
