/-
# What every inbox executor needs

`modules/inbox/postgres_queue.py` and `modules/inbox/execution_support.py`:
claiming and settling a row, the tenant's engine placement and master-data
mappings, the per-key session lock, engine failures as outcomes, and `settle`,
which runs one attempt and records how it ended.
-/

import BaobabErp.Platform.World

namespace BaobabErp
namespace Inbox

open Python Concurrency ExecutionPolicy

/-- `dead(code, detail)`. -/
def dead (code detail : String) : Exc := .stop { status := .deadLetter, code, detail }

/-- `blocked(code, detail)`. -/
def blocked (code detail : String) : Exc := .stop { status := .blocked, code, detail }

/-- `engine_errors`: a request the engine refuses is a dead letter, an engine that
is down or erroring is retried.  Every other exception passes. -/
def engineFailure : Exc → Exc
  | .api status =>
    if status = 400 ∨ status = 422 then dead "ENGINE_REJECTED" ("HTTP " ++ toString status)
    else .stop { status := .retry, code := "ENGINE_UNAVAILABLE",
                 detail := "HTTP " ++ toString status }
  | .client => .stop { status := .retry, code := "ENGINE_UNAVAILABLE",
                       detail := "the engine could not be reached" }
  | x => x

def engineErrors {α : Type} (body : Program α) : Program α :=
  tryCatch body fun x => throw (engineFailure x)

/-- The value of a parse, or the dead letter of its `PayloadError`. -/
def parsed {α : Type} : Except String α → Program α
  | .ok a => pure a
  | .error reason => throw (dead "PAYLOAD_INVALID" reason)

/-! ### `PostgresMasterData` -/

/-- `target`: the active placement of the tenant and legal entity. -/
def target (tenantId legalEntityId : String) : Program (Option TenantMappingRow) :=
  Call.select (.tenantMapping tenantId legalEntityId)

/-- `native`. -/
def native (engineInstanceId legalEntityId kind canonicalId : String) : Program (Option Int) := do
  let row ← Call.select (.masterData engineInstanceId legalEntityId kind canonicalId)
  pure (row.map MasterDataRow.nativeId)

/-! ### `AdvisoryLock` -/

/-- `AdvisoryLock.__exit__`: an aborted transaction could not run the unlock. -/
def unlockIf (held : Bool) (key : String) : Program Unit :=
  if held then do
    Call.rollback
    Call.unlock key
    Call.commit
  else
    pure ()

/-- `with AdvisoryLock(connection, key) as lock: body(lock.held)`. -/
def withLock {α : Type} (key : String) (body : Bool → Program α) : Program α := do
  let held ← Call.tryLock key
  Call.commit
  (body held).ensure (unlockIf held key)

/-- `try: body … except BaseException: rollback; raise`. -/
def orRollback {α : Type} (body : Program α) : Program α :=
  tryCatch body fun x => do
    Call.rollback
    throw x

/-! ### `PostgresInboxQueue` -/

/-- `_settle`. -/
def settleRow (claim : Claim) (s : Settlement) : Program Unit := do
  let rowcount ← Call.settle claim s
  if rowcount = 1 then pure () else throw .leaseLost

/-- `processed`. -/
def processed (claim : Claim) (code : String) : Program Unit :=
  settleRow claim ⟨.processed, code, none, none, false⟩

/-- `error[:500]`. -/
def truncated (error : String) : String := String.ofList (error.toList.take 500)

/-- `release`. -/
def release (claim : Claim) (status : InboxStatus) (code error : String)
    (nextAttemptAt : Option Instant) (refundAttempt : Bool) : Program Unit :=
  if status = .retry ∨ status = .blocked ∨ status = .deadLetter then
    settleRow claim ⟨status, code, some (truncated error), nextAttemptAt, refundAttempt⟩
  else
    throw (.value "not a release status")

/-- `now() + timedelta(seconds=delay)`, when there is a delay. -/
def nextAttempt (delaySeconds : Option Int) : Program (Option Instant) :=
  match delaySeconds with
  | none => pure none
  | some delay => do
    let now ← Call.now
    pure (some (now + seconds delay))

/-- `execute()`, with the outcome a `Stop` carries. -/
def outcomeOf (execute : Program Outcome) : Program Outcome :=
  tryCatch execute fun
    | .stop outcome => pure outcome
    | x => throw x

/-- The settlement of an outcome the attempt did not settle itself. -/
def settleOutcome (claim : Claim) (outcome : Outcome) : Program Outcome := do
  let now ← Call.now
  let outcome := failureOutcome outcome claim.attempts claim.receivedAt now
  Call.rollback
  if outcome.status = .processed then
    processed claim outcome.code
  else
    let next ← nextAttempt outcome.delaySeconds
    release claim outcome.status outcome.code outcome.detail next outcome.refundAttempt
  Call.commit
  pure outcome

/-- What `settle` does with an exception that is no outcome. -/
def settleException (claim : Claim) : Exc → Program Outcome
  | .leaseLost => do
    Call.rollback
    pure { status := .retry, code := "LEASE_LOST", detail := "another worker holds the row now" }
  | x => do
    Call.rollback
    let now ← Call.now
    let outcome := failureOutcome
      { status := .retry, code := "UNEXPECTED_ERROR", detail := x.typeName }
      claim.attempts claim.receivedAt now
    tryCatch (do
      let next ← nextAttempt outcome.delaySeconds
      release claim outcome.status outcome.code outcome.detail next false
      Call.commit) fun _ => Call.rollback
    pure outcome

/-- `settle`: runs one attempt for a claimed row and settles it. -/
def settle (claim : Claim) (execute : Program Outcome) (settledInAttempt : List String) :
    Program Outcome :=
  tryCatch (do
    let outcome ← outcomeOf execute
    if outcome.status = .processed ∧ outcome.code ∈ settledInAttempt then pure outcome
    else settleOutcome claim outcome) (settleException claim)

end Inbox
end BaobabErp
