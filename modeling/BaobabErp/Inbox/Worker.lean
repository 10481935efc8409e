/-
# Inbox workers

`modules/application/inbox_worker.py`: one pass of a worker claims due customer
rows and then due order rows, up to a limit of each, and runs each to an
outcome.  `machine` is any number of such workers over one platform, each with a
`worker_id` of its own; a worker may end at any point of its program.
-/

import BaobabErp.Customers.ProjectionExecution
import BaobabErp.Platform.Machine

namespace BaobabErp
namespace InboxWorker

open Concurrency ExecutionPolicy

/-- The arguments of a run of the worker. -/
structure Launch where
  limit : Nat
  leaseSeconds : Int
  /-- Whether the composition gives `run_once` an `authority_for`. -/
  governed : Bool

/-- `authority_for(claim)`; a lookup that fails is no authority. -/
def authority (governed : Bool) (claim : Claim) : Program (Option InboxNativeAuthority) :=
  if governed then tryCatch (Call.authorityFor claim) fun _ => pure none else pure none

/-- The body of the loop of `run_once` for one claimed row. -/
def runClaim (D : Deployment) (governed : Bool) (eventType : String) (claim : Claim) :
    Program Outcome :=
  if eventType = orderPlaced then do
    let authority ← authority governed claim
    OrderExecution.runClaim D claim authority
  else
    CustomerExecution.runClaim D claim

/-- The inner loop of `run_once`: up to `limit` rows of one event type. -/
def claimLoop (D : Deployment) (launch : Launch) (eventType : String) : Nat →
    Program (List Outcome)
  | 0 => pure []
  | n + 1 => do
    match ← Call.claim eventType launch.leaseSeconds with
    | none => pure []
    | some claim =>
      let outcome ← runClaim D launch.governed eventType claim
      let rest ← claimLoop D launch eventType n
      pure (outcome :: rest)

/-- `run_once`, customers first; the outcomes its report counts. -/
def runOnce (D : Deployment) (launch : Launch) : Program (List Outcome) := do
  let customers ← claimLoop D launch CustomerExecution.customerProjected launch.limit
  let orders ← claimLoop D launch orderPlaced launch.limit
  pure (customers ++ orders)

/-- `main`: the connection commits at a normal end and rolls back otherwise. -/
def main (D : Deployment) (launch : Launch) : Program Unit :=
  (runOnce D launch).handle fun
    | .ok _ => Call.commit
    | .error x => do
      Call.rollback
      throw x

/-- **Any number of inbox workers over one platform.** -/
abbrev machine (D : Deployment) : Machine := platform D (main D)

end InboxWorker
end BaobabErp
