/-
# The rules of inbox execution: outcomes, retry and block budgets

`modules/order_to_cash/execution_policy.py`: how a claimed row can end, when a
retry or a block becomes a dead letter, and the public identifier of an order.
Pure: the executors apply these rules to the rows of `baobab.event_inbox`.
-/

import BaobabErp.Events.CloudEvent
import Mathlib.Algebra.Group.Int.Defs

namespace BaobabErp

open Python (Instant)

/-- The status column of `baobab.event_inbox` (migrations 0005 and 0019). -/
inductive InboxStatus
  | received
  | processing
  | retry
  | blocked
  | processed
  | failed
  | deadLetter
deriving DecidableEq, Repr

namespace ExecutionPolicy

def orderPlaced : String := "com.baobab-platform.trade.order.placed.v1"
def maxAttempts : Nat := 24
def retryBaseSeconds : Int := 30
def retryCeilingSeconds : Int := 3600
/-- A tenant mapping at AD_Org 0 spans every organisation of its AD_Client. -/
def allOrganizationsAdOrgId : Int := 0
def contentionDelaySeconds : Int := 5
def blockedDelaySeconds : Int := 900
def blockedHorizon : Int := Python.hours 72

def namespaceId : String := "b0b2c7a1-3d6e-5c41-8f0a-6d1e9a4c2b77"

def customerKind : String := "business_partner"
def productKind : String := "product"

/-- How a claimed row ended. -/
structure Outcome where
  status : InboxStatus
  code : String
  detail : String := ""
  delaySeconds : Option Int := none
  refundAttempt : Bool := false
deriving DecidableEq, Repr

/-- The part of a UUID's text without its hyphens (`uuid.hex`). -/
def hexOf (uuid : String) : String := String.ofList (uuid.toList.filter (· != '-'))

/-- `erp_order_id`: the public ERP identifier of the order. -/
def erpOrderId (H : Hashes) (tenantId commerceOrderId : String) : String :=
  "erp_" ++ hexOf (H.uuid5 namespaceId ("order|" ++ tenantId ++ "|" ++ commerceOrderId))

/-- 30 s doubling with every attempt, to a ceiling of one hour. -/
def retryDelaySeconds (attempts : Nat) : Int :=
  min (retryBaseSeconds * 2 ^ (attempts - 1)) retryCeilingSeconds

/-- Applies the budgets: a retry past `maxAttempts` and a block past its horizon
become dead letters. -/
def failureOutcome (outcome : Outcome) (attempts : Nat) (receivedAt now : Instant) : Outcome :=
  if outcome.status = .retry ∧ attempts ≥ maxAttempts then
    { status := .deadLetter, code := "ATTEMPTS_EXHAUSTED", detail := outcome.code }
  else if outcome.status = .blocked ∧ now - receivedAt > blockedHorizon then
    { status := .deadLetter, code := "BLOCKED_HORIZON_EXCEEDED", detail := outcome.code }
  else if outcome.status = .retry ∧ outcome.delaySeconds = none then
    { status := .retry, code := outcome.code, detail := outcome.detail,
      delaySeconds := some (retryDelaySeconds attempts) }
  else if outcome.status = .blocked then
    { status := .blocked, code := outcome.code, detail := outcome.detail,
      delaySeconds := some blockedDelaySeconds }
  else outcome

/-- The budgets never turn a failure into a success. -/
theorem failureOutcome_processed {o : Outcome} {attempts : Nat} {receivedAt now : Instant} :
    (failureOutcome o attempts receivedAt now).status = .processed ↔ o.status = .processed := by
  unfold failureOutcome
  split_ifs with h₁ h₂ h₃ h₄ <;> simp_all

/-- Only a retry or a block that carried a refund still carries it. -/
theorem failureOutcome_refund {o : Outcome} {attempts : Nat} {receivedAt now : Instant}
    (h : (failureOutcome o attempts receivedAt now).refundAttempt = true) :
    failureOutcome o attempts receivedAt now = o := by
  unfold failureOutcome at h ⊢
  split_ifs at h ⊢ <;> rfl

end ExecutionPolicy

end BaobabErp
