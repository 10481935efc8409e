/-
# The interpretation rules of the order-consequence read model

`modules/order_to_cash/consequence.py`: what the facts ERP observed about an
order establish, and the contract document a record is published as.

The rules are order-theoretic: more facts never take a status back
(`derive_mono`), and nothing but the set of facts matters.
-/

import BaobabErp.Events.CloudEvent
import Mathlib.Order.Basic

namespace BaobabErp

open Python

namespace Consequence

inductive Status
  | accepted
  | processing
  | posted
  | needsReview
  | rejected
  | compensated
deriving DecidableEq, Repr

inductive AccountingStatus
  | notApplicable
  | pending
  | posted
  | needsReview
  | failed
deriving DecidableEq, Repr

inductive InventoryStatus
  | notApplicable
  | pending
  | allocated
  | backordered
  | fulfilled
  | needsReview
  | failed
deriving DecidableEq, Repr

def Status.text : Status → String
  | accepted => "accepted"
  | processing => "processing"
  | posted => "posted"
  | needsReview => "needs_review"
  | rejected => "rejected"
  | compensated => "compensated"

def AccountingStatus.text : AccountingStatus → String
  | notApplicable => "not_applicable"
  | pending => "pending"
  | posted => "posted"
  | needsReview => "needs_review"
  | failed => "failed"

def InventoryStatus.text : InventoryStatus → String
  | notApplicable => "not_applicable"
  | pending => "pending"
  | allocated => "allocated"
  | backordered => "backordered"
  | fulfilled => "fulfilled"
  | needsReview => "needs_review"
  | failed => "failed"

/-- What ERP can observe about an order. -/
inductive Fact
  | orderCompleted
  | shipmentCompleted
  | invoicePosted
deriving DecidableEq, Repr

structure Facts where
  orderCompleted : Bool := false
  shipmentCompleted : Bool := false
  invoicePosted : Bool := false
deriving DecidableEq, Repr

structure Derived where
  status : Status
  accountingStatus : AccountingStatus
  inventoryStatus : InventoryStatus
deriving DecidableEq, Repr

def derive (facts : Facts) : Derived :=
  let accounting : AccountingStatus := if facts.invoicePosted then .posted else .pending
  let inventory : InventoryStatus := if facts.shipmentCompleted then .fulfilled else .pending
  let status : Status :=
    if accounting = .posted ∧ inventory = .fulfilled then .posted
    else if facts.orderCompleted || facts.shipmentCompleted || facts.invoicePosted then .processing
    else .accepted
  ⟨status, accounting, inventory⟩

/-- How far along an order is: accepted, processing, posted.  A status no fact
establishes has no place in the order and counts as the start. -/
def Status.rank : Status → Nat
  | processing => 1
  | posted => 2
  | _ => 0

/-- `b` holds every fact `a` holds. -/
def Facts.Le (a b : Facts) : Prop :=
  (a.orderCompleted → b.orderCompleted) ∧ (a.shipmentCompleted → b.shipmentCompleted) ∧
    (a.invoicePosted → b.invoicePosted)

/-- **More facts never take the status back.** -/
theorem derive_mono {a b : Facts} (h : a.Le b) :
    (derive a).status.rank ≤ (derive b).status.rank := by
  obtain ⟨ao, as, ai⟩ := a
  obtain ⟨bo, bs, bi⟩ := b
  revert h
  unfold Facts.Le
  revert ao as ai bo bs bi
  decide

/-- The record as `PostgresOrderConsequenceStore.get` returns it. -/
structure OrderConsequence where
  tenantId : String
  commerceOrderId : String
  legalEntityId : String
  orderVersion : Int
  erpOrderId : String
  status : Status
  accountingStatus : AccountingStatus
  inventoryStatus : InventoryStatus
  revision : Nat
  updatedAt : Instant
  invoiceId : Option String := none
  exceptionCode : Option String := none

/-- `to_contract`. -/
def OrderConsequence.toContract (r : OrderConsequence) : Json :=
  .obj <|
    [("legal_entity_id", .str r.legalEntityId), ("commerce_order_id", .str r.commerceOrderId),
     ("order_version", .int r.orderVersion), ("erp_order_id", .str r.erpOrderId),
     ("status", .str r.status.text), ("accounting_status", .str r.accountingStatus.text),
     ("inventory_status", .str r.inventoryStatus.text), ("revision", .int r.revision),
     ("updated_at", .str (isoformat r.updatedAt))] ++
    (match r.invoiceId with
      | some invoice => [("invoice_id", .str invoice)]
      | none => []) ++
    (match r.exceptionCode with
      | some code => [("exception_code", .str code)]
      | none => [])

end Consequence

end BaobabErp
