/-
# The order-consequence store and the event that announces its changes

`modules/order_to_cash/consequence_store.py` and `consequence_events.py`.  Every
write belongs to the caller's transaction; the event id is derived from the
tenant, the order and the revision, so a revision is announced once.
-/

import BaobabErp.Outbox.RecordEvent

namespace BaobabErp
namespace Consequence

open Python Concurrency

/-- The record of a row. -/
def recordOf (tenantId commerceOrderId : String) (row : ConsequenceRow) : OrderConsequence :=
  { tenantId, commerceOrderId, legalEntityId := row.legalEntityId,
    orderVersion := row.orderVersion, erpOrderId := row.erpOrderId, status := row.status,
    accountingStatus := row.accountingStatus, inventoryStatus := row.inventoryStatus,
    revision := row.revision, updatedAt := row.updatedAt, invoiceId := row.invoiceId,
    exceptionCode := row.exceptionCode }

/-- The facts a row records. -/
def factsOf (row : ConsequenceRow) : Facts :=
  ⟨row.orderCompletedAt.isSome, row.shipmentCompletedAt.isSome, row.invoicePostedAt.isSome⟩

/-- The column of a fact (`_FACT_COLUMN`). -/
def column (row : ConsequenceRow) : Fact → Option Instant
  | .orderCompleted => row.orderCompletedAt
  | .shipmentCompleted => row.shipmentCompletedAt
  | .invoicePosted => row.invoicePostedAt

def setColumn (row : ConsequenceRow) (at_ : Instant) : Fact → ConsequenceRow
  | .orderCompleted => { row with orderCompletedAt := some at_ }
  | .shipmentCompleted => { row with shipmentCompletedAt := some at_ }
  | .invoicePosted => { row with invoicePostedAt := some at_ }

/-- `get`. -/
def get (tenantId commerceOrderId : String) : Program (Option OrderConsequence) := do
  let row ← Call.select (.consequence tenantId commerceOrderId)
  pure (row.map (recordOf tenantId commerceOrderId))

/-- `has_order`. -/
def hasOrder (tenantId commerceOrderId : String) : Program Bool := do
  let row ← Call.select (.consequence tenantId commerceOrderId)
  pure row.isSome

/-- The row `open_order` inserts. -/
def openedRow (legalEntityId : String) (orderVersion : Int) (erpOrderId : String)
    (now : Instant) : ConsequenceRow :=
  let derived := derive {}
  { legalEntityId, orderVersion, erpOrderId, status := derived.status,
    accountingStatus := derived.accountingStatus, inventoryStatus := derived.inventoryStatus,
    updatedAt := now }

/-- `open_order`. -/
def openOrder (tenantId legalEntityId commerceOrderId : String) (orderVersion : Int)
    (erpOrderId : String) (now : Instant) : Program (Option OrderConsequence) := do
  let _ ← Call.insert (.consequence tenantId commerceOrderId) fun _ =>
    openedRow legalEntityId orderVersion erpOrderId now
  get tenantId commerceOrderId

/-- `link_document`. -/
def linkDocument (tenantId : String) (type : LinkedDocument) (documentId commerceOrderId : String) :
    Program Bool := do
  if ← hasOrder tenantId commerceOrderId then
    let _ ← Call.insert (.consequenceDocument tenantId type documentId) fun _ =>
      commerceOrderId
    pure true
  else
    pure false

/-- `order_of_document`. -/
def orderOfDocument (tenantId : String) (type : LinkedDocument) (documentId : String) :
    Program (Option String) :=
  Call.select (.consequenceDocument tenantId type documentId)

/-- `Recorded`. -/
structure Recorded where
  record : Option OrderConsequence
  changed : Bool

/-- The `UPDATE` of `record_fact`: the fact's column, the statuses derived from
the facts read before it, the invoice where one is given, the next revision. -/
def factRow (read : ConsequenceRow) (fact : Fact) (now : Instant) (invoiceId : Option String)
    (row : ConsequenceRow) : ConsequenceRow :=
  let derived := derive (factsOf (setColumn read now fact))
  { setColumn row now fact with
    status := derived.status
    accountingStatus := derived.accountingStatus
    inventoryStatus := derived.inventoryStatus
    invoiceId := invoiceId.orElse fun _ => row.invoiceId
    revision := row.revision + 1
    updatedAt := now }

/-- `record_fact`: `none` when ERP keeps no record for the order. -/
def recordFact (tenantId commerceOrderId : String) (fact : Fact) (now : Instant)
    (invoiceId : Option String := none) : Program (Option Recorded) := do
  match ← Call.selectForUpdate (.consequence tenantId commerceOrderId) with
  | none => pure none
  | some (row : ConsequenceRow) =>
    if (column row fact).isNone then
      let _ ← Call.update (.consequence tenantId commerceOrderId)
        (factRow row fact now invoiceId)
      let record ← get tenantId commerceOrderId
      pure (some ⟨record, true⟩)
    else
      let record ← get tenantId commerceOrderId
      pure (some ⟨record, false⟩)

/-! ### The event -/

def eventType : String := "com.baobab-platform.erp.order.consequence-changed.v1"

def namespaceId : String := "5f0cbb6e-4a0e-5a39-9d52-7a3d2d1b8c11"

/-- The id of the event that announces a revision. -/
def eventId (H : Hashes) (tenantId commerceOrderId : String) (revision : Nat) : String :=
  H.uuid5 namespaceId (tenantId ++ "|" ++ commerceOrderId ++ "|" ++ toString revision)

/-- `consequence_changed_event`. -/
def consequenceChangedEvent (H : Hashes) (record : OrderConsequence)
    (correlationId : Option String) : Except String CloudEvent :=
  CloudEvent.newEvent (eventId H record.tenantId record.commerceOrderId record.revision)
    eventType ("order:" ++ record.commerceOrderId)
    (CloudEvent.correlation H namespaceId
      ("correlation|" ++ record.tenantId ++ "|" ++ record.commerceOrderId) correlationId)
    record.toContract (some record.tenantId) record.updatedAt
    (some ("erp-order-consequence-" ++ record.commerceOrderId ++ "-r" ++ toString record.revision))

/-- Builds the event of a record and records it, in the caller's transaction. -/
def announceRecord (H : Hashes) (record : OrderConsequence) (correlationId : Option String) :
    Program Unit :=
  match consequenceChangedEvent H record correlationId with
  | .ok event => Outbox.recordEvent event
  | .error message => throw (.envelope message)

end Consequence
end BaobabErp
