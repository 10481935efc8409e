/-
# The tables of the ERP platform database

The rows of `db/migrations/0002` to `0023` that the executors and the
order-to-cash commands read and write, keyed by what identifies them: a primary
key, or the columns of a unique index.  A unique index beside the key has
entries of its own (`Index`), so that a row that repeats an indexed value
violates the index whatever its key is.

`Cell` adds to a row which claim of which received event created it and which
wrote its present version (`Ticket`).  The database does not store these; they
say where a row came from, so that the theorems can speak of it.
-/

import BaobabErp.Inbox.ExecutionPolicy
import BaobabErp.OrderToCash.Consequence

namespace BaobabErp

open Python

/-- A worker's `worker_id`, which is also its database session. -/
abbrev Worker := String

/-- **Which claim of which inbox row** a worker is executing: the row, the number
of the claim among all claims of that row, and the tenant of the event. -/
structure Ticket where
  row : Nat
  no : Nat
  tenant : Option String
deriving DecidableEq, Repr

/-- What happened to an inbox row, in the order it was committed.  `claimed no w`
is the claim numbered `no`, by worker `w`; `settled no status` is a settlement
made for that claim. -/
inductive RowEvent
  | claimed (no : Nat) (worker : Worker)
  | settled (no : Nat) (status : InboxStatus)
deriving DecidableEq, Repr

/-- `baobab.event_inbox` (a CloudEvents row).  `history`, newest first, is not a column. -/
structure InboxRow where
  eventId : String
  eventType : String
  tenantId : Option String
  data : Json
  correlationId : Option String
  receivedAt : Instant
  status : InboxStatus := .received
  attempts : Nat := 0
  nextAttemptAt : Instant
  claimedBy : Option Worker := none
  leaseExpiresAt : Option Instant := none
  outcomeCode : Option String := none
  lastError : Option String := none
  processedAt : Option Instant := none
  history : List RowEvent := []

/-- An active row of `baobab.tenant_mapping`. -/
structure TenantMappingRow where
  adClientId : Int
  adOrgId : Int
  engineInstanceId : Option String
deriving DecidableEq, Repr

/-- `baobab.erp_master_data_mapping`. -/
structure MasterDataRow where
  nativeId : Int
  desiredDigest : String
  sourceVersion : String
  erpResourceId : String
deriving DecidableEq, Repr

/-- `baobab.order_consequence`. -/
structure ConsequenceRow where
  legalEntityId : String
  orderVersion : Int
  erpOrderId : String
  status : Consequence.Status
  accountingStatus : Consequence.AccountingStatus
  inventoryStatus : Consequence.InventoryStatus
  invoiceId : Option String := none
  exceptionCode : Option String := none
  orderCompletedAt : Option Instant := none
  shipmentCompletedAt : Option Instant := none
  invoicePostedAt : Option Instant := none
  revision : Nat := 1
  updatedAt : Instant
deriving DecidableEq, Repr

/-- `order_consequence_document.document_type`. -/
inductive LinkedDocument
  | goodsShipment
  | customerInvoice
deriving DecidableEq, Repr

/-- `baobab.order_execution`. -/
structure ExecutionRow where
  legalEntityId : String
  orderVersion : Int
  erpOrderId : String
  nativeId : Int
  sourceEventId : String
  adopted : Bool
deriving DecidableEq, Repr

/-- `document_outcome.document_type`. -/
inductive DocumentType
  | invoice
  | payment
  | businessPartner
  | warehouse
deriving DecidableEq, Repr

/-- The facts a revision of a document rests on (`document_outcome.detail`). -/
inductive Detail
  | invoice (number amount currency : String)
  | payment (amount currency : String) (invoiceId : Option String)
  | businessPartner (displayName sourceCustomerId : String)
deriving DecidableEq, Repr

/-- PostgreSQL stores the text in a `TEXT` or `JSONB` column: it has no NUL. -/
def isStorable (s : String) : Bool := !s.toList.contains (Char.ofNat 0)

/-- The facts can be stored. -/
def Detail.storable : Detail → Bool
  | invoice number amount currency => [number, amount, currency].all isStorable
  | payment amount currency invoiceId =>
    [amount, currency].all isStorable && invoiceId.all isStorable
  | businessPartner displayName sourceCustomerId =>
    [displayName, sourceCustomerId].all isStorable

/-- `baobab.document_outcome`.  `handedOut`, newest first, is not a column: the
revisions that were handed out as changed. -/
structure OutcomeRow where
  revision : Nat
  status : String
  detail : Detail
  firstSeenAt : Instant
  updatedAt : Instant
  handedOut : List Nat
deriving DecidableEq, Repr

/-- `event_outbox.status`. -/
inductive OutboxStatus
  | pending
  | retry
  | delivered
  | deadLetter
  | held
deriving DecidableEq, Repr

/-- The legacy shape of a domain event (`events.envelope.EventEnvelope`). -/
structure EventEnvelope where
  eventType : String
  tenantId : String
  entityId : String
  correlationId : String
  payload : Json
  occurredAt : Instant

/-- What an outbox row carries: a canonical event, or a held legacy envelope. -/
inductive OutboxContent
  | event (e : CloudEvent)
  | legacy (e : EventEnvelope)

/-- `baobab.event_outbox`. -/
structure OutboxRow where
  content : OutboxContent
  status : OutboxStatus := .pending
  attempts : Nat := 0
  lastError : Option String := none
  createdAt : Instant
  nextAttemptAt : Option Instant := none
  deliveredAt : Option Instant := none
  deadLetteredAt : Option Instant := none

/-- An active row of `baobab.entity_mapping`. -/
structure EntityMappingRow where
  legalEntityId : String
  nativeTable : String
  nativeId : Int
  erpResourceId : String
deriving DecidableEq, Repr

/-- The entries of the unique indexes beside the keys. -/
inductive Index
  | consequenceErpOrder (erpOrderId : String)
  | executionErpOrder (erpOrderId : String)
  | executionNative (tenant : String) (nativeId : Int)
  | masterDataPublicId (erpResourceId : String)
  | entityNative (tenant table : String) (nativeId : Int)
  | entityPublicId (erpResourceId : String)
deriving DecidableEq, Repr

inductive Key
  | inbox (id : Nat)
  | tenantMapping (tenant legalEntity : String)
  | masterData (engineInstance legalEntity kind canonicalId : String)
  | consequence (tenant order : String)
  | consequenceDocument (tenant : String) (type : LinkedDocument) (id : String)
  | execution (tenant order : String)
  | outcome (tenant : String) (type : DocumentType) (id : String)
  | outbox (eventId : String)
  | entityMapping (tenant type canonicalId : String)
  | index (entry : Index)
deriving DecidableEq, Repr

/-- The row type of each table. -/
def Row : Key → Type
  | .inbox _ => InboxRow
  | .tenantMapping _ _ => TenantMappingRow
  | .masterData _ _ _ _ => MasterDataRow
  | .consequence _ _ => ConsequenceRow
  | .consequenceDocument _ _ _ => String
  | .execution _ _ => ExecutionRow
  | .outcome _ _ _ => OutcomeRow
  | .outbox _ => OutboxRow
  | .entityMapping _ _ _ => EntityMappingRow
  | .index _ => Unit

/-- A row with the claims that created it and wrote its present version. -/
structure Cell (k : Key) where
  row : Row k
  creator : Option Ticket
  writer : Option Ticket

namespace Schema

/-- The unique-index entries of a row. -/
def indexed : (k : Key) → Row k → List Index
  | .masterData _ _ _ _, (row : MasterDataRow) => [.masterDataPublicId row.erpResourceId]
  | .consequence _ _, (row : ConsequenceRow) => [.consequenceErpOrder row.erpOrderId]
  | .execution tenant _, (row : ExecutionRow) =>
    [.executionErpOrder row.erpOrderId, .executionNative tenant row.nativeId]
  | .entityMapping tenant _ _, (row : EntityMappingRow) =>
    [.entityNative tenant row.nativeTable row.nativeId, .entityPublicId row.erpResourceId]
  | _, _ => []

/-- The row a foreign key of this row names. -/
def parent : (k : Key) → Row k → Option Key
  | .execution tenant order, _ => some (.consequence tenant order)
  | .consequenceDocument tenant _ _, (order : String) => some (.consequence tenant order)
  | _, _ => none

/-- A value of a PostgreSQL `INTEGER` column. -/
def isInteger (n : Int) : Bool := -2147483648 ≤ n && n ≤ 2147483647

/-- A value of a PostgreSQL `BIGINT` column. -/
def isBigint (n : Int) : Bool := -9223372036854775808 ≤ n && n ≤ 9223372036854775807

/-- The column types and `CHECK` constraints of a row. -/
def check : (k : Key) → Row k → Bool
  | .masterData _ _ _ _, (row : MasterDataRow) =>
    isBigint row.nativeId && Identifiers.isErpResourceId row.erpResourceId
  | .consequence _ _, (row : ConsequenceRow) =>
    1 ≤ row.orderVersion && isInteger row.orderVersion &&
      Identifiers.isErpResourceId row.erpOrderId &&
      row.invoiceId.all Identifiers.isErpResourceId && 1 ≤ row.revision && isInteger row.revision
  | .execution _ _, (row : ExecutionRow) =>
    1 ≤ row.orderVersion && isInteger row.orderVersion &&
      Identifiers.isErpResourceId row.erpOrderId && isBigint row.nativeId
  | .outcome _ _ _, (row : OutcomeRow) =>
    1 ≤ row.revision && isInteger row.revision && row.detail.storable
  | .entityMapping tenant _ _, (row : EntityMappingRow) =>
    isInteger row.nativeId && Identifiers.isTenantId tenant &&
      Identifiers.isLegalEntityId row.legalEntityId &&
      Identifiers.isErpResourceId row.erpResourceId
  | _, _ => true

end Schema

end BaobabErp
