/-
# The order-to-cash commands

`modules/order_to_cash/service.py` and the part of `modules/mapping/postgres_store.py`
it uses, as the HTTP handlers of `modules/application/server.py` run them: one
command on one connection, committed when it returns and rolled back when it raises.
A document is created in the engine first and mapped then; a process runs in the
engine first and is recorded then.
-/

import BaobabErp.OrderToCash.AccountingOutcomes
import BaobabErp.OrderToCash.ConsequenceStore
import BaobabErp.Integration.NativeFinanceGuard

namespace BaobabErp
namespace OrderToCash

open Python Concurrency
open OrderExecution (TenantScope Permit permitted salesOrderFields)

/-- `ProcessIds`. -/
structure ProcessIds where
  completeSalesOrder : Int
  completeShipment : Int
  postCustomerInvoice : Int
  completePayment : Int
  allocatePayment : Int

/-- The process the commands run in. -/
structure Service where
  platform : Deployment
  runtime : Runtime
  processIds : ProcessIds

/-- **What a command runs with**: the tenant's scope, the engine client of its
AD_Client where credentials are configured, and the permits around it. -/
structure Request where
  scope : TenantScope
  client : Option Session
  permit : Option Egress.NativeMarker := none
  invoicePermit : Option Egress.InvoiceMarker := none
  correlationId : Option String := none

/-- The part of a marker `_deny_legacy_native_action` compares. -/
def permitOf (marker : Egress.NativeMarker) : Permit :=
  ⟨marker.scope.tenantId, marker.scope.legalEntityId, marker.action, marker.reference⟩

/-- `_deny_legacy_native_action`. -/
def denyLegacyNativeAction (D : Service) (r : Request) (action reference : String) : Program Unit :=
  if permitted D.platform (r.permit.map permitOf) r.scope action reference then pure ()
  else throw (.orderToCash ("native order-to-cash action denied: exact CP legal actor, " ++
    "documentary and iDempiere readiness approval required"))

/-- `_deny_legacy_invoice_post`. -/
def denyLegacyInvoicePost (D : Service) (r : Request) (invoiceId : String) : Program Unit :=
  if !D.platform.protectedRuntime || r.invoicePermit.any fun marker =>
      marker.scope.tenantId == r.scope.tenantId &&
        marker.scope.legalEntityId == r.scope.legalEntityId && marker.invoiceId == invoiceId then
    pure ()
  else throw (.orderToCash ("native invoice posting denied: current scoped CP legal actor, " ++
    "documentary and ERP provider assessment required"))

/-- The client; one without credentials raises at its first use. -/
def engine (r : Request) : Program Session :=
  match r.client with
  | some σ => pure σ
  | none => throw .client

/-- The client for a native write under a marker.  Of what
`require_native_financial_authority` compares, the company of the marker is what the
code around the write does not settle. -/
def writer (D : Service) (r : Request) (marker : Option TenantScope) : Program Session := do
  let σ ← engine r
  if !D.platform.protectedRuntime ||
      marker.any fun scope => Egress.companyBound scope (Egress.ofSession σ) then pure σ
  else throw .client

/-! ### `PostgresCanonicalMappingStore` -/

/-- `k` bytes of a UUID, two hexadecimal digits each, with an optional hyphen after
every second byte but the last. -/
def uuidBytes : Nat → Nat → List Char → Option (Nat × List Char)
  | 0, acc, cs => some (acc, cs)
  | k + 1, acc, a :: b :: cs =>
    match hexValue a, hexValue b with
    | some x, some y =>
      uuidBytes k (acc * 256 + x * 16 + y)
        (if k % 2 = 0 ∧ k ≠ 0 ∧ cs.head? = some '-' then cs.tail else cs)
    | _, _ => none
  | _ + 1, _, _ => none

/-- `text::uuid::text`; PostgreSQL takes braces around the digits, and no `urn:`. -/
def postgresUuid (s : String) : Option String :=
  match s.toList with
  | '\x7b' :: cs => match uuidBytes 16 0 cs with
    | some (n, ['\x7d']) => some (uuidText n)
    | _ => none
  | cs => match uuidBytes 16 0 cs with
    | some (n, []) => some (uuidText n)
    | _ => none

/-- A text as the parameter of a UUID column. -/
def uuidParam (s : String) : Program String :=
  match postgresUuid s with
  | some id => pure id
  | none => throw (.other "InvalidTextRepresentation")

/-- `create_mapping`. -/
def createMapping (scope : TenantScope) (type canonicalId table : String) (nativeId : Int) :
    Program Unit := do
  if !Identifiers.isTenantId scope.tenantId || !Identifiers.isLegalEntityId scope.legalEntityId then
    throw (.identifier "not a canonical identifier")
  let id ← uuidParam canonicalId
  let _ ← Call.insert (.entityMapping scope.tenantId type id) fun d =>
    ({ legalEntityId := scope.legalEntityId, nativeTable := table, nativeId,
       erpResourceId := d.random } : EntityMappingRow)

/-- The active mapping of a canonical resource. -/
def mappingOf (tenantId type canonicalId : String) : Program (Option EntityMappingRow) := do
  let id ← uuidParam canonicalId
  Call.select (.entityMapping tenantId type id)

/-- `erp_resource_id`. -/
def erpResourceId (tenantId type canonicalId : String) : Program (Option String) := do
  let row ← mappingOf tenantId type canonicalId
  pure (row.map EntityMappingRow.erpResourceId)

/-- `_resolve_native`. -/
def resolveNative (scope : TenantScope) (type canonicalId expectedTable : String) :
    Program Int := do
  match ← mappingOf scope.tenantId type canonicalId with
  | none => throw .mappingNotFound
  | some row =>
    if row.nativeTable ≠ expectedTable then
      throw (.orderToCash ("canonical_id=" ++ OrderExecution.quoted canonicalId ++ " maps to " ++
        row.nativeTable ++ ", not " ++ expectedTable ++
        " -- wrong lifecycle stage for this operation"))
    else pure row.nativeId

/-! ### Creating and completing -/

/-- `_create_and_map`. -/
def createAndMap (D : Service) (r : Request) (type canonicalId : String) (fields : Fields) :
    Program Int := do
  let σ ← writer D r (r.permit.map Egress.NativeMarker.scope)
  let nativeId ← Call.createRecord σ fields
  createMapping r.scope type canonicalId fields.table nativeId
  pure nativeId

/-- The guard takes the value as the id of a record. -/
def validRecordId : Json → Bool
  | .int n => 0 < n
  | _ => true

/-- `_execute_governed_process`.  The guard refuses a number that is none of a process
or, in an id, of a record. -/
def executeGovernedProcess (D : Service) (r : Request) (marker : Option TenantScope)
    (processId : Int) (parameters : List (String × Json)) : Program Unit := do
  let σ ← writer D r marker
  if D.platform.protectedRuntime &&
      !(0 < processId && parameters.all fun m => validRecordId m.2) then throw .client
  else
    let _ ← Call.executeProcess σ processId parameters

/-- `outbox.record(_envelope(…))`. -/
def recordEnvelope (r : Request) (eventType : String) (payload : List (String × Json)) :
    Program Unit := do
  let id ← Call.uuid4
  let now ← Call.now
  Outbox.record id ⟨eventType, r.scope.tenantId, r.scope.legalEntityId, r.correlationId.getD "",
    .obj payload, now⟩

/-- `_announce`. -/
def announce (D : Service) (r : Request) : Option Consequence.OrderConsequence → Program Unit
  | some record => Consequence.announceRecord D.platform.hashes record r.correlationId
  | none => pure ()

/-- A fact of an order, announced where it is new. -/
def recordFact (D : Service) (r : Request) (commerceOrderId : String) (fact : Consequence.Fact)
    (invoiceId : Option String) : Program Unit := do
  let now ← Call.now
  match ← Consequence.recordFact r.scope.tenantId commerceOrderId fact now invoiceId with
  | some recorded => if recorded.changed then announce D r recorded.record else pure ()
  | none => pure ()

/-! ### Orders -/

/-- `create_sales_order`. -/
def createSalesOrder (D : Service) (r : Request) (commerceOrderId : String) (partner : Int)
    (currency : String) (lines : List OrderLine) (orderVersion : Option Int) : Program Unit := do
  denyLegacyNativeAction D r "create_sales_order" commerceOrderId
  if lines.isEmpty then throw (.orderToCash "A sales order requires at least one order line")
  let _ ← createAndMap D r "CommerceOrder" commerceOrderId
    (salesOrderFields partner currency lines (some commerceOrderId))
  match orderVersion with
  | none => pure ()
  | some version =>
    match ← erpResourceId r.scope.tenantId "CommerceOrder" commerceOrderId with
    | none => throw (.orderToCash "the order mapping just created has no ERP resource identifier")
    | some erpOrderId => do
      let now ← Call.now
      let opened ← Consequence.openOrder r.scope.tenantId r.scope.legalEntityId commerceOrderId
        version erpOrderId now
      announce D r opened

/-- `complete_sales_order`. -/
def completeSalesOrder (D : Service) (r : Request) (commerceOrderId : String) : Program Unit := do
  denyLegacyNativeAction D r "complete_sales_order" commerceOrderId
  let nativeId ← resolveNative r.scope "CommerceOrder" commerceOrderId "C_Order"
  executeGovernedProcess D r (r.permit.map Egress.NativeMarker.scope)
    D.processIds.completeSalesOrder
    [("C_Order_ID", .int nativeId), ("DocAction", .str "CO")]
  recordEnvelope r "erp.sales-order.accepted.v1"
    [("commerce_order_id", .str commerceOrderId), ("erp_order_native_id", .int nativeId)]
  recordFact D r commerceOrderId .orderCompleted none

/-! ### Shipments -/

/-- `create_shipment`. -/
def createShipment (D : Service) (r : Request) (shipmentId commerceOrderId : String) :
    Program Unit := do
  denyLegacyNativeAction D r "create_shipment" shipmentId
  let orderId ← resolveNative r.scope "CommerceOrder" commerceOrderId "C_Order"
  let _ ← createAndMap D r "GoodsShipment" shipmentId
    (.document "M_InOut" [("C_Order_ID", .int orderId)])
  let _ ← Consequence.linkDocument r.scope.tenantId .goodsShipment shipmentId commerceOrderId

/-- `complete_shipment`. -/
def completeShipment (D : Service) (r : Request) (shipmentId : String) : Program Unit := do
  denyLegacyNativeAction D r "complete_shipment" shipmentId
  let nativeId ← resolveNative r.scope "GoodsShipment" shipmentId "M_InOut"
  executeGovernedProcess D r (r.permit.map Egress.NativeMarker.scope)
    D.processIds.completeShipment
    [("M_InOut_ID", .int nativeId), ("DocAction", .str "CO")]
  recordEnvelope r "erp.goods-shipment.completed.v1"
    [("shipment_id", .str shipmentId), ("erp_shipment_native_id", .int nativeId)]
  match ← Consequence.orderOfDocument r.scope.tenantId .goodsShipment shipmentId with
  | none => pure ()
  | some orderId => recordFact D r orderId .shipmentCompleted none

/-! ### Announcing outcomes -/

/-- The facts and the status drawn from them, `none` for an `AccountingFactError`. -/
def observed {α : Type} (read : Program α) (status : α → Option String) :
    Program (Option (α × String)) :=
  tryCatch
    (do
      let facts ← read
      match status facts with
      | some status => pure (some (facts, status))
      | none => throw Accounting.factError)
    fun x => if x = Accounting.factError then pure none else throw x

/-- The event of a change, recorded in the caller's transaction. -/
def recordEvent : Except String CloudEvent → Program Unit
  | .ok event => Outbox.recordEvent event
  | .error message => throw (.envelope message)

/-- `_announce_invoice`. -/
def announceInvoice (D : Service) (r : Request) (invoiceId : String) (nativeId : Int)
    (allocated : Bool) : Program Unit := do
  let order ← Consequence.orderOfDocument r.scope.tenantId .customerInvoice invoiceId
  let publicId ← erpResourceId r.scope.tenantId "CustomerInvoice" invoiceId
  match (order : Option String), publicId with
  | some orderId, some publicId => do
    let σ ← engine r
    match ← observed (Accounting.readInvoice D.runtime σ nativeId)
        (Accounting.invoiceStatus · allocated) with
    | none => pure ()
    | some (facts, status) => do
      let now ← Call.now
      let step ← Outcome.advance r.scope.tenantId .invoice publicId status
        (.invoice facts.number facts.total.amount facts.total.currency) now
      if step.changed then
        recordEvent (Accounting.invoiceChangedEvent D.platform.hashes r.scope.tenantId
          r.scope.legalEntityId publicId orderId facts status step.firstSeenAt step.revision now
          r.correlationId)
  | _, _ => pure ()

/-- `_announce_payment`. -/
def announcePayment (D : Service) (r : Request) (paymentId : String) (nativeId : Int)
    (invoicePublicId : Option String) (allocationRequested : Bool) : Program Unit := do
  match ← erpResourceId r.scope.tenantId "Payment" paymentId with
  | none => pure ()
  | some publicId => do
    let σ ← engine r
    match ← observed (Accounting.readPayment D.runtime σ nativeId)
        (Accounting.paymentStatus · allocationRequested) with
    | none => pure ()
    | some (facts, status) => do
      let now ← Call.now
      let step ← Outcome.advance r.scope.tenantId .payment paymentId status
        (.payment facts.amount.amount facts.amount.currency invoicePublicId) now
      if step.changed then
        recordEvent (Accounting.paymentAccountingEvent D.platform.hashes r.scope.tenantId
          r.scope.legalEntityId paymentId publicId invoicePublicId facts status step.revision now
          r.correlationId)

/-! ### Invoices -/

/-- `create_customer_invoice`: the canonical id is a new one. -/
def createCustomerInvoice (D : Service) (r : Request) (commerceOrderId : String) :
    Program Unit := do
  denyLegacyNativeAction D r "create_customer_invoice" commerceOrderId
  let orderId ← resolveNative r.scope "CommerceOrder" commerceOrderId "C_Order"
  let invoiceId ← Call.uuid4
  let _ ← createAndMap D r "CustomerInvoice" invoiceId
    (.document "C_Invoice" [("C_Order_ID", .int orderId)])
  let _ ← Consequence.linkDocument r.scope.tenantId .customerInvoice invoiceId commerceOrderId

/-- `post_customer_invoice`. -/
def postCustomerInvoice (D : Service) (r : Request) (invoiceId : String) : Program Unit := do
  denyLegacyInvoicePost D r invoiceId
  let nativeId ← resolveNative r.scope "CustomerInvoice" invoiceId "C_Invoice"
  executeGovernedProcess D r (r.invoicePermit.map Egress.InvoiceMarker.scope)
    D.processIds.postCustomerInvoice
    [("C_Invoice_ID", .int nativeId), ("DocAction", .str "CO")]
  recordEnvelope r "erp.customer-invoice.posted.v1"
    [("invoice_id", .str invoiceId), ("erp_invoice_native_id", .int nativeId)]
  match ← Consequence.orderOfDocument r.scope.tenantId .customerInvoice invoiceId with
  | none => pure ()
  | some orderId => do
    let publicId ← erpResourceId r.scope.tenantId "CustomerInvoice" invoiceId
    recordFact D r orderId .invoicePosted publicId
  announceInvoice D r invoiceId nativeId false

/-! ### Payments -/

/-- `create_payment`. -/
def createPayment (D : Service) (r : Request) (paymentId : String) (partner : Int)
    (amount currency : String) : Program Unit := do
  denyLegacyNativeAction D r "create_payment" paymentId
  let _ ← createAndMap D r "Payment" paymentId (.document "C_Payment"
    [("C_BPartner_ID", .int partner), ("PayAmt", .str amount), ("CurrencyISO", .str currency)])

/-- `complete_payment`. -/
def completePayment (D : Service) (r : Request) (paymentId : String) : Program Unit := do
  denyLegacyNativeAction D r "complete_payment" paymentId
  let nativeId ← resolveNative r.scope "Payment" paymentId "C_Payment"
  executeGovernedProcess D r (r.permit.map Egress.NativeMarker.scope)
    D.processIds.completePayment
    [("C_Payment_ID", .int nativeId), ("DocAction", .str "CO")]
  recordEnvelope r "erp.payment.completed.v1"
    [("payment_id", .str paymentId), ("erp_payment_native_id", .int nativeId)]
  announcePayment D r paymentId nativeId none false

/-- `allocate_payment`. -/
def allocatePayment (D : Service) (r : Request) (paymentId invoiceId amount : String) :
    Program Unit := do
  denyLegacyNativeAction D r "allocate_payment" (paymentId ++ ":" ++ invoiceId)
  let paymentNative ← resolveNative r.scope "Payment" paymentId "C_Payment"
  let invoiceNative ← resolveNative r.scope "CustomerInvoice" invoiceId "C_Invoice"
  executeGovernedProcess D r (r.permit.map Egress.NativeMarker.scope)
    D.processIds.allocatePayment
    [("C_Payment_ID", .int paymentNative), ("C_Invoice_ID", .int invoiceNative),
      ("Amount", .str amount)]
  recordEnvelope r "erp.payment.allocated.v1"
    [("payment_id", .str paymentId), ("invoice_id", .str invoiceId), ("amount", .str amount)]
  let invoicePublicId ← erpResourceId r.scope.tenantId "CustomerInvoice" invoiceId
  announcePayment D r paymentId paymentNative invoicePublicId true
  announceInvoice D r invoiceId invoiceNative true

/-- **One request**: `with psycopg.connect(…) as connection: command`. -/
def transaction (command : Program Unit) : Program Unit :=
  Inbox.orRollback do
    command
    Call.commit

end OrderToCash
end BaobabErp
