/-
# The native finance tables

The columns of iDempiere's schema `adempiere` and of `baobab_native` that the
functions and triggers of `src/db/native-migrations` read.  A nullable column is
an `Option`; what a CHECK of the migrations says of a row is a field of it.

A table that is only looked up by its key is a function of the key, a table that
is searched is the list of its rows.
-/

namespace BaobabErp
namespace NativeFinance

/-- The catalogued operation classes (`NativeOperation`). -/
inductive OperationClass where
  /-- `erp.gl-journal.post` -/
  | glJournal
  /-- `erp.customer-invoice.issue` -/
  | customerInvoice
  /-- `erp.payment.record` -/
  | payment
  /-- `erp.allocation.record` -/
  | allocation
  /-- `erp.shipment.complete` -/
  | shipment
  /-- `erp.sales-order.complete` -/
  | salesOrder
  /-- `erp.purchase-order.complete` -/
  | purchaseOrder
  /-- `erp.material-receipt.complete` -/
  | materialReceipt
  /-- `erp.vendor-invoice.record` -/
  | vendorInvoice
  /-- `erp.vendor-payment.record` -/
  | vendorPayment
  /-- `erp.payables-allocation.record` -/
  | payablesAllocation
  deriving DecidableEq, Repr

/-- The tables the classification tells apart. -/
inductive NativeTable where
  | glJournal | cInvoice | cPayment | cAllocationHdr | mInOut | cOrder
  | glJournalLine | cInvoiceLine | cAllocationLine | mInOutLine | cOrderLine
  | factAcct | mMatchPO | mMatchInv | mCostDetail
  | other (name : String)
  deriving DecidableEq, Repr

/-! ### Source documents -/

structure GLJournal where
  adClientId : Int
  adOrgId : Int
  deriving DecidableEq, Repr

structure Order where
  adClientId : Int
  adOrgId : Int
  isSOTrx : Option String
  deriving DecidableEq, Repr

structure InOut where
  adClientId : Int
  adOrgId : Int
  isSOTrx : Option String
  movementType : Option String
  deriving DecidableEq, Repr

structure Invoice where
  adClientId : Int
  adOrgId : Int
  isSOTrx : Option String
  cDocTypeId : Option Int
  cDocTypeTargetId : Option Int
  deriving DecidableEq, Repr

structure Payment where
  adClientId : Int
  adOrgId : Int
  isReceipt : Option String
  isOnline : Option String
  cBPartnerId : Option Int
  cCurrencyId : Option Int
  payAmt : Option Rat
  cInvoiceId : Option Int
  docStatus : Option String
  deriving DecidableEq, Repr

structure AllocationHdr where
  adClientId : Int
  adOrgId : Int
  docStatus : Option String
  deriving DecidableEq, Repr

structure DocType where
  docBaseType : Option String
  deriving DecidableEq, Repr

/-! ### Lines, matches and costs -/

structure AllocationLine where
  cAllocationLineId : Int
  adClientId : Int
  cAllocationHdrId : Int
  cInvoiceId : Option Int
  cPaymentId : Option Int
  deriving DecidableEq, Repr

structure InOutLine where
  adClientId : Int
  mInOutId : Int
  deriving DecidableEq, Repr

structure InvoiceLine where
  adClientId : Int
  cInvoiceId : Int
  deriving DecidableEq, Repr

structure MatchPO where
  mMatchPOId : Int
  adClientId : Int
  cOrderLineId : Option Int
  mInOutLineId : Option Int
  cInvoiceLineId : Option Int
  deriving DecidableEq, Repr

structure MatchInv where
  mMatchInvId : Int
  adClientId : Int
  cInvoiceLineId : Option Int
  deriving DecidableEq, Repr

/-- The documents a cost detail can come from (`COST_SOURCES`). -/
structure CostSources where
  mInOutLineId : Option Int
  cInvoiceLineId : Option Int
  cOrderLineId : Option Int
  mInventoryLineId : Option Int
  mMovementLineId : Option Int
  mProductionLineId : Option Int
  mMatchInvId : Option Int
  mMatchPOId : Option Int
  cProjectIssueId : Option Int
  cLandedCostAllocationId : Option Int
  aAssetId : Option Int
  ppCostCollectorId : Option Int
  deriving DecidableEq, Repr

structure CostDetail extends CostSources where
  adClientId : Int
  adOrgId : Int
  mProductId : Int
  cAcctSchemaId : Int
  isSOTrx : Option String
  deriving DecidableEq, Repr

structure Cost where
  adClientId : Int
  adOrgId : Int
  mProductId : Int
  cAcctSchemaId : Int
  mCostTypeId : Int
  mCostElementId : Int
  mAttributeSetInstanceId : Int
  deriving DecidableEq, Repr

structure AcctSchema where
  mCostTypeId : Int
  deriving DecidableEq, Repr

structure CostElement where
  costElementType : String
  costingMethod : Option String
  deriving DecidableEq, Repr

/-! ### What the migrations add -/

/-- `payment_execution_evidence`: a verified execution of one payment. -/
structure Evidence where
  evidenceId : String
  adClientId : Int
  adOrgId : Int
  cBPartnerId : Int
  cInvoiceId : Int
  cCurrencyId : Int
  amount : Rat
  adOrgId_pos : 0 < adOrgId
  cBPartnerId_pos : 0 < cBPartnerId
  cInvoiceId_pos : 0 < cInvoiceId
  cCurrencyId_pos : 0 < cCurrencyId
  amount_pos : 0 < amount
  deriving DecidableEq

/-- `payment_execution_binding`: which payment an evidence record is spent on. -/
structure Binding where
  evidenceId : String
  cPaymentId : Int
  adClientId : Int
  deriving DecidableEq, Repr

/-- `finance_authority_attribution`: a decision a transaction relies on. -/
structure Attribution where
  txid : Int
  adClientId : Int
  decisionId : Option String
  operationClass : OperationClass
  sourceTable : NativeTable
  sourceRecordId : Int
  authorityExpiresAt : Int
  deriving DecidableEq, Repr

/-- `derived_write_attribution`: a cost detail and the document it follows from. -/
structure DerivedWrite where
  txid : Int
  rootTable : NativeTable
  rootRecordId : Int
  adClientId : Int
  adOrgId : Int
  mProductId : Int
  cAcctSchemaId : Int
  mCostElementId : Int
  mAttributeSetInstanceId : Int
  rootTable_in : rootTable = .mInOut ∨ rootTable = .cInvoice
  rootRecordId_pos : 0 < rootRecordId
  deriving DecidableEq

/-- **The native database**, as one statement of one transaction reads it. -/
structure Native where
  /-- `native_placement`: the client of every placement. -/
  nativePlacement : List Int
  /-- `ad_table`: the table of an `ad_table_id`. -/
  adTable : Int → Option NativeTable
  glJournal : Int → Option GLJournal
  cOrder : Int → Option Order
  mInOut : Int → Option InOut
  cInvoice : Int → Option Invoice
  cPayment : Int → Option Payment
  cAllocationHdr : Int → Option AllocationHdr
  cDocType : Int → Option DocType
  cAllocationLine : List AllocationLine
  mInOutLine : Int → Option InOutLine
  cInvoiceLine : Int → Option InvoiceLine
  mMatchPO : List MatchPO
  mMatchInv : List MatchInv
  cAcctSchema : Int → Option AcctSchema
  mCostElement : Int → Option CostElement
  /-- `c_payselectioncheck`: the payment of every check. -/
  cPaySelectionCheck : List (Option Int)
  evidence : List Evidence
  binding : List Binding
  attribution : List Attribution
  derivedWrite : List DerivedWrite

/-- The native database without rows. -/
def Native.empty : Native where
  nativePlacement := []
  adTable := fun _ => none
  glJournal := fun _ => none
  cOrder := fun _ => none
  mInOut := fun _ => none
  cInvoice := fun _ => none
  cPayment := fun _ => none
  cAllocationHdr := fun _ => none
  cDocType := fun _ => none
  cAllocationLine := []
  mInOutLine := fun _ => none
  cInvoiceLine := fun _ => none
  mMatchPO := []
  mMatchInv := []
  cAcctSchema := fun _ => none
  mCostElement := fun _ => none
  cPaySelectionCheck := []
  evidence := []
  binding := []
  attribution := []
  derivedWrite := []

/-- Whose statement it is, and what its clock shows. -/
structure Session where
  txid : Int
  clock : Int
  deriving DecidableEq, Repr

end NativeFinance
end BaobabErp
