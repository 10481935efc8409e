/-
# The resolver of the model validator

`NativeOperationResolver`: the operation class and the source document of a row
that iDempiere is about to save, or nothing, and then the write is denied.  Its
queries read the same database the triggers do, before the row is stored.
-/

import BaobabErp.NativeFinance.NativeRecord
import BaobabErp.NativeFinance.Roots

namespace BaobabErp
namespace NativeFinance

/-- `NativeOperation`, without the record it is of. -/
structure NativeOperation where
  operationClass : OperationClass
  sourceTable : NativeTable
  sourceRecordId : Int
  deriving DecidableEq, Repr

/-- `COST_SOURCES` -/
def costSources : List String :=
  ["M_InOutLine_ID", "C_InvoiceLine_ID", "C_OrderLine_ID", "M_InventoryLine_ID",
   "M_MovementLine_ID", "M_ProductionLine_ID", "M_MatchInv_ID", "M_MatchPO_ID",
   "C_ProjectIssue_ID", "C_LandedCostAllocation_ID", "A_Asset_ID", "PP_Cost_Collector_ID"]

namespace Resolver

variable (N : Native) (s : Session) (r : NativeRecord)

/-! ### Headers -/

/-- `storedClass` -/
def storedClass (table : NativeTable) (record : Int) : Option OperationClass :=
  N.governedClassOf table record

/-- `docBaseType` -/
def docBaseType (docType : Int) : Option String :=
  if docType ≤ 0 then none else N.docBaseType (some docType)

/-- `inPaySelection` -/
def inPaySelection (payment : Int) : Bool := N.cPaySelectionCheck.contains (some payment)

/-- `hasExecutionEvidence` -/
def hasExecutionEvidence : Bool :=
  match r.decimal "PayAmt" with
  | none => false
  | some amount =>
    let partner := r.intValue "C_BPartner_ID"
    let currency := r.intValue "C_Currency_ID"
    if amount ≤ 0 ∨ partner ≤ 0 ∨ currency ≤ 0 ∨ r.adOrgId ≤ 0 then false
    else
      (N.vendorPaymentProvenance r.adClientId (max r.recordId 0) r.adOrgId (some partner)
        (some currency) (some amount) (some (max (r.intValue "C_Invoice_ID") 0))).isSome

/-- `headerClass` -/
def headerClass : Option OperationClass :=
  match r.table with
  | .glJournal => some .glJournal
  | .cOrder =>
    match r.flag "IsSOTrx" with
    | none => none
    | some sales => some (if sales then .salesOrder else .purchaseOrder)
  | .mInOut =>
    match r.flag "IsSOTrx" with
    | none => none
    | some true => some .shipment
    | some false =>
      if r.value "MovementType" = some (.text "V+") then some .materialReceipt else none
  | .cInvoice =>
    match r.flag "IsSOTrx" with
    | none => none
    | some true => some .customerInvoice
    | some false =>
      let docType := if 0 < r.intValue "C_DocType_ID" then r.intValue "C_DocType_ID"
        else r.intValue "C_DocTypeTarget_ID"
      if docBaseType N docType = some "API" then some .vendorInvoice else none
  | .cPayment =>
    match r.flag "IsReceipt" with
    | none => none
    | some true => some .payment
    | some false =>
      if r.flag "IsOnline" ≠ some false then none
      else if 0 < r.recordId ∧ inPaySelection N r.recordId then none
      else if hasExecutionEvidence N r then some .vendorPayment else none
  | .cAllocationHdr =>
    if 0 < r.recordId then storedClass N .cAllocationHdr r.recordId else none
  | _ => none

/-! ### Matching rows -/

/-- The line that decides the root of a matching row, and the table of the root. -/
def matchLine : Option (NativeTable × Int) :=
  if r.table = .mMatchPO ∧ 0 < r.intValue "M_InOutLine_ID" then
    some (.mInOut, r.intValue "M_InOutLine_ID")
  else if 0 < r.intValue "C_InvoiceLine_ID" then some (.cInvoice, r.intValue "C_InvoiceLine_ID")
  else none

/-- The document of the line, looked up in the record's client. -/
def lineRoot (table : NativeTable) (line : Int) : Option Int :=
  if table = .mInOut then N.receiptOfLine r.adClientId line
  else N.invoiceOfLine r.adClientId line

/-- The stored row points to another root. -/
def repointed (table : NativeTable) (record : Int) : Bool :=
  decide (0 < r.recordId) &&
    match N.governedRoot r.table r.recordId with
    -- a NULL `root_record` reads as 0
    | (some t, n) => decide (t ≠ table ∨ n.getD 0 ≠ record)
    | (none, _) => false

/-- `matchRoot` -/
def matchRoot : Option NativeOperation := do
  let (table, line) ← matchLine r
  let record ← lineRoot N r table line
  if repointed N r table record then none
  else
    match storedClass N table record with
    | some .materialReceipt => some ⟨.materialReceipt, table, record⟩
    | some .vendorInvoice => some ⟨.vendorInvoice, table, record⟩
    | _ => none

/-! ### Cost details -/

/-- No source but this one is set. -/
def onlySource (source : String) : Bool :=
  costSources.all fun c => decide (c = source) || decide (r.intValue c ≤ 0)

/-- `purchaseCostRoot` -/
def purchaseCostRoot : Option NativeOperation :=
  if !onlySource r "C_OrderLine_ID" then none
  else if r.flag "IsSOTrx" ≠ some false then none
  else
    match N.purchaseCostRoot s r.adClientId r.adOrgId (r.intValue "C_OrderLine_ID") with
    | some receipt => if receipt ≤ 0 then none else some ⟨.materialReceipt, .mInOut, receipt⟩
    | none => none

/-- `invoiceCostRoot` -/
def invoiceCostRoot : Option NativeOperation :=
  if !onlySource r "C_InvoiceLine_ID" then none
  else if r.flag "IsSOTrx" ≠ some false then none
  else
    match N.invoiceCostRoot r.adClientId r.adOrgId (r.intValue "C_InvoiceLine_ID") with
    | some invoice => if invoice ≤ 0 then none else some ⟨.vendorInvoice, .cInvoice, invoice⟩
    | none => none

/-- The sales shipment of a line, in the record's client and organisation. -/
def shipmentOfLine (line : Int) : Option Int := do
  let l ← N.mInOutLine line
  let io ← N.mInOut l.mInOutId
  if io.isSOTrx ≠ some "Y" ∨ io.adClientId ≠ r.adClientId ∨
      r.adOrgId ≠ 0 ∧ io.adOrgId ≠ r.adOrgId then none
  else some l.mInOutId

/-- `costDetailRoot` -/
def costDetailRoot : Option NativeOperation :=
  if 0 < r.intValue "C_OrderLine_ID" then purchaseCostRoot N s r
  else if 0 < r.intValue "C_InvoiceLine_ID" then invoiceCostRoot N r
  else if !onlySource r "M_InOutLine_ID" then none
  else if r.intValue "M_InOutLine_ID" ≤ 0 ∨ r.flag "IsSOTrx" ≠ some true then none
  else (shipmentOfLine N r (r.intValue "M_InOutLine_ID")).map fun io => ⟨.shipment, .mInOut, io⟩

/-! ### Lines and ledger rows -/

/-- `sourceDocument` -/
def sourceDocument (header : NativeTable) (record : Int) : Option NativeOperation :=
  (storedClass N header record).map fun cls => ⟨cls, header, record⟩

/-- `emptyAllocation`: no stored line other than the one being saved. -/
def emptyAllocation (header line : Int) : Bool :=
  !N.cAllocationLine.any fun al =>
    al.cAllocationHdrId = header && decide (al.cAllocationLineId ≠ max line 0)

/-- A positive id, and NULL for any other. -/
def positive (n : Int) : Option Int := if 0 < n then some n else none

/-- The class of an allocation with lines of one side. -/
def sideClass : Side → OperationClass
  | .sales => .allocation
  | .payables => .payablesAllocation

/-- `allocationLine` -/
def allocationLine (header : Int) : Option NativeOperation := do
  let side ← N.allocationLineSide r.adClientId (positive (r.intValue "C_Invoice_ID"))
    (positive (r.intValue "C_Payment_ID"))
  match storedClass N .cAllocationHdr header with
  | some stored =>
    if stored = sideClass side then some ⟨sideClass side, .cAllocationHdr, header⟩ else none
  | none =>
    if emptyAllocation N header r.recordId then some ⟨sideClass side, .cAllocationHdr, header⟩
    else none

/-- `HEADERS` -/
def headers : List NativeTable :=
  [.glJournal, .cInvoice, .cPayment, .cAllocationHdr, .mInOut, .cOrder]

/-- `root` of a ledger row's source document. -/
def root (source : NativeTable) (record : Int) : Option NativeOperation :=
  match N.governedRoot source record with
  | (some table, some record) => if table ∈ headers then sourceDocument N table record else none
  | _ => none

/-- A ledger row goes by the document it posts. -/
def factAcct : Option NativeOperation :=
  if r.intValue "AD_Table_ID" ≤ 0 ∨ r.intValue "Record_ID" ≤ 0 then none
  else do root N (← N.adTable (r.intValue "AD_Table_ID")) (r.intValue "Record_ID")

/-- A line goes by its header. -/
def lineOf (header : NativeTable) (column : String) : Option NativeOperation :=
  if r.intValue column ≤ 0 then none
  else if r.table = .cAllocationLine then allocationLine N r (r.intValue column)
  else sourceDocument N header (r.intValue column)

/-! ### Classification -/

/-- `classify` -/
def classify : Option NativeOperation :=
  match r.table with
  | .glJournal | .cInvoice | .cPayment | .cAllocationHdr | .mInOut | .cOrder =>
    (headerClass N r).map fun cls => ⟨cls, r.table, max r.recordId 0⟩
  | .glJournalLine => lineOf N r .glJournal "GL_Journal_ID"
  | .cInvoiceLine => lineOf N r .cInvoice "C_Invoice_ID"
  | .cAllocationLine => lineOf N r .cAllocationHdr "C_AllocationHdr_ID"
  | .mInOutLine => lineOf N r .mInOut "M_InOut_ID"
  | .cOrderLine => lineOf N r .cOrder "C_Order_ID"
  | .factAcct => factAcct N r
  | .mMatchPO | .mMatchInv => matchRoot N r
  | .mCostDetail => costDetailRoot N s r
  | .other _ => none

end Resolver
end NativeFinance
end BaobabErp
