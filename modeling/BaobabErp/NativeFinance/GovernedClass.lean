/-
# The class of a stored document

The functions of the native migrations that say what a stored row is:
`client_is_placed`, the evidence of an outbound payment, `governed_class_of`,
`allocation_line_side`, and whether the transaction holds an attribution of it.
They are those of N0008 where it replaces an older one.
-/

import BaobabErp.NativeFinance.Tables

namespace BaobabErp
namespace NativeFinance

/-- The evidence names these values of a payment, and its invoice where it has one. -/
def Evidence.names (e : Evidence) (client org : Int) (partner currency : Option Int)
    (amount : Option Rat) (invoice : Option Int) : Bool :=
  e.adClientId = client && e.adOrgId = org && partner = some e.cBPartnerId &&
    currency = some e.cCurrencyId && amount = some e.amount &&
    (invoice.getD 0 = 0 || invoice = some e.cInvoiceId)

/-- The document type an invoice goes by: `COALESCE(NULLIF(c_doctype_id, 0), c_doctypetarget_id)`. -/
def Invoice.docType (i : Invoice) : Option Int :=
  if i.cDocTypeId = some 0 then i.cDocTypeTargetId else i.cDocTypeId <|> i.cDocTypeTargetId

/-- What a document an allocation line joins counts for, `'NONE'` being `none`. -/
inductive Side where
  | sales
  | payables
  deriving DecidableEq, Repr

namespace Native

variable (N : Native)

/-- `client_is_placed` -/
def clientIsPlaced (client : Int) : Bool := client ∈ N.nativePlacement

/-! ### The evidence of an outbound payment -/

/-- `payment_evidence_candidate`: the one record that is not spent yet, if it is one. -/
def paymentEvidenceCandidate (client org : Int) (partner currency : Option Int)
    (amount : Option Rat) (invoice : Option Int) : Option String :=
  match N.evidence.filter fun e => e.names client org partner currency amount invoice &&
      !N.binding.any fun b => b.evidenceId = e.evidenceId with
  | [e] => some e.evidenceId
  | _ => none

/-- The evidence the payment is bound to in this client that names these values. -/
def boundEvidence (payment client org : Int) (partner currency : Option Int)
    (amount : Option Rat) (invoice : Option Int) : List String :=
  (N.binding.filter fun b => b.cPaymentId = payment && b.adClientId = client).flatMap fun b =>
    (N.evidence.filter fun e => e.evidenceId = b.evidenceId &&
      e.names client org partner currency amount invoice).map (·.evidenceId)

/-- `payment_bound_evidence` -/
def paymentBoundEvidence (payment : Int) : Option String := do
  let p ← N.cPayment payment
  if p.isReceipt = some "N" then
    (N.boundEvidence payment p.adClientId p.adOrgId p.cBPartnerId p.cCurrencyId p.payAmt
      p.cInvoiceId).head?
  else none

/-- `vendor_payment_provenance` -/
def vendorPaymentProvenance (client payment org : Int) (partner currency : Option Int)
    (amount : Option Rat) (invoice : Option Int) : Option String :=
  if 0 < payment && N.binding.any fun b => b.cPaymentId = payment then
    (N.boundEvidence payment client org partner currency amount invoice).head?
  else N.paymentEvidenceCandidate client org partner currency amount invoice

/-! ### `governed_class_of`, one branch a table -/

def glJournalClass (record : Int) : Option OperationClass :=
  (N.glJournal record).map fun _ => .glJournal

def orderClass (record : Int) : Option OperationClass := do
  let o ← N.cOrder record
  match o.isSOTrx with
  | some "Y" => some .salesOrder
  | some "N" => some .purchaseOrder
  | _ => none

def inOutClass (record : Int) : Option OperationClass := do
  let io ← N.mInOut record
  if io.isSOTrx = some "Y" then some .shipment
  else if io.isSOTrx = some "N" ∧ io.movementType = some "V+" then some .materialReceipt
  else none

/-- The base type of a document type. -/
def docBaseType (docType : Option Int) : Option String := do
  let dt ← N.cDocType (← docType)
  dt.docBaseType

def invoiceClass (record : Int) : Option OperationClass := do
  let i ← N.cInvoice record
  if i.isSOTrx = some "Y" then some .customerInvoice
  else if i.isSOTrx = some "N" ∧ N.docBaseType i.docType = some "API" then some .vendorInvoice
  else none

def paymentClass (record : Int) : Option OperationClass := do
  let p ← N.cPayment record
  if p.isReceipt = some "Y" then some .payment
  else if p.isReceipt = some "N" ∧ p.isOnline = some "N" ∧
      some record ∉ N.cPaySelectionCheck ∧ (N.paymentBoundEvidence record).isSome then
    some .vendorPayment
  else none

section

variable {N} {record : Int}

theorem orderClass_eq {o : Order} (h : N.cOrder record = some o) :
    N.orderClass record =
      match o.isSOTrx with
      | some "Y" => some .salesOrder
      | some "N" => some .purchaseOrder
      | _ => none := by
  rw [orderClass, h]
  rfl

theorem inOutClass_eq {io : InOut} (h : N.mInOut record = some io) :
    N.inOutClass record =
      if io.isSOTrx = some "Y" then some .shipment
      else if io.isSOTrx = some "N" ∧ io.movementType = some "V+" then some .materialReceipt
      else none := by
  rw [inOutClass, h]
  rfl

theorem invoiceClass_eq {i : Invoice} (h : N.cInvoice record = some i) :
    N.invoiceClass record =
      if i.isSOTrx = some "Y" then some .customerInvoice
      else if i.isSOTrx = some "N" ∧ N.docBaseType i.docType = some "API" then
        some .vendorInvoice
      else none := by
  rw [invoiceClass, h]
  rfl

theorem paymentClass_eq {p : Payment} (h : N.cPayment record = some p) :
    N.paymentClass record =
      if p.isReceipt = some "Y" then some .payment
      else if p.isReceipt = some "N" ∧ p.isOnline = some "N" ∧
          some record ∉ N.cPaySelectionCheck ∧ (N.paymentBoundEvidence record).isSome then
        some .vendorPayment
      else none := by
  rw [paymentClass, h]
  rfl

end

/-- The side of an invoice a line joins. -/
def invoiceSide (client invoice : Int) : Option Side := do
  let i ← N.cInvoice invoice
  if i.adClientId = client then
    match N.invoiceClass invoice with
    | some .customerInvoice => some .sales
    | some .vendorInvoice => some .payables
    | _ => none
  else none

/-- The side of a payment a line joins; an outbound one only beside the invoice of
its evidence. -/
def paymentSide (client payment : Int) (invoice : Option Int) : Option Side := do
  let p ← N.cPayment payment
  if p.adClientId = client then
    match N.paymentClass payment with
    | some .payment => some .sales
    | some .vendorPayment =>
      if N.evidence.any fun e => some e.evidenceId = N.paymentBoundEvidence payment &&
          some e.cInvoiceId = invoice then some .payables else none
    | _ => none
  else none

/-- The sides of what a line joins. -/
def lineSides (client : Int) (invoice payment : Option Int) : List (Option Side) :=
  (if 0 < invoice.getD 0 then [N.invoiceSide client (invoice.getD 0)] else []) ++
    (if 0 < payment.getD 0 then [N.paymentSide client (payment.getD 0) invoice] else [])

/-- `allocation_line_side` -/
def allocationLineSide (client : Int) (invoice payment : Option Int) : Option Side :=
  let sides := N.lineSides client invoice payment
  if sides = [] ∨ none ∈ sides then none
  else if ∀ s ∈ sides, s = some .sales then some .sales
  else if ∀ s ∈ sides, s = some .payables then some .payables
  else none

/-- The lines of an allocation. -/
def allocationLines (hdr : Int) : List AllocationLine :=
  N.cAllocationLine.filter fun al => al.cAllocationHdrId = hdr

/-- The sides of the lines of the header's own client. -/
def ownSides (client : Int) (lines : List AllocationLine) : List (Option Side) :=
  (lines.filter fun al => al.adClientId = client).map fun al =>
    N.allocationLineSide client al.cInvoiceId al.cPaymentId

/-- The class of an allocation of the client with these lines. -/
def linesClass (client : Int) (lines : List AllocationLine) : Option OperationClass :=
  let sales := (N.ownSides client lines).count (some .sales)
  let payables := (N.ownSides client lines).count (some .payables)
  let other := (N.ownSides client lines).count none +
    (lines.filter fun al => al.adClientId ≠ client).length
  if other = 0 ∧ 0 < sales ∧ payables = 0 then some .allocation
  else if other = 0 ∧ 0 < payables ∧ sales = 0 then some .payablesAllocation
  else none

def allocationClass (record : Int) : Option OperationClass := do
  let h ← N.cAllocationHdr record
  N.linesClass h.adClientId (N.allocationLines record)

theorem allocationClass_eq {N : Native} {record : Int} {h : AllocationHdr}
    (hr : N.cAllocationHdr record = some h) :
    N.allocationClass record = N.linesClass h.adClientId (N.allocationLines record) := by
  rw [allocationClass, hr]
  rfl

/-- `governed_class_of` -/
def governedClassOf (table : NativeTable) (record : Int) : Option OperationClass :=
  match table with
  | .glJournal => N.glJournalClass record
  | .cOrder => N.orderClass record
  | .mInOut => N.inOutClass record
  | .cInvoice => N.invoiceClass record
  | .cPayment => N.paymentClass record
  | .cAllocationHdr => N.allocationClass record
  | _ => none

/-! ### Attributions of the transaction -/

/-- `has_current_attribution_for` -/
def hasCurrentAttributionFor (s : Session) (client : Int) (table : NativeTable) (record : Int)
    (cls : Option OperationClass) : Bool :=
  N.attribution.any fun a => a.txid = s.txid && a.adClientId = client && a.decisionId.isSome &&
    a.sourceTable = table && a.sourceRecordId = record && some a.operationClass = cls &&
    decide (s.clock < a.authorityExpiresAt)

/-- `has_governed_attribution` -/
def hasGovernedAttribution (s : Session) (client : Int) (table : NativeTable) (record : Int) :
    Bool :=
  N.hasCurrentAttributionFor s client table record (N.governedClassOf table record)

end Native
end NativeFinance
end BaobabErp
