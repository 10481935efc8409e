/-
# The placement of a source document

`NativeOperation`, the registry `native_placement` with the `document_provenance`
of the source documents, and `PlacementContextSource`, which looks up where the
source document of an operation is placed.

The organisation of the row that is saved counts for a header alone.  A line, a
ledger row or a cost detail goes by its source document, whatever its own
organisation is.
-/

import BaobabErp.Events.CloudEvent
import BaobabErp.NativeFinance.Resolver
import BaobabErp.Python.UuidSpelling
import Mathlib.Data.List.Pairwise

namespace BaobabErp
namespace NativeFinance

open OrderToCash (postgresUuid)

/-! ### The operation and its reference -/

/-- The text of an operation class. -/
def OperationClass.name : OperationClass → String
  | .glJournal => "erp.gl-journal.post"
  | .customerInvoice => "erp.customer-invoice.issue"
  | .payment => "erp.payment.record"
  | .allocation => "erp.allocation.record"
  | .shipment => "erp.shipment.complete"
  | .salesOrder => "erp.sales-order.complete"
  | .purchaseOrder => "erp.purchase-order.complete"
  | .materialReceipt => "erp.material-receipt.complete"
  | .vendorInvoice => "erp.vendor-invoice.record"
  | .vendorPayment => "erp.vendor-payment.record"
  | .payablesAllocation => "erp.payables-allocation.record"

/-- The name of a table. -/
def NativeTable.name : NativeTable → String
  | .glJournal => "GL_Journal"
  | .cInvoice => "C_Invoice"
  | .cPayment => "C_Payment"
  | .cAllocationHdr => "C_AllocationHdr"
  | .mInOut => "M_InOut"
  | .cOrder => "C_Order"
  | .glJournalLine => "GL_JournalLine"
  | .cInvoiceLine => "C_InvoiceLine"
  | .cAllocationLine => "C_AllocationLine"
  | .mInOutLine => "M_InOutLine"
  | .cOrderLine => "C_OrderLine"
  | .factAcct => "Fact_Acct"
  | .mMatchPO => "M_MatchPO"
  | .mMatchInv => "M_MatchInv"
  | .mCostDetail => "M_CostDetail"
  | .other name => name

/-- `NativeRecord` with the two fields that the classification does not use. -/
structure NativeChange extends NativeRecord where
  action : String
  transactionName : String

/-- The UTF-16 units of a text, all but printable ASCII replaced by `_`. -/
def printable (cs : List Char) : List Char :=
  cs.flatMap fun c =>
    if 0x21 ≤ c.toNat ∧ c.toNat ≤ 0x7E then [c] else if c.toNat ≤ 0xFFFF then ['_'] else ['_', '_']

/-- `operationReference` -/
def NativeOperation.operationReference (o : NativeOperation) (c : NativeChange) : Option String :=
  let raw := "erp/" ++ o.operationClass.name ++ "/" ++ o.sourceTable.name ++ "/" ++
    toString o.sourceRecordId ++ "/" ++ c.table.name ++ "/" ++ toString c.recordId ++ "/" ++
    c.action ++ "/" ++ c.transactionName
  let out := printable raw.toList
  if 256 < out.length then none else some (String.ofList out)

/-! ### The registry -/

/-- `NativePlacement`, a version of `native_placement` as the queries return it, with
the CHECKs of N0001; a column of type `uuid` holds its canonical text. -/
@[ext]
structure NativePlacement where
  placementId : String
  version : Int
  tenantId : String
  engineInstanceId : String
  operatingOrganisationId : String
  legalEntityId : String
  market : String
  adClientId : Int
  adOrgId : Int
  placementId_uuid : postgresUuid placementId = some placementId
  version_pos : 1 ≤ version
  tenantId_canonical : Identifiers.isTenantId tenantId = true
  organisation_uuid : postgresUuid operatingOrganisationId = some operatingOrganisationId
  legalEntityId_canonical : Identifiers.isLegalEntityId legalEntityId = true
  adClientId_pos : 0 < adClientId
  adOrgId_pos : 0 < adOrgId

instance : DecidableEq NativePlacement := fun _ _ => decidable_of_iff' _ NativePlacement.ext_iff

/-- A row of `native_placement`; its window is open where it has no end. -/
structure PlacementVersion extends NativePlacement where
  effectiveFrom : Int
  effectiveTo : Option Int
  deriving DecidableEq

/-- The version is in force at this reading of the clock. -/
def PlacementVersion.inForce (v : PlacementVersion) (clock : Int) : Bool :=
  v.effectiveFrom ≤ clock && v.effectiveTo.all fun e => clock < e

/-- What no later version of a placement changes (`native_placement_guard`). -/
def NativePlacement.identity (p : NativePlacement) : String × String × String × Int × Int :=
  (p.tenantId, p.operatingOrganisationId, p.legalEntityId, p.adClientId, p.adOrgId)

/-- Of one native organisation, the two are never in force together. -/
def PlacementVersion.Apart (v u : PlacementVersion) : Prop :=
  v.adClientId = u.adClientId → v.adOrgId = u.adOrgId →
    ∀ clock, ¬(v.inForce clock = true ∧ u.inForce clock = true)

instance : Std.Symm PlacementVersion.Apart where
  symm _ _ h hc ho clock hf := h hc.symm ho.symm clock ⟨hf.2, hf.1⟩

/-- `document_provenance`: the placement a source document was created under. -/
structure Provenance where
  nativeTable : NativeTable
  recordId : Int
  adClientId : Int
  adOrgId : Int
  placementId : String
  placementVersion : Int
  recordId_pos : 0 < recordId

/-- **The registry**, with what its triggers keep. -/
structure Registry where
  versions : List PlacementVersion
  provenance : List Provenance
  /-- the active organisations of `ad_org`, each with its client -/
  activeOrgs : List (Int × Int)
  identity_eq : ∀ v ∈ versions, ∀ u ∈ versions, v.placementId = u.placementId →
    v.identity = u.identity
  /-- the windows of a native organisation never overlap -/
  apart : versions.Pairwise PlacementVersion.Apart

namespace Registry

variable (R : Registry)

/-- The version is in force and its native organisation is active. -/
def usable (clock : Int) (v : PlacementVersion) : Bool :=
  v.inForce clock && (v.adClientId, v.adOrgId) ∈ R.activeOrgs

/-- `CURRENT_FOR_ORG` -/
def currentForOrg (clock client org : Int) : List PlacementVersion :=
  R.versions.filter fun v => v.adClientId = client && v.adOrgId = org && R.usable clock v

/-- `CURRENT_FOR_PROVENANCE`; `header` asks for the organisation as well. -/
def currentForProvenance (clock : Int) (table : NativeTable) (record client : Int) (header : Bool)
    (org : Int) : List PlacementVersion :=
  (R.provenance.filter fun d => d.nativeTable = table && d.recordId = record &&
    d.adClientId = client && (!header || d.adOrgId = org)).flatMap fun d =>
      (R.versions.filter fun u => u.placementId = d.placementId &&
        u.version = d.placementVersion).flatMap fun (origin : PlacementVersion) =>
          R.versions.filter fun v => v.placementId == origin.placementId &&
            decide (origin.version ≤ v.version) && R.usable clock v &&
            v.identity == origin.identity && v.market == origin.market

/-- `currentPlacement`: the one row, or nothing. -/
def currentPlacement (clock : Int) (o : NativeOperation) (c : NativeChange) :
    Option NativePlacement :=
  if o.sourceRecordId = 0 ∧ o.sourceTable ≠ c.table then none
  else
    match if o.sourceRecordId = 0 then R.currentForOrg clock c.adClientId c.adOrgId
      else R.currentForProvenance clock o.sourceTable o.sourceRecordId c.adClientId
        (o.sourceTable = c.table && o.sourceRecordId = c.recordId) c.adOrgId with
    | [v] => some v.toNativePlacement
    | _ => none

/-- A version of the placement is in force. -/
def inForce (clock : Int) (p : NativePlacement) : Bool :=
  R.versions.any fun v => v.toNativePlacement = p && v.inForce clock

section

variable {R : Registry} {clock : Int}

/-- **At most one version of a native organisation is in force.** -/
theorem eq_of_inForce {v u : PlacementVersion} (hv : v ∈ R.versions) (hu : u ∈ R.versions)
    (hc : v.adClientId = u.adClientId) (ho : v.adOrgId = u.adOrgId) (hfv : v.inForce clock = true)
    (hfu : u.inForce clock = true) : v = u := by
  by_contra hne
  exact R.apart.forall hv hu hne hc ho clock ⟨hfv, hfu⟩

/-- **The source document of a placed operation has a positive id**, unless the
operation is the header itself. -/
theorem sourceRecordId_pos {o : NativeOperation} {c : NativeChange} {p : NativePlacement}
    (h : R.currentPlacement clock o c = some p) (ht : o.sourceTable ≠ c.table) :
    0 < o.sourceRecordId := by
  rw [currentPlacement] at h
  by_cases hz : o.sourceRecordId = 0
  · rw [if_pos ⟨hz, ht⟩] at h
    cases h
  · rw [if_neg fun hh => hz hh.1, if_neg hz] at h
    split at h
    · next v hv =>
      have hmem : v ∈ [v] := List.mem_singleton.2 rfl
      rw [← hv, currentForProvenance, List.mem_flatMap] at hmem
      obtain ⟨d, hd, -⟩ := hmem
      have hrec : d.recordId = o.sourceRecordId := by
        have hd := (List.mem_filter.1 hd).2
        simp only [Bool.and_eq_true, decide_eq_true_eq] at hd
        exact hd.1.1.2
      rw [← hrec]
      exact d.recordId_pos
    · cases h

end
end Registry
end NativeFinance
end BaobabErp
