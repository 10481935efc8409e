/-
# The COMMIT fences of the cost tables

A cost detail and a cost bucket inherit their authority from a document that the
transaction is authorised for: `purchase_cost_root`, `invoice_cost_root`,
`cost_detail_commit_fence`, `cost_bucket_covered` and `cost_commit_fence`.

A fence looks at one image of a row, the new one, or the old one of a deleted
row.  So an UPDATE that takes a row away from a document or a bucket the
transaction has no authority for passes, where the sibling fence of the matching
tables (N0006) asks for both roots.
-/

import BaobabErp.NativeFinance.GovernedClass
import Mathlib.Data.List.Dedup

namespace BaobabErp
namespace NativeFinance
namespace Native

variable (N : Native)

/-! ### The document a cost detail comes from -/

/-- The receipt of a match, if it is the root of a purchase cost. -/
def purchaseCandidate (s : Session) (client org orderLine : Int) (mp : MatchPO) : Option Int := do
  let l ← N.mInOutLine (← mp.mInOutLineId)
  let io ← N.mInOut l.mInOutId
  if mp.cOrderLineId = some orderLine ∧ mp.adClientId = client ∧ l.adClientId = mp.adClientId ∧
      io.adClientId = mp.adClientId ∧ (org = 0 ∨ io.adOrgId = org) ∧
      N.hasCurrentAttributionFor s client .mInOut l.mInOutId (some .materialReceipt) then
    some l.mInOutId
  else none

/-- `purchase_cost_root` -/
def purchaseCostRoot (s : Session) (client org orderLine : Int) : Option Int :=
  match (N.mMatchPO.filterMap (N.purchaseCandidate s client org orderLine)).dedup with
  | [receipt] => some receipt
  | _ => none

/-- `invoice_cost_root` -/
def invoiceCostRoot (client org invoiceLine : Int) : Option Int := do
  let il ← N.cInvoiceLine invoiceLine
  let i ← N.cInvoice il.cInvoiceId
  if il.adClientId = client ∧ i.adClientId = il.adClientId ∧ (org = 0 ∨ i.adOrgId = org) ∧
      N.governedClassOf .cInvoice il.cInvoiceId = some .vendorInvoice ∧
      N.mMatchInv.any (fun mi => mi.cInvoiceLineId = some invoiceLine && mi.adClientId = client) then
    some il.cInvoiceId
  else none

end Native

/-- `COALESCE(column, 0) = 0` for a source column. -/
def unset (c : Option Int) : Bool := c.getD 0 = 0

/-- The sources the fence wants unset beside the line a detail comes from. -/
def CostSources.otherwiseUnset (r : CostSources) : Bool :=
  unset r.mMatchInvId && unset r.mInventoryLineId && unset r.mMovementLineId &&
    unset r.mProductionLineId && unset r.cProjectIssueId && unset r.ppCostCollectorId

namespace Native

variable (N : Native)

/-- The detail's own line belongs to the root shipment. -/
def shipmentSource (d : DerivedWrite) (r : CostDetail) : Bool :=
  d.rootTable = .mInOut &&
    r.mInOutLineId.any fun line => (N.mInOutLine line).any fun l => l.mInOutId = d.rootRecordId

/-- An order line alone, of the one matched and authorised receipt. -/
def purchaseSource (s : Session) (d : DerivedWrite) (r : CostDetail) : Bool :=
  d.rootTable = .mInOut && unset r.mInOutLineId && decide (0 < r.cOrderLineId.getD 0) &&
    unset r.cInvoiceLineId && r.otherwiseUnset &&
    N.purchaseCostRoot s r.adClientId r.adOrgId (r.cOrderLineId.getD 0) = some d.rootRecordId

/-- An invoice line alone, of its own matched vendor invoice. -/
def invoiceSource (d : DerivedWrite) (r : CostDetail) : Bool :=
  d.rootTable = .cInvoice && r.isSOTrx = some "N" && unset r.mInOutLineId &&
    unset r.cOrderLineId && decide (0 < r.cInvoiceLineId.getD 0) && r.otherwiseUnset &&
    N.invoiceCostRoot r.adClientId r.adOrgId (r.cInvoiceLineId.getD 0) = some d.rootRecordId

/-- A derived write of the transaction is of this detail and its root still holds. -/
def derives (s : Session) (d : DerivedWrite) (r : CostDetail) : Bool :=
  d.txid = s.txid && d.adClientId = r.adClientId && d.mProductId = r.mProductId &&
    d.cAcctSchemaId = r.cAcctSchemaId &&
    N.hasGovernedAttribution s d.adClientId d.rootTable d.rootRecordId &&
    (N.shipmentSource d r || N.purchaseSource s d r || N.invoiceSource d r)

/-- A cost detail follows from a document the transaction is authorised for. -/
def costDetailCovered (s : Session) (r : CostDetail) : Bool :=
  N.derivedWrite.any fun d => N.derives s d r

/-- The element of a bucket is the detail's, or one of a costing method where the
detail has none. -/
def elementCovered (d : DerivedWrite) (element : Int) : Bool :=
  d.mCostElementId = element || d.mCostElementId = 0 &&
    (N.mCostElement element).any fun ce => ce.costElementType = "M" && ce.costingMethod.isSome

/-- `cost_bucket_covered` -/
def costBucketCovered (s : Session) (r : Cost) : Bool :=
  N.derivedWrite.any fun d =>
    d.txid = s.txid && d.adClientId = r.adClientId && d.mProductId = r.mProductId &&
    d.cAcctSchemaId = r.cAcctSchemaId && (d.adOrgId = r.adOrgId || r.adOrgId = 0) &&
    (N.cAcctSchema d.cAcctSchemaId).any (fun s => s.mCostTypeId = r.mCostTypeId) &&
    (r.mAttributeSetInstanceId = 0 || r.mAttributeSetInstanceId = d.mAttributeSetInstanceId) &&
    N.elementCovered d r.mCostElementId &&
    N.hasGovernedAttribution s d.adClientId d.rootTable d.rootRecordId

end Native

/-! ### The fences -/

/-- What a statement did to a row. -/
inductive RowChange (R : Type) where
  | insert (new : R)
  | update (old new : R)
  | delete (old : R)
  deriving DecidableEq, Repr

/-- The row before and the row after, where there is one. -/
def RowChange.images {R : Type} : RowChange R → List R
  | insert new => [new]
  | update old new => [old, new]
  | delete old => [old]

/-- `IF TG_OP = 'DELETE' THEN r := OLD; ELSE r := NEW; END IF` -/
def RowChange.fenced {R : Type} : RowChange R → R
  | insert new => new
  | update _ new => new
  | delete old => old

/-- What a transaction did to a row of one of the two cost tables. -/
inductive CostChange where
  | detail (c : RowChange CostDetail)
  | cost (c : RowChange Cost)
  deriving DecidableEq, Repr

/-- A row of one of the two cost tables. -/
inductive CostRow where
  | detail (r : CostDetail)
  | cost (r : Cost)
  deriving DecidableEq, Repr

def CostRow.adClientId : CostRow → Int
  | detail r => r.adClientId
  | cost r => r.adClientId

/-- The transaction covers the row, as the fence of its table asks. -/
def Native.covers (N : Native) (s : Session) : CostRow → Bool
  | .detail r => N.costDetailCovered s r
  | .cost r => N.costBucketCovered s r

/-- `cost_detail_commit_fence` and `cost_commit_fence` of an image. -/
def Native.costFence (N : Native) (s : Session) (r : CostRow) : Bool :=
  !N.clientIsPlaced r.adClientId || N.covers s r

namespace CostChange

def images : CostChange → List CostRow
  | detail c => c.images.map .detail
  | cost c => c.images.map .cost

def fenced : CostChange → CostRow
  | detail c => .detail c.fenced
  | cost c => .cost c.fenced

/-- The row an UPDATE found. -/
def former : CostChange → Option CostRow
  | detail (.update old _) => some (.detail old)
  | cost (.update old _) => some (.cost old)
  | _ => none

end CostChange

/-- **A deferred fence fires** at COMMIT, or where the transaction asks for it
earlier: for a change, in the database it finds then. -/
structure Firing where
  db : Native
  clock : Int
  change : CostChange

/-- What a transaction did to the cost tables, in the order its fences fire. -/
structure CostTransaction where
  txid : Int
  firings : List Firing

def CostTransaction.session (t : CostTransaction) (f : Firing) : Session := ⟨t.txid, f.clock⟩

/-- No fence raises. -/
def CostTransaction.commits (t : CostTransaction) : Bool :=
  t.firings.all fun f => f.db.costFence (t.session f) f.change.fenced

/-- **Both images of a change are covered** where they are of a placed client. -/
def Firing.Covered (f : Firing) (s : Session) : Prop :=
  ∀ r ∈ f.change.images, f.db.clientIsPlaced r.adClientId = true → f.db.covers s r = true

/-- The columns that decide the coverage stay as they are. -/
def CostChange.Stays (c : CostChange) : Prop :=
  c.former.all fun r => decide (r = c.fenced)

/-- **What an UPDATE takes a row from**: nothing the coverage reads changes, or it
was no placed client's row, or the transaction covers the former row as well. -/
def Firing.FormerCovered (f : Firing) (s : Session) : Prop :=
  f.change.Stays ∨ ∀ r ∈ f.change.former,
    f.db.clientIsPlaced r.adClientId = true → f.db.covers s r = true

/-- The images of a change are the one the fence looks at and the former one. -/
theorem CostChange.mem_images_iff {c : CostChange} {r : CostRow} :
    r ∈ c.images ↔ r = c.fenced ∨ c.former = some r := by
  rcases c with (_ | _ | _) | (_ | _ | _) <;>
    simp [images, fenced, former, RowChange.images, RowChange.fenced, or_comm, eq_comm]

/-- What the fence of a committed transaction has looked at is covered. -/
theorem CostTransaction.covers_fenced {t : CostTransaction} (ht : t.commits = true) {f : Firing}
    (hf : f ∈ t.firings) (hp : f.db.clientIsPlaced f.change.fenced.adClientId = true) :
    f.db.covers (t.session f) f.change.fenced = true := by
  have h := List.all_eq_true.1 ht f hf
  rwa [Native.costFence, hp, Bool.not_true, Bool.false_or] at h

/-- **The cost fences cover what a row was exactly where** the UPDATE leaves it as it
was, or the transaction covers what it was. -/
theorem cost_images_covered_iff {t : CostTransaction} (ht : t.commits = true) {f : Firing}
    (hf : f ∈ t.firings) : f.Covered (t.session f) ↔ f.FormerCovered (t.session f) := by
  constructor
  · intro h
    refine Or.inr fun r hr hp => h r ?_ hp
    exact CostChange.mem_images_iff.2 (Or.inr hr)
  · intro h r hr hp
    rcases CostChange.mem_images_iff.1 hr with rfl | hold
    · exact t.covers_fenced ht hf hp
    rcases h with hstays | hformer
    · have he : r = f.change.fenced := by
        rw [CostChange.Stays, hold] at hstays
        exact of_decide_eq_true hstays
      subst he
      exact t.covers_fenced ht hf hp
    · exact hformer r hold hp

/-! ### A detail moved away from a shipment without authority -/

/-- A placed client with two shipments, of which a transaction is authorised for the
first and has recorded a costing write for it. -/
def twoShipments : Native :=
  { Native.empty with
    nativePlacement := [11]
    mInOut := fun r => if r = 500 ∨ r = 600 then some ⟨11, 12, some "Y", some "C-"⟩ else none
    mInOutLine := fun r =>
      if r = 50 then some ⟨11, 500⟩ else if r = 60 then some ⟨11, 600⟩ else none
    attribution := [⟨1, 11, some "d-1", .shipment, .mInOut, 500, 30⟩]
    derivedWrite := [⟨1, .mInOut, 500, 11, 12, 7, 3, 0, 0, Or.inl rfl, by decide⟩] }

/-- The cost detail of a shipment line. -/
def detailOf (line : Int) : CostDetail :=
  { mInOutLineId := some line, cInvoiceLineId := none, cOrderLineId := none
    mInventoryLineId := none, mMovementLineId := none, mProductionLineId := none
    mMatchInvId := none, mMatchPOId := none, cProjectIssueId := none
    cLandedCostAllocationId := none, aAssetId := none, ppCostCollectorId := none
    adClientId := 11, adOrgId := 12, mProductId := 7, cAcctSchemaId := 3, isSOTrx := some "Y" }

/-- A transaction that updates the detail of one line to be of another. -/
def moveDetail (line line' : Int) : CostTransaction :=
  ⟨1, [⟨twoShipments, 5, .detail (.update (detailOf line) (detailOf line'))⟩]⟩

/-- **The cost fences do not cover both images**: an UPDATE moves a detail from a
shipment without authority to the authorised one, and commits. -/
theorem cost_images_not_covered :
    ¬ ∀ (t : CostTransaction), t.commits = true → ∀ f ∈ t.firings, f.Covered (t.session f) := by
  intro h
  have hc := h (moveDetail 60 50) (by decide) _ (List.mem_singleton.2 rfl) (.detail (detailOf 60))
    (by decide) (by decide)
  exact absurd hc (by decide)

/-- A detail that stays with the authorised shipment. -/
theorem cost_images_covered_of_stays :
    let f := (moveDetail 50 50).firings.head (by decide)
    f.Covered ((moveDetail 50 50).session f) ↔ f.FormerCovered ((moveDetail 50 50).session f) :=
  cost_images_covered_iff (t := moveDetail 50 50) (by decide) (List.head_mem _)

end NativeFinance
end BaobabErp
