/-
# Source documents and their row triggers

A row of one of the six governed header tables, and the BEFORE UPDATE triggers
the native migrations put on them: a trigger of named columns fires when the
statement's SET list names one of these, whatever it sets them to.
-/

import BaobabErp.NativeFinance.GovernedClass

namespace BaobabErp
namespace NativeFinance

/-- A row of a governed header table. -/
inductive Document where
  | glJournal (j : GLJournal)
  | cOrder (o : Order)
  | mInOut (io : InOut)
  | cInvoice (i : Invoice)
  | cPayment (p : Payment)
  | cAllocationHdr (h : AllocationHdr)
  deriving DecidableEq, Repr

/-- The columns the triggers and the classification read. -/
inductive Column where
  | adClientId | adOrgId | isSOTrx | movementType | cDocTypeId | cDocTypeTargetId
  | isReceipt | isOnline | cBPartnerId | cCurrencyId | payAmt | cInvoiceId | docStatus
  deriving DecidableEq, Repr

/-- What stands in a column. -/
inductive Cell where
  | id (n : Int)
  | text (s : String)
  | amount (q : Rat)
  deriving DecidableEq, Repr

namespace Document

def table : Document → NativeTable
  | glJournal _ => .glJournal
  | cOrder _ => .cOrder
  | mInOut _ => .mInOut
  | cInvoice _ => .cInvoice
  | cPayment _ => .cPayment
  | cAllocationHdr _ => .cAllocationHdr

def adClientId : Document → Int
  | glJournal j => j.adClientId
  | cOrder o => o.adClientId
  | mInOut io => io.adClientId
  | cInvoice i => i.adClientId
  | cPayment p => p.adClientId
  | cAllocationHdr h => h.adClientId

def adOrgId : Document → Int
  | glJournal j => j.adOrgId
  | cOrder o => o.adOrgId
  | mInOut io => io.adOrgId
  | cInvoice i => i.adOrgId
  | cPayment p => p.adOrgId
  | cAllocationHdr h => h.adOrgId

/-- The columns of its own table. -/
def own : Document → Column → Option Cell
  | cOrder o, .isSOTrx => o.isSOTrx.map .text
  | mInOut io, .isSOTrx => io.isSOTrx.map .text
  | mInOut io, .movementType => io.movementType.map .text
  | cInvoice i, .isSOTrx => i.isSOTrx.map .text
  | cInvoice i, .cDocTypeId => i.cDocTypeId.map .id
  | cInvoice i, .cDocTypeTargetId => i.cDocTypeTargetId.map .id
  | cPayment p, .isReceipt => p.isReceipt.map .text
  | cPayment p, .isOnline => p.isOnline.map .text
  | cPayment p, .cBPartnerId => p.cBPartnerId.map .id
  | cPayment p, .cCurrencyId => p.cCurrencyId.map .id
  | cPayment p, .payAmt => p.payAmt.map .amount
  | cPayment p, .cInvoiceId => p.cInvoiceId.map .id
  | cPayment p, .docStatus => p.docStatus.map .text
  | cAllocationHdr h, .docStatus => h.docStatus.map .text
  | _, _ => none

/-- What the row has in a column, `none` for NULL. -/
def column (d : Document) : Column → Option Cell
  | .adClientId => some (.id d.adClientId)
  | .adOrgId => some (.id d.adOrgId)
  | c => d.own c

end Document

/-! ### The triggers -/

namespace Native

variable (N : Native)

/-- The stored row of a header table. -/
def document (table : NativeTable) (record : Int) : Option Document :=
  match table with
  | .glJournal => (N.glJournal record).map .glJournal
  | .cOrder => (N.cOrder record).map .cOrder
  | .mInOut => (N.mInOut record).map .mInOut
  | .cInvoice => (N.cInvoice record).map .cInvoice
  | .cPayment => (N.cPayment record).map .cPayment
  | .cAllocationHdr => (N.cAllocationHdr record).map .cAllocationHdr
  | _ => none

/-- `forbid_document_org_change`, which lets the row pass or raises. -/
def forbidDocumentOrgChange (old new : Document) : Bool :=
  !(decide ((new.adClientId, new.adOrgId) ≠ (old.adClientId, old.adOrgId)) &&
    (N.clientIsPlaced old.adClientId || N.clientIsPlaced new.adClientId))

/-- `forbid_direction_change` of a column. -/
def forbidDirectionChange (c : Column) (old new : Document) : Bool :=
  !(N.clientIsPlaced old.adClientId && decide (new.column c ≠ old.column c))

/-- `forbid_outbound_online_change` -/
def forbidOutboundOnlineChange (old new : Document) : Bool :=
  !(N.clientIsPlaced old.adClientId && decide (old.column .isReceipt = some (.text "N")) &&
    decide (new.column .isOnline ≠ old.column .isOnline))

end Native

/-- A BEFORE UPDATE trigger: the columns it is of, and whether it lets a row pass. -/
structure RowTrigger where
  of : List Column
  passes : Native → Document → Document → Bool

/-- `baobab_direction_lock` and `baobab_class_lock_…` -/
def RowTrigger.lock (c : Column) : RowTrigger := ⟨[c], (·.forbidDirectionChange c)⟩

/-- `baobab_document_org_fixed` -/
def RowTrigger.orgFixed : RowTrigger := ⟨[.adClientId, .adOrgId], (·.forbidDocumentOrgChange)⟩

/-- The BEFORE UPDATE triggers of a header table. -/
def rowTriggers : NativeTable → List RowTrigger
  | .cOrder => [.orgFixed, .lock .isSOTrx]
  | .mInOut => [.orgFixed, .lock .isSOTrx, .lock .movementType]
  | .cInvoice => [.orgFixed, .lock .isSOTrx]
  | .cPayment => [.orgFixed, .lock .isReceipt, ⟨[.isOnline], (·.forbidOutboundOnlineChange)⟩]
  | .glJournal => [.orgFixed]
  | .cAllocationHdr => [.orgFixed]
  | _ => []

/-- **One row of an UPDATE statement.**  A column the SET list does not name keeps
what stands in it. -/
structure RowUpdate where
  set : List Column
  old : Document
  new : Document
  table : new.table = old.table
  unset : ∀ c, c ∉ set → new.column c = old.column c

/-- Every trigger that fires lets the row pass. -/
def Native.admits (N : Native) (u : RowUpdate) : Bool :=
  (rowTriggers u.old.table).all fun t =>
    !(t.of.any fun c => decide (c ∈ u.set)) || t.passes N u.old u.new

namespace RowUpdate

variable {N : Native} {u : RowUpdate}

/-- A trigger passes that fires. -/
theorem passes_of_admits (ha : N.admits u = true) {t : RowTrigger} (ht : t ∈ rowTriggers u.old.table)
    {c : Column} (hc : c ∈ t.of) (hs : c ∈ u.set) : t.passes N u.old u.new = true := by
  have h := List.all_eq_true.1 ha t ht
  have hfire : t.of.any (fun c => decide (c ∈ u.set)) = true :=
    List.any_eq_true.2 ⟨c, hc, decide_eq_true hs⟩
  rwa [hfire, Bool.not_true, Bool.false_or] at h

/-- **A locked column keeps its value** in a document of a placed client. -/
theorem column_of_lock (ha : N.admits u = true) (hp : N.clientIsPlaced u.old.adClientId = true)
    {c : Column} (ht : .lock c ∈ rowTriggers u.old.table) : u.new.column c = u.old.column c := by
  by_cases hs : c ∈ u.set
  · have h : N.forbidDirectionChange c u.old u.new = true :=
      passes_of_admits ha ht (List.mem_singleton.2 rfl) hs
    rw [Native.forbidDirectionChange, hp, Bool.true_and, Bool.not_eq_true',
      decide_eq_false_iff_not, ne_eq, Decidable.not_not] at h
    exact h
  · exact u.unset c hs

/-- **A document of a placed client keeps its client and organisation.** -/
theorem owner_of_admits (ha : N.admits u = true) (hp : N.clientIsPlaced u.old.adClientId = true)
    (ht : .orgFixed ∈ rowTriggers u.old.table) :
    u.new.adClientId = u.old.adClientId ∧ u.new.adOrgId = u.old.adOrgId := by
  have hfix : ∀ c ∈ RowTrigger.orgFixed.of, c ∈ u.set →
      u.new.adClientId = u.old.adClientId ∧ u.new.adOrgId = u.old.adOrgId := by
    intro c hc hs
    have h : N.forbidDocumentOrgChange u.old u.new = true := passes_of_admits ha ht hc hs
    rw [Native.forbidDocumentOrgChange, hp, Bool.true_or, Bool.and_true, Bool.not_eq_true',
      decide_eq_false_iff_not, ne_eq, Decidable.not_not] at h
    exact ⟨congrArg Prod.fst h, congrArg Prod.snd h⟩
  by_cases hc : Column.adClientId ∈ u.set
  · exact hfix _ (List.mem_cons_self ..) hc
  by_cases ho : Column.adOrgId ∈ u.set
  · exact hfix _ (List.mem_cons_of_mem _ (List.mem_cons_self ..)) ho
  have h₁ := u.unset _ hc
  have h₂ := u.unset _ ho
  simp only [Document.column, Option.some.injEq, Cell.id.injEq] at h₁ h₂
  exact ⟨h₁, h₂⟩

end RowUpdate
end NativeFinance
end BaobabErp
