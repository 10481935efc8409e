/-
# What an UPDATE can make of a governed document

"The facts that decide a purchase-side class are fixed once the row exists"
(N0006).  The triggers hold the direction of an order, a receipt and an invoice,
and the movement type of a receipt.  They do not hold the document type of an
invoice, on which the class of a purchase invoice rests: an AP invoice becomes
an AP credit memo by an UPDATE of `C_DocType_ID`.
-/

import BaobabErp.NativeFinance.Documents
import Mathlib.Tactic.ByContra
import Mathlib.Tactic.FinCases

namespace BaobabErp
namespace NativeFinance

/-- **A row of an UPDATE statement** that every trigger lets pass, from `N` to `N'`.
The statement is of a header table, so it leaves the document types. -/
structure Updates (N : Native) (u : RowUpdate) (record record' : Int) (N' : Native) : Prop where
  before : N.document u.old.table record = some u.old
  after : N'.document u.old.table record' = some u.new
  docTypes : N'.cDocType = N.cDocType
  admitted : N.admits u = true

/-- The document type of a purchase invoice is still one of base type `API`. -/
def DocTypeStays (N : Native) : Document → Prop
  | .cInvoice i => i.isSOTrx = some "Y" ∨ N.docBaseType i.docType = some "API"
  | _ => True

section

variable {N N' : Native} {u : RowUpdate} {record record' : Int} {cls : OperationClass}

theorem orderClass_congr {o o' : Order} (h : N.cOrder record = some o)
    (h' : N'.cOrder record' = some o') (he : o'.isSOTrx = o.isSOTrx) :
    N'.orderClass record' = N.orderClass record := by
  rw [Native.orderClass_eq h', Native.orderClass_eq h, he]

theorem inOutClass_congr {io io' : InOut} (h : N.mInOut record = some io)
    (h' : N'.mInOut record' = some io') (he : io'.isSOTrx = io.isSOTrx)
    (hm : io'.movementType = io.movementType) : N'.inOutClass record' = N.inOutClass record := by
  rw [Native.inOutClass_eq h', Native.inOutClass_eq h, he, hm]

theorem docBaseType_congr (h : N'.cDocType = N.cDocType) (t : Option Int) :
    N'.docBaseType t = N.docBaseType t := by
  rw [Native.docBaseType, Native.docBaseType, h]

/-- A text column of two rows with the same cell. -/
theorem text_of_column {s s' : Option String} (h : s'.map Cell.text = s.map Cell.text) : s' = s :=
  Option.map_injective (fun _ _ he => Cell.text.inj he) h

/-- **An invoice with its direction keeps its class** exactly if it is a sales one
or its document type still has the base type `API`. -/
theorem invoiceClass_kept_iff {i i' : Invoice} (h : N.cInvoice record = some i)
    (h' : N'.cInvoice record' = some i') (hd : N'.cDocType = N.cDocType)
    (he : i'.isSOTrx = i.isSOTrx) (hc : N.invoiceClass record = some cls) :
    N'.invoiceClass record' = some cls ↔ DocTypeStays N (.cInvoice i') := by
  rw [Native.invoiceClass_eq h] at hc
  rw [Native.invoiceClass_eq h', docBaseType_congr hd, he]
  show _ ↔ i'.isSOTrx = some "Y" ∨ _
  rw [he]
  by_cases hy : i.isSOTrx = some "Y"
  · rw [if_pos hy] at hc ⊢
    exact ⟨fun _ => Or.inl hy, fun _ => hc⟩
  · rw [if_neg hy] at hc ⊢
    have hn : i.isSOTrx = some "N" := by
      by_contra hno
      rw [if_neg fun h => hno h.1] at hc
      cases hc
    have hv : cls = .vendorInvoice := by
      split at hc
      · exact (Option.some.inj hc).symm
      · cases hc
    subst hv
    by_cases ha : N.docBaseType i'.docType = some "API"
    · rw [if_pos ⟨hn, ha⟩]
      exact ⟨fun _ => Or.inr ha, fun _ => rfl⟩
    · rw [if_neg fun h => ha h.2]
      constructor
      · intro h
        cases h
      · rintro (h | h)
        · exact absurd h hy
        · exact absurd h ha

/-- **The class facts of a document that an UPDATE changes.**  An order and a
receipt keep their class; an invoice keeps it exactly if it is a sales invoice or
its document type after the update is still of base type `API`. -/
theorem class_kept_iff (ht : u.old.table ∈ [NativeTable.cOrder, .mInOut, .cInvoice])
    (hu : Updates N u record record' N') (hp : N.clientIsPlaced u.old.adClientId = true)
    (hc : N.governedClassOf u.old.table record = some cls) :
    N'.governedClassOf u.old.table record' = some cls ↔ DocTypeStays N u.new := by
  obtain ⟨hb, ha, hd, hadm⟩ := hu
  have hlock : ∀ t c, u.old.table = t → .lock c ∈ rowTriggers t →
      u.new.column c = u.old.column c := by
    rintro _ c rfl hc
    exact RowUpdate.column_of_lock hadm hp hc
  obtain ⟨set, old, new, htab, _⟩ := u
  cases old with
  | glJournal _ => simp [Document.table] at ht
  | cPayment _ => simp [Document.table] at ht
  | cAllocationHdr _ => simp [Document.table] at ht
  | cOrder o =>
    cases new with
    | cOrder o' =>
      have he : o'.isSOTrx = o.isSOTrx :=
        text_of_column (hlock .cOrder .isSOTrx rfl (.tail _ (.head _)))
      refine iff_of_true ?_ trivial
      rw [← hc]
      exact orderClass_congr (by simpa [Native.document, Document.table] using hb)
        (by simpa [Native.document, Document.table] using ha) he
    | _ => cases htab
  | mInOut io =>
    cases new with
    | mInOut io' =>
      have he : io'.isSOTrx = io.isSOTrx :=
        text_of_column (hlock .mInOut .isSOTrx rfl (.tail _ (.head _)))
      have hm : io'.movementType = io.movementType :=
        text_of_column (hlock .mInOut .movementType rfl (.tail _ (.tail _ (.head _))))
      refine iff_of_true ?_ trivial
      rw [← hc]
      exact inOutClass_congr (by simpa [Native.document, Document.table] using hb)
        (by simpa [Native.document, Document.table] using ha) he hm
    | _ => cases htab
  | cInvoice i =>
    cases new with
    | cInvoice i' =>
      have he : i'.isSOTrx = i.isSOTrx :=
        text_of_column (hlock .cInvoice .isSOTrx rfl (.tail _ (.head _)))
      exact invoiceClass_kept_iff (by simpa [Native.document, Document.table] using hb)
        (by simpa [Native.document, Document.table] using ha) hd he hc
    | _ => cases htab

end

/-! ### An AP invoice becomes an AP credit memo -/

/-- A placed client with a document type of base type `API` and one of `APC`. -/
def twoDocTypes : Native :=
  { Native.empty with
    nativePlacement := [11]
    cDocType := fun t => if t = 123 then some ⟨some "API"⟩ else if t = 124 then some ⟨some "APC"⟩
      else none }

/-- A purchase invoice of a document type. -/
def invoiceOf (docType : Int) : Invoice := ⟨11, 12, some "N", some docType, some docType⟩

/-- The database with an invoice. -/
def withInvoice (N : Native) (record : Int) (i : Invoice) : Native :=
  { N with cInvoice := fun r => if r = record then some i else none }

/-- `UPDATE c_invoice SET c_doctype_id = …, c_doctypetarget_id = …` -/
def retype (docType : Int) : RowUpdate where
  set := [.cDocTypeId, .cDocTypeTargetId]
  old := .cInvoice (invoiceOf 123)
  new := .cInvoice (invoiceOf docType)
  table := rfl
  unset := by
    intro c hc
    cases c <;> first | rfl | exact absurd (by decide) hc

theorem updates_retype (docType : Int) :
    Updates (withInvoice twoDocTypes 1000 (invoiceOf 123)) (retype docType) 1000 1000
      (withInvoice twoDocTypes 1000 (invoiceOf docType)) where
  before := rfl
  after := rfl
  docTypes := rfl
  admitted := by
    rw [Native.admits, List.all_eq_true]
    intro t ht
    fin_cases ht <;> rfl

/-- **The class of a document is not fixed**: every trigger lets the UPDATE of an AP
invoice's document type pass, and no class is left. -/
theorem class_not_fixed :
    ¬ ∀ (N N' : Native) (u : RowUpdate) (record record' : Int) (cls : OperationClass),
      u.old.table ∈ [NativeTable.cOrder, .mInOut, .cInvoice] →
      Updates N u record record' N' → N.clientIsPlaced u.old.adClientId = true →
      N.governedClassOf u.old.table record = some cls →
      N'.governedClassOf u.old.table record' = some cls := by
  intro h
  have := h _ _ (retype 124) 1000 1000 .vendorInvoice (by decide) (updates_retype 124)
    (by decide) (by decide)
  exact absurd this (by decide)

/-- An AP invoice that stays one. -/
theorem class_kept_of_retype :
    (withInvoice twoDocTypes 1000 (invoiceOf 123)).governedClassOf .cInvoice 1000 =
        some .vendorInvoice ↔
      DocTypeStays (withInvoice twoDocTypes 1000 (invoiceOf 123)) (.cInvoice (invoiceOf 123)) :=
  class_kept_iff (u := retype 123) (by decide) (updates_retype 123) (by decide) (by decide)

end NativeFinance
end BaobabErp
