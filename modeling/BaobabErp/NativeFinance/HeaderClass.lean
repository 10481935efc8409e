/-
# The validator and the database on one header

"The JVM veto and the fence can never disagree on a class"
(`NativeOperationResolver`).  The class the resolver derives from the values of a
header is the class `governed_class_of` gives the row that is stored with them,
with one exception: the database follows a purchase invoice to a document type
whose id is 0, and the resolver reads no such row.
-/

import BaobabErp.NativeFinance.Resolver
import Mathlib.Tactic.Push

namespace BaobabErp
namespace NativeFinance

/-! ### Storing a header -/

namespace Native

variable (N : Native)

/-- The database with a row of a header table. -/
def put (record : Int) : Document → Native
  | .glJournal j => { N with glJournal := fun n => if n = record then some j else N.glJournal n }
  | .cOrder o => { N with cOrder := fun n => if n = record then some o else N.cOrder n }
  | .mInOut io => { N with mInOut := fun n => if n = record then some io else N.mInOut n }
  | .cInvoice i => { N with cInvoice := fun n => if n = record then some i else N.cInvoice n }
  | .cPayment p => { N with cPayment := fun n => if n = record then some p else N.cPayment n }
  | .cAllocationHdr h =>
    { N with cAllocationHdr := fun n => if n = record then some h else N.cAllocationHdr n }

/-- `bind_payment_execution_evidence`, AFTER INSERT OR UPDATE of a payment.  Where
`isreceipt` is NULL its test is neither true nor false, and the trigger goes on. -/
def bindPaymentExecutionEvidence (record : Int) (p : Payment) : Native :=
  if p.isReceipt.any (· ≠ "N") || !N.clientIsPlaced p.adClientId ||
      N.binding.any fun b => b.cPaymentId = record then N
  else
    match N.paymentEvidenceCandidate p.adClientId p.adOrgId p.cBPartnerId p.cCurrencyId p.payAmt
        p.cInvoiceId with
    | some evidence => { N with binding := ⟨evidence, record, p.adClientId⟩ :: N.binding }
    | none => N

/-- A header is stored, and the triggers that write run. -/
def save (record : Int) (d : Document) : Native :=
  match d with
  | .cPayment p => (N.put record d).bindPaymentExecutionEvidence record p
  | _ => N.put record d

/-- No row refers to a header that is not there yet. -/
def Unreferenced (table : NativeTable) (record : Int) : Prop :=
  match table with
  | .cPayment => some record ∉ N.cPaySelectionCheck ∧ ∀ b ∈ N.binding, b.cPaymentId ≠ record
  | .cAllocationHdr => N.allocationLines record = []
  | _ => True

end Native

/-- **The values of a record are those of a row.** -/
def NativeRecord.Carries (r : NativeRecord) (d : Document) : Prop :=
  r.table = d.table ∧ r.adClientId = d.adClientId ∧ r.adOrgId = d.adOrgId ∧
  match d with
  | .glJournal _ => True
  | .cOrder o => StoresFlag (r.value "IsSOTrx") o.isSOTrx
  | .mInOut io => StoresFlag (r.value "IsSOTrx") io.isSOTrx ∧
      StoresText (r.value "MovementType") io.movementType
  | .cInvoice i => StoresFlag (r.value "IsSOTrx") i.isSOTrx ∧
      StoresId (r.value "C_DocType_ID") i.cDocTypeId ∧
      StoresId (r.value "C_DocTypeTarget_ID") i.cDocTypeTargetId
  | .cPayment p => StoresFlag (r.value "IsReceipt") p.isReceipt ∧
      StoresFlag (r.value "IsOnline") p.isOnline ∧
      StoresId (r.value "C_BPartner_ID") p.cBPartnerId ∧
      StoresId (r.value "C_Currency_ID") p.cCurrencyId ∧
      StoresAmount (r.value "PayAmt") p.payAmt ∧ StoresId (r.value "C_Invoice_ID") p.cInvoiceId
  | .cAllocationHdr _ => True

/-- **A header is saved** under an id: a new one under an id nothing refers to, a
stored one where the trigger on its client and organisation lets it pass. -/
structure Saves (N : Native) (r : NativeRecord) (record : Int) (d : Document) : Prop where
  carries : r.Carries d
  positive : 0 < record
  row : r.recordId = 0 ∧ N.document d.table record = none ∧ N.Unreferenced d.table record ∨
    r.recordId = record ∧ ∃ old, N.document d.table record = some old ∧
      N.forbidDocumentOrgChange old d = true

/-- A purchase invoice that goes by a document type with the id 0, of base type `API`. -/
def ZeroDocType (N : Native) : Document → Prop
  | .cInvoice i => i.isSOTrx = some "N" ∧ i.docType = some 0 ∧ N.docBaseType (some 0) = some "API"
  | _ => False

/-! ### Table by table -/

section

variable {N : Native} {r : NativeRecord} {record : Int}

open Resolver

theorem headerClass_order {o : Order} (ht : r.table = .cOrder)
    (hf : StoresFlag (r.value "IsSOTrx") o.isSOTrx) :
    headerClass N r = ((N.put record (.cOrder o)).governedClassOf .cOrder record) := by
  have hrow : (N.put record (.cOrder o)).cOrder record = some o := if_pos rfl
  show _ = (N.put record (.cOrder o)).orderClass record
  rw [Native.orderClass_eq hrow, headerClass, ht]
  rcases NativeRecord.flag_of hf with ⟨h, he⟩ | ⟨h, he⟩ | ⟨h, hy, hn⟩
  · rw [h, he]
    rfl
  · rw [h, he]
    rfl
  · rw [h]
    split <;> simp_all

theorem headerClass_inOut {io : InOut} (ht : r.table = .mInOut)
    (hf : StoresFlag (r.value "IsSOTrx") io.isSOTrx)
    (hm : StoresText (r.value "MovementType") io.movementType) :
    headerClass N r = ((N.put record (.mInOut io)).governedClassOf .mInOut record) := by
  have hrow : (N.put record (.mInOut io)).mInOut record = some io := if_pos rfl
  have hv : r.value "MovementType" = some (.text "V+") ↔ io.movementType = some "V+" := by
    unfold StoresText at hm
    split at hm
    · simp_all
    · simp_all
    · cases hm
  show _ = (N.put record (.mInOut io)).inOutClass record
  rw [Native.inOutClass_eq hrow, headerClass, ht]
  rcases NativeRecord.flag_of hf with ⟨h, he⟩ | ⟨h, he⟩ | ⟨h, hy, hn⟩
  · rw [h, he]
    rfl
  · simp only [h, he, hv]
    simp
  · simp only [h, hy, hn, false_and, if_false]

/-- **The document type the resolver reads** is the one of the row, but for the id 0. -/
theorem docBaseType_eq {i : Invoice} (hd : StoresId (r.value "C_DocType_ID") i.cDocTypeId)
    (ht : StoresId (r.value "C_DocTypeTarget_ID") i.cDocTypeTargetId) :
    docBaseType N (if 0 < r.intValue "C_DocType_ID" then r.intValue "C_DocType_ID"
        else r.intValue "C_DocTypeTarget_ID") =
      if i.docType = some 0 then none else N.docBaseType i.docType := by
  have hpos : ∀ {n : Int}, 0 < n →
      docBaseType N n = if some n = some 0 then none else N.docBaseType (some n) := by
    intro n hn
    rw [if_neg (by simp; omega), docBaseType, if_neg (by omega)]
  rw [NativeRecord.intValue_of hd, NativeRecord.intValue_of ht]
  by_cases h : 0 < i.cDocTypeId.getD (-1)
  · obtain ⟨n, hn⟩ : ∃ n, i.cDocTypeId = some n := by
      cases hc : i.cDocTypeId with
      | none => simp [hc] at h
      | some n => exact ⟨n, rfl⟩
    rw [hn, Option.getD_some] at h
    have hdoc : i.docType = some n := by
      rw [Invoice.docType, hn, if_neg (by simp; omega)]
      rfl
    rw [hn, Option.getD_some, if_pos h, hdoc]
    exact hpos h
  · have hdoc : i.docType = i.cDocTypeTargetId := by
      cases hc : i.cDocTypeId with
      | none => simp [Invoice.docType, hc]
      | some n =>
        have h0 := NativeRecord.nonneg_of hd hc
        rw [hc, Option.getD_some] at h
        rw [Invoice.docType, hc, if_pos (by simp; omega)]
    rw [if_neg h, hdoc]
    cases hc : i.cDocTypeTargetId with
    | none => rfl
    | some m =>
      have h0 := NativeRecord.nonneg_of ht hc
      rw [Option.getD_some]
      by_cases hm : 0 < m
      · exact hpos hm
      · rw [if_pos (by simp; omega), docBaseType, if_pos (by omega)]

theorem headerClass_invoice {i : Invoice} (ht : r.table = .cInvoice)
    (hf : StoresFlag (r.value "IsSOTrx") i.isSOTrx)
    (hd : StoresId (r.value "C_DocType_ID") i.cDocTypeId)
    (htt : StoresId (r.value "C_DocTypeTarget_ID") i.cDocTypeTargetId) :
    headerClass N r = (N.put record (.cInvoice i)).governedClassOf .cInvoice record ↔
      ¬ ZeroDocType N (.cInvoice i) := by
  have hrow : (N.put record (.cInvoice i)).cInvoice record = some i := if_pos rfl
  have htype : (N.put record (.cInvoice i)).docBaseType i.docType = N.docBaseType i.docType := rfl
  show _ = (N.put record (.cInvoice i)).invoiceClass record ↔ ¬ (i.isSOTrx = some "N" ∧ _)
  rw [Native.invoiceClass_eq hrow, headerClass, ht, htype]
  rcases NativeRecord.flag_of hf with ⟨h, he⟩ | ⟨h, he⟩ | ⟨h, hy, hn⟩
  · simp [h, he]
  · simp only [h, he, docBaseType_eq hd htt]
    by_cases hz : i.docType = some 0
    · rw [hz]
      by_cases hb : N.docBaseType (some 0) = some "API" <;> simp [hb]
    · simp [hz]
  · simp [h, hy, hn]

/-! ### Outbound payments -/

theorem Evidence.names_iff {e : Evidence} {client org : Int} {partner currency : Option Int}
    {amount : Option Rat} {invoice : Option Int} :
    e.names client org partner currency amount invoice = true ↔
      e.adClientId = client ∧ e.adOrgId = org ∧ partner = some e.cBPartnerId ∧
        currency = some e.cCurrencyId ∧ amount = some e.amount ∧
        (invoice.getD 0 = 0 ∨ invoice = some e.cInvoiceId) := by
  simp only [Evidence.names, Bool.and_eq_true, Bool.or_eq_true, decide_eq_true_eq, and_assoc]

/-- A payment is bound where a binding of it names an evidence record of its values. -/
theorem boundEvidence_ne_nil_iff {payment client org : Int} {partner currency : Option Int}
    {amount : Option Rat} {invoice : Option Int} :
    (N.boundEvidence payment client org partner currency amount invoice).head?.isSome = true ↔
      ∃ b ∈ N.binding, b.cPaymentId = payment ∧ b.adClientId = client ∧ ∃ e ∈ N.evidence,
        e.evidenceId = b.evidenceId ∧
          e.names client org partner currency amount invoice = true := by
  rw [List.isSome_head?, ne_eq, List.eq_nil_iff_forall_not_mem]
  simp only [Native.boundEvidence, List.mem_flatMap, List.mem_filter, List.mem_map,
    Bool.and_eq_true, decide_eq_true_eq, not_forall, not_not]
  constructor
  · rintro ⟨_, b, ⟨hb, hp, hc⟩, e, ⟨he, hid, hn⟩, -⟩
    exact ⟨b, hb, hp, hc, e, he, hid, hn⟩
  · rintro ⟨b, hb, hp, hc, e, he, hid, hn⟩
    exact ⟨_, b, ⟨hb, hp, hc⟩, e, ⟨he, hid, hn⟩, rfl⟩

/-- The candidate is an evidence record of the values. -/
theorem names_of_candidate {client org : Int} {partner currency : Option Int}
    {amount : Option Rat} {invoice : Option Int} {id : String}
    (h : N.paymentEvidenceCandidate client org partner currency amount invoice = some id) :
    ∃ e ∈ N.evidence, e.evidenceId = id ∧
      e.names client org partner currency amount invoice = true := by
  unfold Native.paymentEvidenceCandidate at h
  split at h
  · rename_i e he
    have hmem : e ∈ [e] := List.mem_singleton.2 rfl
    rw [← he, List.mem_filter, Bool.and_eq_true] at hmem
    exact ⟨e, hmem.1, Option.some.inj h, hmem.2.1⟩
  · cases h

/-- Values no evidence record has, its columns being positive. -/
theorem not_names {e : Evidence} {client org : Int} {partner currency : Option Int}
    {amount : Option Rat} {invoice : Option Int}
    (h : org ≤ 0 ∨ partner.getD (-1) ≤ 0 ∨ currency.getD (-1) ≤ 0 ∨ ∀ q, amount = some q → q ≤ 0) :
    e.names client org partner currency amount invoice = false := by
  rw [Bool.eq_false_iff]
  intro hn
  obtain ⟨-, ho, hp, hc, ha, -⟩ := Evidence.names_iff.1 hn
  have h₁ := e.adOrgId_pos
  have h₂ := e.cBPartnerId_pos
  have h₃ := e.cCurrencyId_pos
  have h₄ := e.amount_pos
  rcases h with h | h | h | h
  · omega
  · rw [hp, Option.getD_some] at h
    omega
  · rw [hc, Option.getD_some] at h
    omega
  · exact absurd h₄ (Rat.not_lt.2 (h _ ha))

/-- An invoice that is not positive names none, like no invoice. -/
theorem names_invoice (e : Evidence) {client org : Int} {partner currency : Option Int}
    {amount : Option Rat} {invoice : Option Int} (hi : ∀ n, invoice = some n → 0 ≤ n) :
    e.names client org partner currency amount (some (max (invoice.getD (-1)) 0)) =
      e.names client org partner currency amount invoice := by
  have hmax : some (max (invoice.getD (-1)) 0) = invoice ∨
      (some (max (invoice.getD (-1)) 0)).getD 0 = 0 ∧ invoice.getD 0 = 0 := by
    cases hc : invoice with
    | none => exact Or.inr ⟨rfl, rfl⟩
    | some n =>
      have := hi n hc
      refine Or.inl (congrArg some ?_)
      rw [Option.getD_some]
      omega
  rcases hmax with he | ⟨h₁, h₂⟩
  · rw [he]
  · simp only [Evidence.names, h₁, h₂, decide_true, Bool.true_or]

theorem provenance_congr {client payment org : Int} {partner currency partner' currency' : Option Int}
    {amount amount' : Option Rat} {invoice invoice' : Option Int}
    (h : ∀ e : Evidence, e.names client org partner currency amount invoice =
      e.names client org partner' currency' amount' invoice') :
    N.vendorPaymentProvenance client payment org partner currency amount invoice =
      N.vendorPaymentProvenance client payment org partner' currency' amount' invoice' := by
  simp only [Native.vendorPaymentProvenance, Native.boundEvidence,
    Native.paymentEvidenceCandidate, h]

/-- Where no evidence record has the values, a payment of them has no provenance. -/
theorem provenance_of_not_names {client payment org : Int} {partner currency : Option Int}
    {amount : Option Rat} {invoice : Option Int}
    (h : ∀ e : Evidence, e.names client org partner currency amount invoice = false) :
    N.vendorPaymentProvenance client payment org partner currency amount invoice = none := by
  simp [Native.vendorPaymentProvenance, Native.boundEvidence, Native.paymentEvidenceCandidate, h]

/-- **The evidence the resolver asks for** is the provenance of the row's values. -/
theorem hasExecutionEvidence_eq {p : Payment} (ho : r.adOrgId = p.adOrgId)
    (hb : StoresId (r.value "C_BPartner_ID") p.cBPartnerId)
    (hc : StoresId (r.value "C_Currency_ID") p.cCurrencyId)
    (ha : StoresAmount (r.value "PayAmt") p.payAmt)
    (hi : StoresId (r.value "C_Invoice_ID") p.cInvoiceId) :
    hasExecutionEvidence N r =
      (N.vendorPaymentProvenance r.adClientId (max r.recordId 0) p.adOrgId p.cBPartnerId
        p.cCurrencyId p.payAmt p.cInvoiceId).isSome := by
  rw [hasExecutionEvidence, NativeRecord.decimal_of ha, NativeRecord.intValue_of hb,
    NativeRecord.intValue_of hc, NativeRecord.intValue_of hi, ho]
  cases hq : p.payAmt with
  | none =>
    rw [provenance_of_not_names fun e => not_names (Or.inr (Or.inr (Or.inr (by simp))))]
    rfl
  | some amount =>
    simp only
    split
    · rename_i hbad
      rw [provenance_of_not_names fun e => not_names ?_]
      · rfl
      · rcases hbad with h | h | h | h
        · exact Or.inr (Or.inr (Or.inr fun q hq' => by rwa [← Option.some.inj hq']))
        · exact Or.inr (Or.inl h)
        · exact Or.inr (Or.inr (Or.inl h))
        · exact Or.inl h
    · rename_i hgood
      have hget : ∀ {x : Option Int}, ¬ x.getD (-1) ≤ 0 → some (x.getD (-1)) = x := by
        intro x hx
        cases x with
        | none => simp at hx
        | some n => rfl
      rw [hget fun h => hgood (Or.inr (Or.inl h)), hget fun h => hgood (Or.inr (Or.inr (Or.inl h)))]
      refine congrArg Option.isSome (provenance_congr fun e => names_invoice e fun n hn => ?_)
      exact NativeRecord.nonneg_of hi hn

/-- **Binding a payment** gives it its provenance: what it was bound to, or the one
record that is free for it. -/
theorem boundEvidence_bind {p : Payment} (hn : p.isReceipt = some "N")
    (hp : N.clientIsPlaced p.adClientId = true) :
    ((N.bindPaymentExecutionEvidence record p).boundEvidence record p.adClientId p.adOrgId
        p.cBPartnerId p.cCurrencyId p.payAmt p.cInvoiceId).head?.isSome =
      if N.binding.any fun b => b.cPaymentId = record then
        (N.boundEvidence record p.adClientId p.adOrgId p.cBPartnerId p.cCurrencyId p.payAmt
          p.cInvoiceId).head?.isSome
      else (N.paymentEvidenceCandidate p.adClientId p.adOrgId p.cBPartnerId p.cCurrencyId p.payAmt
        p.cInvoiceId).isSome := by
  by_cases hb : N.binding.any fun b => b.cPaymentId = record
  · rw [if_pos hb, Native.bindPaymentExecutionEvidence, hb, Bool.or_true, if_pos rfl]
  · rw [if_neg hb, Native.bindPaymentExecutionEvidence, hn, hp, Bool.eq_false_iff.2 hb]
    simp only [Option.any_some, ne_eq, not_true_eq_false, decide_false, Bool.not_true,
      Bool.or_false, Bool.false_eq_true, if_false]
    split
    · rename_i evidence hcand
      rw [hcand, Option.isSome_some, boundEvidence_ne_nil_iff]
      obtain ⟨e, he, hid, hnames⟩ := names_of_candidate hcand
      exact ⟨_, List.mem_cons_self .., rfl, rfl, e, he, hid, hnames⟩
    · rename_i hcand
      rw [hcand, Option.isSome_none, Bool.eq_false_iff, ne_eq, boundEvidence_ne_nil_iff]
      rintro ⟨b, hmem, hpay, -⟩
      exact hb (List.any_eq_true.2 ⟨b, hmem, decide_eq_true hpay⟩)

/-- Binding changes nothing but the bindings. -/
theorem bind_frame (p : Payment) :
    (N.bindPaymentExecutionEvidence record p).cPayment = N.cPayment ∧
      (N.bindPaymentExecutionEvidence record p).cPaySelectionCheck = N.cPaySelectionCheck := by
  unfold Native.bindPaymentExecutionEvidence
  split
  · exact ⟨rfl, rfl⟩
  · split <;> exact ⟨rfl, rfl⟩

/-- The provenance of a payment that is saved, by the row it is saved as. -/
theorem provenance_eq {p : Payment} (hs : Saves N r record (.cPayment p)) :
    (N.vendorPaymentProvenance r.adClientId (max r.recordId 0) p.adOrgId p.cBPartnerId p.cCurrencyId
        p.payAmt p.cInvoiceId).isSome =
      if N.binding.any fun b => b.cPaymentId = record then
        (N.boundEvidence record p.adClientId p.adOrgId p.cBPartnerId p.cCurrencyId p.payAmt
          p.cInvoiceId).head?.isSome
      else (N.paymentEvidenceCandidate p.adClientId p.adOrgId p.cBPartnerId p.cCurrencyId p.payAmt
        p.cInvoiceId).isSome := by
  have hclient : r.adClientId = p.adClientId := hs.carries.2.1
  rw [hclient, Native.vendorPaymentProvenance]
  rcases hs.row with ⟨h0, -, -, hfree⟩ | ⟨hid, -⟩
  · have hb : (N.binding.any fun b => b.cPaymentId = record) = false := by
      rw [List.any_eq_false]
      intro b hb
      rw [decide_eq_true_eq]
      exact hfree b hb
    rw [h0, hb]
    rfl
  · have hpos : decide (0 < record) = true := decide_eq_true hs.positive
    have hmax : max r.recordId 0 = record := by
      rw [hid]
      exact Int.max_eq_left (Int.le_of_lt hs.positive)
    rw [hmax, hpos, Bool.true_and]
    split <;> rfl

/-- A payment of a selection is in one, before and after it is saved. -/
theorem inPaySelection_iff {p : Payment} (hs : Saves N r record (.cPayment p)) :
    0 < r.recordId ∧ inPaySelection N r.recordId = true ↔ some record ∈ N.cPaySelectionCheck := by
  rcases hs.row with ⟨h0, -, hfree, -⟩ | ⟨hid, -⟩
  · refine iff_of_false (fun h => ?_) hfree
    rw [h0] at h
    exact absurd h.1 (by decide)
  · rw [hid, inPaySelection, List.contains_iff_mem]
    exact ⟨fun h => h.2, fun h => ⟨hs.positive, h⟩⟩

theorem headerClass_payment {p : Payment} (hs : Saves N r record (.cPayment p))
    (hp : N.clientIsPlaced p.adClientId = true) :
    headerClass N r = (N.save record (.cPayment p)).governedClassOf .cPayment record := by
  have ht : r.table = .cPayment := hs.carries.1
  obtain ⟨-, -, ho, hf, hof, hb, hc, ha, hi⟩ := hs.carries
  have hframe := @bind_frame (N.put record (.cPayment p)) record p
  have hrow : (N.save record (.cPayment p)).cPayment record = some p := by
    show ((N.put record (.cPayment p)).bindPaymentExecutionEvidence record p).cPayment record = _
    rw [hframe.1]
    exact if_pos rfl
  have hsel : (N.save record (.cPayment p)).cPaySelectionCheck = N.cPaySelectionCheck := hframe.2
  show _ = (N.save record (.cPayment p)).paymentClass record
  rw [Native.paymentClass_eq hrow, headerClass, ht]
  rcases NativeRecord.flag_of hf with ⟨h, he⟩ | ⟨h, he⟩ | ⟨h, hy, hn⟩
  · simp [h, he]
  · have hbound : ((N.save record (.cPayment p)).paymentBoundEvidence record).isSome =
        hasExecutionEvidence N r := by
      rw [Native.paymentBoundEvidence, hrow, hasExecutionEvidence_eq ho hb hc ha hi,
        provenance_eq hs]
      show Option.isSome (if p.isReceipt = some "N" then _ else none) = _
      rw [if_pos he]
      exact boundEvidence_bind (N := N.put record (.cPayment p)) he hp
    rw [hsel, hbound, he]
    simp only [h, inPaySelection_iff hs]
    rcases NativeRecord.flag_of hof with ⟨g, ge⟩ | ⟨g, ge⟩ | ⟨g, -, gn⟩
    · simp [g, ge]
    · by_cases hin : some record ∈ N.cPaySelectionCheck <;> simp [g, ge, hin]
    · simp [g, gn]
  · simp [h, hy, hn]

/-! ### Allocations -/

/-- The header of an allocation decides its class by its client alone. -/
theorem allocationClass_put (h : AllocationHdr) :
    (N.put record (.cAllocationHdr h)).allocationClass record =
      N.linesClass h.adClientId (N.allocationLines record) :=
  Native.allocationClass_eq (N := N.put record (.cAllocationHdr h)) (if_pos rfl)

theorem headerClass_allocation {h : AllocationHdr} (hs : Saves N r record (.cAllocationHdr h))
    (hp : N.clientIsPlaced h.adClientId = true) :
    headerClass N r = (N.save record (.cAllocationHdr h)).governedClassOf .cAllocationHdr record := by
  have ht : r.table = .cAllocationHdr := hs.carries.1
  show _ = (N.put record (.cAllocationHdr h)).allocationClass record
  rw [allocationClass_put, headerClass, ht]
  rcases hs.row with ⟨h0, -, hempty⟩ | ⟨hid, old, hold, hfix⟩
  · have hlines : N.allocationLines record = [] := hempty
    rw [h0, hlines]
    rfl
  · obtain ⟨old, ho, rfl⟩ := Option.map_eq_some_iff.1 hold
    have hclient : old.adClientId = h.adClientId := by
      rw [Native.forbidDocumentOrgChange] at hfix
      simp only [Document.adClientId, hp, Bool.or_true, Bool.and_true, Bool.not_eq_true',
        decide_eq_false_iff_not, ne_eq, not_not, Prod.mk.injEq] at hfix
      exact hfix.1.symm
    show (if 0 < r.recordId then N.allocationClass r.recordId else none) = _
    rw [hid, if_pos hs.positive, Native.allocationClass_eq ho, hclient]

/-! ### Every header -/

/-- **The validator and the database agree on the class of a header** of a placed
client, exactly where the header is no purchase invoice that goes by a document
type with the id 0. -/
theorem header_class_agrees_iff {d : Document} (hs : Saves N r record d)
    (hp : N.clientIsPlaced r.adClientId = true) :
    headerClass N r = (N.save record d).governedClassOf d.table record ↔ ¬ ZeroDocType N d := by
  have ht : r.table = d.table := hs.carries.1
  have hc : r.adClientId = d.adClientId := hs.carries.2.1
  rw [hc] at hp
  cases d with
  | glJournal j =>
    refine iff_of_true ?_ not_false
    show _ = (N.put record (.glJournal j)).glJournalClass record
    rw [headerClass, ht, Native.glJournalClass]
    show _ = Option.map _ (if record = record then some j else _)
    rw [if_pos rfl]
    rfl
  | cOrder o => exact iff_of_true (headerClass_order ht hs.carries.2.2.2) not_false
  | mInOut io =>
    exact iff_of_true (headerClass_inOut ht hs.carries.2.2.2.1 hs.carries.2.2.2.2) not_false
  | cInvoice i =>
    obtain ⟨-, -, -, hf, hd, htt⟩ := hs.carries
    exact headerClass_invoice ht hf hd htt
  | cPayment p => exact iff_of_true (headerClass_payment hs hp) not_false
  | cAllocationHdr h => exact iff_of_true (headerClass_allocation hs hp) not_false

end

/-! ### A purchase invoice without a document type -/

/-- A placed client, and a document type with the id 0. -/
def zeroType : Native :=
  { Native.empty with
    nativePlacement := [11]
    cDocType := fun t => if t = 0 then some ⟨some "API"⟩ else none }

/-- A new purchase invoice whose target is a document type. -/
def newInvoice (target : Int) : NativeRecord where
  table := .cInvoice
  adClientId := 11
  adOrgId := 12
  recordId := 0
  value := fun name =>
    if name = "IsSOTrx" then some (.boolean false)
    else if name = "C_DocType_ID" then some (.integer 0)
    else if name = "C_DocTypeTarget_ID" then some (.integer target)
    else none

theorem saves_newInvoice {target : Int} (h : 0 ≤ target) :
    Saves zeroType (newInvoice target) 1000 (.cInvoice ⟨11, 12, some "N", some 0, some target⟩) where
  carries := ⟨rfl, rfl, rfl, rfl, ⟨rfl, by decide⟩, rfl, h⟩
  positive := by decide
  row := Or.inl ⟨rfl, rfl, trivial⟩

/-- **They do disagree**: the database classifies an invoice that goes by the document
type 0, and the resolver does not. -/
theorem header_class_disagrees :
    ¬ ∀ (N : Native) (r : NativeRecord) (record : Int) (d : Document), Saves N r record d →
      N.clientIsPlaced r.adClientId = true →
      Resolver.headerClass N r = (N.save record d).governedClassOf d.table record := by
  intro h
  have := h _ _ _ _ (@saves_newInvoice 0 (by decide)) (by decide)
  exact absurd this (by decide)

/-- An invoice whose target is no document type has no class on either side. -/
theorem header_class_agrees_of_target :
    Resolver.headerClass zeroType (newInvoice 5) =
        (zeroType.save 1000 (.cInvoice ⟨11, 12, some "N", some 0, some 5⟩)).governedClassOf
          .cInvoice 1000 ↔
      ¬ ZeroDocType zeroType (.cInvoice ⟨11, 12, some "N", some 0, some 5⟩) :=
  header_class_agrees_iff (saves_newInvoice (by decide)) (by decide)

end NativeFinance
end BaobabErp
