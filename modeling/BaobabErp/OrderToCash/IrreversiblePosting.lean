/-
# What a completed process leaves in ERP

`complete_payment`, `allocate_payment` and `post_customer_invoice` run the native process,
record the domain event and the fact of the order, read the document back and announce
what it says.  All of it is one transaction, so the event and the fact are recorded
exactly where nothing escapes the reads and the announcement (`recorded_iff`).
-/

import BaobabErp.OrderToCash.Announcing
import BaobabErp.OrderToCash.RepeatedCreate

namespace BaobabErp
namespace OrderToCash

open Python Concurrency Accounting

/-! ### The commands, up to their reads and from there -/

/-- **A command that completes a document.** -/
inductive Completion
  | completePayment (paymentId : String)
  | allocatePayment (paymentId invoiceId amount : String)
  | postCustomerInvoice (invoiceId : String)

/-- The native documents of a command, and the public id of the invoice it allocates. -/
structure Natives where
  payment : Int := 0
  invoice : Int := 0
  invoicePublicId : Option String := none
deriving DecidableEq, Repr

namespace Completion

def program (D : Service) (r : Request) : Completion → Program Unit
  | completePayment paymentId => OrderToCash.completePayment D r paymentId
  | allocatePayment paymentId invoiceId amount =>
    OrderToCash.allocatePayment D r paymentId invoiceId amount
  | postCustomerInvoice invoiceId => OrderToCash.postCustomerInvoice D r invoiceId

/-- The domain event of a command: its type and its payload. -/
def event (n : Natives) : Completion → String × List (String × Json)
  | completePayment paymentId => ("erp.payment.completed.v1",
      [("payment_id", .str paymentId), ("erp_payment_native_id", .int n.payment)])
  | allocatePayment paymentId invoiceId amount => ("erp.payment.allocated.v1",
      [("payment_id", .str paymentId), ("invoice_id", .str invoiceId), ("amount", .str amount)])
  | postCustomerInvoice invoiceId => ("erp.customer-invoice.posted.v1",
      [("invoice_id", .str invoiceId), ("erp_invoice_native_id", .int n.invoice)])

/-- The fact of the order of a posted invoice. -/
def invoiceFact (D : Service) (r : Request) (invoiceId : String) : Program Unit := do
  match ← Consequence.orderOfDocument r.scope.tenantId .customerInvoice invoiceId with
  | none => pure ()
  | some orderId => do
    let publicId ← erpResourceId r.scope.tenantId "CustomerInvoice" invoiceId
    recordFact D r orderId .invoicePosted publicId

/-- The part before the document is read back: the process and what records it. -/
def record (D : Service) (r : Request) : Completion → Program Natives
  | completePayment paymentId => do
    denyLegacyNativeAction D r "complete_payment" paymentId
    let nativeId ← resolveNative r.scope "Payment" paymentId "C_Payment"
    executeGovernedProcess D r (r.permit.map Egress.NativeMarker.scope)
      D.processIds.completePayment [("C_Payment_ID", .int nativeId), ("DocAction", .str "CO")]
    let n : Natives := { payment := nativeId }
    recordEnvelope r (event n (.completePayment paymentId)).1 (event n (.completePayment paymentId)).2
    pure n
  | allocatePayment paymentId invoiceId amount => do
    denyLegacyNativeAction D r "allocate_payment" (paymentId ++ ":" ++ invoiceId)
    let payment ← resolveNative r.scope "Payment" paymentId "C_Payment"
    let invoice ← resolveNative r.scope "CustomerInvoice" invoiceId "C_Invoice"
    executeGovernedProcess D r (r.permit.map Egress.NativeMarker.scope)
      D.processIds.allocatePayment [("C_Payment_ID", .int payment), ("C_Invoice_ID", .int invoice),
        ("Amount", .str amount)]
    let e := event {} (.allocatePayment paymentId invoiceId amount)
    recordEnvelope r e.1 e.2
    let invoicePublicId ← erpResourceId r.scope.tenantId "CustomerInvoice" invoiceId
    pure { payment, invoice, invoicePublicId }
  | postCustomerInvoice invoiceId => do
    denyLegacyInvoicePost D r invoiceId
    let nativeId ← resolveNative r.scope "CustomerInvoice" invoiceId "C_Invoice"
    executeGovernedProcess D r (r.invoicePermit.map Egress.InvoiceMarker.scope)
      D.processIds.postCustomerInvoice [("C_Invoice_ID", .int nativeId), ("DocAction", .str "CO")]
    let n : Natives := { invoice := nativeId }
    recordEnvelope r (event n (.postCustomerInvoice invoiceId)).1
      (event n (.postCustomerInvoice invoiceId)).2
    invoiceFact D r invoiceId
    pure n

/-- The part that reads the document back and announces it. -/
def announce (D : Service) (r : Request) (n : Natives) : Completion → Program Unit
  | completePayment paymentId => announcePayment D r paymentId n.payment none false
  | allocatePayment paymentId invoiceId _ => do
    announcePayment D r paymentId n.payment n.invoicePublicId true
    announceInvoice D r invoiceId n.invoice true
  | postCustomerInvoice invoiceId => announceInvoice D r invoiceId n.invoice false

/-- The invoice an announcement is about is looked up after the fact is recorded. -/
theorem program_eq (D : Service) (r : Request) (command : Completion) :
    command.program D r = command.record D r >>= fun n => command.announce D r n := by
  cases command with
  | completePayment paymentId =>
    unfold program record announce OrderToCash.completePayment
    simp only [Prog.bind_bind]
    rfl
  | allocatePayment paymentId invoiceId amount =>
    unfold program record announce OrderToCash.allocatePayment
    simp only [Prog.bind_bind]
    rfl
  | postCustomerInvoice invoiceId =>
    unfold program record announce OrderToCash.postCustomerInvoice
    simp only [Prog.bind_bind]
    unfold invoiceFact
    simp only [Prog.bind_bind]
    congr 1
    funext _
    congr 1
    funext nativeId
    congr 1
    funext _
    congr 1
    funext _
    congr 1
    funext order
    cases order with
    | none => rfl
    | some orderId =>
      simp only [Prog.bind_bind]
      rfl

end Completion

section

variable {S : Service} {r : Request} {w : Worker} {s t : World × List Reply}

/-! ### The calls of the first part -/

/-- The public id of a mapped resource, as `w` sees it. -/
def publicIdOf (w : Worker) (s : World) (tenantId type canonicalId : String) : Option String :=
  (postgresUuid canonicalId).bind fun id =>
    (s.cell w (.entityMapping tenantId type id)).map fun cell =>
      (cell.row : EntityMappingRow).erpResourceId

theorem mappingOf_heard {tenantId type canonicalId : String}
    {x : Except Exc (Option EntityMappingRow)}
    (h : Heard S.platform w (mappingOf tenantId type canonicalId) s x t) :
    t.2 = s.2 ∧ t.1.store = s.1.store ∧
      (∀ row, x = .ok row → (postgresUuid canonicalId).isSome = true) ∧
      ((postgresUuid canonicalId).isSome = true → ∃ row, x = .ok row ∧
        row.map EntityMappingRow.erpResourceId = publicIdOf w s.1 tenantId type canonicalId) := by
  unfold mappingOf at h
  rcases h.of_bind with ⟨z, hu, rfl⟩ | ⟨id, u, hu, hs⟩
  · obtain ⟨rfl, -, hsome⟩ := uuidParam_run hu
    refine ⟨rfl, rfl, nofun, fun hid => ?_⟩
    obtain ⟨id, hid⟩ := Option.isSome_iff_exists.1 hid
    cases hsome id hid
  · obtain ⟨rfl, hid, -⟩ := uuidParam_run hu
    obtain ⟨ht, hx, hw⟩ := heard_select hs
    refine ⟨ht, by rw [hw]; exact World.seeRow_store, fun _ _ => by rw [hid id rfl]; rfl,
      fun _ => ⟨_, hx, ?_⟩⟩
    unfold publicIdOf
    rw [hid id rfl, Option.bind_some]
    exact Option.map_map ..

theorem erpResourceId_heard {tenantId type canonicalId : String} {x : Except Exc (Option String)}
    (h : Heard S.platform w (erpResourceId tenantId type canonicalId) s x t) :
    t.2 = s.2 ∧ t.1.store = s.1.store ∧ ((postgresUuid canonicalId).isSome = true →
      x = .ok (publicIdOf w s.1 tenantId type canonicalId)) := by
  unfold erpResourceId at h
  rcases h.of_bind with ⟨z, hm, rfl⟩ | ⟨row, u, hm, hrest⟩
  · obtain ⟨ht, hstore, -, hok⟩ := mappingOf_heard hm
    refine ⟨ht, hstore, fun hid => ?_⟩
    obtain ⟨row, hrow, -⟩ := hok hid
    cases hrow
  · obtain ⟨ht, hstore, -, hok⟩ := mappingOf_heard hm
    obtain ⟨rfl, rfl⟩ := hrest.of_pure
    refine ⟨ht, hstore, fun hid => ?_⟩
    obtain ⟨row', hrow, hpublic⟩ := hok hid
    rw [Except.ok.inj hrow, hpublic]

theorem resolveNative_heard {type canonicalId table : String} {n : Int}
    (h : Heard S.platform w (resolveNative r.scope type canonicalId table) s (.ok n) t) :
    t.2 = s.2 ∧ t.1.store = s.1.store ∧ (postgresUuid canonicalId).isSome = true := by
  unfold resolveNative at h
  obtain ⟨row, u, hm, hrest⟩ := h.of_bind_ok
  obtain ⟨ht, hstore, hid, -⟩ := mappingOf_heard hm
  cases row with
  | none => cases hrest.of_throw.1
  | some row =>
    dsimp only at hrest
    split at hrest
    · cases hrest.of_throw.1
    · obtain ⟨-, rfl⟩ := hrest.of_pure
      exact ⟨ht, hstore, hid _ rfl⟩

theorem process_heard {marker : Option OrderExecution.TenantScope} {processId : Int}
    {parameters : List (String × Json)}
    (h : Heard S.platform w (executeGovernedProcess S r marker processId parameters) s (.ok ()) t) :
    t = s ∧ ∃ σ, r.client = some σ := by
  unfold executeGovernedProcess at h
  obtain ⟨σ, u, hw, h₁⟩ := h.of_bind_ok
  obtain ⟨rfl, hσ⟩ := writer_run hw
  refine ⟨?_, σ, (hσ σ rfl).1⟩
  split at h₁
  · cases h₁.of_throw.1
  · obtain ⟨members, v, hp, hrest⟩ := h₁.of_bind_ok
    obtain ⟨rfl, -⟩ := heard_executeProcess hp
    exact hrest.of_pure.2

/-- The row of an event in the legacy form. -/
def IsEvent (r : Request) (event : String × List (String × Json)) {id : String}
    (cell : Cell (.outbox id)) : Prop :=
  ∃ envelope, (cell.row : OutboxRow).content = .legacy envelope ∧ envelope.eventType = event.1 ∧
    envelope.tenantId = r.scope.tenantId ∧ envelope.entityId = r.scope.legalEntityId ∧
    envelope.payload = .obj event.2

theorem recordEnvelope_heard {event : String × List (String × Json)}
    (h : Heard S.platform w (recordEnvelope r event.1 event.2) s (.ok ()) t) :
    t.2 = s.2 ∧ ∃ id, s.1.cell w (.outbox id) = none ∧ Untouched w (.outbox id) s.1 t.1 ∧
      ∃ cell, t.1.cell w (.outbox id) = some cell ∧ IsEvent r event cell := by
  unfold recordEnvelope at h
  obtain ⟨id, u, hid, h₁⟩ := h.of_bind_ok
  obtain ⟨rfl, -⟩ := heard_uuid4 hid
  obtain ⟨now, v, hnow, h₂⟩ := h₁.of_bind_ok
  obtain ⟨rfl, -⟩ := heard_now hnow
  unfold Outbox.record at h₂
  obtain ⟨row, v', hi, hrest⟩ := h₂.of_bind_ok
  obtain ⟨-, rfl⟩ := hrest.of_pure
  obtain ⟨ht, hno, hyes⟩ := heard_insert (fun _ => ⟨rfl, rfl, rfl⟩) hi
  have hnone : v.1.cell w (.outbox id) = none := by
    by_contra hne
    obtain ⟨z, hz⟩ := hno hne
    cases hz
  obtain ⟨d, -, hsame, cell, hcell, hrow⟩ := hyes hnone
  exact ⟨ht, id, hnone, hsame, cell, hcell, _, by rw [hrow], rfl, rfl, rfl, rfl⟩

/-! ### The fact of the order -/

/-- Nothing is committed, and every row at another key is still there. -/
structure Kept (w : Worker) (changed : Key → Bool) (s t : World) : Prop where
  committed : t.store.committed = s.store.committed
  cell : ∀ k c, changed k = false → s.cell w k = some c → t.cell w k = some c

theorem Kept.of_store {changed : Key → Bool} {s t : World} (h : t.store = s.store) :
    Kept w changed s t :=
  ⟨by rw [h], fun _ _ _ hc => by unfold World.cell at hc ⊢; rw [h]; exact hc⟩

theorem Kept.of_untouched {changed : Key → Bool} {s t : World} {k : Key}
    (h : Untouched w k s t) (hk : changed k = true) (hi : ∀ i, changed (.index i) = true) :
    Kept w changed s t := by
  refine ⟨h.committed, fun l c hl hc => (h.cell l ?_ ?_).trans hc⟩
  · rintro rfl
    exact absurd (hk.symm.trans hl) (by decide)
  · rintro i rfl
    exact absurd ((hi i).symm.trans hl) (by decide)

/-- A row that was new changes none that was there. -/
theorem Kept.of_new {changed : Key → Bool} {s t : World} {k : Key}
    (h : Untouched w k s t) (hnew : s.cell w k = none) (hi : ∀ i, changed (.index i) = true) :
    Kept w changed s t := by
  refine ⟨h.committed, fun l c hl hc => (h.cell l ?_ ?_).trans hc⟩
  · rintro rfl
    rw [hnew] at hc
    cases hc
  · rintro i rfl
    exact absurd ((hi i).symm.trans hl) (by decide)

theorem Kept.trans {changed : Key → Bool} {s t u : World} (h : Kept w changed s t)
    (h' : Kept w changed t u) : Kept w changed s u :=
  ⟨h'.committed.trans h.committed, fun k c hk hc => h'.cell k c hk (h.cell k c hk hc)⟩

/-- The keys a fact may change the rows of. -/
def ofFact : Key → Bool
  | .consequence _ _ => true
  | .index _ => true
  | _ => false

theorem recordEvent_kept {event : CloudEvent}
    (h : Heard S.platform w (Outbox.recordEvent event) s (.ok ()) t) :
    t.2 = s.2 ∧ Kept w ofFact s.1 t.1 ∧ ∀ tenant order,
      t.1.cell w (.consequence tenant order) = s.1.cell w (.consequence tenant order) := by
  unfold Outbox.recordEvent at h
  split at h
  · cases h.of_throw.1
  · split at h
    · cases h.of_throw.1
    · split at h
      · cases h.of_throw.1
      · obtain ⟨row, v, hi, hrest⟩ := h.of_bind_ok
        obtain ⟨-, rfl⟩ := hrest.of_pure
        obtain ⟨ht, hno, hyes⟩ := heard_insert (fun _ => ⟨rfl, rfl, rfl⟩) hi
        have hnone : s.1.cell w (.outbox event.id) = none := by
          by_contra hne
          obtain ⟨z, hz⟩ := hno hne
          cases hz
        obtain ⟨d, -, hsame, -⟩ := hyes hnone
        exact ⟨ht, .of_new hsame hnone fun _ => rfl, fun _ _ =>
          hsame.cell _ (fun h => by cases h) fun _ h => by cases h⟩

theorem column_factRow (row read : ConsequenceRow) (fact : Consequence.Fact) (now : Instant)
    (invoiceId : Option String) :
    (Consequence.column (Consequence.factRow read fact now invoiceId row) fact).isSome = true := by
  cases fact <;> rfl

/-- Every record of the order has the fact. -/
def HasFact (look : (k : Key) → Option (Cell k)) (tenantId order : String)
    (fact : Consequence.Fact) : Prop :=
  ∀ cell, look (.consequence tenantId order) = some cell →
    (Consequence.column cell.row fact).isSome = true

/-- **`record_fact` leaves the fact in the record of the order.** -/
theorem storeFact_heard {tenantId order : String} {fact : Consequence.Fact} {now : Instant}
    {invoiceId : Option String} {x : Option Consequence.Recorded}
    (h : Heard S.platform w (Consequence.recordFact tenantId order fact now invoiceId) s (.ok x) t) :
    t.2 = s.2 ∧ Kept w ofFact s.1 t.1 ∧ HasFact (t.1.cell w) tenantId order fact := by
  have hget : ∀ {s t : World × List Reply} {y : Option Consequence.OrderConsequence},
      Heard S.platform w (Consequence.get tenantId order) s (.ok y) t →
        t.2 = s.2 ∧ t.1.store = s.1.store := by
    intro s t y hy
    unfold Consequence.get at hy
    obtain ⟨row, u, hs, hrest⟩ := hy.of_bind_ok
    obtain ⟨-, rfl⟩ := hrest.of_pure
    obtain ⟨ht, -, hw⟩ := heard_select hs
    exact ⟨ht, by rw [hw]; exact World.seeRow_store⟩
  have hsee : ∀ {s t : World}, t.store = s.store → HasFact (s.cell w) tenantId order fact →
      HasFact (t.cell w) tenantId order fact := fun hst hs cell hcell => by
    refine hs cell ?_
    unfold World.cell at hcell ⊢
    rwa [hst] at hcell
  unfold Consequence.recordFact at h
  obtain ⟨row, u, hl, h₁⟩ := h.of_bind_ok
  obtain ⟨hu, hx, hlock, hcell⟩ := heard_selectForUpdate hl
  have hkept : Kept w ofFact s.1 u.1 := .of_untouched hlock rfl fun _ => rfl
  cases row with
  | none =>
    obtain ⟨-, rfl⟩ := h₁.of_pure
    refine ⟨hu, hkept, fun cell hc => ?_⟩
    rw [hcell] at hc
    rw [hc] at hx
    cases hx
  | some row =>
    obtain ⟨old, hold, hrow⟩ := Option.map_eq_some_iff.1 (Except.ok.inj hx).symm
    rw [← hcell] at hold
    dsimp only at h₁
    split at h₁
    · obtain ⟨n, v, hupdate, h₂⟩ := h₁.of_bind_ok
      obtain ⟨hv, hno, hyes⟩ := heard_update hold hupdate
      obtain ⟨record, v', hg, hrest⟩ := h₂.of_bind_ok
      obtain ⟨-, rfl⟩ := hrest.of_pure
      obtain ⟨hv', hstore⟩ := hget hg
      cases hc : Schema.check (.consequence tenantId order)
          (Consequence.factRow row fact now invoiceId old.row) with
      | false =>
        obtain ⟨z, hz⟩ := hno hc
        cases hz
      | true =>
        obtain ⟨-, hsame, new, hnew, hnewRow⟩ := hyes hc
        refine ⟨hv'.trans (hv.trans hu), (hkept.trans (.of_untouched hsame rfl fun _ => rfl)).trans
          (.of_store hstore), hsee hstore fun cell hcell => ?_⟩
        obtain rfl := Option.some.inj (hnew.symm.trans hcell)
        rw [hnewRow]
        exact column_factRow ..
    · rename_i hsome
      obtain ⟨record, v, hg, hrest⟩ := h₁.of_bind_ok
      obtain ⟨-, rfl⟩ := hrest.of_pure
      obtain ⟨hv, hstore⟩ := hget hg
      refine ⟨hv.trans hu, hkept.trans (.of_store hstore), hsee hstore fun cell hcell => ?_⟩
      obtain rfl := Option.some.inj (hold.symm.trans hcell)
      rw [hrow]
      exact Option.isSome_iff_ne_none.2 fun hnone => hsome (by rw [hnone]; rfl)

theorem recordFact_heard {order : String} {fact : Consequence.Fact} {invoiceId : Option String}
    (h : Heard S.platform w (recordFact S r order fact invoiceId) s (.ok ()) t) :
    t.2 = s.2 ∧ Kept w ofFact s.1 t.1 ∧ HasFact (t.1.cell w) r.scope.tenantId order fact := by
  unfold recordFact at h
  obtain ⟨now, u, hn, h₁⟩ := h.of_bind_ok
  obtain ⟨rfl, -⟩ := heard_now hn
  obtain ⟨recorded, v, hr, h₂⟩ := h₁.of_bind_ok
  obtain ⟨hv, hkept, hfact⟩ := storeFact_heard hr
  have hannounced : t.2 = v.2 ∧ Kept w ofFact v.1 t.1 ∧ ∀ tenant order,
      t.1.cell w (.consequence tenant order) = v.1.cell w (.consequence tenant order) := by
    have hstay : t = v → t.2 = v.2 ∧ Kept w ofFact v.1 t.1 ∧ ∀ tenant order,
        t.1.cell w (.consequence tenant order) = v.1.cell w (.consequence tenant order) :=
      fun ht => ⟨by rw [ht], .of_store (by rw [ht]), fun _ _ => by rw [ht]⟩
    cases recorded with
    | none => exact hstay h₂.of_pure.2
    | some recorded =>
      dsimp only at h₂
      split at h₂
      · unfold announce at h₂
        split at h₂
        · unfold Consequence.announceRecord at h₂
          split at h₂
          · exact recordEvent_kept h₂
          · cases h₂.of_throw.1
        · exact hstay h₂.of_pure.2
      · exact hstay h₂.of_pure.2
  obtain ⟨ht, hafter, hsame⟩ := hannounced
  refine ⟨ht.trans hv, hkept.trans hafter, fun cell hcell => hfact cell ?_⟩
  rw [← hsame]
  exact hcell

/-- The order of the invoice, where it has one, has its fact. -/
def FactRecorded (look : (k : Key) → Option (Cell k)) (tenantId invoiceId : String) : Prop :=
  ∀ link, look (.consequenceDocument tenantId .customerInvoice invoiceId) = some link →
    HasFact look tenantId link.row .invoicePosted

theorem invoiceFact_heard {invoiceId : String}
    (h : Heard S.platform w (Completion.invoiceFact S r invoiceId) s (.ok ()) t) :
    t.2 = s.2 ∧ Kept w ofFact s.1 t.1 ∧ FactRecorded (t.1.cell w) r.scope.tenantId invoiceId := by
  unfold Completion.invoiceFact at h
  obtain ⟨order, u, hl, h₁⟩ := h.of_bind_ok
  obtain ⟨hu, hx, hw⟩ := heard_select hl
  have hstore : u.1.store = s.1.store := by rw [hw]; exact World.seeRow_store
  have hlink := Except.ok.inj hx
  cases order with
  | none =>
    obtain ⟨-, rfl⟩ := h₁.of_pure
    refine ⟨hu, .of_store hstore, fun link hfound => ?_⟩
    unfold World.cell at hlink hfound
    rw [hstore] at hfound
    rw [hfound] at hlink
    cases hlink
  | some order =>
    obtain ⟨publicId, v, hp, h₂⟩ := h₁.of_bind_ok
    obtain ⟨hv, hstore', -⟩ := erpResourceId_heard hp
    obtain ⟨ht, hkept, hfact⟩ := recordFact_heard h₂
    have hkept' : Kept w ofFact s.1 t.1 :=
      ((Kept.of_store hstore).trans (.of_store hstore')).trans hkept
    refine ⟨ht.trans (hv.trans hu), hkept', fun link hfound => ?_⟩
    obtain ⟨old, hold, hrow⟩ := Option.map_eq_some_iff.1 hlink.symm
    obtain rfl := Option.some.inj ((hkept'.cell _ old rfl hold).symm.trans hfound)
    rw [hrow]
    exact hfact

/-! ### The first part -/

/-- The document ids of a command that are looked up. -/
def Completion.ids : Completion → List String
  | .completePayment paymentId => [paymentId]
  | .allocatePayment paymentId invoiceId _ => [paymentId, invoiceId]
  | .postCustomerInvoice invoiceId => [invoiceId]

/-- **What the first part of a command leaves in its open transaction.** -/
structure Completion.Left (command : Completion) (r : Request) (w : Worker) (n : Natives)
    (s t : World) : Prop where
  committed : t.store.committed = s.store.committed
  event : ∃ id cell, s.cell w (.outbox id) = none ∧ t.cell w (.outbox id) = some cell ∧
    IsEvent r (command.event n) cell
  fact : ∀ invoiceId, command = .postCustomerInvoice invoiceId →
    FactRecorded (t.cell w) r.scope.tenantId invoiceId
  client : ∃ σ, r.client = some σ
  ids : ∀ id ∈ command.ids, (postgresUuid id).isSome = true

theorem cell_of_store {s t : World} (h : t.store = s.store) (k : Key) : t.cell w k = s.cell w k := by
  unfold World.cell
  rw [h]

theorem record_heard {command : Completion} {n : Natives}
    (h : Heard S.platform w (command.record S r) s (.ok n) t) : command.Left r w n s.1 t.1 := by
  cases command with
  | completePayment paymentId =>
    obtain ⟨_, s₁, hd, h₁⟩ := h.of_bind_ok
    obtain ⟨rfl, -⟩ := deny_run hd
    obtain ⟨native, s₂, hr, h₂⟩ := h₁.of_bind_ok
    obtain ⟨-, hstore, hid⟩ := resolveNative_heard hr
    obtain ⟨_, s₃, hp, h₃⟩ := h₂.of_bind_ok
    obtain ⟨rfl, hclient⟩ := process_heard hp
    obtain ⟨_, s₄, he, hrest⟩ := h₃.of_bind_ok
    obtain ⟨hn, rfl⟩ := hrest.of_pure
    obtain rfl := Except.ok.inj hn
    obtain ⟨-, id, hnone, hsame, cell, hcell, hevent⟩ := recordEnvelope_heard he
    rw [cell_of_store hstore] at hnone
    exact ⟨hsame.committed.trans (by rw [hstore]), ⟨id, cell, hnone, hcell, hevent⟩, nofun,
      hclient, fun i hi => by rw [List.mem_singleton.1 hi]; exact hid⟩
  | allocatePayment paymentId invoiceId amount =>
    obtain ⟨_, s₁, hd, h₁⟩ := h.of_bind_ok
    obtain ⟨rfl, -⟩ := deny_run hd
    obtain ⟨payment, s₂, hr, h₂⟩ := h₁.of_bind_ok
    obtain ⟨-, hstore, hid⟩ := resolveNative_heard hr
    obtain ⟨invoice, s₃, hr', h₃⟩ := h₂.of_bind_ok
    obtain ⟨-, hstore', hid'⟩ := resolveNative_heard hr'
    obtain ⟨_, s₄, hp, h₄⟩ := h₃.of_bind_ok
    obtain ⟨rfl, hclient⟩ := process_heard hp
    obtain ⟨_, s₅, he, h₅⟩ := h₄.of_bind_ok
    obtain ⟨publicId, s₆, hpublic, hrest⟩ := h₅.of_bind_ok
    obtain ⟨hn, rfl⟩ := hrest.of_pure
    obtain rfl := Except.ok.inj hn
    obtain ⟨-, id, hnone, hsame, cell, hcell, hevent⟩ := recordEnvelope_heard he
    obtain ⟨-, hstore'', -⟩ := erpResourceId_heard hpublic
    rw [cell_of_store (hstore'.trans hstore)] at hnone
    rw [← cell_of_store hstore''] at hcell
    refine ⟨?_, ⟨id, cell, hnone, hcell, hevent⟩, nofun, hclient, fun i hi => ?_⟩
    · rw [hstore'', hsame.committed, hstore', hstore]
    · rcases List.mem_cons.1 hi with rfl | hi
      · exact hid
      · rw [List.mem_singleton.1 hi]
        exact hid'
  | postCustomerInvoice invoiceId =>
    obtain ⟨_, s₁, hd, h₁⟩ := h.of_bind_ok
    obtain rfl := denyPost_run hd
    obtain ⟨native, s₂, hr, h₂⟩ := h₁.of_bind_ok
    obtain ⟨-, hstore, hid⟩ := resolveNative_heard hr
    obtain ⟨_, s₃, hp, h₃⟩ := h₂.of_bind_ok
    obtain ⟨rfl, hclient⟩ := process_heard hp
    obtain ⟨_, s₄, he, h₄⟩ := h₃.of_bind_ok
    obtain ⟨_, s₅, hf, hrest⟩ := h₄.of_bind_ok
    obtain ⟨hn, rfl⟩ := hrest.of_pure
    obtain rfl := Except.ok.inj hn
    obtain ⟨-, id, hnone, hsame, cell, hcell, hevent⟩ := recordEnvelope_heard he
    obtain ⟨-, hkept, hfact⟩ := invoiceFact_heard hf
    rw [cell_of_store hstore] at hnone
    refine ⟨?_, ⟨id, cell, hnone, hkept.cell _ cell rfl hcell, hevent⟩, ?_, hclient,
      fun i hi => by rw [List.mem_singleton.1 hi]; exact hid⟩
    · rw [hkept.committed, hsame.committed, hstore]
    · rintro _ ⟨⟩
      exact hfact

/-! ### The announcements -/

/-- The event a document is announced with, by what was read of it. -/
def sentOf {α : Type} (y : Except Exc α) (status : α → Option String)
    (sent : α → String → Option String) : Option String :=
  match y with
  | .ok facts => (status facts).bind (sent facts)
  | .error _ => none

/-- **The announcement of a payment does not raise**: nothing escapes its reads, and what
they say can be recorded. -/
def PaymentQuiet (S : Service) (r : Request) (w : Worker) (s : World) (replies : List Reply)
    (paymentId : String) (invoiceId : Option String) (requested : Bool) : Prop :=
  (publicIdOf w s r.scope.tenantId "Payment" paymentId).isSome = true →
    PaymentTame S.runtime replies ∧ ∀ facts status, paymentOf S.runtime replies = .ok facts →
      paymentStatus facts requested = some status →
        Recordable w s (paymentNotice S r paymentId)
          (Outcome.found w s r.scope.tenantId .payment paymentId) status
          (.payment facts.amount.amount facts.amount.currency invoiceId)

/-- The event of the payment, where it is announced. -/
def paymentSent (S : Service) (r : Request) (w : Worker) (s : World) (replies : List Reply)
    (paymentId : String) (invoiceId : Option String) (requested : Bool) : Option String :=
  if (publicIdOf w s r.scope.tenantId "Payment" paymentId).isSome then
    sentOf (paymentOf S.runtime replies) (paymentStatus · requested) fun facts status =>
      (paymentNotice S r paymentId).sent (Outcome.found w s r.scope.tenantId .payment paymentId)
        status (.payment facts.amount.amount facts.amount.currency invoiceId)
  else none

/-- The replies the announcement of a payment leaves. -/
def repliesLeft (r : Request) (w : Worker) (s : World) (replies : List Reply)
    (paymentId : String) : List Reply :=
  if (publicIdOf w s r.scope.tenantId "Payment" paymentId).isSome then paymentRest replies
  else replies

/-- **The announcement of an invoice does not raise.**  One without an order is not read. -/
def InvoiceQuiet (S : Service) (r : Request) (w : Worker) (s : World) (replies : List Reply)
    (invoiceId : String) (allocated : Bool) : Prop :=
  ∀ publicId, publicIdOf w s r.scope.tenantId "CustomerInvoice" invoiceId = some publicId →
    (s.cell w (.consequenceDocument r.scope.tenantId .customerInvoice invoiceId)).isSome = true →
      InvoiceTame S.runtime replies ∧ ∀ facts status, invoiceOf S.runtime replies = .ok facts →
        invoiceStatus facts allocated = some status →
          Recordable w s (invoiceNotice S r publicId)
            (Outcome.found w s r.scope.tenantId .invoice publicId) status
            (.invoice facts.number facts.total.amount facts.total.currency)

/-- The event of the invoice, where it is announced. -/
def invoiceSent (S : Service) (r : Request) (w : Worker) (s : World) (replies : List Reply)
    (invoiceId : String) (allocated : Bool) : Option String :=
  if (s.cell w (.consequenceDocument r.scope.tenantId .customerInvoice invoiceId)).isSome then
    (publicIdOf w s r.scope.tenantId "CustomerInvoice" invoiceId).bind fun publicId =>
      sentOf (invoiceOf S.runtime replies) (invoiceStatus · allocated) fun facts status =>
        (invoiceNotice S r publicId).sent (Outcome.found w s r.scope.tenantId .invoice publicId)
          status (.invoice facts.number facts.total.amount facts.total.currency)
  else none

theorem found_of_store {s t : World} (h : t.store = s.store) (tenantId : String)
    (type : DocumentType) (documentId : String) :
    Outcome.found w t tenantId type documentId = Outcome.found w s tenantId type documentId := by
  unfold Outcome.found
  rw [cell_of_store h]

theorem recordable_of_store {s t : World} (h : t.store = s.store) {notice : Notice}
    {row : Option OutcomeRow} {status : String} {detail : Detail} :
    Recordable w t notice row status detail ↔ Recordable w s notice row status detail := by
  unfold Recordable
  simp only [cell_of_store h]

theorem announced_of_store {own : Key} {sent : Option String} {s t u : World}
    (h : t.store = s.store) (ha : Announced w own sent t u) : Announced w own sent s u :=
  ⟨by rw [ha.committed, h], fun k hk hi hs => (ha.cell k hk hi hs).trans (cell_of_store h k), ha.put⟩

/-- The end of an announcement, after reads that changed no row. -/
theorem changed_heard (status : String) (detail : Detail) {tenantId documentId schema : String}
    {type : DocumentType} {notice : Notice} {u : World × List Reply} {x : Except Exc Unit}
    {event : Outcome.Advanced → Instant → Except String CloudEvent}
    (ha : Announces schema notice event) (hstore : u.1.store = s.1.store)
    (h : Heard S.platform w (announceChange tenantId type documentId status detail event) u x t) :
    Decides (Recordable w s.1 notice (Outcome.found w s.1 tenantId type documentId) status detail)
      x (t.2 = u.2 ∧ Announced w (.outcome tenantId type documentId)
        (notice.sent (Outcome.found w s.1 tenantId type documentId) status detail) s.1 t.1) := by
  obtain ⟨hreturns, hraises⟩ := announceChange_heard ha h
  rw [found_of_store hstore, recordable_of_store hstore] at hreturns hraises
  refine ⟨fun hq => ?_, hraises⟩
  obtain ⟨hx, hreplies, hleft⟩ := hreturns hq
  exact ⟨hx, hreplies, announced_of_store hstore hleft⟩

/-- What was observed is announced: the reads decide, and then the rows. -/
theorem observed_decides {α : Type} (own : Key) (left : List Reply → Prop) {y : Except Exc α}
    {status : α → Option String} {read : Program α} {seen : Option (α × String) → Program Unit}
    {ready : α → String → Prop} {sent : α → String → Option String} {u : World × List Reply}
    {x : Except Exc Unit}
    (hread : ∀ z v, Heard S.platform w read u z v → z = y ∧ left v.2 ∧ v.1.store = s.1.store)
    (h : Heard S.platform w (observed read status >>= seen) u x t) (hnone : seen none = pure ())
    (hchange : ∀ facts st v z v', v.1.store = s.1.store →
      Heard S.platform w (seen (some (facts, st))) v z v' →
        Decides (ready facts st) z (v'.2 = v.2 ∧ Announced w own (sent facts st) s.1 v'.1)) :
    Decides (Caught y ∧ ∀ facts st, y = .ok facts → status facts = some st → ready facts st)
      x (left t.2 ∧ Announced w own (sentOf y status sent) s.1 t.1) := by
  rcases h.of_bind with ⟨z, ho, rfl⟩ | ⟨seen, v, ho, hrest⟩
  · obtain ⟨hx, -⟩ := observed_heard hread ho
    refine .of_false fun hq => ?_
    unfold observedOf at hx
    cases y with
    | ok facts => cases hx
    | error z' =>
      dsimp only at hx
      rw [if_pos (caught_error.1 hq.1)] at hx
      cases hx
  · obtain ⟨hx, hleft, hstore⟩ := observed_heard hread ho
    unfold observedOf at hx
    unfold sentOf
    cases y with
    | error z' =>
      dsimp only at hx
      split_ifs at hx with hz
      obtain rfl := Except.ok.inj hx
      rw [hnone] at hrest
      obtain ⟨rfl, rfl⟩ := hrest.of_pure
      exact .of_true ⟨caught_error.2 hz, nofun⟩ ⟨hleft, .of_store hstore⟩
    | ok facts =>
      dsimp only at hx ⊢
      cases hs : status facts with
      | none =>
        rw [hs] at hx
        obtain rfl := Except.ok.inj hx
        rw [Option.map_none, hnone] at hrest
        obtain ⟨rfl, rfl⟩ := hrest.of_pure
        refine .of_true ⟨caught_ok _, fun facts' st hf hst => ?_⟩ ⟨hleft, .of_store hstore⟩
        obtain rfl := Except.ok.inj hf
        cases hs.symm.trans hst
      | some st =>
        rw [hs] at hx
        obtain rfl := Except.ok.inj hx
        obtain ⟨hreturns, hraises⟩ := hchange facts st v x t hstore hrest
        refine ⟨fun hq => ?_, fun hno => hraises fun hready => hno ⟨caught_ok _, ?_⟩⟩
        · obtain ⟨hok, hreplies, hannounced⟩ := hreturns (hq.2 facts st rfl hs)
          exact ⟨hok, by rw [hreplies]; exact hleft, hannounced⟩
        · intro facts' st' hf hst
          obtain rfl := Except.ok.inj hf
          obtain rfl := Option.some.inj (hs.symm.trans hst)
          exact hready

variable {σ : Session}

/-- **How the announcement of a payment ends.** -/
theorem announcePayment_heard {paymentId : String} {nativeId : Int} {invoiceId : Option String}
    {requested : Bool} {x : Except Exc Unit}
    (hH : ∀ ns name, (uuidValue (S.platform.hashes.uuid5 ns name)).isSome = true)
    (hc : r.client = some σ) (hid : (postgresUuid paymentId).isSome = true)
    (h : Heard S.platform w (announcePayment S r paymentId nativeId invoiceId requested) s x t) :
    Decides (PaymentQuiet S r w s.1 s.2 paymentId invoiceId requested) x
      (t.2 = repliesLeft r w s.1 s.2 paymentId ∧
        Announced w (.outcome r.scope.tenantId .payment paymentId)
          (paymentSent S r w s.1 s.2 paymentId invoiceId requested) s.1 t.1) := by
  unfold announcePayment at h
  rcases h.of_bind with ⟨z, hp, rfl⟩ | ⟨publicId, u, hp, h₁⟩
  · cases (erpResourceId_heard hp).2.2 hid
  obtain ⟨hu, hstore, hpublic⟩ := erpResourceId_heard hp
  obtain rfl := Except.ok.inj (hpublic hid)
  unfold PaymentQuiet paymentSent repliesLeft
  cases hpub : publicIdOf w s.1 r.scope.tenantId "Payment" paymentId with
  | none =>
    rw [hpub] at h₁
    obtain ⟨rfl, rfl⟩ := h₁.of_pure
    exact .of_true nofun ⟨hu, .of_store hstore⟩
  | some publicId =>
    rw [hpub] at h₁
    rcases h₁.of_bind with ⟨z, he, rfl⟩ | ⟨τ, v, he, h₂⟩
    · cases (engine_run he).2 σ hc
    obtain rfl := (engine_run he).1
    rw [if_pos (Option.isSome_some), if_pos (Option.isSome_some)]
    have hread : ∀ z v', Heard S.platform w (readPayment S.runtime τ nativeId) v z v' →
        z = paymentOf S.runtime s.2 ∧ v'.2 = paymentRest s.2 ∧ v'.1.store = s.1.store :=
      fun z v' hz => by
        obtain ⟨hx, hrest, hv⟩ := readPayment_heard hz
        rw [hu] at hx hrest
        exact ⟨hx, hrest, hv.trans hstore⟩
    have hends := observed_decides (.outcome r.scope.tenantId .payment paymentId)
      (· = paymentRest s.2) hread h₂ rfl fun facts st _ _ _ hv hz =>
        changed_heard st (.payment facts.amount.amount facts.amount.currency invoiceId)
          (payment_announces hH paymentId publicId invoiceId facts st) hv hz
    exact ⟨fun hq => hends.returns ⟨paymentTame_iff.1 (hq rfl).1, (hq rfl).2⟩,
      fun hno => hends.raises fun hq => hno fun _ => ⟨paymentTame_iff.2 hq.1, hq.2⟩⟩

/-- **How the announcement of an invoice ends.** -/
theorem announceInvoice_heard {invoiceId : String} {nativeId : Int} {allocated : Bool}
    {x : Except Exc Unit}
    (hH : ∀ ns name, (uuidValue (S.platform.hashes.uuid5 ns name)).isSome = true)
    (hc : r.client = some σ) (hid : (postgresUuid invoiceId).isSome = true)
    (h : Heard S.platform w (announceInvoice S r invoiceId nativeId allocated) s x t) :
    Decides (InvoiceQuiet S r w s.1 s.2 invoiceId allocated) x
      (∃ publicId, Announced w (.outcome r.scope.tenantId .invoice publicId)
        (invoiceSent S r w s.1 s.2 invoiceId allocated) s.1 t.1) := by
  unfold announceInvoice at h
  rcases h.of_bind with ⟨z, hl, rfl⟩ | ⟨order, u, hl, h₁⟩
  · cases (heard_select hl).2.1
  obtain ⟨hu, horder, hw⟩ := heard_select hl
  have hstore : u.1.store = s.1.store := by rw [hw]; exact World.seeRow_store
  rcases h₁.of_bind with ⟨z, hp, rfl⟩ | ⟨publicId, v, hp, h₂⟩
  · cases (erpResourceId_heard hp).2.2 hid
  obtain ⟨hv, hstore', hpublic⟩ := erpResourceId_heard hp
  have hv' : v.1.store = s.1.store := hstore'.trans hstore
  have hpub : publicId = publicIdOf w s.1 r.scope.tenantId "CustomerInvoice" invoiceId := by
    rw [Except.ok.inj (hpublic hid)]
    unfold publicIdOf
    simp only [cell_of_store hstore]
  have hlink : order.isSome =
      (s.1.cell w (.consequenceDocument r.scope.tenantId .customerInvoice invoiceId)).isSome := by
    rw [Except.ok.inj horder]
    exact Option.isSome_map
  unfold InvoiceQuiet invoiceSent
  rw [← hpub, ← hlink]
  cases order with
  | none =>
    obtain ⟨rfl, rfl⟩ := h₂.of_pure
    exact .of_true (fun _ _ h => nomatch h) ⟨"", .of_store hv'⟩
  | some orderId =>
    cases publicId with
    | none =>
      obtain ⟨rfl, rfl⟩ := h₂.of_pure
      exact .of_true nofun ⟨"", .of_store hv'⟩
    | some publicId =>
      rcases h₂.of_bind with ⟨z, he, rfl⟩ | ⟨τ, v', he, h₃⟩
      · cases (engine_run he).2 σ hc
      obtain rfl := (engine_run he).1
      have hread : ∀ z u', Heard S.platform w (readInvoice S.runtime τ nativeId) v' z u' →
          z = invoiceOf S.runtime s.2 ∧ True ∧ u'.1.store = s.1.store := fun z u' hz => by
        obtain ⟨hx, hu'⟩ := readInvoice_heard hz
        rw [hv, hu] at hx
        exact ⟨hx, trivial, hu'.trans hv'⟩
      have hends := observed_decides (.outcome r.scope.tenantId .invoice publicId) (fun _ => True)
        hread h₃ rfl fun facts st _ _ _ hu' hz =>
          changed_heard st (.invoice facts.number facts.total.amount facts.total.currency)
            (invoice_announces hH publicId orderId facts st) hu' hz
      rw [if_pos (Option.isSome_some), Option.bind_some]
      refine ⟨fun hq => ?_, fun hno => hends.raises fun hq => hno fun p hp _ => ?_⟩
      · obtain ⟨htame, hready⟩ := hq publicId rfl rfl
        obtain ⟨hok, -, hleft⟩ := hends.returns ⟨invoiceTame_iff.1 htame, hready⟩
        exact ⟨hok, publicId, hleft⟩
      · obtain rfl := Option.some.inj hp
        exact ⟨invoiceTame_iff.2 hq.1, hq.2⟩

/-! ### The second part -/

/-- The keys an announcement writes at. -/
def ofAnnouncement : Key → Bool
  | .outcome _ _ _ => true
  | .outbox _ => true
  | .index _ => true
  | _ => false

/-- Nothing is committed, no recorded event is lost, and what an announcement does not
write is as it was. -/
structure Undisturbed (w : Worker) (s t : World) : Prop where
  committed : t.store.committed = s.store.committed
  cell : ∀ k, ofAnnouncement k = false → t.cell w k = s.cell w k
  event : ∀ id c, s.cell w (.outbox id) = some c → t.cell w (.outbox id) = some c

theorem Undisturbed.trans {s t u : World} (h : Undisturbed w s t) (h' : Undisturbed w t u) :
    Undisturbed w s u :=
  ⟨h'.committed.trans h.committed, fun k hk => (h'.cell k hk).trans (h.cell k hk),
    fun id c hc => h'.event id c (h.event id c hc)⟩

theorem Announced.undisturbed {tenantId documentId : String} {type : DocumentType}
    {sent : Option String} {s t : World}
    (h : Announced w (.outcome tenantId type documentId) sent s t)
    (hnew : ∀ id, sent = some id → s.cell w (.outbox id) = none) : Undisturbed w s t := by
  refine ⟨h.committed, fun k hk => h.cell k ?_ ?_ ?_, fun id c hc => h.stays hnew nofun nofun hc⟩
  · rintro rfl
    cases hk
  · rintro i rfl
    cases hk
  · rintro id - rfl
    cases hk

/-- An event id is free after an announcement where it was before and is not its own. -/
theorem Announced.free_iff {tenantId documentId id : String} {type : DocumentType}
    {sent : Option String} {s t : World}
    (h : Announced w (.outcome tenantId type documentId) sent s t) :
    t.cell w (.outbox id) = none ↔ s.cell w (.outbox id) = none ∧ sent ≠ some id := by
  have hother : sent ≠ some id → t.cell w (.outbox id) = s.cell w (.outbox id) := fun hne =>
    h.cell _ (fun he => by cases he) (fun _ he => by cases he) fun id' hid he =>
      hne (by rw [hid, Key.outbox.inj he])
  constructor
  · intro hnone
    have hne : sent ≠ some id := fun hid => h.put id hid hnone
    exact ⟨by rw [← hother hne]; exact hnone, hne⟩
  · rintro ⟨hnone, hne⟩
    rw [hother hne]
    exact hnone

theorem sentOf_eq {α : Type} {y : Except Exc α} {status : α → Option String}
    {sent : α → String → Option String} {id : String} (h : sentOf y status sent = some id) :
    ∃ facts st, y = .ok facts ∧ status facts = some st ∧ sent facts st = some id := by
  unfold sentOf at h
  cases y with
  | error z => cases h
  | ok facts =>
    obtain ⟨st, hst, hid⟩ := Option.bind_eq_some_iff.1 h
    exact ⟨facts, st, rfl, hst, hid⟩

/-- What can be recorded has a new event. -/
theorem Recordable.new {s : World} {notice : Notice} {row : Option OutcomeRow} {status : String}
    {detail : Detail} {id : String} (h : Recordable w s notice row status detail)
    (hid : notice.sent row status detail = some id) : s.cell w (.outbox id) = none := by
  obtain ⟨revision, hr, rfl⟩ := Option.map_eq_some_iff.1 hid
  exact (h revision hr).2.2.2

theorem PaymentQuiet.new {s : World} {replies : List Reply} {paymentId : String}
    {invoiceId : Option String} {requested : Bool} {id : String}
    (h : PaymentQuiet S r w s replies paymentId invoiceId requested)
    (hid : paymentSent S r w s replies paymentId invoiceId requested = some id) :
    s.cell w (.outbox id) = none := by
  unfold paymentSent at hid
  split_ifs at hid with hpublic
  obtain ⟨facts, st, hfacts, hst, hsent⟩ := sentOf_eq hid
  exact ((h hpublic).2 facts st hfacts hst).new hsent

theorem invoiceSent_eq {s : World} {replies : List Reply} {invoiceId : String} {allocated : Bool}
    {id : String} (hid : invoiceSent S r w s replies invoiceId allocated = some id) :
    ∃ publicId facts st,
      publicIdOf w s r.scope.tenantId "CustomerInvoice" invoiceId = some publicId ∧
      (s.cell w (.consequenceDocument r.scope.tenantId .customerInvoice invoiceId)).isSome = true ∧
      invoiceOf S.runtime replies = .ok facts ∧ invoiceStatus facts allocated = some st ∧
      (invoiceNotice S r publicId).sent (Outcome.found w s r.scope.tenantId .invoice publicId) st
        (.invoice facts.number facts.total.amount facts.total.currency) = some id := by
  unfold invoiceSent at hid
  split_ifs at hid with hlink
  obtain ⟨publicId, hpublic, hseen⟩ := Option.bind_eq_some_iff.1 hid
  obtain ⟨facts, st, hfacts, hst, hsent⟩ := sentOf_eq hseen
  exact ⟨publicId, facts, st, hpublic, hlink, hfacts, hst, hsent⟩

theorem InvoiceQuiet.new {s : World} {replies : List Reply} {invoiceId : String}
    {allocated : Bool} {id : String} (h : InvoiceQuiet S r w s replies invoiceId allocated)
    (hid : invoiceSent S r w s replies invoiceId allocated = some id) :
    s.cell w (.outbox id) = none := by
  obtain ⟨publicId, facts, st, hpublic, hlink, hfacts, hst, hsent⟩ := invoiceSent_eq hid
  exact ((h publicId hpublic hlink).2 facts st hfacts hst).new hsent

/-- **The announcement of an invoice after that of a payment** does not raise where it
would not have before, and its event is another one. -/
theorem invoiceQuiet_after {s t : World} {paymentId invoiceId : String} {sent : Option String}
    {replies : List Reply} {allocated : Bool}
    (h : Announced w (.outcome r.scope.tenantId .payment paymentId) sent s t) :
    InvoiceQuiet S r w t replies invoiceId allocated ↔
      InvoiceQuiet S r w s replies invoiceId allocated ∧
        ∀ id, sent = some id → invoiceSent S r w s replies invoiceId allocated ≠ some id := by
  have hcell : ∀ k, ofAnnouncement k = false → t.cell w k = s.cell w k := fun k hk => by
    refine h.cell k ?_ ?_ ?_
    · rintro rfl
      cases hk
    · rintro i rfl
      cases hk
    · rintro id - rfl
      cases hk
  have hpublic : publicIdOf w t r.scope.tenantId "CustomerInvoice" invoiceId =
      publicIdOf w s r.scope.tenantId "CustomerInvoice" invoiceId := by
    unfold publicIdOf
    simp only [hcell (.entityMapping _ _ _) rfl]
  have hfound : ∀ publicId, Outcome.found w t r.scope.tenantId .invoice publicId =
      Outcome.found w s r.scope.tenantId .invoice publicId := fun publicId => by
    unfold Outcome.found
    rw [h.cell (.outcome _ .invoice _) (fun he => by cases he) (fun _ he => by cases he)
      fun _ _ he => by cases he]
  unfold InvoiceQuiet
  rw [hpublic, hcell (.consequenceDocument _ _ _) rfl]
  simp only [hfound]
  constructor
  · refine fun hq => ⟨fun publicId hp hl => ?_, fun id hid hsent => ?_⟩
    · obtain ⟨htame, hready⟩ := hq publicId hp hl
      refine ⟨htame, fun facts st hf hst revision hr => ?_⟩
      obtain ⟨hint, hstorable, hsendable, hnone⟩ := hready facts st hf hst revision hr
      exact ⟨hint, hstorable, hsendable, (h.free_iff.1 hnone).1⟩
    · obtain ⟨publicId, facts, st, hp, hl, hf, hst, hmade⟩ := invoiceSent_eq hsent
      exact h.put id hid (((hq publicId hp hl).2 facts st hf hst).new hmade)
  · rintro ⟨hq, hother⟩ publicId hp hl
    obtain ⟨htame, hready⟩ := hq publicId hp hl
    refine ⟨htame, fun facts st hf hst revision hr => ?_⟩
    obtain ⟨hint, hstorable, hsendable, hnone⟩ := hready facts st hf hst revision hr
    refine ⟨hint, hstorable, hsendable, h.free_iff.2 ⟨hnone, fun hid => hother _ hid ?_⟩⟩
    unfold invoiceSent
    rw [if_pos hl, hp, Option.bind_some, hf]
    unfold sentOf
    dsimp only
    rw [hst, Option.bind_some]
    unfold Notice.sent
    rw [hr, Option.map_some]

/-- **The announcements of a command do not raise**, by the rows and the replies they
start from.  Those of an allocation are two, and their events are not one. -/
def Completion.Quiet (S : Service) (r : Request) (w : Worker) (n : Natives) (s : World)
    (replies : List Reply) : Completion → Prop
  | .completePayment paymentId => PaymentQuiet S r w s replies paymentId none false
  | .allocatePayment paymentId invoiceId _ =>
    PaymentQuiet S r w s replies paymentId n.invoicePublicId true ∧
      InvoiceQuiet S r w s (repliesLeft r w s replies paymentId) invoiceId true ∧
      ∀ id, paymentSent S r w s replies paymentId n.invoicePublicId true = some id →
        invoiceSent S r w s (repliesLeft r w s replies paymentId) invoiceId true ≠ some id
  | .postCustomerInvoice invoiceId => InvoiceQuiet S r w s replies invoiceId false

theorem announce_heard {command : Completion} {n : Natives} {x : Except Exc Unit}
    (hH : ∀ ns name, (uuidValue (S.platform.hashes.uuid5 ns name)).isSome = true)
    (hc : r.client = some σ) (hids : ∀ id ∈ command.ids, (postgresUuid id).isSome = true)
    (h : Heard S.platform w (command.announce S r n) s x t) :
    Decides (command.Quiet S r w n s.1 s.2) x (Undisturbed w s.1 t.1) := by
  have hpayment : ∀ {paymentId : String} {nativeId : Int} {invoiceId : Option String}
      {requested : Bool} {x : Except Exc Unit} {t : World × List Reply},
      paymentId ∈ command.ids →
      Heard S.platform w (announcePayment S r paymentId nativeId invoiceId requested) s x t →
        Decides (PaymentQuiet S r w s.1 s.2 paymentId invoiceId requested) x
          (t.2 = repliesLeft r w s.1 s.2 paymentId ∧
            Announced w (.outcome r.scope.tenantId .payment paymentId)
              (paymentSent S r w s.1 s.2 paymentId invoiceId requested) s.1 t.1) :=
    fun hid h => announcePayment_heard hH hc (hids _ hid) h
  have hinvoice : ∀ {invoiceId : String} {nativeId : Int} {allocated : Bool}
      {x : Except Exc Unit} {s t : World × List Reply}, invoiceId ∈ command.ids →
      Heard S.platform w (announceInvoice S r invoiceId nativeId allocated) s x t →
        Decides (InvoiceQuiet S r w s.1 s.2 invoiceId allocated) x (Undisturbed w s.1 t.1) := by
    intro invoiceId nativeId allocated x s t hid h
    obtain ⟨hreturns, hraises⟩ := announceInvoice_heard hH hc (hids _ hid) h
    refine ⟨fun hq => ?_, hraises⟩
    obtain ⟨hx, publicId, hleft⟩ := hreturns hq
    exact ⟨hx, hleft.undisturbed fun id => hq.new⟩
  cases command with
  | completePayment paymentId =>
    obtain ⟨hreturns, hraises⟩ := hpayment (List.mem_singleton_self _) h
    refine ⟨fun hq => ?_, hraises⟩
    obtain ⟨hx, -, hleft⟩ := hreturns hq
    exact ⟨hx, hleft.undisturbed fun id => hq.new⟩
  | allocatePayment paymentId invoiceId amount =>
    rcases h.of_bind with ⟨z, hp, rfl⟩ | ⟨_, u, hp, hi⟩
    · obtain ⟨hreturns, -⟩ := hpayment List.mem_cons_self hp
      refine .of_false fun hq => ?_
      cases (hreturns hq.1).1
    · obtain ⟨hreturns, hraises⟩ := hpayment List.mem_cons_self hp
      by_cases hpay : PaymentQuiet S r w s.1 s.2 paymentId n.invoicePublicId true
      · obtain ⟨-, hreplies, hleft⟩ := hreturns hpay
        have hsecond := hinvoice (List.mem_cons_of_mem _ (List.mem_singleton_self _)) hi
        have hiff : InvoiceQuiet S r w u.1 u.2 invoiceId true ↔ _ := invoiceQuiet_after hleft
        rw [hreplies] at hsecond hiff
        refine ⟨fun hq => ?_, fun hno => hsecond.raises fun hq => hno ⟨hpay, hiff.1 hq⟩⟩
        obtain ⟨hx, hafter⟩ := hsecond.returns (hiff.2 hq.2)
        exact ⟨hx, (hleft.undisturbed fun id => hpay.new).trans hafter⟩
      · obtain ⟨z, hz⟩ := hraises hpay
        cases hz
  | postCustomerInvoice invoiceId => exact hinvoice (List.mem_singleton_self _) h

/-! ### The request -/

/-- **The command left its traces**: its event is in the outbox, and where it posts the
invoice of an order, the order has the fact. -/
def Completion.Recorded (r : Request) (n : Natives) (s t : World) (command : Completion) : Prop :=
  (∃ id cell, s.store.committed (.outbox id) = none ∧ t.store.committed (.outbox id) = some cell ∧
    IsEvent r (command.event n) cell) ∧
  ∀ invoiceId, command = .postCustomerInvoice invoiceId →
    FactRecorded t.store.committed r.scope.tenantId invoiceId

/-- The part of the request that follows the records. -/
def Completion.follow (D : Service) (r : Request) (n : Natives) (command : Completion) :
    Program Unit :=
  Inbox.orRollback (command.announce D r n >>= fun _ => Call.commit)

/-- A request that recorded goes on with the part that follows. -/
theorem Completion.request_heard {command : Completion} {n : Natives} {x : Except Exc Unit}
    {u : World × List Reply} (hrecord : Heard S.platform w (command.record S r) s (.ok n) u)
    (hrest : Heard S.platform w (command.follow S r n) u x t) :
    Heard S.platform w (transaction (command.program S r)) s x t := by
  have heq : (command.program S r >>= fun _ => Call.commit) =
      command.record S r >>= fun n => command.announce S r n >>= fun _ => Call.commit := by
    rw [program_eq, Prog.bind_bind]
  show Heard S.platform w (Inbox.orRollback (command.program S r >>= fun _ => Call.commit)) s x t
  rw [heq]
  unfold Completion.follow Inbox.orRollback at hrest
  unfold Inbox.orRollback
  rw [Prog.tryCatch_eq] at hrest ⊢
  obtain ⟨y, v, hbody, hend⟩ := Prog.Alone.handle_iff.1 hrest
  exact Prog.Alone.handle_iff.2 ⟨y, v, hrecord.bind hbody, hend⟩

theorem follow_quiet {command : Completion} {n : Natives} :
    ¬ Prog.Calls (commits · = true) (command.announce S r n) := by
  have hcall : ∀ e : Eff, commits e = false →
      ¬ Prog.Calls (commits · = true) (.perform e : Program (Ans e)) := fun e he =>
    Prog.quiet_perform (Bool.eq_false_iff.1 he)
  cases command with
  | completePayment paymentId => exact announcePayment_closed Prog.closed_quiet hcall
  | allocatePayment paymentId invoiceId amount =>
    exact Prog.closed_quiet.bind (announcePayment_closed Prog.closed_quiet hcall) fun _ =>
      announceInvoice_closed Prog.closed_quiet hcall
  | postCustomerInvoice invoiceId => exact announceInvoice_closed Prog.closed_quiet hcall

/-- The part that follows commits what was announced, or what was recorded is lost. -/
theorem follow_ends {command : Completion} {n : Natives} {x : Except Exc Unit}
    (h : Heard S.platform w (command.follow S r n) s x t) :
    (∃ v, Heard S.platform w (command.announce S r n) s (.ok ()) v ∧ x = .ok () ∧
      t.1.store.committed = v.1.cell w) ∨
    ∃ z v, Heard S.platform w (command.announce S r n) s (.error z) v ∧
      t.1.store.committed = s.1.store.committed := by
  rcases heard_orRollback h with ⟨_, hx, hbody⟩ | ⟨z, y, v, -, hbody, hv⟩
  · obtain ⟨_, v, hannounce, hcommit⟩ := hbody.of_bind_ok
    obtain ⟨-, -, ht⟩ := heard_commit hcommit
    exact .inl ⟨v, hannounce, hx, by rw [ht]; rfl⟩
  · rcases hbody.of_bind with ⟨z', hannounce, -⟩ | ⟨_, v', -, hcommit⟩
    · refine .inr ⟨z', v, hannounce, ?_⟩
      have hsame := ran_uncommitted follow_quiet (Heard.ran hannounce)
      rw [hv]
      exact hsame
    · cases (heard_commit hcommit).2.1

/-- Where nothing was committed, the command left no trace. -/
theorem Completion.not_recorded {command : Completion} {n : Natives} {s t : World}
    (h : t.store.committed = s.store.committed) : ¬ command.Recorded r n s t := by
  rintro ⟨⟨id, cell, hfree, hstored, -⟩, -⟩
  rw [h, hfree] at hstored
  cases hstored

end

/-- **What a completed process left is kept exactly where nothing escapes the
announcement.**  The process ran and the event and the fact were written in the open
transaction (`hrecord`); then the reads return or raise whatever they may (`hrest`). -/
theorem recorded_iff (S : Service) (r : Request) (w : Worker) (command : Completion)
    (s u t : World) (replies before after : List Reply) (n : Natives) (x : Except Exc Unit)
    (hH : ∀ ns name, (uuidValue (S.platform.hashes.uuid5 ns name)).isSome = true)
    (hclean : s.store.Clean w)
    (hrecord : Heard S.platform w (command.record S r) (s, replies) (.ok n) (u, before))
    (hrest : Heard S.platform w (command.follow S r n) (u, before) x (t, after)) :
    Heard S.platform w (transaction (command.program S r)) (s, replies) x (t, after) ∧
      (command.Recorded r n s t ↔ command.Quiet S r w n u before) := by
  refine ⟨Completion.request_heard hrecord hrest, ?_⟩
  obtain ⟨hcommitted, ⟨id, cell, hnone, hcell, hevent⟩, hfact, ⟨σ, hc⟩, hids⟩ := record_heard hrecord
  rcases follow_ends hrest with ⟨v, hannounce, -, ht⟩ | ⟨z, v, hannounce, ht⟩
  · obtain ⟨hreturns, hraises⟩ := announce_heard hH hc hids hannounce
    have hquiet : command.Quiet S r w n u before := by
      by_contra hno
      obtain ⟨z, hz⟩ := hraises hno
      cases hz
    obtain ⟨-, hkept⟩ := hreturns hquiet
    have hfree : s.store.committed (.outbox id) = none := by rw [← hclean.view]; exact hnone
    refine ⟨fun _ => hquiet, fun _ => ⟨⟨id, cell, hfree, ?_, hevent⟩, fun invoiceId hi => ?_⟩⟩
    · rw [show t.store.committed = _ from ht]
      exact hkept.event id cell hcell
    · rw [show t.store.committed = _ from ht]
      intro link hlink record hrecorded
      rw [hkept.cell _ rfl] at hlink hrecorded
      exact hfact invoiceId hi link hlink record hrecorded
  · have hnone : ¬ command.Recorded r n s t := Completion.not_recorded (ht.trans hcommitted)
    refine ⟨fun h => absurd h hnone, fun hq => ?_⟩
    cases ((announce_heard hH hc hids hannounce).returns hq).1

/-! ### A payment completed in the engine only -/

/-- A protected runtime with one engine and hash functions whose names are UUIDs. -/
def books : Service := { shop with platform := { shop.platform with hashes := Consequence.nilHashes } }

/-- One mapped payment. -/
def paymentMapped : World :=
  { World.empty with
    store := .ofRows (Function.update (fun _ => none) (.entityMapping "tn_acme" "Payment" shopPayment)
      (some ⟨⟨"NABH", "C_Payment", 7001, "erp_aaaa"⟩, none, none⟩)) }

/-- A request under a permit to complete the payment. -/
def completing : Request :=
  { shopRequest with permit := some ⟨shopScope, "complete_payment", shopPayment⟩ }

def completion : Completion := .completePayment shopPayment

/-- The runs of the two parts, the read of the payment answered as the choice says. -/
def completed (read : Choice) : Option ((Except Exc Natives × World × List Reply) ×
    (Except Exc Unit × World × List Reply)) :=
  (hear books.platform "a" (completion.record books completing)
    [{}, {}, { random := "22222222-2222-4222-8222-222222222222" }, {}, {}] paymentMapped).bind
    fun first =>
      (hear books.platform "a" (completion.follow books completing { payment := 7001 })
        [{}, read, {}] first.2.1).map fun second => (first, second)

/-- What a reply says, of an object whether it is empty. -/
def shape : Reply → Except Exc Bool
  | .ok members => .ok members.isEmpty
  | .error z => .error z

theorem of_shape {replies : List Reply} {reply : Reply} (h : replies.map shape = [shape reply])
    (hr : reply = .ok [] ∨ ∃ z, reply = .error z) : replies = [reply] := by
  obtain ⟨first, rest, rfl, hshape, hrest⟩ := List.map_eq_cons_iff.1 h
  obtain rfl := List.map_eq_nil_iff.1 hrest
  have hfirst : first = reply := by
    rcases hr with rfl | ⟨z, rfl⟩
    · cases first with
      | ok members => rw [List.isEmpty_iff.1 (Except.ok.inj hshape)]
      | error z => cases hshape
    · cases first with
      | ok members => cases hshape
      | error z' => rw [Except.error.inj hshape]
  rw [hfirst]

/-- What a run of the two parts is. -/
theorem completed_runs {read : Choice} {x : Except Exc Unit} {reply : Reply}
    (h : (completed read).map (fun p => (p.1.1, p.1.2.2.length, p.2.1, p.2.2.2.map shape)) =
      some (.ok { payment := 7001 }, 0, x, [shape reply]))
    (hr : reply = .ok [] ∨ ∃ z, reply = .error z) :
    ∃ u t, Heard books.platform "a" (completion.record books completing) (paymentMapped, [reply])
        (.ok { payment := 7001 }) (u, [reply]) ∧
      Heard books.platform "a" (completion.follow books completing { payment := 7001 })
        (u, [reply]) x (t, []) := by
  obtain ⟨⟨⟨y, u, before⟩, ⟨z, t, taken⟩⟩, hp, hend⟩ := Option.map_eq_some_iff.1 h
  obtain ⟨first, hfirst, hrest⟩ := Option.bind_eq_some_iff.1 hp
  obtain ⟨second, hsecond, hpair⟩ := Option.map_eq_some_iff.1 hrest
  obtain ⟨rfl, rfl⟩ := Prod.mk.inj hpair
  simp only [Prod.mk.injEq] at hend
  obtain ⟨rfl, hbefore, rfl, htaken⟩ := hend
  obtain rfl := List.length_eq_zero_iff.1 hbefore
  obtain rfl := of_shape htaken hr
  exact ⟨u, t, heard_of_hear [reply] hfirst, heard_of_hear [] hsecond⟩

/-- A payment whose record has no currency: nothing is announced, and its completion is
recorded. -/
theorem completion_recorded : ∃ u t,
    Heard books.platform "a" (completion.follow books completing { payment := 7001 })
      (u, [.ok []]) (.ok ()) (t, []) ∧
    completion.Recorded completing { payment := 7001 } paymentMapped t := by
  have hrun : (completed {}).map (fun p => (p.1.1, p.1.2.2.length, p.2.1, p.2.2.2.map shape)) =
      some (.ok { payment := 7001 }, 0, .ok (), [shape (.ok [])]) := by decide +kernel
  obtain ⟨u, t, hrecord, hrest⟩ := completed_runs hrun (.inl rfl)
  have hquiet : completion.Quiet books completing "a" { payment := 7001 } u [.ok []] := by
    intro _
    refine ⟨paymentTame_iff.2 caught_factError, fun facts st hfacts => ?_⟩
    have hnone : paymentOf books.runtime [.ok []] = .error factError := rfl
    rw [hnone] at hfacts
    cases hfacts
  exact ⟨u, t, hrest, (recorded_iff books completing "a" completion paymentMapped u t [.ok []]
    [.ok []] [] { payment := 7001 } (.ok ()) Consequence.nilHashes_uuid (Store.clean_ofRows _ _)
    hrecord hrest).2.2 hquiet⟩

/-- **The process of a payment ran and left no trace**: the read of the document that
followed it failed. -/
theorem completion_lost : ∃ u t,
    Heard books.platform "a" (completion.record books completing) (paymentMapped, [.error .client])
      (.ok { payment := 7001 }) (u, [.error .client]) ∧
    Heard books.platform "a" (transaction (completion.program books completing))
      (paymentMapped, [.error .client]) (.error .client) (t, []) ∧
    ¬ completion.Recorded completing { payment := 7001 } paymentMapped t := by
  have hrun : (completed { failure := some .client }).map
      (fun p => (p.1.1, p.1.2.2.length, p.2.1, p.2.2.2.map shape)) =
      some (.ok { payment := 7001 }, 0, .error .client, [shape (.error .client)]) := by
    decide +kernel
  obtain ⟨u, t, hrecord, hrest⟩ := completed_runs hrun (.inr ⟨_, rfl⟩)
  refine ⟨u, t, hrecord, Completion.request_heard hrecord hrest, ?_⟩
  rcases follow_ends hrest with ⟨v, -, hx, -⟩ | ⟨z, v, -, ht⟩
  · cases hx
  · exact Completion.not_recorded (ht.trans (record_heard hrecord).committed)

end OrderToCash
end BaobabErp
