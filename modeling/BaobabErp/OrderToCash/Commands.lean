/-
# The commands of the service, at once

The commands of `service.py`, run by any number of requests over one database and
engine, each a transaction of its own that commits, fails or breaks off anywhere.
What a command does to a row that is announced comes down to three programs, which open
an order, record a fact of it and announce a change of a document (`Carries`): a
command that is made of them leaves the row in step (`transaction_steady`), and so
does every run (`Reached.told`, `Reached.follows`).
-/

import BaobabErp.OrderToCash.AccountedDocument

namespace BaobabErp
namespace OrderToCash

open Python Concurrency
open Concurrency.Protocol (Keeps Returns closed_keeps)
open OrderExecution (TenantScope)

/-- A command of the service. -/
inductive Command
  | createSalesOrder (commerceOrderId : String) (partner : Int) (currency : String)
      (lines : List OrderLine) (orderVersion : Option Int)
  | completeSalesOrder (commerceOrderId : String)
  | createShipment (shipmentId commerceOrderId : String)
  | completeShipment (shipmentId : String)
  | createCustomerInvoice (commerceOrderId : String)
  | postCustomerInvoice (invoiceId : String)
  | createPayment (paymentId : String) (partner : Int) (amount currency : String)
  | completePayment (paymentId : String)
  | allocatePayment (paymentId invoiceId amount : String)

def Command.run (D : Service) (r : Request) : Command → Program Unit
  | .createSalesOrder order partner currency lines version =>
    OrderToCash.createSalesOrder D r order partner currency lines version
  | .completeSalesOrder order => OrderToCash.completeSalesOrder D r order
  | .createShipment shipment order => OrderToCash.createShipment D r shipment order
  | .completeShipment shipment => OrderToCash.completeShipment D r shipment
  | .createCustomerInvoice order => OrderToCash.createCustomerInvoice D r order
  | .postCustomerInvoice invoice => OrderToCash.postCustomerInvoice D r invoice
  | .createPayment payment partner amount currency =>
    OrderToCash.createPayment D r payment partner amount currency
  | .completePayment payment => OrderToCash.completePayment D r payment
  | .allocatePayment payment invoice amount => OrderToCash.allocatePayment D r payment invoice amount

/-- What a session is launched with. -/
def serve (D : Service) (l : Request × Command) : Program Unit := transaction (l.2.run D l.1)

/-- **Any number of requests over one database and its engine.** -/
abbrev ordering (D : Service) : Machine := platform D.platform (serve D)

/-! ### The commands -/

section Walk

variable {L : Type} {D : Service} {main : L → Program Unit} {S : Subject} {w : Worker} {r : Request}

/-- A program that leaves the subject in step, however it ends. -/
abbrev Steady (D : Service) (main : L → Program Unit) (S : Subject) (w : Worker) :
    (α : Type) → Program α → Prop :=
  Keeps (inStep : (announcing D.platform main S).Assertion w)

/-- A program that does so where it returns. -/
abbrev Settles (D : Service) (main : L → Program Unit) (S : Subject) (w : Worker) :
    (α : Type) → Program α → Prop :=
  Returns (inStep : (announcing D.platform main S).Assertion w)

/-- A call that writes an outcome, an order or an event. -/
def reports (e : Eff) : Bool :=
  match e.written with
  | some (.outcome ..) => true
  | some (.consequence ..) => true
  | some (.outbox _) => true
  | _ => false

theorem steady : Prog.Closed (Steady D main S w) := closed_keeps

theorem call_steady {e : Eff} (he : reports e = false) :
    Steady D main S w _ (.perform e) := by
  refine plain_keeps fun k hk => ?_
  unfold reports at he
  rw [hk] at he
  constructor
  · intro hkey
    rcases S.ours with ⟨t, type, id, hours⟩ | ⟨t, order, hours⟩
    · rw [hkey, hours] at he
      cases he
    · rw [hkey, hours] at he
      cases he
  · rintro id rfl
    cases he

theorem deny_steady {action reference : String} :
    Steady D main S w _ (denyLegacyNativeAction D r action reference) := by
  unfold denyLegacyNativeAction
  split_ifs
  · exact steady.pure _
  · exact steady.throw _

theorem denyPost_steady {invoiceId : String} :
    Steady D main S w _ (denyLegacyInvoicePost D r invoiceId) := by
  unfold denyLegacyInvoicePost
  split_ifs
  · exact steady.pure _
  · exact steady.throw _

theorem writer_steady {marker : Option TenantScope} :
    Steady D main S w _ (writer D r marker) := by
  refine steady.bind (engine_closed steady) fun σ => ?_
  split_ifs
  · exact steady.pure _
  · exact steady.throw _

theorem mappingOf_steady {tenantId type canonicalId : String} :
    Steady D main S w _ (mappingOf tenantId type canonicalId) :=
  mappingOf_closed steady fun _ => call_steady rfl

theorem erpResourceId_steady {tenantId type canonicalId : String} :
    Steady D main S w _ (erpResourceId tenantId type canonicalId) :=
  steady.bind mappingOf_steady fun _ => steady.pure _

theorem resolveNative_steady {scope : TenantScope} {type canonicalId table : String} :
    Steady D main S w _ (resolveNative scope type canonicalId table) := by
  refine steady.bind mappingOf_steady fun row => ?_
  split
  · exact steady.throw _
  · split_ifs
    · exact steady.throw _
    · exact steady.pure _

theorem createMapping_steady {scope : TenantScope} {type canonicalId table : String} {n : Int} :
    Steady D main S w _ (createMapping scope type canonicalId table n) := by
  unfold createMapping
  split_ifs
  · exact steady.throw _
  · exact steady.bind (uuidParam_closed steady _) fun id =>
      steady.bind (call_steady rfl) fun _ => steady.pure _

theorem createAndMap_steady {type canonicalId : String} {fields : Fields} :
    Steady D main S w _ (createAndMap D r type canonicalId fields) :=
  steady.bind writer_steady fun _ => steady.bind (call_steady rfl) fun _ =>
    steady.bind createMapping_steady fun _ => steady.pure _

theorem process_steady {marker : Option TenantScope} {processId : Int}
    {parameters : List (String × Json)} :
    Steady D main S w _ (executeGovernedProcess D r marker processId parameters) := by
  refine steady.bind writer_steady fun σ => ?_
  split_ifs
  · exact steady.throw _
  · exact steady.bind (call_steady rfl) fun _ => steady.pure _

theorem recordEnvelope_steady {eventType : String} {payload : List (String × Json)} :
    Steady D main S w _ (recordEnvelope r eventType payload) :=
  steady.bind (call_steady rfl) fun _ => steady.bind (call_steady rfl) fun _ => record_keeps

theorem get_steady {tenantId order : String} :
    Steady D main S w _ (Consequence.get tenantId order) :=
  steady.bind (call_steady rfl) fun _ => steady.pure _

theorem linkDocument_steady {tenantId id order : String} {type : LinkedDocument} :
    Steady D main S w _ (Consequence.linkDocument tenantId type id order) := by
  refine steady.bind (steady.bind (call_steady rfl) fun _ => steady.pure _) fun known => ?_
  split_ifs
  · exact steady.bind (call_steady rfl) fun _ => steady.pure _
  · exact steady.pure _

theorem orderOfDocument_steady {tenantId id : String} {type : LinkedDocument} :
    Steady D main S w _ (Consequence.orderOfDocument tenantId type id) :=
  call_steady rfl

/-- **What the commands do to a subject**: they open an order, record a fact of one and
announce a change of a document. -/
structure Carries (D : Service) (main : L → Program Unit) (S : Subject) : Prop where
  opens : ∀ w r order version erpOrderId now, Settles D main S w _
    (Consequence.openOrder r.scope.tenantId r.scope.legalEntityId order version erpOrderId now >>=
      announce D r)
  facts : ∀ w r order fact invoiceId, Settles D main S w _ (recordFact D r order fact invoiceId)
  changes : ∀ w b tenantId id status detail event,
    Announcements D.platform.hashes b tenantId id status detail event →
      Settles D main S w _ (announceChange tenantId b.type id status detail event)

theorem announcePayment_settles (h : Carries D main S) {paymentId : String} {n : Int}
    {invoiceId : Option String} {requested : Bool} :
    Settles D main S w _ (announcePayment D r paymentId n invoiceId requested) := by
  refine Returns.bind erpResourceId_steady.returns fun publicId => ?_
  split
  · exact .pure _
  · refine Returns.bind (engine_closed steady).returns fun σ =>
      Returns.bind (observed_closed steady
        (readPayment_closed steady fun _ _ => call_steady rfl)).returns fun seen => ?_
    split
    · exact .pure _
    · refine h.changes w .payment _ _ _ _ _ fun step now row e he hrow => ?_
      exact paymentAccountingEvent_announces he hrow.status hrow.revision hrow.updated hrow.detail

theorem announceInvoice_settles (h : Carries D main S) {invoiceId : String} {n : Int} {allocated : Bool} :
    Settles D main S w _ (announceInvoice D r invoiceId n allocated) := by
  refine Returns.bind orderOfDocument_steady.returns fun order =>
    Returns.bind erpResourceId_steady.returns fun publicId => ?_
  split
  · refine Returns.bind (engine_closed steady).returns fun σ =>
      Returns.bind (observed_closed steady
        (readInvoice_closed steady fun _ _ => call_steady rfl)).returns fun seen => ?_
    split
    · exact .pure _
    · refine h.changes w .invoice _ _ _ _ _ fun step now row e he hrow => ?_
      exact invoiceChangedEvent_announces he hrow.status hrow.revision hrow.firstSeen hrow.detail
  · exact .pure _

/-! ### One command, one request -/

theorem createSalesOrder_settles (h : Carries D main S) {order currency : String} {partner : Int}
    {lines : List OrderLine} {version : Option Int} :
    Settles D main S w _ (createSalesOrder D r order partner currency lines version) := by
  refine Returns.bind deny_steady.returns fun _ => ?_
  split_ifs
  · exact .throw _
  · refine Returns.bind createAndMap_steady.returns fun _ => ?_
    split
    · exact .pure _
    · refine Returns.bind erpResourceId_steady.returns fun erpOrderId => ?_
      split
      · exact .throw _
      · exact Returns.bind (call_steady rfl).returns fun now => h.opens w r order _ _ now

theorem completeSalesOrder_settles (h : Carries D main S) {order : String} :
    Settles D main S w _ (completeSalesOrder D r order) :=
  Returns.bind deny_steady.returns fun _ => Returns.bind resolveNative_steady.returns fun _ =>
    Returns.bind process_steady.returns fun _ => Returns.bind recordEnvelope_steady.returns fun _ =>
      h.facts w r order _ _

theorem createShipment_steady {shipment order : String} :
    Steady D main S w _ (createShipment D r shipment order) :=
  steady.bind deny_steady fun _ => steady.bind resolveNative_steady fun _ =>
    steady.bind createAndMap_steady fun _ => steady.bind linkDocument_steady fun _ => steady.pure _

theorem completeShipment_settles (h : Carries D main S) {shipment : String} :
    Settles D main S w _ (completeShipment D r shipment) := by
  refine Returns.bind deny_steady.returns fun _ => Returns.bind resolveNative_steady.returns fun _ =>
    Returns.bind process_steady.returns fun _ => Returns.bind recordEnvelope_steady.returns fun _ =>
      Returns.bind orderOfDocument_steady.returns fun order => ?_
  split
  · exact .pure _
  · exact h.facts w r _ _ _

theorem createCustomerInvoice_steady {order : String} :
    Steady D main S w _ (createCustomerInvoice D r order) :=
  steady.bind deny_steady fun _ => steady.bind resolveNative_steady fun _ =>
    steady.bind (call_steady rfl) fun _ => steady.bind createAndMap_steady fun _ =>
      steady.bind linkDocument_steady fun _ => steady.pure _

theorem createPayment_steady {payment amount currency : String} {partner : Int} :
    Steady D main S w _ (createPayment D r payment partner amount currency) :=
  steady.bind deny_steady fun _ => steady.bind createAndMap_steady fun _ => steady.pure _

theorem postCustomerInvoice_settles (h : Carries D main S) {invoice : String} :
    Settles D main S w _ (postCustomerInvoice D r invoice) := by
  refine Returns.bind denyPost_steady.returns fun _ => Returns.bind resolveNative_steady.returns fun n =>
    Returns.bind process_steady.returns fun _ => Returns.bind recordEnvelope_steady.returns fun _ =>
      Returns.bind orderOfDocument_steady.returns fun order => ?_
  cases order with
  | none => exact announceInvoice_settles h
  | some order =>
    exact Returns.bind erpResourceId_steady.returns fun _ =>
      Returns.bind (h.facts w r order _ _) fun _ => announceInvoice_settles h

theorem completePayment_settles (h : Carries D main S) {payment : String} :
    Settles D main S w _ (completePayment D r payment) :=
  Returns.bind deny_steady.returns fun _ => Returns.bind resolveNative_steady.returns fun _ =>
    Returns.bind process_steady.returns fun _ => Returns.bind recordEnvelope_steady.returns fun _ =>
      announcePayment_settles h

theorem allocatePayment_settles (h : Carries D main S) {payment invoice amount : String} :
    Settles D main S w _
      (allocatePayment D r payment invoice amount) :=
  Returns.bind deny_steady.returns fun _ => Returns.bind resolveNative_steady.returns fun _ =>
    Returns.bind resolveNative_steady.returns fun _ => Returns.bind process_steady.returns fun _ =>
      Returns.bind recordEnvelope_steady.returns fun _ =>
        Returns.bind erpResourceId_steady.returns fun _ =>
          Returns.bind (announcePayment_settles h) fun _ => announceInvoice_settles h

/-- **Every command returns in step.** -/
theorem run_settles (h : Carries D main S) (c : Command) : Settles D main S w _ (c.run D r) := by
  cases c with
  | createSalesOrder => exact createSalesOrder_settles h
  | completeSalesOrder => exact completeSalesOrder_settles h
  | createShipment => exact createShipment_steady.returns
  | completeShipment => exact completeShipment_settles h
  | createCustomerInvoice => exact createCustomerInvoice_steady.returns
  | postCustomerInvoice => exact postCustomerInvoice_settles h
  | createPayment => exact createPayment_steady.returns
  | completePayment => exact completePayment_settles h
  | allocatePayment => exact allocatePayment_settles h

/-- A rollback leaves nothing undone. -/
theorem rollback_settles : (announcing D.platform main S).Triple w
    (.const True) Call.rollback fun _ => inStep := by
  refine call_triple (fun s hs _ c r t hex => ?_) fun c s t r hs _ _ _ hex => ?_
  · obtain rfl := exec_rollback (D := D.platform) hex
    exact Store.Kept.rollback hs w
  · obtain rfl := exec_rollback (D := D.platform) hex
    exact agrees_inStep_rollback hs (.refl _)

/-- **A request leaves the subject in step**, however it ends. -/
theorem transaction_steady (h : Carries D main S) (c : Command) :
    Steady D main S w _ (transaction (c.run D r)) :=
  Returns.recovered (Returns.bind (run_settles h c) fun _ => (call_steady rfl).returns) rollback_settles

end Walk

/-! ### Every run -/

section Runs

variable {D : Service} {S : Subject} {p q : (ordering D).Pool}

/-- Any schedule of the requests. -/
def anyOrder (D : Service) : (ordering D).Action → (ordering D).Pool → Prop := fun _ _ => True

/-- A state that the commands reach from empty tables. -/
def Reached (p : (ordering D).Pool) : Prop :=
  Machine.Reaches (anyOrder D) (Machine.idle World.empty) p

/-- The committed row of a subject. -/
def recorded (S : Subject) (s : World) : Option (Row S.key) := (s.store.committed S.key).map Cell.row

/-- The commands are correct for a subject they carry. -/
def orderingVerified (h : Carries D (serve D) S) :
    (announcing D.platform (serve D) S).Verified (anyOrder D) where
  idle _ := inStep
  envOk _ := trivial
  close {w s} hs := agrees_inStep_rollback (t := World.close w s) hs (.refl _)
  main _ l := (transaction_steady h l.2).post fun _ _ _ _ => trivial

theorem Reached.sound (hp : Reached p) (h : Carries D (serve D) S) : (orderingVerified h).Sound p := by
  have hempty : Store.Kept S.announcing World.empty.store :=
    .ofRows rfl fun _ => Announcing.notes_of_none rfl
  refine Protocol.Verified.Sound.reaches ?_ hp
  refine Protocol.Verified.sound_idle hempty fun w => ?_
  exact inStep_of_clean (w := w) hempty (Store.clean_ofRows _ _)

theorem Reached.kept (hp : Reached p) (h : Carries D (serve D) S) :
    Store.Kept S.announcing p.state.store :=
  (hp.sound h).1

/-- **The revisions of a subject are announced**, each once. -/
theorem Reached.told (hp : Reached p) (h : Carries D (serve D) S) :
    Told S ((recorded S p.state).elim 0 S.revision) p.state := by
  have hcount : S.announcing.count p.state.store.committed =
      (recorded S p.state).elim 0 S.revision := by
    unfold Announcing.count recorded
    rw [Option.elim_map]
    rfl
  exact hcount ▸ told_of_kept (hp.kept h)

/-- **The newest event describes the row**, which is sound. -/
theorem Reached.newest (hp : Reached p) (h : Carries D (serve D) S) {row : Row S.key}
    (hrow : recorded S p.state = some row) :
    S.Sound row ∧ ∃ e, About p.state S.topic (S.eventId (S.revision row)) e ∧ S.Describes row e := by
  obtain ⟨c, hc, rfl⟩ := Option.map_eq_some_iff.1 hrow
  obtain ⟨e, he, hdescribes⟩ := (hp.kept h).inStep.latest c hc
  exact ⟨(hp.kept h).sound c hc, e, about_iff.2 he, hdescribes⟩

/-- **A committed row only moves forwards.** -/
theorem Reached.follows (hp : Reached p) (h : Carries D (serve D) S)
    (hq : Machine.Reaches (anyOrder D) p q) {row : Row S.key} (hrow : recorded S p.state = some row) :
    ∃ row', recorded S q.state = some row' ∧ S.Follows row row' := by
  have htracked : S.announcing.Tracked S.key := .inl rfl
  obtain ⟨hinbox, hindex, htenant, hmaster⟩ := S.tracked_apart htracked
  have hrun := Protocol.Verified.Sound.relates (C := orderingVerified h)
    (R := fun s t : World => ∀ c, s.store.committed S.key = some c →
      ∃ d, t.store.committed S.key = some d ∧ S.announcing.Follows c d)
    (fun s c hc => ⟨c, hc, S.announcing.refl c⟩)
    (fun hst htu c hc => by
      obtain ⟨d, hd, hcd⟩ := hst c hc
      obtain ⟨e, he, hde⟩ := htu d hd
      exact ⟨e, he, S.announcing.trans c d e hcd hde⟩)
    (fun hs _ hex c hc =>
      Store.Kept.advances hs ((exec_ends (D := D.platform) hex).committed_at hinbox hindex) hc)
    (fun _ c hc => ⟨c, hc, S.announcing.refl c⟩)
    (fun _ _ he c hc => ⟨c, (env_other he hinbox htenant hmaster).2.trans hc, S.announcing.refl c⟩)
    (hp.sound h) hq
  obtain ⟨c, hc, rfl⟩ := Option.map_eq_some_iff.1 hrow
  obtain ⟨d, hd, hfollows⟩ := hrun c hc
  exact ⟨d.row, Option.map_eq_some_iff.2 ⟨d, hd, rfl⟩, hfollows⟩

end Runs

end OrderToCash
end BaobabErp
