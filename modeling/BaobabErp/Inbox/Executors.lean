/-
# Walking through the executors

A property of programs that is closed under running one after another holds of
an executor when it holds of the calls the executor makes.  Most of what an
executor calls only reads (`Eff.reads`); what a proof has to look at is left as
a hypothesis of these lemmas: the call that creates an engine record, the
transaction that records the outcome, the region under the session lock.
-/

import BaobabErp.Inbox.Worker

namespace BaobabErp

open Concurrency

/-- Calls that read or end a transaction: they write no row and no engine record,
and take no lock. -/
def Eff.reads : Eff → Bool
  | .select (.inbox _) => false
  | .select _ => true
  | .commit => true
  | .rollback => true
  | e => e.quiet

/-- Reads that can show what another attempt made: a master-data mapping, or an
engine order or partner. -/
def Eff.looks : Eff → Bool
  | .select (.masterData _ _ _ _) => true
  | .query _ _ _ => true
  | .getRecord _ table _ => table == "C_Order" || table == "C_BPartner"
  | _ => false

/-- The statements of the recording transactions, but for the settlement. -/
def Eff.records : Eff → Bool
  | .insert (.consequence _ _) _ => true
  | .select (.consequence _ _) => true
  | .insert (.execution _ _) _ => true
  | .insert (.outbox _) _ => true
  | .upsert (.masterData _ _ _ _) _ _ => true
  | .selectForUpdate (.outcome _ _ _) => true
  | .insertNew (.outcome _ _ _) _ => true
  | .update (.outcome _ _ _) _ => true
  | _ => false

/-- The statements among them that tie a row to an engine record or a public id. -/
def Eff.ties : Eff → Bool
  | .insert (.execution _ _) _ => true
  | .upsert (.masterData _ _ _ _) _ _ => true
  | .selectForUpdate (.outcome _ _ _) => true
  | .insertNew (.outcome _ _ _) _ => true
  | .update (.outcome _ _ _) _ => true
  | _ => false

/-- The statement that ties an order to its engine record. -/
def Eff.links : Eff → Bool
  | .insert (.execution _ _) _ => true
  | _ => false

/-- `k` is not the key of an inbox row. -/
def Business (k : Key) : Prop := ∀ id, k ≠ .inbox id

theorem Eff.records_of_ties {e : Eff} (h : e.ties = true) : e.records = true := by
  unfold Eff.ties at h
  split at h <;> first | rfl | cases h

theorem Eff.links_of_ties {e : Eff} (h : e.ties = false) : e.links = false := by
  unfold Eff.links
  split <;> first | rfl | cases h

theorem Eff.key_of_records {e : Eff} (h : e.records = true) :
    ∃ k, e.key? = some k ∧ Business k := by
  cases e with
  | insert k _ => exact ⟨k, rfl, by rintro id rfl; cases h⟩
  | select k => exact ⟨k, rfl, by rintro id rfl; cases h⟩
  | upsert k _ _ => exact ⟨k, rfl, by rintro id rfl; cases h⟩
  | selectForUpdate k => exact ⟨k, rfl, by rintro id rfl; cases h⟩
  | insertNew k _ => exact ⟨k, rfl, by rintro id rfl; cases h⟩
  | update k _ => exact ⟨k, rfl, by rintro id rfl; cases h⟩
  | _ => cases h

/-- `k` is no input: neither an inbox row nor a mapping of a tenant. -/
def Written (k : Key) : Prop :=
  (∀ id, k ≠ .inbox id) ∧ ∀ tenant le, k ≠ .tenantMapping tenant le

/-- **What the recording transactions write**: no inbox row and no mapping of a
tenant, and an order's rows only as new ones. -/
theorem Eff.written_of_records {e : Eff} (h : e.records = true) {k : Key}
    (hk : e.written = some k) :
    Written k ∧
      ((∃ tenant order, k = .execution tenant order ∨ k = .consequence tenant order) →
        ∃ row, e = .insert k row) := by
  cases e with
  | insert l row =>
    obtain rfl := Option.some.inj hk
    refine ⟨⟨?_, ?_⟩, fun _ => ⟨row, rfl⟩⟩
    · rintro id rfl
      cases h
    · rintro tenant le rfl
      cases h
  | select l => cases hk
  | upsert l row set =>
    obtain rfl := Option.some.inj hk
    refine ⟨⟨?_, ?_⟩, ?_⟩
    · rintro id rfl
      cases h
    · rintro tenant le rfl
      cases h
    · rintro ⟨tenant, order, rfl | rfl⟩ <;> cases h
  | selectForUpdate l =>
    obtain rfl := Option.some.inj hk
    refine ⟨⟨?_, ?_⟩, ?_⟩
    · rintro id rfl
      cases h
    · rintro tenant le rfl
      cases h
    · rintro ⟨tenant, order, rfl | rfl⟩ <;> cases h
  | insertNew l row =>
    obtain rfl := Option.some.inj hk
    refine ⟨⟨?_, ?_⟩, ?_⟩
    · rintro id rfl
      cases h
    · rintro tenant le rfl
      cases h
    · rintro ⟨tenant, order, rfl | rfl⟩ <;> cases h
  | update l set =>
    obtain rfl := Option.some.inj hk
    refine ⟨⟨?_, ?_⟩, ?_⟩
    · rintro id rfl
      cases h
    · rintro tenant le rfl
      cases h
    · rintro ⟨tenant, order, rfl | rfl⟩ <;> cases h
  | _ => cases h

variable {Φ : (α : Type) → Program α → Prop} {D : Deployment} {σ : Session} {claim : Claim}

section

variable (hΦ : Prog.Closed Φ) (hread : ∀ e : Eff, e.reads = true → e.looks = false → Φ _ (.perform e))
include hΦ

namespace Inbox

open ExecutionPolicy

theorem parsed_closed {α : Type} (r : Except String α) : Φ _ (parsed r) := by
  cases r with
  | ok a => exact hΦ.pure a
  | error reason => exact hΦ.throw _

theorem engineErrors_closed {α : Type} {body : Program α} (h : Φ _ body) :
    Φ _ (engineErrors body) :=
  hΦ.tryCatch h fun _ => hΦ.throw _

theorem outcomeOf_closed {execute : Program Outcome} (h : Φ _ execute) : Φ _ (outcomeOf execute) :=
  hΦ.tryCatch h fun x => by
    cases x <;> first | exact hΦ.pure _ | exact hΦ.throw _

/-- `settle`, from the attempt and the two ways it is settled afterwards. -/
theorem settle_closed {execute : Program Outcome} {codes : List String} (h : Φ _ execute)
    (houtcome : ∀ o, Φ _ (settleOutcome claim o))
    (hexception : ∀ x, Φ _ (settleException claim x)) : Φ _ (settle claim execute codes) := by
  refine hΦ.tryCatch (hΦ.bind (outcomeOf_closed hΦ h) fun outcome => ?_) hexception
  split
  · exact hΦ.pure _
  · exact houtcome outcome

include hread

omit hread in
theorem native_closed {engineInstance legalEntity kind canonicalId : String}
    (hselect : Φ _ (Call.select (.masterData engineInstance legalEntity kind canonicalId))) :
    Φ _ (native engineInstance legalEntity kind canonicalId) :=
  hΦ.bind hselect fun _ => hΦ.pure _

theorem nextAttempt_closed (delay : Option Int) : Φ _ (nextAttempt delay) := by
  cases delay with
  | none => exact hΦ.pure _
  | some delay => exact hΦ.bind (hread .now rfl rfl) fun _ => hΦ.pure _

section

variable (hsettle : ∀ st, Φ _ (Call.settle claim st))
include hsettle

omit hread in
theorem settleRow_closed (st : Settlement) : Φ _ (settleRow claim st) := by
  refine hΦ.bind (hsettle st) fun rowcount => ?_
  split
  · exact hΦ.pure _
  · exact hΦ.throw _

omit hread in
theorem release_closed (status : InboxStatus) (code error : String)
    (next : Option Python.Instant) (refund : Bool) :
    Φ _ (release claim status code error next refund) := by
  unfold release
  split
  · exact settleRow_closed hΦ hsettle _
  · exact hΦ.throw _

theorem settleOutcome_closed (outcome : Outcome) : Φ _ (settleOutcome claim outcome) := by
  refine hΦ.bind (hread .now rfl rfl) fun now => hΦ.bind (hread .rollback rfl rfl) fun _ => ?_
  split
  · exact hΦ.bind (settleRow_closed hΦ hsettle _) fun _ =>
      hΦ.bind (hread .commit rfl rfl) fun _ => hΦ.pure _
  · exact hΦ.bind (nextAttempt_closed hΦ hread _) fun _ =>
      hΦ.bind (release_closed hΦ hsettle ..) fun _ =>
        hΦ.bind (hread .commit rfl rfl) fun _ => hΦ.pure _

theorem settleException_closed (x : Exc) : Φ _ (settleException claim x) := by
  unfold settleException
  split
  · exact hΦ.bind (hread .rollback rfl rfl) fun _ => hΦ.pure _
  · refine hΦ.bind (hread .rollback rfl rfl) fun _ => hΦ.bind (hread .now rfl rfl) fun now => ?_
    refine hΦ.bind (hΦ.tryCatch ?_ fun _ => hread .rollback rfl rfl) fun _ => hΦ.pure _
    exact hΦ.bind (nextAttempt_closed hΦ hread _) fun _ =>
      hΦ.bind (release_closed hΦ hsettle ..) fun _ => hread .commit rfl rfl

end

theorem unlockIf_closed {key : String} (hunlock : Φ _ (Call.unlock key)) (held : Bool) :
    Φ _ (unlockIf held key) := by
  unfold unlockIf
  split
  · exact hΦ.bind (hread .rollback rfl rfl) fun _ => hΦ.bind hunlock fun _ => hread .commit rfl rfl
  · exact hΦ.pure _

theorem withLock_closed {α : Type} {key : String} {body : Bool → Program α}
    (hlock : Φ _ (Call.tryLock key)) (hunlock : Φ _ (Call.unlock key))
    (h : ∀ held, Φ _ (body held)) : Φ _ (withLock key body) :=
  hΦ.bind hlock fun held => hΦ.bind (hread .commit rfl rfl) fun _ =>
    hΦ.ensure (h held) (unlockIf_closed hΦ hread hunlock held)

end Inbox

include hread

theorem InboxWorker.authority_closed (governed : Bool) :
    Φ _ (InboxWorker.authority governed claim) := by
  unfold InboxWorker.authority
  split
  · exact hΦ.tryCatch (hread (.authorityFor _) rfl rfl) fun _ => hΦ.pure _
  · exact hΦ.pure _

namespace OrderExecution

open Inbox ExecutionPolicy

variable {authority : Option InboxNativeAuthority} {scope : TenantScope} {order : PlacedOrder}
  {tenantId engineInstance : String} {placement : TenantMappingRow}

theorem unitCode_closed (product : Int) : Φ _ (unitCode σ product) := by
  refine hΦ.bind (hread (.getRecord _ _ _) rfl rfl) fun record => ?_
  split
  · exact hΦ.throw _
  · exact hΦ.bind (hread (.getRecord _ _ _) rfl rfl) fun _ => hΦ.pure _

theorem wrongUnits_closed (codes : List (Int × String))
    (lines : List (PlacedOrder.PlacedLine × Int)) : Φ _ (wrongUnits σ codes lines) := by
  induction lines generalizing codes with
  | nil => exact hΦ.pure _
  | cons line rest ih =>
    rw [wrongUnits]
    split
    · exact hΦ.bind (hΦ.pure _) fun code => hΦ.bind (ih _) fun wrong => hΦ.pure _
    · exact hΦ.bind (unitCode_closed hΦ hread _) fun code =>
        hΦ.bind (ih _) fun wrong => hΦ.pure _

theorem verifyUnits_closed (products : List Int) : Φ _ (verifyUnits σ order products) := by
  refine hΦ.bind (wrongUnits_closed hΦ hread _ _) fun wrong => ?_
  split
  · exact hΦ.pure _
  · exact hΦ.throw _

omit hread in
theorem resolveProducts_closed {legalEntity : String}
    (hselect : ∀ id, Φ _ (Call.select (.masterData engineInstance legalEntity productKind id)))
    (lines : List PlacedOrder.PlacedLine) :
    Φ _ (resolveProducts engineInstance legalEntity lines) := by
  induction lines with
  | nil => exact hΦ.pure _
  | cons line rest ih =>
    refine hΦ.bind (native_closed hΦ (hselect _)) fun product => hΦ.bind ih fun found => ?_
    split
    split <;> exact hΦ.pure _

omit hread in
theorem resolveLines_closed
    (hselect : ∀ id, Φ _ (Call.select (.masterData engineInstance order.legalEntityId productKind id))) :
    Φ _ (resolveLines engineInstance order) := by
  refine hΦ.bind (resolveProducts_closed hΦ hselect _) fun found => ?_
  split
  split
  · exact hΦ.pure _
  · exact hΦ.throw _

theorem lookupOrCreate_closed {customer : Int} {products : List Int}
    (hquery : Φ _ (Call.query σ .cOrder order.commerceOrderId))
    (hcreate : ∀ fields, Φ _ (Call.createRecord σ (.order fields))) :
    Φ _ (lookupOrCreate σ order customer products) := by
  refine hΦ.bind hquery fun found => ?_
  split
  · exact hΦ.bind (verifyUnits_closed hΦ hread _) fun _ =>
      hΦ.bind (hcreate _) fun _ => hΦ.pure _
  · exact hΦ.pure _
  · exact hΦ.throw _

omit hread in
/-- `_find_or_create` under any permit, and the governed way to it. -/
theorem nativeOrder_closed {customer : Int} {products : List Int}
    (hassess : ∀ operation, Φ _ (Call.assess operation))
    (h : Φ _ (lookupOrCreate σ order customer products)) :
    Φ _ (nativeOrder D authority scope σ order customer products) := by
  have hfind : ∀ permit, Φ _ (findOrCreate D permit scope σ order customer products) := by
    intro permit
    unfold findOrCreate
    split
    · exact engineErrors_closed hΦ h
    · exact hΦ.throw _
  unfold nativeOrder
  split
  · split
    · exact hΦ.throw _
    · refine hΦ.tryCatch ?_ fun x => by
        cases x <;> exact hΦ.throw _
      unfold performGovernedNativeAction
      split
      · exact hΦ.bind (hassess _) fun _ => hfind _
      · exact hΦ.throw _
  · exact hfind none

omit hread in
/-- The session of a placement is the one its credentials sign in. -/
theorem session_bind_closed {α : Type} {f : Session → Program α}
    (hf : ∀ σ, engineFor D placement.adClientId placement.adOrgId = .ok (some σ) → Φ _ (f σ)) :
    Φ _ (session D placement >>= f) := by
  unfold session
  cases he : engineFor D placement.adClientId placement.adOrgId with
  | error x => cases x <;> exact hΦ.throw _
  | ok found =>
    cases found with
    | none => exact hΦ.throw _
    | some σ => exact hf σ he

omit hread in
/-- The body of `_execute` below the consequence record. -/
theorem executeNew_closed
    (hselect : ∀ kind id,
      Φ _ (Call.select (.masterData engineInstance order.legalEntityId kind id)))
    (hnative : ∀ σ scope customer products,
      engineFor D placement.adClientId placement.adOrgId = .ok (some σ) →
        Φ _ (nativeOrder D authority scope σ order customer products))
    (hrecord : ∀ nativeId adopted, Φ _ (record D claim tenantId order nativeId adopted)) :
    Φ _ (executeNew D claim authority tenantId engineInstance placement order) := by
  refine hΦ.bind (resolveLines_closed hΦ (hselect _)) fun products => ?_
  refine session_bind_closed hΦ fun σ hσ => ?_
  refine hΦ.bind (native_closed hΦ (hselect _ _)) fun customer => ?_
  split
  · exact hΦ.throw _
  · refine hΦ.bind (hnative σ _ _ _ hσ) fun found => ?_
    split
    exact hΦ.bind (hrecord _ _) fun _ => hΦ.pure _

theorem executeLocked_closed
    (hnew : Φ _ (executeNew D claim authority tenantId engineInstance placement order))
    (held : Bool) :
    Φ _ (executeLocked D claim authority tenantId engineInstance placement order held) := by
  unfold executeLocked
  split
  · refine hΦ.bind (hΦ.bind (hread (.select _) rfl rfl) fun _ => hΦ.pure _) fun known => ?_
    refine hΦ.bind (hread .commit rfl rfl) fun _ => ?_
    split
    · split
      · exact hΦ.pure _
      · split
        · exact hΦ.pure _
        · exact hΦ.throw _
    · exact hnew
  · exact hΦ.pure _

/-- `_execute`, from what it does under the order's lock. -/
theorem execute_closed
    (hlocked : ∀ tenantId engineInstance placement order, claim.tenantId = some tenantId →
      Φ _ (withLock (lockKey tenantId order.commerceOrderId)
        (executeLocked D claim authority tenantId engineInstance placement order))) :
    Φ _ (execute D claim authority) := by
  refine hΦ.bind (parsed_closed hΦ _) fun order => ?_
  split
  · exact hΦ.throw _
  · rename_i tenantId htenant
    refine hΦ.bind (hread (.select (.tenantMapping _ _)) rfl rfl) fun placement => ?_
    split
    · exact hΦ.throw _
    · exact hlocked _ _ _ _ (Option.filter_eq_some_iff.1 htenant).1

end OrderExecution

namespace CustomerExecution

open Inbox ExecutionPolicy

variable {customer : CustomerProjection} {tenantId engineInstance : String}
  {placement : TenantMappingRow}

omit hread in
theorem findMarked_closed {text : String} (hquery : Φ _ (Call.query σ .cBPartner text)) :
    Φ _ (findMarked σ text) := by
  refine hΦ.bind hquery fun rows => ?_
  split
  · exact hΦ.pure _
  · exact hΦ.pure _
  · exact hΦ.throw _

theorem defaultGroup_closed : Φ _ (defaultGroup σ) := by
  refine hΦ.bind (hread (.defaultGroups _) rfl rfl) fun ids => ?_
  split
  · exact hΦ.pure _
  · exact hΦ.throw _

omit hread in
theorem updateMapped_closed {nativeId : Int}
    (hget : Φ _ (Call.getRecord σ "C_BPartner" nativeId))
    (hupdate : Φ _ (Call.updateRecord σ nativeId (.partner (updateFields customer)))) :
    Φ _ (updateMapped σ customer nativeId) := by
  refine hΦ.bind (hΦ.tryCatch hget fun x => ?_) fun _ =>
    hΦ.bind hupdate fun _ => hΦ.pure _
  -- a missing partner is a dead letter, any other failure passes
  split <;> exact hΦ.throw _

theorem adoptOrCreate_closed
    (hquery : Φ _ (Call.query σ .cBPartner (CustomerProjection.marker D.hashes tenantId
      customer.legalEntityId customer.customerId)))
    (hupdate : ∀ id fields, Φ _ (Call.updateRecord σ id (.partner fields)))
    (hcreate : ∀ fields, Φ _ (Call.createRecord σ (.partner fields))) :
    Φ _ (adoptOrCreate D.hashes σ tenantId customer) := by
  refine hΦ.bind (findMarked_closed hΦ hquery) fun found => ?_
  split
  · exact hΦ.bind (hupdate _ _) fun _ => hΦ.pure _
  · exact hΦ.bind (defaultGroup_closed hΦ hread) fun _ =>
      hΦ.bind (hcreate _) fun _ => hΦ.pure _

theorem nativePartner_closed {mapped : Option MasterDataRow}
    (hquery : ∀ text, Φ _ (Call.query σ .cBPartner text))
    (hget : ∀ id, Φ _ (Call.getRecord σ "C_BPartner" id))
    (hupdate : ∀ id fields, Φ _ (Call.updateRecord σ id (.partner fields)))
    (hcreate : ∀ fields, Φ _ (Call.createRecord σ (.partner fields))) :
    Φ _ (nativePartner D.hashes σ tenantId customer mapped) := by
  refine engineErrors_closed hΦ ?_
  split
  · exact updateMapped_closed hΦ (hget _) (hupdate _ _)
  · exact adoptOrCreate_closed hΦ hread (hquery _) hupdate hcreate

omit hread in
theorem executeNewer_closed {mapped : Option MasterDataRow}
    (hnative : ∀ σ, OrderExecution.engineFor D placement.adClientId placement.adOrgId = .ok (some σ) →
      Φ _ (nativePartner D.hashes σ tenantId customer mapped))
    (hrecord : ∀ nativeId code,
      Φ _ (record D claim tenantId engineInstance customer nativeId code)) :
    Φ _ (executeNewer D claim tenantId engineInstance placement customer mapped) := by
  refine OrderExecution.session_bind_closed hΦ fun σ hσ => ?_
  refine hΦ.bind (hnative σ hσ) fun found => ?_
  split
  exact hΦ.bind (hrecord _ _) fun _ => hΦ.pure _

theorem executeLocked_closed
    (hselect : Φ _ (Call.select (.masterData engineInstance customer.legalEntityId customerKind
      customer.customerId)))
    (hnewer : ∀ mapped,
      Φ _ (executeNewer D claim tenantId engineInstance placement customer mapped))
    (held : Bool) :
    Φ _ (executeLocked D claim tenantId engineInstance placement customer held) := by
  unfold executeLocked
  split
  · refine hΦ.bind hselect fun mapped => ?_
    refine hΦ.bind (hread .commit rfl rfl) fun _ => ?_
    split
    · exact hnewer none
    · split
      · exact hΦ.pure _
      · split
        · split
          · exact hΦ.pure _
          · exact hΦ.throw _
        · exact hnewer _
  · exact hΦ.pure _

/-- `_execute`, from what it does under the customer's lock. -/
theorem execute_closed
    (hlocked : ∀ tenantId engineInstance placement customer, claim.tenantId = some tenantId →
      Φ _ (withLock (lockKey tenantId customer)
        (executeLocked D claim tenantId engineInstance placement customer))) :
    Φ _ (execute D claim) := by
  refine hΦ.bind (parsed_closed hΦ _) fun customer => ?_
  split
  · exact hΦ.throw _
  · rename_i tenantId htenant
    refine hΦ.bind (hread (.select (.tenantMapping _ _)) rfl rfl) fun placement => ?_
    split
    · exact hΦ.throw _
    · exact hlocked _ _ _ _ (Option.filter_eq_some_iff.1 htenant).1

end CustomerExecution

end

/-! ### The statements of the recording transactions -/

section

variable (hΦ : Prog.Closed Φ)
  (hrecords : ∀ e : Eff, e.records = true → e.ties = false → Φ _ (.perform e))
include hΦ hrecords

theorem Outbox.recordEvent_closed {event : CloudEvent} : Φ _ (Outbox.recordEvent event) := by
  unfold Outbox.recordEvent
  split
  · exact hΦ.throw _
  · split
    · exact hΦ.throw _
    · split
      · exact hΦ.throw _
      · exact hΦ.bind (hrecords (.insert (.outbox _) _) rfl rfl) fun _ =>
          hΦ.pure _

namespace Consequence

theorem get_closed {tenantId order : String} : Φ _ (get tenantId order) :=
  hΦ.bind (hrecords (.select (.consequence _ _)) rfl rfl) fun _ => hΦ.pure _

theorem openOrder_closed {tenantId legalEntityId order erpOrderId : String} {version : Int}
    {now : Python.Instant} :
    Φ _ (openOrder tenantId legalEntityId order version erpOrderId now) :=
  hΦ.bind (hrecords (.insert (.consequence _ _) _) rfl rfl) fun _ =>
    get_closed hΦ hrecords

theorem announceRecord_closed {H : Hashes} {record : OrderConsequence} {correlation} :
    Φ _ (announceRecord H record correlation) := by
  unfold announceRecord
  split
  · exact Outbox.recordEvent_closed hΦ hrecords
  · exact hΦ.throw _

end Consequence

omit hrecords in
theorem Outcome.advance_closed {tenantId documentId status : String} {type : DocumentType}
    {detail : Detail} {now : Python.Instant}
    (hlock : Φ _ (Call.selectForUpdate (.outcome tenantId type documentId)))
    (hnew : ∀ row, Φ _ (Call.insertNew (.outcome tenantId type documentId) row))
    (hupdate : ∀ set, Φ _ (Call.update (.outcome tenantId type documentId) set)) :
    Φ _ (Outcome.advance tenantId type documentId status detail now) := by
  have hlocked : ∀ row, Φ _ (Outcome.advanceLocked tenantId type documentId status detail now row) := by
    intro row
    unfold Outcome.advanceLocked
    split
    · exact hΦ.bind (hupdate _) fun _ => hΦ.pure _
    · exact hΦ.pure _
  refine hΦ.bind hlock fun found => ?_
  split
  · exact hlocked _
  · refine hΦ.bind (hnew _) fun inserted => ?_
    split
    · exact hΦ.pure _
    · refine hΦ.bind hlock fun found => ?_
      split
      · exact hlocked _
      · exact hΦ.throw _

namespace CustomerExecution

omit hrecords in
theorem put_closed {engineInstance legalEntity kind canonicalId digest version : String}
    {nativeId : Int}
    (hput : ∀ row set,
      Φ _ (Call.upsert (.masterData engineInstance legalEntity kind canonicalId) row set)) :
    Φ _ (put engineInstance legalEntity kind canonicalId nativeId digest version) :=
  hΦ.bind (hput _ _) fun _ => hΦ.pure _

theorem announcePartner_closed {H : Hashes} {tenantId publicId : String}
    {customer : CustomerProjection} (hnow : Φ _ Call.now)
    (hlock : Φ _ (Call.selectForUpdate (.outcome tenantId .businessPartner publicId)))
    (hnew : ∀ row, Φ _ (Call.insertNew (.outcome tenantId .businessPartner publicId) row))
    (hupdate : ∀ set, Φ _ (Call.update (.outcome tenantId .businessPartner publicId) set)) :
    Φ _ (announcePartner H claim tenantId customer publicId) := by
  refine hΦ.bind hnow fun now =>
    hΦ.bind (Outcome.advance_closed hΦ hlock hnew hupdate) fun step => ?_
  split
  · split
    · exact Outbox.recordEvent_closed hΦ hrecords
    · exact hΦ.throw _
  · exact hΦ.pure _

end CustomerExecution

end

/-! ### Whole attempts -/

section

variable (hΦ : Prog.Closed Φ) (hread : ∀ e : Eff, e.reads = true → e.looks = false → Φ _ (.perform e))
  (hrecords : ∀ e : Eff, e.records = true → e.ties = false → Φ _ (.perform e))
  (hsettle : ∀ st, Φ _ (Call.settle claim st))
include hΦ hread hrecords hsettle

namespace OrderExecution

theorem record_closed {tenantId : String} {order : PlacedOrder} {nativeId : Int} {adopted : Bool}
    (hlink : ∀ row : Defaults → ExecutionRow, (∀ d, (row d).nativeId = nativeId ∧
      (row d).legalEntityId = order.legalEntityId) →
        Φ _ (Call.insert (.execution tenantId order.commerceOrderId) row)) :
    Φ _ (record D claim tenantId order nativeId adopted) := by
  refine hΦ.tryCatch ?_ fun _ => hΦ.bind (hread .rollback rfl rfl) fun _ => hΦ.throw _
  refine hΦ.bind (hread .now rfl rfl) fun now =>
    hΦ.bind (Consequence.openOrder_closed hΦ hrecords) fun opened => ?_
  split
  · exact hΦ.throw _
  · exact hΦ.bind (hlink _ fun _ => ⟨rfl, rfl⟩) fun _ =>
      hΦ.bind (Consequence.announceRecord_closed hΦ hrecords) fun _ =>
        hΦ.bind (Inbox.settleRow_closed hΦ hsettle _) fun _ => hread .commit rfl rfl

end OrderExecution

namespace CustomerExecution

theorem record_closed {tenantId engineInstance code : String} {customer : CustomerProjection}
    {nativeId : Int} (hties : ∀ e : Eff, e.ties = true → e.links = false → Φ _ (.perform e)) :
    Φ _ (record D claim tenantId engineInstance customer nativeId code) := by
  refine hΦ.tryCatch ?_ fun _ => hΦ.bind (hread .rollback rfl rfl) fun _ => hΦ.throw _
  refine hΦ.bind (put_closed hΦ fun _ _ => hties (.upsert (.masterData _ _ _ _) _ _) rfl rfl) fun _ => ?_
  exact hΦ.bind (announcePartner_closed hΦ hrecords (hread .now rfl rfl)
      (hties (.selectForUpdate (.outcome _ _ _)) rfl rfl)
      (fun _ => hties (.insertNew (.outcome _ _ _) _) rfl rfl)
      fun _ => hties (.update (.outcome _ _ _) _) rfl rfl) fun _ =>
      hΦ.bind (Inbox.settleRow_closed hΦ hsettle _) fun _ => hread .commit rfl rfl

/-- **A whole attempt at a customer row**, from its single calls. -/
theorem runClaim_closed (hties : ∀ e : Eff, e.ties = true → e.links = false → Φ _ (.perform e)) (hlock : ∀ key, Φ _ (Call.tryLock key))
    (hunlock : ∀ key, Φ _ (Call.unlock key))
    (hselect : ∀ ei le kind id, Φ _ (Call.select (.masterData ei le kind id)))
    (hquery : ∀ σ text, Φ _ (Call.query σ .cBPartner text))
    (hget : ∀ σ id, Φ _ (Call.getRecord σ "C_BPartner" id))
    (hupdate : ∀ σ id fields, Φ _ (Call.updateRecord σ id (.partner fields)))
    (hcreate : ∀ σ fields, Φ _ (Call.createRecord σ (.partner fields))) :
    Φ _ (runClaim D claim) := by
  refine Inbox.settle_closed hΦ (execute_closed hΦ hread fun tenantId ei placement customer _ => ?_)
    (Inbox.settleOutcome_closed hΦ hread hsettle) (Inbox.settleException_closed hΦ hread hsettle)
  refine Inbox.withLock_closed hΦ hread (hlock _) (hunlock _) fun held =>
    executeLocked_closed hΦ hread (hselect ..) (fun mapped => ?_) held
  exact executeNewer_closed hΦ
    (fun σ _ => nativePartner_closed hΦ hread (hquery σ) (hget σ) (hupdate σ) (hcreate σ))
    fun _ _ => record_closed hΦ hread hrecords hsettle hties

end CustomerExecution

end

/-! ### What an attempt learns from the engine -/

section

variable {L : Type} {mainOf : L → Program Unit} {w : Worker}
  {P : Protocol (platform D mainOf)} {A B : P.Assertion w}

theorem Inbox.engineErrors_triple {α : Type} {p : Program α} {Q : α → P.Assertion w}
    (h : P.Triple w A p (.ends Q B)) : P.Triple w A (Inbox.engineErrors p) (.ends Q B) :=
  h.tryCatch (fun _ _ _ h => h) fun _ => .throw fun _ _ h => h

namespace OrderExecution

variable {authority : Option InboxNativeAuthority} {scope : TenantScope} {order : PlacedOrder}
  {tenantId engineInstance : String} {placement : TenantMappingRow}

/-- The order an attempt finds or creates, under any permit. -/
theorem nativeOrder_triple {customer : Int} {products : List Int} {Q : Int × Bool → P.Assertion w}
    (hassess : ∀ operation, Protocol.Keeps A _ (Call.assess operation))
    (h : P.Triple w A (lookupOrCreate σ order customer products) (.ends Q A)) :
    P.Triple w A (nativeOrder D authority scope σ order customer products) (.ends Q A) := by
  have hfind : ∀ permit, P.Triple w A (findOrCreate D permit scope σ order customer products)
      (.ends Q A) := by
    intro permit
    unfold findOrCreate
    split
    · exact Inbox.engineErrors_triple h
    · exact .throw fun _ _ h => h
  unfold nativeOrder
  split
  · split
    · exact .throw fun _ _ h => h
    · refine Protocol.Triple.tryCatch (Q := .ends Q A) ?_ (fun _ _ _ h => h) fun x => by
        cases x <;> exact .throw fun _ _ h => h
      unfold performGovernedNativeAction
      split
      · exact (hassess _).bind (fun _ => hfind _) fun _ _ _ h => h
      · exact .throw fun _ _ h => h
  · exact hfind none

/-- The body of `_execute` below the consequence record, from what it learns of
the engine order and how it records it. -/
theorem executeNew_triple {Q : Int × Bool → P.Assertion w}
    (hselect : ∀ kind id, Protocol.Keeps A _
      (Call.select (.masterData engineInstance order.legalEntityId kind id)))
    (hnative : ∀ σ scope customer products,
      engineFor D placement.adClientId placement.adOrgId = .ok (some σ) →
        P.Triple w A (nativeOrder D authority scope σ order customer products) (.ends Q A))
    (hrecord : ∀ nativeId adopted, P.Triple w (Q (nativeId, adopted))
      (record D claim tenantId order nativeId adopted) fun _ => A) :
    Protocol.Keeps A _
      (executeNew D claim authority tenantId engineInstance placement order) := by
  have hΦ : Prog.Closed (Protocol.Keeps A) := Protocol.closed_keeps
  refine hΦ.bind (resolveLines_closed hΦ (hselect _)) fun products => ?_
  refine session_bind_closed hΦ fun σ hσ => ?_
  refine hΦ.bind (Inbox.native_closed hΦ (hselect _ _)) fun customer => ?_
  split
  · exact hΦ.throw _
  · refine (hnative σ _ _ _ hσ).bind (fun found => ?_) fun _ _ _ h => h
    split
    exact (hrecord _ _).bind (fun _ => .pure fun _ _ h => h) fun _ _ _ h => h

end OrderExecution

end

/-! ### The worker's loop -/

namespace InboxWorker

open ExecutionPolicy

variable {w : Worker} {P : Protocol (machine D)} {I : P.Assertion w}
  {W : String → Claim → P.Assertion w}

/-- One attempt, from the executor and what settles it afterwards. -/
theorem settle_triple {claim : Claim} {execute : Program ExecutionPolicy.Outcome}
    {codes : List String} {A B : P.Assertion w} (h : P.Triple w A execute fun _ => B)
    (houtcome : ∀ o, Protocol.Keeps B _ (Inbox.settleOutcome claim o))
    (hexception : ∀ x, Protocol.Keeps B _ (Inbox.settleException claim x)) :
    P.Triple w A (Inbox.settle claim execute codes) fun _ => B := by
  have houtcomeOf : P.Triple w A (Inbox.outcomeOf execute) fun _ => B :=
    h.tryCatch (fun _ _ _ h => h) fun x => by
      cases x <;> first | exact .pure fun _ _ h => h | exact .throw fun _ _ h => h
  refine Protocol.Triple.tryCatch (Q := fun _ => B) ?_ (fun _ _ _ h => h) hexception
  refine houtcomeOf.bind (fun outcome => ?_) fun _ _ _ h => h
  split
  · exact .pure fun _ _ h => h
  · exact houtcome outcome

/-- `run_once`, from one claim of a row and one attempt at it. -/
theorem claimLoop_triple {launch : Launch} {eventType : String}
    (hclaim : P.Triple w I (Call.claim eventType launch.leaseSeconds)
      (.ends (fun found => found.elim I (W eventType)) I))
    (hrun : ∀ claim, P.Triple w (W eventType claim) (runClaim D launch.governed eventType claim) fun _ => I)
    (n : Nat) : Protocol.Keeps I _ (claimLoop D launch eventType n) := by
  induction n with
  | zero => exact .pure fun _ _ h => h
  | succ n ih =>
    refine (hclaim.bind (R := fun _ => I) (fun found => ?_) fun _ _ _ h => h)
    cases found with
    | none => exact .pure fun _ _ h => h
    | some claim =>
      refine (hrun claim).bind (fun _ => ?_) fun _ _ _ h => h
      exact ih.bind (fun _ => .pure fun _ _ h => h) fun _ _ _ h => h

/-- **A worker's program, from one claim and one attempt of each executor.** -/
theorem main_triple {launch : Launch}
    (hclaim : ∀ eventType lease, P.Triple w I (Call.claim eventType lease)
      (.ends (fun found => found.elim I (W eventType)) I))
    (hauthority : ∀ claim,
      Protocol.Keeps (W orderPlaced claim) _ (authority launch.governed claim))
    (horder : ∀ claim authority,
      P.Triple w (W orderPlaced claim) (OrderExecution.runClaim D claim authority) fun _ => I)
    (hcustomer : ∀ claim, P.Triple w (W CustomerExecution.customerProjected claim)
      (CustomerExecution.runClaim D claim) fun _ => I)
    (hcommit : Protocol.Keeps I _ Call.commit) (hrollback : Protocol.Keeps I _ Call.rollback)
    (hidle : ∀ eventType claim s, P.Inv s → (W eventType claim).holds s → I.holds s) :
    Protocol.Keeps I _ (main D launch) := by
  have hloop : ∀ n, Protocol.Keeps I _ (claimLoop D launch orderPlaced n) := fun n => by
    refine claimLoop_triple (hclaim _ _) (fun claim => ?_) n
    unfold runClaim
    rw [if_pos rfl]
    exact (hauthority claim).bind (fun a => horder claim a) fun _ => hidle _ claim
  have hloop' : ∀ n, Protocol.Keeps I _
      (claimLoop D launch CustomerExecution.customerProjected n) := fun n => by
    refine claimLoop_triple (hclaim _ _) (fun claim => ?_) n
    unfold runClaim
    rw [if_neg (by decide)]
    exact hcustomer claim
  have honce : Protocol.Keeps I _ (runOnce D launch) := by
    refine (hloop' _).bind (fun _ => ?_) fun _ _ _ h => h
    exact (hloop _).bind (fun _ => .pure fun _ _ h => h) fun _ _ _ h => h
  refine honce.handle fun r => ?_
  cases r with
  | ok _ => exact hcommit
  | error x => exact hrollback.bind (fun _ => .throw fun _ _ h => h) fun _ _ _ h => h

end InboxWorker

end BaobabErp
