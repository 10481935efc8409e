/-
# The outcome of an invoice or a payment, as it is announced

`_announce_invoice` and `_announce_payment` do one thing to two kinds of document: they
advance the document's outcome and, where a revision was handed out, put its event into
the outbox.  A document of either kind is a `Subject` (`Accounted.document`), and what
they do keeps it in step (`announceChange_returns`).
-/

import BaobabErp.OrderToCash.Announcing
import BaobabErp.OrderToCash.ServiceRuns
import BaobabErp.Platform.Announced

namespace BaobabErp
namespace OrderToCash

open Python Concurrency
open Concurrency.Protocol (Keeps Returns closed_keeps)

/-- The documents whose accounting is announced. -/
inductive Accounted
  | invoice
  | payment
deriving DecidableEq

namespace Accounted

def type : Accounted → DocumentType
  | invoice => .invoice
  | payment => .payment

def eventType : Accounted → String
  | invoice => Accounting.invoiceEvent
  | payment => Accounting.paymentEvent

/-- What the subject of an event starts with. -/
def label : Accounted → String
  | invoice => "invoice:"
  | payment => "payment:"

/-- What the id of an event is derived from, beside the document. -/
def kind : Accounted → String
  | invoice => "invoice"
  | payment => "payment"

/-- The id of the event about a revision. -/
def eventId (H : Hashes) (tenant documentId : String) (a : Accounted) (revision : Nat) : String :=
  Accounting.eventId H a.kind tenant documentId revision

/-- What an event says of the facts of a document, and of their time. -/
def Shows (row : OutcomeRow) (e : CloudEvent) : Detail → Prop
  | .invoice number amount currency => e.member "invoice_number" = .str number ∧
      e.member "total" = Accounting.Money.contract ⟨amount, currency⟩ ∧
      e.member "issued_at" = .str (stamp row.firstSeenAt)
  | .payment amount currency invoiceId =>
      e.member "amount" = Accounting.Money.contract ⟨amount, currency⟩ ∧
      e.member "invoice_id" = (invoiceId.map Json.str).getD .null ∧
      e.member "accounted_at" = .str (stamp row.updatedAt)
  | _ => False

/-- An event that says what a row holds. -/
structure Describes (row : OutcomeRow) (e : CloudEvent) : Prop where
  status : e.member "status" = .str row.status
  revision : e.member "revision" = .int row.revision
  detail : Shows row e row.detail

/-- The revisions up to `n`, the newest first. -/
def handedOut : Nat → List Nat
  | 0 => []
  | n + 1 => (n + 1) :: handedOut n

/-- The revisions of a row were handed out one after the other. -/
structure Numbered (row : OutcomeRow) : Prop where
  positive : 1 ≤ row.revision
  all : row.handedOut = handedOut row.revision

/-- A later version of a row is a later revision, of a status that does not go back. -/
def Follows (a b : OutcomeRow) : Prop :=
  b = a ∨ (a.revision < b.revision ∧ Outcome.rank a.status ≤ Outcome.rank b.status ∧
    b.firstSeenAt = a.firstSeenAt)

theorem Follows.trans {a b c : OutcomeRow} (h : Follows a b) (h' : Follows b c) : Follows a c := by
  rcases h' with rfl | ⟨hrev', hrank', hseen'⟩
  · exact h
  · rcases h with rfl | ⟨hrev, hrank, hseen⟩
    · exact .inr ⟨hrev', hrank', hseen'⟩
    · exact .inr ⟨hrev.trans hrev', hrank.trans hrank', hseen'.trans hseen⟩

/-- **A document and its events.** -/
def document (H : Hashes) (tenant documentId : String) (a : Accounted) : Subject where
  key := .outcome tenant a.type documentId
  topic := ⟨a.eventType, tenant, a.label ++ documentId⟩
  eventId := a.eventId H tenant documentId
  revision := OutcomeRow.revision
  Describes := Describes
  Sound := Numbered
  Follows := Follows
  ours := .inl ⟨tenant, a.type, documentId, rfl⟩
  refl _ := .inl rfl
  trans _ _ _ h h' := Follows.trans h h'

end Accounted

/-! ### What is built -/

section Built

variable {H : Hashes} {e : CloudEvent}

/-- **An event about a revision of a document.** -/
structure IsAnnouncement (H : Hashes) (a : Accounted) (tenantId documentId : String) (row : OutcomeRow)
    (e : CloudEvent) : Prop where
  type : e.type = a.eventType
  tenant : e.tenantid = some tenantId
  subject : e.subject = a.label ++ documentId
  id : e.id = a.eventId H tenantId documentId row.revision
  describes : Accounted.Describes row e

theorem newEvent_parts {id type subject correlationId tenant : String} {data : Json} {time : Instant}
    {key : Option String}
    (h : CloudEvent.newEvent id type subject correlationId data (some tenant) time key = .ok e) :
    e.id = id ∧ e.type = type ∧ e.subject = subject ∧ e.tenantid = some tenant ∧ e.data = data := by
  unfold CloudEvent.newEvent at h
  split at h
  · cases h
  · obtain rfl := CloudEvent.validate_eq h
    exact ⟨rfl, rfl, rfl, rfl, rfl⟩

theorem member_eq {members : List (String × Json)} (h : e.data = .obj members) (name : String) :
    e.member name = Json.get members name := by
  unfold CloudEvent.member
  rw [h]
  rfl

theorem invoiceChangedEvent_announces {tenant entity invoiceId orderId status : String}
    {facts : Accounting.InvoiceFacts} {issuedAt now : Instant} {revision : Nat}
    {correlationId : Option String} {row : OutcomeRow}
    (h : Accounting.invoiceChangedEvent H tenant entity invoiceId orderId facts status issuedAt revision
      now correlationId = .ok e)
    (hstatus : row.status = status) (hrevision : row.revision = revision)
    (hseen : row.firstSeenAt = issuedAt)
    (hdetail : row.detail = .invoice facts.number facts.total.amount facts.total.currency) :
    IsAnnouncement H .invoice tenant invoiceId row e := by
  obtain ⟨hid, htype, hsubject, htenant, hdata⟩ := newEvent_parts h
  refine ⟨htype, htenant, hsubject, hrevision ▸ hid, ⟨?_, ?_, ?_⟩⟩
  · rw [member_eq hdata, hstatus]
    rfl
  · rw [member_eq hdata, hrevision]
    rfl
  · rw [hdetail]
    unfold Accounted.Shows
    rw [member_eq hdata, member_eq hdata, member_eq hdata, hseen]
    exact ⟨rfl, rfl, rfl⟩

theorem paymentAccountingEvent_announces {tenant entity paymentId publicId status : String}
    {invoiceId : Option String} {facts : Accounting.PaymentFacts} {now : Instant} {revision : Nat}
    {correlationId : Option String} {row : OutcomeRow}
    (h : Accounting.paymentAccountingEvent H tenant entity paymentId publicId invoiceId facts status
      revision now correlationId = .ok e)
    (hstatus : row.status = status) (hrevision : row.revision = revision) (hseen : row.updatedAt = now)
    (hdetail : row.detail = .payment facts.amount.amount facts.amount.currency invoiceId) :
    IsAnnouncement H .payment tenant paymentId row e := by
  obtain ⟨hid, htype, hsubject, htenant, hdata⟩ := newEvent_parts h
  refine ⟨htype, htenant, hsubject, hrevision ▸ hid, ⟨?_, ?_, ?_⟩⟩
  · rw [member_eq hdata, hstatus]
    rfl
  · rw [member_eq hdata, hrevision]
    rfl
  · rw [hdetail]
    unfold Accounted.Shows
    rw [hseen]
    have hmember := member_eq hdata
    cases invoiceId with
    | none => exact ⟨hmember "amount", hmember "invoice_id", hmember "accounted_at"⟩
    | some id => exact ⟨hmember "amount", hmember "invoice_id", hmember "accounted_at"⟩

end Built

/-! ### Advancing and announcing -/

section

variable {L : Type} {D : Deployment} {main : L → Program Unit} {H : Hashes} {tenant documentId : String}
  {a : Accounted} {w : Worker} {status : String} {detail : Detail} {now : Instant}

/-- The row `advance` has written, where it handed a revision out. -/
structure Handed (status : String) (detail : Detail) (now : Instant) (step : Outcome.Advanced)
    (row : OutcomeRow) : Prop where
  status : row.status = status
  detail : row.detail = detail
  revision : row.revision = step.revision
  firstSeen : row.firstSeenAt = step.firstSeenAt
  updated : row.updatedAt = now

/-- What a session knows after `advance`. -/
def advanced (H : Hashes) (tenant documentId : String) (a : Accounted) (status : String) (detail : Detail)
    (now : Instant) (step : Outcome.Advanced) :
    (announcing D main (a.document H tenant documentId)).Assertion w :=
  if step.changed then .ex fun row : {row // Handed status detail now step row} => owes row.1 else inStep

theorem numbered_next {row : OutcomeRow} (h : Accounted.Numbered row) :
    Accounted.Numbered (Outcome.nextRow status detail now row) := by
  constructor
  · exact Nat.le_add_left ..
  · show (row.revision + 1) :: row.handedOut = Accounted.handedOut (row.revision + 1)
    rw [h.all]
    rfl

theorem follows_next {row : OutcomeRow} (h : Outcome.moves row status detail = true) :
    Accounted.Follows row (Outcome.nextRow status detail now row) := by
  unfold Outcome.moves at h
  rw [Bool.and_eq_true, decide_eq_true_eq] at h
  exact .inr ⟨Nat.lt_succ_self _, h.1, rfl⟩

/-- The row is locked; it is advanced where something moved. -/
theorem advanceLocked_advanced {row : OutcomeRow} :
    (announcing D main (a.document H tenant documentId)).Triple w (holding row)
      (Outcome.advanceLocked tenant a.type documentId status detail now row)
      (.ends (advanced H tenant documentId a status detail now) (.const True)) := by
  have hsound : ∀ s : World, (announcing D main (a.document H tenant documentId)).Inv s →
      (holding row : (announcing D main (a.document H tenant documentId)).Assertion w).holds s →
        Accounted.Numbered row := by
    rintro s hs ⟨-, -, cell, hcell, rfl⟩
    exact Store.Kept.view_sound hs hcell
  have hlocked : Accounted.Numbered row → (announcing D main (a.document H tenant documentId)).Triple w
      (holding row) (Outcome.advanceLocked tenant a.type documentId status detail now row)
      (.ends (advanced H tenant documentId a status detail now) (.const True)) := by
    intro hrow
    unfold Outcome.advanceLocked
    split_ifs with hm
    · refine Protocol.Triple.bind (update_owes (S := a.document H tenant documentId)
        (numbered_next hrow) (follows_next hm) rfl) (fun _ => .pure fun s _ h => ?_) fun _ _ _ h => h
      exact ⟨⟨Outcome.nextRow status detail now row, rfl, rfl, rfl, rfl, rfl⟩, h⟩
    · exact .pure fun s _ h => h.2.1
  exact (Protocol.Triple.given hlocked).pre fun s hs h => ⟨hsound s hs h, h⟩

/-- **`advance` leaves its document in step, or owes an event.** -/
theorem advance_advanced :
    (announcing D main (a.document H tenant documentId)).Triple w inStep
      (Outcome.advance tenant a.type documentId status detail now)
      (.ends (advanced H tenant documentId a status detail now) (.const True)) := by
  unfold Outcome.advance
  refine Protocol.Triple.bind (lock_looked (S := a.document H tenant documentId)) (fun found => ?_)
    fun _ _ _ h => h
  cases found with
  | some row => exact advanceLocked_advanced
  | none =>
    have hnumbered : Accounted.Numbered (Outcome.firstRow status detail now) := ⟨le_rfl, rfl⟩
    refine Protocol.Triple.bind (insertNew_owes hnumbered rfl) (fun isNew => ?_) fun _ _ _ h => h
    cases isNew with
    | true => exact .pure fun s _ h => ⟨⟨_, rfl, rfl, rfl, rfl, rfl⟩, h⟩
    | false =>
      refine Protocol.Triple.bind (lock_looked (S := a.document H tenant documentId)) (fun found => ?_)
        fun _ _ _ h => h
      cases found with
      | some row => exact advanceLocked_advanced
      | none => exact .throw fun _ _ _ => trivial

/-! ### Announcing a change -/

theorem Accounted.eventType_injective {b : Accounted} (h : b.eventType = a.eventType) : b = a := by
  cases a <;> cases b <;> first | rfl | exact absurd h (by decide)

theorem Accounted.type_injective {b : Accounted} (h : b.type = a.type) : b = a := by
  cases a <;> cases b <;> first | rfl | cases h

/-- Who the event is about. -/
theorem IsAnnouncement.covers_iff {b : Accounted} {tenantId id : String} {row : OutcomeRow} {e : CloudEvent}
    (h : IsAnnouncement H b tenantId id row e) :
    (a.document H tenant documentId).topic.covers e = true ↔
      b = a ∧ tenantId = tenant ∧ id = documentId := by
  rw [Topic.covers_iff, h.type, h.tenant, h.subject]
  constructor
  · rintro ⟨⟨htype, htenant⟩, hsubject⟩
    obtain rfl := Accounted.eventType_injective htype
    exact ⟨rfl, Option.some.inj htenant, String.append_right_inj _ |>.1 hsubject⟩
  · rintro ⟨rfl, rfl, rfl⟩
    exact ⟨⟨rfl, rfl⟩, rfl⟩

/-- The revision of an announcement is that of its row. -/
theorem Accounted.Describes.revision_eq {row : OutcomeRow} {e : CloudEvent} (h : Describes row e) :
    e.revision = row.revision := by
  unfold CloudEvent.revision
  rw [h.revision]
  exact Int.toNat_natCast _

/-- An observed change writes announcements of what it handed out. -/
def Announcements (H : Hashes) (b : Accounted) (tenantId id status : String) (detail : Detail)
    (event : Outcome.Advanced → Instant → Except String CloudEvent) : Prop :=
  ∀ step now row e, event step now = .ok e → Handed status detail now step row →
    IsAnnouncement H b tenantId id row e

variable {b : Accounted} {tenantId id : String}
  {event : Outcome.Advanced → Instant → Except String CloudEvent}

/-- **A change of the document itself.** -/
theorem announceChange_own (h : Announcements H a tenant documentId status detail event) :
    Returns (inStep : (announcing D main (a.document H tenant documentId)).Assertion w) _
      (announceChange tenant a.type documentId status detail event) := by
  refine Returns.bind (plain_keeps fun _ h => by cases h).returns fun now => Protocol.Triple.bind advance_advanced
    (fun step => ?_) fun _ _ _ h => h
  show (announcing D main (a.document H tenant documentId)).Triple w
    (advanced H tenant documentId a status detail now step) _ _
  unfold advanced
  split_ifs
  · refine .ex fun row => ?_
    unfold recordEvent
    split
    · rename_i e he
      have hann := h step now row.1 e he row.2
      exact recordEvent_announces (hann.covers_iff.2 ⟨rfl, rfl, rfl⟩) hann.id
        hann.describes.revision_eq hann.describes
    · exact .throw fun _ _ _ => trivial
  · exact .pure fun _ _ h => h

/-- A change of another document, whose events say nothing of the subject. -/
theorem announceChange_apart {S : Subject} (h : Announcements H b tenantId id status detail event)
    (hkey : Key.outcome tenantId b.type id ≠ S.key)
    (hcovers : ∀ row e, IsAnnouncement H b tenantId id row e → S.topic.covers e = false) :
    Keeps (inStep : (announcing D main S).Assertion w) _
      (announceChange tenantId b.type id status detail event) := by
  have hΦ : Prog.Closed (Keeps (inStep : (announcing D main S).Assertion w)) := closed_keeps
  have hcall : ∀ e : Eff, e.written = some (.outcome tenantId b.type id) →
      Keeps (inStep : (announcing D main S).Assertion w) _ (.perform e) := by
    intro e he
    refine plain_keeps fun k hk => ?_
    obtain rfl := Option.some.inj (he.symm.trans hk)
    exact ⟨hkey, fun _ h => by cases h⟩
  refine hΦ.bind (plain_keeps fun _ h => by cases h) fun now => hΦ.bind (Outcome.advance_closed hΦ
    (hcall (.selectForUpdate _) rfl) (fun _ => hcall (.insertNew _ _) rfl)
    fun _ => hcall (.update _ _) rfl) fun step => ?_
  split_ifs
  · unfold recordEvent
    split
    · rename_i e he
      have hann := h step now ⟨step.revision, status, detail, step.firstSeenAt, now, []⟩ e he
        ⟨rfl, rfl, rfl, rfl, rfl⟩
      exact recordEvent_keeps (hcovers _ e hann)
    · exact hΦ.throw _
  · exact hΦ.pure _

/-- **An announced change keeps every document in step.** -/
theorem announceChange_returns (h : Announcements H b tenantId id status detail event) :
    Returns (inStep : (announcing D main (a.document H tenant documentId)).Assertion w) _
      (announceChange tenantId b.type id status detail event) := by
  by_cases hsame : b = a ∧ tenantId = tenant ∧ id = documentId
  · obtain ⟨rfl, rfl, rfl⟩ := hsame
    exact announceChange_own h
  · refine (announceChange_apart h (fun hkey => ?_) fun row e he => ?_).returns
    · obtain ⟨htenant, htype, hid⟩ := Key.outcome.inj hkey
      exact hsame ⟨Accounted.type_injective htype, htenant, hid⟩
    · exact Bool.eq_false_iff.2 fun hc => hsame (he.covers_iff.1 hc)

end

end OrderToCash
end BaobabErp
