/-
# Outcomes are announced one by one

The outcome of an invoice or a payment, under the commands of any number of requests:
the outbox holds exactly one event for each revision the document was given, and the
status of the document never goes back (`outcomes_announced`).
-/

import BaobabErp.OrderToCash.Commands
import BaobabErp.OrderToCash.RepeatedCreate

namespace BaobabErp
namespace OrderToCash

open Python Concurrency
open Concurrency.Protocol (Returns)

section

variable {L : Type} {D : Service} {main : L → Program Unit} {H : Hashes} {tenant documentId : String}
  {a : Accounted} {w : Worker} {r : Request}

/-! ### What the commands do to a document -/

/-- A statement about an order. -/
theorem order_call_steady {e : Eff} {t order : String} (he : e.written = some (.consequence t order)) :
    Steady D main (a.document H tenant documentId) w _ (.perform e) := by
  refine plain_keeps fun k hk => ?_
  obtain rfl := Option.some.inj (he.symm.trans hk)
  have hkey : Key.consequence t order ≠ .outcome tenant a.type documentId := by
    intro h
    cases h
  exact ⟨hkey, fun _ h => by cases h⟩

/-- The events of orders are about no invoice and no payment. -/
theorem consequence_not_covered {G : Hashes} {record : Consequence.OrderConsequence}
    {correlationId : Option String} {e : CloudEvent}
    (h : Consequence.consequenceChangedEvent G record correlationId = .ok e) :
    (a.document H tenant documentId).topic.covers e = false := by
  obtain ⟨-, htype, -⟩ := newEvent_parts h
  have hne : Consequence.eventType ≠ a.eventType := by
    cases a <;> decide
  exact Bool.eq_false_iff.2 fun hc => hne (htype.symm.trans (Topic.covers_iff.1 hc).1.1)

theorem announce_steady {record : Option Consequence.OrderConsequence} :
    Steady D main (a.document H tenant documentId) w _ (announce D r record) := by
  unfold announce
  split
  · unfold Consequence.announceRecord
    split
    · rename_i e he
      exact recordEvent_keeps (consequence_not_covered he)
    · exact steady.throw _
  · exact steady.pure _

theorem recordFact_steady {order : String} {fact : Consequence.Fact} {invoiceId : Option String} :
    Steady D main (a.document H tenant documentId) w _ (recordFact D r order fact invoiceId) := by
  have hstore : ∀ now, Steady D main (a.document H tenant documentId) w _
      (Consequence.recordFact r.scope.tenantId order fact now invoiceId) := by
    intro now
    refine steady.bind (order_call_steady (e := .selectForUpdate _) rfl) fun row => ?_
    split
    · exact steady.pure _
    · split_ifs
      · exact steady.bind (order_call_steady (e := .update _ _) rfl) fun _ =>
          steady.bind get_steady fun _ => steady.pure _
      · exact steady.bind get_steady fun _ => steady.pure _
  refine steady.bind (call_steady rfl) fun now => steady.bind (hstore now) fun found => ?_
  split
  · split_ifs
    · exact announce_steady
    · exact steady.pure _
  · exact steady.pure _

/-- **The commands carry every document.** -/
theorem document_carries :
    Carries D main (a.document D.platform.hashes tenant documentId) where
  opens _ _ _ _ _ _ := (steady.bind (steady.bind (order_call_steady (e := .insert _ _) rfl) fun _ =>
    get_steady) fun _ => announce_steady).returns
  facts _ _ _ _ _ := recordFact_steady.returns
  changes _ _ _ _ _ _ _ h := announceChange_returns h

end

/-! ### Every run -/

/-- **The history of a document**: the revisions it was given are `1, …, n`, each is
announced once, at an id of its own, nothing else is, and the newest event describes it. -/
structure History (H : Hashes) (tenant documentId : String) (a : Accounted) (s : World) : Prop where
  told : Told (a.document H tenant documentId)
    ((recorded (a.document H tenant documentId) s).elim 0 OutcomeRow.revision) s
  numbered : ∀ row : OutcomeRow, recorded (a.document H tenant documentId) s = some row →
    Accounted.Numbered row
  newest : ∀ row : OutcomeRow, recorded (a.document H tenant documentId) s = some row →
    ∃ e, About s (a.document H tenant documentId).topic (a.eventId H tenant documentId row.revision) e ∧
      Accounted.Describes row e

/-- **Outcomes are announced one by one.** In every state that any interleaving of any
number of requests reaches, each committing, failing or breaking off anywhere: the
revisions a document was given are `1, …, n`, the outbox holds exactly one event for
each of them, at ids that differ, and the newest describes the document; and from there
on its status never goes back. -/
theorem outcomes_announced (D : Service) (tenant documentId : String) (a : Accounted)
    {p q : (ordering D).Pool} (hp : Reached p) (hq : Machine.Reaches (anyOrder D) p q) :
    History D.platform.hashes tenant documentId a q.state ∧
      ∀ row : OutcomeRow, recorded (a.document D.platform.hashes tenant documentId) p.state = some row →
        ∃ row' : OutcomeRow, recorded (a.document D.platform.hashes tenant documentId) q.state = some row' ∧
          Accounted.Follows row row' := by
  have hreached : Reached q := Machine.Reaches.trans hp hq
  have hcarries : Carries D (serve D) (a.document D.platform.hashes tenant documentId) :=
    document_carries
  refine ⟨⟨hreached.told hcarries, fun row hrow => ?_, fun row hrow => ?_⟩, fun row hrow => ?_⟩
  · exact (hreached.newest hcarries hrow).1
  · exact (hreached.newest hcarries hrow).2
  · exact hp.follows hcarries hq hrow

/-! ### A payment that is posted -/

/-- The UUIDs of two revisions. -/
def counterHashes : Hashes :=
  { Consequence.nilHashes with
    uuid5 := fun _ name =>
      if name.toList.getLast? = some '2' then "00000000-0000-5000-8000-000000000002"
      else "00000000-0000-5000-8000-000000000001" }

/-- A shop that can read the currency of a payment. -/
def counter : Service :=
  { shop with
    platform := { shop.platform with hashes := counterHashes }
    runtime := { shop.runtime with isUpper := fun s => s.toList.all Char.isUpper } }

/-- A request from its launch to its end. -/
def requestRun (w : Worker) (r : Request) (c : Command) (answers : List Choice) :
    List (ordering counter).Action :=
  .launch w (r, c) :: answers.map (fun x => .call w x) ++ [.stop w]

/-- The payment is created, and completed by another request. -/
def paymentRun : List (ordering counter).Action :=
  requestRun "a" shopRequest (.createPayment shopPayment 4001 "10.00" "EUR")
      [{ id := 7001 }, { random := "erp_aaaa" }, {}] ++
    requestRun "b" { shopRequest with permit := some ⟨shopScope, "complete_payment", shopPayment⟩ }
      (.completePayment shopPayment)
      [{}, {}, { random := "22222222-2222-4222-8222-222222222222" }, {}, {}, {},
        { members := [("PayAmt", .str "10.00"), ("C_Currency_ID", .obj [("id", .int 102)]),
          ("DocStatus", .str "CO")] },
        { members := [("ISO_Code", .str "EUR")] }, {}, {}, {}, {}, {}]

/-- The payment has one revision, and it is announced. -/
theorem outcomes_announced_posted : ∃ (p : (ordering counter).Pool) (row : OutcomeRow),
    recorded (Accounted.payment.document counterHashes "tn_acme" shopPayment) p.state = some row ∧
      row.status = "posted" ∧ row.revision = 1 ∧
      History counterHashes "tn_acme" shopPayment .payment p.state := by
  have hrun : (Machine.run paymentRun (Machine.idle World.empty)).map
      (fun p => (recorded (Accounted.payment.document counterHashes "tn_acme" shopPayment)
        p.state).map fun row : OutcomeRow => (row.status, row.revision)) = some (some ("posted", 1)) := by
    decide +kernel
  obtain ⟨p, hp, hend⟩ := Option.map_eq_some_iff.1 hrun
  obtain ⟨row, hrow, hpair⟩ := Option.map_eq_some_iff.1 hend
  obtain ⟨hstatus, hrevision⟩ := Prod.mk.inj hpair
  have hreached : Reached p := Machine.reaches_of_run (fun _ _ _ => trivial) hp
  exact ⟨p, row, hrow, hstatus, hrevision,
    (outcomes_announced counter "tn_acme" shopPayment .payment hreached .refl).1⟩

end OrderToCash
end BaobabErp
