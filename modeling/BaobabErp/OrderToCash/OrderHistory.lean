/-
# Consequences of an order are announced one by one

The record ERP keeps of an order, under the commands of any number of requests: its
statuses are those of the facts recorded so far, its revision counts them, a fact keeps
its first time, and the outbox holds exactly one event for each revision
(`orders_followed`).
-/

import BaobabErp.OrderToCash.OutcomeHistory

namespace BaobabErp

open Python Concurrency
open Concurrency.Protocol (Keeps Returns)

namespace Consequence

/-- How many facts there are. -/
def Facts.count (facts : Facts) : Nat :=
  facts.orderCompleted.toNat + facts.shipmentCompleted.toNat + facts.invoicePosted.toNat

/-- **A row says what its facts establish**, and its revision counts them. -/
structure Sound (row : ConsequenceRow) : Prop where
  status : row.status = (derive (factsOf row)).status
  accountingStatus : row.accountingStatus = (derive (factsOf row)).accountingStatus
  inventoryStatus : row.inventoryStatus = (derive (factsOf row)).inventoryStatus
  revision : row.revision = 1 + (factsOf row).count

/-- A later version of a row: each fact keeps its first time, and the order is the same. -/
structure Follows (a b : ConsequenceRow) : Prop where
  facts : ∀ fact at_, column a fact = some at_ → column b fact = some at_
  legalEntityId : b.legalEntityId = a.legalEntityId
  orderVersion : b.orderVersion = a.orderVersion
  erpOrderId : b.erpOrderId = a.erpOrderId

theorem Follows.refl (a : ConsequenceRow) : Follows a a := ⟨fun _ _ h => h, rfl, rfl, rfl⟩

theorem Follows.trans {a b c : ConsequenceRow} (h : Follows a b) (h' : Follows b c) : Follows a c :=
  ⟨fun fact at_ hat => h'.facts fact at_ (h.facts fact at_ hat),
    h'.legalEntityId.trans h.legalEntityId, h'.orderVersion.trans h.orderVersion,
    h'.erpOrderId.trans h.erpOrderId⟩

/-- **The status of an order never goes back.** -/
theorem Follows.rank_le {a b : ConsequenceRow} (h : Follows a b) (ha : Sound a) (hb : Sound b) :
    a.status.rank ≤ b.status.rank := by
  have hcolumn : ∀ fact, (column a fact).isSome → (column b fact).isSome := by
    intro fact hfact
    obtain ⟨at_, hat⟩ := Option.isSome_iff_exists.1 hfact
    rw [h.facts fact at_ hat]
    rfl
  rw [ha.status, hb.status]
  exact derive_mono ⟨hcolumn .orderCompleted, hcolumn .shipmentCompleted, hcolumn .invoicePosted⟩

/-- An order and the events about it. -/
def order (H : Hashes) (tenantId commerceOrderId : String) : Subject where
  key := .consequence tenantId commerceOrderId
  topic := ⟨eventType, tenantId, "order:" ++ commerceOrderId⟩
  eventId := eventId H tenantId commerceOrderId
  revision := ConsequenceRow.revision
  Describes row e := e.data = (recordOf tenantId commerceOrderId row).toContract
  Sound := Sound
  Follows := Follows
  ours := .inr ⟨tenantId, commerceOrderId, rfl⟩
  refl := Follows.refl
  trans _ _ _ h h' := h.trans h'

/-! ### The rows -/

section

variable {row : ConsequenceRow} {fact : Fact} {now : Instant} {invoiceId : Option String}

theorem sound_opened {legalEntityId erpOrderId : String} {orderVersion : Int} :
    Sound (openedRow legalEntityId orderVersion erpOrderId now) :=
  ⟨rfl, rfl, rfl, rfl⟩

theorem factsOf_factRow :
    factsOf (factRow row fact now invoiceId row) = factsOf (setColumn row now fact) := by
  cases fact <;> rfl

/-- A fact that is new counts. -/
theorem count_setColumn (h : column row fact = none) :
    (factsOf (setColumn row now fact)).count = (factsOf row).count + 1 := by
  cases fact with
  | orderCompleted =>
    have hnone : row.orderCompletedAt = none := h
    simp only [factsOf, setColumn, Facts.count, hnone, Option.isSome_some, Option.isSome_none,
      Bool.toNat_true, Bool.toNat_false]
    omega
  | shipmentCompleted =>
    have hnone : row.shipmentCompletedAt = none := h
    simp only [factsOf, setColumn, Facts.count, hnone, Option.isSome_some, Option.isSome_none,
      Bool.toNat_true, Bool.toNat_false]
    omega
  | invoicePosted =>
    have hnone : row.invoicePostedAt = none := h
    simp only [factsOf, setColumn, Facts.count, hnone, Option.isSome_some, Option.isSome_none,
      Bool.toNat_true, Bool.toNat_false]

theorem sound_factRow (hrow : Sound row) (h : column row fact = none) :
    Sound (factRow row fact now invoiceId row) := by
  constructor
  · rw [factsOf_factRow]
    rfl
  · rw [factsOf_factRow]
    rfl
  · rw [factsOf_factRow]
    rfl
  · rw [factsOf_factRow, count_setColumn h]
    show row.revision + 1 = _
    rw [hrow.revision]
    omega

theorem follows_factRow (h : column row fact = none) :
    Follows row (factRow row fact now invoiceId row) := by
  refine ⟨fun f at_ hat => ?_, ?_, ?_, ?_⟩
  · by_cases hf : f = fact
    · subst hf
      cases h.symm.trans hat
    · cases fact <;> cases f <;> first | exact hat | exact absurd rfl hf
  all_goals cases fact <;> rfl

end

end Consequence

namespace OrderToCash

open Consequence (OrderConsequence recordOf Fact)

section

variable {L : Type} {D : Service} {main : L → Program Unit} {H : Hashes} {tenant commerceOrderId : String}
  {w : Worker} {r : Request}

/-! ### The event of a record -/

/-- The events of a record are about its order. -/
theorem consequence_covers_iff {G : Hashes} {record : OrderConsequence} {correlationId : Option String}
    {e : CloudEvent} (h : Consequence.consequenceChangedEvent G record correlationId = .ok e) :
    (Consequence.order H tenant commerceOrderId).topic.covers e = true ↔
      record.tenantId = tenant ∧ record.commerceOrderId = commerceOrderId := by
  obtain ⟨-, htype, hsubject, htenant, -⟩ := newEvent_parts h
  rw [Topic.covers_iff, htype, hsubject, htenant]
  constructor
  · rintro ⟨⟨-, ht⟩, ho⟩
    exact ⟨Option.some.inj ht, (String.append_right_inj _).1 ho⟩
  · rintro ⟨rfl, rfl⟩
    exact ⟨⟨rfl, rfl⟩, rfl⟩

/-- **The revision of an order is announced.** -/
theorem announceRecord_owes {row : ConsequenceRow} {correlationId : Option String} :
    (announcing D.platform main (Consequence.order H tenant commerceOrderId)).Triple w (owes row)
      (Consequence.announceRecord H (recordOf tenant commerceOrderId row) correlationId)
      (.ends (fun _ => inStep) (.const True)) := by
  unfold Consequence.announceRecord
  split
  · rename_i e he
    obtain ⟨hid, -, -, -, hdata⟩ := newEvent_parts he
    have hmember : e.member "revision" = .int row.revision := by
      rw [member_eq hdata]
      rfl
    have hrevision : e.revision = row.revision := by
      unfold CloudEvent.revision
      rw [hmember]
      exact Int.toNat_natCast _
    exact recordEvent_announces ((consequence_covers_iff he).2 ⟨rfl, rfl⟩) hid hrevision hdata
  · exact .throw fun _ _ _ => trivial

/-- What a session knows of the record it has to announce. -/
def recordOwed (H : Hashes) (tenant commerceOrderId : String) (found : Option OrderConsequence) :
    (announcing D.platform main (Consequence.order H tenant commerceOrderId)).Assertion w :=
  .ex fun row : ConsequenceRow =>
    (Protocol.Assertion.const (found = some (recordOf tenant commerceOrderId row))).and (owes row)

theorem announce_owed {found : Option OrderConsequence} :
    (announcing D.platform main (Consequence.order D.platform.hashes tenant commerceOrderId)).Triple w
      (recordOwed D.platform.hashes tenant commerceOrderId found) (announce D r found)
      (.ends (fun _ => inStep) (.const True)) := by
  refine .ex fun row => .given fun hfound => ?_
  rw [hfound]
  exact announceRecord_owes

/-- The record is read back. -/
theorem get_owed {row : ConsequenceRow} :
    (announcing D.platform main (Consequence.order H tenant commerceOrderId)).Triple w (owes row)
      (Consequence.get tenant commerceOrderId)
      (.ends (recordOwed H tenant commerceOrderId) (.const True)) := by
  refine Protocol.Triple.bind (select_owes (S := Consequence.order H tenant commerceOrderId))
    (fun found => .pure fun s _ h => ?_) fun _ _ _ h => h
  obtain ⟨hfound, howes⟩ := h
  refine ⟨row, ?_, howes⟩
  have hfound' : found = some row := hfound
  show found.map (recordOf tenant commerceOrderId) = some (recordOf tenant commerceOrderId row)
  rw [hfound']
  rfl

/-! ### An order of its own -/

/-- **Opening the order.** -/
theorem openOrder_own {legalEntityId erpOrderId : String} {orderVersion : Int} {now : Instant} :
    Settles D main (Consequence.order D.platform.hashes tenant commerceOrderId) w _
      (Consequence.openOrder tenant legalEntityId commerceOrderId orderVersion erpOrderId now >>=
        announce D r) := by
  refine Protocol.Triple.bind (Q := .ends (recordOwed D.platform.hashes tenant commerceOrderId)
    (.const True)) ?_ (fun found => announce_owed) fun _ _ _ h => h
  exact Protocol.Triple.bind (insert_owes (S := Consequence.order D.platform.hashes tenant commerceOrderId)
    Consequence.sound_opened rfl) (fun _ => get_owed) fun _ _ _ h => h

/-- What a session knows after it recorded a fact. -/
def factRecorded (H : Hashes) (tenant commerceOrderId : String) :
    Option Consequence.Recorded →
      (announcing D.platform main (Consequence.order H tenant commerceOrderId)).Assertion w
  | none => inStep
  | some recorded => if recorded.changed then recordOwed H tenant commerceOrderId recorded.record
    else inStep

/-- The row is locked; the fact is recorded where it is new. -/
theorem storeFact_owed {fact : Fact} {now : Instant} {invoiceId : Option String} :
    (announcing D.platform main (Consequence.order H tenant commerceOrderId)).Triple w inStep
      (Consequence.recordFact tenant commerceOrderId fact now invoiceId)
      (.ends (factRecorded H tenant commerceOrderId) (.const True)) := by
  unfold Consequence.recordFact
  refine Protocol.Triple.bind (lock_looked (S := Consequence.order H tenant commerceOrderId))
    (fun found => ?_) fun _ _ _ h => h
  cases found with
  | none => exact .pure fun _ _ h => h
  | some row =>
    have hsound : ∀ s : World,
        (announcing D.platform main (Consequence.order H tenant commerceOrderId)).Inv s →
        (holding row : (announcing D.platform main
          (Consequence.order H tenant commerceOrderId)).Assertion w).holds s → Consequence.Sound row := by
      rintro s hs ⟨-, -, cell, hcell, rfl⟩
      exact Store.Kept.view_sound hs hcell
    refine Protocol.Triple.pre (Protocol.Triple.given fun hrow => ?_) fun s hs h => ⟨hsound s hs h, h⟩
    dsimp only
    split_ifs with hnew
    · have hnone : Consequence.column row fact = none := Option.isNone_iff_eq_none.1 hnew
      refine Protocol.Triple.bind (update_owes (S := Consequence.order H tenant commerceOrderId)
        (Consequence.sound_factRow hrow hnone) (Consequence.follows_factRow hnone) rfl) (fun _ => ?_)
        fun _ _ _ h => h
      exact Protocol.Triple.bind get_owed (fun _ => .pure fun _ _ h => h) fun _ _ _ h => h
    · have hread : Settles D main (Consequence.order H tenant commerceOrderId) w _
          (Consequence.get tenant commerceOrderId) := get_steady.returns
      refine Protocol.Triple.bind (hread.pre fun s _ h => ?_) (fun _ => .pure fun _ _ h => h)
        fun _ _ _ h => h
      exact h.2.1

/-- **Recording a fact of the order.** -/
theorem recordFact_own {fact : Fact} {invoiceId : Option String} (htenant : r.scope.tenantId = tenant) :
    Settles D main (Consequence.order D.platform.hashes tenant commerceOrderId) w _
      (recordFact D r commerceOrderId fact invoiceId) := by
  subst htenant
  refine Returns.bind (call_steady rfl).returns fun now =>
    Protocol.Triple.bind storeFact_owed (fun found => ?_) fun _ _ _ h => h
  cases found with
  | none => exact .pure fun _ _ h => h
  | some recorded =>
    show (announcing D.platform main (Consequence.order D.platform.hashes r.scope.tenantId
      commerceOrderId)).Triple w (if recorded.changed then recordOwed D.platform.hashes r.scope.tenantId
        commerceOrderId recorded.record else inStep) _ _
    dsimp only
    split_ifs
    · exact announce_owed
    · exact .pure fun _ _ h => h

/-! ### Another order -/

/-- A record that was read is that of its order. -/
def Names (tenantId order : String) (found : Option OrderConsequence) : Prop :=
  ∀ record, found = some record → record.tenantId = tenantId ∧ record.commerceOrderId = order

variable {t o : String}

theorem get_names : (announcing D.platform main (Consequence.order H tenant commerceOrderId)).Triple w
    inStep (Consequence.get t o)
      (.ends (fun found => (Protocol.Assertion.const (Names t o found)).and inStep) (.const True)) := by
  have hread : Settles D main (Consequence.order H tenant commerceOrderId) w _
      (Call.select (.consequence t o)) := (call_steady rfl).returns
  refine Protocol.Triple.bind hread (fun row => .pure fun s _ h => ⟨?_, h⟩) fun _ _ _ h => h
  intro record hrecord
  obtain ⟨row, -, rfl⟩ := Option.map_eq_some_iff.1 hrecord
  exact ⟨rfl, rfl⟩

theorem announce_apart {found : Option OrderConsequence} (hother : ¬ (t = tenant ∧ o = commerceOrderId))
    (hfound : Names t o found) :
    Settles D main (Consequence.order H tenant commerceOrderId) w _ (announce D r found) := by
  cases found with
  | none => exact .pure _
  | some record =>
    obtain ⟨rfl, rfl⟩ := hfound record rfl
    show Settles D main (Consequence.order H tenant commerceOrderId) w _
      (Consequence.announceRecord D.platform.hashes record r.correlationId)
    unfold Consequence.announceRecord
    split
    · rename_i e he
      exact (recordEvent_keeps (Bool.eq_false_iff.2 fun hc =>
        hother ((consequence_covers_iff he).1 hc))).returns
    · exact .throw _

theorem order_call_apart {e : Eff} (hother : ¬ (t = tenant ∧ o = commerceOrderId))
    (he : e.written = some (.consequence t o)) :
    Steady D main (Consequence.order H tenant commerceOrderId) w _ (.perform e) := by
  refine plain_keeps fun k hk => ?_
  obtain rfl := Option.some.inj (he.symm.trans hk)
  exact ⟨fun hkey => hother (Key.consequence.inj hkey), fun _ h => by cases h⟩

theorem openOrder_apart {legalEntityId erpOrderId : String} {orderVersion : Int} {now : Instant}
    (hother : ¬ (t = tenant ∧ o = commerceOrderId)) :
    Settles D main (Consequence.order H tenant commerceOrderId) w _
      (Consequence.openOrder t legalEntityId o orderVersion erpOrderId now >>= announce D r) := by
  refine Protocol.Triple.bind (Q := .ends (fun found =>
    (Protocol.Assertion.const (Names t o found)).and inStep) (.const True)) ?_
    (fun found => .given fun hfound => announce_apart hother hfound) fun _ _ _ h => h
  exact Protocol.Triple.bind (order_call_apart (e := .insert _ _) hother rfl).returns
    (fun _ => get_names) fun _ _ _ h => h

theorem storeFact_names {fact : Fact} {now : Instant} {invoiceId : Option String}
    (hother : ¬ (t = tenant ∧ o = commerceOrderId)) :
    (announcing D.platform main (Consequence.order H tenant commerceOrderId)).Triple w inStep
      (Consequence.recordFact t o fact now invoiceId)
      (.ends (fun found => (Protocol.Assertion.const (∀ recorded : Consequence.Recorded,
        found = some recorded → Names t o recorded.record)).and inStep) (.const True)) := by
  have hread : ∀ changed, (announcing D.platform main (Consequence.order H tenant commerceOrderId)).Triple w
      inStep (Consequence.get t o >>= fun record => pure (some (Consequence.Recorded.mk record changed)))
      (.ends (fun found => (Protocol.Assertion.const (∀ recorded : Consequence.Recorded,
        found = some recorded → Names t o recorded.record)).and inStep) (.const True)) := by
    intro changed
    refine Protocol.Triple.bind get_names (fun record => .pure fun s _ h => ⟨?_, h.2⟩) fun _ _ _ h => h
    intro recorded hrecorded
    obtain rfl := Option.some.inj hrecorded
    exact h.1
  refine Protocol.Triple.bind (order_call_apart (e := .selectForUpdate _) hother rfl).returns
    (fun found => ?_) fun _ _ _ h => h
  cases found with
  | none =>
    refine .pure fun s _ h => ⟨?_, h⟩
    intro recorded hrecorded
    cases hrecorded
  | some row =>
    dsimp only
    split_ifs
    · exact Protocol.Triple.bind (order_call_apart (e := .update _ _) hother rfl).returns
        (fun _ => hread true) fun _ _ _ h => h
    · exact hread false

theorem recordFact_apart {fact : Fact} {invoiceId : Option String}
    (hother : ¬ (r.scope.tenantId = tenant ∧ o = commerceOrderId)) :
    Settles D main (Consequence.order H tenant commerceOrderId) w _ (recordFact D r o fact invoiceId) := by
  refine Returns.bind (call_steady rfl).returns fun now =>
    Protocol.Triple.bind (storeFact_names hother) (fun found => .given fun hfound => ?_) fun _ _ _ h => h
  cases found with
  | none => exact .pure fun _ _ h => h
  | some recorded =>
    dsimp only
    split_ifs
    · exact announce_apart hother (hfound recorded rfl)
    · exact .pure fun _ _ h => h

/-- **The commands carry every order.** -/
theorem order_carries :
    Carries D main (Consequence.order D.platform.hashes tenant commerceOrderId) where
  opens w r o version erpOrderId now := by
    by_cases hsame : r.scope.tenantId = tenant ∧ o = commerceOrderId
    · obtain ⟨rfl, rfl⟩ := hsame
      exact openOrder_own
    · exact openOrder_apart hsame
  facts w r o fact invoiceId := by
    by_cases hsame : r.scope.tenantId = tenant ∧ o = commerceOrderId
    · obtain ⟨htenant, rfl⟩ := hsame
      exact recordFact_own htenant
    · exact recordFact_apart hsame
  changes w b tenantId id status detail event h := by
    have hkey : Key.outcome tenantId b.type id ≠ .consequence tenant commerceOrderId := by
      intro heq
      cases heq
    have hne : b.eventType ≠ Consequence.eventType := by
      cases b <;> decide
    refine (announceChange_apart h hkey fun row e he => ?_).returns
    exact Bool.eq_false_iff.2 fun hc => hne (he.type.symm.trans (Topic.covers_iff.1 hc).1.1)

end

/-! ### Every run -/

/-- **The history of an order**: its statuses are those of its facts, its revisions are
`1, …, n` for the facts so far, each is announced once, at an id of its own, nothing else
is, and the newest event is the record. -/
structure OrderHistory (H : Hashes) (tenant commerceOrderId : String) (s : World) : Prop where
  told : Told (Consequence.order H tenant commerceOrderId)
    ((recorded (Consequence.order H tenant commerceOrderId) s).elim 0 ConsequenceRow.revision) s
  sound : ∀ row : ConsequenceRow, recorded (Consequence.order H tenant commerceOrderId) s = some row →
    Consequence.Sound row
  newest : ∀ row : ConsequenceRow, recorded (Consequence.order H tenant commerceOrderId) s = some row →
    ∃ e, About s (Consequence.order H tenant commerceOrderId).topic
        (Consequence.eventId H tenant commerceOrderId row.revision) e ∧
      e.data = (recordOf tenant commerceOrderId row).toContract

/-- **Consequences are announced one by one.** In every state that any interleaving of any
number of requests reaches, each committing, failing or breaking off anywhere: the
statuses of an order are those its facts establish, its revision is one more than they
are, the outbox holds exactly one event for each revision, and the newest is the record;
from there on a fact keeps its first time and the status never goes back. -/
theorem orders_followed (D : Service) (tenant commerceOrderId : String) {p q : (ordering D).Pool}
    (hp : Reached p) (hq : Machine.Reaches (anyOrder D) p q) :
    OrderHistory D.platform.hashes tenant commerceOrderId q.state ∧
      ∀ row : ConsequenceRow,
        recorded (Consequence.order D.platform.hashes tenant commerceOrderId) p.state = some row →
        ∃ row' : ConsequenceRow,
          recorded (Consequence.order D.platform.hashes tenant commerceOrderId) q.state = some row' ∧
            Consequence.Follows row row' ∧ row.status.rank ≤ row'.status.rank := by
  have hreached : Reached q := Machine.Reaches.trans hp hq
  have hcarries : Carries D (serve D) (Consequence.order D.platform.hashes tenant commerceOrderId) :=
    order_carries
  refine ⟨⟨hreached.told hcarries, fun row hrow => ?_, fun row hrow => ?_⟩, fun row hrow => ?_⟩
  · exact (hreached.newest hcarries hrow).1
  · exact (hreached.newest hcarries hrow).2
  · obtain ⟨row', hrow', hfollows⟩ := hp.follows hcarries hq hrow
    have hsound : Consequence.Sound row := (hp.newest hcarries hrow).1
    have hsound' : Consequence.Sound row' := (hreached.newest hcarries hrow').1
    have hforward : Consequence.Follows row row' := hfollows
    exact ⟨row', hrow', hforward, hforward.rank_le hsound hsound'⟩

/-! ### An order that is completed -/

def shopOrder : String := "33333333-3333-4333-8333-333333333333"

/-- The order is opened, and completed by another request. -/
def orderRun : List (ordering counter).Action :=
  requestRun "a" { shopRequest with permit := some ⟨shopScope, "create_sales_order", shopOrder⟩ }
      (.createSalesOrder shopOrder 4001 "EUR" [⟨shopPayment, "1", "10.00"⟩] (some 1))
      [{ id := 7001 }, { random := "erp_bbbb" }, {}, {}, {}, {}, {}, {}] ++
    requestRun "b" { shopRequest with permit := some ⟨shopScope, "complete_sales_order", shopOrder⟩ }
      (.completeSalesOrder shopOrder)
      [{}, {}, { random := "22222222-2222-4222-8222-222222222222" }, {}, {}, {}, {}, {}, {}, {}, {}]

/-- The order has two revisions, and each is announced. -/
theorem orders_followed_completed : ∃ (p : (ordering counter).Pool) (row : ConsequenceRow),
    recorded (Consequence.order counterHashes "tn_acme" shopOrder) p.state = some row ∧
      row.status = .processing ∧ row.revision = 2 ∧
      OrderHistory counterHashes "tn_acme" shopOrder p.state := by
  have hrun : (Machine.run orderRun (Machine.idle World.empty)).map
      (fun p => (recorded (Consequence.order counterHashes "tn_acme" shopOrder) p.state).map
        fun row : ConsequenceRow => (row.status, row.revision)) =
      some (some (.processing, 2)) := by decide +kernel
  obtain ⟨p, hp, hend⟩ := Option.map_eq_some_iff.1 hrun
  obtain ⟨row, hrow, hpair⟩ := Option.map_eq_some_iff.1 hend
  obtain ⟨hstatus, hrevision⟩ := Prod.mk.inj hpair
  have hreached : Reached p := Machine.reaches_of_run (fun _ _ _ => trivial) hp
  exact ⟨p, row, hrow, hstatus, hrevision,
    (orders_followed counter "tn_acme" shopOrder hreached .refl).1⟩

end OrderToCash

end BaobabErp
