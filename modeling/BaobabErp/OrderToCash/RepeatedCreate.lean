/-
# A document that is already mapped is created again

`create_sales_order`, `create_shipment` and `create_payment` create the record in the
engine and insert its mapping then.  For a canonical id that has an active mapping the
insert violates the unique index and the request is rolled back, but the record in the
engine stays.  A repeated call leaves the engine as it is exactly when it is refused
before its first write (`repeated_create_iff`).
-/

import BaobabErp.OrderToCash.ServiceRuns
import BaobabErp.Inbox.Executors
import BaobabErp.Inbox.Inputs
import BaobabErp.Concurrency.Trace

namespace BaobabErp
namespace OrderToCash

open Python Concurrency
open OrderExecution (permitted salesOrderFields)

/-- **A native create command**, with its arguments. -/
inductive Create
  | salesOrder (commerceOrderId : String) (partner : Int) (currency : String)
      (lines : List OrderLine) (orderVersion : Option Int)
  | shipment (shipmentId commerceOrderId : String)
  | payment (paymentId : String) (partner : Int) (amount currency : String)

namespace Create

def program (D : Service) (r : Request) : Create → Program Unit
  | salesOrder id partner currency lines version =>
    createSalesOrder D r id partner currency lines version
  | shipment id order => createShipment D r id order
  | payment id partner amount currency => createPayment D r id partner amount currency

/-- The canonical type of the document. -/
def type : Create → String
  | salesOrder .. => "CommerceOrder"
  | shipment .. => "GoodsShipment"
  | payment .. => "Payment"

/-- The canonical id the call gives. -/
def canonicalId : Create → String
  | salesOrder id .. => id
  | shipment id _ => id
  | payment id .. => id

/-- The action the command has to be cleared for. -/
def action : Create → String
  | salesOrder .. => "create_sales_order"
  | shipment .. => "create_shipment"
  | payment .. => "create_payment"

end Create

/-- The tenant has an active mapping for the canonical id, as `w` sees it. -/
def mapped (w : Worker) (s : World) (r : Request) (call : Create) : Bool :=
  (postgresUuid call.canonicalId).any fun id =>
    (s.cell w (.entityMapping r.scope.tenantId call.type id)).isSome

/-! ### When a call is refused -/

/-- The client writes for the request. -/
def writes (D : Service) (r : Request) : Bool :=
  writesUnder D r (r.permit.map Egress.NativeMarker.scope)

/-- The order is mapped to a sales order, as `w` sees it. -/
def orderMapped (w : Worker) (s : World) (r : Request) (commerceOrderId : String) : Bool :=
  (postgresUuid commerceOrderId).any fun id =>
    (s.cell w (.entityMapping r.scope.tenantId "CommerceOrder" id)).any fun cell =>
      (cell.row : EntityMappingRow).nativeTable == "C_Order"

/-- What the command needs beside its clearance. -/
def Create.ready (w : Worker) (s : World) (r : Request) : Create → Bool
  | salesOrder _ _ _ lines _ => !lines.isEmpty
  | shipment _ order => orderMapped w s r order
  | payment .. => true

/-- **The call is refused before its first write.** -/
def Create.refused (D : Service) (w : Worker) (s : World) (r : Request) (call : Create) : Bool :=
  !(permitted D.platform (r.permit.map permitOf) r.scope call.action call.canonicalId &&
    call.ready w s r && writes D r)

section

variable {D : Service} {w : Worker} {s t : World} {r : Request}

/-! ### The parts of a command -/

theorem deny_ok {action reference : String} (s : World)
    (hp : permitted D.platform (r.permit.map permitOf) r.scope action reference = true) :
    Ran D.platform w (denyLegacyNativeAction D r action reference) s (.ok ()) s := by
  unfold denyLegacyNativeAction
  rw [if_pos hp]
  exact .ret

/-- What a command reads leaves the engine and the rows of the session. -/
structure Read (w : Worker) (s t : World) : Prop where
  engine : t.engine = s.engine
  cell : ∀ k, t.cell w k = s.cell w k

theorem Read.refl (s : World) : Read w s s := ⟨rfl, fun _ => rfl⟩

theorem uuidParam_ok {text id : String} (s : World) (hid : postgresUuid text = some id) :
    Ran D.platform w (uuidParam text) s (.ok id) s := by
  unfold uuidParam
  rw [hid]
  exact .ret

theorem mappingOf_run {tenant type canonicalId : String}
    {x : Except Exc (Option EntityMappingRow)}
    (h : Ran D.platform w (mappingOf tenant type canonicalId) s x t) :
    t.engine = s.engine ∧ ∀ row, x = .ok row → Read w s t ∧ ∃ id,
      postgresUuid canonicalId = some id ∧
        row = (s.cell w (.entityMapping tenant type id)).map Cell.row := by
  unfold mappingOf at h
  rcases h.of_bind with ⟨z, hu, rfl⟩ | ⟨id, v, hu, hs⟩
  · obtain ⟨rfl, -⟩ := uuidParam_run hu
    exact ⟨rfl, nofun⟩
  · obtain ⟨rfl, hid, -⟩ := uuidParam_run hu
    obtain ⟨c, hc⟩ := hs.of_perform
    rcases exec_select hc with ⟨⟨z, rfl⟩, rfl⟩ | ⟨rfl, rfl⟩
    · exact ⟨rfl, nofun⟩
    · exact ⟨by simp, fun row hrow => ⟨⟨by simp, fun k => by simp⟩, id, hid id rfl,
        (Except.ok.inj hrow).symm⟩⟩

theorem mappingOf_ok {tenant type canonicalId id : String} (s : World)
    (hid : postgresUuid canonicalId = some id) :
    Ran D.platform w (mappingOf tenant type canonicalId) s
      (.ok ((s.cell w (.entityMapping tenant type id)).map Cell.row))
      (s.seeRow w (.entityMapping tenant type id)) :=
  (uuidParam_ok s hid).bind (.perform ⟨{}, rfl⟩)

theorem resolveNative_run {order : String} {x : Except Exc Int}
    (h : Ran D.platform w (resolveNative r.scope "CommerceOrder" order "C_Order") s x t) :
    t.engine = s.engine ∧ ∀ n, x = .ok n → Read w s t ∧ orderMapped w s r order = true := by
  unfold resolveNative at h
  rcases h.of_bind with ⟨z, hm, rfl⟩ | ⟨row, v, hm, hrest⟩
  · exact ⟨(mappingOf_run hm).1, nofun⟩
  · obtain ⟨hengine, hok⟩ := mappingOf_run hm
    obtain ⟨hread, id, hid, hrow⟩ := hok row rfl
    cases row with
    | none =>
      obtain ⟨rfl, rfl⟩ := hrest.of_throw
      exact ⟨hengine, nofun⟩
    | some row =>
      dsimp only at hrest
      split at hrest
      · obtain ⟨rfl, rfl⟩ := hrest.of_throw
        exact ⟨hengine, nofun⟩
      · rename_i htable
        obtain ⟨rfl, rfl⟩ := hrest.of_pure
        refine ⟨hengine, fun n _ => ⟨hread, ?_⟩⟩
        obtain ⟨cell, hcell, rfl⟩ := Option.map_eq_some_iff.1 hrow.symm
        unfold orderMapped
        rw [hid, Option.any_some, hcell, Option.any_some, beq_iff_eq]
        exact not_not.1 htable

theorem resolveNative_ok {order : String} (s : World) (ho : orderMapped w s r order = true) :
    ∃ n t, Ran D.platform w (resolveNative r.scope "CommerceOrder" order "C_Order") s (.ok n) t := by
  unfold orderMapped at ho
  obtain ⟨id, hid, hcell⟩ := (Option.any_eq_true ..).1 ho
  obtain ⟨cell, hcell, htable⟩ := (Option.any_eq_true ..).1 hcell
  refine ⟨(cell.row : EntityMappingRow).nativeId,
    s.seeRow w (.entityMapping r.scope.tenantId "CommerceOrder" id), (mappingOf_ok s hid).bind ?_⟩
  rw [hcell]
  show Ran D.platform w (if (cell.row : EntityMappingRow).nativeTable ≠ "C_Order" then _ else _) _ _ _
  rw [if_neg (not_not.2 (beq_iff_eq.1 htable))]
  exact .ret

/-- Every run of the program raises. -/
def Fails (D : Deployment) (w : Worker) {α : Type} (p : Program α) (s : World) : Prop :=
  ∀ x t, Ran D w p s x t → ∃ z, x = .error z

theorem Fails.throw {α : Type} (z : Exc) : Fails D.platform w (throw z : Program α) s :=
  fun _ _ h => ⟨z, h.of_throw.1⟩

/-- A program fails where whatever its first part returns makes the rest fail. -/
theorem Fails.bind {α β : Type} {p : Program α} {f : α → Program β}
    (hf : ∀ a t, Ran D.platform w p s (.ok a) t → Fails D.platform w (f a) t) :
    Fails D.platform w (p >>= f) s := by
  intro y u h
  rcases h.of_bind with ⟨z, -, rfl⟩ | ⟨a, t, hp, hrest⟩
  · exact ⟨z, rfl⟩
  · exact hf a t hp y u hrest

theorem Fails.first {α β : Type} {p : Program α} (h : Fails D.platform w p s)
    (f : α → Program β) : Fails D.platform w (p >>= f) s :=
  .bind fun a t hp => by
    obtain ⟨z, hz⟩ := h _ t hp
    cases hz

theorem createMapping_fails {type canonicalId id table : String} {n : Int}
    (hid : postgresUuid canonicalId = some id)
    (hmapped : (s.cell w (.entityMapping r.scope.tenantId type id)).isSome = true) :
    Fails D.platform w (createMapping r.scope type canonicalId table n) s := by
  unfold createMapping
  split
  · exact .throw _
  · refine .bind fun id' u hu => ?_
    obtain ⟨rfl, hid', -⟩ := uuidParam_run hu
    obtain rfl := Option.some.inj (hid.symm.trans (hid' id' rfl))
    refine .bind fun row u' hi => ?_
    obtain ⟨c, hc⟩ := hi.of_perform
    rcases exec_insert hc with ⟨⟨z, hz⟩, -⟩ | ⟨-, hnone, -⟩
    · cases hz
    · rw [hnone] at hmapped
      cases hmapped

/-- **A creation for an id that is mapped already fails**, at the mapping if not before. -/
theorem createAndMap_fails {type canonicalId id : String} {fields : Fields}
    (hid : postgresUuid canonicalId = some id)
    (hmapped : (s.cell w (.entityMapping r.scope.tenantId type id)).isSome = true) :
    Fails D.platform w (createAndMap D r type canonicalId fields) s := by
  unfold createAndMap
  refine .bind fun σ v hw => ?_
  obtain ⟨rfl, -⟩ := writer_run hw
  refine .bind fun n u hc => .first (createMapping_fails hid ?_) _
  obtain ⟨c, hc⟩ := hc.of_perform
  rcases (exec_createRecord hc).2 with ⟨rfl, -⟩ | ⟨-, rfl⟩ <;> exact hmapped

/-! ### A refused call -/

/-- Every run of the program raises and leaves the engine. -/
def Blocked (D : Deployment) (w : Worker) {α : Type} (p : Program α) (s : World) : Prop :=
  ∀ x t, Ran D w p s x t → (∃ z, x = .error z) ∧ t.engine = s.engine

theorem Blocked.throw {α : Type} (z : Exc) : Blocked D.platform w (throw z : Program α) s := by
  intro x t h
  obtain ⟨rfl, rfl⟩ := h.of_throw
  exact ⟨⟨z, rfl⟩, rfl⟩

/-- A program is blocked where whatever its first part returns blocks the rest. -/
theorem Blocked.bind {α β : Type} {p : Program α} {f : α → Program β}
    (hengine : ∀ x t, Ran D.platform w p s x t → t.engine = s.engine)
    (hf : ∀ a t, Ran D.platform w p s (.ok a) t → Blocked D.platform w (f a) t) :
    Blocked D.platform w (p >>= f) s := by
  intro y u h
  rcases h.of_bind with ⟨z, hp, rfl⟩ | ⟨a, t, hp, hrest⟩
  · exact ⟨⟨z, rfl⟩, hengine _ _ hp⟩
  · obtain ⟨herror, hu⟩ := hf a t hp y u hrest
    exact ⟨herror, hu.trans (hengine _ _ hp)⟩

theorem Blocked.first {α β : Type} {p : Program α} (h : Blocked D.platform w p s)
    (f : α → Program β) : Blocked D.platform w (p >>= f) s := by
  refine .bind (fun x t hp => (h x t hp).2) fun a t hp => ?_
  obtain ⟨⟨z, hz⟩, -⟩ := h _ t hp
  cases hz

theorem createAndMap_blocked {type canonicalId : String} {fields : Fields}
    (hw : writes D r = false) : Blocked D.platform w (createAndMap D r type canonicalId fields) s := by
  unfold createAndMap
  refine .bind (fun x t h => by rw [(writer_run h).1]) fun σ t h => ?_
  have hyes := ((writer_run h).2 σ rfl).2
  unfold writes at hw
  rw [hyes] at hw
  cases hw

theorem createAndMap_creates {type canonicalId : String} {fields : Fields}
    (hw : writes D r = true) : Creates D.platform w (createAndMap D r type canonicalId fields) s := by
  unfold createAndMap
  obtain ⟨σ, hσ⟩ := writer_ok s hw
  exact .after hσ (.bind (creates_createRecord D.platform w σ fields s) _)

theorem deny_blocked {action reference : String} {p : Program Unit}
    (hp : permitted D.platform (r.permit.map permitOf) r.scope action reference = true →
      Blocked D.platform w p s) :
    Blocked D.platform w (denyLegacyNativeAction D r action reference >>= fun _ => p) s := by
  refine .bind (fun x t h => by rw [(deny_run h).1]) fun _ t h => ?_
  obtain ⟨rfl, hpermitted⟩ := deny_run h
  exact hp (hpermitted rfl)

/-- **A refused call fails and leaves the engine.** -/
theorem refused_blocked {call : Create} (h : call.refused D w s r = true) :
    Blocked D.platform w (call.program D r) s := by
  have hcases : permitted D.platform (r.permit.map permitOf) r.scope call.action call.canonicalId =
      true → call.ready w s r = true → writes D r = false := by
    intro hp hr
    unfold Create.refused at h
    rw [hp, hr] at h
    simpa using h
  cases call with
  | salesOrder id partner currency lines version =>
    refine deny_blocked fun hp => ?_
    by_cases hl : lines.isEmpty = true
    · rw [if_pos hl]
      exact (Blocked.throw _).first _
    · rw [if_neg hl]
      exact (createAndMap_blocked (hcases hp (by simpa [Create.ready] using hl))).first _
  | shipment id order =>
    refine deny_blocked fun hp => .bind (fun x t h => (resolveNative_run h).1) fun n t h => ?_
    have horder := ((resolveNative_run h).2 n rfl).2
    exact (createAndMap_blocked (hcases hp horder)).first _
  | payment id partner amount currency =>
    exact deny_blocked fun hp => (createAndMap_blocked (hcases hp rfl)).first _

/-- **Any other call can create a record**, whatever is mapped. -/
theorem unrefused_creates {call : Create} (h : call.refused D w s r = false) :
    Creates D.platform w (call.program D r) s := by
  unfold Create.refused at h
  rw [Bool.not_eq_false', Bool.and_eq_true, Bool.and_eq_true] at h
  obtain ⟨⟨hp, hready⟩, hw⟩ := h
  cases call with
  | salesOrder id partner currency lines version =>
    refine .after (deny_ok s hp) ?_
    have hl : lines.isEmpty ≠ true := by simpa [Create.ready] using hready
    rw [if_neg hl]
    exact .bind (createAndMap_creates hw) _
  | shipment id order =>
    obtain ⟨n, t, ht⟩ := resolveNative_ok (w := w) (D := D) s hready
    exact .after (deny_ok s hp) (.after ht (.bind (createAndMap_creates hw) _))
  | payment id partner amount currency =>
    exact .after (deny_ok s hp) (.bind (createAndMap_creates hw) _)

/-! ### A call for a mapped id -/

/-- **A call for a mapped id fails.** -/
theorem mapped_fails {call : Create} (hm : mapped w s r call = true) :
    Fails D.platform w (call.program D r) s := by
  obtain ⟨id, hid, hcell⟩ := (Option.any_eq_true ..).1 hm
  have deny : ∀ {action reference : String} {p : Program Unit}, Fails D.platform w p s →
      Fails D.platform w (denyLegacyNativeAction D r action reference >>= fun _ => p) s :=
    fun hp => .bind fun _ t hd => by
      obtain ⟨rfl, -⟩ := deny_run hd
      exact hp
  cases call with
  | salesOrder cid partner currency lines version =>
    refine deny ?_
    by_cases hl : lines.isEmpty = true
    · rw [if_pos hl]
      exact (Fails.throw _).first _
    · rw [if_neg hl]
      exact (createAndMap_fails hid hcell).first _
  | shipment cid order =>
    refine deny (.bind fun n t hr => .first (createAndMap_fails hid ?_) _)
    rw [((resolveNative_run hr).2 n rfl).1.cell]
    exact hcell
  | payment cid partner amount currency =>
    exact deny ((createAndMap_fails hid hcell).first _)

/-! ### Requests -/

theorem commit_run {p : Program Unit} {x : Except Exc Unit}
    (h : Ran D.platform w (p >>= fun _ => Call.commit) s x t) :
    (∃ z, x = .error z ∧ Ran D.platform w p s (.error z) t) ∨
      ∃ u, Ran D.platform w p s (.ok ()) u ∧ t.engine = u.engine := by
  rcases h.of_bind with ⟨z, hp, rfl⟩ | ⟨_, u, hp, hc⟩
  · exact .inl ⟨z, rfl, hp⟩
  · obtain ⟨c, hc⟩ := hc.of_perform
    rcases exec_commit hc with rfl | ⟨-, rfl⟩ <;> exact .inr ⟨u, hp, rfl⟩

/-- **How a request ends**: its command raised and so does the request, or the command
returned. -/
theorem transaction_run {p : Program Unit} {x : Except Exc Unit}
    (h : Ran D.platform w (transaction p) s x t) :
    (∃ y z u, x = .error y ∧ Ran D.platform w p s (.error z) u ∧ t.engine = u.engine) ∨
      ∃ u, Ran D.platform w p s (.ok ()) u ∧ t.engine = u.engine := by
  rcases orRollback_run h with ⟨_, rfl, hp⟩ | ⟨z, y, v, rfl, hp, rfl⟩
  · rcases commit_run hp with ⟨z, hz, -⟩ | hu
    · cases hz
    · exact .inr hu
  · rcases commit_run hp with ⟨z', hz, hu⟩ | hu
    · exact .inl ⟨y, z', v, rfl, hu, rfl⟩
    · exact .inr hu

theorem Fails.transaction {p : Program Unit} (h : Fails D.platform w p s) :
    Fails D.platform w (transaction p) s := by
  intro x t hx
  rcases transaction_run hx with ⟨y, -, -, rfl, -, -⟩ | ⟨u, hp, -⟩
  · exact ⟨y, rfl⟩
  · obtain ⟨z, hz⟩ := h _ u hp
    cases hz

theorem Blocked.transaction {p : Program Unit} (h : Blocked D.platform w p s) :
    Blocked D.platform w (transaction p) s := by
  intro x t hx
  rcases transaction_run hx with ⟨y, z, u, rfl, hp, ht⟩ | ⟨u, hp, -⟩
  · exact ⟨⟨y, rfl⟩, ht.trans (h _ u hp).2⟩
  · obtain ⟨⟨z, hz⟩, -⟩ := h _ u hp
    cases hz

theorem creates_transaction {p : Program Unit} (h : Creates D.platform w p s) :
    Creates D.platform w (transaction p) s :=
  (h.bind fun _ => Call.commit).handle _

/-- **A request leaves the engine and fails exactly where its call is refused.** -/
theorem blocked_iff {call : Create} :
    Blocked D.platform w (transaction (call.program D r)) s ↔ call.refused D w s r = true := by
  refine ⟨fun h => ?_, fun h => (refused_blocked h).transaction⟩
  by_contra hr
  obtain ⟨x, t, hrun, hlt⟩ := creates_transaction (unrefused_creates (Bool.eq_false_iff.2 hr))
  rw [(h x t hrun).2] at hlt
  exact lt_irrefl _ hlt

/-! ### Repeated calls -/

/-- A program creates no engine record. -/
abbrev Quiet {α : Type} (p : Program α) : Prop := ¬ Prog.Calls (createsRecord · = true) p

theorem quiet_call {e : Eff} (h : createsRecord e = false) :
    Quiet (.perform e : Program (Ans e)) :=
  Prog.quiet_perform (by rw [h]; exact Bool.false_ne_true)

theorem quiet_records : ∀ e : Eff, e.records = true → e.ties = false →
    Quiet (.perform e : Program (Ans e)) := by
  intro e h _
  refine quiet_call ?_
  cases e <;> first | rfl | cases h

theorem createMapping_quiet {type canonicalId table : String} {n : Int} :
    Quiet (createMapping r.scope type canonicalId table n) := by
  unfold createMapping
  split
  · exact Prog.closed_quiet.throw _
  · exact Prog.closed_quiet.bind (uuidParam_closed Prog.closed_quiet _) fun id =>
      Prog.closed_quiet.bind (quiet_call rfl) fun _ => Prog.closed_quiet.pure _

theorem announce_quiet (record : Option Consequence.OrderConsequence) :
    Quiet (announce D r record) := by
  unfold announce
  split
  · exact Consequence.announceRecord_closed Prog.closed_quiet quiet_records
  · exact Prog.closed_quiet.pure _

theorem linkDocument_quiet {tenant id order : String} {type : LinkedDocument} :
    Quiet (Consequence.linkDocument tenant type id order) := by
  unfold Consequence.linkDocument Consequence.hasOrder
  refine Prog.closed_quiet.bind (Prog.closed_quiet.bind (quiet_call rfl) fun _ =>
    Prog.closed_quiet.pure _) fun known => ?_
  split
  · exact Prog.closed_quiet.bind (quiet_call rfl) fun _ => Prog.closed_quiet.pure _
  · exact Prog.closed_quiet.pure _

/-- **A creation that returns created one record.** -/
theorem createAndMap_grows {type canonicalId : String} {fields : Fields} {n : Int}
    (h : Ran D.platform w (createAndMap D r type canonicalId fields) s (.ok n) t) :
    t.engine.length = s.engine.length + 1 := by
  unfold createAndMap at h
  obtain ⟨σ, u, hw, h₁⟩ := h.of_bind_ok
  have hu := (writer_run hw).1
  obtain ⟨id, v, hc, h₂⟩ := h₁.of_bind_ok
  obtain ⟨c, hc⟩ := hc.of_perform
  have hv : v.engine.length = u.engine.length + 1 := by
    rcases (exec_createRecord hc).2 with ⟨rfl, -⟩ | ⟨⟨z, hz⟩, -⟩
    · exact List.length_cons
    · cases hz
  have hquiet := ran_quiet_length
    (Prog.closed_quiet.bind createMapping_quiet fun _ => Prog.closed_quiet.pure _) h₂
  rw [hquiet, hv, hu]

/-- **A command that returns created one record.** -/
theorem create_grows {call : Create} (h : Ran D.platform w (call.program D r) s (.ok ()) t) :
    t.engine.length = s.engine.length + 1 := by
  have deny : ∀ {action reference : String} {p : Program Unit},
      Ran D.platform w (denyLegacyNativeAction D r action reference >>= fun _ => p) s (.ok ()) t →
        Ran D.platform w p s (.ok ()) t := fun h => by
    rcases h.of_bind with ⟨z, -, hz⟩ | ⟨_, u, hd, hp⟩
    · cases hz
    · obtain ⟨rfl, -⟩ := deny_run hd
      exact hp
  have after : ∀ {u : World} {type canonicalId : String} {fields : Fields}
      {f : Int → Program Unit}, (∀ n, Quiet (f n)) →
      Ran D.platform w (createAndMap D r type canonicalId fields >>= f) u (.ok ()) t →
        t.engine.length = u.engine.length + 1 := fun hf h => by
    rcases h.of_bind with ⟨z, -, hz⟩ | ⟨n, v, hc, hrest⟩
    · cases hz
    · rw [ran_quiet_length (hf n) hrest, createAndMap_grows hc]
  cases call with
  | salesOrder id partner currency lines version =>
    have h := deny h
    by_cases hl : lines.isEmpty = true
    · rw [if_pos hl] at h
      rcases h.of_bind with ⟨z, -, hz⟩ | ⟨_, u, ht, -⟩
      · cases hz
      · cases ht.of_throw.1
    · rw [if_neg hl] at h
      refine after (fun n => ?_) h
      cases version with
      | none => exact Prog.closed_quiet.pure _
      | some version =>
        refine Prog.closed_quiet.bind (Prog.closed_quiet.bind
          (mappingOf_closed Prog.closed_quiet fun _ => quiet_call rfl) fun _ =>
          Prog.closed_quiet.pure _) fun found => ?_
        cases found with
        | none => exact Prog.closed_quiet.throw _
        | some erpOrderId =>
          exact Prog.closed_quiet.bind (quiet_call rfl) fun now => Prog.closed_quiet.bind
            (Consequence.openOrder_closed Prog.closed_quiet quiet_records) fun opened =>
            announce_quiet opened
  | shipment id order =>
    rcases (deny h).of_bind with ⟨z, -, hz⟩ | ⟨n, u, hr, h₁⟩
    · cases hz
    · have hu := (resolveNative_run hr).1
      rw [after (fun _ => Prog.closed_quiet.bind linkDocument_quiet fun _ =>
        Prog.closed_quiet.pure _) h₁, hu]
  | payment id partner amount currency =>
    exact after (fun _ => Prog.closed_quiet.pure _) (deny h)

end

/-- **Calls for one canonical id of a tenant, one after another**, each in a session of
its own and refused before its first write. -/
inductive RefusedCalls (D : Service) (tenant type id : String) : World → World → Prop
  | done {s : World} : RefusedCalls D tenant type id s s
  | call {w : Worker} {r : Request} {call : Create} {s t u : World} {x : Except Exc Unit} :
      r.scope.tenantId = tenant → call.type = type → postgresUuid call.canonicalId = some id →
      call.refused D w s r = true → Ran D.platform w (transaction (call.program D r)) s x t →
      RefusedCalls D tenant type id t u → RefusedCalls D tenant type id s u

theorem RefusedCalls.engine {D : Service} {tenant type id : String} {s u : World}
    (h : RefusedCalls D tenant type id s u) : u.engine = s.engine := by
  induction h with
  | done => rfl
  | call _ _ _ hr hrun _ ih => exact ih.trans ((blocked_iff.2 hr) _ _ hrun).2

/-- **A native create command for a mapped canonical id always fails, and leaves the
engine exactly where it is refused before its first write**: the runtime is protected
and the call not cleared, or cleared for another company than its credentials; there are
no credentials; the order has no line; or the order of the shipment is not mapped to a
sales order.  After a call that committed, calls so refused leave its one record. -/
theorem repeated_create_iff (D : Service) (w : Worker) (s : World) (r : Request) (call : Create)
    (hm : mapped w s r call = true) :
    (∀ x t, Ran D.platform w (transaction (call.program D r)) s x t → ∃ z, x = .error z) ∧
    ((∀ x t, Ran D.platform w (transaction (call.program D r)) s x t →
        (∃ z, x = .error z) ∧ t.engine = s.engine) ↔ call.refused D w s r = true) ∧
    ∀ (w₀ : Worker) (s₀ : World) (r₀ : Request) (call₀ : Create) (t u : World) (id : String),
      postgresUuid call₀.canonicalId = some id →
      Ran D.platform w₀ (transaction (call₀.program D r₀)) s₀ (.ok ()) t →
      RefusedCalls D r₀.scope.tenantId call₀.type id t u →
      u.engine.length = s₀.engine.length + 1 := by
  refine ⟨(mapped_fails hm).transaction, blocked_iff, ?_⟩
  intro w₀ s₀ r₀ call₀ t u id _ hrun hcalls
  rw [hcalls.engine]
  rcases transaction_run hrun with ⟨y, -, -, hy, -, -⟩ | ⟨v, hv, ht⟩
  · cases hy
  · rw [ht, create_grows hv]

/-! ### A payment created twice -/

/-- A protected runtime with one engine. -/
def shop : Service where
  platform := { oneEngine with protectedRuntime := true }
  runtime := ⟨fun _ => none, fun _ _ => .eq, fun _ => false, id⟩
  processIds := ⟨1001, 1002, 1003, 1004, 1005⟩

def shopScope : OrderExecution.TenantScope := ⟨"tn_acme", "NABH", 11, 11⟩

def shopPayment : String := "11111111-1111-4111-8111-111111111111"

/-- A request under a permit to create the payment. -/
def shopRequest : Request where
  scope := shopScope
  client := some ⟨"https://engine", "erp", 11, 102, 11⟩
  permit := some ⟨shopScope, "create_payment", shopPayment⟩

def paymentCall : Create := .payment shopPayment 4001 "10.00" "EUR"

/-- The run of two such calls: the first commits, the mapping of the second fails. -/
def createdTwice : Option ((Except Exc Unit × World) × (Except Exc Unit × World)) :=
  (runWith shop.platform "a" (transaction (paymentCall.program shop shopRequest))
    [{ id := 7001 }, { random := "erp_aaaa" }, {}] World.empty).bind fun first =>
  (runWith shop.platform "b" (transaction (paymentCall.program shop shopRequest))
    [{ id := 7002 }, { random := "erp_bbbb" }, {}] first.2).map fun second => (first, second)

theorem createdTwice_runs {p q : Except Exc Unit × World} (h : createdTwice = some (p, q)) :
    Ran shop.platform "a" (transaction (paymentCall.program shop shopRequest)) World.empty p.1 p.2 ∧
      Ran shop.platform "b" (transaction (paymentCall.program shop shopRequest)) p.2 q.1 q.2 := by
  obtain ⟨first, hfirst, hrest⟩ := Option.bind_eq_some_iff.1 h
  obtain ⟨second, hsecond, hpair⟩ := Option.map_eq_some_iff.1 hrest
  obtain ⟨rfl, rfl⟩ := Prod.mk.inj hpair
  exact ⟨ran_of_runWith hfirst, ran_of_runWith hsecond⟩

theorem payment_created_twice : ∃ t u,
    Ran shop.platform "a" (transaction (paymentCall.program shop shopRequest)) World.empty
      (.ok ()) t ∧
    mapped "b" t shopRequest paymentCall = true ∧
    Ran shop.platform "b" (transaction (paymentCall.program shop shopRequest)) t
      (.error .uniqueViolation) u ∧
    t.engine.map EngineRecord.id = [7001] ∧ u.engine.map EngineRecord.id = [7002, 7001] := by
  have hrun : createdTwice.map (fun p => (p.1.1, mapped "b" p.1.2 shopRequest paymentCall, p.2.1,
      p.1.2.engine.map EngineRecord.id, p.2.2.engine.map EngineRecord.id)) =
      some (.ok (), true, .error .uniqueViolation, [7001], [7002, 7001]) := by decide +kernel
  obtain ⟨⟨⟨x, t⟩, ⟨y, u⟩⟩, hp, hend⟩ := Option.map_eq_some_iff.1 hrun
  obtain ⟨hfirst, hsecond⟩ := createdTwice_runs hp
  simp only [Prod.mk.injEq] at hend
  obtain ⟨rfl, hm, rfl, ht, hu⟩ := hend
  exact ⟨t, u, hfirst, hm, hsecond, ht, hu⟩

/-- The same call without a permit. -/
def uncleared : Request := { shopRequest with permit := none }

theorem uncleared_payment_refused : ∃ t u x,
    Ran shop.platform "a" (transaction (paymentCall.program shop shopRequest)) World.empty
      (.ok ()) t ∧
    Ran shop.platform "b" (transaction (paymentCall.program shop uncleared)) t x u ∧
    (∃ z, x = .error z) ∧ u.engine = t.engine ∧ u.engine.length = 1 := by
  have hrun : createdTwice.map (fun p => (p.1.1, mapped "b" p.1.2 uncleared paymentCall)) =
      some (.ok (), true) := by decide +kernel
  obtain ⟨⟨⟨x, t⟩, second⟩, hp, hend⟩ := Option.map_eq_some_iff.1 hrun
  have hfirst := (createdTwice_runs hp).1
  obtain ⟨rfl, hm⟩ := Prod.mk.inj hend
  obtain ⟨x, u, hu⟩ := exists_ran shop.platform "b"
    (transaction (paymentCall.program shop uncleared)) t
  have hrefused : paymentCall.refused shop "b" t uncleared = true := rfl
  have hall := repeated_create_iff shop "b" t uncleared paymentCall hm
  obtain ⟨hfails, hengine⟩ := hall.2.1.2 hrefused x u hu
  exact ⟨t, u, x, hfirst, hu, hfails, hengine,
    hall.2.2 "a" World.empty shopRequest paymentCall t u shopPayment (by decide +kernel)
      hfirst (.call (r := uncleared) rfl rfl (by decide +kernel) hrefused hu .done)⟩

end OrderToCash
end BaobabErp
