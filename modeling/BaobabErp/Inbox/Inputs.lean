/-
# What the workers are given

The events that arrive and the placements that are active are inputs of the
platform: no worker writes them.  `Inputs` is a set of them, `Within` says that
the stored rows are from it and `Admits` that the environment adds none.  A
claim of such a row is a claim of one of the events (`Inputs.Of`), and an
attempt at it resolves one of the placements (`order_execute_triple`,
`customer_execute_triple`), whatever changes in between.
-/

import BaobabErp.Inbox.Executors

namespace BaobabErp

open Python Concurrency World ExecutionPolicy Inbox

/-- **The inputs of a run.** -/
structure Inputs where
  /-- Order events: tenant, Trade order, legal entity. -/
  order : String → String → String → Prop
  /-- Customer events: tenant, legal entity, customer. -/
  customer : String → String → String → Prop
  /-- Active placements: tenant, legal entity and the mapping. -/
  place : String → String → TenantMappingRow → Prop

/-- The same client of the same installation. -/
def SameClient (σ τ : Session) : Prop := σ.baseUrl = τ.baseUrl ∧ σ.clientId = τ.clientId

/-- An engine session is shown records of its own client only. -/
def Scoped (D : Deployment) : Prop := ∀ σ r, D.sees σ r = true → SameClient r.home σ

/-- A number for a text. -/
def checksum (text : String) : Nat :=
  text.toList.foldl (fun h c => (h * 131 + c.toNat) % 281474976710656) 7

/-- One installation with the clients 11 and 12, whose sessions are shown
everything of their client. -/
def oneEngine : Deployment where
  hashes := ⟨fun _ name => "00000000-0000-5000-8000-" ++ String.ofList (hexText 12 (checksum name)),
    id, fun text => checksum text⟩
  protectedRuntime := false
  credentials client :=
    if client = 11 then some ⟨"https://engine", "erp", 11, 102, 11⟩
    else if client = 12 then some ⟨"https://engine", "erp", 12, 102, 12⟩
    else none
  sees σ r := σ.baseUrl == r.home.baseUrl && σ.clientId == r.home.clientId

theorem oneEngine_scoped : Scoped oneEngine := fun _ _ h =>
  ⟨(beq_iff_eq.1 (Bool.and_eq_true_iff.1 h).1).symm, (beq_iff_eq.1 (Bool.and_eq_true_iff.1 h).2).symm⟩

namespace Inputs

/-- `σ` is what a placement of the tenant and legal entity signs in as. -/
def Signs (I : Inputs) (D : Deployment) (t le : String) (σ : Session) : Prop :=
  ∃ p, I.place t le p ∧ OrderExecution.engineFor D p.adClientId p.adOrgId = .ok (some σ)

/-- The unique indexes of the active rows of `tenant_mapping`. -/
structure Admissible (I : Inputs) : Prop where
  entity : ∀ t le p q, I.place t le p → I.place t le q → p = q
  native : ∀ t le t' le' p q, I.place t le p → I.place t' le' q → p.adClientId = q.adClientId →
    p.adOrgId = q.adOrgId → t = t' ∧ le = le'

/-- An event of this type, tenant and data is one of the inputs. -/
structure Of (I : Inputs) (eventType : String) (tenantId : Option String) (data : Json) : Prop where
  order : eventType = orderPlaced → ∀ t o, tenantId = some t →
    PlacedOrder.parsePlacedOrder data = .ok o → I.order t o.commerceOrderId o.legalEntityId
  customer : eventType = CustomerExecution.customerProjected → ∀ t o, tenantId = some t →
    CustomerProjection.parseCustomerProjected data = .ok o →
      I.customer t o.legalEntityId o.customerId

/-- The received events and the active placements are inputs. -/
structure Within (I : Inputs) (s : World) : Prop where
  events : ∀ id c, s.Version (.inbox id) c → I.Of c.row.eventType c.row.tenantId c.row.data
  places : ∀ t le c, s.Version (.tenantMapping t le) c → I.place t le c.row

/-- The environment adds inputs only. -/
def Admits (I : Inputs) : Env → Prop
  | .receive _ _ eventType tenantId data _ _ => I.Of eventType tenantId data
  | .remap t le row => ∀ p, row = some p → I.place t le p
  | _ => True

variable {I : Inputs} {D : Deployment} {w : Worker} {c : Choice} {s u : World}

theorem Within.exec {e : Eff} {r : Except Exc (Ans e)} (h : Within I s)
    (hw : ∀ k, e.written = some k → Written k)
    (he : exec D w e c s = some (r, u)) : Within I u := by
  refine ⟨fun id d hd => ?_, fun t le d hd => ?_⟩
  · obtain ⟨d', hd', hsame⟩ := exec_inbox he (fun hk => (hw _ hk).1 id rfl) hd
    rw [hsame.eventType, hsame.tenantId, hsame.data]
    exact h.events id d' hd'
  · exact h.places t le d (exec_version he (fun _ hk => by cases hk) (fun _ hk => by cases hk)
      (fun hk => (hw _ hk).2 t le rfl) hd)

theorem Within.close (h : Within I s) (w : Worker) : Within I (World.close w s) :=
  ⟨fun id d hd => h.events id d (hd.of_rollback rfl),
    fun t le d hd => h.places t le d (hd.of_rollback rfl)⟩

theorem Within.env {a : Env} (h : Within I s) (ha : I.Admits a) (he : env a s = some u) :
    Within I u := by
  refine ⟨fun id d hd => ?_, fun t le d hd => ?_⟩
  · rcases env_version he hd with hd | ⟨id', eid, ty, ten, data, corr, at_, rfl, hid, hrow⟩ |
      ⟨_, _, _, -, hid, -⟩ | ⟨_, _, _, _, _, -, hid, -⟩
    · exact h.events id d hd
    · obtain rfl := Key.inbox.inj hid
      obtain hrow : d.row = receivedRow eid ty ten data corr at_ := eq_of_heq hrow
      rw [hrow]
      exact ha
    · cases hid
    · cases hid
  · rcases env_version he hd with hd | ⟨_, _, _, _, _, _, _, -, hid, -⟩ |
      ⟨t', le', row, rfl, hid, hrow⟩ | ⟨_, _, _, _, _, -, hid, -⟩
    · exact h.places t le d hd
    · cases hid
    · obtain ⟨rfl, rfl⟩ := Key.tenantMapping.inj hid
      obtain hrow : d.row = row := eq_of_heq hrow
      rw [hrow]
      exact ha row rfl
    · cases hid

theorem Within.empty : Within I World.empty :=
  ⟨fun _ _ h => (version_empty h).elim, fun _ _ _ h => (version_empty h).elim⟩

end Inputs

/-! ### Attempts at an input -/

namespace InboxWorker

variable {I : Inputs} {D : Deployment} {w : Worker} {P : Protocol (machine D)} {claim : Claim}

/-- `w` executes `claim`, which is of one of the inputs. -/
def executing (I : Inputs) (w : Worker) (eventType : String) (claim : Claim) : P.Assertion w :=
  own (fun s => I.Of eventType claim.tenantId claim.data ∧ s.current w = some claim.ticket)
    fun _ _ h hA => ⟨hA.1, h.current.trans hA.2⟩

theorem claim_executing (hwithin : ∀ s : World, P.Inv s → I.Within s)
    (hguard : ∀ (s : World) ty lease, P.Guard w (.claim ty lease) s) (eventType : String)
    (lease : Int) :
    P.Triple w (.const True) (Call.claim eventType lease)
      (.ends (fun found => found.elim (.const True) (executing I w eventType)) (.const True)) := by
  refine call_triple (fun s _ _ => hguard s _ _) fun c s u r hs _ _ _ hex => ?_
  obtain ⟨-, -, -, ⟨claim, id, cell, rfl, hc, -, rfl, hty, -, hcur⟩ | ⟨hr, -, -⟩⟩ := exec_claim hex
  · refine ⟨?_, by rw [hcur, Function.update_self]⟩
    have hof := (hwithin s hs).events id cell (version_of_cell hc)
    rw [hty] at hof
    exact hof
  · rcases hr with rfl | ⟨x, rfl⟩ <;> trivial

/-- A call that is no claim leaves what is executed. -/
theorem executing_keeps {eventType : String} {e : Eff}
    (hguard : ∀ s : World, P.Inv s → s.current w = some claim.ticket → P.Guard w e s)
    (hclaim : ∀ ty lease, e ≠ .claim ty lease) :
    Protocol.Keeps (executing I w eventType claim : P.Assertion w) _ (.perform e) := by
  refine call_keeps (fun s hs hA => hguard s hs hA.2) fun c s u r _ _ hA hex => ?_
  obtain ⟨⟨ty, lease, rfl⟩ | hc, -⟩ := exec_session hex
  · exact absurd rfl (hclaim ty lease)
  · exact ⟨hA.1, (congrFun hc w).trans hA.2⟩

/-- The placement an attempt resolves is one of the inputs. -/
theorem target_executing (hwithin : ∀ s : World, P.Inv s → I.Within s)
    (hguard : ∀ (s : World) t le, P.Guard w (.select (.tenantMapping t le)) s)
    {eventType tenantId le : String} :
    P.Triple w (executing I w eventType claim) (target tenantId le)
      (.ends (fun found => (Protocol.Assertion.const
        (∀ p, found = some p → I.place tenantId le p)).and (executing I w eventType claim))
        (.const True)) := by
  refine call_triple (fun s _ _ => hguard s _ _) fun c s u r hs _ hA _ hex => ?_
  obtain ⟨⟨_, _, he⟩ | hc, -⟩ := exec_session hex
  · cases he
  rcases exec_select hex with ⟨⟨x, rfl⟩, -⟩ | ⟨rfl, -⟩
  · trivial
  · refine ⟨fun p hp => ?_, hA.1, (congrFun hc w).trans hA.2⟩
    obtain ⟨d, hd, rfl⟩ := Option.map_eq_some_iff.1 hp
    exact (hwithin s hs).places tenantId le d (version_of_cell hd)

/-- **An order attempt**, from what it does under the order's lock for an order
event and a placement of the inputs. -/
theorem order_execute_triple (hwithin : ∀ s : World, P.Inv s → I.Within s)
    (hguard : ∀ (s : World) t le, P.Guard w (.select (.tenantMapping t le)) s)
    {authority : Option InboxNativeAuthority}
    (hlocked : ∀ t engineInstance placement order, claim.tenantId = some t →
      PlacedOrder.parsePlacedOrder claim.data = .ok order →
      I.order t order.commerceOrderId order.legalEntityId → I.place t order.legalEntityId placement →
      placement.engineInstanceId = some engineInstance →
        P.Triple w (executing I w orderPlaced claim)
          (withLock (OrderExecution.lockKey t order.commerceOrderId)
            (OrderExecution.executeLocked D claim authority t engineInstance placement order))
          fun _ => .const True) :
    P.Triple w (executing I w orderPlaced claim) (OrderExecution.execute D claim authority)
      fun _ => .const True := by
  unfold OrderExecution.execute
  cases hparse : PlacedOrder.parsePlacedOrder claim.data with
  | error reason => exact .throw fun _ _ _ => trivial
  | ok order =>
    have hofs : ∀ s : World, (executing I w orderPlaced claim : P.Assertion w).holds s →
        ∀ t, claim.tenantId = some t → I.order t order.commerceOrderId order.legalEntityId :=
      fun s hA t ht => hA.1.order rfl t order ht hparse
    refine Protocol.Triple.bind (Q := fun r => (Protocol.Assertion.const
      ((∀ a, r = .ok a → a = order) ∧ ∀ t, claim.tenantId = some t →
        I.order t order.commerceOrderId order.legalEntityId)).and (executing I w orderPlaced claim))
      (.pure fun s _ h => ⟨⟨fun _ ha => (Except.ok.inj ha).symm, hofs s h⟩, h⟩) (fun a => ?_)
      fun _ _ _ _ => trivial
    refine .given fun ⟨ha, horder⟩ => ?_
    obtain rfl := ha a rfl
    split
    · exact .throw fun _ _ _ => trivial
    · rename_i t ht
      have ht := (Option.filter_eq_some_iff.1 ht).1
      refine (target_executing hwithin hguard).bind (fun found => .given fun hp => ?_) fun _ _ _ h => h
      split
      · exact .throw fun _ _ _ => trivial
      · rename_i placement engineInstance hfound
        obtain ⟨p, rfl, hp'⟩ := Option.bind_eq_some_iff.1 hfound
        obtain ⟨ei, hei, he⟩ := Option.map_eq_some_iff.1 hp'
        obtain ⟨rfl, rfl⟩ := Prod.mk.inj he
        exact hlocked t ei p a ht hparse (horder t ht) (hp p rfl) hei

/-- **A customer attempt**, from what it does under the customer's lock for a
customer event and a placement of the inputs. -/
theorem customer_execute_triple (hwithin : ∀ s : World, P.Inv s → I.Within s)
    (hguard : ∀ (s : World) t le, P.Guard w (.select (.tenantMapping t le)) s)
    (hlocked : ∀ t engineInstance placement customer, claim.tenantId = some t →
      CustomerProjection.parseCustomerProjected claim.data = .ok customer →
      I.customer t customer.legalEntityId customer.customerId →
      I.place t customer.legalEntityId placement →
      placement.engineInstanceId = some engineInstance →
        P.Triple w (executing I w CustomerExecution.customerProjected claim)
          (withLock (CustomerExecution.lockKey t customer)
            (CustomerExecution.executeLocked D claim t engineInstance placement customer))
          fun _ => .const True) :
    P.Triple w (executing I w CustomerExecution.customerProjected claim)
      (CustomerExecution.execute D claim) fun _ => .const True := by
  unfold CustomerExecution.execute
  cases hparse : CustomerProjection.parseCustomerProjected claim.data with
  | error reason => exact .throw fun _ _ _ => trivial
  | ok customer =>
    have hofs : ∀ s : World,
        (executing I w CustomerExecution.customerProjected claim : P.Assertion w).holds s →
          ∀ t, claim.tenantId = some t → I.customer t customer.legalEntityId customer.customerId :=
      fun s hA t ht => hA.1.customer rfl t customer ht hparse
    refine Protocol.Triple.bind (Q := fun r => (Protocol.Assertion.const
      ((∀ a, r = .ok a → a = customer) ∧ ∀ t, claim.tenantId = some t →
        I.customer t customer.legalEntityId customer.customerId)).and
          (executing I w CustomerExecution.customerProjected claim))
      (.pure fun s _ h => ⟨⟨fun _ ha => (Except.ok.inj ha).symm, hofs s h⟩, h⟩) (fun a => ?_)
      fun _ _ _ _ => trivial
    refine .given fun ⟨ha, hcustomer⟩ => ?_
    obtain rfl := ha a rfl
    split
    · exact .throw fun _ _ _ => trivial
    · rename_i t ht
      have ht := (Option.filter_eq_some_iff.1 ht).1
      refine (target_executing hwithin hguard).bind (fun found => .given fun hp => ?_) fun _ _ _ h => h
      split
      · exact .throw fun _ _ _ => trivial
      · rename_i placement engineInstance hfound
        obtain ⟨p, rfl, hp'⟩ := Option.bind_eq_some_iff.1 hfound
        obtain ⟨ei, hei, he⟩ := Option.map_eq_some_iff.1 hp'
        obtain ⟨rfl, rfl⟩ := Prod.mk.inj he
        exact hlocked t ei p a ht hparse (hcustomer t ht) (hp p rfl) hei

end InboxWorker

end BaobabErp
