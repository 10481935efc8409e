/-
# Engine orders and tenants

`modules/order_to_cash/inbox_execution.py` looks an order up by its POReference
alone, in the engine session of the placement (`application/inbox_worker.py`).
A mapping at AD_Org 0 is given the credentials of its whole AD_Client, so its
session is shown the orders of every tenant placed in that client.

What does hold is `tenants_isolated`: where no two tenants use one order id in
one client (`Apart`), every execution records an order of its own and is shown
no order of another tenant.  `order_taken_over` is a run of two tenants in one
client, in which the second tenant's execution adopts the first one's order.
The customers' executor does not have this defect: its marker names the tenant.
-/

import BaobabErp.Inbox.Inputs

namespace BaobabErp
namespace OrderExecution

open Python Concurrency World ExecutionPolicy Inbox InboxWorker
open Concurrency.Protocol (Keeps closed_keeps)

/-- **No two tenants use one order id in one client.** -/
def Apart (D : Deployment) (I : Inputs) : Prop :=
  ∀ t t' o le le' σ τ, I.order t o le → I.order t' o le' → I.Signs D t le σ → I.Signs D t' le' τ →
    SameClient σ τ → t = t'

/-- The record is the order `o`, in the client of tenant `t`, and of no other tenant. -/
structure OwnOrder (D : Deployment) (I : Inputs) (t o le : String) (r : EngineRecord) : Prop where
  input : I.order t o le
  lookup : r.fields.lookup = some (.cOrder, o)
  home : ∃ σ, I.Signs D t le σ ∧ SameClient r.home σ
  creator : ∀ tk, r.creator = some tk → tk.tenant = some t

/-- The engine holds an own order with this id. -/
def Holds (D : Deployment) (I : Inputs) (t o le : String) (id : Int) (s : World) : Prop :=
  ∃ r ∈ s.engine, r.id = id ∧ OwnOrder D I t o le r

/-- An order was shown to an execution for the tenant it was created for. -/
def ShownToOwner (a : Access) : Prop :=
  ∀ r, a.what = .record r → r.fields.table = "C_Order" → ∀ tk, a.creator = some tk →
    ∃ reader, a.reader = some reader ∧ reader.tenant = tk.tenant

/-- **Orders of the tenants are kept apart.** -/
structure Separate (D : Deployment) (I : Inputs) (s : World) : Prop where
  within : I.Within s
  distinct : Distinct s
  created : ∀ r ∈ s.engine, ∀ tk o, r.creator = some tk → r.fields.lookup = some (.cOrder, o) →
    ∃ t le, tk.tenant = some t ∧ I.order t o le ∧ I.Signs D t le r.home
  executions : ∀ t o c, s.Version (.execution t o) c →
    Holds D I t o (c.row : ExecutionRow).legalEntityId (c.row : ExecutionRow).nativeId s
  accesses : ∀ a ∈ s.accesses, ShownToOwner a

/-- `w` executes an event of the order `o`, whose tenant signs in as `σ`. -/
def Serves (D : Deployment) (I : Inputs) (w : Worker) (o : String) (σ : Session) (s : World) : Prop :=
  ∃ tk t le, s.current w = some tk ∧ tk.tenant = some t ∧ I.order t o le ∧ I.Signs D t le σ

/-- **When a call is safe.** -/
def SeparateGuard (D : Deployment) (I : Inputs) (w : Worker) (e : Eff) (s : World) : Prop :=
  match e with
  | .query σ .cOrder o => Serves D I w o σ s
  | .getRecord _ table _ => table ≠ "C_Order"
  | .updateRecord _ _ fields => fields.table ≠ "C_Order"
  | .createRecord σ fields => ∀ o, fields.lookup = some (.cOrder, o) → Serves D I w o σ s
  | .insert (.execution t o) row => ∀ d,
    Holds D I t o (row d : ExecutionRow).legalEntityId (row d : ExecutionRow).nativeId s
  | e => ∀ k, e.written = some k → Written k ∧ ∀ t o, k ≠ .execution t o

section

variable {I : Inputs} {D : Deployment} {s u : World} {w : Worker} {c : Choice}

theorem OwnOrder.same {t o le : String} {a b : EngineRecord} (h : SameRecord a b)
    (hb : OwnOrder D I t o le b) : OwnOrder D I t o le a := by
  refine ⟨hb.input, h.lookup.trans hb.lookup, ?_, by rw [h.creator]; exact hb.creator⟩
  rw [h.home]
  exact hb.home

theorem Holds.grows {t o le : String} {id : Int} (h : Holds D I t o le id s)
    (hg : EngineGrows s u) : Holds D I t o le id u := by
  obtain ⟨r, hr, rfl, hown⟩ := h
  obtain ⟨q, hq, hsame⟩ := hg r hr
  exact ⟨q, hq, hsame.id, hown.same hsame⟩

theorem SeparateGuard.written {e : Eff} {k : Key} (h : SeparateGuard D I w e s)
    (hk : e.written = some k) : Written k := by
  cases e with
  | insert l row =>
    obtain rfl := Option.some.inj hk
    cases l with
    | execution t o => exact ⟨fun _ h => (by cases h), fun _ _ h => (by cases h)⟩
    | _ => exact (h _ rfl).1
  | query _ _ _ => cases hk
  | getRecord _ _ _ => cases hk
  | updateRecord _ _ _ => cases hk
  | createRecord _ _ => cases hk
  | _ => exact (h k hk).1

/-- An order that is shown to a session of its client is of the session's tenant. -/
theorem Separate.own (h : Separate D I s) (hapart : Apart D I) {t o le : String} {σ : Session}
    {r : EngineRecord} (hr : r ∈ s.engine) (hlookup : r.fields.lookup = some (.cOrder, o))
    (hinput : I.order t o le) (hsigns : I.Signs D t le σ) (hclient : SameClient r.home σ) :
    ∀ tk, r.creator = some tk → tk.tenant = some t := by
  intro tk htk
  obtain ⟨t', le', ht', hinput', hsigns'⟩ := h.created r hr tk o htk hlookup
  rw [ht', hapart t' t o le' le r.home σ hinput' hinput hsigns' hsigns hclient]

/-- **What a guarded call shows.** -/
theorem Separate.shown {e : Eff} {a : Access} (h : Separate D I s) (hscope : Scoped D)
    (hapart : Apart D I) (hg : SeparateGuard D I w e s) (ha : Shown D w e s a) :
    ShownToOwner a := by
  intro r hwhat htable tk htk
  rcases ha.what with ⟨k, d, -, -, -, hk⟩ | ⟨q, hq, hshows, hcreator, hrec⟩
  · rw [hk] at hwhat
    cases hwhat
  obtain rfl := Resource.record.inj (hrec.symm.trans hwhat)
  rw [hcreator] at htk
  cases e with
  | query σ table value =>
    obtain ⟨hlookup, hsees⟩ := Bool.and_eq_true_iff.1 hshows
    have hlookup := beq_iff_eq.1 hlookup
    cases table with
    | cOrder =>
      obtain ⟨reader, t, le, hcur, ht, hinput, hsigns⟩ := hg
      refine ⟨reader, ha.reader.trans hcur, ?_⟩
      rw [ht, h.own hapart hq hlookup hinput hsigns (hscope σ q hsees) tk htk]
    | cBPartner =>
      rw [Fields.table_of_partner hlookup] at htable
      exact absurd htable (by decide)
  | getRecord σ table id =>
    obtain ⟨hq', -⟩ := Bool.and_eq_true_iff.1 hshows
    exact absurd ((beq_iff_eq.1 (Bool.and_eq_true_iff.1 hq').2).symm.trans htable) hg
  | updateRecord σ id fields =>
    obtain ⟨hq', -⟩ := Bool.and_eq_true_iff.1 hshows
    exact absurd ((beq_iff_eq.1 (Bool.and_eq_true_iff.1 hq').2).symm.trans htable) hg
  | _ => cases hshows

/-- **A guarded call keeps the tenants apart.** -/
theorem Separate.exec {e : Eff} {r : Except Exc (Ans e)} (h : Separate D I s) (hscope : Scoped D)
    (hapart : Apart D I) (hg : SeparateGuard D I w e s) (he : exec D w e c s = some (r, u)) :
    Separate D I u := by
  refine ⟨h.within.exec (fun k hk => hg.written hk) he, exec_distinct he h.distinct, ?_, ?_, ?_⟩
  · intro q hq tk o htk hlookup
    rcases exec_engine he with ⟨f, hu, hf⟩ | ⟨σ, fields, rfl, hu⟩
    · rw [hu] at hq
      obtain ⟨p, hp, rfl⟩ := List.mem_map.1 hq
      rw [(hf p).home]
      exact h.created p hp tk o ((hf p).creator ▸ htk) ((hf p).lookup ▸ hlookup)
    · rw [hu] at hq
      rcases List.mem_cons.1 hq with rfl | hq
      · obtain ⟨tk', t, le, hcur, ht, hinput, hsigns⟩ := hg o hlookup
        obtain rfl := Option.some.inj (hcur.symm.trans htk)
        exact ⟨t, le, ht, hinput, hsigns⟩
      · exact h.created q hq tk o htk hlookup
  · intro t o d hd
    have hold : s.Version (.execution t o) d → Holds D I t o (d.row : ExecutionRow).legalEntityId
        (d.row : ExecutionRow).nativeId u :=
      fun hd => (h.executions t o d hd).grows (exec_engineGrows he)
    by_cases hw : e.written = some (.execution t o)
    · cases e with
      | insert l row =>
        obtain rfl := Option.some.inj hw
        rcases exec_insert_version he (fun _ hk => by cases hk) hd with ⟨hrow, -⟩ | hd
        · rw [hrow]
          exact (hg c.defaults).grows (exec_engineGrows he)
        · exact hold hd
      | query _ _ _ => cases hw
      | getRecord _ _ _ => cases hw
      | updateRecord _ _ _ => cases hw
      | createRecord _ _ => cases hw
      | _ => exact absurd rfl ((hg _ hw).2 t o)
    · exact hold (exec_version he (fun _ hk => by cases hk) (fun _ hk => by cases hk) hw hd)
  · exact fun a ha => (exec_accesses he a ha).elim (h.accesses a) (h.shown hscope hapart hg)

theorem Separate.close (h : Separate D I s) (w : Worker) : Separate D I (World.close w s) :=
  ⟨h.within.close w, h.distinct, h.created,
    fun t o d hd => h.executions t o d (hd.of_rollback rfl), h.accesses⟩

theorem Separate.env {a : Env} (h : Separate D I s) (ha : I.Admits a) (he : env a s = some u) :
    Separate D I u := by
  refine ⟨h.within.env ha he, env_distinct he h.distinct, ?_, fun t o d hd => ?_, ?_⟩
  · intro q hq tk o htk hlookup
    obtain ⟨-, -, -, ⟨hen, -⟩ | ⟨p, -, -, -, hen⟩⟩ := env_cases he
    · exact h.created q (hen ▸ hq) tk o htk hlookup
    · rw [hen] at hq
      rcases List.mem_cons.1 hq with rfl | hq
      · cases htk
      · exact h.created q hq tk o htk hlookup
  · rcases env_version he hd with hd | ⟨_, _, _, _, _, _, _, -, hid, -⟩ | ⟨_, _, _, -, hid, -⟩ |
      ⟨_, _, _, _, _, -, hid, -⟩
    · exact (h.executions t o d hd).grows (env_engineGrows he)
    · cases hid
    · cases hid
    · cases hid
  · rw [(env_cases he).2.2.1]
    exact h.accesses

end

/-- The protocol of the tenants' orders. -/
def separate (D : Deployment) (I : Inputs) (hscope : Scoped D) (hapart : Apart D I) :
    Protocol (machine D) where
  Inv := Separate D I
  Guard := SeparateGuard D I
  EnvOk a _ := I.Admits a
  inv_exec h hg he := Separate.exec (D := D) h hscope hapart hg he
  inv_close h := Separate.close h _
  inv_env h ha he := Separate.env h ha he

/-! ### The walk -/

section Walk

variable {D : Deployment} {I : Inputs} {hscope : Scoped D} {hapart : Apart D I} {w : Worker}
  {claim : Claim} {s : World} {t o le : String} {ids : List Int}

theorem SeparateGuard.of_reads {e : Eff} (he : e.reads = true) (hl : e.looks = false) :
    SeparateGuard D I w e s := by
  cases e with
  | query _ _ _ => cases hl
  | getRecord σ table id => exact ne_of_beq_false (Bool.or_eq_false_iff.1 hl).1
  | insert _ _ => cases he
  | updateRecord _ _ _ => cases he
  | createRecord _ _ => cases he
  | select _ => exact fun _ hk => by cases hk
  | _ => first | cases he; done | exact fun _ hk => by cases hk

theorem SeparateGuard.of_records {e : Eff} (he : e.records = true) (hl : e.links = false) :
    SeparateGuard D I w e s := by
  have hother : ∀ k, e.written = some k → Written k ∧ ∀ t o, k ≠ .execution t o := by
    intro k hk
    refine ⟨(e.written_of_records he hk).1, ?_⟩
    rintro t o rfl
    obtain ⟨row, rfl⟩ := (e.written_of_records he hk).2 ⟨t, o, .inl rfl⟩
    cases hl
  cases e with
  | insert k row =>
    cases k with
    | execution t o => cases hl
    | _ => exact hother
  | query _ _ _ => cases he
  | getRecord _ _ _ => cases he
  | updateRecord _ _ _ => cases he
  | createRecord _ _ => cases he
  | _ => exact hother

/-- The engine holds an own order with each of these ids. -/
def known (w : Worker) (claim : Claim) (t o le : String) (ids : List Int) :
    (separate D I hscope hapart).Assertion w :=
  (executing I w orderPlaced claim).and ⟨fun s => ∀ id ∈ ids, Holds D I t o le id s,
    fun _ _ h hA id hid => (hA id hid).grows (other_engineGrows h)⟩

/-- What is known of the engine stays known. -/
theorem known_keeps {e : Eff} (hg : ∀ s : World, (∀ id ∈ ids, Holds D I t o le id s) →
    SeparateGuard D I w e s) (hclaim : ∀ ty lease, e ≠ .claim ty lease) :
    Keeps (known w claim t o le ids : (separate D I hscope hapart).Assertion w) _ (.perform e) := by
  refine call_keeps (fun s _ hA => hg s hA.2) fun c s u r _ _ hA hex => ?_
  obtain ⟨⟨ty, lease, rfl⟩ | hc, -⟩ := exec_session hex
  · exact absurd rfl (hclaim ty lease)
  · exact ⟨⟨hA.1.1, (congrFun hc w).trans hA.1.2⟩,
      fun id hid => (hA.2 id hid).grows (exec_engineGrows hex)⟩

theorem reads_known (e : Eff) (he : e.reads = true) (hl : e.looks = false) :
    Keeps (known w claim t o le ids : (separate D I hscope hapart).Assertion w) _ (.perform e) :=
  known_keeps (fun _ _ => .of_reads he hl) (by rintro _ _ rfl; cases he)

theorem records_known (e : Eff) (he : e.records = true) (hl : e.links = false) :
    Keeps (known w claim t o le ids : (separate D I hscope hapart).Assertion w) _ (.perform e) :=
  known_keeps (fun _ _ => .of_records he hl) (by rintro _ _ rfl; cases he)

theorem settle_known (st : Settlement) :
    Keeps (known w claim t o le ids : (separate D I hscope hapart).Assertion w) _
      (Call.settle claim st) :=
  known_keeps (fun _ _ _ hk => by cases hk) fun _ _ h => by cases h

theorem select_known (k : Key) :
    Keeps (known w claim t o le ids : (separate D I hscope hapart).Assertion w) _
      (Call.select k) :=
  known_keeps (fun _ _ _ hk => by cases hk) fun _ _ h => by cases h

/-- **The lookup by POReference finds own orders only.** -/
theorem query_known {σ : Session} (ht : claim.tenantId = some t) (hinput : I.order t o le)
    (hsigns : I.Signs D t le σ) :
    (separate D I hscope hapart).Triple w (known w claim t o le []) (Call.query σ .cOrder o)
      (.ends (known w claim t o le) (known w claim t o le [])) := by
  refine call_triple (fun s _ hA => ⟨claim.ticket, t, le, hA.1.2, ht, hinput, hsigns⟩)
    fun c s u r hs _ hA _ hex => ?_
  have hs : Separate D I s := hs
  rcases exec_query hex with ⟨⟨x, rfl⟩, rfl⟩ | ⟨found, hfound, rfl, rfl⟩
  · exact hA
  · refine ⟨hA.1, fun id hid => ?_⟩
    obtain ⟨q, hq, rfl⟩ := List.mem_map.1 hid
    rw [hfound, List.mem_filter] at hq
    obtain ⟨hlookup, hsees⟩ := Bool.and_eq_true_iff.1 hq.2
    have hclient := hscope σ q hsees
    exact ⟨q, hq.1, rfl, hinput, beq_iff_eq.1 hlookup, ⟨σ, hsigns, hclient⟩,
      hs.own hapart hq.1 (beq_iff_eq.1 hlookup) hinput hsigns hclient⟩

/-- The order an attempt creates is its own. -/
theorem create_known {σ : Session} {fields : Fields} (ht : claim.tenantId = some t)
    (hlookup : fields.lookup = some (.cOrder, o)) (hinput : I.order t o le)
    (hsigns : I.Signs D t le σ) :
    (separate D I hscope hapart).Triple w (known w claim t o le []) (Call.createRecord σ fields)
      (.ends (fun id => known w claim t o le [id]) (known w claim t o le [])) := by
  refine call_triple (fun s _ hA o' ho' => ?_) fun c s u r hs _ hA _ hex => ?_
  · obtain rfl := congrArg Prod.snd (Option.some.inj (hlookup.symm.trans ho'))
    exact ⟨claim.ticket, t, le, hA.1.2, ht, hinput, hsigns⟩
  · have hcur : u.current w = some claim.ticket := by
      obtain ⟨⟨_, _, he⟩ | hc, -⟩ := exec_session hex
      · cases he
      · exact (congrFun hc w).trans hA.1.2
    cases r with
    | error x => exact ⟨⟨hA.1.1, hcur⟩, fun _ h => absurd h List.not_mem_nil⟩
    | ok id =>
      rcases (exec_createRecord hex).2 with ⟨rfl, hid⟩ | ⟨⟨x, hx⟩, -⟩
      · refine ⟨⟨hA.1.1, hcur⟩, fun id' hid' => ?_⟩
        obtain rfl := List.mem_singleton.1 hid'
        refine ⟨⟨c.id, σ, fields, s.current w⟩, List.mem_cons_self, (hid _ rfl).symm, hinput,
          hlookup, ⟨σ, hsigns, rfl, rfl⟩, fun tk htk => ?_⟩
        obtain rfl := Option.some.inj (hA.1.2.symm.trans htk)
        exact ht
      · cases hx

/-- **An attempt finds or creates an own order.** -/
theorem lookupOrCreate_known {σ : Session} {order : PlacedOrder} (ht : claim.tenantId = some t)
    (hinput : I.order t order.commerceOrderId order.legalEntityId)
    (hsigns : I.Signs D t order.legalEntityId σ) (customer : Int) (products : List Int) :
    (separate D I hscope hapart).Triple w
      (known w claim t order.commerceOrderId order.legalEntityId [])
      (lookupOrCreate σ order customer products)
      (.ends (fun a => known w claim t order.commerceOrderId order.legalEntityId [a.1])
        (known w claim t order.commerceOrderId order.legalEntityId [])) := by
  have hweaken : ∀ (ids : List Int) (s : World),
      (known w claim t order.commerceOrderId order.legalEntityId ids :
        (separate D I hscope hapart).Assertion w).holds s →
      (known w claim t order.commerceOrderId order.legalEntityId [] :
        (separate D I hscope hapart).Assertion w).holds s :=
    fun ids s h => ⟨h.1, fun _ h => absurd h List.not_mem_nil⟩
  refine (query_known ht hinput hsigns).bind (fun ids => ?_) fun _ _ _ h => h
  cases ids with
  | nil =>
    refine (verifyUnits_closed closed_keeps reads_known products).bind (fun _ => ?_) fun _ _ _ h => h
    exact (create_known ht rfl hinput hsigns).bind (fun id => .pure fun _ _ h => h)
      fun _ _ _ h => h
  | cons id rest =>
    cases rest with
    | nil => exact .pure fun _ _ h => h
    | cons _ _ => exact .throw fun s _ h => hweaken _ s h

/-- **The region under an order's lock.** -/
theorem executeLocked_known {placement : TenantMappingRow} {engineInstance : String}
    {order : PlacedOrder} (ht : claim.tenantId = some t)
    (hinput : I.order t order.commerceOrderId order.legalEntityId)
    (hplace : I.place t order.legalEntityId placement)
    (authority : Option InboxNativeAuthority) (held : Bool) :
    Keeps (known w claim t order.commerceOrderId order.legalEntityId [] :
      (separate D I hscope hapart).Assertion w) _
      (executeLocked D claim authority t engineInstance placement order held) := by
  refine executeLocked_closed closed_keeps reads_known (executeNew_triple
    (Q := fun a => known w claim t order.commerceOrderId order.legalEntityId [a.1])
    (fun _ _ => select_known _) (fun σ scope customer products hσ => ?_) fun nativeId adopted => ?_)
    held
  · exact nativeOrder_triple (fun _ => reads_known (.assess _) rfl rfl)
      (lookupOrCreate_known ht hinput ⟨placement, hplace, hσ⟩ customer products)
  · have hrecord : Keeps (known w claim t order.commerceOrderId order.legalEntityId [nativeId] :
        (separate D I hscope hapart).Assertion w) _
        (record D claim t order nativeId adopted) := by
      refine record_closed closed_keeps reads_known (fun e he hl => ?_) settle_known
        fun row hrow => ?_
      · exact records_known e he (Eff.links_of_ties hl)
      · refine known_keeps (fun s hA d => ?_) fun _ _ h => by cases h
        rw [(hrow d).1, (hrow d).2]
        exact hA nativeId List.mem_cons_self
    exact hrecord.post fun _ s _ h => ⟨h.1, fun _ h => absurd h List.not_mem_nil⟩

/-- A guarded call of a worker of which nothing else is known. -/
theorem free_keeps {e : Eff} (hg : ∀ s, SeparateGuard D I w e s) :
    Keeps (.const True : (separate D I hscope hapart).Assertion w) _ (.perform e) :=
  call_keeps (fun s _ _ => hg s) fun _ _ _ _ _ _ _ _ => trivial

theorem reads_free (e : Eff) (he : e.reads = true) (hl : e.looks = false) :
    Keeps (.const True : (separate D I hscope hapart).Assertion w) _ (.perform e) :=
  free_keeps fun _ => .of_reads he hl

theorem settle_free (st : Settlement) :
    Keeps (.const True : (separate D I hscope hapart).Assertion w) _ (Call.settle claim st) :=
  free_keeps fun _ _ hk => by cases hk

/-- **An attempt at an order row.** -/
theorem order_separate (authority : Option InboxNativeAuthority) :
    (separate D I hscope hapart).Triple w (executing I w orderPlaced claim)
      (runClaim D claim authority) fun _ => .const True := by
  have hselect : ∀ (s : World) tenant le,
      SeparateGuard D I w (.select (.tenantMapping tenant le)) s := fun _ _ _ => .of_reads rfl rfl
  refine settle_triple (order_execute_triple (fun s hs => Separate.within hs) hselect ?_)
    (settleOutcome_closed closed_keeps reads_free settle_free)
    (settleException_closed closed_keeps reads_free settle_free)
  intro t engineInstance placement order ht _ hinput hplace _
  have hlock : Keeps (known w claim t order.commerceOrderId order.legalEntityId [] :
      (separate D I hscope hapart).Assertion w) _
      (withLock (lockKey t order.commerceOrderId)
        (executeLocked D claim authority t engineInstance placement order)) :=
    withLock_closed closed_keeps reads_known
      (known_keeps (fun _ _ _ hk => by cases hk) fun _ _ h => by cases h)
      (known_keeps (fun _ _ _ hk => by cases hk) fun _ _ h => by cases h)
      (executeLocked_known ht hinput hplace authority)
  exact hlock.conseq (fun s _ h => ⟨h, fun _ h => absurd h List.not_mem_nil⟩) fun _ _ _ _ => trivial

/-- An attempt at a customer row touches no order. -/
theorem customer_separate :
    Keeps (.const True : (separate D I hscope hapart).Assertion w) _
      (CustomerExecution.runClaim D claim) := by
  refine CustomerExecution.runClaim_closed closed_keeps reads_free
    (fun e he hl => free_keeps fun _ => .of_records he ?_) settle_free
    (fun e he hl => free_keeps fun _ => .of_records (Eff.records_of_ties he) hl)
    (fun _ => free_keeps fun _ _ hk => by cases hk) (fun _ => free_keeps fun _ _ hk => by cases hk)
    (fun _ _ _ _ => free_keeps fun _ _ hk => by cases hk)
    (fun _ _ => free_keeps fun _ _ hk => by cases hk)
    (fun _ _ => free_keeps fun _ => (by decide : "C_BPartner" ≠ "C_Order"))
    (fun _ _ _ => free_keeps fun _ => (by decide : "C_BPartner" ≠ "C_Order"))
    (fun _ fields => free_keeps fun _ o ho => ?_)
  · exact Eff.links_of_ties hl
  · obtain ⟨_, _, he⟩ := Option.map_eq_some_iff.1 ho
    cases he

theorem separate_envOk {a : (machine D).Env} {q : (machine D).Pool}
    (h : ∀ b, Machine.Action.env (M := machine D) a = .env b → I.Admits b) :
    (separate D I hscope hapart).EnvOk a q.state := h a rfl

/-- **Every worker keeps the tenants' orders apart.** -/
def separateVerified (D : Deployment) (I : Inputs) (hscope : Scoped D) (hapart : Apart D I) :
    (separate D I hscope hapart).Verified fun a _ => ∀ b, a = .env b → I.Admits b where
  idle _ := .const True
  envOk := separate_envOk
  close _ := trivial
  main w launch := by
    have hreads : ∀ claim, ∀ e : Eff, e.reads = true → e.looks = false → Keeps
        (executing I w orderPlaced claim : (separate D I hscope hapart).Assertion w) _
        (.perform e) := fun claim e he hl =>
      executing_keeps (fun _ _ _ => SeparateGuard.of_reads he hl) (by rintro _ _ rfl; cases he)
    exact main_triple (W := executing I w)
      (claim_executing (fun s hs => Separate.within hs) fun _ _ _ _ hk => by cases hk)
      (fun claim => authority_closed closed_keeps (hreads claim) _)
      (fun claim authority => order_separate authority)
      (fun claim => customer_separate.pre fun _ _ _ => trivial)
      (reads_free .commit rfl rfl) (reads_free .rollback rfl rfl) fun _ _ _ _ _ => trivial

end Walk

/-! ### Every run -/

/-- The engine order an execution row names: an installation and an id. -/
def Records (D : Deployment) (I : Inputs) (s : World) (t o : String) (native : String × Int) : Prop :=
  ∃ c : Cell (.execution t o), s.store.committed (.execution t o) = some c ∧
    ∃ σ, I.Signs D t (c.row : ExecutionRow).legalEntityId σ ∧
      native = (σ.baseUrl, (c.row : ExecutionRow).nativeId)

/-- **Isolation of the tenants' engine orders.** -/
structure Isolated (D : Deployment) (I : Inputs) (s : World) : Prop where
  /-- Executions of different orders record different engine orders. -/
  unshared : ∀ t o t' o' native, Records D I s t o native → Records D I s t' o' native →
    t = t' ∧ o = o'
  /-- No execution records an order that was created for another tenant. -/
  recorded : ∀ t o native, Records D I s t o native → ∀ r ∈ s.engine, r.fields.table = "C_Order" →
    (r.home.baseUrl, r.id) = native → ∀ tk, r.creator = some tk → tk.tenant = some t
  /-- No execution is shown one. -/
  shown : ∀ a ∈ s.accesses, ShownToOwner a

/-- **The tenants' engine orders are isolated where order ids are.** In every run
of any number of inbox workers over a fixed set of placements: if no two tenants
use one order id in one client, no two executions record the same engine order,
and no execution is shown, let alone adopts, an order that was created for an
event of another tenant. -/
theorem tenants_isolated {D : Deployment} {I : Inputs} {p : (machine D).Pool} (hscope : Scoped D)
    (hfixed : ∀ t le p q, I.place t le p → I.place t le q → p = q) (hapart : Apart D I)
    (hp : Machine.Reaches (fun a _ => ∀ b, a = .env b → I.Admits b) (Machine.idle World.empty) p) :
    Isolated D I p.state := by
  have hempty : Separate D I World.empty := by
    refine ⟨.empty, List.Pairwise.nil, fun r hr => absurd hr List.not_mem_nil,
      fun t o c hc => (version_empty hc).elim, fun a ha => absurd ha List.not_mem_nil⟩
  have hsound : (separateVerified D I hscope hapart).Sound p :=
    (Protocol.Verified.sound_idle hempty fun _ => trivial).reaches hp
  have hs : Separate D I p.state := hsound.1
  -- what a row names is an own order of the engine
  have hrow : ∀ t o native, Records D I p.state t o native → ∃ le σ, ∃ r ∈ p.state.engine,
      I.Signs D t le σ ∧ SameClient r.home σ ∧ OwnOrder D I t o le r ∧
        (r.home.baseUrl, r.id) = native := by
    rintro t o native ⟨c, hc, σ, ⟨pl, hpl, hσ⟩, rfl⟩
    obtain ⟨r, hr, hid, hown⟩ := hs.executions t o c (.inl hc)
    obtain ⟨τ, ⟨pl', hpl', hτ⟩, hclient⟩ := hown.home
    obtain rfl := hfixed _ _ _ _ hpl hpl'
    obtain rfl := Option.some.inj (Except.ok.inj (hσ.symm.trans hτ))
    exact ⟨_, σ, r, hr, ⟨pl, hpl, hσ⟩, hclient, hown, by rw [hclient.1, hid]⟩
  have hsame : ∀ a b : EngineRecord, a ∈ p.state.engine → b ∈ p.state.engine →
      a.fields.table = "C_Order" → b.fields.table = "C_Order" →
      (a.home.baseUrl, a.id) = (b.home.baseUrl, b.id) → a = b := fun a b ha hb hat hbt hab =>
    hs.distinct.eq ha hb (Prod.mk.inj hab).1 (hat.trans hbt.symm) (Prod.mk.inj hab).2
  refine ⟨fun t o t' o' native h h' => ?_, fun t o native h r hr htable hid tk htk => ?_, hs.accesses⟩
  · obtain ⟨le, σ, r, hr, hsigns, hclient, hown, rfl⟩ := hrow t o native h
    obtain ⟨le', σ', r', hr', hsigns', hclient', hown', hid⟩ := hrow t' o' _ h'
    obtain rfl := hsame r' r hr' hr (Fields.table_of_order hown'.lookup)
      (Fields.table_of_order hown.lookup) hid
    obtain rfl := congrArg Prod.snd (Option.some.inj (hown.lookup.symm.trans hown'.lookup))
    refine ⟨hapart t t' o le le' σ σ' hown.input hown'.input hsigns hsigns' ?_, rfl⟩
    exact ⟨hclient.1.symm.trans hclient'.1, hclient.2.symm.trans hclient'.2⟩
  · obtain ⟨le, σ, r', hr', -, -, hown, rfl⟩ := hrow t o native h
    obtain rfl := hsame r r' hr hr' htable (Fields.table_of_order hown.lookup) hid
    exact hown.creator tk htk

/-! ### Two tenants with one order id -/

/-- Any events, and one placement for each of two tenants. -/
def twoPlacements (acme beta : TenantMappingRow) : Inputs where
  order _ _ _ := True
  customer _ _ _ := True
  place t le row := (t = "tn_acme" ∧ le = "NABH" ∧ row = acme) ∨
    (t = "tn_beta" ∧ le = "NABX" ∧ row = beta)

/-- Both tenants place an order with the id `order-1`, and the first is executed. -/
def firstOrder (acme beta : TenantMappingRow) : List (machine oneEngine).Action :=
  [.env (.remap "tn_acme" "NABH" (some acme)), .env (.remap "tn_beta" "NABX" (some beta)),
   .env (.bootstrap "engine-1" "NABH" customerKind "customer-1" ⟨501, "", "1", "erp_0001"⟩),
   .env (.bootstrap "engine-1" "NABH" productKind "sku-1" ⟨601, "", "1", "erp_0002"⟩),
   .env (.bootstrap "engine-1" "NABX" customerKind "customer-1" ⟨502, "", "1", "erp_0003"⟩),
   .env (.bootstrap "engine-1" "NABX" productKind "sku-1" ⟨602, "", "1", "erp_0004"⟩),
   .env (.receive 1 "event-1" orderPlaced (some "tn_acme")
      (PlacedOrder.sampleData "NABH" "order-1") none 0),
   .env (.receive 2 "event-2" orderPlaced (some "tn_beta")
      (PlacedOrder.sampleData "NABX" "order-1") none 0),
   .launch "a" ⟨1, 10, false⟩, .call "a" {}, .call "a" { row := some 1 }] ++
  List.replicate 8 (.call "a" {}) ++
  [.call "a" { members := [("C_UOM_ID", .int 100)] },
   .call "a" { members := [("X12DE355", .str "EA")] }, .call "a" { id := 7000 }] ++
  List.replicate 7 (.call "a" {}) ++
  [.launch "b" ⟨1, 10, false⟩, .call "b" {}, .call "b" { row := some 2 }] ++
  List.replicate 8 (.call "b" {})

/-- The second tenant's execution finds the first one's order. -/
def takenOver : List (machine oneEngine).Action :=
  firstOrder ⟨11, 0, some "engine-1"⟩ ⟨11, 11, some "engine-1"⟩ ++ List.replicate 7 (.call "b" {})

/-- The second tenant is placed in another client: its execution finds nothing. -/
def eachItsOwn : List (machine oneEngine).Action :=
  firstOrder ⟨11, 11, some "engine-1"⟩ ⟨12, 12, some "engine-1"⟩ ++
    [.call "b" { members := [("C_UOM_ID", .int 100)] },
     .call "b" { members := [("X12DE355", .str "EA")] }, .call "b" { id := 7001 }] ++
    List.replicate 7 (.call "b" {})

/-- The engine order of an execution row, as the row has it. -/
def recordedOrder (s : World) (t o : String) : Option (String × Int) :=
  (s.store.committed (.execution t o)).map fun c =>
    ((c.row : ExecutionRow).legalEntityId, (c.row : ExecutionRow).nativeId)

theorem records_of_recordedOrder {D : Deployment} {I : Inputs} {s : World} {t o le : String}
    {id : Int} {σ : Session} (h : recordedOrder s t o = some (le, id)) (hσ : I.Signs D t le σ) :
    Records D I s t o (σ.baseUrl, id) := by
  obtain ⟨c, hc, he⟩ := Option.map_eq_some_iff.1 h
  obtain ⟨rfl, rfl⟩ := Prod.mk.inj he
  exact ⟨c, hc, σ, hσ, rfl⟩

/-- **An order is taken over.** One mapping sits at AD_Org 0 of the client that
the other tenant is placed in.  Both executions record the engine order that was
created for the first tenant. -/
theorem order_taken_over :
    (twoPlacements ⟨11, 0, some "engine-1"⟩ ⟨11, 11, some "engine-1"⟩).Admissible ∧
      ∃ p, Machine.run takenOver (Machine.idle World.empty) = some p ∧
        ¬ Isolated oneEngine (twoPlacements ⟨11, 0, some "engine-1"⟩ ⟨11, 11, some "engine-1"⟩)
          p.state := by
  refine ⟨⟨?_, ?_⟩, ?_⟩
  · rintro t le p q (⟨rfl, rfl, rfl⟩ | ⟨rfl, rfl, rfl⟩) (⟨h, -, rfl⟩ | ⟨h, -, rfl⟩) <;>
      first | rfl | exact absurd h (by decide)
  · rintro t le t' le' p q (⟨rfl, rfl, rfl⟩ | ⟨rfl, rfl, rfl⟩) (⟨rfl, rfl, rfl⟩ | ⟨rfl, rfl, rfl⟩)
      - h <;> first | exact ⟨rfl, rfl⟩ | exact absurd h (by decide)
  · have hrun : (Machine.run takenOver (Machine.idle World.empty)).map (fun p =>
        (recordedOrder p.state "tn_acme" "order-1", recordedOrder p.state "tn_beta" "order-1")) =
        some (some ("NABH", 7000), some ("NABX", 7000)) := by decide +kernel
    obtain ⟨p, hp, hend⟩ := Option.map_eq_some_iff.1 hrun
    refine ⟨p, hp, fun h => ?_⟩
    have hacme := records_of_recordedOrder (D := oneEngine) (congrArg Prod.fst hend)
      (I := twoPlacements ⟨11, 0, some "engine-1"⟩ ⟨11, 11, some "engine-1"⟩)
      ⟨_, .inl ⟨rfl, rfl, rfl⟩, rfl⟩
    have hbeta := records_of_recordedOrder (D := oneEngine) (congrArg Prod.snd hend)
      (I := twoPlacements ⟨11, 0, some "engine-1"⟩ ⟨11, 11, some "engine-1"⟩)
      ⟨_, .inr ⟨rfl, rfl, rfl⟩, rfl⟩
    exact absurd (h.unshared _ _ _ _ _ hacme hbeta).1 (by decide)

/-- In two clients, both executions create an order of their own. -/
theorem tenants_isolated_in_two_clients :
    ∃ p, Machine.run eachItsOwn (Machine.idle World.empty) = some p ∧
      Isolated oneEngine (twoPlacements ⟨11, 11, some "engine-1"⟩ ⟨12, 12, some "engine-1"⟩)
        p.state ∧
      recordedOrder p.state "tn_acme" "order-1" = some ("NABH", 7000) ∧
      recordedOrder p.state "tn_beta" "order-1" = some ("NABX", 7001) := by
  have hrun : (Machine.run eachItsOwn (Machine.idle World.empty)).map (fun p =>
      (recordedOrder p.state "tn_acme" "order-1", recordedOrder p.state "tn_beta" "order-1")) =
      some (some ("NABH", 7000), some ("NABX", 7001)) := by decide +kernel
  obtain ⟨p, hp, hend⟩ := Option.map_eq_some_iff.1 hrun
  have hsigns : ∀ {t le σ}, (twoPlacements ⟨11, 11, some "engine-1"⟩
      ⟨12, 12, some "engine-1"⟩).Signs oneEngine t le σ →
        (t = "tn_acme" ∧ σ.clientId = 11) ∨ (t = "tn_beta" ∧ σ.clientId = 12) := by
    rintro t le σ ⟨q, ⟨rfl, rfl, rfl⟩ | ⟨rfl, rfl, rfl⟩, hσ⟩
    · obtain rfl := Option.some.inj (Except.ok.inj hσ)
      exact .inl ⟨rfl, rfl⟩
    · obtain rfl := Option.some.inj (Except.ok.inj hσ)
      exact .inr ⟨rfl, rfl⟩
  refine ⟨p, hp, tenants_isolated oneEngine_scoped ?_ ?_ (Machine.reaches_of_run ?_ hp),
    congrArg Prod.fst hend, congrArg Prod.snd hend⟩
  · rintro t le p q (⟨rfl, rfl, rfl⟩ | ⟨rfl, rfl, rfl⟩) (⟨h, -, rfl⟩ | ⟨h, -, rfl⟩) <;>
      first | rfl | exact absurd h (by decide)
  · intro t t' o le le' σ τ _ _ h h' hclient
    rcases hsigns h with ⟨rfl, hσ⟩ | ⟨rfl, hσ⟩ <;> rcases hsigns h' with ⟨rfl, hτ⟩ | ⟨rfl, hτ⟩
    · rfl
    · exact absurd (hσ.symm.trans (hclient.2.trans hτ)) (by decide)
    · exact absurd (hσ.symm.trans (hclient.2.trans hτ)) (by decide)
    · rfl
  · rintro a ha q b rfl
    unfold eachItsOwn firstOrder at ha
    simp only [List.cons_append, List.nil_append, List.append_assoc, List.mem_cons, List.mem_append,
      List.mem_replicate, Machine.Action.env.injEq, reduceCtorEq, and_false, or_false] at ha
    rcases ha with rfl | rfl | rfl | rfl | rfl | rfl | rfl | rfl
    · exact fun r hr => .inl ⟨rfl, rfl, (Option.some.inj hr).symm⟩
    · exact fun r hr => .inr ⟨rfl, rfl, (Option.some.inj hr).symm⟩
    · trivial
    · trivial
    · trivial
    · trivial
    · exact ⟨fun _ _ _ _ _ => trivial, fun h => absurd h (by decide)⟩
    · exact ⟨fun _ _ _ _ _ => trivial, fun h => absurd h (by decide)⟩

end OrderExecution
end BaobabErp
