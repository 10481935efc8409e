/-
# One engine order for one Trade order

`modules/order_to_cash/inbox_execution.py`: the engine write and ERP's own
transaction are two steps, and a worker can die, lose its lease or be refused
between them.  What keeps a Trade order from being created twice is the order's
session lock, held from before the lookup by POReference until after the record,
and the lookup itself, which finds whatever an earlier attempt left behind.

`single` is the argument as a protocol: a session may create the order only
while it holds the order's lock and the engine holds no such order
(`SingleGuard`).  Nothing is assumed of the attempts before: replays, expired
leases, claims settled or lost at any point.
-/

import BaobabErp.Inbox.Inputs

namespace BaobabErp
namespace OrderExecution

open Python Concurrency World ExecutionPolicy Inbox InboxWorker
open Concurrency.Protocol (Keeps closed_keeps)

/-- The record is the order `o` and was created in the execution of an event of tenant `t`. -/
def createdFor (t o : String) (r : EngineRecord) : Bool :=
  r.fields.lookup == some (.cOrder, o) && r.creator.any fun tk => tk.tenant == some t

/-- The placements of the Trade order sign in as `σ`, or not at all. -/
def Placed (D : Deployment) (I : Inputs) (t o : String) (σ : Session) : Prop :=
  ∀ le τ, I.order t o le → I.Signs D t le τ → τ = σ

/-- **At most one order.** -/
structure Single (I : Inputs) (t o : String) (σ : Session) (s : World) : Prop where
  within : I.Within s
  home : ∀ r ∈ s.engine, createdFor t o r = true → r.home = σ
  once : s.engine.countP (createdFor t o) ≤ 1
  execution : InsertOnly s (.execution t o)
  consequence : InsertOnly s (.consequence t o)

/-- `w` holds the session lock `key`. -/
def Locked (D : Deployment) (w : Worker) (key : String) (s : World) : Prop :=
  ∃ n, s.locks (D.hashes.hashtext key) = some (w, n)

/-- The engine holds no order created for the Trade order. -/
def Uncreated (t o : String) (s : World) : Prop := ∀ r ∈ s.engine, createdFor t o r = false

/-- **When a call is safe.** -/
def SingleGuard (D : Deployment) (t o : String) (σ : Session) (w : Worker) (e : Eff) (s : World) :
    Prop :=
  match e with
  | .createRecord τ fields => ∀ tk, s.current w = some tk → tk.tenant = some t →
      fields.lookup = some (.cOrder, o) →
        τ = σ ∧ Locked D w (lockKey t o) s ∧ Uncreated t o s
  | .insert k _ => Written k
  | e => ∀ k, e.written = some k → Written k ∧ k ≠ .execution t o ∧ k ≠ .consequence t o

section

variable {I : Inputs} {D : Deployment} {t o : String} {σ : Session} {s u : World} {w : Worker}
  {c : Choice}

theorem createdFor_iff {r : EngineRecord} : createdFor t o r = true ↔
    r.fields.lookup = some (.cOrder, o) ∧ ∃ tk, r.creator = some tk ∧ tk.tenant = some t := by
  unfold createdFor
  rw [Bool.and_eq_true, beq_iff_eq, Option.any_eq_true]
  refine and_congr_right fun _ => exists_congr fun tk => ?_
  rw [beq_iff_eq]

theorem createdFor_same {a b : EngineRecord} (h : SameRecord a b) :
    createdFor t o a = createdFor t o b := by
  unfold createdFor
  rw [h.lookup, h.creator]

/-- A guarded call writes none of the keys the argument rests on. -/
theorem SingleGuard.written {e : Eff} {k : Key} (h : SingleGuard D t o σ w e s)
    (hk : e.written = some k) : Written k := by
  cases e with
  | insert l row =>
    obtain rfl := Option.some.inj hk
    exact h
  | createRecord _ _ => cases hk
  | _ => exact (h k hk).1

/-- The rows of the Trade order are only ever inserted. -/
theorem SingleGuard.insert {e : Eff} {k : Key} (h : SingleGuard D t o σ w e s)
    (hk : e.written = some k) (hrow : k = .execution t o ∨ k = .consequence t o) :
    ∃ row, e = .insert k row := by
  cases e with
  | insert l row =>
    obtain rfl := Option.some.inj hk
    exact ⟨row, rfl⟩
  | createRecord _ _ => cases hk
  | _ => exact (hrow.elim (h k hk).2.1 (h k hk).2.2).elim

/-- The engine after a guarded call. -/
theorem Single.engine {e : Eff} {r : Except Exc (Ans e)} (h : Single I t o σ s)
    (hg : SingleGuard D t o σ w e s) (he : exec D w e c s = some (r, u)) :
    (∀ q ∈ u.engine, createdFor t o q = true → q.home = σ) ∧
      u.engine.countP (createdFor t o) ≤ 1 := by
  rcases exec_engine he with ⟨f, hu, hf⟩ | ⟨τ, fields, rfl, hu⟩
  · rw [hu]
    refine ⟨fun q hq hc => ?_, ?_⟩
    · obtain ⟨p, hp, rfl⟩ := List.mem_map.1 hq
      rw [(hf p).home]
      exact h.home p hp ((createdFor_same (hf p)).symm.trans hc)
    · rw [List.countP_map]
      have : (createdFor t o ∘ f) = createdFor t o := funext fun q => createdFor_same (hf q)
      rw [this]
      exact h.once
  · rw [hu]
    by_cases hnew : createdFor t o ⟨c.id, τ, fields, s.current w⟩ = true
    · -- the guard: this session holds the lock and there is no such order
      obtain ⟨hlookup, tk, hcur, htenant⟩ := createdFor_iff.1 hnew
      obtain ⟨rfl, -, hnone⟩ := hg tk hcur htenant hlookup
      refine ⟨fun q hq hc => ?_, ?_⟩
      · rcases List.mem_cons.1 hq with rfl | hq
        · rfl
        · rw [hnone q hq] at hc
          cases hc
      · have hzero : s.engine.countP (createdFor t o) = 0 :=
          List.countP_eq_zero.2 fun q hq => by rw [hnone q hq]; exact Bool.false_ne_true
        have hcount := List.countP_cons_of_pos (l := s.engine) hnew
        omega
    · refine ⟨fun q hq hc => ?_, ?_⟩
      · rcases List.mem_cons.1 hq with rfl | hq
        · exact absurd hc hnew
        · exact h.home q hq hc
      · rw [List.countP_cons_of_neg hnew]
        exact h.once

/-- **A guarded call keeps at most one order.** -/
theorem Single.exec {e : Eff} {r : Except Exc (Ans e)} (h : Single I t o σ s)
    (hg : SingleGuard D t o σ w e s) (he : exec D w e c s = some (r, u)) :
    Single I t o σ u := by
  obtain ⟨hhome, honce⟩ := h.engine hg he
  refine ⟨h.within.exec (fun k hk => hg.written hk) he, hhome, honce, ?_, ?_⟩
  · exact (exec_insertOnly he (fun _ hk => by cases hk) (fun _ hk => by cases hk)
      (fun hw => hg.insert hw (.inl rfl)) h.execution).1
  · exact (exec_insertOnly he (fun _ hk => by cases hk) (fun _ hk => by cases hk)
      (fun hw => hg.insert hw (.inr rfl)) h.consequence).1

theorem Single.close (h : Single I t o σ s) (w : Worker) :
    Single I t o σ (World.close w s) :=
  ⟨h.within.close w, h.home, h.once,
    fun v x hx => h.execution v x (Store.drop_eq_some_iff.1 hx).1,
    fun v x hx => h.consequence v x (Store.drop_eq_some_iff.1 hx).1⟩

theorem Single.env {a : Env} (h : Single I t o σ s) (ha : I.Admits a)
    (he : env a s = some u) : Single I t o σ u := by
  obtain ⟨-, -, -, hcases⟩ := env_cases he
  have hengine : (∀ q ∈ u.engine, createdFor t o q = true → q.home = σ) ∧
      u.engine.countP (createdFor t o) ≤ 1 := by
    rcases hcases with ⟨hen, -⟩ | ⟨q, -, -, -, hen⟩
    · rw [hen]
      exact ⟨h.home, h.once⟩
    · -- a record that something else created is created for no event
      have hq : ¬ createdFor t o { q with creator := none } = true := fun hc => by
        obtain ⟨-, tk, htk, -⟩ := createdFor_iff.1 hc
        cases htk
      rw [hen]
      refine ⟨fun p hp hc => ?_, ?_⟩
      · rcases List.mem_cons.1 hp with rfl | hp
        · exact absurd hc hq
        · exact h.home p hp hc
      · rw [List.countP_cons_of_neg hq]
        exact h.once
  have honly : ∀ k : Key, (∀ id, k ≠ .inbox id) → (∀ tn le, k ≠ .tenantMapping tn le) →
      (∀ ei le kind cid, k ≠ .masterData ei le kind cid) → InsertOnly s k → InsertOnly u k := by
    intro k hi hm hd hk v x hx
    obtain ⟨hpend, hcom⟩ := env_other he hi hm hd
    rw [hcom]
    exact hk v x (hpend.symm.trans hx)
  refine ⟨h.within.env ha he, hengine.1, hengine.2, ?_, ?_⟩
  · exact honly _ (fun _ hk => by cases hk) (fun _ _ hk => by cases hk)
      (fun _ _ _ _ hk => by cases hk) h.execution
  · exact honly _ (fun _ hk => by cases hk) (fun _ _ hk => by cases hk)
      (fun _ _ _ _ hk => by cases hk) h.consequence

end

/-- The protocol of one Trade order. -/
def single (D : Deployment) (I : Inputs) (t o : String) (σ : Session) :
    Protocol (machine D) where
  Inv := Single I t o σ
  Guard := SingleGuard D t o σ
  EnvOk a _ := I.Admits a
  inv_exec h hg he := Single.exec (D := D) h hg he
  inv_close h := Single.close h _
  inv_env h ha he := Single.env h ha he

/-! ### The walk -/

section Walk

variable {D : Deployment} {I : Inputs} {t o : String} {σ : Session} {w : Worker} {claim : Claim}
  {s u : World}

/-- `w` executes `claim` and holds the session lock `key`. -/
def locked (w : Worker) (claim : Claim) (key : String) : (single D I t o σ).Assertion w :=
  own (fun s => s.current w = some claim.ticket ∧ Locked D w key s)
    fun _ _ h ⟨hA, n, hn⟩ => ⟨h.current.trans hA, n, (h.locks _ _).2 hn⟩

/-- **Under the order's lock nobody else creates the order.** -/
theorem Uncreated.stable {s u : (machine D).State}
    (h : (single D I t o σ).Other w s u) (hlock : Locked D w (lockKey t o) s)
    (hnone : Uncreated t o s) : Uncreated t o u := by
  cases h with
  | @exec v e c _ r _ hv hi hg he =>
    have he : BaobabErp.exec D v e c s = some (r, u) := he
    rcases exec_engine he with ⟨f, hu, hf⟩ | ⟨τ, fields, rfl, hu⟩
    · intro q hq
      rw [hu] at hq
      obtain ⟨p, hp, rfl⟩ := List.mem_map.1 hq
      rw [createdFor_same (hf p)]
      exact hnone p hp
    · intro q hq
      rw [hu] at hq
      rcases List.mem_cons.1 hq with rfl | hq
      · by_contra hc
        obtain ⟨hlookup, tk, hcur, htenant⟩ := createdFor_iff.1 (Bool.of_not_eq_false hc)
        -- the other session would hold the lock this one holds
        obtain ⟨-, ⟨m, hm⟩, -⟩ := hg tk hcur htenant hlookup
        obtain ⟨n, hn⟩ := hlock
        exact hv (Prod.mk.inj (Option.some.inj (hm.symm.trans hn))).1
      · exact hnone q hq
  | close _ _ => exact hnone
  | env _ _ he =>
    obtain ⟨-, -, -, ⟨hen, -⟩ | ⟨q, -, -, -, hen⟩⟩ := env_cases he
    · unfold Uncreated
      rw [hen]
      exact hnone
    · intro p hp
      rw [hen] at hp
      rcases List.mem_cons.1 hp with rfl | hp
      · by_contra hc
        obtain ⟨-, tk, htk, -⟩ := createdFor_iff.1 (Bool.of_not_eq_false hc)
        cases htk
      · exact hnone p hp

/-- `w` holds the order's lock and the engine holds no such order. -/
def alone (w : Worker) (claim : Claim) : (single D I t o σ).Assertion w where
  holds s := (s.current w = some claim.ticket ∧ Locked D w (lockKey t o) s) ∧ Uncreated t o s
  stable hs ht h hA := ⟨(locked w claim (lockKey t o)).stable hs ht h hA.1,
    Uncreated.stable h hA.1.2 hA.2⟩

/-- Anything. -/
abbrev always (w : Worker) : (single D I t o σ).Assertion w := .const True

/-! #### Single calls -/

theorem SingleGuard.of_reads {e : Eff} (he : e.reads = true) : SingleGuard D t o σ w e s := by
  cases e <;> first | cases he; done | (intro k hk; cases hk)

theorem SingleGuard.of_records {e : Eff} (he : e.records = true) : SingleGuard D t o σ w e s := by
  have hwritten : ∀ k, e.written = some k → Written k := fun k hk =>
    (e.written_of_records he hk).1
  -- a statement that is no insert writes neither of the order's rows
  have hother : (∀ k row, e ≠ .insert k row) → ∀ k, e.written = some k →
      Written k ∧ k ≠ .execution t o ∧ k ≠ .consequence t o := by
    intro hinsert k hk
    refine ⟨hwritten k hk, ?_, ?_⟩
    · intro hrow
      obtain ⟨row, hrow⟩ := (e.written_of_records he hk).2 ⟨t, o, .inl hrow⟩
      exact hinsert k row hrow
    · intro hrow
      obtain ⟨row, hrow⟩ := (e.written_of_records he hk).2 ⟨t, o, .inr hrow⟩
      exact hinsert k row hrow
  cases e with
  | insert k row => exact hwritten k rfl
  | createRecord τ fields => cases he
  | _ => exact hother fun _ _ h => by cases h

/-- A call that is neither a claim nor a lock nor creates a record leaves what a
session knows of itself and of the engine. -/
theorem alone_keeps {e : Eff} (hg : ∀ s, SingleGuard D t o σ w e s)
    (hclaim : ∀ ty lease, e ≠ .claim ty lease)
    (hlock : ∀ key, e ≠ .tryLock key ∧ e ≠ .unlock key)
    (hcreate : ∀ τ fields, e ≠ .createRecord τ fields) :
    Keeps (alone w claim : (single D I t o σ).Assertion w) _ (.perform e) := by
  refine call_keeps (fun s _ _ => hg s) fun c s u r _ _ hA hex => ?_
  obtain ⟨⟨hcur, n, hn⟩, hnone⟩ := hA
  obtain ⟨⟨ty, lease, rfl⟩ | hc, hl⟩ := exec_session hex
  · exact absurd rfl (hclaim ty lease)
  rcases hl with ⟨key, hl⟩ | hl
  · exact (hl.elim (hlock key).1 (hlock key).2).elim
  refine ⟨⟨by rw [hc]; exact hcur, n, by rw [hl]; exact hn⟩, fun q hq => ?_⟩
  rcases exec_engine hex with ⟨f, hu, hf⟩ | ⟨τ, fields, rfl, -⟩
  · rw [hu] at hq
    obtain ⟨p, hp, rfl⟩ := List.mem_map.1 hq
    rw [createdFor_same (hf p)]
    exact hnone p hp
  · exact absurd rfl (hcreate τ fields)

theorem locked_keeps {e : Eff} {key : String}
    (hg : ∀ s : World, s.current w = some claim.ticket → SingleGuard D t o σ w e s)
    (hclaim : ∀ ty lease, e ≠ .claim ty lease)
    (hlock : ∀ key, e ≠ .tryLock key ∧ e ≠ .unlock key) :
    Keeps (locked w claim key : (single D I t o σ).Assertion w) _ (.perform e) := by
  refine call_keeps (fun s _ hA => hg s hA.1) fun c s u r _ _ hA hex => ?_
  obtain ⟨hcur, n, hn⟩ := hA
  obtain ⟨⟨ty, lease, rfl⟩ | hc, hl⟩ := exec_session hex
  · exact absurd rfl (hclaim ty lease)
  rcases hl with ⟨key, hl⟩ | hl
  · exact (hl.elim (hlock key).1 (hlock key).2).elim
  exact ⟨by rw [hc]; exact hcur, n, by rw [hl]; exact hn⟩

theorem always_keeps {e : Eff} (hg : ∀ s, SingleGuard D t o σ w e s) :
    Keeps (always w : (single D I t o σ).Assertion w) _ (.perform e) :=
  call_keeps (fun s _ _ => hg s) fun _ _ _ _ _ _ _ _ => trivial

/-! #### The region under the lock -/

section Region

variable {key : String}

theorem reads_locked (e : Eff) (he : e.reads = true) :
    Keeps (locked w claim key : (single D I t o σ).Assertion w) _ (.perform e) :=
  locked_keeps (fun _ _ => .of_reads he) (by rintro _ _ rfl; cases he)
    fun _ => ⟨(by rintro rfl; cases he), (by rintro rfl; cases he)⟩

theorem records_locked (e : Eff) (he : e.records = true) :
    Keeps (locked w claim key : (single D I t o σ).Assertion w) _ (.perform e) :=
  locked_keeps (fun _ _ => .of_records he) (by rintro _ _ rfl; cases he)
    fun _ => ⟨(by rintro rfl; cases he), (by rintro rfl; cases he)⟩

theorem settle_locked (st : Settlement) :
    Keeps (locked w claim key : (single D I t o σ).Assertion w) _ (Call.settle claim st) :=
  locked_keeps (fun _ _ _ hk => by cases hk) (fun _ _ h => by cases h)
    fun _ => ⟨fun h => (by cases h), fun h => (by cases h)⟩

end Region

/-- The lookup by POReference: an empty answer is the absence of the order. -/
theorem query_triple (hsees : ∀ r : EngineRecord, r.home = σ → D.sees σ r = true) :
    (single D I t o σ).Triple w (locked w claim (lockKey t o)) (Call.query σ .cOrder o)
      (.ends (fun found => if found = [] then alone w claim else locked w claim (lockKey t o))
        (locked w claim (lockKey t o))) := by
  have hguard : ∀ s, SingleGuard D t o σ w (.query σ .cOrder o) s := fun _ => .of_reads rfl
  refine call_triple (fun s _ _ => hguard s) fun c s u r hs _ hA _ hex => ?_
  rcases exec_query hex with ⟨⟨x, rfl⟩, rfl⟩ | ⟨found, hfound, rfl, rfl⟩
  · exact hA
  · show (if found.map EngineRecord.id = [] then alone w claim
      else locked w claim (lockKey t o) : (single D I t o σ).Assertion w).holds _
    split
    · rename_i hnil
      refine ⟨hA, fun q hq => ?_⟩
      by_contra hc
      have hc := Bool.of_not_eq_false hc
      have hmem : q ∈ found := by
        rw [hfound, List.mem_filter]
        refine ⟨hq, ?_⟩
        rw [(createdFor_iff.1 hc).1, hsees q (Single.home hs q hq hc), beq_self_eq_true]
        rfl
      rw [List.map_eq_nil_iff.1 hnil] at hmem
      exact List.not_mem_nil hmem
    · exact hA

/-- **Look the order up, then create it**, under its lock. -/
theorem lookupOrCreate_own (hsees : ∀ r : EngineRecord, r.home = σ → D.sees σ r = true)
    {order : PlacedOrder} (horder : order.commerceOrderId = o) (customer : Int)
    (products : List Int) :
    Keeps (locked w claim (lockKey t o) : (single D I t o σ).Assertion w) _
      (lookupOrCreate σ order customer products) := by
  subst horder
  refine (query_triple hsees).bind (fun found => ?_) fun _ _ _ h => h
  cases found with
  | nil =>
    have hverify : Keeps (alone w claim :
        (single D I t order.commerceOrderId σ).Assertion w) _ (verifyUnits σ order products) :=
      verifyUnits_closed closed_keeps (fun e he _ => alone_keeps (fun _ => .of_reads he)
        (by rintro _ _ rfl; cases he)
        (fun _ => ⟨(by rintro rfl; cases he), (by rintro rfl; cases he)⟩)
        (by rintro _ _ rfl; cases he)) products
    have hcreate : ∀ fields, (single D I t order.commerceOrderId σ).Triple w (alone w claim)
        (Call.createRecord σ fields) fun _ => locked w claim (lockKey t order.commerceOrderId) := by
      intro fields
      refine call_triple (fun s _ hA _ _ _ _ => ⟨rfl, hA.1.2, hA.2⟩) fun c s u r _ _ hA _ hex => ?_
      obtain ⟨⟨hcur, n, hn⟩, -⟩ := hA
      obtain ⟨⟨_, _, he⟩ | hc, ⟨_, he | he⟩ | hl⟩ := exec_session hex
      · cases he
      · cases he
      · cases he
      · cases he
      · cases he
      · exact ⟨by rw [hc]; exact hcur, n, by rw [hl]; exact hn⟩
    refine hverify.bind (fun _ => ?_) fun _ _ _ h => h.1
    exact (hcreate _).bind (fun _ => .pure fun _ _ h => h) fun _ _ _ h => h
  | cons id rest =>
    cases rest with
    | nil => exact .pure fun _ _ h => h
    | cons _ _ => exact .throw fun _ _ h => h

/-- Another order, or an order of another tenant, under its own lock. -/
theorem lookupOrCreate_other {tenantId : String} (htenant : claim.tenantId = some tenantId)
    {order : PlacedOrder} (hother : ¬ (tenantId = t ∧ order.commerceOrderId = o)) {τ : Session}
    {key : String} (customer : Int) (products : List Int) :
    Keeps (locked w claim key : (single D I t o σ).Assertion w) _
      (lookupOrCreate τ order customer products) := by
  refine closed_keeps.bind (reads_locked (.query _ _ _) rfl) fun found => ?_
  split
  · refine closed_keeps.bind (verifyUnits_closed closed_keeps (fun e he _ => reads_locked e he) _) fun _ =>
      closed_keeps.bind ?_ fun _ => closed_keeps.pure _
    refine locked_keeps (fun s hcur tk htk ht hlookup => ?_) (fun _ _ h => by cases h)
      fun _ => ⟨fun h => (by cases h), fun h => (by cases h)⟩
    obtain rfl := Option.some.inj (hcur.symm.trans htk)
    refine (hother ⟨Option.some.inj (htenant.symm.trans ht), ?_⟩).elim
    exact congrArg Prod.snd (Option.some.inj hlookup)
  · exact closed_keeps.pure _
  · exact closed_keeps.throw _

/-- **The region under an order's lock**, from the placement of its tenant. -/
theorem executeLocked_keeps (hsees : ∀ r : EngineRecord, r.home = σ → D.sees σ r = true)
    {tenantId engineInstance : String} (htenant : claim.tenantId = some tenantId)
    {placement : TenantMappingRow} {order : PlacedOrder}
    (hplacement : tenantId = t → order.commerceOrderId = o → ∀ τ,
      engineFor D placement.adClientId placement.adOrgId = .ok (some τ) → τ = σ)
    (authority : Option InboxNativeAuthority) (held : Bool) :
    Keeps (locked w claim (lockKey tenantId order.commerceOrderId) :
      (single D I t o σ).Assertion w) _
      (executeLocked D claim authority tenantId engineInstance placement order held) := by
  have hread : ∀ e : Eff, e.reads = true → e.looks = false →
      Keeps (locked w claim (lockKey tenantId order.commerceOrderId) :
        (single D I t o σ).Assertion w) _ (.perform e) := fun e he _ => reads_locked e he
  refine executeLocked_closed closed_keeps hread
    (executeNew_closed closed_keeps (fun _ _ => reads_locked (.select _) rfl)
      (fun τ scope customer products hτ => ?_)
      fun _ _ => record_closed closed_keeps hread (fun e he _ => records_locked e he) settle_locked
        fun _ _ => records_locked (.insert (.execution _ _) _) rfl) held
  refine nativeOrder_closed closed_keeps (fun _ => reads_locked (.assess _) rfl) ?_
  by_cases hown : tenantId = t ∧ order.commerceOrderId = o
  · obtain ⟨rfl, rfl⟩ := hown
    obtain rfl := hplacement rfl rfl τ hτ
    exact lookupOrCreate_own hsees rfl customer products
  · exact lookupOrCreate_other htenant hown customer products

theorem reads_always (e : Eff) (he : e.reads = true) :
    Keeps (always w : (single D I t o σ).Assertion w) _ (.perform e) :=
  always_keeps fun _ => .of_reads he

theorem unlock_always (key : String) :
    Keeps (always w : (single D I t o σ).Assertion w) _ (Call.unlock key) :=
  always_keeps fun _ _ hk => by cases hk

theorem settle_always (st : Settlement) :
    Keeps (always w : (single D I t o σ).Assertion w) _ (Call.settle claim st) :=
  always_keeps fun _ _ hk => by cases hk

theorem withLock_triple {tenantId order : String} {body : Bool → Program Outcome}
    (h : ∀ held, Keeps (locked w claim (lockKey tenantId order) :
      (single D I t o σ).Assertion w) _ (body held))
    (hfree : (single D I t o σ).Triple w (always w) (body false) fun _ => always w) :
    (single D I t o σ).Triple w (executing I w orderPlaced claim)
      (withLock (lockKey tenantId order) body) fun _ => always w := by
  have hlock : (single D I t o σ).Triple w (executing I w orderPlaced claim)
      (Call.tryLock (lockKey tenantId order)) (.ends (fun held : Bool =>
        if held = true then locked w claim (lockKey tenantId order) else always w) (always w)) := by
    refine call_triple (fun _ _ _ _ hk => by cases hk) fun c s u r _ _ hA _ hex => ?_
    rcases exec_tryLock hex with ⟨⟨x, rfl⟩, -⟩ | ⟨rfl, -⟩ | ⟨rfl, n, rfl, -⟩
    · trivial
    · trivial
    · exact ⟨hA.2, n + 1, Function.update_self ..⟩
  refine hlock.bind (fun held => ?_) fun _ _ _ h => h
  have hunlock : ∀ held, Keeps (always w : (single D I t o σ).Assertion w) _
      (unlockIf held (lockKey tenantId order)) :=
    unlockIf_closed closed_keeps (fun e he _ => reads_always e he) (unlock_always _)
  cases held with
  | true =>
    refine (reads_locked .commit rfl).bind (fun _ => ?_) fun _ _ _ _ => trivial
    have hbody : (single D I t o σ).Triple w (locked w claim (lockKey tenantId order)) (body true)
        fun _ => always w := (h true).post fun _ _ _ _ => trivial
    exact hbody.ensure (fun _ => (hunlock true).post fun r _ _ _ => by cases r <;> trivial)
      fun _ _ _ h => h
  | false =>
    refine (reads_always .commit rfl).bind (fun _ => ?_) fun _ _ _ _ => trivial
    exact hfree.ensure (fun _ => (hunlock false).post fun r _ _ _ => by cases r <;> trivial)
      fun _ _ _ h => h

/-- **An attempt at an order row**, whichever order it is for. -/
theorem execute_triple (hsees : ∀ r : EngineRecord, r.home = σ → D.sees σ r = true)
    (hplaced : Placed D I t o σ) (authority : Option InboxNativeAuthority) :
    (single D I t o σ).Triple w (executing I w orderPlaced claim) (execute D claim authority)
      fun _ => always w := by
  have hselect : ∀ (s : World) tenant le,
      SingleGuard D t o σ w (.select (.tenantMapping tenant le)) s := fun _ _ _ => .of_reads rfl
  refine order_execute_triple (fun s hs => Single.within hs) hselect ?_
  intro tenantId engineInstance placement order htenant _ hinput hplace _
  refine withLock_triple (executeLocked_keeps hsees htenant ?_ authority) (.pure fun _ _ _ => trivial)
  rintro rfl rfl τ hτ
  exact hplaced _ τ hinput ⟨placement, hplace, hτ⟩

/-- **Every worker stays within the discipline of the Trade order.** -/
def singleVerified (hsees : ∀ r : EngineRecord, r.home = σ → D.sees σ r = true)
    (hplaced : Placed D I t o σ) :
    (single D I t o σ).Verified fun a _ => ∀ b, a = .env b → I.Admits b where
  idle := always
  envOk h := h _ rfl
  close _ := trivial
  main w launch := by
    have hread : ∀ e : Eff, e.reads = true → e.looks = false →
        Keeps (always w : (single D I t o σ).Assertion w) _ (.perform e) :=
      fun e he _ => reads_always e he
    have hrecords : ∀ e : Eff, e.records = true →
        Keeps (always w : (single D I t o σ).Assertion w) _ (.perform e) :=
      fun e he => always_keeps fun _ => .of_records he
    have horder : ∀ claim authority, (single D I t o σ).Triple w
        (executing I w orderPlaced claim) (runClaim D claim authority) fun _ => always w :=
      fun claim authority => settle_triple (execute_triple hsees hplaced authority)
        (settleOutcome_closed closed_keeps hread settle_always)
        (settleException_closed closed_keeps hread settle_always)
    have hcustomer : ∀ claim, Keeps (always w : (single D I t o σ).Assertion w) _
        (CustomerExecution.runClaim D claim) := fun claim =>
      CustomerExecution.runClaim_closed closed_keeps hread (fun e he _ => hrecords e he) settle_always
        (fun e he _ => hrecords e (Eff.records_of_ties he))
        (fun _ => always_keeps fun _ _ hk => by cases hk) unlock_always
        (fun _ _ _ _ => reads_always (.select _) rfl) (fun _ _ => reads_always (.query _ _ _) rfl)
        (fun _ _ => reads_always (.getRecord _ _ _) rfl)
        (fun _ _ _ => always_keeps fun _ _ hk => by cases hk)
        (fun _ fields => always_keeps fun _ tk _ _ hlookup => by
          obtain ⟨_, -, he⟩ := Option.map_eq_some_iff.1 hlookup
          cases he)
    have hreads : ∀ claim, ∀ e : Eff, e.reads = true → Keeps
        (executing I w orderPlaced claim : (single D I t o σ).Assertion w) _ (.perform e) :=
      fun claim e he => executing_keeps (fun _ _ _ => SingleGuard.of_reads he)
        (by rintro _ _ rfl; cases he)
    exact main_triple (W := executing I w)
      (claim_executing (fun s hs => Single.within hs) fun _ _ _ _ hk => by cases hk)
      (fun claim => authority_closed closed_keeps (fun e he _ => hreads claim e he) _)
      horder (fun claim => (hcustomer claim).pre fun _ _ _ => trivial)
      (reads_always .commit rfl) (reads_always .rollback rfl) fun _ _ _ _ _ => trivial

end Walk

/-! ### Every run -/

/-- The rows of the Trade order that are there stay as they are. -/
def KeepsRows (t o : String) (s u : World) : Prop :=
  (∀ c, s.store.committed (.execution t o) = some c →
      u.store.committed (.execution t o) = some c) ∧
    ∀ c, s.store.committed (.consequence t o) = some c →
      u.store.committed (.consequence t o) = some c

/-- **One engine order for one Trade order.** In every run of any number of inbox
workers, over any rows, with leases that expire, rows that are claimed again and
workers that end at any point: at most one engine order is created for tenant
`t` and order `o`, and the order's execution and consequence rows, once there,
are the only ones.  Assumed are that the placements active for the order's
events sign in as one engine session `σ`, also when mappings change, and that
the engine shows a session the records it created. -/
theorem one_engine_order {D : Deployment} {I : Inputs} {t o : String} {σ : Session} {s : World}
    {p : (machine D).Pool} (hsees : ∀ r : EngineRecord, r.home = σ → D.sees σ r = true)
    (hplaced : Placed D I t o σ) (hwithin : I.Within s) (hclosed : ∀ k, s.store.pending k = none)
    (hnone : Uncreated t o s)
    (hp : Machine.Reaches (fun a _ => ∀ b, a = .env b → I.Admits b) (Machine.idle s) p) :
    p.state.engine.countP (createdFor t o) ≤ 1 ∧
      ∀ q, Machine.Reaches (fun a _ => ∀ b, a = .env b → I.Admits b) p q →
        KeepsRows t o p.state q.state := by
  have hzero : s.engine.countP (createdFor t o) = 0 :=
    List.countP_eq_zero.2 fun q hq => by rw [hnone q hq]; exact Bool.false_ne_true
  have hfree : ∀ k, InsertOnly s k := fun k w x hx => by rw [hclosed] at hx; cases hx
  have hinv : Single I t o σ s :=
    ⟨hwithin, fun r hr hc => (by rw [hnone r hr] at hc; cases hc), by omega, hfree _, hfree _⟩
  have hsound : (singleVerified hsees hplaced).Sound p :=
    (Protocol.Verified.sound_idle hinv fun _ => trivial).reaches hp
  refine ⟨Single.once hsound.1, fun q hq => ?_⟩
  refine hsound.relates (R := KeepsRows t o) (fun _ => ⟨fun _ h => h, fun _ h => h⟩)
    (fun h h' => ⟨fun c hc => h'.1 c (h.1 c hc), fun c hc => h'.2 c (h.2 c hc)⟩)
    (fun {w e c s r u} hi hg he => ?_) (fun _ => ⟨fun _ h => h, fun _ h => h⟩)
    (fun {a s u} _ _ he => ?_) hq
  · have hg : SingleGuard D t o σ w e s := hg
    have he : exec D w e c s = some (r, u) := he
    exact ⟨(exec_insertOnly he (fun _ hk => by cases hk) (fun _ hk => by cases hk)
        (fun hw => hg.insert hw (.inl rfl)) (Single.execution hi)).2,
      (exec_insertOnly he (fun _ hk => by cases hk) (fun _ hk => by cases hk)
        (fun hw => hg.insert hw (.inr rfl)) (Single.consequence hi)).2⟩
  · have he : env a s = some u := he
    have hsame : ∀ k : Key, k = .execution t o ∨ k = .consequence t o →
        u.store.committed k = s.store.committed k := by
      rintro k (rfl | rfl) <;> exact (env_other he (fun _ hk => by cases hk)
        (fun _ _ hk => by cases hk) (fun _ _ _ _ hk => by cases hk)).2
    exact ⟨fun c hc => (hsame _ (.inl rfl)).trans hc, fun c hc => (hsame _ (.inr rfl)).trans hc⟩

/-- Two rows of one order; worker `a` creates the order in the engine and dies
before it records anything, worker `b` executes the other row. -/
def diedAfterCreate : List (machine oneEngine).Action :=
  [.env (.remap "tn_acme" "NABH" (some ⟨11, 11, some "engine-1"⟩)),
   .env (.bootstrap "engine-1" "NABH" customerKind "customer-1" ⟨501, "", "1", "erp_0001"⟩),
   .env (.bootstrap "engine-1" "NABH" productKind "sku-1" ⟨601, "", "1", "erp_0002"⟩),
   .env (.receive 1 "event-1" orderPlaced (some "tn_acme")
      (PlacedOrder.sampleData "NABH" "order-1") none 0),
   .env (.receive 2 "event-2" orderPlaced (some "tn_acme")
      (PlacedOrder.sampleData "NABH" "order-1") none 0),
   .launch "a" ⟨1, 10, false⟩, .call "a" {}, .call "a" { row := some 1 }] ++
  List.replicate 8 (.call "a" {}) ++
  [.call "a" { members := [("C_UOM_ID", .int 100)] },
   .call "a" { members := [("X12DE355", .str "EA")] }, .call "a" { id := 7000 }, .stop "a",
   .launch "b" ⟨1, 10, false⟩, .call "b" {}, .call "b" { row := some 2 }] ++
  List.replicate 17 (.call "b" {})

/-- What the mapping's client signs in as. -/
def nabhSession : Session := ⟨"https://engine", "erp", 11, 102, 11⟩

/-- Any events, and one mapping. -/
def inNabh : Inputs where
  order _ _ _ := True
  customer _ _ _ := True
  place _ _ row := row = ⟨11, 11, some "engine-1"⟩

/-- The order is in the engine once, and the execution row names it. -/
theorem one_engine_order_adopted :
    ∃ p, Machine.run diedAfterCreate (Machine.idle World.empty) = some p ∧
      p.state.engine.countP (createdFor "tn_acme" "order-1") ≤ 1 ∧
      p.state.engine.map EngineRecord.id = [7000] ∧
      (p.state.store.committed (.execution "tn_acme" "order-1")).map (fun c =>
        ((c.row : ExecutionRow).nativeId, (c.row : ExecutionRow).adopted)) = some (7000, true) := by
  have hrun : (Machine.run diedAfterCreate (Machine.idle World.empty)).map (fun p =>
      (p.state.engine.map EngineRecord.id,
        (p.state.store.committed (.execution "tn_acme" "order-1")).map fun c =>
          ((c.row : ExecutionRow).nativeId, (c.row : ExecutionRow).adopted))) =
      some ([7000], some (7000, true)) := by decide +kernel
  obtain ⟨p, hp, hend⟩ := Option.map_eq_some_iff.1 hrun
  have hsees : ∀ r : EngineRecord, r.home = nabhSession → oneEngine.sees nabhSession r = true := by
    rintro r hr
    show (_ == r.home.baseUrl && _ == r.home.clientId) = true
    rw [hr]
    decide
  have hplaced : Placed oneEngine inNabh "tn_acme" "order-1" nabhSession := by
    rintro le τ - ⟨p, rfl, hτ⟩
    exact (Option.some.inj (Except.ok.inj hτ)).symm
  refine ⟨p, hp, (one_engine_order hsees hplaced .empty (fun _ => rfl) ?_
    (Machine.reaches_of_run ?_ hp)).1, congrArg Prod.fst hend, congrArg Prod.snd hend⟩
  · exact fun r hr => (List.not_mem_nil hr).elim
  · rintro a ha q b rfl
    unfold diedAfterCreate at ha
    simp only [List.cons_append, List.nil_append, List.mem_cons, List.mem_append,
      List.mem_replicate, Machine.Action.env.injEq, reduceCtorEq, and_false, or_false,
      List.not_mem_nil] at ha
    rcases ha with rfl | rfl | rfl | rfl | rfl
    · exact fun r hr => (Option.some.inj hr).symm
    · trivial
    · trivial
    all_goals exact ⟨fun _ _ _ _ _ => trivial, fun h => absurd h (by decide)⟩

end OrderExecution
end BaobabErp
