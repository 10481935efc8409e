/-
# One business partner for one Trade customer

A worker can die, lose its lease or be refused between the engine write and
ERP's own transaction.  The next attempt takes the customer's session lock, reads
the mapping and, where there is none, looks for the marker before it creates a
partner.  The walk through `execute` shows that this is the discipline of
`Customers.PartnerProtocol`, whatever version arrives in whatever order: there is
never a second partner, the mapping names a partner of the customer, and it is
only ever replaced by one of a newer version (`one_engine_partner`,
`mapping_advances`).
-/

import BaobabErp.Customers.PartnerProtocol
import BaobabErp.OrderToCash.SingleOrder
import BaobabErp.Python.IntText

namespace BaobabErp
namespace CustomerExecution

open Python Concurrency World ExecutionPolicy Inbox InboxWorker
open Concurrency.Protocol (Keeps closed_keeps)

section Walk

variable {D : Deployment} {I : Inputs} {x : ProjectedCustomer} {w : Worker} {claim : Claim}
  {s u : World}

/-! ### What an attempt knows -/

/-- Anything. -/
abbrev always (w : Worker) : (projecting D I x).Assertion w := .const True

/-- `w` executes `claim`. -/
def working (w : Worker) (claim : Claim) : (projecting D I x).Assertion w :=
  own (fun s => s.current w = some claim.ticket) fun _ _ h hA => h.current.trans hA

/-- `w` executes `claim` under the customer's lock. -/
def locked (w : Worker) (claim : Claim) : (projecting D I x).Assertion w :=
  own (fun s => s.current w = some claim.ticket ∧ HasLock D w x.lock s)
    fun _ _ h hA => ⟨h.current.trans hA.1, hA.2.own h⟩

/-- … and has not written the mapping. -/
def ready (w : Worker) (claim : Claim) : (projecting D I x).Assertion w :=
  own (fun s => s.current w = some claim.ticket ∧ HasLock D w x.lock s ∧ ¬ s.store.Holds w x.key)
    fun _ _ h hA => ⟨h.current.trans hA.1, hA.2.1.own h, fun hh => hA.2.2 ((h.holds _).1 hh)⟩

/-- **Under the customer's lock nobody else replaces the mapping.** -/
theorem committed_other {s u : (machine D).State} (hs : Projected D I x s)
    (h : (projecting D I x).Other w s u) (hlock : HasLock D w x.lock s) :
    u.store.committed x.key = s.store.committed x.key := by
  cases h with
  | exec hv _ hg he =>
    exact hs.row.committed_other key_ne_inbox key_ne_index hlock hv hg.row he
  | close _ _ => rfl
  | env _ ha he => exact committed_env ha.2 he

/-- **Under the customer's lock nobody else creates its partner.** -/
theorem absent_other {s u : (machine D).State} (h : (projecting D I x).Other w s u)
    (hlock : HasLock D w x.lock s) (hnone : Absent (x.partner D) s) : Absent (x.partner D) u := by
  cases h with
  | exec hv _ hg he =>
    refine hnone.exec partner_tracked (fun τ fields heq => ?_) he
    by_contra hc
    obtain ⟨hlookup, tk, hcur, htenant⟩ := partner_iff.1 (Bool.of_not_eq_false hc)
    obtain ⟨-, hlock', -⟩ := hg.create τ fields heq tk hcur htenant hlookup
    exact hv (hlock'.unique hlock)
  | close _ _ => exact hnone
  | env _ _ he => exact hnone.env partner_tracked he

/-- `w` has read the mapping under the lock. -/
def reading (w : Worker) (claim : Claim) (mapped : Option MasterDataRow) :
    (projecting D I x).Assertion w where
  holds s := (ready w claim : (projecting D I x).Assertion w).holds s ∧
    (s.store.committed x.key).map Cell.row = mapped
  stable hs ht h hA := ⟨(ready w claim).stable hs ht h hA.1, by
    rw [committed_other hs h hA.1.2.1]
    exact hA.2⟩

/-- `w` has read that there is no mapping, and the engine holds no partner. -/
def blank (w : Worker) (claim : Claim) : (projecting D I x).Assertion w where
  holds s := (reading w claim none : (projecting D I x).Assertion w).holds s ∧
    Absent (x.partner D) s
  stable hs ht h hA :=
    ⟨(reading w claim none).stable hs ht h hA.1, absent_other h hA.1.1.2.1 hA.2⟩

/-- `w` has read the mapping, and `id` is a partner of the customer. -/
def naming (w : Worker) (claim : Claim) (mapped : Option MasterDataRow) (id : Int) :
    (projecting D I x).Assertion w where
  holds s := (reading w claim mapped : (projecting D I x).Assertion w).holds s ∧ Named D x s id
  stable hs ht h hA :=
    ⟨(reading w claim mapped).stable hs ht h hA.1, hA.2.grows (other_engineGrows h)⟩

/-! ### Single calls -/

theorem always_keeps {e : Eff} (hg : ∀ s, PartnerGuard D x w e s) :
    Keeps (always w : (projecting D I x).Assertion w) _ (.perform e) :=
  call_keeps (fun s _ _ => hg s) fun _ _ _ _ _ _ _ _ => trivial

theorem reads_always (e : Eff) (he : e.reads = true) :
    Keeps (always w : (projecting D I x).Assertion w) _ (.perform e) :=
  always_keeps fun _ => .of_reads he

theorem settle_guard {w : Worker} {st : Settlement} : PartnerGuard D x w (.settle claim st) s :=
  .of_other (fun _ _ h => by cases h) (fun _ h => by cases h) fun _ hk => by cases hk

theorem settle_always (st : Settlement) :
    Keeps (always w : (projecting D I x).Assertion w) _ (Call.settle claim st) :=
  always_keeps fun _ => settle_guard

theorem tryLock_guard {key : String} : PartnerGuard D x w (.tryLock key) s :=
  .of_other (fun _ _ h => by cases h) (fun _ h => by cases h) fun _ hk => by cases hk

theorem update_guard {σ : Session} {id : Int} {fields : Fields} :
    PartnerGuard D x w (.updateRecord σ id fields) s :=
  .of_other (fun _ _ h => by cases h) (fun _ h => by cases h) fun _ hk => by cases hk

/-- A call that is no claim leaves what `w` executes. -/
theorem working_keeps {e : Eff}
    (hg : ∀ s : World, s.current w = some claim.ticket → PartnerGuard D x w e s)
    (hclaim : ∀ ty lease, e ≠ .claim ty lease) :
    Keeps (working w claim : (projecting D I x).Assertion w) _ (.perform e) := by
  refine call_keeps (fun s _ hA => hg s hA) fun c s u r _ _ hA hex => ?_
  obtain ⟨⟨ty, lease, rfl⟩ | hc, -⟩ := exec_session hex
  · exact absurd rfl (hclaim ty lease)
  · exact (congrFun hc w).trans hA

theorem reads_working (e : Eff) (he : e.reads = true) :
    Keeps (working w claim : (projecting D I x).Assertion w) _ (.perform e) :=
  working_keeps (fun _ _ => .of_reads he) (by rintro _ _ rfl; cases he)

/-- A call of `w`'s own that leaves its lock and the mapping alone. -/
theorem reading_exec {e : Eff} {c : Choice} {r : Except Exc (Ans e)} {mapped : Option MasterDataRow}
    (h : (reading w claim mapped : (projecting D I x).Assertion w).holds s)
    (hclaim : ∀ ty lease, e ≠ .claim ty lease) (hunlock : ∀ key, e ≠ .unlock key)
    (hw : e.written ≠ some x.key) (hex : exec D w e c s = some (r, u)) :
    (reading w claim mapped : (projecting D I x).Assertion w).holds u := by
  obtain ⟨⟨hcur, hlock, hfree⟩, hmapped⟩ := h
  have hcur' : u.current w = some claim.ticket := by
    obtain ⟨⟨ty, lease, rfl⟩ | hc, -⟩ := exec_session hex
    · exact absurd rfl (hclaim ty lease)
    · exact (congrFun hc w).trans hcur
  have hlock' : HasLock D w x.lock u := hlock.exec hex fun _ => hunlock
  rcases exec_at hex key_ne_inbox key_ne_index hw with ⟨hp, hc⟩ | ⟨hp, hc⟩
  · refine ⟨⟨hcur', hlock', fun ⟨v, hv⟩ => hfree ⟨v, hp.symm.trans hv⟩⟩, ?_⟩
    rw [hc]
    exact hmapped
  · refine ⟨⟨hcur', hlock', fun ⟨v, hv⟩ => ?_⟩, ?_⟩
    · rw [hp, Store.drop_eq_some_iff] at hv
      exact hv.2 rfl
    · rcases hc with hc | hc
      · rw [hc]
        exact hmapped
      · rw [hc, Store.view_of_not_holds hfree]
        exact hmapped

theorem reading_keeps {e : Eff} {mapped : Option MasterDataRow} (hg : ∀ s, PartnerGuard D x w e s)
    (hclaim : ∀ ty lease, e ≠ .claim ty lease) (hunlock : ∀ key, e ≠ .unlock key)
    (hw : e.written ≠ some x.key) :
    Keeps (reading w claim mapped : (projecting D I x).Assertion w) _ (.perform e) :=
  call_keeps (fun s _ _ => hg s) fun _ _ _ _ _ _ hA hex => reading_exec hA hclaim hunlock hw hex

theorem reads_reading {mapped : Option MasterDataRow} (e : Eff) (he : e.reads = true) :
    Keeps (reading w claim mapped : (projecting D I x).Assertion w) _ (.perform e) := by
  refine reading_keeps (fun _ => .of_reads he) (by rintro _ _ rfl; cases he)
    (by rintro _ rfl; cases he) ?_
  cases e <;> first | cases he; done | (intro hk; cases hk)

theorem naming_keeps {e : Eff} {mapped : Option MasterDataRow} {id : Int}
    (hg : ∀ s, PartnerGuard D x w e s) (hclaim : ∀ ty lease, e ≠ .claim ty lease)
    (hunlock : ∀ key, e ≠ .unlock key) (hw : e.written ≠ some x.key) :
    Keeps (naming w claim mapped id : (projecting D I x).Assertion w) _ (.perform e) :=
  call_keeps (fun s _ _ => hg s) fun _ _ _ _ _ _ hA hex =>
    ⟨reading_exec hA.1 hclaim hunlock hw hex, hA.2.grows (exec_engineGrows hex)⟩

theorem blank_keeps {e : Eff} (he : e.reads = true) :
    Keeps (blank w claim : (projecting D I x).Assertion w) _ (.perform e) := by
  refine call_keeps (fun s _ _ => .of_reads he) fun c s u r _ _ hA hex => ⟨?_, ?_⟩
  · refine reading_exec hA.1 (by rintro _ _ rfl; cases he) (by rintro _ rfl; cases he) ?_ hex
    cases e <;> first | cases he; done | (intro hk; cases hk)
  · exact hA.2.exec partner_tracked (fun _ _ h => by subst h; cases he) hex

/-! ### The region under the customer's lock -/

/-- The mapping as it is read. -/
theorem select_triple :
    (projecting D I x).Triple w (ready w claim) (Call.select x.key)
      (.ends (fun found => reading w claim found) (always w)) := by
  refine call_triple (fun _ _ _ => .of_reads rfl) fun c s u r _ _ hA _ hex => ?_
  rcases exec_select hex with ⟨⟨y, rfl⟩, -⟩ | ⟨rfl, -⟩
  · trivial
  · have hview : s.cell w x.key = s.store.committed x.key := Store.view_of_not_holds hA.2.2
    refine reading_exec (e := .select x.key) ⟨hA, ?_⟩ (fun _ _ h => by cases h)
      (fun _ h => by cases h) (fun h => by cases h) hex
    rw [hview]

/-- **The search for the marker**: an empty answer is the absence of the partner. -/
theorem findMarked_triple (hsees : ∀ r : EngineRecord, r.home = x.session → D.sees x.session r = true)
    (hscoped : Scoped D) :
    (projecting D I x).Triple w (reading w claim none) (findMarked x.session (x.marker D))
      (.ends (fun found => found.elim (blank w claim) (naming w claim none)) (always w)) := by
  have hquery : (projecting D I x).Triple w (reading w claim none)
      (Call.query x.session .cBPartner (x.marker D)) (.ends (fun found =>
        match found with
        | [] => blank w claim
        | id :: _ => naming w claim none id) (always w)) := by
    refine call_triple (fun _ _ _ => .of_reads rfl) fun c s u r hs _ hA _ hex => ?_
    have hA' := reading_exec hA (fun _ _ h => by cases h) (fun _ h => by cases h)
      (fun h => by cases h) hex
    have hen := (exec_quiet rfl hex).2.2.1
    rcases exec_query hex with ⟨⟨y, rfl⟩, -⟩ | ⟨found, hfound, rfl, -⟩
    · trivial
    · cases found with
      | nil =>
        refine ⟨hA', fun q hq => ?_⟩
        rw [hen] at hq
        by_contra hc
        have hc := Bool.of_not_eq_false hc
        have hmem : q ∈ ([] : List EngineRecord) := by
          rw [hfound, List.mem_filter]
          refine ⟨hq, ?_⟩
          rw [(partner_iff.1 hc).1, hsees q (Projected.once hs |>.home q hq hc), beq_self_eq_true]
          rfl
        exact List.not_mem_nil hmem
      | cons q rest =>
        have hq : q ∈ s.engine.filter fun r =>
            r.fields.lookup == some (.cBPartner, x.marker D) && D.sees x.session r := by
          rw [← hfound]
          exact List.mem_cons_self
        obtain ⟨hq, hshown⟩ := List.mem_filter.1 hq
        rw [Bool.and_eq_true, beq_iff_eq] at hshown
        refine ⟨hA', q, ?_, rfl, hshown.1, hscoped _ _ hshown.2⟩
        rw [hen]
        exact hq
  refine hquery.bind (fun found => ?_) fun _ _ _ h => h
  cases found with
  | nil => exact .pure fun _ _ h => h
  | cons id rest =>
    cases rest with
    | nil => exact .pure fun _ _ h => h
    | cons _ _ => exact .throw fun _ _ _ => trivial

/-- The partner is created where there is none. -/
theorem create_triple (hsees : ∀ r : EngineRecord, r.home = x.session → D.sees x.session r = true)
    (hscoped : Scoped D) {fields : Fields}
    (hfields : fields.lookup = some (.cBPartner, x.marker D)) :
    (projecting D I x).Triple w (blank w claim) (Call.createRecord x.session fields)
      (.ends (fun id => naming w claim none id) (always w)) := by
  refine call_triple (fun s _ hA => ?_) fun c s u r _ _ hA _ hex => ?_
  · refine ⟨fun τ f heq tk _ _ _ => ?_, fun k hk => (by cases hk),
      ⟨fun hk => (by cases hk), fun ⟨_, he⟩ => (by cases he)⟩, fun _ _ he => (by cases he)⟩
    obtain ⟨rfl, rfl⟩ := Eff.createRecord.inj heq
    exact ⟨rfl, hA.1.1.2.1, hA.2⟩
  · cases r with
    | error y => trivial
    | ok id =>
      have hA' := reading_exec hA.1 (fun _ _ h => by cases h) (fun _ h => by cases h)
        (fun h => by cases h) hex
      rcases (exec_createRecord hex).2 with ⟨rfl, hid⟩ | ⟨⟨y, hy⟩, -⟩
      · refine ⟨hA', _, List.mem_cons_self, (hid id rfl).symm, hfields, ?_⟩
        exact hscoped _ _ (hsees _ rfl)
      · cases hy

/-- **Adopt the partner an earlier attempt marked, or create one.** -/
theorem adoptOrCreate_triple
    (hsees : ∀ r : EngineRecord, r.home = x.session → D.sees x.session r = true)
    (hscoped : Scoped D) {customer : CustomerProjection}
    (hle : customer.legalEntityId = x.legalEntityId) (hcid : customer.customerId = x.customerId) :
    (projecting D I x).Triple w (reading w claim none)
      (adoptOrCreate D.hashes x.session x.tenantId customer)
      (.ends (fun found => naming w claim none found.1) (always w)) := by
  unfold adoptOrCreate
  rw [hle, hcid]
  refine (findMarked_triple hsees hscoped).bind (fun found => ?_) fun _ _ _ _ => trivial
  cases found with
  | some id =>
    have hupdate : Keeps (naming w claim none id : (projecting D I x).Assertion w) _
        (Call.updateRecord x.session id (.partner (updateFields customer))) :=
      naming_keeps (fun _ => update_guard) (fun _ _ h => by cases h) (fun _ h => by cases h)
        fun h => by cases h
    exact hupdate.bind (fun _ => .pure fun _ _ h => h) fun _ _ _ _ => trivial
  | none =>
    have hgroup : Keeps (blank w claim : (projecting D I x).Assertion w) _
        (defaultGroup x.session) :=
      defaultGroup_closed closed_keeps fun e he _ => blank_keeps he
    refine hgroup.bind (fun group => ?_) fun _ _ _ _ => trivial
    refine (create_triple hsees hscoped ?_).bind (fun id => .pure fun _ _ h => h)
      fun _ _ _ _ => trivial
    rfl

/-- The mapped partner is updated in place. -/
theorem updateMapped_triple {customer : CustomerProjection} {mapped : MasterDataRow} :
    (projecting D I x).Triple w (reading w claim (some mapped))
      (updateMapped x.session customer mapped.nativeId)
      (.ends (fun found => (Protocol.Assertion.const (found.1 = mapped.nativeId)).and
        (naming w claim (some mapped) found.1)) (always w)) := by
  have hupdate : Keeps (reading w claim (some mapped) : (projecting D I x).Assertion w) _
      (Call.updateRecord x.session mapped.nativeId (.partner (updateFields customer))) :=
    reading_keeps (fun _ => update_guard) (fun _ _ h => by cases h) (fun _ h => by cases h)
      fun h => by cases h
  unfold updateMapped
  refine Protocol.Triple.bind (Q := fun _ => reading w claim (some mapped))
    (closed_keeps.tryCatch (reads_reading _ rfl) fun y => ?_) (fun _ => ?_) fun _ _ _ _ => trivial
  · split <;> exact closed_keeps.throw _
  · refine hupdate.bind (fun _ => .pure fun s hs hA => ⟨rfl, hA, ?_⟩) fun _ _ _ _ => trivial
    -- the mapping that was read names a partner
    obtain ⟨c, hc, hrow⟩ := Option.map_eq_some_iff.1 hA.2
    rw [← hrow]
    exact Projected.named hs c (.inl hc)

/-- **The engine half of an attempt** ends with a partner of the customer: the
mapped one where there is a mapping. -/
theorem nativePartner_triple
    (hsees : ∀ r : EngineRecord, r.home = x.session → D.sees x.session r = true)
    (hscoped : Scoped D) {customer : CustomerProjection}
    (hle : customer.legalEntityId = x.legalEntityId) (hcid : customer.customerId = x.customerId)
    (mapped : Option MasterDataRow) :
    (projecting D I x).Triple w (reading w claim mapped)
      (nativePartner D.hashes x.session x.tenantId customer mapped)
      (.ends (fun found => (Protocol.Assertion.const
        (∀ m, mapped = some m → found.1 = m.nativeId)).and (naming w claim mapped found.1))
        (always w)) := by
  refine engineErrors_triple ?_
  cases mapped with
  | some m =>
    refine updateMapped_triple.post fun r _ _ h => ?_
    cases r with
    | ok found =>
      refine ⟨fun m' hm => ?_, h.2⟩
      obtain rfl := Option.some.inj hm
      exact h.1
    | error _ => trivial
  | none =>
    refine (adoptOrCreate_triple hsees hscoped hle hcid).post fun r _ _ h => ?_
    cases r with
    | ok found => exact ⟨fun m hm => (by cases hm), h⟩
    | error _ => trivial

theorem numericVersion_toString (n : Int) : numericVersion (toString n) = n := by
  unfold numericVersion
  rw [intOfText_toString]
  rfl

/-- The mapping is written under the lock, with the partner that was found. -/
theorem put_triple {mapped : Option MasterDataRow} {id : Int} {digest : String} {version : Int}
    (hnewer : ∀ m, mapped = some m → id = m.nativeId ∧ numericVersion m.sourceVersion < version) :
    (projecting D I x).Triple w (naming w claim mapped id)
      (put x.engineInstanceId x.legalEntityId customerKind x.customerId id digest (toString version))
      fun _ => always w := by
  refine Protocol.Triple.bind (Q := fun _ => always w) (call_triple (fun s _ hA => ?_)
    fun _ _ _ _ _ _ _ _ _ => trivial) (fun _ => .pure fun _ _ _ => trivial) fun _ _ _ _ => trivial
  obtain ⟨⟨⟨-, hlock, hfree⟩, hmapped⟩, hnamed⟩ := hA
  refine ⟨fun _ _ h => (by cases h), fun k hk => ?_, ⟨fun _ => ?_, fun ⟨_, h⟩ => (by cases h)⟩,
    fun row set heq => ?_⟩
  · obtain rfl := Option.some.inj hk
    exact ⟨fun _ h => (by cases h), fun _ _ h => (by cases h)⟩
  · refine ⟨_, _, rfl, hlock, hfree, fun c hc => ?_⟩
    obtain ⟨hid, hlt⟩ := hnewer c.row (by rw [← hmapped, hc]; rfl)
    exact ⟨hid, rfl, by rw [numericVersion_toString]; exact hlt⟩
  · obtain ⟨-, hrow, hset⟩ := Eff.upsert.inj heq
    obtain rfl := eq_of_heq hrow
    obtain rfl := eq_of_heq hset
    exact ⟨fun _ => hnamed, fun _ _ => hnamed⟩

/-- The rest of the recording transaction writes no mapping. -/
theorem announce_closed {Φ : (α : Type) → Program α → Prop} (hΦ : Prog.Closed Φ)
    (hread : ∀ e : Eff, e.reads = true → Φ _ (.perform e))
    (hrecords : ∀ e : Eff, e.records = true → (∀ row set, e ≠ .upsert x.key row set) →
      Φ _ (.perform e))
    (hsettle : ∀ st, Φ _ (Call.settle claim st)) {tenantId publicId code : String}
    {customer : CustomerProjection} :
    Φ _ (do
      announcePartner D.hashes claim tenantId customer publicId
      processed claim code
      Call.commit) := by
  refine hΦ.bind (announcePartner_closed hΦ (fun e he hties => hrecords e he ?_) (hread .now rfl)
    (hrecords (.selectForUpdate (.outcome _ _ _)) rfl fun _ _ h => by cases h)
    (fun _ => hrecords (.insertNew (.outcome _ _ _) _) rfl fun _ _ h => by cases h)
    fun _ => hrecords (.update (.outcome _ _ _) _) rfl fun _ _ h => by cases h) fun _ =>
      hΦ.bind (settleRow_closed hΦ hsettle _) fun _ => hread .commit rfl
  rintro row set rfl
  cases hties

theorem records_always (e : Eff) (he : e.records = true)
    (hne : ∀ row set, e ≠ .upsert x.key row set) :
    Keeps (always w : (projecting D I x).Assertion w) _ (.perform e) :=
  always_keeps fun _ => .of_records he hne

theorem orRollback_always {α : Type} {A : (projecting D I x).Assertion w} {p : Program α}
    (h : (projecting D I x).Triple w A p fun _ => always w) :
    (projecting D I x).Triple w A (orRollback p) fun _ => always w :=
  h.tryCatch (fun _ _ _ h => h) fun _ =>
    (reads_always .rollback rfl).bind (fun _ => .throw fun _ _ h => h) fun _ _ _ h => h

/-- **The one transaction of a projected customer.** -/
theorem record_triple {mapped : Option MasterDataRow} {id : Int} {code : String}
    {customer : CustomerProjection} (hle : customer.legalEntityId = x.legalEntityId)
    (hcid : customer.customerId = x.customerId)
    (hnewer : ∀ m, mapped = some m →
      id = m.nativeId ∧ numericVersion m.sourceVersion < customer.customerVersion) :
    (projecting D I x).Triple w (naming w claim mapped id)
      (record D claim x.tenantId x.engineInstanceId customer id code) fun _ => always w := by
  unfold record
  rw [hle, hcid]
  refine orRollback_always ((put_triple hnewer).bind (fun publicId => ?_) fun _ _ _ h => h)
  exact announce_closed closed_keeps reads_always records_always settle_always

/-- The body of `_execute` for a version that has to be applied. -/
theorem executeNewer_triple
    (hsees : ∀ r : EngineRecord, r.home = x.session → D.sees x.session r = true)
    (hscoped : Scoped D) {customer : CustomerProjection}
    (hle : customer.legalEntityId = x.legalEntityId) (hcid : customer.customerId = x.customerId)
    {placement : TenantMappingRow} (hsigns : ∀ τ,
      OrderExecution.engineFor D placement.adClientId placement.adOrgId = .ok (some τ) →
        τ = x.session)
    {mapped : Option MasterDataRow}
    (hnewer : ∀ m, mapped = some m → numericVersion m.sourceVersion < customer.customerVersion) :
    (projecting D I x).Triple w (reading w claim mapped)
      (executeNewer D claim x.tenantId x.engineInstanceId placement customer mapped)
      fun _ => always w := by
  unfold executeNewer OrderExecution.session
  cases he : OrderExecution.engineFor D placement.adClientId placement.adOrgId with
  | error y => cases y <;> exact .throw fun _ _ _ => trivial
  | ok found =>
    cases found with
    | none => exact .throw fun _ _ _ => trivial
    | some τ =>
      obtain rfl := hsigns τ he
      refine (nativePartner_triple hsees hscoped hle hcid mapped).bind
        (fun found => .given fun hid => ?_) fun _ _ _ _ => trivial
      refine (record_triple hle hcid fun m hm => ⟨hid m hm, hnewer m hm⟩).bind (fun _ => ?_)
        fun _ _ _ h => h
      exact .pure fun _ _ h => h

/-- **The region under the customer's lock.** -/
theorem executeLocked_own
    (hsees : ∀ r : EngineRecord, r.home = x.session → D.sees x.session r = true)
    (hscoped : Scoped D) {customer : CustomerProjection}
    (hle : customer.legalEntityId = x.legalEntityId) (hcid : customer.customerId = x.customerId)
    {placement : TenantMappingRow} (hsigns : ∀ τ,
      OrderExecution.engineFor D placement.adClientId placement.adOrgId = .ok (some τ) →
        τ = x.session) :
    (projecting D I x).Triple w (ready w claim)
      (executeLocked D claim x.tenantId x.engineInstanceId placement customer true)
      fun _ => always w := by
  unfold executeLocked
  rw [if_pos rfl, hle, hcid]
  refine select_triple.bind (fun mapped => ?_) fun _ _ _ h => h
  refine (reads_reading .commit rfl).bind (fun _ => ?_) fun _ _ _ _ => trivial
  cases mapped with
  | none => exact executeNewer_triple hsees hscoped hle hcid hsigns fun m hm => by cases hm
  | some mapped =>
    show (projecting D I x).Triple w _ (if _ then _ else if _ then if _ then _ else _ else _) _
    split_ifs with hstale hsame hdigest
    · exact .pure fun _ _ _ => trivial
    · exact .pure fun _ _ _ => trivial
    · exact .throw fun _ _ _ => trivial
    · refine executeNewer_triple hsees hscoped hle hcid hsigns fun m hm => ?_
      obtain rfl := Option.some.inj hm
      omega

/-! ### Other customers, and orders -/

section Other

variable {tenantId engineInstance : String} {customer : CustomerProjection}

/-- **A partner created for another customer carries another marker.** -/
theorem create_other (hsha : ∀ a b, D.hashes.sha256 a = D.hashes.sha256 b → a = b)
    (htenant : claim.tenantId = some tenantId)
    (hle : Identifiers.isLegalEntityId customer.legalEntityId = true)
    (hother : ¬ (tenantId = x.tenantId ∧ customer.legalEntityId = x.legalEntityId ∧
      customer.customerId = x.customerId)) (τ : Session) (group : Int) :
    Keeps (working w claim : (projecting D I x).Assertion w) _
      (Call.createRecord τ (.partner (createFields customer group
        (CustomerProjection.marker D.hashes tenantId customer.legalEntityId customer.customerId)))) := by
  refine working_keeps (fun s hcur => ⟨fun σ f heq tk htk ht hlookup => ?_, fun k hk => (by cases hk),
    ⟨fun hk => (by cases hk), fun ⟨_, he⟩ => (by cases he)⟩, fun _ _ he => (by cases he)⟩)
    fun _ _ h => by cases h
  obtain ⟨rfl, rfl⟩ := Eff.createRecord.inj heq
  obtain rfl := Option.some.inj (hcur.symm.trans htk)
  obtain rfl : tenantId = x.tenantId := Option.some.inj (htenant.symm.trans ht)
  have hpair : some (Table.cBPartner, CustomerProjection.marker D.hashes x.tenantId
      customer.legalEntityId customer.customerId) = some (.cBPartner, x.marker D) := hlookup
  have hmarker := (Prod.mk.inj (Option.some.inj hpair)).2
  obtain ⟨-, hl, hc⟩ := CustomerProjection.marker_injective hsha x.tenant_ok x.tenant_ok hle
    x.entity_ok hmarker
  exact absurd ⟨rfl, hl, hc⟩ hother

theorem nativePartner_other (hsha : ∀ a b, D.hashes.sha256 a = D.hashes.sha256 b → a = b)
    (htenant : claim.tenantId = some tenantId)
    (hle : Identifiers.isLegalEntityId customer.legalEntityId = true)
    (hother : ¬ (tenantId = x.tenantId ∧ customer.legalEntityId = x.legalEntityId ∧
      customer.customerId = x.customerId)) (τ : Session) (mapped : Option MasterDataRow) :
    Keeps (working w claim : (projecting D I x).Assertion w) _
      (nativePartner D.hashes τ tenantId customer mapped) := by
  have hupdate : ∀ id fields, Keeps (working w claim : (projecting D I x).Assertion w) _
      (Call.updateRecord τ id (.partner fields)) := fun _ _ =>
    working_keeps (fun _ _ => update_guard) fun _ _ h => by cases h
  refine engineErrors_closed closed_keeps ?_
  cases mapped with
  | some m =>
    exact updateMapped_closed closed_keeps (reads_working (.getRecord _ _ _) rfl) (hupdate _ _)
  | none =>
    refine closed_keeps.bind (findMarked_closed closed_keeps (reads_working (.query _ _ _) rfl))
      fun found => ?_
    cases found with
    | some id => exact closed_keeps.bind (hupdate _ _) fun _ => closed_keeps.pure _
    | none =>
      exact closed_keeps.bind
        (defaultGroup_closed closed_keeps fun e he _ => reads_working e he) fun group =>
          closed_keeps.bind (create_other hsha htenant hle hother τ group) fun _ =>
            closed_keeps.pure _

theorem executeLocked_other (hsha : ∀ a b, D.hashes.sha256 a = D.hashes.sha256 b → a = b)
    (htenant : claim.tenantId = some tenantId)
    (hle : Identifiers.isLegalEntityId customer.legalEntityId = true)
    (hother : ¬ (tenantId = x.tenantId ∧ customer.legalEntityId = x.legalEntityId ∧
      customer.customerId = x.customerId))
    (hkey : Key.masterData engineInstance customer.legalEntityId customerKind
      customer.customerId ≠ x.key) {placement : TenantMappingRow} (held : Bool) :
    Keeps (working w claim : (projecting D I x).Assertion w) _
      (executeLocked D claim tenantId engineInstance placement customer held) := by
  have hrecords : ∀ e : Eff, e.records = true → (∀ row set, e ≠ .upsert x.key row set) →
      Keeps (working w claim : (projecting D I x).Assertion w) _ (.perform e) := fun e he hne =>
    working_keeps (fun _ _ => .of_records he hne) (by rintro _ _ rfl; cases he)
  refine executeLocked_closed closed_keeps (fun e he _ => reads_working e he)
    (reads_working (.select _) rfl) (fun mapped => executeNewer_closed closed_keeps
      (fun τ _ => nativePartner_other hsha htenant hle hother τ mapped) fun id code => ?_) held
  refine closed_keeps.tryCatch ?_ fun _ =>
    closed_keeps.bind (reads_working .rollback rfl) fun _ => closed_keeps.throw _
  refine closed_keeps.bind (put_closed closed_keeps fun row set => hrecords _ rfl fun _ _ he =>
    hkey (Eff.upsert.inj he).1) fun publicId => ?_
  exact announce_closed closed_keeps reads_working hrecords fun _ =>
    working_keeps (fun _ _ => settle_guard) fun _ _ h => by cases h

end Other

/-! ### Whole attempts -/

/-- **The unlock comes after a rollback**, so that a session gives its lock up with
nothing written. -/
theorem unlockIf_always (held : Bool) (key : String) :
    Keeps (always w : (projecting D I x).Assertion w) _ (unlockIf held key) := by
  cases held with
  | false => exact .pure fun _ _ h => h
  | true =>
    have hrollback : (projecting D I x).Triple w (always w) Call.rollback fun _ =>
        own (fun s => s.store.Clean w) fun _ _ h => h.clean.2 :=
      call_triple (fun _ _ _ => .of_reads rfl) fun c s u r _ _ _ _ hex => by
        obtain rfl := exec_rollback hex
        exact Store.clean_rollback
    refine hrollback.bind (fun _ => ?_) fun _ _ _ _ => trivial
    have hunlock : (projecting D I x).Triple w (own (fun s => s.store.Clean w) fun _ _ h => h.clean.2)
        (Call.unlock key) fun _ => always w :=
      call_triple (fun s _ hA => ⟨fun _ _ h => (by cases h), fun _ hk => (by cases hk),
        ⟨fun hk => (by cases hk), fun _ => hA⟩, fun _ _ h => (by cases h)⟩)
        fun _ _ _ _ _ _ _ _ _ => trivial
    exact hunlock.bind (fun _ => reads_always .commit rfl) fun _ _ _ h => h

/-- `with AdvisoryLock(…)`, from what is known after the lock and after the commit. -/
theorem withLock_triple {A : (projecting D I x).Assertion w}
    {B C : Bool → (projecting D I x).Assertion w} {key : String} {body : Bool → Program Outcome}
    (hlock : (projecting D I x).Triple w A (Call.tryLock key) (.ends B (always w)))
    (hcommit : ∀ held, (projecting D I x).Triple w (B held) Call.commit
      (.ends (fun _ => C held) (always w)))
    (hbody : ∀ held, (projecting D I x).Triple w (C held) (body held) fun _ => always w) :
    (projecting D I x).Triple w A (withLock key body) fun _ => always w := by
  refine hlock.bind (fun held => (hcommit held).bind (fun _ => ?_) fun _ _ _ h => h) fun _ _ _ h => h
  refine (hbody held).ensure (fun r => (unlockIf_always held key).post fun r _ _ _ => ?_)
    fun _ _ _ h => h
  cases r <;> trivial

theorem withLock_own {body : Bool → Program Outcome}
    (h : (projecting D I x).Triple w (ready w claim) (body true) fun _ => always w)
    (hfree : Keeps (always w : (projecting D I x).Assertion w) _ (body false)) :
    (projecting D I x).Triple w (executing I w customerProjected claim)
      (withLock x.lock body) fun _ => always w := by
  refine withLock_triple (B := fun held => if held = true then locked w claim else always w)
    (C := fun held => if held = true then ready w claim else always w) ?_ (fun held => ?_)
    fun held => ?_
  · refine call_triple (fun _ _ _ => tryLock_guard) fun c s u r _ _ hA _ hex => ?_
    rcases exec_tryLock hex with ⟨⟨y, rfl⟩, -⟩ | ⟨rfl, -⟩ | ⟨rfl, n, rfl, -⟩
    · trivial
    · trivial
    · exact ⟨hA.2, n + 1, Function.update_self ..⟩
  · cases held with
    | false => exact (reads_always .commit rfl).post fun r _ _ _ => by cases r <;> trivial
    | true =>
      -- the commit leaves nothing of this session's own at the mapping
      refine call_triple (fun _ _ _ => .of_reads rfl) fun c s u r _ _ hA _ hex => ?_
      cases r with
      | error _ => trivial
      | ok _ =>
        rcases exec_commit hex with rfl | ⟨⟨y, hy⟩, -⟩
        · exact ⟨hA.1, hA.2, Store.clean_commit _⟩
        · cases hy
  · cases held with
    | false => exact hfree
    | true => exact h

/-- **An attempt at a customer row**, whichever customer it is for. -/
theorem execute_triple (hsees : ∀ r : EngineRecord, r.home = x.session → D.sees x.session r = true)
    (hscoped : Scoped D) (hsha : ∀ a b, D.hashes.sha256 a = D.hashes.sha256 b → a = b)
    (hplaced : x.Placed D I) :
    (projecting D I x).Triple w (executing I w customerProjected claim) (execute D claim)
      fun _ => always w := by
  refine customer_execute_triple (fun s hs => Projected.within hs) (fun _ _ _ => .of_reads rfl) ?_
  intro tenantId engineInstance placement customer htenant hparse _ hplace hinstance
  have hle := (CustomerProjection.parseCustomerProjected_ok hparse).1
  by_cases hown : tenantId = x.tenantId ∧ customer.legalEntityId = x.legalEntityId ∧
      customer.customerId = x.customerId
  · obtain ⟨ht, hl, hc⟩ := hown
    obtain rfl : engineInstance = x.engineInstanceId :=
      hplaced.installed placement _ (by rw [← ht, ← hl]; exact hplace) hinstance
    have hkey : lockKey tenantId customer = x.lock := by
      unfold lockKey ProjectedCustomer.lock
      rw [ht, hl, hc]
    rw [hkey, ht]
    refine withLock_own (executeLocked_own hsees hscoped hl hc fun τ hτ => ?_)
      (.pure fun _ _ _ => trivial)
    exact hplaced.signs τ ⟨placement, by rw [← ht, ← hl]; exact hplace, hτ⟩
  · have hkey : Key.masterData engineInstance customer.legalEntityId customerKind
        customer.customerId ≠ x.key := fun h => by
      obtain ⟨rfl, hl, -, hc⟩ := Key.masterData.inj h
      exact hown ⟨hplaced.apart tenantId placement (by rw [← hl]; exact hplace) hinstance, hl, hc⟩
    refine withLock_triple (B := fun _ => working w claim) (C := fun _ => working w claim)
      ?_ (fun _ => ?_) fun held => ?_
    · exact (working_keeps (fun _ _ => tryLock_guard) fun _ _ h => by cases h).conseq
        (fun _ _ h => h.2) fun r _ _ h => by cases r <;> first | exact h | trivial
    · exact (reads_working .commit rfl).post fun r _ _ h => by cases r <;> first | exact h | trivial
    · exact (executeLocked_other hsha htenant hle hown hkey held).post fun _ _ _ _ => trivial

end Walk

/-! ### Every run -/

section Runs

variable {D : Deployment} {I : Inputs} {x : ProjectedCustomer} {s : World} {p q : (machine D).Pool}

end Runs

/-! ### A run -/

def sampleData (version : Int) (name : String) : Json :=
  .obj [("legal_entity_id", .str "NABH"), ("customer_id", .str "customer-1"),
    ("customer_version", .int version), ("customer_type", .str "person"),
    ("display_name", .str name), ("status", .str "active")]

theorem acme_ok : Identifiers.isTenantId "tn_acme" = true := by decide +kernel

theorem nabh_ok : Identifiers.isLegalEntityId "NABH" = true := by decide +kernel

/-- Customer 1 of the legal entity `NABH`. -/
def sampleCustomer : ProjectedCustomer :=
  ⟨"tn_acme", "NABH", "customer-1", "engine-1", OrderExecution.nabhSession, acme_ok, nabh_ok⟩

/-- The mapping's partner, version and public id. -/
def mapped (s : World) : Option (Int × String × String) :=
  (s.store.committed sampleCustomer.key).map fun c =>
    ((c.row : MasterDataRow).nativeId, (c.row : MasterDataRow).sourceVersion,
      (c.row : MasterDataRow).erpResourceId)
end CustomerExecution
end BaobabErp
