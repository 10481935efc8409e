/-
# The discipline of one Trade customer

`modules/customers/projection_execution.py`: the partner in the engine and the
mapping row that order execution resolves the customer through are written in
two steps, under the customer's session lock.  A session creates the partner
only where the engine holds none (`PartnerGuard.create`), and writes the mapping
only after it, with a version greater than the one it replaces
(`PartnerGuard.row`) and the id of a partner that carries the customer's marker
(`PartnerGuard.named`).

`Projected` is what then holds in every state: at most one such partner, and a
mapping that names one.  `projecting` is the discipline as a protocol; that every
worker keeps to it is shown in `Customers.SinglePartner`.
-/

import BaobabErp.Inbox.Inputs
import BaobabErp.Platform.LockGuards

namespace BaobabErp
namespace CustomerExecution

open Python Concurrency World ExecutionPolicy Inbox InboxWorker

/-- A customer of one tenant's legal entity, and where its placement leads: the
engine installation its mapping is kept under and the session that signs in there. -/
structure ProjectedCustomer where
  tenantId : String
  legalEntityId : String
  customerId : String
  engineInstanceId : String
  session : Session
  tenant_ok : Identifiers.isTenantId tenantId = true
  entity_ok : Identifiers.isLegalEntityId legalEntityId = true

namespace ProjectedCustomer

variable (x : ProjectedCustomer) (D : Deployment)

/-- The key of the customer's mapping. -/
def key : Key := .masterData x.engineInstanceId x.legalEntityId customerKind x.customerId

/-- The key of the customer's session lock. -/
def lock : String :=
  "baobab.customer|" ++ x.tenantId ++ "|" ++ x.legalEntityId ++ "|" ++ x.customerId

def marker : String :=
  CustomerProjection.marker D.hashes x.tenantId x.legalEntityId x.customerId

/-- The record is the customer's partner, created in the execution of an event of
its tenant. -/
def partner (r : EngineRecord) : Bool :=
  r.fields.lookup == some (.cBPartner, x.marker D) &&
    r.creator.any fun tk => tk.tenant == some x.tenantId

/-- The legal entity is placed in one client of one installation, and is no
other tenant's there. -/
structure Placed (D : Deployment) (I : Inputs) (x : ProjectedCustomer) : Prop where
  installed : ∀ p ei, I.place x.tenantId x.legalEntityId p → p.engineInstanceId = some ei →
    ei = x.engineInstanceId
  signs : ∀ τ, I.Signs D x.tenantId x.legalEntityId τ → τ = x.session
  apart : ∀ t p, I.place t x.legalEntityId p → p.engineInstanceId = some x.engineInstanceId →
    t = x.tenantId

/-- No bootstrap file carries the customer. -/
def Spared (a : Env) : Prop :=
  ∀ row, a ≠ .bootstrap x.engineInstanceId x.legalEntityId customerKind x.customerId row

end ProjectedCustomer

/-- The mapping `new` replaces `old`: the same partner under the same public id,
and a newer version of the customer. -/
def Newer (old new : MasterDataRow) : Prop :=
  new.nativeId = old.nativeId ∧ new.erpResourceId = old.erpResourceId ∧
    numericVersion old.sourceVersion < numericVersion new.sourceVersion

/-- The engine record `id` is a partner of the customer's client that carries its marker. -/
def Named (D : Deployment) (x : ProjectedCustomer) (s : World) (id : Int) : Prop :=
  ∃ r ∈ s.engine, r.id = id ∧ r.fields.lookup = some (.cBPartner, x.marker D) ∧
    SameClient r.home x.session

/-- **One partner, and a mapping that names it.** -/
structure Projected (D : Deployment) (I : Inputs) (x : ProjectedCustomer) (s : World) : Prop where
  within : I.Within s
  once : OneRecord (x.partner D) x.session s
  row : LockedRow D x.key x.lock Newer s
  named : ∀ c : Cell x.key, s.Version x.key c → Named D x s (MasterDataRow.nativeId c.row)

/-- **When a call is safe.** -/
structure PartnerGuard (D : Deployment) (x : ProjectedCustomer) (w : Worker) (e : Eff)
    (s : World) : Prop where
  create : ∀ τ fields, e = .createRecord τ fields → ∀ tk, s.current w = some tk →
    tk.tenant = some x.tenantId → fields.lookup = some (.cBPartner, x.marker D) →
      τ = x.session ∧ HasLock D w x.lock s ∧ Absent (x.partner D) s
  inputs : ∀ k, e.written = some k → Written k
  row : RowGuard D x.key x.lock Newer w e s
  named : ∀ (row : Defaults → Row x.key) (set : Row x.key → Row x.key),
    e = .upsert x.key row set →
      (∀ d, Named D x s (MasterDataRow.nativeId (row d))) ∧
        ∀ c, s.store.committed x.key = some c → Named D x s (MasterDataRow.nativeId (set c.row))

section

variable {D : Deployment} {I : Inputs} {x : ProjectedCustomer} {s u : World} {w v : Worker}
  {c : Choice}

theorem key_ne_inbox (id : Nat) : x.key ≠ .inbox id := fun h => by cases h

theorem key_ne_index (i : Index) : x.key ≠ .index i := fun h => by cases h

theorem Newer.trans {a b c : MasterDataRow} (h : Newer a b) (h' : Newer b c) : Newer a c :=
  ⟨h'.1.trans h.1, h'.2.1.trans h.2.1, Int.lt_trans h.2.2 h'.2.2⟩

theorem partner_iff {r : EngineRecord} : x.partner D r = true ↔
    r.fields.lookup = some (.cBPartner, x.marker D) ∧
      ∃ tk, r.creator = some tk ∧ tk.tenant = some x.tenantId := by
  unfold ProjectedCustomer.partner
  rw [Bool.and_eq_true, beq_iff_eq, Option.any_eq_true]
  refine and_congr_right fun _ => exists_congr fun tk => ?_
  rw [beq_iff_eq]

theorem partner_tracked : Tracked (x.partner D) where
  same a b h := by
    unfold ProjectedCustomer.partner
    rw [h.lookup, h.creator]
  ours q hq := by
    unfold ProjectedCustomer.partner
    rw [hq, Option.any_none, Bool.and_false]

/-- A partner that is there stays there. -/
theorem Named.grows {id : Int} (h : Named D x s id) (hgrows : EngineGrows s u) :
    Named D x u id := by
  obtain ⟨r, hr, hid, hlookup, hhome⟩ := h
  obtain ⟨q, hq, hsame⟩ := hgrows r hr
  exact ⟨q, hq, hsame.id.trans hid, hsame.lookup.trans hlookup, by rw [hsame.home]; exact hhome⟩

/-- A call that writes neither the mapping nor an input and creates no record. -/
theorem PartnerGuard.of_other {e : Eff} (hcreate : ∀ τ fields, e ≠ .createRecord τ fields)
    (hunlock : ∀ key, e ≠ .unlock key)
    (hw : ∀ k, e.written = some k → Written k ∧ k ≠ x.key) : PartnerGuard D x w e s where
  create τ fields he := absurd he (hcreate τ fields)
  inputs k hk := (hw k hk).1
  row := ⟨fun hk => absurd rfl (hw _ hk).2, fun ⟨key, he⟩ => absurd he (hunlock key)⟩
  named row set he := by
    subst he
    exact absurd rfl (hw _ rfl).2

theorem PartnerGuard.of_reads {e : Eff} (he : e.reads = true) : PartnerGuard D x w e s := by
  refine .of_other (by rintro _ _ rfl; cases he) (by rintro _ rfl; cases he) fun k hk => ?_
  cases e <;> first | cases he; done | cases hk

/-- The statements of the recording transactions, but for the upsert of this mapping. -/
theorem PartnerGuard.of_records {e : Eff} (he : e.records = true)
    (hne : ∀ row set, e ≠ .upsert x.key row set) : PartnerGuard D x w e s := by
  refine .of_other (by rintro _ _ rfl; cases he) (by rintro _ rfl; cases he) fun k hk =>
    ⟨(e.written_of_records he hk).1, ?_⟩
  rintro rfl
  cases e with
  | upsert l row set =>
    obtain rfl := Option.some.inj hk
    exact hne row set rfl
  | insert l row =>
    obtain rfl := Option.some.inj hk
    cases he
  | selectForUpdate l =>
    obtain rfl := Option.some.inj hk
    cases he
  | insertNew l row =>
    obtain rfl := Option.some.inj hk
    cases he
  | update l set =>
    obtain rfl := Option.some.inj hk
    cases he
  | _ => cases hk

/-- The mapping's versions after a guarded call name partners. -/
theorem Projected.named_exec {e : Eff} {r : Except Exc (Ans e)} (h : Projected D I x s)
    (hg : PartnerGuard D x w e s) (he : exec D w e c s = some (r, u)) (d : Cell x.key)
    (hd : u.Version x.key d) : Named D x s (MasterDataRow.nativeId d.row) := by
  by_cases hwritten : e.written = some x.key
  · obtain ⟨row, set, rfl, -, hfree, -⟩ := hg.row.1 hwritten
    obtain ⟨hrow, hset⟩ := hg.named row set rfl
    rcases exec_upsert_version he key_ne_index hd with ⟨hd, -⟩ | ⟨d', hd', hd, -⟩ | hd
    · rw [hd]
      exact hrow _
    · rw [hd]
      exact hset d' ((Store.view_of_not_holds hfree).symm.trans hd')
    · exact h.named d hd
  · exact h.named d (exec_version he key_ne_inbox key_ne_index hwritten hd)

/-- **A guarded call keeps one partner and the mapping that names it.** -/
theorem Projected.exec {e : Eff} {r : Except Exc (Ans e)} (h : Projected D I x s)
    (hg : PartnerGuard D x w e s) (he : exec D w e c s = some (r, u)) : Projected D I x u where
  within := h.within.exec hg.inputs he
  once := h.once.exec partner_tracked (fun τ fields heq hP => by
    obtain ⟨hlookup, tk, hcur, htenant⟩ := partner_iff.1 hP
    obtain ⟨hτ, -, hnone⟩ := hg.create τ fields heq tk hcur htenant hlookup
    exact ⟨hτ, hnone⟩) he
  row := (h.row.exec key_ne_inbox key_ne_index hg.row he).1
  named d hd := (h.named_exec hg he d hd).grows (exec_engineGrows he)

theorem Projected.close (h : Projected D I x s) (w : Worker) :
    Projected D I x (World.close w s) :=
  ⟨h.within.close w, ⟨h.once.home, h.once.once⟩, h.row.close w,
    fun d hd => h.named d (hd.of_rollback rfl)⟩

/-- The environment leaves the mapping of a customer that no bootstrap file carries. -/
theorem committed_env {a : Env} (ha : x.Spared a) (he : env a s = some u) :
    u.store.committed x.key = s.store.committed x.key := by
  obtain ⟨-, -, -, ⟨-, -, k, row, -, hcom, hk⟩ | ⟨_, -, -, hst, -⟩⟩ := env_cases he
  · rw [hcom, Function.update_of_ne]
    rintro rfl
    rcases hk with ⟨id, _, _, _, _, _, _, -, -, hk, -⟩ | ⟨tn, le, _, -, hk, -⟩ |
      ⟨ei, le, kind, cid, row', rfl, hk, -⟩
    · cases hk
    · cases hk
    · obtain ⟨rfl, rfl, rfl, rfl⟩ := Key.masterData.inj hk
      exact ha row' rfl
  · rw [hst]

theorem Projected.env {a : Env} (h : Projected D I x s) (ha : I.Admits a ∧ x.Spared a)
    (he : env a s = some u) : Projected D I x u where
  within := h.within.env ha.1 he
  once := h.once.env partner_tracked he
  row := h.row.env he (committed_env ha.2 he)
  named d hd := by
    refine Named.grows (h.named d ?_) (env_engineGrows he)
    rcases hd with hd | ⟨v, hd⟩
    · exact .inl ((committed_env ha.2 he).symm.trans hd)
    · exact .inr ⟨v, ((env_own he).held _ _).1 hd⟩

end

/-- The protocol of one Trade customer. -/
def projecting (D : Deployment) (I : Inputs) (x : ProjectedCustomer) : Protocol (machine D) where
  Inv := Projected D I x
  Guard := PartnerGuard D x
  EnvOk a _ := I.Admits a ∧ x.Spared a
  inv_exec h hg he := Projected.exec (D := D) h hg he
  inv_close h := Projected.close h _
  inv_env h ha he := Projected.env h ha he

end CustomerExecution
end BaobabErp
