/-
# What keeps the ledger

One lemma for each kind of change that a transaction commits: a row rewritten
with the same facts (`Ledger.alike`), a native id (`Ledger.withNative`), a
completed step (`Ledger.withStep`), a tenant mapping (`Ledger.withMapping`) and a
status with the command it moves (`Ledger.withStatus`).
-/

import BaobabErp.Provisioning.Ledger

namespace BaobabErp
namespace Provisioning

open Python Concurrency

variable {D : ProvisioningDeployment} {rows rows' : Rows} {engine : List NativeRecord}
  {pid : String}

/-! ### The engine grows -/

theorem IsMarked.mono {engine' : List NativeRecord} {baseUrl table : String}
    {step : ProvisioningStep} {id : Int} (hgrow : ∀ x ∈ engine, x ∈ engine')
    (h : IsMarked engine baseUrl table step id) : IsMarked engine' baseUrl table step id :=
  hgrow _ h

theorem Bound.mono {engine' : List NativeRecord} {b : Blueprint} {step : ProvisioningStep} {id : Int}
    (hgrow : ∀ x ∈ engine, x ∈ engine') (h : Bound D engine b step id) :
    Bound D engine' b step id := by
  unfold Bound at h ⊢
  split at h
  · obtain ⟨σ, hσ, hmarked⟩ := h
    exact ⟨σ, hσ, hmarked.mono hgrow⟩
  · exact h

theorem Ledger.grow {engine' : List NativeRecord} (h : Ledger D rows engine)
    (hgrow : ∀ x ∈ engine, x ∈ engine') : Ledger D rows engine' := by
  obtain ⟨hlinked, hcommanded, hplanned, hplaced, hmapped⟩ := h
  refine ⟨hlinked, hcommanded, hplanned, fun pid row b hrow hb => ?_, hmapped⟩
  obtain ⟨hcreated, hprimary, hdone, hfinished⟩ := hplaced pid row b hrow hb
  exact ⟨fun step hs id hid => (hcreated step hs id hid).mono hgrow, hprimary, hdone, hfinished⟩

/-! ### Links -/

/-- The keys whose rows are links. -/
def Key.isLink : Key → Bool
  | .step _ _ => true
  | k => k.isPermanent && !(match k with | .outbox _ => true | _ => false)

/-- The links hold while those rows, and what the others are linked by, are the same. -/
theorem Linked.congr (hl : Linked rows) (hsame : ∀ k, k.isLink = true → rows' k = rows k)
    (hop : ∀ pid, (rows' (.operation pid)).isSome = (rows (.operation pid)).isSome)
    (hforth : ∀ op, ∀ c : CommandRow, rows (.command op) = some c → ∃ d : CommandRow,
      rows' (.command op) = some d ∧ d.tenantId = c.tenantId ∧ d.idempotencyKey = c.idempotencyKey)
    (hback : ∀ op, ∀ d : CommandRow, rows' (.command op) = some d → ∃ c : CommandRow,
      rows (.command op) = some c ∧ d.tenantId = c.tenantId ∧ d.idempotencyKey = c.idempotencyKey) :
    Linked rows' where
  owner op le pid := by
    rw [hsame _ rfl, hsame _ rfl]
    exact hl.owner op le pid
  key tenant key op := by
    rw [hsame _ rfl, hl.key tenant key op]
    constructor
    · rintro ⟨c, hc, rfl, rfl⟩
      obtain ⟨d, hd, ht, hk⟩ := hforth op c hc
      exact ⟨d, hd, ht, hk⟩
    · rintro ⟨d, hd, rfl, rfl⟩
      obtain ⟨c, hc, ht, hk⟩ := hback op d hd
      exact ⟨c, hc, ht.symm, hk.symm⟩
  owned pid := by
    rw [hop, hsame (.entityOwner pid) rfl]
    exact hl.owned pid
  command op le hs := by
    rw [hsame _ rfl] at hs
    obtain ⟨c, hc⟩ := Option.isSome_iff_exists.1 (hl.command op le hs)
    obtain ⟨d, hd, -⟩ := hforth op c hc
    rw [hd]
    rfl
  entity op hs := by
    obtain ⟨d, hd⟩ := Option.isSome_iff_exists.1 hs
    obtain ⟨c, hc, -⟩ := hback op d hd
    obtain ⟨le, hle⟩ := hl.entity op (by rw [hc]; rfl)
    exact ⟨le, by rwa [hsame _ rfl]⟩
  step pid key hs := by
    rw [hsame _ rfl] at hs
    rw [hop]
    exact hl.step pid key hs
  native pid key hs := by
    rw [hsame _ rfl] at hs
    rw [hop]
    exact hl.native pid key hs
  tenantNative client org tenant le hs := by
    rw [hsame _ rfl] at hs ⊢
    exact hl.tenantNative client org tenant le hs

/-! ### Rows that say the same -/

/-- What the ledger reads of an operation. -/
def OperationRow.core (row : OperationRow) : ProvisioningStatus × Json × Option String × Json :=
  (row.status, row.desiredState, row.desiredStateDigest, row.plan)

/-- The keys whose rows `Alike` leaves as they are. -/
def Key.isFact : Key → Bool
  | .operation _ => false
  | .outbox _ => false
  | k => !k.isWarehouse

/-- **The rows say the same**: an operation may change in what the ledger does not
read, an event of another type may be new, and the warehouses may be any. -/
structure Alike (rows rows' : Rows) : Prop where
  operation : ∀ pid, ∀ row : OperationRow, rows (.operation pid) = some row →
    ∃ row' : OperationRow, rows' (.operation pid) = some row' ∧ row'.core = row.core
  core : ∀ pid, ∀ row' : OperationRow, rows' (.operation pid) = some row' →
    ∃ row : OperationRow, rows (.operation pid) = some row ∧ row'.core = row.core
  same : ∀ k, k.isFact = true → rows' k = rows k
  outbox : ∀ id, ∀ o : OutboxRow, rows (.outbox id) = some o → rows' (.outbox id) = some o
  fresh : ∀ id, ∀ o : OutboxRow, rows' (.outbox id) = some o → ∀ e, o.content = .event e →
    e.type = CommandEvents.eventType → rows (.outbox id) = some o

theorem Alike.isSome (h : Alike rows rows') :
    (rows' (.operation pid)).isSome = (rows (.operation pid)).isSome := by
  rw [Bool.eq_iff_iff, Option.isSome_iff_exists, Option.isSome_iff_exists]
  constructor
  · rintro ⟨row', hrow'⟩
    obtain ⟨row, hrow, -⟩ := h.core pid row' hrow'
    exact ⟨row, hrow⟩
  · rintro ⟨row, hrow⟩
    obtain ⟨row', hrow', -⟩ := h.operation pid row hrow
    exact ⟨row', hrow'⟩

theorem Planned.core {row row' : OperationRow} {b : Blueprint} (h : Planned D pid row b)
    (hcore : row.core = row'.core) : Planned D pid row' b := by
  obtain ⟨-, hcore⟩ := Prod.mk.inj hcore
  obtain ⟨hstate, hcore⟩ := Prod.mk.inj hcore
  obtain ⟨hdigest, hplan⟩ := Prod.mk.inj hcore
  exact { h with state := hstate ▸ h.state, digest := hdigest ▸ h.digest, steps := hplan ▸ h.steps }

theorem Alike.linked (h : Alike rows rows') (hl : Linked rows) : Linked rows' :=
  hl.congr (fun k hk => h.same k (by cases k <;> first | rfl | cases hk)) (fun _ => h.isSome)
    (fun op c hc => ⟨c, (h.same _ rfl).trans hc, rfl, rfl⟩)
    fun op c hc => ⟨c, (h.same _ rfl).symm.trans hc, rfl, rfl⟩

theorem Alike.hasStatus (h : Alike rows rows') {op : String} {status : ProvisioningStatus} :
    HasStatus rows' op status ↔ HasStatus rows op status := by
  constructor
  · rintro ⟨le, pid, row', he, hrow', rfl⟩
    rw [h.same _ rfl] at he
    obtain ⟨row, hrow, hcore⟩ := h.core pid row' hrow'
    exact ⟨le, pid, row, he, hrow, (Prod.mk.inj hcore).1.symm⟩
  · rintro ⟨le, pid, row, he, hrow, rfl⟩
    obtain ⟨row', hrow', hcore⟩ := h.operation pid row hrow
    exact ⟨le, pid, row', (h.same _ rfl).trans he, hrow', (Prod.mk.inj hcore).1⟩

theorem IsAnnounced.mono {H : Hashes} {op : String} {c : CommandRow}
    (hout : ∀ id, ∀ o : OutboxRow, rows (.outbox id) = some o → rows' (.outbox id) = some o)
    (h : IsAnnounced H rows op c) : IsAnnounced H rows' op c := by
  obtain ⟨o, ho, hc⟩ := h
  exact ⟨o, hout _ o ho, hc⟩

theorem Announced.mono {H : Hashes} {op : String} {c : CommandRow}
    (hout : ∀ id, ∀ o : OutboxRow, rows (.outbox id) = some o → rows' (.outbox id) = some o)
    (h : Announced H rows op c) : Announced H rows' op c := by
  obtain ⟨history, hlast, hpos, heach, hup⟩ := h
  exact ⟨history, hlast, hpos, fun i h₁ h₂ => ⟨(heach i h₁ h₂).1, (heach i h₁ h₂).2.mono hout⟩, hup⟩

theorem Alike.commanded {H : Hashes} (h : Alike rows rows') (hc : Commanded H rows) :
    Commanded H rows' where
  derived op c hrow seen hseen := by
    rw [h.same _ rfl] at hrow
    exact hc.derived op c hrow seen fun status => (hseen status).trans h.hasStatus
  announced op c hrow := by
    rw [h.same _ rfl] at hrow
    exact (hc.announced op c hrow).mono h.outbox
  only id o ho e he ht := by
    obtain ⟨op, c, d, hrow, hd⟩ := hc.only id o (h.fresh id o ho e he ht) e he ht
    exact ⟨op, c, d, by rwa [h.same _ rfl], hd⟩
  valid op c hrow := by
    rw [h.same _ rfl] at hrow
    exact hc.valid op c hrow

/-- What a step has left depends on the native ids and the tenant mappings only. -/
theorem Done.mono {b : Blueprint} {step : ProvisioningStep} {row : StepRow}
    (hnative : ∀ key, ∀ id : Int, rows (.nativeMapping pid key) = some id →
      rows' (.nativeMapping pid key) = some id)
    (hmapping : ∀ tenant le, ∀ m : TenantMappingRow, rows (.tenantMapping tenant le) = some m →
      rows' (.tenantMapping tenant le) = some m)
    (h : Done pid b rows step row) : Done pid b rows' step row := by
  unfold Done at h ⊢
  split at h
  · obtain ⟨id, h₁, h₂, h₃⟩ := h
    exact ⟨id, hnative _ id h₁, hnative _ id h₂, h₃⟩
  · obtain ⟨id, h₁, h₂⟩ := h
    exact ⟨id, hnative _ id h₁, hmapping _ _ _ h₂⟩
  · rename_i kind hk₁ hk₂
    intro table ht
    obtain ⟨id, h₁, h₂⟩ := h table ht
    exact ⟨id, hnative _ id h₁, h₂⟩

theorem Alike.provisioned (h : Alike rows rows') (hp : Provisioned D rows engine) :
    Provisioned D rows' engine where
  planned pid row' hrow' := by
    obtain ⟨row, hrow, hcore⟩ := h.core pid row' hrow'
    obtain ⟨hex, b, hb⟩ := hp.planned pid row hrow
    exact ⟨(Prod.mk.inj hcore).1 ▸ hex, b, hb.core hcore.symm⟩
  placed pid row' b hrow' hb := by
    obtain ⟨row, hrow, hcore⟩ := h.core pid row' hrow'
    obtain ⟨hcreated, hprimary, hdone, hfinished⟩ := hp.placed pid row b hrow (hb.core hcore)
    have hnative : ∀ key, rows' (.nativeMapping pid key) = rows (.nativeMapping pid key) :=
      fun key => h.same _ rfl
    have hmapping : ∀ tenant le, rows' (.tenantMapping tenant le) = rows (.tenantMapping tenant le) :=
      fun tenant le => h.same _ rfl
    have hstep : ∀ key, rows' (.step pid key) = rows (.step pid key) :=
      fun key => h.same _ rfl
    refine ⟨fun step hs id hid => hcreated step hs id (hnative _ ▸ hid),
      fun id hid step hs hk => (hnative _).trans (hprimary id (hnative _ ▸ hid) step hs hk),
      fun step hs srow hsrow => ?_, fun h₂ h₄ step hs => ?_⟩
    · rw [hstep] at hsrow
      obtain ⟨hst, hd⟩ := hdone step hs srow hsrow
      exact ⟨hst, hd.mono (fun key id hid => (hnative key).trans hid)
        fun tenant le m hm => (hmapping tenant le).trans hm⟩
    · rw [hstep]
      rw [(Prod.mk.inj hcore).1] at h₂ h₄
      exact hfinished h₂ h₄ step hs
  mapped tenant le m hm := by
    rw [h.same _ rfl] at hm
    obtain ⟨pid, row, b, hrow, hb, ht, hle, hprimary, hm⟩ := hp.mapped tenant le m hm
    obtain ⟨row', hrow', hcore⟩ := h.operation pid row hrow
    exact ⟨pid, row', b, hrow', hb.core hcore.symm, ht, hle,
      by rwa [h.same _ rfl], hm⟩

/-- **Rows that say the same keep the ledger.** -/
theorem Ledger.alike (hl : Ledger D rows engine) (h : Alike rows rows') : Ledger D rows' engine :=
  ⟨h.linked hl.linked, h.commanded hl.commanded, h.provisioned hl.provisioned⟩

/-! ### A new row -/

/-- A new row leaves every other one. -/
theorem update_of_none {k : Key} {v : Option (Row k)} (hk : rows k = none) {l : Key} {x : Row l}
    (h : rows l = some x) : Function.update rows k v l = some x := by
  by_cases hl : l = k
  · subst hl
    rw [hk] at h
    cases h
  · rwa [Function.update_of_ne hl]

/-- The keys whose rows say how the commands stand. -/
def Key.isCommanded : Key → Bool
  | .operation _ => true
  | .command _ => true
  | .commandEntity _ _ => true
  | .outbox _ => true
  | _ => false

/-- The commands stand as they did while those rows are the same. -/
theorem Commanded.congr {H : Hashes} (hc : Commanded H rows)
    (h : ∀ k, k.isCommanded = true → rows' k = rows k) : Commanded H rows' where
  derived op c hrow seen hseen := by
    rw [h _ rfl] at hrow
    refine hc.derived op c hrow seen fun status => (hseen status).trans ?_
    constructor
    · rintro ⟨le, pid, row, he, hr, hs⟩
      exact ⟨le, pid, row, (h _ rfl).symm.trans he, (h _ rfl).symm.trans hr, hs⟩
    · rintro ⟨le, pid, row, he, hr, hs⟩
      exact ⟨le, pid, row, (h _ rfl).trans he, (h _ rfl).trans hr, hs⟩
  announced op c hrow := by
    rw [h _ rfl] at hrow
    exact (hc.announced op c hrow).mono fun id o ho => (h _ rfl).trans ho
  only id o ho e he ht := by
    rw [h _ rfl] at ho
    obtain ⟨op, c, d, hrow, hd⟩ := hc.only id o ho e he ht
    exact ⟨op, c, d, (h _ rfl).trans hrow, hd⟩
  valid op c hrow := by
    rw [h _ rfl] at hrow
    exact hc.valid op c hrow

/-- **A native id is recorded**: of a create step, that of its marked record; as
the primary client, that of the step that created the client. -/
theorem Ledger.withNative {key : String} {id : Int} (h : Ledger D rows engine)
    (hop : (rows (.operation pid)).isSome = true) (hnone : rows (.nativeMapping pid key) = none)
    (hmarked : ∀ row : OperationRow, ∀ b, rows (.operation pid) = some row → Planned D pid row b →
      ∀ step ∈ b.plan.steps, IdempiereAdapter.resourceKey step = key → Bound D engine b step id)
    (hprimary : key = IdempiereAdapter.clientAliasKey → ∀ row : OperationRow, ∀ b,
      rows (.operation pid) = some row → Planned D pid row b → ∀ step ∈ b.plan.steps,
        step.kind = .createClient →
          rows (.nativeMapping pid (IdempiereAdapter.resourceKey step)) = some id) :
    Ledger D (Function.update rows (.nativeMapping pid key) (some id)) engine := by
  obtain ⟨hl, hc, hp⟩ := h
  have hkeep : ∀ {l : Key} {x : Row l}, rows l = some x →
      Function.update rows (.nativeMapping pid key) (some id) l = some x := update_of_none hnone
  refine ⟨?_, hc.congr fun k hk => Function.update_of_ne (by rintro rfl; cases hk) _ _, ?_⟩
  · constructor
    · simpa [Function.update_of_ne] using hl.owner
    · simpa [Function.update_of_ne] using hl.key
    · simpa [Function.update_of_ne] using hl.owned
    · simpa [Function.update_of_ne] using hl.command
    · simpa [Function.update_of_ne] using hl.entity
    · simpa [Function.update_of_ne] using hl.step
    · intro p k hs
      rw [Function.update_of_ne (by simp)]
      by_cases hk : Key.nativeMapping p k = .nativeMapping pid key
      · cases hk
        exact hop
      · rw [Function.update_of_ne hk] at hs
        exact hl.native p k hs
    · simpa [Function.update_of_ne] using hl.tenantNative
  · refine ⟨fun p row hrow => ?_, fun p row b hrow hb => ?_, fun tenant le m hm => ?_⟩
    · rw [Function.update_of_ne (by simp)] at hrow
      exact hp.planned p row hrow
    · rw [Function.update_of_ne (by simp)] at hrow
      obtain ⟨hcreated, hprim, hdone, hfinished⟩ := hp.placed p row b hrow hb
      refine ⟨fun step hs i hi => ?_, fun i hi step hs hk => ?_,
        fun step hs srow hsrow => ?_, fun h₂ h₄ step hs => ?_⟩
      · by_cases heq : Key.nativeMapping p (IdempiereAdapter.resourceKey step) =
          .nativeMapping pid key
        · obtain ⟨rfl, hkey⟩ := Key.nativeMapping.inj heq
          subst hkey
          rw [Function.update_self] at hi
          obtain rfl := Option.some.inj hi
          exact hmarked row b hrow hb step hs rfl
        · rw [Function.update_of_ne heq] at hi
          exact hcreated step hs i hi
      · by_cases heq : Key.nativeMapping p IdempiereAdapter.clientAliasKey = .nativeMapping pid key
        · obtain ⟨rfl, hkey⟩ := Key.nativeMapping.inj heq
          subst hkey
          rw [Function.update_self] at hi
          obtain rfl := Option.some.inj hi
          exact hkeep (hprimary rfl row b hrow hb step hs hk)
        · rw [Function.update_of_ne heq] at hi
          exact hkeep (hprim i hi step hs hk)
      · rw [Function.update_of_ne (by simp)] at hsrow
        obtain ⟨hst, hd⟩ := hdone step hs srow hsrow
        exact ⟨hst, hd.mono (fun _ _ hi => hkeep hi) fun _ _ _ hm => hkeep hm⟩
      · rw [Function.update_of_ne (by simp)]
        exact hfinished h₂ h₄ step hs
    · rw [Function.update_of_ne (by simp)] at hm
      obtain ⟨p, row, b, hrow, hb, ht, hle, hprim, hm⟩ := hp.mapped tenant le m hm
      exact ⟨p, row, b, hkeep hrow, hb, ht, hle, hkeep hprim, hm⟩

/-- **A step is recorded** as completed with what it left. -/
theorem Ledger.withStep {key : String} {srow : StepRow} (h : Ledger D rows engine)
    (hop : (rows (.operation pid)).isSome = true)
    (hdone : ∀ row : OperationRow, ∀ b, rows (.operation pid) = some row → Planned D pid row b →
      ∀ step ∈ b.plan.steps, step.key = key →
        srow.status = "completed" ∧ Done pid b rows step srow) :
    Ledger D (Function.update rows (.step pid key) (some srow)) engine := by
  obtain ⟨hl, hc, hp⟩ := h
  have hnative : ∀ p k, Function.update rows (.step pid key) (some srow) (.nativeMapping p k) =
      rows (.nativeMapping p k) := fun p k => Function.update_of_ne (by simp) _ _
  have hmapping : ∀ t e, Function.update rows (.step pid key) (some srow) (.tenantMapping t e) =
      rows (.tenantMapping t e) := fun t e => Function.update_of_ne (by simp) _ _
  refine ⟨?_, hc.congr fun k hk => Function.update_of_ne (by rintro rfl; cases hk) _ _, ?_⟩
  · constructor
    · simpa [Function.update_of_ne] using hl.owner
    · simpa [Function.update_of_ne] using hl.key
    · simpa [Function.update_of_ne] using hl.owned
    · simpa [Function.update_of_ne] using hl.command
    · simpa [Function.update_of_ne] using hl.entity
    · intro p k hs
      rw [Function.update_of_ne (by simp)]
      by_cases hk : Key.step p k = .step pid key
      · cases hk
        exact hop
      · rw [Function.update_of_ne hk] at hs
        exact hl.step p k hs
    · simpa [Function.update_of_ne] using hl.native
    · simpa [Function.update_of_ne] using hl.tenantNative
  · refine ⟨fun p row hrow => ?_, fun p row b hrow hb => ?_, fun tenant le m hm => ?_⟩
    · rw [Function.update_of_ne (by simp)] at hrow
      exact hp.planned p row hrow
    · rw [Function.update_of_ne (by simp)] at hrow
      obtain ⟨hcreated, hprim, hd, hfinished⟩ := hp.placed p row b hrow hb
      have hkeep : ∀ {step : ProvisioningStep} {r : StepRow}, Done p b rows step r →
          Done p b (Function.update rows (.step pid key) (some srow)) step r := fun hd =>
        hd.mono (fun k i hi => (hnative p k).trans hi) fun t e m hm => (hmapping t e).trans hm
      refine ⟨fun step hs i hi => ?_, fun i hi step hs hk => ?_,
        fun step hs r hr => ?_, fun h₂ h₄ step hs => ?_⟩
      · rw [hnative] at hi
        exact hcreated step hs i hi
      · rw [hnative] at hi ⊢
        exact hprim i hi step hs hk
      · by_cases heq : Key.step p step.key = .step pid key
        · obtain ⟨rfl, hkey⟩ := Key.step.inj heq
          subst hkey
          rw [Function.update_self] at hr
          obtain rfl := Option.some.inj hr
          obtain ⟨hst, hd⟩ := hdone row b hrow hb step hs rfl
          exact ⟨hst, hkeep hd⟩
        · rw [Function.update_of_ne heq] at hr
          obtain ⟨hst, hd⟩ := hd step hs r hr
          exact ⟨hst, hkeep hd⟩
      · by_cases heq : Key.step p step.key = .step pid key
        · rw [heq, Function.update_self]
          rfl
        · rw [Function.update_of_ne heq]
          exact hfinished h₂ h₄ step hs
    · rw [hmapping] at hm
      obtain ⟨p, row, b, hrow, hb, ht, hle, hprim, hm⟩ := hp.mapped tenant le m hm
      exact ⟨p, row, b, by rwa [Function.update_of_ne (by simp)], hb, ht, hle,
        by rwa [hnative], hm⟩

/-- **A tenant mapping is recorded**, that of an operation with its primary client. -/
theorem Ledger.withMapping {tenant entity : String} {m : TenantMappingRow}
    (h : Ledger D rows engine) (hnone : rows (.tenantMapping tenant entity) = none)
    (horigin : ∃ row : OperationRow, ∃ b, rows (.operation pid) = some row ∧ Planned D pid row b ∧
      b.assignment.tenantId = tenant ∧ b.assignment.legalEntityId = entity ∧
      rows (.nativeMapping pid IdempiereAdapter.clientAliasKey) = some m.adClientId ∧
      m.adOrgId = 0 ∧ m.engineInstanceId = some b.assignment.engineInstanceId) :
    Ledger D (Function.update (Function.update rows (.tenantMapping tenant entity) (some m))
      (.tenantNative m.adClientId m.adOrgId) (some (tenant, entity))) engine := by
  obtain ⟨hl, hc, hp⟩ := h
  refine ⟨?_, hc.congr fun k hk => ?_, ?_⟩
  · constructor
    · simpa [Function.update_of_ne] using hl.owner
    · simpa [Function.update_of_ne] using hl.key
    · simpa [Function.update_of_ne] using hl.owned
    · simpa [Function.update_of_ne] using hl.command
    · simpa [Function.update_of_ne] using hl.entity
    · simpa [Function.update_of_ne] using hl.step
    · simpa [Function.update_of_ne] using hl.native
    · intro client org t e hs
      rw [Function.update_of_ne (by simp)]
      by_cases hk : Key.tenantNative client org = .tenantNative m.adClientId m.adOrgId
      · obtain ⟨rfl, rfl⟩ := Key.tenantNative.inj hk
        rw [Function.update_self] at hs
        obtain ⟨rfl, rfl⟩ := Prod.mk.inj (Option.some.inj hs)
        exact ⟨m, Function.update_self .., rfl, rfl⟩
      · rw [Function.update_of_ne hk, Function.update_of_ne (by simp)] at hs
        obtain ⟨m', hm', hids⟩ := hl.tenantNative client org t e hs
        exact ⟨m', update_of_none hnone hm', hids⟩
  · rw [Function.update_of_ne (by rintro rfl; cases hk),
      Function.update_of_ne (by rintro rfl; cases hk)]
  · have hnative : ∀ p k, Function.update (Function.update rows (.tenantMapping tenant entity)
        (some m)) (.tenantNative m.adClientId m.adOrgId) (some (tenant, entity))
        (.nativeMapping p k) = rows (.nativeMapping p k) := fun p k => by
      rw [Function.update_of_ne (by simp), Function.update_of_ne (by simp)]
    have hstep : ∀ p k, Function.update (Function.update rows (.tenantMapping tenant entity)
        (some m)) (.tenantNative m.adClientId m.adOrgId) (some (tenant, entity)) (.step p k) =
        rows (.step p k) := fun p k => by
      rw [Function.update_of_ne (by simp), Function.update_of_ne (by simp)]
    have hop : ∀ p, Function.update (Function.update rows (.tenantMapping tenant entity)
        (some m)) (.tenantNative m.adClientId m.adOrgId) (some (tenant, entity)) (.operation p) =
        rows (.operation p) := fun p => by
      rw [Function.update_of_ne (by simp), Function.update_of_ne (by simp)]
    refine ⟨fun p row hrow => ?_, fun p row b hrow hb => ?_, fun t e m' hm => ?_⟩
    · rw [hop] at hrow
      exact hp.planned p row hrow
    · rw [hop] at hrow
      obtain ⟨hcreated, hprim, hd, hfinished⟩ := hp.placed p row b hrow hb
      refine ⟨fun step hs i hi => ?_, fun i hi step hs hk => ?_,
        fun step hs r hr => ?_, fun h₂ h₄ step hs => ?_⟩
      · rw [hnative] at hi
        exact hcreated step hs i hi
      · rw [hnative] at hi ⊢
        exact hprim i hi step hs hk
      · rw [hstep] at hr
        obtain ⟨hst, hd⟩ := hd step hs r hr
        refine ⟨hst, hd.mono (fun k i hi => (hnative p k).trans hi) fun t e m' hm => ?_⟩
        rw [Function.update_of_ne (by simp)]
        exact update_of_none hnone hm
      · rw [hstep]
        exact hfinished h₂ h₄ step hs
    · rw [Function.update_of_ne (by simp)] at hm
      by_cases heq : Key.tenantMapping t e = .tenantMapping tenant entity
      · obtain ⟨rfl, rfl⟩ := Key.tenantMapping.inj heq
        rw [Function.update_self] at hm
        obtain rfl := Option.some.inj hm
        obtain ⟨row, b, hrow, hb, ht, he, hprim, hm⟩ := horigin
        exact ⟨pid, row, b, by rwa [hop], hb, ht, he, by rwa [hnative], hm⟩
      · rw [Function.update_of_ne heq] at hm
        obtain ⟨p, row, b, hrow, hb, ht, hle, hprim, hm⟩ := hp.mapped t e m' hm
        exact ⟨p, row, b, by rwa [hop], hb, ht, hle, by rwa [hnative], hm⟩

/-! ### A status, and the command it moves -/

theorem Derived.congr {seen seen' : List ProvisioningStatus} {state : CommandState}
    {code : Option String} (h : Derived seen state code) (hiff : ∀ s, s ∈ seen' ↔ s ∈ seen) :
    Derived seen' state code := by
  cases h with
  | failed hmem => exact .failed ((hiff _).2 hmem)
  | active hall => exact .active fun s hs => hall s ((hiff s).1 hs)
  | accepted hall => exact .accepted fun s hs => hall s ((hiff s).1 hs)
  | reconciling hall htwo =>
    obtain ⟨s, hs, h2⟩ := htwo
    exact .reconciling (fun s hs => hall s ((hiff s).1 hs)) ⟨s, (hiff s).2 hs, h2⟩
  | provisioning hall hlow hhigh =>
    obtain ⟨s, hs, h2⟩ := hlow
    obtain ⟨t, ht, h1⟩ := hhigh
    exact .provisioning (fun s hs => hall s ((hiff s).1 hs)) ⟨s, (hiff s).2 hs, h2⟩
      ⟨t, (hiff t).2 ht, h1⟩

/-- The keys whose rows say how far the operations have come. -/
def Key.isProvisioned : Key → Bool
  | .operation _ => true
  | .step _ _ => true
  | .nativeMapping _ _ => true
  | .tenantMapping _ _ => true
  | _ => false

/-- The operations stand as they did while those rows are the same. -/
theorem Provisioned.congr (hp : Provisioned D rows engine)
    (h : ∀ k, k.isProvisioned = true → rows' k = rows k) : Provisioned D rows' engine where
  planned pid row hrow := by
    rw [h _ rfl] at hrow
    exact hp.planned pid row hrow
  placed pid row b hrow hb := by
    rw [h _ rfl] at hrow
    obtain ⟨hcreated, hprim, hd, hfinished⟩ := hp.placed pid row b hrow hb
    refine ⟨fun step hs i hi => ?_, fun i hi step hs hk => ?_,
      fun step hs r hr => ?_, fun h₂ h₄ step hs => ?_⟩
    · rw [h _ rfl] at hi
      exact hcreated step hs i hi
    · rw [h _ rfl] at hi ⊢
      exact hprim i hi step hs hk
    · rw [h _ rfl] at hr
      obtain ⟨hst, hd⟩ := hd step hs r hr
      exact ⟨hst, hd.mono (fun k i hi => (h _ rfl).trans hi) fun t e m hm => (h _ rfl).trans hm⟩
    · rw [h _ rfl]
      exact hfinished h₂ h₄ step hs
  mapped tenant le m hm := by
    rw [h _ rfl] at hm
    obtain ⟨pid, row, b, hrow, hb, ht, hle, hprim, hm⟩ := hp.mapped tenant le m hm
    exact ⟨pid, row, b, (h _ rfl).trans hrow, hb, ht, hle, (h _ rfl).trans hprim, hm⟩

/-- The operation's row with another status. -/
def OperationRow.Moved (row row' : OperationRow) : Prop := row'.core.2 = row.core.2

theorem Planned.moved {row row' : OperationRow} {b : Blueprint} (h : Planned D pid row b)
    (hmoved : row.Moved row') : Planned D pid row' b := by
  obtain ⟨hstate, hcore⟩ := Prod.mk.inj hmoved
  obtain ⟨hdigest, hplan⟩ := Prod.mk.inj hcore
  exact { h with state := hstate ▸ h.state, digest := hdigest ▸ h.digest, steps := hplan ▸ h.steps }

theorem OperationRow.Moved.symm {row row' : OperationRow} (h : row.Moved row') : row'.Moved row :=
  Eq.symm h

theorem Provisioned.withStatus {row row' : OperationRow} (hp : Provisioned D rows engine)
    (hrow : rows (.operation pid) = some row) (hmoved : row.Moved row')
    (hexec : row'.status.executed)
    (hfin : 2 ≤ row'.status.rank → row'.status.rank < 4 → ∀ b, Planned D pid row b →
      ∀ step ∈ b.plan.steps, (rows (.step pid step.key)).isSome = true) :
    Provisioned D (Function.update rows (.operation pid) (some row')) engine := by
  have hne : ∀ k, (∀ p, k ≠ .operation p) →
      Function.update rows (.operation pid) (some row') k = rows k :=
    fun k hk => Function.update_of_ne (hk pid) _ _
  have hnative : ∀ p k, Function.update rows (.operation pid) (some row') (.nativeMapping p k) =
      rows (.nativeMapping p k) := fun p k => hne _ fun _ h => by cases h
  have hstep : ∀ p k, Function.update rows (.operation pid) (some row') (.step p k) =
      rows (.step p k) := fun p k => hne _ fun _ h => by cases h
  have hmapping : ∀ t e, Function.update rows (.operation pid) (some row') (.tenantMapping t e) =
      rows (.tenantMapping t e) := fun t e => hne _ fun _ h => by cases h
  -- every operation row is an earlier one with at most its status changed
  have hback : ∀ p (r : OperationRow), Function.update rows (.operation pid) (some row')
      (.operation p) = some r → ∃ r₀ : OperationRow, rows (.operation p) = some r₀ ∧ r₀.Moved r ∧
        (r₀ = r ∨ (p = pid ∧ r = row' ∧ r₀ = row)) := by
    intro p r hr
    by_cases hpid : p = pid
    · subst hpid
      rw [Function.update_self] at hr
      obtain rfl := Option.some.inj hr
      exact ⟨row, hrow, hmoved, .inr ⟨rfl, rfl, rfl⟩⟩
    · rw [Function.update_of_ne (by simpa using hpid)] at hr
      exact ⟨r, hr, rfl, .inl rfl⟩
  refine ⟨fun p r hr => ?_, fun p r b hr hb => ?_, fun t e m hm => ?_⟩
  · obtain ⟨r₀, hr₀, hm, hcase⟩ := hback p r hr
    obtain ⟨hex, b, hb⟩ := hp.planned p r₀ hr₀
    refine ⟨?_, b, hb.moved hm⟩
    rcases hcase with rfl | ⟨-, rfl, -⟩
    · exact hex
    · exact hexec
  · obtain ⟨r₀, hr₀, hm, hcase⟩ := hback p r hr
    obtain ⟨hcreated, hprim, hd, hfinished⟩ := hp.placed p r₀ b hr₀ (hb.moved hm.symm)
    refine ⟨fun step hs i hi => ?_, fun i hi step hs hk => ?_,
      fun step hs sr hsr => ?_, fun h₂ h₄ step hs => ?_⟩
    · rw [hnative] at hi
      exact hcreated step hs i hi
    · rw [hnative] at hi ⊢
      exact hprim i hi step hs hk
    · rw [hstep] at hsr
      obtain ⟨hst, hd⟩ := hd step hs sr hsr
      exact ⟨hst, hd.mono (fun k i hi => (hnative p k).trans hi)
        fun t e m hm => (hmapping t e).trans hm⟩
    · rw [hstep]
      rcases hcase with rfl | ⟨rfl, rfl, rfl⟩
      · exact hfinished h₂ h₄ step hs
      · exact hfin h₂ h₄ b (hb.moved hm.symm) step hs
  · rw [hmapping] at hm
    obtain ⟨p, r, b, hr, hb, ht, he, hprim, hm⟩ := hp.mapped t e m hm
    by_cases hpid : p = pid
    · subst hpid
      obtain rfl : r = row := Option.some.inj (hr.symm.trans hrow)
      exact ⟨p, row', b, Function.update_self .., hb.moved hmoved, ht, he, by rwa [hnative], hm⟩
    · exact ⟨p, r, b, by rwa [Function.update_of_ne (by simpa using hpid)], hb, ht, he,
        by rwa [hnative], hm⟩

/-- An operation belongs to one command. -/
theorem Linked.unique (hl : Linked rows) {op op' le le' : String}
    (h : rows (.commandEntity op le) = some pid) (h' : rows (.commandEntity op' le') = some pid) :
    op = op' ∧ le = le' := by
  have := Option.some.inj (((hl.owner op le pid).1 h).symm.trans ((hl.owner op' le' pid).1 h'))
  exact Prod.mk.inj this

/-- A status changes the statuses of its own command only. -/
theorem hasStatus_other {op op' le : String} {row' : OperationRow} {status : ProvisioningStatus}
    (hl : Linked rows) (howner : rows (.entityOwner pid) = some (op, le)) (hne : op' ≠ op) :
    HasStatus (Function.update rows (.operation pid) (some row')) op' status ↔
      HasStatus rows op' status := by
  have hpid : ∀ {le' p}, rows (.commandEntity op' le') = some p → p ≠ pid := by
    rintro le' p he rfl
    exact hne (hl.unique he ((hl.owner op le p).2 howner)).1
  constructor
  · rintro ⟨le', p, r, he, hr, hs⟩
    rw [Function.update_of_ne (by simp)] at he
    rw [Function.update_of_ne fun h => hpid he (Key.operation.inj h)] at hr
    exact ⟨le', p, r, he, hr, hs⟩
  · rintro ⟨le', p, r, he, hr, hs⟩
    exact ⟨le', p, r, by rwa [Function.update_of_ne (by simp)],
      by rwa [Function.update_of_ne fun h => hpid he (Key.operation.inj h)], hs⟩

theorem hasStatus_congr {op : String} {status : ProvisioningStatus}
    (hentity : ∀ le, rows' (.commandEntity op le) = rows (.commandEntity op le))
    (hop : ∀ p, rows' (.operation p) = rows (.operation p)) :
    HasStatus rows' op status ↔ HasStatus rows op status := by
  constructor
  · rintro ⟨le, p, r, he, hr, hs⟩
    exact ⟨le, p, r, (hentity le).symm.trans he, (hop p).symm.trans hr, hs⟩
  · rintro ⟨le, p, r, he, hr, hs⟩
    exact ⟨le, p, r, (hentity le).trans he, (hop p).trans hr, hs⟩

/-- **A status is changed and its command stays**: the statuses there are then
still make it what it is. -/
theorem Ledger.withStatus {op le : String} {row row' : OperationRow} {c : CommandRow}
    {seen : List ProvisioningStatus} (h : Ledger D rows engine)
    (hrow : rows (.operation pid) = some row) (hmoved : row.Moved row')
    (hexec : row'.status.executed)
    (hfin : 2 ≤ row'.status.rank → row'.status.rank < 4 → ∀ b, Planned D pid row b →
      ∀ step ∈ b.plan.steps, (rows (.step pid step.key)).isSome = true)
    (howner : rows (.entityOwner pid) = some (op, le)) (hc : rows (.command op) = some c)
    (hseen : Statuses (Function.update rows (.operation pid) (some row')) op seen)
    (hderived : Derived seen c.state c.failureCode) :
    Ledger D (Function.update rows (.operation pid) (some row')) engine := by
  obtain ⟨hl, hcom, hp⟩ := h
  have hne : ∀ k, (∀ p, k ≠ .operation p) →
      Function.update rows (.operation pid) (some row') k = rows k :=
    fun k hk => Function.update_of_ne (hk pid) _ _
  refine ⟨?_, ?_, hp.withStatus hrow hmoved hexec hfin⟩
  · refine hl.congr (fun k hk => hne k fun p hkp => ?_) (fun p => ?_)
      (fun op' d hd => ⟨d, (hne _ fun _ h => by cases h).trans hd, rfl, rfl⟩)
      fun op' d hd => ⟨d, (hne _ fun _ h => by cases h).symm.trans hd, rfl, rfl⟩
    · subst hkp
      cases hk
    · by_cases hpid : p = pid
      · subst hpid
        rw [Function.update_self, hrow]
        rfl
      · rw [Function.update_of_ne (by simpa using hpid)]
  · refine ⟨fun op' d hd seen' hseen' => ?_, fun op' d hd => ?_, fun id o ho e he ht => ?_,
      fun op' d hd => ?_⟩
    · rw [hne _ fun _ h => by cases h] at hd
      by_cases hop : op' = op
      · subst hop
        obtain rfl : c = d := Option.some.inj (hc.symm.trans hd)
        exact hderived.congr fun s => (hseen' s).trans (hseen s).symm
      · exact hcom.derived op' d hd seen' fun s =>
          (hseen' s).trans (hasStatus_other hl howner hop)
    · rw [hne _ fun _ h => by cases h] at hd
      exact (hcom.announced op' d hd).mono fun id o ho => (hne _ fun _ h => by cases h).trans ho
    · rw [hne _ fun _ h => by cases h] at ho
      obtain ⟨op', d, d', hd, hd'⟩ := hcom.only id o ho e he ht
      exact ⟨op', d, d', (hne _ fun _ h => by cases h).trans hd, hd'⟩
    · rw [hne _ fun _ h => by cases h] at hd
      exact hcom.valid op' d hd

/-- A command with one more revision. -/
def CommandRow.Next (c d : CommandRow) : Prop :=
  d.tenantId = c.tenantId ∧ d.idempotencyKey = c.idempotencyKey ∧
    d.requestFingerprint = c.requestFingerprint ∧ d.revision = c.revision + 1 ∧
    c.state.rank < d.state.rank

/-- One more announced revision. -/
theorem Announced.next {H : Hashes} {op : String} {c d : CommandRow} {o : OutboxRow}
    (h : Announced H rows op c) (hnext : c.Next d)
    (hkeep : ∀ id, ∀ o : OutboxRow, rows (.outbox id) = some o → rows' (.outbox id) = some o)
    (ho : rows' (.outbox (CommandEvents.eventId H op d.revision)) = some o)
    (hcontent : o.content = .event (CommandEvents.changed H op d)) : Announced H rows' op d := by
  obtain ⟨-, -, -, hrev, hrank⟩ := hnext
  obtain ⟨history, hlast, hpos, heach, hup⟩ := h
  have hself : Function.update history d.revision d d.revision = d := Function.update_self ..
  have hold : ∀ i, i ≤ c.revision → Function.update history d.revision d i = history i :=
    fun i hi => Function.update_of_ne (by omega) _ _
  refine ⟨Function.update history d.revision d, hself, by omega, fun i h₁ h₂ => ?_,
    fun i h₁ h₂ => ?_⟩
  · by_cases hi : i = d.revision
    · subst hi
      rw [hself]
      exact ⟨rfl, o, ho, hcontent⟩
    · rw [hold i (by omega)]
      obtain ⟨hri, hann⟩ := heach i h₁ (by omega)
      exact ⟨hri, hann.mono hkeep⟩
  · rw [hold i (by omega)]
    by_cases hi : i + 1 = d.revision
    · rw [hi, hself, show i = c.revision by omega, hlast]
      exact hrank
    · rw [hold (i + 1) (by omega)]
      exact hup i h₁ (by omega)

/-- **A status is changed and moves its command**, which announces it. -/
theorem Ledger.withRevision {op le : String} {row row' : OperationRow} {c d : CommandRow}
    {seen : List ProvisioningStatus} {o : OutboxRow} (h : Ledger D rows engine)
    (hrow : rows (.operation pid) = some row) (hmoved : row.Moved row')
    (hexec : row'.status.executed)
    (hfin : 2 ≤ row'.status.rank → row'.status.rank < 4 → ∀ b, Planned D pid row b →
      ∀ step ∈ b.plan.steps, (rows (.step pid step.key)).isSome = true)
    (howner : rows (.entityOwner pid) = some (op, le)) (hc : rows (.command op) = some c)
    (hseen : Statuses (Function.update rows (.operation pid) (some row')) op seen)
    (hderived : Derived seen d.state d.failureCode) (hnext : c.Next d)
    (hnone : rows (.outbox (CommandEvents.eventId D.hashes op d.revision)) = none)
    (hcontent : o.content = .event (CommandEvents.changed D.hashes op d)) :
    Ledger D (Function.update (Function.update (Function.update rows (.operation pid) (some row'))
      (.command op) (some d)) (.outbox (CommandEvents.eventId D.hashes op d.revision)) (some o))
      engine := by
  obtain ⟨hl, hcom, hp⟩ := h
  set id := CommandEvents.eventId D.hashes op d.revision with hid
  set new : Rows := Function.update (Function.update (Function.update rows (.operation pid)
    (some row')) (.command op) (some d)) (.outbox id) (some o) with hnew
  have hne : ∀ k, (∀ p, k ≠ .operation p) → (∀ p, k ≠ .command p) → (∀ p, k ≠ .outbox p) →
      new k = rows k := fun k h₁ h₂ h₃ => by
    rw [hnew, Function.update_of_ne (h₃ id), Function.update_of_ne (h₂ op),
      Function.update_of_ne (h₁ pid)]
  have hops : ∀ p, new (.operation p) =
      Function.update rows (.operation pid) (some row') (.operation p) := fun p => by
    rw [hnew, Function.update_of_ne (by simp), Function.update_of_ne (by simp)]
  have hself : new (.command op) = some d := by
    rw [hnew, Function.update_of_ne (by simp), Function.update_self]
    rfl
  have hother : ∀ op', op' ≠ op → new (.command op') = rows (.command op') := fun op' hop => by
    rw [hnew, Function.update_of_ne (by simp), Function.update_of_ne (by simpa using hop),
      Function.update_of_ne (by simp)]
  have hout : ∀ i, ∀ x : OutboxRow, rows (.outbox i) = some x → new (.outbox i) = some x :=
    fun i x hx => by
      rw [hnew]
      refine update_of_none ?_ ?_
      · rw [Function.update_of_ne (by simp), Function.update_of_ne (by simp)]
        exact hnone
      · rwa [Function.update_of_ne (by simp), Function.update_of_ne (by simp)]
  have hentity : ∀ op' le', new (.commandEntity op' le') = rows (.commandEntity op' le') :=
    fun op' le' => hne _ (fun _ h => by cases h) (fun _ h => by cases h) fun _ h => by cases h
  have hstatus : ∀ op' s, HasStatus new op' s ↔
      HasStatus (Function.update rows (.operation pid) (some row')) op' s := fun op' s =>
    hasStatus_congr (fun le' => by rw [hentity, Function.update_of_ne (by simp)]) hops
  have hnext' := hnext
  obtain ⟨htenant, hkey, -, hrev, hrank⟩ := hnext'
  refine ⟨?_, ?_, (hp.withStatus hrow hmoved hexec hfin).congr fun k hk => ?_⟩
  · refine hl.congr (fun k hk => hne k ?_ ?_ ?_) (fun p => ?_) (fun op' x hx => ?_)
      fun op' x hx => ?_
    · rintro p rfl
      cases hk
    · rintro p rfl
      cases hk
    · rintro p rfl
      cases hk
    · rw [hops]
      by_cases hpid : p = pid
      · subst hpid
        rw [Function.update_self, hrow]
        rfl
      · rw [Function.update_of_ne (by simpa using hpid)]
    · by_cases hop : op' = op
      · subst hop
        obtain rfl : c = x := Option.some.inj (hc.symm.trans hx)
        exact ⟨d, hself, htenant, hkey⟩
      · exact ⟨x, (hother op' hop).trans hx, rfl, rfl⟩
    · by_cases hop : op' = op
      · subst hop
        obtain rfl : d = x := Option.some.inj (hself.symm.trans hx)
        exact ⟨c, hc, htenant, hkey⟩
      · exact ⟨x, (hother op' hop).symm.trans hx, rfl, rfl⟩
  · refine ⟨fun op' x hx seen' hseen' => ?_, fun op' x hx => ?_, fun i x hx e he ht => ?_,
      fun op' x hx => ?_⟩
    · by_cases hop : op' = op
      · subst hop
        obtain rfl : d = x := Option.some.inj (hself.symm.trans hx)
        exact hderived.congr fun s => ((hseen' s).trans (hstatus op' s)).trans (hseen s).symm
      · rw [hother op' hop] at hx
        exact hcom.derived op' x hx seen' fun s =>
          ((hseen' s).trans (hstatus op' s)).trans (hasStatus_other hl howner hop)
    · by_cases hop : op' = op
      · subst hop
        obtain rfl : d = x := Option.some.inj (hself.symm.trans hx)
        exact (hcom.announced op' c hc).next hnext hout (Function.update_self ..) hcontent
      · rw [hother op' hop] at hx
        exact (hcom.announced op' x hx).mono hout
    · by_cases hi : i = id
      · subst hi
        rw [hnew, Function.update_self] at hx
        obtain rfl := Option.some.inj hx
        rw [hcontent] at he
        obtain rfl := OutboxContent.event.inj he
        exact ⟨op, d, d, hself, by omega, Nat.le_refl _, hid, rfl⟩
      · rw [hnew, Function.update_of_ne (by simpa using hi), Function.update_of_ne (by simp),
          Function.update_of_ne (by simp)] at hx
        obtain ⟨op', x', y, hx', hpos, hle, hrest⟩ := hcom.only i x hx e he ht
        by_cases hop : op' = op
        · subst hop
          obtain rfl : c = x' := Option.some.inj (hc.symm.trans hx')
          exact ⟨op', d, y, hself, hpos, by omega, hrest⟩
        · exact ⟨op', x', y, (hother op' hop).trans hx', hpos, hle, hrest⟩
    · by_cases hop : op' = op
      · subst hop
        obtain rfl : d = x := Option.some.inj (hself.symm.trans hx)
        obtain ⟨hle, y, hy, hvalid⟩ := hcom.valid op' c hc
        exact ⟨by omega, y, hy.trans htenant.symm, hvalid⟩
      · rw [hother op' hop] at hx
        exact hcom.valid op' x hx
  · rw [hnew, Function.update_of_ne (by rintro rfl; cases hk),
      Function.update_of_ne (by rintro rfl; cases hk)]

/-! ### A new command -/

/-- Some rows over others. -/
def Rows.over (new rows : Rows) : Rows := fun k =>
  match new k with
  | some v => some v
  | none => rows k

theorem Rows.over_some {new : Rows} {k : Key} {v : Row k} (h : new k = some v) :
    new.over rows k = some v := by
  unfold Rows.over
  rw [h]

theorem Rows.over_none {new : Rows} {k : Key} (h : new k = none) : new.over rows k = rows k := by
  unfold Rows.over
  rw [h]

theorem Rows.over_cases {new : Rows} {k : Key} {v : Row k} (h : new.over rows k = some v) :
    new k = some v ∨ (new k = none ∧ rows k = some v) := by
  cases hn : new k with
  | some u =>
    rw [Rows.over_some hn] at h
    exact .inl h
  | none =>
    rw [Rows.over_none hn] at h
    exact .inr ⟨rfl, h⟩

/-- **What accepting a command writes**: the command, its operations and the links
between them, and the event of its first revision. -/
structure Accepts (D : ProvisioningDeployment) (rows : Rows) (op : String) (c : CommandRow)
    (new : Rows) : Prop where
  fresh : ∀ k, ∀ v, new k = some v → rows k = none
  operation : ∀ pid, ∀ row : OperationRow, new (.operation pid) = some row →
    row.status = .planned ∧ ∃ b, Planned D pid row b
  command : new (.command op) = some c
  onlyCommand : ∀ op', ∀ d : CommandRow, new (.command op') = some d → op' = op
  key : ∀ tenant key op', new (.commandKey tenant key) = some op' ↔
    op' = op ∧ c.tenantId = tenant ∧ c.idempotencyKey = key
  entity : ∀ op' le pid, new (.commandEntity op' le) = some pid ↔
    new (.entityOwner pid) = some (op', le)
  owner : ∀ op' le pid, new (.commandEntity op' le) = some pid →
    op' = op ∧ (new (.operation pid)).isSome = true
  owned : ∀ pid, (new (.operation pid)).isSome = true → (new (.entityOwner pid)).isSome = true
  entities : ∃ le, (new (.commandEntity op le)).isSome = true
  event : ∃ o : OutboxRow, new (.outbox (CommandEvents.eventId D.hashes op 1)) = some o ∧
    o.content = .event (CommandEvents.changed D.hashes op c)
  onlyEvent : ∀ id, ∀ o : OutboxRow, new (.outbox id) = some o →
    id = CommandEvents.eventId D.hashes op 1
  rest : ∀ k, k.isProvisioned = true → Query.isOperation k = false → new k = none
  native : ∀ client org, new (.tenantNative client org) = none
  state : c.state = .accepted ∧ c.failureCode = none ∧ c.revision = 1
  valid : (CommandEvents.provisioningChanged D.hashes op c).toOption.isSome = true

section Accepts

variable {op : String} {c : CommandRow} {new : Rows}

theorem Accepts.keep (ha : Accepts D rows op c new) {k : Key} {v : Row k} (h : rows k = some v) :
    new.over rows k = some v := by
  cases hn : new k with
  | some u =>
    rw [ha.fresh k u hn] at h
    cases h
  | none =>
    rw [Rows.over_none hn]
    exact h

theorem Accepts.linked (ha : Accepts D rows op c new) (hl : Linked rows) :
    Linked (new.over rows) where
  owner op' le pid := by
    constructor
    · intro h
      rcases Rows.over_cases h with h | ⟨-, h⟩
      · exact Rows.over_some ((ha.entity op' le pid).1 h)
      · exact ha.keep ((hl.owner op' le pid).1 h)
    · intro h
      rcases Rows.over_cases h with h | ⟨-, h⟩
      · exact Rows.over_some ((ha.entity op' le pid).2 h)
      · exact ha.keep ((hl.owner op' le pid).2 h)
  key tenant key op' := by
    constructor
    · intro h
      rcases Rows.over_cases h with h | ⟨-, h⟩
      · obtain ⟨rfl, ht, hk⟩ := (ha.key tenant key op').1 h
        exact ⟨c, Rows.over_some ha.command, ht, hk⟩
      · obtain ⟨d, hd, ht, hk⟩ := (hl.key tenant key op').1 h
        exact ⟨d, ha.keep hd, ht, hk⟩
    · rintro ⟨d, hd, ht, hk⟩
      rcases Rows.over_cases hd with hd | ⟨-, hd⟩
      · obtain rfl := ha.onlyCommand op' d hd
        obtain rfl : c = d := Option.some.inj (ha.command.symm.trans hd)
        exact Rows.over_some ((ha.key tenant key op').2 ⟨rfl, ht, hk⟩)
      · exact ha.keep ((hl.key tenant key op').2 ⟨d, hd, ht, hk⟩)
  owned pid := by
    rw [Bool.eq_iff_iff, Option.isSome_iff_exists, Option.isSome_iff_exists]
    constructor
    · rintro ⟨row, h⟩
      rcases Rows.over_cases h with h | ⟨-, h⟩
      · obtain ⟨x, hx⟩ := Option.isSome_iff_exists.1 (ha.owned pid (by rw [h]; rfl))
        exact ⟨x, Rows.over_some hx⟩
      · have hsome : (rows (.operation pid)).isSome = true := by rw [h]; rfl
        rw [hl.owned pid] at hsome
        obtain ⟨x, hx⟩ := Option.isSome_iff_exists.1 hsome
        exact ⟨x, ha.keep hx⟩
    · rintro ⟨⟨op', le⟩, h⟩
      rcases Rows.over_cases h with h | ⟨-, h⟩
      · obtain ⟨-, hsome⟩ := ha.owner op' le pid ((ha.entity op' le pid).2 h)
        obtain ⟨x, hx⟩ := Option.isSome_iff_exists.1 hsome
        exact ⟨x, Rows.over_some hx⟩
      · have hsome : (rows (.entityOwner pid)).isSome = true := by rw [h]; rfl
        rw [← hl.owned pid] at hsome
        obtain ⟨x, hx⟩ := Option.isSome_iff_exists.1 hsome
        exact ⟨x, ha.keep hx⟩
  command op' le h := by
    obtain ⟨pid, h⟩ := Option.isSome_iff_exists.1 h
    rcases Rows.over_cases h with h | ⟨-, h⟩
    · obtain ⟨rfl, -⟩ := ha.owner op' le pid h
      rw [Rows.over_some ha.command]
      rfl
    · obtain ⟨d, hd⟩ := Option.isSome_iff_exists.1 (hl.command op' le (by rw [h]; rfl))
      rw [ha.keep hd]
      rfl
  entity op' h := by
    obtain ⟨d, h⟩ := Option.isSome_iff_exists.1 h
    rcases Rows.over_cases h with h | ⟨-, h⟩
    · obtain rfl := ha.onlyCommand op' d h
      obtain ⟨le, hle⟩ := ha.entities
      obtain ⟨pid, hpid⟩ := Option.isSome_iff_exists.1 hle
      exact ⟨le, by rw [Rows.over_some hpid]; rfl⟩
    · obtain ⟨le, hle⟩ := hl.entity op' (by rw [h]; rfl)
      obtain ⟨pid, hpid⟩ := Option.isSome_iff_exists.1 hle
      exact ⟨le, by rw [ha.keep hpid]; rfl⟩
  step pid key h := by
    rw [Rows.over_none (ha.rest _ rfl rfl)] at h
    obtain ⟨x, hx⟩ := Option.isSome_iff_exists.1 (hl.step pid key h)
    rw [ha.keep hx]
    rfl
  native pid key h := by
    rw [Rows.over_none (ha.rest _ rfl rfl)] at h
    obtain ⟨x, hx⟩ := Option.isSome_iff_exists.1 (hl.native pid key h)
    rw [ha.keep hx]
    rfl
  tenantNative client org tenant le h := by
    rw [Rows.over_none (ha.native client org)] at h
    obtain ⟨m, hm, hids⟩ := hl.tenantNative client org tenant le h
    exact ⟨m, ha.keep hm, hids⟩

/-- The statuses of the other commands are what they were. -/
theorem Accepts.hasStatus_other (ha : Accepts D rows op c new) (hl : Linked rows) {op' : String}
    {status : ProvisioningStatus} (hne : op' ≠ op) (h : HasStatus (new.over rows) op' status) :
    HasStatus rows op' status := by
  obtain ⟨le, pid, row, he, hr, hs⟩ := h
  rcases Rows.over_cases he with he | ⟨-, he⟩
  · exact absurd (ha.owner op' le pid he).1 hne
  · have hsome : (rows (.entityOwner pid)).isSome = true := by
      rw [(hl.owner op' le pid).1 he]
      rfl
    rw [← hl.owned pid] at hsome
    obtain ⟨x, hx⟩ := Option.isSome_iff_exists.1 hsome
    obtain rfl : x = row := Option.some.inj ((ha.keep hx).symm.trans hr)
    exact ⟨le, pid, x, he, hx, hs⟩

/-- Its operations are planned. -/
theorem Accepts.hasStatus_self (ha : Accepts D rows op c new) (hl : Linked rows)
    {status : ProvisioningStatus} (h : HasStatus (new.over rows) op status) : status = .planned := by
  obtain ⟨le, pid, row, he, hr, hs⟩ := h
  rcases Rows.over_cases he with he | ⟨-, he⟩
  · obtain ⟨x, hx⟩ := Option.isSome_iff_exists.1 (ha.owner op le pid he).2
    obtain rfl : x = row := Option.some.inj ((Rows.over_some hx).symm.trans hr)
    rw [← hs]
    exact (ha.operation pid x hx).1
  · obtain ⟨d, hd⟩ := Option.isSome_iff_exists.1 (hl.command op le (by rw [he]; rfl))
    rw [ha.fresh _ _ ha.command] at hd
    cases hd

theorem Accepts.commanded (ha : Accepts D rows op c new) (hl : Linked rows)
    (hc : Commanded D.hashes rows) : Commanded D.hashes (new.over rows) where
  derived op' d hd seen hseen := by
    rcases Rows.over_cases hd with hd | ⟨hnone, hd⟩
    · obtain rfl := ha.onlyCommand op' d hd
      obtain rfl : c = d := Option.some.inj (ha.command.symm.trans hd)
      rw [ha.state.1, ha.state.2.1]
      refine .accepted fun s hs => ?_
      rw [ha.hasStatus_self hl ((hseen s).1 hs)]
      rfl
    · have hne : op' ≠ op := by
        rintro rfl
        rw [ha.command] at hnone
        cases hnone
      refine hc.derived op' d hd seen fun s => (hseen s).trans ⟨ha.hasStatus_other hl hne, ?_⟩
      rintro ⟨le, pid, row, he, hr, hs⟩
      exact ⟨le, pid, row, ha.keep he, ha.keep hr, hs⟩
  announced op' d hd := by
    rcases Rows.over_cases hd with hd | ⟨-, hd⟩
    · obtain rfl := ha.onlyCommand op' d hd
      obtain rfl : c = d := Option.some.inj (ha.command.symm.trans hd)
      obtain ⟨o, ho, hcontent⟩ := ha.event
      have hrev := ha.state.2.2
      refine ⟨fun _ => c, rfl, by omega, fun i h₁ h₂ => ?_, fun i h₁ h₂ => by omega⟩
      obtain rfl : i = 1 := by omega
      refine ⟨hrev, o, ?_, hcontent⟩
      rw [hrev]
      exact Rows.over_some ho
    · exact (hc.announced op' d hd).mono fun id o ho => ha.keep ho
  only id o ho e he ht := by
    rcases Rows.over_cases ho with ho | ⟨-, ho⟩
    · obtain rfl := ha.onlyEvent id o ho
      obtain ⟨o', ho', hcontent⟩ := ha.event
      obtain rfl : o' = o := Option.some.inj (ho'.symm.trans ho)
      rw [hcontent] at he
      obtain rfl := OutboxContent.event.inj he
      have hrev := ha.state.2.2
      exact ⟨op, c, c, Rows.over_some ha.command, by omega, Nat.le_refl _, by rw [hrev], rfl⟩
    · obtain ⟨op', d, d', hd, hd'⟩ := hc.only id o ho e he ht
      exact ⟨op', d, d', ha.keep hd, hd'⟩
  valid op' d hd := by
    rcases Rows.over_cases hd with hd | ⟨-, hd⟩
    · obtain rfl := ha.onlyCommand op' d hd
      obtain rfl : c = d := Option.some.inj (ha.command.symm.trans hd)
      exact ⟨by rw [ha.state.2.2]; omega, c, rfl, ha.state.2.2, ha.valid⟩
    · exact hc.valid op' d hd

theorem Accepts.provisioned (ha : Accepts D rows op c new) (hl : Linked rows)
    (hp : Provisioned D rows engine) : Provisioned D (new.over rows) engine := by
  have hnative : ∀ p k, new.over rows (.nativeMapping p k) = rows (.nativeMapping p k) :=
    fun p k => Rows.over_none (ha.rest _ rfl rfl)
  have hstep : ∀ p k, new.over rows (.step p k) = rows (.step p k) :=
    fun p k => Rows.over_none (ha.rest _ rfl rfl)
  have hmapping : ∀ t e, new.over rows (.tenantMapping t e) = rows (.tenantMapping t e) :=
    fun t e => Rows.over_none (ha.rest _ rfl rfl)
  refine ⟨fun p row hr => ?_, fun p row b hr hb => ?_, fun t e m hm => ?_⟩
  · rcases Rows.over_cases hr with hr | ⟨-, hr⟩
    · obtain ⟨hst, hb⟩ := ha.operation p row hr
      exact ⟨.inl hst, hb⟩
    · exact hp.planned p row hr
  · rcases Rows.over_cases hr with hr | ⟨-, hr⟩
    · -- a new operation has no rows of its own yet
      have hnone := ha.fresh _ _ hr
      have hnonative : ∀ k, rows (.nativeMapping p k) = none := fun k => by
        by_contra hcon
        have := hl.native p k (Option.isSome_iff_ne_none.2 hcon)
        rw [hnone] at this
        cases this
      have hnostep : ∀ k, rows (.step p k) = none := fun k => by
        by_contra hcon
        have := hl.step p k (Option.isSome_iff_ne_none.2 hcon)
        rw [hnone] at this
        cases this
      refine ⟨fun step hs i hi => ?_, fun i hi step hs hk => ?_,
        fun step hs r hr => ?_, fun h₂ h₄ step hs => ?_⟩
      · rw [hnative, hnonative] at hi
        cases hi
      · rw [hnative, hnonative] at hi
        cases hi
      · rw [hstep, hnostep] at hr
        cases hr
      · rw [(ha.operation p row hr).1] at h₂
        exact absurd h₂ (by decide)
    · obtain ⟨hcreated, hprim, hd, hfinished⟩ := hp.placed p row b hr hb
      refine ⟨fun step hs i hi => ?_, fun i hi step hs hk => ?_,
        fun step hs r hr => ?_, fun h₂ h₄ step hs => ?_⟩
      · rw [hnative] at hi
        exact hcreated step hs i hi
      · rw [hnative] at hi ⊢
        exact hprim i hi step hs hk
      · rw [hstep] at hr
        obtain ⟨hst, hd⟩ := hd step hs r hr
        exact ⟨hst, hd.mono (fun k i hi => (hnative p k).trans hi)
          fun t e m hm => (hmapping t e).trans hm⟩
      · rw [hstep]
        exact hfinished h₂ h₄ step hs
  · rw [hmapping] at hm
    obtain ⟨p, row, b, hr, hb, ht, he, hprim, hm⟩ := hp.mapped t e m hm
    exact ⟨p, row, b, ha.keep hr, hb, ht, he, by rwa [hnative], hm⟩

/-- **A command is accepted.** -/
theorem Ledger.accept (h : Ledger D rows engine) (ha : Accepts D rows op c new) :
    Ledger D (new.over rows) engine :=
  ⟨ha.linked h.linked, ha.commanded h.linked h.commanded, ha.provisioned h.linked h.provisioned⟩

end Accepts

/-! ### Forward -/

/-- Rows that keep every row there was go forward. -/
theorem Forward.of_keep (hkeep : ∀ k, ∀ v, rows k = some v → rows' k = some v)
    (hentity : ∀ op, (rows (.command op)).isSome = true → ∀ le,
      rows' (.commandEntity op le) = rows (.commandEntity op le)) : Forward rows rows' :=
  ⟨fun pid row hr => ⟨row, hkeep (.operation pid) row hr, .refl row⟩, fun k _ => hkeep k,
    fun pid key hs => by
      obtain ⟨x, hx⟩ := Option.isSome_iff_exists.1 hs
      rw [hkeep _ x hx]
      rfl,
    fun op c hc => ⟨c, hkeep (.command op) c hc, .refl c⟩, hentity⟩

theorem Forward.of_none {k : Key} {v : Option (Row k)} (hnone : rows k = none)
    (hk : ∀ op le, k ≠ .commandEntity op le) : Forward rows (Function.update rows k v) :=
  .of_keep (fun _ _ h => update_of_none hnone h)
    fun op _ le => Function.update_of_ne (fun h => hk op le h.symm) _ _

theorem Forward.of_alike (h : Alike rows rows') : Forward rows rows' := by
  refine ⟨fun pid row hr => ?_, fun k hk v hv => ?_, fun pid key hs => ?_, fun op c hc => ?_,
    fun op _ le => h.same _ rfl⟩
  · obtain ⟨row', hr', hcore⟩ := h.operation pid row hr
    obtain ⟨hst, hcore⟩ := Prod.mk.inj hcore
    obtain ⟨hstate, hcore⟩ := Prod.mk.inj hcore
    obtain ⟨hdigest, hplan⟩ := Prod.mk.inj hcore
    exact ⟨row', hr', by rw [show row'.status = row.status from hst], hstate, hdigest, hplan⟩
  · cases k with
    | outbox id => exact h.outbox id v hv
    | _ => first | exact (h.same _ rfl).trans hv | cases hk
  · rwa [h.same _ rfl]
  · exact ⟨c, (h.same _ rfl).trans hc, .refl c⟩

theorem Forward.withStep {key : String} {srow : StepRow} :
    Forward rows (Function.update rows (.step pid key) (some srow)) := by
  have hne : ∀ k, (∀ p q, k ≠ .step p q) →
      Function.update rows (.step pid key) (some srow) k = rows k :=
    fun k hk => Function.update_of_ne (hk pid key) _ _
  refine ⟨fun p row hr => ⟨row, ?_, .refl row⟩, fun k hk v hv => ?_, fun p q hs => ?_,
    fun op c hc => ⟨c, ?_, .refl c⟩, fun op _ le => hne _ fun _ _ h => by cases h⟩
  · rwa [hne _ fun _ _ h => by cases h]
  · rwa [hne]
    rintro p q rfl
    cases hk
  · by_cases heq : Key.step p q = .step pid key
    · rw [heq, Function.update_self]
      rfl
    · rwa [Function.update_of_ne heq]
  · rwa [hne _ fun _ _ h => by cases h]

theorem Forward.withStatus {row row' : OperationRow} (hrow : rows (.operation pid) = some row)
    (hf : row.Forward row') :
    Forward rows (Function.update rows (.operation pid) (some row')) := by
  have hne : ∀ k, (∀ p, k ≠ .operation p) →
      Function.update rows (.operation pid) (some row') k = rows k :=
    fun k hk => Function.update_of_ne (hk pid) _ _
  refine ⟨fun p r hr => ?_, fun k hk v hv => ?_, fun p q hs => ?_,
    fun op c hc => ⟨c, ?_, .refl c⟩, fun op _ le => hne _ fun _ h => by cases h⟩
  · by_cases hp : p = pid
    · subst hp
      obtain rfl : row = r := Option.some.inj (hrow.symm.trans hr)
      exact ⟨row', Function.update_self .., hf⟩
    · exact ⟨r, by rwa [Function.update_of_ne (by simpa using hp)], .refl r⟩
  · rwa [hne]
    rintro p rfl
    cases hk
  · rwa [hne _ fun _ h => by cases h]
  · rwa [hne _ fun _ h => by cases h]

theorem Forward.withCommand {op : String} {c d : CommandRow} (hc : rows (.command op) = some c)
    (hf : c.Forward d) : Forward rows (Function.update rows (.command op) (some d)) := by
  have hne : ∀ k, (∀ p, k ≠ .command p) →
      Function.update rows (.command op) (some d) k = rows k :=
    fun k hk => Function.update_of_ne (hk op) _ _
  refine ⟨fun p r hr => ⟨r, ?_, .refl r⟩, fun k hk v hv => ?_, fun p q hs => ?_,
    fun op' x hx => ?_, fun op _ le => hne _ fun _ h => by cases h⟩
  · rwa [hne _ fun _ h => by cases h]
  · rwa [hne]
    rintro p rfl
    cases hk
  · rwa [hne _ fun _ h => by cases h]
  · by_cases hop : op' = op
    · subst hop
      obtain rfl : c = x := Option.some.inj (hc.symm.trans hx)
      exact ⟨d, Function.update_self .., hf⟩
    · exact ⟨x, by rwa [Function.update_of_ne (by simpa using hop)], .refl x⟩

theorem CommandRow.Next.forward {c d : CommandRow} (h : c.Next d) : c.Forward d := by
  obtain ⟨ht, hk, hf, hrev, hrank⟩ := h
  exact ⟨ht, hk, hf, .inr ⟨by omega, hrank⟩⟩

end Provisioning
end BaobabErp
