/-
# Provisioning creates once

An operation's create steps against the engine, in every state that any
interleaving of workers, with any crashes and failed calls, reaches
(`provisioning_creates_once`): the engine has at most one record with a step's
marker, the step's native id is that record's for good, and a ready operation's
tenant mapping names the client its first step made.
-/

import BaobabErp.Provisioning.CommandHistory

namespace BaobabErp
namespace Provisioning

open Python Concurrency

section

variable {D : ProvisioningDeployment} {rows : Rows} {engine : List NativeRecord} {pid : String}
  {row : OperationRow} {b : Blueprint}

/-- The record has the marker of the step. -/
structure MarkedAs (engine : List NativeRecord) (baseUrl table : String) (step : ProvisioningStep)
    (x : NativeRecord) : Prop where
  held : x ∈ engine
  installation : x.baseUrl = baseUrl
  table : x.table = table
  marker : x.description = some (IdempiereAdapter.markerPrefix ++ step.key)

theorem IsMarked.markedAs {baseUrl table : String} {step : ProvisioningStep} {id : Int}
    (h : IsMarked engine baseUrl table step id) : MarkedAs engine baseUrl table step
      ⟨baseUrl, table, id, some (IdempiereAdapter.markerPrefix ++ step.key)⟩ :=
  ⟨h, rfl, rfl, rfl⟩

theorem MarkedAs.mono {engine' : List NativeRecord} {baseUrl table : String}
    {step : ProvisioningStep} {x : NativeRecord} (hgrow : ∀ y ∈ engine, y ∈ engine')
    (h : MarkedAs engine baseUrl table step x) : MarkedAs engine' baseUrl table step x :=
  ⟨hgrow x h.held, h.installation, h.table, h.marker⟩

/-- **One record has the marker of a step.** -/
theorem Coordinated.one_marked {s : World} (hs : Coordinated D s) (hu : Unmarked D)
    (hb : Planned D pid row b) {step : ProvisioningStep} (hstep : step ∈ b.plan.steps)
    {baseUrl table : String} {x y : NativeRecord} (hx : MarkedAs s.engine baseUrl table step x)
    (hy : MarkedAs s.engine baseUrl table step y) : x = y := by
  have hmarker := (hb.markerOf hstep).isMarker
  have hbase : x.baseUrl = y.baseUrl := hx.installation.trans hy.installation.symm
  have htable : x.table = y.table := hx.table.trans hy.table.symm
  exact hs.marked hu x hx.held y hy.held hbase htable _ hmarker hx.marker hy.marker

/-- A completed step that makes a record reports its native id. -/
theorem Done.created {step : ProvisioningStep} {srow : StepRow} (h : Done pid b rows step srow)
    {table : String} (ht : IdempiereAdapter.table step.kind = some table) : ∃ id : Int,
      rows (.nativeMapping pid (IdempiereAdapter.resourceKey step)) = some id ∧
      ∃ reused adopted, srow.result = IdempiereAdapter.createResult table id reused adopted := by
  unfold Done at h
  cases hk : step.kind with
  | createClient =>
    rw [hk] at h ht
    obtain ⟨id, hid, -, reused, adopted, hresult⟩ := h
    obtain rfl := Option.some.inj ht
    exact ⟨id, hid, reused, adopted, hresult⟩
  | persistMapping =>
    rw [hk] at ht
    cases ht
  | _ =>
    rw [hk] at h ht
    obtain ⟨id, hid, reused, adopted, hresult⟩ := h table ht
    exact ⟨id, hid, reused, adopted, hresult⟩

/-- **A ready operation is mapped to the client it made.** -/
theorem Placed.mapped (hb : Planned D pid row b) (h : Placed D pid b row.status rows engine)
    (hready : row.status = .ready) :
    ∃ client ∈ b.plan.steps, client.kind = .createClient ∧ ∃ id σ,
      D.credentials b.assignment.engineInstanceId = some σ ∧
      IsMarked engine σ.baseUrl "AD_Client" client id ∧
      rows (.nativeMapping pid (IdempiereAdapter.resourceKey client)) = some id ∧
      rows (.tenantMapping b.assignment.tenantId b.assignment.legalEntityId) =
        some (⟨id, 0, some b.assignment.engineInstanceId⟩ : TenantMappingRow) := by
  have hrank : row.status.rank = 3 := by
    rw [hready]
    rfl
  obtain ⟨client, hclient, hckind⟩ := hb.client_mem
  obtain ⟨mapping, hmapping, hmkind⟩ := hb.mapping_mem
  obtain ⟨srow, hsrow⟩ :=
    Option.isSome_iff_exists.1 (h.finished (by omega) (by omega) mapping hmapping)
  have hdone := (h.done mapping hmapping srow hsrow).2
  unfold Done at hdone
  rw [hmkind] at hdone
  obtain ⟨id, halias, hmapped⟩ := hdone
  have hid := h.primary id halias client hclient hckind
  have htable : IdempiereAdapter.table client.kind = some "AD_Client" := by
    rw [hckind]
    rfl
  obtain ⟨σ, hσ, hmarked⟩ := h.marked hclient htable hid
  exact ⟨client, hclient, hckind, id, σ, hσ, hmarked, hid, hmapped⟩

/-- No record of an engine goes away. -/
theorem Reached.engine_grows (huuid : IsUuid5 D.hashes) {p q : (provisioning D).Pool} (hp : Reached p)
    (hq : Machine.Reaches (anySchedule D) p q) : ∀ x ∈ p.state.engine, x ∈ q.state.engine := by
  refine Protocol.Verified.Sound.relates
    (R := fun s t : World => ∀ x ∈ s.engine, x ∈ t.engine) (fun _ _ h => h)
    (fun h h' x hx => h' x (h x hx)) (fun {w e c s r t} _ _ he x hx => ?_) (fun _ _ h => h)
    (fun {a s t} _ _ he x hx => ?_) (hp.sound huuid) hq
  · rcases (exec_move he).engine with hengine | ⟨σ, table, fields, id, -, -, rfl⟩
    · exact hengine ▸ hx
    · exact List.mem_cons_of_mem _ hx
  · obtain ⟨r⟩ := a
    obtain ⟨-, -, rfl⟩ := env_create he
    exact List.mem_cons_of_mem _ hx

/-- **What becomes of a create step** between two states of a run: at most one record
with its marker, its native id that record's, now and from then on. -/
structure CreatesOnce (D : ProvisioningDeployment) (pid : String) (b : Blueprint)
    (step : ProvisioningStep) (table : String) (s t : World) : Prop where
  single : ∀ baseUrl x y, MarkedAs t.engine baseUrl table step x →
    MarkedAs t.engine baseUrl table step y → x = y
  kept : ∀ id : Int, s.rows (.nativeMapping pid (IdempiereAdapter.resourceKey step)) = some id →
    t.rows (.nativeMapping pid (IdempiereAdapter.resourceKey step)) = some id
  recorded : ∀ id : Int, t.rows (.nativeMapping pid (IdempiereAdapter.resourceKey step)) = some id →
    ∃ σ, D.credentials b.assignment.engineInstanceId = some σ ∧
      IsMarked t.engine σ.baseUrl table step id ∧
      ∀ x, MarkedAs s.engine σ.baseUrl table step x → x.id = id
  completed : ∀ srow : StepRow, t.rows (.step pid step.key) = some srow → ∃ id : Int,
    t.rows (.nativeMapping pid (IdempiereAdapter.resourceKey step)) = some id ∧
      ∃ reused adopted, srow.result = IdempiereAdapter.createResult table id reused adopted

/-- **Provisioning creates once.** In every state that any interleaving of any number
of workers and requests reaches, with sessions that end anywhere and engine calls
that fail before or after they took effect, an operation is the plan of an approved
assignment; each of its create steps has at most one record, which every later pass
uses; and when it is ready its tenant and legal entity are mapped to the client its
client step has. -/
theorem provisioning_creates_once (D : ProvisioningDeployment) (huuid : IsUuid5 D.hashes)
    (hu : Unmarked D) {p q : (provisioning D).Pool} (hp : Reached p)
    (hq : Machine.Reaches (anySchedule D) p q) {pid : String} {row : OperationRow}
    (hrow : q.state.rows (.operation pid) = some row) :
    (∃ b, Planned D pid row b) ∧ ∀ b, Planned D pid row b →
      (∀ step ∈ b.plan.steps, ∀ table, IdempiereAdapter.table step.kind = some table →
        CreatesOnce D pid b step table p.state q.state) ∧
      (row.status = .ready → ∃ client ∈ b.plan.steps, client.kind = .createClient ∧ ∃ id σ,
        D.credentials b.assignment.engineInstanceId = some σ ∧
        IsMarked q.state.engine σ.baseUrl "AD_Client" client id ∧
        q.state.rows (.nativeMapping pid (IdempiereAdapter.resourceKey client)) = some id ∧
        q.state.rows (.tenantMapping b.assignment.tenantId b.assignment.legalEntityId) =
          some (⟨id, 0, some b.assignment.engineInstanceId⟩ : TenantMappingRow)) := by
  have hs : Coordinated D q.state := (Reached.sound huuid (hp.trans hq)).1
  refine ⟨(hs.ledger.provisioned.planned pid row hrow).2, fun b hb => ?_⟩
  have hplaced := hs.ledger.provisioned.placed pid row b hrow hb
  refine ⟨fun step hstep table ht => ⟨fun baseUrl x y hx hy => hs.one_marked hu hb hstep hx hy,
    fun id hid => (hp.forward huuid hq).permanent (.nativeMapping pid _) rfl id hid, fun id hid => ?_,
    fun srow hsrow => (hplaced.done step hstep srow hsrow).2.created ht⟩,
    fun hready => hplaced.mapped hb hready⟩
  obtain ⟨σ, hσ, hmarked⟩ := hplaced.marked hstep ht hid
  refine ⟨σ, hσ, hmarked, fun x hx => ?_⟩
  have hsame := hs.one_marked hu hb hstep (hx.mono (hp.engine_grows huuid hq)) hmarked.markedAs
  rw [hsame]

end

/-- An accepted operation has nothing in the engine, and its steps may create once. -/
theorem provisioning_creates_once_accepted : ∃ p : (provisioning acmeDeployment).Pool, ∃ row b,
    p.state.rows (.operation "tp_acme.NABK.v1") = some row ∧
      Planned acmeDeployment "tp_acme.NABK.v1" row b ∧
      ∀ step ∈ b.plan.steps, ∀ table, IdempiereAdapter.table step.kind = some table →
        CreatesOnce acmeDeployment "tp_acme.NABK.v1" b step table p.state p.state := by
  obtain ⟨p, hp, -, hoperation, -⟩ := acme_accepted
  obtain ⟨row, hrow⟩ := Option.isSome_iff_exists.1 hoperation
  have hu : Unmarked acmeDeployment := fun r hr => Bool.noConfusion hr
  obtain ⟨⟨b, hb⟩, hall⟩ :=
    provisioning_creates_once acmeDeployment acmeHashes_isUuid5 hu hp .refl hrow
  exact ⟨p, row, b, hrow, hb, (hall b hb).1⟩

end Provisioning
end BaobabErp
