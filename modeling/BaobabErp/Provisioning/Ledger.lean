/-
# What the committed rows say of each other

`Ledger` is the invariant of the provisioning tables between transactions: the
unique indexes and foreign keys (`Linked`), a command against the statuses of
its operations and the events that announced it (`Commanded`), and an operation
against its plan, its steps, its native ids and the records of the engine
(`Provisioned`).  `Forward` is what no transaction takes back.
-/

import BaobabErp.Provisioning.ApprovedPlan
import BaobabErp.Provisioning.CommandState

namespace BaobabErp
namespace Provisioning

open Python Concurrency

/-! ### Keys -/

/-- The operation whose lock a row is written under. -/
def Key.owner : Key → Option String
  | .operation pid => some pid
  | .step pid _ => some pid
  | .nativeMapping pid _ => some pid
  | _ => none

/-- The rows that are written once. -/
def Key.isPermanent : Key → Bool
  | .nativeMapping _ _ => true
  | .tenantMapping _ _ => true
  | .tenantNative _ _ => true
  | .commandKey _ _ => true
  | .commandEntity _ _ => true
  | .entityOwner _ => true
  | .outbox _ => true
  | _ => false

/-- The rows of a warehouse's identity. -/
def Key.isWarehouse : Key → Bool
  | .warehouse _ => true
  | .warehouseOutcome _ _ => true
  | .warehouseCode _ _ _ => true
  | .warehouseNative _ _ => true
  | _ => false

/-! ### Indexes and foreign keys -/

structure Linked (rows : Rows) : Prop where
  owner : ∀ op legalEntity pid,
    rows (.commandEntity op legalEntity) = some pid ↔ rows (.entityOwner pid) = some (op, legalEntity)
  key : ∀ tenant key op, rows (.commandKey tenant key) = some op ↔
    ∃ c : CommandRow, rows (.command op) = some c ∧ c.tenantId = tenant ∧ c.idempotencyKey = key
  owned : ∀ pid, (rows (.operation pid)).isSome = (rows (.entityOwner pid)).isSome
  command : ∀ op legalEntity, (rows (.commandEntity op legalEntity)).isSome = true →
    (rows (.command op)).isSome = true
  entity : ∀ op, (rows (.command op)).isSome = true →
    ∃ legalEntity, (rows (.commandEntity op legalEntity)).isSome = true
  step : ∀ pid key, (rows (.step pid key)).isSome = true → (rows (.operation pid)).isSome = true
  native : ∀ pid key, (rows (.nativeMapping pid key)).isSome = true →
    (rows (.operation pid)).isSome = true
  tenantNative : ∀ client org tenant legalEntity,
    rows (.tenantNative client org) = some (tenant, legalEntity) →
      ∃ m : TenantMappingRow, rows (.tenantMapping tenant legalEntity) = some m ∧
        m.adClientId = client ∧ m.adOrgId = org

/-! ### Commands -/

/-- An operation of the command has the status. -/
def HasStatus (rows : Rows) (op : String) (status : ProvisioningStatus) : Prop :=
  ∃ legalEntity pid, ∃ row : OperationRow, rows (.commandEntity op legalEntity) = some pid ∧
    rows (.operation pid) = some row ∧ row.status = status

/-- `seen` are the statuses of the command's operations. -/
def Statuses (rows : Rows) (op : String) (seen : List ProvisioningStatus) : Prop :=
  ∀ status, status ∈ seen ↔ HasStatus rows op status

/-- The event that announced a revision of a command. -/
def IsAnnounced (H : Hashes) (rows : Rows) (op : String) (c : CommandRow) : Prop :=
  ∃ o : OutboxRow, rows (.outbox (CommandEvents.eventId H op c.revision)) = some o ∧
    o.content = .event (CommandEvents.changed H op c)

/-- **Every revision of a command up to the present was announced**, and each
went forward. -/
def Announced (H : Hashes) (rows : Rows) (op : String) (c : CommandRow) : Prop :=
  ∃ history : Nat → CommandRow, history c.revision = c ∧ 1 ≤ c.revision ∧
    (∀ i, 1 ≤ i → i ≤ c.revision → (history i).revision = i ∧ IsAnnounced H rows op (history i)) ∧
    ∀ i, 1 ≤ i → i < c.revision → (history i).state.rank < (history (i + 1)).state.rank

structure Commanded (H : Hashes) (rows : Rows) : Prop where
  derived : ∀ op, ∀ c : CommandRow, rows (.command op) = some c → ∀ seen, Statuses rows op seen →
    Derived seen c.state c.failureCode
  announced : ∀ op, ∀ c : CommandRow, rows (.command op) = some c → Announced H rows op c
  /-- No other event is of the type. -/
  only : ∀ id, ∀ o : OutboxRow, rows (.outbox id) = some o → ∀ e, o.content = .event e →
    e.type = CommandEvents.eventType → ∃ op, ∃ c d : CommandRow, rows (.command op) = some c ∧
      1 ≤ d.revision ∧ d.revision ≤ c.revision ∧ id = CommandEvents.eventId H op d.revision ∧
      e = CommandEvents.changed H op d
  /-- The command is one whose events are well formed. -/
  valid : ∀ op, ∀ c : CommandRow, rows (.command op) = some c →
    c.revision ≤ c.state.rank + 1 ∧
      ∃ d : CommandRow, d.tenantId = c.tenantId ∧ d.revision = 1 ∧
        (CommandEvents.provisioningChanged H op d).toOption.isSome = true

/-! ### Operations -/

/-- What an operation was accepted from. -/
structure Blueprint where
  assignment : CpErpAssignment
  request : ErpProvisioningRequest
  plan : ProvisioningPlan

/-- **The operation is the plan of an approved assignment.** -/
structure Planned (D : ProvisioningDeployment) (pid : String) (row : OperationRow) (b : Blueprint) :
    Prop where
  approved : D.approves b.assignment = true
  record : pid = b.assignment.provisioningRecordId
  colon : ':' ∉ pid.toList
  typed : b.request.Typed
  provisioningId : b.request.provisioningId = .str pid
  tenant : b.request.tenantId = .str b.assignment.tenantId
  legalEntity : b.request.legalEntityId = .str b.assignment.legalEntityId
  engine : b.request.engineInstanceId = .str b.assignment.engineInstanceId
  plan : buildPlan D.hashes D.runtime b.request = .ok b.plan
  state : desiredState D.runtime b.request = .ok row.desiredState
  digest : row.desiredStateDigest = some b.plan.desiredStateDigest
  steps : row.plan = AcceptOperation.planDocument b.plan.steps

/-- The engine has a record with the marker of the step. -/
def IsMarked (engine : List NativeRecord) (baseUrl table : String) (step : ProvisioningStep)
    (id : Int) : Prop :=
  (⟨baseUrl, table, id, some (IdempiereAdapter.markerPrefix ++ step.key)⟩ : NativeRecord) ∈ engine

/-- What a completed step has left. -/
def Done (pid : String) (b : Blueprint) (rows : Rows) (step : ProvisioningStep) (row : StepRow) :
    Prop :=
  match step.kind with
  | .createClient => ∃ id : Int,
      rows (.nativeMapping pid (IdempiereAdapter.resourceKey step)) = some id ∧
      rows (.nativeMapping pid IdempiereAdapter.clientAliasKey) = some id ∧
      ∃ reused adopted, row.result = IdempiereAdapter.createResult "AD_Client" id reused adopted
  | .persistMapping => ∃ id : Int,
      rows (.nativeMapping pid IdempiereAdapter.clientAliasKey) = some id ∧
      rows (.tenantMapping b.assignment.tenantId b.assignment.legalEntityId) =
        some (⟨id, 0, some b.assignment.engineInstanceId⟩ : TenantMappingRow)
  | kind => ∀ table, IdempiereAdapter.table kind = some table → ∃ id : Int,
      rows (.nativeMapping pid (IdempiereAdapter.resourceKey step)) = some id ∧
      ∃ reused adopted, row.result = IdempiereAdapter.createResult table id reused adopted

/-- What a step records as its native id: that of its marked record, or 1 where it
makes none. -/
def Bound (D : ProvisioningDeployment) (engine : List NativeRecord) (b : Blueprint)
    (step : ProvisioningStep) (id : Int) : Prop :=
  match IdempiereAdapter.table step.kind with
  | some table => ∃ σ, D.credentials b.assignment.engineInstanceId = some σ ∧
      IsMarked engine σ.baseUrl table step id
  | none => id = 1

/-- **How far an operation has come**, against its plan. -/
structure Placed (D : ProvisioningDeployment) (pid : String) (b : Blueprint)
    (status : ProvisioningStatus) (rows : Rows) (engine : List NativeRecord) : Prop where
  created : ∀ step ∈ b.plan.steps, ∀ id : Int,
    rows (.nativeMapping pid (IdempiereAdapter.resourceKey step)) = some id →
      Bound D engine b step id
  primary : ∀ id : Int, rows (.nativeMapping pid IdempiereAdapter.clientAliasKey) = some id →
    ∀ step ∈ b.plan.steps, step.kind = .createClient →
      rows (.nativeMapping pid (IdempiereAdapter.resourceKey step)) = some id
  done : ∀ step ∈ b.plan.steps, ∀ row : StepRow, rows (.step pid step.key) = some row →
    row.status = "completed" ∧ Done pid b rows step row
  finished : 2 ≤ status.rank → status.rank < 4 → ∀ step ∈ b.plan.steps,
    (rows (.step pid step.key)).isSome = true

structure Provisioned (D : ProvisioningDeployment) (rows : Rows) (engine : List NativeRecord) :
    Prop where
  planned : ∀ pid, ∀ row : OperationRow, rows (.operation pid) = some row →
    row.status.executed ∧ ∃ b, Planned D pid row b
  placed : ∀ pid, ∀ row : OperationRow, ∀ b, rows (.operation pid) = some row →
    Planned D pid row b → Placed D pid b row.status rows engine
  mapped : ∀ tenant legalEntity, ∀ m : TenantMappingRow,
    rows (.tenantMapping tenant legalEntity) = some m → ∃ pid, ∃ row : OperationRow, ∃ b,
      rows (.operation pid) = some row ∧ Planned D pid row b ∧ b.assignment.tenantId = tenant ∧
        b.assignment.legalEntityId = legalEntity ∧
        rows (.nativeMapping pid IdempiereAdapter.clientAliasKey) = some m.adClientId ∧
        m.adOrgId = 0 ∧ m.engineInstanceId = some b.assignment.engineInstanceId

/-- **The invariant of the committed rows.** -/
structure Ledger (D : ProvisioningDeployment) (rows : Rows) (engine : List NativeRecord) : Prop where
  linked : Linked rows
  commanded : Commanded D.hashes rows
  provisioned : Provisioned D rows engine

/-! ### What no transaction takes back -/

/-- An operation keeps its plan and its status does not go back. -/
def OperationRow.Forward (row row' : OperationRow) : Prop :=
  row.status.rank ≤ row'.status.rank ∧ row'.desiredState = row.desiredState ∧
    row'.desiredStateDigest = row.desiredStateDigest ∧ row'.plan = row.plan

/-- A command keeps what it was accepted with, and a change of it is a revision
that goes forward. -/
def CommandRow.Forward (c d : CommandRow) : Prop :=
  d.tenantId = c.tenantId ∧ d.idempotencyKey = c.idempotencyKey ∧
    d.requestFingerprint = c.requestFingerprint ∧
    (d = c ∨ (c.revision < d.revision ∧ c.state.rank < d.state.rank))

/-- **What every transaction leaves of the rows before it.** -/
structure Forward (rows rows' : Rows) : Prop where
  operation : ∀ pid, ∀ row : OperationRow, rows (.operation pid) = some row →
    ∃ row' : OperationRow, rows' (.operation pid) = some row' ∧ row.Forward row'
  permanent : ∀ k, k.isPermanent = true → ∀ v, rows k = some v → rows' k = some v
  step : ∀ pid key, (rows (.step pid key)).isSome = true → (rows' (.step pid key)).isSome = true
  command : ∀ op, ∀ c : CommandRow, rows (.command op) = some c →
    ∃ d : CommandRow, rows' (.command op) = some d ∧ c.Forward d
  entities : ∀ op, (rows (.command op)).isSome = true → ∀ legalEntity,
    rows' (.commandEntity op legalEntity) = rows (.commandEntity op legalEntity)

theorem OperationRow.Forward.refl (row : OperationRow) : row.Forward row :=
  ⟨Nat.le_refl _, rfl, rfl, rfl⟩

theorem OperationRow.Forward.trans {a b c : OperationRow} (h : a.Forward b) (h' : b.Forward c) :
    a.Forward c :=
  ⟨h.1.trans h'.1, h'.2.1.trans h.2.1, h'.2.2.1.trans h.2.2.1, h'.2.2.2.trans h.2.2.2⟩

theorem CommandRow.Forward.refl (c : CommandRow) : c.Forward c := ⟨rfl, rfl, rfl, .inl rfl⟩

theorem CommandRow.Forward.trans {a b c : CommandRow} (h : a.Forward b) (h' : b.Forward c) :
    a.Forward c := by
  obtain ⟨ht, hk, hf, h⟩ := h
  obtain ⟨ht', hk', hf', h'⟩ := h'
  refine ⟨ht'.trans ht, hk'.trans hk, hf'.trans hf, ?_⟩
  rcases h with rfl | ⟨hrev, hrank⟩
  · exact h'
  · rcases h' with rfl | ⟨hrev', hrank'⟩
    · exact .inr ⟨hrev, hrank⟩
    · exact .inr ⟨hrev.trans hrev', hrank.trans hrank'⟩

theorem Forward.refl (rows : Rows) : Forward rows rows :=
  ⟨fun _ row h => ⟨row, h, .refl row⟩, fun _ _ _ h => h, fun _ _ h => h,
    fun _ c h => ⟨c, h, .refl c⟩, fun _ _ _ => rfl⟩

theorem Forward.trans {a b c : Rows} (h : Forward a b) (h' : Forward b c) : Forward a c := by
  refine ⟨fun pid row hr => ?_, fun k hk v hv => h'.permanent k hk v (h.permanent k hk v hv),
    fun pid key hs => h'.step pid key (h.step pid key hs), fun op x hx => ?_, fun op hx le => ?_⟩
  · obtain ⟨row', hr', hf⟩ := h.operation pid row hr
    obtain ⟨row'', hr'', hf'⟩ := h'.operation pid row' hr'
    exact ⟨row'', hr'', hf.trans hf'⟩
  · obtain ⟨y, hy, hf⟩ := h.command op x hx
    obtain ⟨z, hz, hf'⟩ := h'.command op y hy
    exact ⟨z, hz, hf.trans hf'⟩
  · obtain ⟨x, hx'⟩ := Option.isSome_iff_exists.1 hx
    obtain ⟨y, hy, -⟩ := h.command op x hx'
    rw [h'.entities op (by rw [hy]; rfl), h.entities op hx]

end Provisioning
end BaobabErp
