/-
# The provisioning tables

The rows of migrations 0002, 0007, 0009, 0015, 0021 and 0024 that acceptance and
execution of a provisioning operation read and write, keyed by what identifies
them.  A unique index beside the primary key has rows of its own, which hold the
primary key of the row they belong to.
-/

import BaobabErp.Provisioning.Request
import BaobabErp.Concurrency.Database

namespace BaobabErp
namespace Provisioning

open Python Concurrency

/-- `erp_provisioning_command.state`. -/
inductive CommandState
  | accepted
  | validating
  | provisioning
  | reconciling
  | active
  | failed
  | cancelled
deriving DecidableEq, Repr

def CommandState.value : CommandState → String
  | accepted => "accepted"
  | validating => "validating"
  | provisioning => "provisioning"
  | reconciling => "reconciling"
  | active => "active"
  | failed => "failed"
  | cancelled => "cancelled"

/-- `baobab.erp_provisioning_operation`. -/
structure OperationRow where
  idempotencyKey : String
  desiredState : Json
  desiredStateDigest : Option String
  plan : Json
  status : ProvisioningStatus
  lastError : Option String := none
  attempts : Nat := 0
  nextAttemptAt : Option Instant := none
  outcomeCode : Option String := none
  createdAt : Instant

/-- `baobab.erp_provisioning_step`. -/
structure StepRow where
  status : String
  result : Json

/-- `baobab.erp_provisioning_command`, which is also `CommandRecord`. -/
structure CommandRow where
  tenantId : String
  idempotencyKey : String
  principal : String
  requestFingerprint : String
  tenantProvisioningId : String
  planId : String
  planVersion : Int
  planDigest : String
  legalEntityIds : List String
  state : CommandState := .accepted
  revision : Nat := 1
  failureCode : Option String := none
  updatedAt : Instant
deriving DecidableEq, Repr

/-- `baobab.erp_warehouse`. -/
structure WarehouseRow where
  tenantId : String
  legalEntityId : String
  code : String
  name : String
  country : String
  timezone : Option String
  status : String
  engineInstanceId : String
  nativeId : Int
deriving DecidableEq, Repr

/-- `baobab.document_outcome` of a warehouse; the detail is its announced facts. -/
structure WarehouseOutcomeRow where
  revision : Nat
  status : String
  detail : Json

inductive Key
  | operation (provisioningId : String)
  | step (provisioningId stepKey : String)
  | nativeMapping (provisioningId resourceKey : String)
  | tenantMapping (tenant legalEntity : String)
  | command (operationId : String)
  | commandEntity (operationId legalEntity : String)
  | outbox (eventId : String)
  | warehouse (erpResourceId : String)
  | warehouseOutcome (tenant erpResourceId : String)
  /-- `UNIQUE (idempotency_key)` of an operation. -/
  | operationKey (idempotencyKey : String)
  /-- `tenant_mapping_native_active_unique`. -/
  | tenantNative (adClientId adOrgId : Int)
  /-- `erp_provisioning_command_idempotency`. -/
  | commandKey (tenant idempotencyKey : String)
  /-- `UNIQUE (provisioning_id)` of a command's entities. -/
  | entityOwner (provisioningId : String)
  /-- `erp_warehouse_code_unique`. -/
  | warehouseCode (tenant legalEntity code : String)
  /-- `erp_warehouse_native_unique`. -/
  | warehouseNative (engineInstance : String) (nativeId : Int)
deriving DecidableEq, Repr

/-- The row type of each table. -/
def Row : Key → Type
  | .operation _ => OperationRow
  | .step _ _ => StepRow
  | .nativeMapping _ _ => Int
  | .tenantMapping _ _ => TenantMappingRow
  | .command _ => CommandRow
  | .commandEntity _ _ => String
  | .outbox _ => OutboxRow
  | .warehouse _ => WarehouseRow
  | .warehouseOutcome _ _ => WarehouseOutcomeRow
  | .operationKey _ => String
  | .tenantNative _ _ => String × String
  | .commandKey _ _ => String
  | .entityOwner _ => String × String
  | .warehouseCode _ _ _ => String
  | .warehouseNative _ _ => String

/-- What is stored: the row of every key. -/
abbrev Rows := (k : Key) → Option (Row k)

/-- A row of a unique index. -/
abbrev Entry := (k : Key) × Row k

namespace Schema

/-- The rows of the unique indexes that belong to a row. -/
def indexed : (k : Key) → Row k → List Entry
  | .operation pid, (row : OperationRow) => [⟨.operationKey row.idempotencyKey, pid⟩]
  | .tenantMapping tenant legalEntity, (row : TenantMappingRow) =>
    [⟨.tenantNative row.adClientId row.adOrgId, (tenant, legalEntity)⟩]
  | .command op, (row : CommandRow) => [⟨.commandKey row.tenantId row.idempotencyKey, op⟩]
  | .commandEntity op legalEntity, (pid : String) => [⟨.entityOwner pid, (op, legalEntity)⟩]
  | .warehouse id, (row : WarehouseRow) =>
    [⟨.warehouseCode row.tenantId row.legalEntityId row.code, id⟩,
      ⟨.warehouseNative row.engineInstanceId row.nativeId, id⟩]
  | _, _ => []

/-- The rows the foreign keys of a row name. -/
def parents : (k : Key) → Row k → List Key
  | .step pid _, _ => [.operation pid]
  | .nativeMapping pid _, _ => [.operation pid]
  | .commandEntity op _, (pid : String) => [.command op, .operation pid]
  | _, _ => []

/-- `^[0-9a-f]{n}$`. -/
def isHexText (n : Nat) (s : String) : Bool :=
  s.length == n && s.toList.all CloudEvent.isLowerHex

/-- The column types and `CHECK` constraints of a row. -/
def check : (k : Key) → Row k → Bool
  | .nativeMapping _ _, (id : Int) => BaobabErp.Schema.isBigint id
  | .tenantMapping _ _, (row : TenantMappingRow) =>
    BaobabErp.Schema.isInteger row.adClientId && BaobabErp.Schema.isInteger row.adOrgId
  | .command _, (row : CommandRow) =>
    strip row.tenantId != "" && 16 ≤ row.idempotencyKey.length && row.idempotencyKey.length ≤ 128 &&
      strip row.principal != "" && isHexText 64 row.requestFingerprint && 1 ≤ row.planVersion &&
      BaobabErp.Schema.isInteger row.planVersion && "sha256:".toList.isPrefixOf row.planDigest.toList &&
      isHexText 64 (String.ofList (row.planDigest.toList.drop 7)) &&
      !row.legalEntityIds.isEmpty && BaobabErp.Schema.isInteger row.revision &&
      (row.failureCode.isNone || row.state == .failed)
  | .warehouse id, (row : WarehouseRow) =>
    Identifiers.isErpResourceId id && BaobabErp.Schema.isBigint row.nativeId
  | .warehouseOutcome _ _, (row : WarehouseOutcomeRow) => BaobabErp.Schema.isInteger row.revision
  | _, _ => true

end Schema

end Provisioning
end BaobabErp
