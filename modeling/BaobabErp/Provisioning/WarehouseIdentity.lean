/-
# The public identity of a provisioned warehouse

`modules/provisioning/warehouse_identity_store.py` and `warehouse_events.py`: one
transaction finds or mints the identity, binds it to the approved code and the
native record, moves the published revision when something changed and records
the event of that revision.
-/

import BaobabErp.Provisioning.IdempiereAdapter
import BaobabErp.OrderToCash.OutcomeStore

namespace BaobabErp
namespace Provisioning

open Python Concurrency

namespace WarehouseIdentity

variable (D : ProvisioningDeployment)

/-- `_NAMESPACE`. -/
def namespaceText : String := "0a6e1d52-8f4b-5e07-9c1a-7b3d2e9f4a62"

def eventType : String := "com.baobab-platform.erp.warehouse.changed.v1"

/-- `warehouse_changed_event`, without a supplied correlation id. -/
def changedEvent (H : Hashes) (row : WarehouseRow) (warehouseId timezone : String) (revision : Nat)
    (now : Instant) : Except Exc CloudEvent :=
  let data := .obj [("legal_entity_id", .str row.legalEntityId), ("warehouse_id", .str warehouseId),
    ("code", .str row.code), ("name", .str row.name), ("country", .str row.country),
    ("timezone", .str timezone), ("status", .str row.status), ("revision", .int revision)]
  let correlation := CloudEvent.correlation H namespaceText
    ("correlation|" ++ row.tenantId ++ "|" ++ warehouseId) none
  let id := H.uuid5 namespaceText
    ("warehouse|" ++ row.tenantId ++ "|" ++ warehouseId ++ "|" ++ toString revision)
  match CloudEvent.newEvent id eventType ("warehouse:" ++ warehouseId) correlation data
      (some row.tenantId) now (some ("erp-warehouse-" ++ warehouseId ++ "-r" ++ toString revision)) with
  | .ok event => .ok event
  | .error message => .error (.envelope message)

/-- The facts of a warehouse's revision. -/
def detail (row : WarehouseRow) : Json :=
  .obj [("code", .str row.code), ("name", .str row.name), ("country", .str row.country),
    ("timezone", (row.timezone.map Json.str).getD .null)]

/-- The `UPDATE` of `advance` on the document of a warehouse. -/
def outcomeMoved (R : Runtime) (row : WarehouseRow) (_ : Defaults) (stored : WarehouseOutcomeRow) :
    Option WarehouseOutcomeRow :=
  if Outcome.rank row.status < Outcome.rank stored.status then none
  else if stored.status == row.status && Json.equal R stored.detail (detail row) then none
  else some ⟨stored.revision + 1, row.status, detail row⟩

/-- `PostgresDocumentOutcomeStore.advance` for a warehouse: the revision, when it moved. -/
def advance (row : WarehouseRow) (id : String) : Program (Option Nat) := do
  let document := Key.warehouseOutcome row.tenantId id
  let inserted ← match ← Call.sql (.selectForUpdate document) with
    | some _ => pure false
    | none => Call.sql (.insertNew document (⟨1, row.status, detail row⟩ : WarehouseOutcomeRow))
  if inserted then pure (some 1)
  else
    match ← Call.sql (.update document (outcomeMoved D.runtime row)) with
    | some (moved : WarehouseOutcomeRow) => pure (some moved.revision)
    | none => pure none

/-- The identity by code, then by native record; two different ones are a conflict. -/
def find (row : WarehouseRow) : Program (Option String) := do
  let byCode : Option String ←
    Call.sql (.select (.warehouseCode row.tenantId row.legalEntityId row.code))
  let _ ← match byCode with
    | some id => do
      let _ ← Call.sql (.selectForUpdate (.warehouse id))
      pure ()
    | none => pure ()
  let byNative : Option String ←
    Call.sql (.select (.warehouseNative row.engineInstanceId row.nativeId))
  let native : Option WarehouseRow ← match byNative with
    | some id => Call.sql (.selectForUpdate (.warehouse id))
    | none => pure none
  if native.any fun n => n.tenantId ≠ row.tenantId || n.legalEntityId ≠ row.legalEntityId then
    throw .warehouseIdentityConflict
  match byCode, byNative with
  | some a, some b => if a ≠ b then throw .warehouseIdentityConflict else pure (some a)
  | some a, none => pure (some a)
  | none, found => pure found

/-- `find` from the second look-up on. -/
def findNative (row : WarehouseRow) (byCode : Option String) : Program (Option String) := do
  let byNative : Option String ←
    Call.sql (.select (.warehouseNative row.engineInstanceId row.nativeId))
  let native : Option WarehouseRow ← match byNative with
    | some id => Call.sql (.selectForUpdate (.warehouse id))
    | none => pure none
  if native.any fun n => n.tenantId ≠ row.tenantId || n.legalEntityId ≠ row.legalEntityId then
    throw .warehouseIdentityConflict
  match byCode, byNative with
  | some a, some b => if a ≠ b then throw .warehouseIdentityConflict else pure (some a)
  | some a, none => pure (some a)
  | none, found => pure found

theorem find_eq (row : WarehouseRow) : find row = (do
    let byCode : Option String ←
      Call.sql (.select (.warehouseCode row.tenantId row.legalEntityId row.code))
    let _ ← match byCode with
      | some id => do
        let _ ← Call.sql (.selectForUpdate (.warehouse id))
        pure ()
      | none => pure ()
    findNative row byCode) := rfl

/-- `_record`. -/
def recordRow (row : WarehouseRow) (now : Instant) : Program Unit := do
  Call.lockTransaction ("baobab.warehouse|" ++ row.tenantId ++ "|" ++ row.legalEntityId ++ "|" ++
    row.code) 24
  let id ← match ← find row with
    | none => do
      let id := "erp_" ++ String.ofList ((← Call.uuid4).toList.filter (· ≠ '-'))
      let _ ← Call.sql (.insert (.warehouse id) fun _ => row)
      pure id
    | some id => do
      let _ ← Call.sql (.update (.warehouse id) fun _ _ => some row)
      pure id
  match ← advance D row id, row.timezone with
  | some revision, some timezone => do
    let event ← orRaise (changedEvent D.hashes row id timezone revision now)
    recordEvent event
  | _, _ => pure ()

/-- `record`: what ends it early rolls it back and is raised again. -/
def record (row : WarehouseRow) (now : Instant) : Program Unit :=
  tryCatch (do recordRow D row now; Call.commit) fun x => do
    Call.rollback
    throw x

end WarehouseIdentity

end Provisioning
end BaobabErp
