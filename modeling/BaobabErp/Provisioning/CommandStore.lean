/-
# Commands, their entities' statuses, and what announces them

`modules/provisioning/command_events.py`, `command_store.py` and `store.py`.  A
status is changed by `setStatus`, which recomputes the command's state from all
of its entities in the same transaction and announces it when it moved.
-/

import BaobabErp.Provisioning.CommandState
import BaobabErp.Provisioning.Planner
import BaobabErp.Provisioning.World

namespace BaobabErp
namespace Provisioning

open Python Concurrency

/-! ### Events -/

namespace CommandEvents

/-- `uuid.NAMESPACE_URL`. -/
def namespaceUrl : String := "6ba7b811-9dad-11d1-80b4-00c04fd430c8"

def eventType : String := "com.baobab-platform.erp.provisioning.changed.v1"

/-- `event_id`. -/
def eventId (H : Hashes) (op : String) (revision : Nat) : String :=
  H.uuid5 namespaceUrl
    ("urn:baobab-platform:event:erp-provisioning:" ++ op ++ ":" ++ toString revision)

/-- `idempotency_key`. -/
def idempotencyKey (op : String) (revision : Nat) : String :=
  "erp-provisioning-" ++ op ++ "-r" ++ toString revision

/-- `correlation_id`. -/
def correlationId (H : Hashes) (op : String) : String :=
  H.uuid5 namespaceUrl ("urn:baobab-platform:correlation:erp-provisioning:" ++ op)

/-- `state_document`: the body of an operation read and the data of its event. -/
def stateDocument (op : String) (row : CommandRow) : Json :=
  .obj ([("operation_id", .str op), ("tenant_id", .str row.tenantId),
    ("legal_entity_ids", textsDocument (sorted row.legalEntityIds)),
    ("state", .str row.state.value), ("revision", .int row.revision),
    ("updated_at", .str (isoformat row.updatedAt))] ++
    match row.failureCode with
    | some code => [("failure_code", .str code)]
    | none => [])

/-- The event `provisioning_changed` builds, before it is validated. -/
def changed (H : Hashes) (op : String) (row : CommandRow) : CloudEvent :=
  { id := eventId H op row.revision, type := eventType, source := Registry.erpSource
    subject := "provisioning:" ++ op, time := row.updatedAt
    dataschema := Registry.erpSchema "provisioning-state", baobabscope := "tenant"
    correlationid := correlationId H op, data := stateDocument op row
    tenantid := some row.tenantId
    idempotencykey := some (idempotencyKey op row.revision) }

/-- `provisioning_changed`. -/
def provisioningChanged (H : Hashes) (op : String) (row : CommandRow) : Except Exc CloudEvent :=
  match (changed H op row).validate with
  | .ok event => .ok event
  | .error message => .error (.envelope message)

theorem provisioningChanged_eq {H : Hashes} {op : String} {row : CommandRow} {event : CloudEvent}
    (h : provisioningChanged H op row = .ok event) : event = changed H op row := by
  unfold provisioningChanged at h
  split at h
  · rename_i e he
    rw [← Except.ok.inj h]
    exact CloudEvent.validate_eq he
  · cases h

end CommandEvents

/-- The row `record_event` inserts. -/
def outboxRow (event : CloudEvent) (d : Defaults) : OutboxRow :=
  { content := .event event, createdAt := d.now }

/-- `PostgresOutboxStore.record_event`. -/
def recordEvent (event : CloudEvent) : Program Unit :=
  match event.validate with
  | .error message => throw (.envelope message)
  | .ok _ =>
    if (Registry.produced.lookup event.type).isNone || event.source != Registry.erpSource then
      throw (.envelope (event.type ++ " from " ++ event.source ++
        " is not an event baobab-erp produces"))
    else if some event.dataschema ≠ Registry.dataschemaFor event.type then
      throw (.envelope "dataschema does not match the registered schema for the event type")
    else do
      let _ ← Call.sql (.insert (.outbox event.id) (outboxRow event))
      pure ()

/-! ### `PostgresProvisioningCommandStore` -/

namespace CommandStore

variable (D : ProvisioningDeployment)

/-- The scope `lock_scope` serialises. -/
def scope (tenant key : String) : String := tenant ++ "\x1f" ++ key

/-- `lock_scope`. -/
def lockScope (tenant key : String) : Program Unit := Call.lockTransaction (scope tenant key) 0

/-- `find`, by the unique index on tenant and key. -/
def find (tenant key : String) : Program (Option (String × CommandRow)) := do
  match ← Call.sql (.select (.commandKey tenant key)) with
  | none => pure none
  | some (op : String) =>
    match ← Call.sql (.select (.command op)) with
    | none => pure none
    | some (row : CommandRow) => pure (some (op, row))

/-- `_announce`. -/
def announce (op : String) (row : CommandRow) : Program Unit := do
  let event ← orRaise (CommandEvents.provisioningChanged D.hashes op row)
  recordEvent event

/-- The `UPDATE` of `advance`. -/
def advanced (state : CommandState) (code : Option String) (d : Defaults) (row : CommandRow) :
    Option CommandRow :=
  if row.state ≠ .cancelled ∧ (row.state ≠ state ∨ row.failureCode ≠ code) then
    some { row with state, failureCode := code, revision := row.revision + 1, updatedAt := d.now }
  else none

/-- `advance`. -/
def advance (op : String) (state : CommandState) (code : Option String) :
    Program (Option CommandRow) := do
  if (state == .failed) != code.isSome then throw (.value "ValueError")
  match ← Call.sql (.update (.command op) (advanced state code)) with
  | none => pure none
  | some (row : CommandRow) => do
    announce D op row
    pure (some row)

/-- `project`. -/
def project (pid : String) : Program (Option CommandRow) := do
  match ← Call.sql (.select (.entityOwner pid)) with
  | none => pure none
  | some ((op, _) : String × String) => do
    let _ ← Call.sql (.selectForUpdate (.command op))
    let statuses ← Call.sql (.statuses op)
    let (state, code) ← orRaise (derive statuses)
    advance D op state code

end CommandStore

/-! ### `PostgresProvisioningStore` -/

namespace ProvisioningStore

variable (D : ProvisioningDeployment)

/-- `mark_step`. -/
def markStep (pid key : String) (status : String) (result : Json) : Program Unit := do
  let _ ← Call.sql (.upsert (.step pid key) (⟨status, result⟩ : StepRow)
    fun _ => (⟨status, result⟩ : StepRow))
  Call.commit

/-- `completed_steps`. -/
def completedSteps (pid : String) : Program (List String) := Call.sql (.completedSteps pid)

/-- The `UPDATE` of `set_status`. -/
def withStatus (status : ProvisioningStatus) (error : Option String) (_ : Defaults)
    (row : OperationRow) : Option OperationRow :=
  some { row with status, lastError := error }

/-- `set_status`. -/
def setStatus (pid : String) (status : ProvisioningStatus) (error : Option String) :
    Program Unit := do
  let _ ← Call.sql (.update (.operation pid) (withStatus status error))
  let _ ← CommandStore.project D pid
  Call.commit

end ProvisioningStore

/-! ### `PostgresNativeProvisioningMappingStore` -/

namespace NativeMappings

/-- `get_native_id`. -/
def getNativeId (pid key : String) : Program (Option Int) :=
  Call.sql (.select (.nativeMapping pid key))

/-- `put_native_id`. -/
def putNativeId (pid key : String) (id : Int) : Program Unit := do
  let _ ← Call.sql (.upsert (.nativeMapping pid key) id fun _ => id)
  Call.commit

end NativeMappings

end Provisioning
end BaobabErp
