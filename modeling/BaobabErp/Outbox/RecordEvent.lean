/-
# Recording events in the outbox

`PostgresOutboxStore.record` and `.record_event` (`modules/outbox/postgres_store.py`):
both belong to the caller's transaction, so an event is recorded exactly when the
change it announces is committed.
-/

import BaobabErp.Platform.World

namespace BaobabErp
namespace Outbox

open Concurrency

/-- `record_event`: refuses anything ERP does not produce. -/
def recordEvent (event : CloudEvent) : Program Unit :=
  match event.validate with
  | .error message => throw (.envelope message)
  | .ok _ =>
    if (Registry.produced.lookup event.type).isNone || event.source != Registry.erpSource then
      throw (.envelope (event.type ++ " from " ++ event.source ++
        " is not an event baobab-erp produces"))
    else if some event.dataschema ≠ Registry.dataschemaFor event.type then
      throw (.envelope "dataschema does not match the registered schema for the event type")
    else do
      let _ ← Call.insert (.outbox event.id) fun d =>
        ({ content := .event event, createdAt := d.now } : OutboxRow)
      pure ()

/-- `record`: a legacy envelope is kept as `held`, never delivered. -/
def record (eventId : String) (envelope : EventEnvelope) : Program Unit := do
  let _ ← Call.insert (.outbox eventId) fun d =>
    ({ content := .legacy envelope, status := .held, createdAt := d.now,
       lastError := some "legacy envelope: no registered canonical event to deliver as" } :
      OutboxRow)
  pure ()

end Outbox
end BaobabErp
