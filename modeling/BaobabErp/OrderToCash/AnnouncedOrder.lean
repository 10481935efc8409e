/-
# Which accepted orders can be announced

A Trade order id has up to 128 characters, and so has an idempotency key.  The key
of a consequence event is the id between `erp-order-consequence-` and `-r` with
the revision, so the longest ids `parse_placed_order` accepts have no event: the
order is in the engine, and the transaction that would record it raises.
-/

import BaobabErp.OrderToCash.ConsequenceStore
import BaobabErp.OrderToCash.PlacedOrder
import BaobabErp.Python.Uuid

namespace BaobabErp
namespace Consequence

open Python CloudEvent

variable {H : Hashes} {r : OrderConsequence} {correlationId : Option String}

/-- The idempotency key of the event that announces a record. -/
def announcedKey (r : OrderConsequence) : String :=
  "erp-order-consequence-" ++ r.commerceOrderId ++ "-r" ++ toString r.revision

/-- The event `consequence_changed_event` asks `new_event` for. -/
def announced (H : Hashes) (r : OrderConsequence) (correlationId : Option String) : CloudEvent :=
  { id := eventId H r.tenantId r.commerceOrderId r.revision
    type := eventType
    source := Registry.erpSource
    subject := "order:" ++ r.commerceOrderId
    time := r.updatedAt
    dataschema := Registry.erpSchema "order-consequence-status"
    baobabscope := "tenant"
    correlationid := correlation H namespaceId
      ("correlation|" ++ r.tenantId ++ "|" ++ r.commerceOrderId) correlationId
    data := r.toContract
    tenantid := some r.tenantId
    idempotencykey := some (announcedKey r) }

/-- Every correlation is a UUID. -/
theorem correlation_uuid (hH : ∀ ns name, (uuidValue (H.uuid5 ns name)).isSome = true)
    (ns name : String) (supplied : Option String) :
    (uuidValue (correlation H ns name supplied)).isSome = true := by
  unfold correlation
  cases hc : canonicalUuid (supplied.getD "None") with
  | none => exact hH ns name
  | some u => exact uuidValue_canonical hc

/-- A tenant id is not empty. -/
theorem ne_empty_of_isTenantId {t : String} (h : Identifiers.isTenantId t = true) : t ≠ "" := by
  rintro rfl
  exact absurd h (by decide)

/-- Hash functions whose names are UUIDs. -/
def nilHashes : Hashes := ⟨fun _ _ => "00000000-0000-5000-8000-000000000000", id, fun _ => 0⟩

theorem nilHashes_uuid (ns name : String) : (uuidValue (nilHashes.uuid5 ns name)).isSome = true := by
  change (uuidValue "00000000-0000-5000-8000-000000000000").isSome = true
  decide +kernel

end Consequence
end BaobabErp
