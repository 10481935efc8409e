/-
# An idempotency key accepts one command

What the requests of one tenant and idempotency key leave behind and are answered,
in every state that any interleaving reaches (`one_command_per_key`): the key names
one command for good, a success names that command, and a refusal has written
nothing.
-/

import BaobabErp.Provisioning.CommandHistory

namespace BaobabErp
namespace Provisioning

open Python Concurrency

/-- **A key has at most one command, and an operation at most one.** -/
structure OneCommand (rows : Rows) : Prop where
  key : ∀ op op', ∀ c c' : CommandRow, rows (.command op) = some c → rows (.command op') = some c' →
    c.tenantId = c'.tenantId → c.idempotencyKey = c'.idempotencyKey → op = op'
  record : ∀ op op' le le' pid, rows (.commandEntity op le) = some pid →
    rows (.commandEntity op' le') = some pid → op = op' ∧ le = le'

/-- **What an exchange says**, against the committed rows of any later state. -/
structure Honest (rows : Rows) (x : Exchange) : Prop where
  /-- A success names the command of the key, which has the request's fingerprint. -/
  succeeded : ∀ op, x.response.operationId = some op → ∃ c : CommandRow,
    rows (.command op) = some c ∧ c.tenantId = x.tenant ∧ c.idempotencyKey = x.key ∧
      x.fingerprint = some c.requestFingerprint
  /-- Any other answer was given by a session that has written nothing. -/
  refused : x.response.operationId = none → x.wrote = false
  /-- A request with another fingerprint than the command of its key is a conflict,
  unless a call it made failed. -/
  conflicting : ∀ op f, x.arrived = some op → x.fingerprint = some f → ∃ c : CommandRow,
    rows (.command op) = some c ∧ (f ≠ c.requestFingerprint → x.response.status = 500 ∨
      (x.response.status = 409 ∧
        x.response.code = some AcceptOperation.idempotencyKeyReused))
  /-- One with the same fingerprint names that command, unless a call it made failed. -/
  repeated : ∀ op f, x.arrived = some op → x.fingerprint = some f → ∃ c : CommandRow,
    rows (.command op) = some c ∧ (f = c.requestFingerprint → x.response.status = 500 ∨
      x.response.operationId = some op)

/-- Successes of one key name one operation. -/
theorem Honest.same {rows : Rows} {x y : Exchange} {op op' : String} (h : OneCommand rows)
    (hx : Honest rows x) (hy : Honest rows y) (ht : x.tenant = y.tenant) (hk : x.key = y.key)
    (hop : x.response.operationId = some op) (hop' : y.response.operationId = some op') :
    op = op' ∧ x.fingerprint = y.fingerprint := by
  obtain ⟨c, hc, htc, hkc, hfc⟩ := hx.succeeded op hop
  obtain ⟨c', hc', htc', hkc', hfc'⟩ := hy.succeeded op' hop'
  obtain rfl := h.key op op' c c' hc hc' (by rw [htc, htc', ht]) (by rw [hkc, hkc', hk])
  obtain rfl : c = c' := Option.some.inj (hc.symm.trans hc')
  exact ⟨rfl, by rw [hfc, hfc']⟩

end Provisioning
end BaobabErp
