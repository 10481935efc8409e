/-
# Dispatching the outbox

`RetryPolicy` and `dispatch_pending` of `modules/outbox/service.py` over the rows of
`PostgresOutboxStore` (`modules/outbox/postgres_store.py`).  A pass reads the events that
are due, delivers each of them, and marks its row in a statement of its own.

What a pass does with one record is written once, in three parts: the check before the
attempt, the verdict on the delivery, the statement that marks the row.  A pass that runs
alone takes the parts of each record in turn; passes that overlap may take them in any
order.
-/

import BaobabErp.Platform.Schema
import Mathlib.Data.List.Sort
import Mathlib.Data.List.Nodup
import Mathlib.Algebra.Group.Nat.Defs

namespace BaobabErp
namespace Outbox

open Python

/-! ### The policy -/

/-- `MAX_ATTEMPTS`. -/
def maxAttempts : Nat := 8

/-- `BACKOFF_CEILING_SECONDS`. -/
def backoffCeilingSeconds : Nat := 3600

/-- `backoff_seconds`. -/
def backoffSeconds (attempt : Nat) : Nat := min (2 ^ attempt) backoffCeilingSeconds

/-- `RetryPolicy`; the horizon is a `timedelta`, in microseconds. -/
structure RetryPolicy where
  maxAttempts : Option Nat := some Outbox.maxAttempts
  horizon : Option Int := none

/-- `now() - created_at >= policy.horizon`, where there is a horizon. -/
def RetryPolicy.elapsed (policy : RetryPolicy) (createdAt now : Instant) : Bool :=
  policy.horizon.any fun horizon => horizon ≤ now - createdAt

/-- Delivery is not retried after that many attempts, at that time. -/
def RetryPolicy.exhausted (policy : RetryPolicy) (attempts : Nat) (createdAt now : Instant) : Bool :=
  policy.maxAttempts.any (· ≤ attempts) || policy.elapsed createdAt now

/-! ### The table -/

/-- `PostgresOutboxRecord`. -/
structure Record where
  name : String
  attempts : Nat
  event : CloudEvent
  createdAt : Instant

/-- **`baobab.event_outbox`**, by `event_id`, which is unique. -/
structure Table where
  rows : List (String × OutboxRow)
  unique : (rows.map Prod.fst).Nodup

/-- What a committed `record_event` adds. -/
structure Recording where
  eventId : String
  event : CloudEvent
  createdAt : Instant

/-- The row `record_event` leaves. -/
def Recording.row (r : Recording) : OutboxRow := { content := .event r.event, createdAt := r.createdAt }

/-- `record_event`: an `event_id` that is there already violates the unique index. -/
def Table.recordEvent (t : Table) (r : Recording) : Table :=
  if h : r.eventId ∈ t.rows.map Prod.fst then t
  else ⟨t.rows ++ [(r.eventId, r.row)], by
    rw [List.map_append, List.nodup_append_comm]
    exact List.nodup_cons.2 ⟨h, t.unique⟩⟩

/-- **What `pending` is called with, and by what it is answered**: the time of the
database, and how it orders rows of one `occurred_at`. -/
structure Selection where
  limit : Nat := 100
  types : List String := []
  excludeTypes : List String := []
  now : Instant
  tie : String → Nat := fun _ => 0

/-- The `WHERE` clause of `pending`; no types and no list of types are the same. -/
def Selection.selects (s : Selection) (row : OutboxRow) : Option CloudEvent :=
  match row.content with
  | .legacy _ => none
  | .event e =>
    if (row.status = .pending ∨ row.status = .retry) ∧ row.nextAttemptAt.all (· ≤ s.now) ∧
        (s.types = [] ∨ e.type ∈ s.types) ∧ ¬ (s.excludeTypes ≠ [] ∧ e.type ∈ s.excludeTypes) then
      some e
    else none

/-- `ORDER BY occurred_at`. -/
def Selection.before (s : Selection) (a b : Record) : Prop :=
  a.event.time < b.event.time ∨ (a.event.time = b.event.time ∧ s.tie a.name ≤ s.tie b.name)

instance (s : Selection) : DecidableRel s.before := fun _ _ =>
  inferInstanceAs (Decidable (_ ∨ (_ ∧ _)))

/-- **`pending`.** -/
def Table.pending (t : Table) (s : Selection) : List Record :=
  let due := t.rows.filterMap fun (name, row) =>
    (s.selects row).map fun event => ⟨name, row.attempts, event, row.createdAt⟩
  (due.insertionSort s.before).take s.limit

/-! ### What a row is marked -/

/-- `mark_delivered`, `mark_retry` and `mark_dead_letter`. -/
inductive Mark
  | delivered
  | retry (attempts : Nat) (error : String) (delaySeconds : Nat)
  | deadLetter (attempts : Nat) (error : String)

/-- What the statement sets, whatever the row is. -/
def Mark.update (m : Mark) (now : Instant) (row : OutboxRow) : OutboxRow :=
  match m with
  | delivered => { row with status := .delivered, deliveredAt := some now, nextAttemptAt := none }
  | retry attempts error delaySeconds =>
    { row with status := .retry, attempts, lastError := some error,
               nextAttemptAt := some (now + seconds delaySeconds) }
  | deadLetter attempts error =>
    { row with status := .deadLetter, attempts, lastError := some error,
               deadLetteredAt := some now, nextAttemptAt := none }

/-- The status a mark sets. -/
def Mark.status : Mark → OutboxStatus
  | delivered => .delivered
  | retry .. => .retry
  | deadLetter .. => .deadLetter

/-- The statement on the table: `WHERE event_id = name`. -/
def Table.mark (t : Table) (name : String) (now : Instant) (m : Mark) : Table where
  rows := t.rows.map fun p => (p.1, if p.1 = name then m.update now p.2 else p.2)
  unique := by
    rw [List.map_map]
    exact t.unique

/-- The row of an event. -/
def Table.row (t : Table) (name : String) : Option OutboxRow := t.rows.lookup name

/-! ### One record -/

/-- How `transport.deliver` ends. -/
inductive Delivery
  | accepted
  /-- `PermanentDeliveryError`. -/
  | refused (error : String)
  /-- Any other exception. -/
  | failed (error : String)
deriving DecidableEq

/-- The delivery call raised. -/
def Delivery.raised : Delivery → Bool
  | accepted => false
  | _ => true

/-- A retry that only became due after the horizon is not attempted. -/
def RetryPolicy.overdue (policy : RetryPolicy) (r : Record) (now : Instant) : Bool :=
  0 < r.attempts && policy.elapsed r.createdAt now

/-- What is marked after a delivery that ended so; `now` is read where it raised. -/
def RetryPolicy.verdict (policy : RetryPolicy) (r : Record) (now : Instant) : Delivery → Mark
  | .accepted => .delivered
  | .refused error => .deadLetter (r.attempts + 1) error
  | .failed error =>
    if policy.exhausted (r.attempts + 1) r.createdAt now then .deadLetter (r.attempts + 1) error
    else .retry (r.attempts + 1) error (backoffSeconds (r.attempts + 1))

/-- **What the surroundings do in one turn of the loop**: the clock readings of the pass,
the end of the delivery, the time of the database at the mark, and the events that others
record meanwhile. -/
structure Turn where
  checkedAt : Instant
  delivery : Delivery
  failedAt : Instant
  markedAt : Instant
  recorded : List Recording := []

/-- **What became of a record in a pass**: when it was checked, the delivery call if one
was made, and what was marked. -/
structure Handling where
  record : Record
  checkedAt : Instant
  delivery : Option Delivery
  mark : Mark

/-- The check and the delivery. -/
def RetryPolicy.handle (policy : RetryPolicy) (r : Record) (t : Turn) : Handling :=
  if policy.overdue r t.checkedAt then
    ⟨r, t.checkedAt, none,
      .deadLetter r.attempts "the retry horizon elapsed before the next attempt"⟩
  else ⟨r, t.checkedAt, some t.delivery, policy.verdict r t.failedAt t.delivery⟩

/-! ### A pass that runs alone -/

/-- `DispatchSummary`. -/
structure DispatchSummary where
  delivered : Nat := 0
  retried : Nat := 0
  deadLettered : Nat := 0
deriving DecidableEq

/-- The count that goes with a mark. -/
def DispatchSummary.count (s : DispatchSummary) : Mark → DispatchSummary
  | .delivered => { s with delivered := s.delivered + 1 }
  | .retry .. => { s with retried := s.retried + 1 }
  | .deadLetter .. => { s with deadLettered := s.deadLettered + 1 }

/-- The loop, from the turn of that number on. -/
def dispatchRecords (policy : RetryPolicy) (turn : Nat → Turn) :
    Nat → List Record → Table → DispatchSummary → Table × List Handling × DispatchSummary
  | _, [], t, s => (t, [], s)
  | n, r :: rs, t, s =>
    let h := policy.handle r (turn n)
    let t := (turn n).recorded.foldl Table.recordEvent t
    let (t, hs, s) := dispatchRecords policy turn (n + 1) rs
      (t.mark r.name (turn n).markedAt h.mark) (s.count h.mark)
    (t, h :: hs, s)

/-- **What a pass did**: the records it took, what became of them, and its summary. -/
structure Pass where
  taken : List Record
  handled : List Handling
  summary : DispatchSummary

/-- **`dispatch_pending`**, where no operation of the store fails. -/
def dispatchPending (policy : RetryPolicy) (s : Selection) (turn : Nat → Turn) (t : Table) :
    Table × Pass :=
  let taken := t.pending s
  let (t, handled, summary) := dispatchRecords policy turn 0 taken t {}
  (t, ⟨taken, handled, summary⟩)

end Outbox
end BaobabErp
