/-
# Document outcomes: statuses that only move forward, one revision per change

`modules/order_to_cash/outcome_store.py` and the `RANK` table of
`accounting_outcomes.py`.  Revision 1 on first sight, one more only when the
status or the facts differ from the stored revision; the row is locked, so two
requests for one document cannot both claim a revision.
-/

import BaobabErp.Platform.World

namespace BaobabErp
namespace Outcome

open Python Concurrency

/-- `RANK.get(status, 0)`. -/
def rank (status : String) : Nat :=
  ([("posted", 0), ("partially_allocated", 1), ("partially_paid", 1), ("allocated", 2),
    ("paid", 2)].lookup status).getD 0

/-- `Advanced`. -/
structure Advanced where
  revision : Nat
  firstSeenAt : Instant
  changed : Bool
deriving DecidableEq, Repr

/-- The row `advance` inserts on first sight. -/
def firstRow (status : String) (detail : Detail) (now : Instant) : OutcomeRow :=
  { revision := 1, status, detail, firstSeenAt := now, updatedAt := now, handedOut := [1] }

/-- The `UPDATE` of `advance`. -/
def nextRow (status : String) (detail : Detail) (now : Instant) (row : OutcomeRow) : OutcomeRow :=
  { row with revision := row.revision + 1, status, detail, updatedAt := now,
             handedOut := (row.revision + 1) :: row.handedOut }

/-- Whether a stored revision has to move: the status does not go back and
something observed differs. -/
def moves (row : OutcomeRow) (status : String) (detail : Detail) : Bool :=
  rank row.status ≤ rank status && !(row.status == status && row.detail == detail)

/-- What `advance` does with the row it has locked. -/
def advanceLocked (tenantId : String) (type : DocumentType) (documentId status : String)
    (detail : Detail) (now : Instant) (row : OutcomeRow) : Program Advanced :=
  if moves row status detail then do
    let _ ← Call.update (.outcome tenantId type documentId) (nextRow status detail now)
    pure ⟨row.revision + 1, row.firstSeenAt, true⟩
  else
    pure ⟨row.revision, row.firstSeenAt, false⟩

/-- `advance`.  The second `SELECT` reads the row of the transaction that won the
insert race; were there none, unpacking it would raise. -/
def advance (tenantId : String) (type : DocumentType) (documentId status : String)
    (detail : Detail) (now : Instant) : Program Advanced := do
  match ← Call.selectForUpdate (.outcome tenantId type documentId) with
  | some row => advanceLocked tenantId type documentId status detail now row
  | none =>
    if ← Call.insertNew (.outcome tenantId type documentId)
        (firstRow status detail now) then
      pure ⟨1, now, true⟩
    else
      match ← Call.selectForUpdate (.outcome tenantId type documentId) with
      | some row => advanceLocked tenantId type documentId status detail now row
      | none => throw (.other "TypeError")

end Outcome
end BaobabErp
