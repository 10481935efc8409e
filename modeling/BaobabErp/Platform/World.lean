/-
# What a worker can do: SQL statements, engine calls, clocks

The effects the executors and the order-to-cash commands are written in, and
what one of them does to the state all workers share (`World`): the database
with its row locks, the session advisory locks and the engine.

A statement runs in its session's transaction; a statement that fails aborts it,
so nothing the transaction wrote can be committed any more (`World.abort`).
`Choice` settles what the state does not: whether a call fails, whether a failed
call took effect first, what the clocks say and what the engine answers.

`World.current` and `World.accesses` are not part of the system: which claim a
worker is executing, and which rows and records each claim has been shown.
-/

import BaobabErp.Platform.Engine
import BaobabErp.Concurrency.Store
import BaobabErp.Concurrency.Pool

namespace BaobabErp

open Python Concurrency

/-- What the code raises and catches. -/
inductive Exc
  | stop (outcome : ExecutionPolicy.Outcome)
  | leaseLost
  | engineOrgMismatch
  | api (status : Nat)
  | client
  | legalActorNotAuthorised
  | controlPlaneUnavailable
  | orderToCash (message : String)
  | mappingNotFound
  | envelope (message : String)
  | value (message : String)
  | identifier (message : String)
  | uniqueViolation
  | foreignKeyViolation
  | checkViolation
  | database
  | other (typeName : String)
deriving DecidableEq, Repr

/-- `type(exc).__name__`. -/
def Exc.typeName : Exc → String
  | stop _ => "Stop"
  | leaseLost => "LeaseLostError"
  | engineOrgMismatch => "EngineOrgMismatch"
  | api _ => "IdempiereApiError"
  | client => "IdempiereClientError"
  | legalActorNotAuthorised => "LegalActorNotAuthorised"
  | controlPlaneUnavailable => "ControlPlaneUnavailable"
  | orderToCash _ => "OrderToCashError"
  | mappingNotFound => "MappingNotFoundError"
  | envelope _ => "EnvelopeError"
  | value _ => "ValueError"
  | identifier _ => "IdentifierError"
  | uniqueViolation => "UniqueViolation"
  | foreignKeyViolation => "ForeignKeyViolation"
  | checkViolation => "CheckViolation"
  | database => "OperationalError"
  | other name => name

/-- How a call of something outside the process can fail. -/
inductive Failure
  | database
  | api (status : Nat)
  | client
  | controlPlane
  | notAuthorised
  | orderToCash
  | other (typeName : String)
deriving DecidableEq, Repr

def Failure.exc : Failure → Exc
  | database => .database
  | api status => .api status
  | client => .client
  | controlPlane => .controlPlaneUnavailable
  | notAuthorised => .legalActorNotAuthorised
  | orderToCash => .orderToCash "refused"
  | other name => .other name

/-- `inbox.postgres_queue.Claim`; `no` is the number of the claim (not a column). -/
structure Claim where
  rowId : Nat
  eventId : String
  eventType : String
  tenantId : Option String
  data : Json
  attempts : Nat
  receivedAt : Instant
  correlationId : Option String
  workerId : Worker
  no : Nat

def Claim.ticket (c : Claim) : Ticket := ⟨c.rowId, c.no, c.tenantId⟩

/-- The parameters of `PostgresInboxQueue._settle`. -/
structure Settlement where
  status : InboxStatus
  code : String
  error : Option String
  nextAttemptAt : Option Instant
  refund : Bool

/-- `order_to_cash.native_action_gate.NativeActionPolicy`. -/
structure NativeActionPolicy where
  action : String
  activity : String
  capability : String
  authorityReference : String
deriving DecidableEq, Repr

/-- `order_to_cash.legal_actor_gate.LegalActorOperation`, as far as the gate reads it. -/
structure LegalActorOperation where
  tenantId : String
  expectedLegalEntityId : String
  role : String
  activity : String
  capability : String
  operationReference : String
deriving DecidableEq, Repr

/-- `InboxNativeAuthority`: the policy and the operation it is for; its assessors
are the effect `Eff.assess`. -/
structure InboxNativeAuthority where
  policy : NativeActionPolicy
  operation : LegalActorOperation
deriving DecidableEq, Repr

/-- What a column default can use: a random identifier and the clock of the database. -/
structure Defaults where
  random : String
  now : Instant

/-- **The effects.** -/
inductive Eff
  /-- `PostgresInboxQueue.claim`: the `UPDATE … RETURNING` and its commit. -/
  | claim (eventType : String) (leaseSeconds : Int)
  /-- The `UPDATE` of `PostgresInboxQueue._settle`; answers its row count. -/
  | settle (claim : Claim) (s : Settlement)
  /-- `SELECT … WHERE key`. -/
  | select (k : Key)
  /-- `SELECT … WHERE key FOR UPDATE`. -/
  | selectForUpdate (k : Key)
  /-- `INSERT`; the row may use column defaults. -/
  | insert (k : Key) (row : Defaults → Row k)
  /-- `INSERT … ON CONFLICT DO NOTHING`; answers whether a row was inserted. -/
  | insertNew (k : Key) (row : Row k)
  /-- `UPDATE … WHERE key`; answers its row count. -/
  | update (k : Key) (set : Row k → Row k)
  /-- `INSERT … ON CONFLICT (key) DO UPDATE … RETURNING`. -/
  | upsert (k : Key) (row : Defaults → Row k) (set : Row k → Row k)
  | commit
  | rollback
  /-- `SELECT pg_try_advisory_lock(hashtextextended(key, 0))`. -/
  | tryLock (key : String)
  /-- `SELECT pg_advisory_unlock(hashtextextended(key, 0))`. -/
  | unlock (key : String)
  /-- `engine.query(table, [Eq(column, value)], …)`; answers the record ids. -/
  | query (σ : Session) (table : Table) (value : String)
  /-- `engine.query("C_BP_Group", [Eq("IsDefault", True)], …)`. -/
  | defaultGroups (σ : Session)
  | getRecord (σ : Session) (table : String) (id : Int)
  | createRecord (σ : Session) (fields : Fields)
  | updateRecord (σ : Session) (id : Int) (fields : Fields)
  | executeProcess (σ : Session) (processId : Int) (parameters : List (String × Json))
  /-- `datetime.now(timezone.utc)`. -/
  | now
  /-- `str(uuid.uuid4())`. -/
  | uuid4
  /-- `authority_for(claim)`. -/
  | authorityFor (claim : Claim)
  /-- The decisions `perform_governed_financial_action` asks for before it executes. -/
  | assess (operation : LegalActorOperation)

/-- The type of each effect's answer. -/
def Ans : Eff → Type
  | .claim _ _ => Option Claim
  | .settle _ _ => Nat
  | .select k => Option (Row k)
  | .selectForUpdate k => Option (Row k)
  | .insert k _ => Row k
  | .insertNew _ _ => Bool
  | .update _ _ => Nat
  | .upsert k _ _ => Row k
  | .commit => Unit
  | .rollback => Unit
  | .tryLock _ => Bool
  | .unlock _ => Unit
  | .query _ _ _ => List Int
  | .defaultGroups _ => List Int
  | .getRecord _ _ _ => List (String × Json)
  | .createRecord _ _ => Int
  | .updateRecord _ _ _ => Unit
  | .executeProcess _ _ _ => List (String × Json)
  | .now => Instant
  | .uuid4 => String
  | .authorityFor _ => Option InboxNativeAuthority
  | .assess _ => Unit

/-- A program over the platform's effects. -/
abbrev Program (α : Type) := Prog Ans Exc α

/-! One call of each effect, at the type of its answer. -/

namespace Call

abbrev claim (eventType : String) (leaseSeconds : Int) : Program (Option Claim) :=
  Prog.perform (Eff.claim eventType leaseSeconds)

abbrev settle (claim : Claim) (s : Settlement) : Program Nat := Prog.perform (Eff.settle claim s)

abbrev select (k : Key) : Program (Option (Row k)) := Prog.perform (Eff.select k)

abbrev selectForUpdate (k : Key) : Program (Option (Row k)) := Prog.perform (Eff.selectForUpdate k)

abbrev insert (k : Key) (row : Defaults → Row k) : Program (Row k) := Prog.perform (Eff.insert k row)

abbrev insertNew (k : Key) (row : Row k) : Program Bool := Prog.perform (Eff.insertNew k row)

abbrev update (k : Key) (set : Row k → Row k) : Program Nat := Prog.perform (Eff.update k set)

abbrev upsert (k : Key) (row : Defaults → Row k) (set : Row k → Row k) : Program (Row k) :=
  Prog.perform (Eff.upsert k row set)

abbrev commit : Program Unit := Prog.perform Eff.commit

abbrev rollback : Program Unit := Prog.perform Eff.rollback

abbrev tryLock (key : String) : Program Bool := Prog.perform (Eff.tryLock key)

abbrev unlock (key : String) : Program Unit := Prog.perform (Eff.unlock key)

abbrev query (σ : Session) (table : Table) (value : String) : Program (List Int) :=
  Prog.perform (Eff.query σ table value)

abbrev defaultGroups (σ : Session) : Program (List Int) := Prog.perform (Eff.defaultGroups σ)

abbrev getRecord (σ : Session) (table : String) (id : Int) : Program (List (String × Json)) :=
  Prog.perform (Eff.getRecord σ table id)

abbrev createRecord (σ : Session) (fields : Fields) : Program Int :=
  Prog.perform (Eff.createRecord σ fields)

abbrev updateRecord (σ : Session) (id : Int) (fields : Fields) : Program Unit :=
  Prog.perform (Eff.updateRecord σ id fields)

abbrev executeProcess (σ : Session) (processId : Int) (parameters : List (String × Json)) :
    Program (List (String × Json)) :=
  Prog.perform (Eff.executeProcess σ processId parameters)

abbrev now : Program Instant := Prog.perform Eff.now

abbrev uuid4 : Program String := Prog.perform Eff.uuid4

abbrev authorityFor (claim : Claim) : Program (Option InboxNativeAuthority) :=
  Prog.perform (Eff.authorityFor claim)

abbrev assess (operation : LegalActorOperation) : Program Unit := Prog.perform (Eff.assess operation)

end Call

/-- What the state does not settle about one call. -/
structure Choice where
  failure : Option Failure := none
  /-- A failing call took effect before its failure was reported. -/
  late : Bool := false
  now : Instant := 0
  row : Option Nat := none
  random : String := ""
  id : Int := 0
  ids : List Int := []
  members : List (String × Json) := []
  authority : Option InboxNativeAuthority := none

def Choice.defaults (c : Choice) : Defaults := ⟨c.random, c.now⟩

/-- What a claim has been shown. -/
inductive Resource
  | row (k : Key)
  | record (r : EngineRecord)

/-- The claim `reader` was shown a row or record that the claim `creator` created. -/
structure Access where
  reader : Option Ticket
  creator : Option Ticket
  what : Resource

/-- **The shared state.** -/
structure World where
  store : Store Worker Cell
  /-- The holder of each session advisory lock and how often it holds it. -/
  locks : Int → Option (Worker × Nat)
  engine : List EngineRecord
  current : Worker → Option Ticket
  accesses : List Access

namespace World

/-- A platform on which nothing has happened yet. -/
def empty : World := ⟨.ofRows fun _ => none, fun _ => none, [], fun _ => none, []⟩

/-- The row at `k` as a statement of `w` reads it. -/
def cell (s : World) (w : Worker) (k : Key) : Option (Cell k) := s.store.view w k

/-- A failed statement: nothing the transaction wrote can be committed. -/
def abort (s : World) (w : Worker) : World := { s with store := s.store.rollback w }

/-- The present claim of `w` is shown the row at `k`. -/
def seeRow (s : World) (w : Worker) (k : Key) : World :=
  match s.cell w k with
  | some c => { s with accesses := ⟨s.current w, c.creator, .row k⟩ :: s.accesses }
  | none => s

/-- The present claim of `w` is shown engine records. -/
def seeRecords (s : World) (w : Worker) (rs : List EngineRecord) : World :=
  { s with accesses := rs.map (fun r => ⟨s.current w, r.creator, .record r⟩) ++ s.accesses }

/-- `w` writes `row` at `k`, over the row that is there. -/
def write (s : World) (w : Worker) (k : Key) (row : Row k) : World :=
  let creator := match s.cell w k with
    | some c => c.creator
    | none => s.current w
  { s with store := s.store.put w k (some ⟨row, creator, s.current w⟩) }

/-- `w` writes a row with its unique-index entries. -/
def writeIndexed (s : World) (w : Worker) (k : Key) (row : Row k) : World :=
  (Schema.indexed k row).foldl (fun s entry => s.write w (.index entry) ()) (s.write w k row)

/-- No other session holds the row at `k` or one of the index entries. -/
def unlocked (s : World) (w : Worker) (k : Key) (entries : List Index) : Bool :=
  s.store.free w k && entries.all fun entry => s.store.free w (.index entry)

/-- A statement that inserts `row`: it raises when the row breaks a constraint. -/
def insertRow (s : World) (w : Worker) (k : Key) (row : Row k) : Except Exc (Row k) × World :=
  if (s.cell w k).isSome || (Schema.indexed k row).any fun e => (s.cell w (.index e)).isSome then
    (.error .uniqueViolation, s.abort w)
  else if !Schema.check k row then (.error .checkViolation, s.abort w)
  else if (Schema.parent k row).any fun p => (s.cell w p).isNone then
    (.error .foreignKeyViolation, s.abort w)
  else (.ok row, s.writeIndexed w k row)

/-- A statement that replaces the row at `k`. -/
def updateRow (s : World) (w : Worker) (k : Key) (row : Row k) : Except Exc (Row k) × World :=
  if Schema.check k row then (.ok row, (s.seeRow w k).write w k row)
  else (.error .checkViolation, s.abort w)

/-- The claims of a row so far. -/
def claimCount (history : List RowEvent) : Nat :=
  history.countP fun
    | .claimed _ _ => true
    | .settled _ _ => false

/-- `status IN ('received', 'retry', 'blocked') AND next_attempt_at <= now()`, or
`status = 'processing' AND lease_expires_at <= now()`. -/
def claimable (row : InboxRow) (eventType : String) (now : Instant) : Bool :=
  row.eventType == eventType &&
    (((row.status == .received || row.status == .retry || row.status == .blocked) &&
        row.nextAttemptAt ≤ now) ||
      (row.status == .processing && row.leaseExpiresAt.any (· ≤ now)))

/-- The row after `claim`. -/
def claimedRow (row : InboxRow) (w : Worker) (leaseSeconds : Int) (now : Instant) : InboxRow :=
  { row with
    status := .processing
    claimedBy := some w
    attempts := row.attempts + 1
    leaseExpiresAt := some (now + seconds leaseSeconds)
    history := .claimed (claimCount row.history + 1) w :: row.history }

def claimOf (id : Nat) (row : InboxRow) (w : Worker) : Claim :=
  { rowId := id, eventId := row.eventId, eventType := row.eventType, tenantId := row.tenantId,
    data := row.data, attempts := row.attempts, receivedAt := row.receivedAt,
    correlationId := row.correlationId, workerId := w, no := claimCount row.history }

/-- The fence: `status = 'processing' AND claimed_by = worker AND attempts = attempts`. -/
def fenced (row : InboxRow) (claim : Claim) : Bool :=
  row.status == .processing && row.claimedBy == some claim.workerId &&
    row.attempts == claim.attempts

/-- The row after `_settle`. -/
def settledRow (row : InboxRow) (claim : Claim) (s : Settlement) (now : Instant) : InboxRow :=
  { row with
    status := s.status
    outcomeCode := some s.code
    lastError := s.error
    nextAttemptAt := s.nextAttemptAt.getD row.nextAttemptAt
    attempts := if s.refund then row.attempts - 1 else row.attempts
    claimedBy := none
    leaseExpiresAt := none
    processedAt := if s.status = .processed then some now else row.processedAt
    history := .settled claim.no s.status :: row.history }

/-- The `UPDATE` of `claim` on row `id`, and the commit of the session's
transaction that follows it. -/
def claimRow (s : World) (w : Worker) (id : Nat) (row : InboxRow) : World :=
  { s with store := (s.store.put w (.inbox id) (some ⟨row, none, none⟩)).commit w }

/-- The `UPDATE` of `_settle`. -/
def settleRow (s : World) (w : Worker) (id : Nat) (row : InboxRow) : World :=
  { s with store := s.store.put w (.inbox id) (some ⟨row, none, none⟩) }

/-- The session takes an advisory lock once more. -/
def acquire (s : World) (w : Worker) (h : Int) (n : Nat) : World :=
  { s with locks := Function.update s.locks h (some (w, n + 1)) }

/-- The session gives an advisory lock back once. -/
def release (s : World) (w : Worker) (h : Int) : World :=
  match s.locks h with
  | some (v, n) =>
    if v = w then
      { s with locks := Function.update s.locks h (if n ≤ 1 then none else some (v, n - 1)) }
    else s
  | none => s

/-- A new record of the engine. -/
def create (s : World) (w : Worker) (σ : Session) (id : Int) (fields : Fields) : World :=
  { s with engine := ⟨id, σ, fields, s.current w⟩ :: s.engine }

/-- The records an update by `id` reaches. -/
def reached (D : Deployment) (σ : Session) (id : Int) (table : String) (r : EngineRecord) : Bool :=
  r.id == id && r.fields.table == table && D.sees σ r

/-- An update of the record `id`. -/
def updateEngine (D : Deployment) (s : World) (w : Worker) (σ : Session) (id : Int)
    (fields : Fields) : World :=
  let s := s.seeRecords w (s.engine.filter (reached D σ id fields.table))
  { s with engine := s.engine.map fun r =>
      if reached D σ id fields.table r then { r with fields := r.fields.merge fields } else r }

/-- The end of a session: its transaction and its advisory locks are gone. -/
def close (w : Worker) (s : World) : World :=
  { s with
    store := s.store.rollback w
    locks := fun h => match s.locks h with
      | some (v, n) => if v = w then none else some (v, n)
      | none => none
    current := Function.update s.current w none }

end World

open World

/-- **What one call does.** `none`: it waits for a row another session holds. -/
def exec (D : Deployment) (w : Worker) (e : Eff) (c : Choice) (s : World) :
    Option (Except Exc (Ans e) × World) :=
  match e with
  | .claim eventType leaseSeconds =>
    match c.row with
    | none =>
      match c.failure with
      | some f => some (.error f.exc, { s.abort w with current := Function.update s.current w none })
      | none => some (.ok none,
          { s with store := s.store.commit w, current := Function.update s.current w none })
    | some id =>
      match s.cell w (.inbox id) with
      | none => none
      | some cell =>
        if claimable cell.row eventType c.now && s.store.free w (.inbox id) then
          let row := claimedRow cell.row w leaseSeconds c.now
          let claim := claimOf id row w
          match c.failure with
          | none => some (.ok (some claim),
              { s.claimRow w id row with current := Function.update s.current w (some claim.ticket) })
          | some f => some (.error f.exc,
              { (if c.late then s.claimRow w id row else s.abort w) with
                current := Function.update s.current w none })
        else none
  | .settle claim settlement =>
    match c.failure with
    | some f => some (.error f.exc, s.abort w)
    | none =>
      if s.store.free w (.inbox claim.rowId) then
        match s.cell w (.inbox claim.rowId) with
        | none => some (.ok (0 : Nat), s)
        | some cell =>
          if fenced cell.row claim then
            some (.ok (1 : Nat),
              s.settleRow w claim.rowId (settledRow cell.row claim settlement c.now))
          else some (.ok (0 : Nat), s)
      else none
  | .select k =>
    match c.failure with
    | some f => some (.error f.exc, s.abort w)
    | none => some (.ok ((s.cell w k).map Cell.row), s.seeRow w k)
  | .selectForUpdate k =>
    match c.failure with
    | some f => some (.error f.exc, s.abort w)
    | none =>
      if s.store.free w k then
        match s.cell w k with
        | none => some (.ok none, s)
        | some cell => some (.ok (some cell.row),
            { s.seeRow w k with store := s.store.put w k (some cell) })
      else none
  | .insert k row =>
    match c.failure with
    | some f => some (.error f.exc, s.abort w)
    | none =>
      if s.unlocked w k (Schema.indexed k (row c.defaults)) then some (s.insertRow w k (row c.defaults))
      else none
  | .insertNew k row =>
    match c.failure with
    | some f => some (.error f.exc, s.abort w)
    | none =>
      if s.store.free w k then
        if (s.cell w k).isSome then some (.ok false, s)
        else if Schema.check k row then some (.ok true, s.write w k row)
        else some (.error .checkViolation, s.abort w)
      else none
  | .update k set =>
    match c.failure with
    | some f => some (.error f.exc, s.abort w)
    | none =>
      if s.store.free w k then
        match s.cell w k with
        | none => some (.ok (0 : Nat), s)
        | some cell =>
          match s.updateRow w k (set cell.row) with
          | (.ok _, t) => some (.ok (1 : Nat), t)
          | (.error x, t) => some (.error x, t)
      else none
  | .upsert k row set =>
    match c.failure with
    | some f => some (.error f.exc, s.abort w)
    | none =>
      match s.cell w k with
      | some cell => if s.store.free w k then some (s.updateRow w k (set cell.row)) else none
      | none =>
        if s.unlocked w k (Schema.indexed k (row c.defaults)) then
          some (s.insertRow w k (row c.defaults))
        else none
  | .commit =>
    match c.failure with
    | none => some (.ok (), { s with store := s.store.commit w })
    | some f => some (.error f.exc, if c.late then { s with store := s.store.commit w } else s.abort w)
  | .rollback =>
    match c.failure with
    | none => some (.ok (), s.abort w)
    | some f => some (.error f.exc, s.abort w)
  | .tryLock key =>
    match c.failure with
    | some f => some (.error f.exc, s.abort w)
    | none =>
      match s.locks (D.hashes.hashtext key) with
      | none => some (.ok true, s.acquire w (D.hashes.hashtext key) 0)
      | some (v, n) =>
        if v = w then some (.ok true, s.acquire w (D.hashes.hashtext key) n)
        else some (.ok false, s)
  | .unlock key =>
    match c.failure with
    | some f => some (.error f.exc, s.abort w)
    | none => some (.ok (), s.release w (D.hashes.hashtext key))
  | .query σ table value =>
    match c.failure with
    | some f => some (.error f.exc, s)
    | none =>
      let found := s.engine.filter fun r => r.fields.lookup == some (table, value) && D.sees σ r
      some (.ok (found.map EngineRecord.id), s.seeRecords w found)
  | .defaultGroups _ =>
    match c.failure with
    | some f => some (.error f.exc, s)
    | none => some (.ok c.ids, s)
  | .getRecord σ table id =>
    match c.failure with
    | some f => some (.error f.exc, s)
    | none => some (.ok c.members, s.seeRecords w (s.engine.filter (reached D σ id table)))
  | .createRecord σ fields =>
    if s.engine.any fun r => r.sameIdentity ⟨c.id, σ, fields, none⟩ then none
    else match c.failure with
      | none => some (.ok c.id, s.create w σ c.id fields)
      | some f => some (.error f.exc, if c.late then s.create w σ c.id fields else s)
  | .updateRecord σ id fields =>
    match c.failure with
    | none => some (.ok (), updateEngine D s w σ id fields)
    | some f => some (.error f.exc, if c.late then updateEngine D s w σ id fields else s)
  | .executeProcess _ _ _ =>
    match c.failure with
    | some f => some (.error f.exc, s)
    | none => some (.ok c.members, s)
  | .now => some (.ok c.now, s)
  | .uuid4 => some (.ok c.random, s)
  | .authorityFor _ =>
    match c.failure with
    | some f => some (.error f.exc, s)
    | none => some (.ok c.authority, s)
  | .assess _ =>
    match c.failure with
    | some f => some (.error f.exc, s)
    | none => some (.ok (), s)

/-- What happens outside the workers: an event is received, a tenant is mapped
or unmapped, another writer touches the master data or the engine. -/
inductive Env
  | receive (id : Nat) (eventId eventType : String) (tenantId : Option String) (data : Json)
      (correlationId : Option String) (at_ : Instant)
  | remap (tenant legalEntity : String) (row : Option TenantMappingRow)
  | bootstrap (engineInstance legalEntity kind canonicalId : String) (row : MasterDataRow)
  | foreign (r : EngineRecord)

/-- A row nobody holds is replaced by another writer's committed transaction. -/
def World.replace (s : World) (k : Key) (row : Option (Row k)) : Option World :=
  match s.store.pending k with
  | some _ => none
  | none => some { s with store := { s.store with
      committed := Function.update s.store.committed k (row.map fun r =>
        ⟨r, (s.store.committed k).elim none Cell.creator, none⟩) } }

/-- The row `PostgresInboxStore` records for a received event. -/
def receivedRow (eventId eventType : String) (tenantId : Option String) (data : Json)
    (correlationId : Option String) (at_ : Instant) : InboxRow :=
  { eventId, eventType, tenantId, data, correlationId, receivedAt := at_, nextAttemptAt := at_ }

def env (a : Env) (s : World) : Option World :=
  match a with
  | .receive id eventId eventType tenantId data correlationId at_ =>
    if (s.store.committed (.inbox id)).isSome then none
    else s.replace (.inbox id)
      (some (receivedRow eventId eventType tenantId data correlationId at_))
  | .remap tenant legalEntity row => s.replace (.tenantMapping tenant legalEntity) row
  | .bootstrap engineInstance legalEntity kind canonicalId row =>
    s.replace (.masterData engineInstance legalEntity kind canonicalId) (some row)
  | .foreign r =>
    if s.engine.any (·.sameIdentity r) then none
    else some { s with engine := { r with creator := none } :: s.engine }

end BaobabErp
