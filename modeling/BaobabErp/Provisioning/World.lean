/-
# What a provisioning process can do

The effects that acceptance and execution of provisioning operations are written
in, and what one of them does to what all processes share (`World`): the
database with its row and advisory locks, and the engines' records.

A `Query` is one SQL statement: what it answers and the rows it writes, read off
the view of its transaction.  It waits while another transaction holds one of
them, and a statement that fails ends what its transaction wrote.  `Choice`
settles what the state does not: failures, clocks, random identifiers and what
the engine and Control Plane answer.

`World.dirty`, `World.wrote`, `World.arrived` and `World.exchanges` are not part
of the system: whether a session has written and committed anything since its
request's turn came, which command its key named then, and what was answered.
-/

import BaobabErp.Provisioning.Assignment
import BaobabErp.Provisioning.NativeProcesses
import BaobabErp.Provisioning.Schema
import BaobabErp.Concurrency.Pool

namespace BaobabErp
namespace Provisioning

open Python Concurrency

/-! ### The deployment -/

/-- A record of an engine: its installation, table, id and `Description`. -/
structure NativeRecord where
  baseUrl : String
  table : String
  id : Int
  description : Option String
deriving DecidableEq, Repr

/-- **The deployment of the provisioning processes.** -/
structure ProvisioningDeployment where
  hashes : Hashes
  /-- `hashtextextended(text, seed)`. -/
  lockHash : String → Int → Int
  runtime : Runtime
  /-- `IDEMPIERE_PROVISIONER_CREDENTIALS_JSON`, keyed by engine instance. -/
  credentials : String → Option Session
  processes : Option NativeProvisioningProcesses
  /-- What acceptance needs; `none` where provisioning is not configured. -/
  dependencies : Option ProvisioningDependencies
  /-- The record ids an installation assigns in a table. -/
  issues : String → String → Int → Bool
  /-- The records that something else may create in an engine. -/
  foreign : NativeRecord → Bool
  /-- The assignments Control Plane answers with. -/
  approves : CpErpAssignment → Bool

/-- Two records are the same engine record. -/
def NativeRecord.sameIdentity (a b : NativeRecord) : Bool :=
  a.baseUrl == b.baseUrl && a.table == b.table && a.id == b.id

/-- How a call of something outside the process can fail. -/
inductive Failure
  | database
  | authentication
  | api (status : Nat)
  | client
  | notEstablished (status : Nat) (code : Option String)
  | controlPlane
  | assignment (message : String)
  | other (typeName : String)
deriving DecidableEq, Repr

def Failure.exc : Failure → Exc
  | database => .database
  | authentication => .authentication
  | api status => .api status
  | client => .client
  | notEstablished status code => .assignmentNotEstablished status code
  | controlPlane => .controlPlaneUnavailable
  | assignment message => .assignment message
  | other name => .other name

/-- What a column default can use. -/
structure Defaults where
  random : String
  now : Instant

/-! ### Statements -/

/-- The SQL statements. -/
inductive Query
  /-- `due`: the `SELECT`. -/
  | due (limit : Nat)
  /-- `begin`: the `UPDATE … RETURNING`. -/
  | begin (provisioningId : String)
  | completedSteps (provisioningId : String)
  /-- The statuses of a command's entities, in `project`. -/
  | statuses (operationId : String)
  | select (k : Key)
  | selectForUpdate (k : Key)
  | insert (k : Key) (row : Defaults → Row k)
  /-- `INSERT … ON CONFLICT (key) DO NOTHING`; answers whether a row was inserted. -/
  | insertNew (k : Key) (row : Row k)
  /-- `INSERT … ON CONFLICT (key) DO UPDATE`. -/
  | upsert (k : Key) (row : Row k) (set : Row k → Row k)
  /-- `UPDATE … WHERE key AND … RETURNING`; `set` is `none` where the row does not qualify. -/
  | update (k : Key) (set : Defaults → Row k → Option (Row k))

namespace Query

/-- The type of each statement's answer. -/
abbrev Ans : Query → Type
  | due _ => List String
  | begin _ => Option OperationRow
  | completedSteps _ => List String
  | statuses _ => List ProvisioningStatus
  | select k => Option (Row k)
  | selectForUpdate k => Option (Row k)
  | insert k _ => Row k
  | insertNew _ _ => Bool
  | upsert k _ _ => Row k
  | update k _ => Option (Row k)

/-- `_OPEN`. -/
def isOpen : ProvisioningStatus → Bool
  | .planned => true
  | .applying => true
  | .reconciling => true
  | _ => false

/-- The command that owns a provisioning record. -/
def ownerOf (view : Rows) (pid : String) : Option CommandRow :=
  match view (.entityOwner pid) with
  | some (op, _) => view (.command op)
  | none => none

/-- `state IN ('failed', 'cancelled')`. -/
def isOver (command : CommandRow) : Bool :=
  command.state == .failed || command.state == .cancelled

/-- Whether `due` lists the operation. -/
def isDue (view : Rows) (now : Instant) (pid : String) (row : OperationRow) : Bool :=
  isOpen row.status && (ownerOf view pid).any (fun command => !isOver command) &&
    row.nextAttemptAt.all (· ≤ now)

/-- `ORDER BY created_at, provisioning_id`. -/
def before (a b : Instant × String) : Bool := a.1 < b.1 || (a.1 == b.1 && a.2 ≤ b.2)

/-- The keys that the `SELECT` of a scanning statement looks through. -/
def isOperation : Key → Bool
  | .operation _ => true
  | _ => false

def isStepOf (pid : String) : Key → Bool
  | .step p _ => p == pid
  | _ => false

def isEntityOf (op : String) : Key → Bool
  | .commandEntity o _ => o == op
  | _ => false

/-- The row of an `INSERT` with the entries of its unique indexes; it raises when
the row breaks a constraint. -/
def insertRow (view : Rows) (k : Key) (row : Row k) : Except Exc (Row k × List (Write Row)) :=
  if (view k).isSome || (Schema.indexed k row).any fun e => (view e.1).isSome then
    .error .uniqueViolation
  else if !Schema.check k row then .error .checkViolation
  else if (Schema.parents k row).any fun p => (view p).isNone then .error .foreignKeyViolation
  else .ok (row, ⟨k, some row⟩ :: (Schema.indexed k row).map fun e => ⟨e.1, some e.2⟩)

/-- The row of an `UPDATE`, with the index entries it loses and gains. -/
def replaceRow (view : Rows) (k : Key) (old new : Row k) :
    Except Exc (Row k × List (Write Row)) :=
  let gone := (Schema.indexed k old).filter fun e =>
    !((Schema.indexed k new).map Sigma.fst).contains e.1
  let gained := (Schema.indexed k new).filter fun e =>
    !((Schema.indexed k old).map Sigma.fst).contains e.1
  if gained.any fun e => (view e.1).isSome then .error .uniqueViolation
  else if !Schema.check k new then .error .checkViolation
  else .ok (new, ⟨k, some new⟩ :: (gone.map fun e => ⟨e.1, none⟩) ++
    gained.map fun e => ⟨e.1, some e.2⟩)

/-- **What a statement answers and writes**, from the rows its transaction sees. -/
def run (view : Rows) (scan : (Key → Bool) → List Key) (d : Defaults) :
    (q : Query) → Except Exc (Ans q × List (Write Row))
  | due limit =>
    let rows := (scan isOperation).filterMap fun
      | .operation pid => (view (.operation pid)).bind fun row =>
        if isDue view d.now pid row then some (row.createdAt, pid) else none
      | _ => none
    .ok (((rows.insertionSort fun a b => before a b = true).take limit).map Prod.snd, [])
  | begin pid =>
    match view (.operation pid) with
    | some (row : OperationRow) =>
      if isOpen row.status && !(ownerOf view pid).any isOver then
        let counted : OperationRow := { row with attempts := row.attempts + 1 }
        .ok (some counted, [⟨.operation pid, some counted⟩])
      else .ok (none, [])
    | none => .ok (none, [])
  | completedSteps pid => .ok ((scan (isStepOf pid)).filterMap fun
      | .step p key => match view (.step p key) with
        | some (row : StepRow) => if row.status = "completed" then some key else none
        | none => none
      | _ => none, [])
  | statuses op => .ok ((scan (isEntityOf op)).filterMap fun
      | .commandEntity o legalEntity => match view (.commandEntity o legalEntity) with
        | some (pid : String) => match view (.operation pid) with
          | some (row : OperationRow) => some row.status
          | none => none
        | none => none
      | _ => none, [])
  | select k => .ok (view k, [])
  | selectForUpdate k =>
    match view k with
    | some row => .ok (some row, [⟨k, some row⟩])
    | none => .ok (none, [])
  | insert k row => insertRow view k (row d)
  | insertNew k row =>
    if (view k).isSome then .ok (false, [])
    else match insertRow view k row with
      | .ok (_, ws) => .ok (true, ws)
      | .error x => .error x
  | upsert k row set =>
    match view k with
    | some old => replaceRow view k old (set old)
    | none => insertRow view k row
  | update k set =>
    match view k with
    | none => .ok (none, [])
    | some old =>
      match set d old with
      | none => .ok (none, [])
      | some new => match replaceRow view k old new with
        | .ok (row, ws) => .ok (some row, ws)
        | .error x => .error x

end Query

/-! ### Answers to a caller -/

/-- The kinds of problem the handler answers with. -/
inductive ProblemKind
  | invalidRequest
  | forbidden
  | conflict
  | unavailable
  | internal
deriving DecidableEq, Repr

namespace ProblemKind

def status : ProblemKind → Nat
  | invalidRequest => 400
  | forbidden => 403
  | conflict => 409
  | unavailable => 503
  | internal => 500

/-- The code of the kind, where the problem names none of its own. -/
def code : ProblemKind → String
  | invalidRequest => "ERP_INVALID_REQUEST"
  | forbidden => "ERP_FORBIDDEN"
  | conflict => "ERP_CONFLICT"
  | unavailable => "ERP_SERVICE_UNAVAILABLE"
  | internal => "ERP_INTERNAL_ERROR"

end ProblemKind

/-- An entry of a problem's `errors`. -/
structure ProblemError where
  code : String
  message : String
  field : String
deriving DecidableEq, Repr

/-- `(status, body, headers)`: a problem document, or the state of a command. -/
inductive Response
  | problem (kind : ProblemKind) (detail code : Option String) (errors : List ProblemError)
      (retryAfter : Bool)
  | state (operationId : String) (document : Json)

namespace Response

def status : Response → Nat
  | problem kind _ _ _ _ => kind.status
  | state _ _ => 202

def code : Response → Option String
  | problem kind _ code _ _ => some (code.getD kind.code)
  | state _ _ => none

/-- The operation a response names. -/
def operationId : Response → Option String
  | problem _ _ _ _ _ => none
  | state op _ => some op

end Response

/-- One answered request; `fingerprint` is that of a request that came as far as
the look-up of its key. -/
structure Exchange where
  tenant : String
  key : String
  fingerprint : Option String
  response : Response
  /-- The command the key named when the request's turn came: when it got the lock
  of its key, or when it arrived where it came to no look-up. -/
  arrived : Option String
  /-- The session had committed something by the time of the answer. -/
  wrote : Bool

/-! ### Effects -/

/-- **The effects.** -/
inductive Eff
  | sql (q : Query)
  | commit
  | rollback
  /-- `SELECT pg_try_advisory_lock(hashtextextended(text, seed))`. -/
  | tryLock (text : String) (seed : Int)
  /-- `SELECT pg_advisory_unlock(hashtextextended(text, seed))`. -/
  | unlock (text : String) (seed : Int)
  /-- `SELECT pg_advisory_xact_lock(hashtextextended(text, seed))`. -/
  | lockTransaction (text : String) (seed : Int)
  /-- `client.query(table, [Eq("Description", value)], …)`; answers the record ids. -/
  | query (σ : Session) (table value : String)
  | getRecord (σ : Session) (table : String) (id : Int)
  | createRecord (σ : Session) (table : String) (fields : List (String × Json))
  | executeProcess (σ : Session) (process : Int) (parameters : List (String × Json))
  /-- `datetime.now(timezone.utc)`. -/
  | now
  /-- `str(uuid.uuid4())`. -/
  | uuid4
  /-- `control_plane.resolve_erp_assignment`. -/
  | resolveAssignment (tenant tenantProvisioning legalEntity : String)
  /-- `PostgresFinanceBaselineStore.get`. -/
  | baseline (legalEntity : String) (version : Int)
  /-- `PostgresFinanceBaselineStore.status`. -/
  | baselineStatus (legalEntity : String) (version : Int) (now : Instant)
  /-- A request with this tenant and key arrives, or its turn comes. -/
  | receive (tenant key : String)
  /-- The answer is sent. -/
  | answer (tenant key : String) (fingerprint : Option String) (response : Response)

/-- The type of each effect's answer. -/
abbrev Ans : Eff → Type
  | .sql q => q.Ans
  | .commit => Unit
  | .rollback => Unit
  | .tryLock _ _ => Bool
  | .unlock _ _ => Unit
  | .lockTransaction _ _ => Unit
  | .query _ _ _ => List Int
  | .getRecord _ _ _ => List (String × Json)
  | .createRecord _ _ _ => Int
  | .executeProcess _ _ _ => Json
  | .now => Instant
  | .uuid4 => String
  | .resolveAssignment _ _ _ => CpErpAssignment
  | .baseline _ _ => Option FinancialConfigurationBaseline
  | .baselineStatus _ _ _ => String
  | .receive _ _ => Unit
  | .answer _ _ _ _ => Unit

/-- A program over the provisioning effects. -/
abbrev Program (α : Type) := Prog Ans Exc α

/-! One call of each effect, at the type of its answer. -/

namespace Call

abbrev sql (q : Query) : Program q.Ans := Prog.perform (Eff.sql q)

abbrev commit : Program Unit := Prog.perform Eff.commit

abbrev rollback : Program Unit := Prog.perform Eff.rollback

abbrev tryLock (text : String) (seed : Int) : Program Bool := Prog.perform (Eff.tryLock text seed)

abbrev unlock (text : String) (seed : Int) : Program Unit := Prog.perform (Eff.unlock text seed)

abbrev lockTransaction (text : String) (seed : Int) : Program Unit :=
  Prog.perform (Eff.lockTransaction text seed)

abbrev query (σ : Session) (table value : String) : Program (List Int) :=
  Prog.perform (Eff.query σ table value)

abbrev getRecord (σ : Session) (table : String) (id : Int) : Program (List (String × Json)) :=
  Prog.perform (Eff.getRecord σ table id)

abbrev createRecord (σ : Session) (table : String) (fields : List (String × Json)) : Program Int :=
  Prog.perform (Eff.createRecord σ table fields)

abbrev executeProcess (σ : Session) (process : Int) (parameters : List (String × Json)) :
    Program Json :=
  Prog.perform (Eff.executeProcess σ process parameters)

abbrev now : Program Instant := Prog.perform Eff.now

abbrev uuid4 : Program String := Prog.perform Eff.uuid4

abbrev resolveAssignment (tenant tenantProvisioning legalEntity : String) :
    Program CpErpAssignment :=
  Prog.perform (Eff.resolveAssignment tenant tenantProvisioning legalEntity)

abbrev baseline (legalEntity : String) (version : Int) :
    Program (Option FinancialConfigurationBaseline) :=
  Prog.perform (Eff.baseline legalEntity version)

abbrev baselineStatus (legalEntity : String) (version : Int) (now : Instant) : Program String :=
  Prog.perform (Eff.baselineStatus legalEntity version now)

abbrev receive (tenant key : String) : Program Unit := Prog.perform (Eff.receive tenant key)

abbrev answer (tenant key : String) (fingerprint : Option String) (response : Response) :
    Program Unit :=
  Prog.perform (Eff.answer tenant key fingerprint response)

end Call

/-- What an operation that raises does in a program. -/
def orRaise {α : Type} : Except Exc α → Program α
  | .ok a => pure a
  | .error x => throw x

/-- What the state does not settle about one call. -/
structure Choice where
  failure : Option Failure := none
  /-- A failing call of the engine took effect before its failure was reported. -/
  late : Bool := false
  now : Instant := 0
  random : String := ""
  id : Int := 0
  members : List (String × Json) := []
  assignment : Option CpErpAssignment := none
  baseline : Option FinancialConfigurationBaseline := none
  text : String := ""

def Choice.defaults (c : Choice) : Defaults := ⟨c.random, c.now⟩

/-! ### The shared state -/

/-- **The shared state.** -/
structure World where
  db : Database Worker Row
  engine : List NativeRecord
  dirty : Worker → Bool
  wrote : Worker → Bool
  arrived : Worker → Option String
  exchanges : List Exchange

namespace World

/-- Nothing has happened yet. -/
def empty : World := ⟨.empty, [], fun _ => false, fun _ => false, fun _ => none, []⟩

/-- The rows as a statement of `w` reads them. -/
def view (s : World) (w : Worker) : Rows := s.db.view w

/-- The rows everybody reads. -/
def rows (s : World) : Rows := s.db.store.committed

/-- A failed statement, or a rollback: nothing the transaction wrote remains. -/
def abort (s : World) (w : Worker) : World :=
  { s with db := s.db.rollback w, dirty := Function.update s.dirty w false }

/-- A statement makes its writes. -/
def write (s : World) (w : Worker) (ws : List (Write Row)) : World :=
  { s with db := s.db.apply w ws, dirty := Function.update s.dirty w (s.dirty w || !ws.isEmpty) }

def commit (s : World) (w : Worker) : World :=
  { s with
    db := s.db.commit w
    dirty := Function.update s.dirty w false
    wrote := Function.update s.wrote w (s.wrote w || s.dirty w) }

/-- A new record of an engine. -/
def create (s : World) (r : NativeRecord) : World := { s with engine := r :: s.engine }

/-- The end of a session. -/
def close (w : Worker) (s : World) : World :=
  { s with
    db := s.db.close w
    dirty := Function.update s.dirty w false
    wrote := Function.update s.wrote w false
    arrived := Function.update s.arrived w none }

end World

/-- The `Description` a record is created with. -/
def descriptionOf (fields : List (String × Json)) : Option String :=
  (Json.get fields "Description").str?

open Provisioning.World

/-- **What one call does.** `none`: it waits, or the engine would not answer so. -/
def exec (D : ProvisioningDeployment) (w : Worker) (e : Eff) (c : Choice) (s : World) :
    Option (Except Exc (Ans e) × World) :=
  match e with
  | .sql q =>
    match c.failure with
    | some f => some (.error f.exc, s.abort w)
    | none =>
      match q.run (s.view w) (s.db.scan w) c.defaults with
      | .error x => some (.error x, s.abort w)
      | .ok (a, ws) => if s.db.free w ws then some (.ok a, s.write w ws) else none
  | .commit =>
    match c.failure with
    | some f => some (.error f.exc, s.abort w)
    | none => some (.ok (), s.commit w)
  | .rollback =>
    match c.failure with
    | some f => some (.error f.exc, s.abort w)
    | none => some (.ok (), s.abort w)
  | .tryLock text seed =>
    match c.failure with
    | some f => some (.error f.exc, s.abort w)
    | none =>
      if s.db.lockFree w (D.lockHash text seed) then
        some (.ok true, { s with db := s.db.acquire w (D.lockHash text seed) })
      else some (.ok false, s)
  | .unlock text seed =>
    match c.failure with
    | some f => some (.error f.exc, s.abort w)
    | none => some (.ok (), { s with db := s.db.release w (D.lockHash text seed) })
  | .lockTransaction text seed =>
    match c.failure with
    | some f => some (.error f.exc, s.abort w)
    | none =>
      if s.db.lockFree w (D.lockHash text seed) then
        some (.ok (), { s with db := s.db.enter w (D.lockHash text seed) })
      else none
  | .query σ table value =>
    match c.failure with
    | some f => some (.error f.exc, s)
    | none => some (.ok ((s.engine.filter fun r =>
        r.baseUrl == σ.baseUrl && r.table == table && r.description == some value).map
          NativeRecord.id), s)
  | .getRecord _ _ _ =>
    match c.failure with
    | some f => some (.error f.exc, s)
    | none => some (.ok c.members, s)
  | .createRecord σ table fields =>
    let r : NativeRecord := ⟨σ.baseUrl, table, c.id, descriptionOf fields⟩
    let possible := D.issues σ.baseUrl table c.id && !s.engine.any r.sameIdentity
    match c.failure with
    | none => if possible then some (.ok c.id, s.create r) else none
    | some f =>
      if c.late then (if possible then some (.error f.exc, s.create r) else none)
      else some (.error f.exc, s)
  | .executeProcess _ _ _ =>
    match c.failure with
    | some f => some (.error f.exc, s)
    | none => some (.ok (.obj c.members), s)
  | .now => some (.ok c.now, s)
  | .uuid4 => some (.ok c.random, s)
  | .resolveAssignment _ _ _ =>
    match c.failure with
    | some f => some (.error f.exc, s)
    | none => match c.assignment with
      | some a => if D.approves a then some (.ok a, s) else none
      | none => none
  | .baseline _ _ =>
    match c.failure with
    | some f => some (.error f.exc, s.abort w)
    | none => some (.ok c.baseline, s)
  | .baselineStatus _ _ _ =>
    match c.failure with
    | some f => some (.error f.exc, s.abort w)
    | none => some (.ok c.text, s)
  | .receive tenant key => some (.ok (),
      { s with
        wrote := Function.update s.wrote w false
        arrived := Function.update s.arrived w (s.rows (.commandKey tenant key)) })
  | .answer tenant key fingerprint response => some (.ok (),
      { s with exchanges :=
          ⟨tenant, key, fingerprint, response, s.arrived w, s.wrote w⟩ :: s.exchanges })

/-- What happens outside the processes: something else creates an engine record. -/
inductive Env
  | foreign (r : NativeRecord)

def env (D : ProvisioningDeployment) : Env → World → Option World
  | .foreign r, s =>
    if D.foreign r && (D.issues r.baseUrl r.table r.id && !s.engine.any r.sameIdentity) then
      some (s.create r)
    else none

end Provisioning
end BaobabErp
