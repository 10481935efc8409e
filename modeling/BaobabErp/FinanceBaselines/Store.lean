/-
# The store of Finance baselines

`modules/provisioning/finance_baseline_store.py` over the tables of migrations
`0014` and `0017`: the versions of a legal entity's financial configuration and
the withdrawals of them.  Both tables are append-only, so a key with a row keeps
it.  The store never commits; its caller owns the transaction, and here the
caller is any program over the store's calls, `commit` and `rollback`.

A statement that fails ends its transaction, and nothing runs on that connection
until the caller has rolled back.
-/

import BaobabErp.Concurrency.Append
import BaobabErp.Concurrency.Pool
import BaobabErp.Provisioning.Assignment
import BaobabErp.Temporal.Register

namespace BaobabErp
namespace FinanceBaselines

open Concurrency Python
open Provisioning (FinancialConfigurationBaseline)
open Temporal (Register)

/-! ### The tables -/

/-- A row of `financial_configuration_baseline_withdrawal`. -/
structure Withdrawal where
  withdrawnBy : String
  withdrawnAt : Instant
  reason : String
  evidenceReference : String
  deriving DecidableEq

/-- The primary keys of the two tables. -/
inductive Key
  | baseline (legalEntityId : String) (version : Int)
  | withdrawal (legalEntityId : String) (version : Int)
  deriving DecidableEq

/-- A row of the table a key is of. -/
def Row : Key → Type
  | .baseline _ _ => FinancialConfigurationBaseline
  | .withdrawal _ _ => Withdrawal

/-- A connection to the database. -/
abbrev Session := String

abbrev Db := Database Session Row

/-- What the database's settings decide: its `lower`, and the hash an advisory
lock is taken on. -/
structure Deployment where
  lower : String → String
  hashtextextended : String → Int

/-- `SYNTHETIC_APPROVERS`. -/
def syntheticApprovers : List String :=
  ["system", "service", "bootstrap", "automation", "auto", "unknown", "n/a", "none"]

/-- `btrim`: without the blanks around it. -/
def btrim (s : String) : String :=
  String.ofList ((s.toList.dropWhile (· == ' ')).reverse.dropWhile (· == ' ')).reverse

/-- `value.startswith("REQUIRED_")`, and `LIKE 'REQUIRED\_%'`. -/
def isPlaceholder (s : String) : Bool := "REQUIRED_".toList.isPrefixOf s.toList

/-- The `CHECK` of a text that somebody has to give. -/
def given (s : String) : Bool := btrim s != "" && !isPlaceholder s

/-- The `CHECK` of the name of an accountable person. -/
def accountable (D : Deployment) (s : String) : Bool :=
  given s && !syntheticApprovers.contains (D.lower (btrim s))

/-- The `CHECK`s of the two tables. -/
def check (D : Deployment) : (k : Key) → Row k → Bool
  | .baseline _ _, b =>
    1 ≤ b.version && (b.functionalCurrency.toList.length == 3 &&
      b.functionalCurrency.toList.all isAsciiUpper) &&
    (1 ≤ b.fiscalYearStartMonth && b.fiscalYearStartMonth ≤ 12) &&
    given b.chartOfAccountsTemplate && given b.accountingSchema && given b.taxProfile &&
    given b.costingMethod && accountable D b.approvedBy && given b.evidenceReference &&
    btrim b.legalEntityId != ""
  | .withdrawal _ _, w =>
    accountable D w.withdrawnBy && btrim w.reason != "" && given w.evidenceReference

/-! ### What the statements read -/

/-- A version as a session reads it. -/
def baselineAt (db : Db) (t : Session) (legalEntityId : String) (version : Int) :
    Option FinancialConfigurationBaseline :=
  db.view t (.baseline legalEntityId version)

/-- The withdrawal of a version as a session reads it. -/
def withdrawalAt (db : Db) (t : Session) (legalEntityId : String) (version : Int) :
    Option Withdrawal :=
  db.view t (.withdrawal legalEntityId version)

/-- The versions of a legal entity that a session reads. -/
def recorded (db : Db) (t : Session) (legalEntityId : String) :
    List FinancialConfigurationBaseline :=
  db.keys.filterMap fun
    | .baseline e v => if e = legalEntityId then baselineAt db t e v else none
    | .withdrawal _ _ => none

/-- `COALESCE(MAX(version), 0)`. -/
def maxVersion (db : Db) (t : Session) (legalEntityId : String) : Int :=
  (((recorded db t legalEntityId).map (·.version)).max?).getD 0

/-- A date as the number of its day. -/
def dayOf (d : Date) : Int := d.toordinal

/-- `(t AT TIME ZONE 'UTC')::date`. -/
def utcDay (t : Instant) : Int := t.fdiv 86400000000 + 719163

/-- A withdrawal of the version that was recorded by the day `on`. -/
def withdrawnBy (db : Db) (t : Session) (legalEntityId : String) (version on : Int) : Bool :=
  match withdrawalAt db t legalEntityId version with
  | some w => utcDay w.withdrawnAt ≤ on
  | none => false

/-- `ORDER BY effective_from, version`. -/
def rank (b : FinancialConfigurationBaseline) : Int ×ₗ Int :=
  toLex (dayOf b.effectiveFrom, b.version)

/-- **The statements that only read.** -/
inductive Query
  /-- The `SELECT` of `effective`. -/
  | inForce (legalEntityId : String) (on : Date)
  /-- The `SELECT` of `status`. -/
  | withdrawn (legalEntityId : String) (version : Int) (on : Date)

@[reducible] def Query.Ans : Query → Type
  | .inForce _ _ => Option FinancialConfigurationBaseline
  | .withdrawn _ _ _ => Bool

def Query.answer (db : Db) (t : Session) : (q : Query) → q.Ans
  | .inForce le on => Temporal.latest rank
      (fun b => dayOf b.effectiveFrom ≤ dayOf on && !withdrawnBy db t b.legalEntityId b.version
        (dayOf on)) (recorded db t le)
  | .withdrawn le v on => withdrawnBy db t le v (dayOf on)

/-! ### Errors -/

inductive DbError
  | uniqueViolation | foreignKeyViolation | checkViolation | numericValueOutOfRange
  | inFailedSqlTransaction | operationalError
  deriving DecidableEq

inductive Exc
  /-- `FinanceBaselineError`. -/
  | financeBaseline (message : String)
  /-- Comparing a naive and an aware `datetime`. -/
  | typeError
  | database (x : DbError)
  deriving DecidableEq

/-! ### The two queries -/

/-- One query. -/
def ask (q : Query) : Prog Query.Ans Exc q.Ans := .perform q

/-- `effective`. -/
def effective (legalEntityId : String) (on : Date) :
    Prog Query.Ans Exc (Option FinancialConfigurationBaseline) :=
  ask (.inForce legalEntityId on)

/-- `status`. -/
def status (baseline : FinancialConfigurationBaseline) (on : Date) :
    Prog Query.Ans Exc Register.Standing := do
  let withdrawn ← ask (.withdrawn baseline.legalEntityId baseline.version on)
  if withdrawn then return .withdrawn
  if dayOf on < dayOf baseline.effectiveFrom then return .notYetEffective
  let inForce ← effective baseline.legalEntityId on
  match inForce with
  | some b => return if b.version = baseline.version then .effective else .superseded
  | none => return .superseded

/-! ### Recording and withdrawing -/

/-- **The statements of the store**, and the ends of a transaction. -/
inductive Statement
  /-- `datetime.now(timezone.utc)`. -/
  | now
  | read (q : Query)
  /-- `SELECT pg_advisory_xact_lock(hashtextextended(…, 0))`. -/
  | lock (legalEntityId : String)
  /-- `INSERT … SELECT …, COALESCE(MAX(version), 0) + 1, … RETURNING …`; the version
  that `values` carries is not sent. -/
  | insertBaseline (values : FinancialConfigurationBaseline)
  | insertWithdrawal (legalEntityId : String) (version : Int) (w : Withdrawal)
  | commit
  | rollback

@[reducible] def Statement.Ans : Statement → Type
  | .now => Instant
  | .read q => q.Ans
  | .insertBaseline _ => FinancialConfigurationBaseline
  | .lock _ | .insertWithdrawal _ _ _ | .commit | .rollback => Unit

/-- One statement. -/
def sql (e : Statement) : Prog Statement.Ans Exc e.Ans := .perform e

/-- `_text`. -/
def text (value : Option String) (name : String) : Except Exc String :=
  let cleaned := strip (value.getD "")
  if cleaned = "" ∨ isPlaceholder cleaned then
    .error (.financeBaseline (name ++ " is missing or a placeholder"))
  else .ok cleaned

/-- `str.lower` as far as a comparison with ASCII names goes: the letters whose
lower case is ASCII. -/
def lower (s : String) : String :=
  s.map fun c => if c.toNat = 0x212A then 'k' else c.toLower

/-- The checks of who acted and when, which `record` and `withdraw` share. -/
def accountablePerson (by_ : Option String) (byName : String) (at_ : DateTime) (atName : String)
    (now : Option DateTime) : Prog Statement.Ans Exc (String × Instant) := do
  let person ← .ret (text by_ byName)
  if syntheticApprovers.contains (lower person) then
    throw (.financeBaseline (byName ++ " '" ++ person ++ "' is not an accountable person"))
  let some instant := at_.instant
    | throw (.financeBaseline (atName ++ " has no time zone"))
  let limit ← match now with
    | some n => match n.instant with
      | some i => pure i
      | none => throw .typeError
    | none => sql .now
  if limit < instant then throw (.financeBaseline (atName ++ " is in the future"))
  return (person, instant)

/-- The arguments of `record`. -/
structure RecordArgs where
  legalEntityId : Option String
  functionalCurrency : Option String
  fiscalYearStartMonth : Int
  chartOfAccountsTemplate : Option String
  accountingSchema : Option String
  taxProfile : Option String
  costingMethod : Option String
  effectiveFrom : Date
  approvedBy : Option String
  approvedAt : DateTime
  evidenceReference : Option String
  now : Option DateTime := none

/-- `record`. -/
def record (a : RecordArgs) : Prog Statement.Ans Exc FinancialConfigurationBaseline := do
  let (approver, _) ← accountablePerson a.approvedBy "approved_by" a.approvedAt "approved_at" a.now
  let entity ← .ret (text a.legalEntityId "legal_entity_id")
  let functionalCurrency ← .ret (text a.functionalCurrency "functional_currency")
  let chart ← .ret (text a.chartOfAccountsTemplate "chart_of_accounts_template")
  let schema ← .ret (text a.accountingSchema "accounting_schema")
  let taxProfile ← .ret (text a.taxProfile "tax_profile")
  let costingMethod ← .ret (text a.costingMethod "costing_method")
  let evidence ← .ret (text a.evidenceReference "evidence_reference")
  sql (.lock entity)
  sql (.insertBaseline ⟨entity, 0, functionalCurrency, a.fiscalYearStartMonth, chart, schema,
    taxProfile, costingMethod, a.effectiveFrom, approver, a.approvedAt, evidence⟩)

/-- The arguments of `withdraw`. -/
structure WithdrawArgs where
  legalEntityId : Option String
  version : Int
  withdrawnBy : Option String
  withdrawnAt : DateTime
  reason : Option String
  evidenceReference : Option String
  now : Option DateTime := none

/-- `withdraw`. -/
def withdraw (a : WithdrawArgs) : Prog Statement.Ans Exc Unit := do
  let (person, instant) ← accountablePerson a.withdrawnBy "withdrawn_by" a.withdrawnAt
    "withdrawn_at" a.now
  let entity ← .ret (text a.legalEntityId "legal_entity_id")
  let reason ← .ret (text a.reason "reason")
  let evidence ← .ret (text a.evidenceReference "evidence_reference")
  sql (.insertWithdrawal entity a.version ⟨person, instant, reason, evidence⟩)

/-! ### The callers -/

/-- **What a caller of the store can do** with its connection. -/
inductive Call
  | record (a : RecordArgs)
  | withdraw (a : WithdrawArgs)
  | effective (legalEntityId : String) (on : Date)
  | status (baseline : FinancialConfigurationBaseline) (on : Date)
  | commit
  | rollback

@[reducible] def Call.Ans : Call → Type
  | .record _ => FinancialConfigurationBaseline
  | .effective _ _ => Option FinancialConfigurationBaseline
  | .status _ _ => Register.Standing
  | .withdraw _ | .commit | .rollback => Unit

/-- A program that only reads, on a connection. -/
def reading {α : Type} (p : Prog Query.Ans Exc α) : Prog Statement.Ans Exc α :=
  p.interpret fun q => sql (.read q)

def Call.body : (c : Call) → Prog Statement.Ans Exc c.Ans
  | .record a => FinanceBaselines.record a
  | .withdraw a => FinanceBaselines.withdraw a
  | .effective le on => reading (FinanceBaselines.effective le on)
  | .status b on => reading (FinanceBaselines.status b on)
  | .commit => sql .commit
  | .rollback => sql .rollback

/-- One call of the store. -/
def Call.perform (c : Call) : Prog Call.Ans Exc c.Ans := .perform c

/-- **A caller**: it goes on as it likes with what each call returned or raised. -/
abbrev Caller := Prog Call.Ans Exc Unit

/-! ### The machine -/

structure State where
  db : Db
  /-- The sessions whose transaction has failed and was not rolled back yet. -/
  failed : Session → Bool

/-- What a statement meets besides the rows: the clock, and a connection that is
lost before the statement has run or after it. -/
inductive Choice
  | runs (clock : Instant)
  | fails
  | lost

namespace State

/-- The statement raised: its transaction is gone. -/
def fail (s : State) (t : Session) : State :=
  ⟨s.db.rollback t, Function.update s.failed t true⟩

/-- The transaction ended, with `db` left. -/
def ended (s : State) (t : Session) (db : Db) : State := ⟨db, Function.update s.failed t false⟩

/-- One row is written: it waits for who holds the row. -/
def insert (s : State) (t : Session) (k : Key) (row : Row k) : Option State :=
  if s.db.store.free t k then some { s with db := s.db.put t ⟨k, some row⟩ } else none

end State

/-- A statement of a session whose transaction has not failed. -/
def run (D : Deployment) (t : Session) (s : State) (clock : Instant) :
    (e : Statement) → Option (Except Exc e.Ans × State)
  | .now => some (.ok clock, s)
  | .read q => some (.ok (q.answer s.db t), s)
  | .lock le =>
    if s.db.lockFree t (D.hashtextextended le) then
      some (.ok (), { s with db := s.db.enter t (D.hashtextextended le) })
    else none
  | .insertBaseline values =>
    let version := maxVersion s.db t values.legalEntityId + 1
    let row := { values with version := version }
    let key := Key.baseline values.legalEntityId version
    if 2147483647 < version then some (.error (.database .numericValueOutOfRange), s.fail t)
    else if check D key row then
      if (s.db.view t key).isSome then some (.error (.database .uniqueViolation), s.fail t)
      else (s.insert t key row).map fun s' => (.ok row, s')
    else some (.error (.database .checkViolation), s.fail t)
  | .insertWithdrawal le v w =>
    let key := Key.withdrawal le v
    if check D key w then
      if (s.db.view t key).isSome then some (.error (.database .uniqueViolation), s.fail t)
      else if (s.db.view t (.baseline le v)).isNone then
        some (.error (.database .foreignKeyViolation), s.fail t)
      else (s.insert t key w).map fun s' => (.ok (), s')
    else some (.error (.database .checkViolation), s.fail t)
  | .commit => some (.ok (), s.ended t (s.db.commit t))
  | .rollback => some (.ok (), s.ended t (s.db.rollback t))

/-- **One statement.**  The clock is not the database's; a failed transaction
takes its end only, and committing it rolls back. -/
def exec (D : Deployment) (t : Session) (e : Statement) (c : Choice) (s : State) :
    Option (Except Exc e.Ans × State) :=
  match c, e with
  | .runs clock, .now => some (.ok clock, s)
  | .runs clock, e =>
    if s.failed t then
      match e with
      | .commit | .rollback => some (.ok (), s.ended t (s.db.rollback t))
      | _ => some (.error (.database .inFailedSqlTransaction), s)
    else run D t s clock e
  | .fails, _ => some (.error (.database .operationalError), s.fail t)
  | .lost, .commit =>
    some (.error (.database .operationalError),
      if s.failed t then s.fail t else ⟨s.db.commit t, Function.update s.failed t true⟩)
  | .lost, _ => some (.error (.database .operationalError), s.fail t)

/-- **The sessions of the store.** -/
def Sessions (D : Deployment) : Machine where
  Worker := Session
  Eff := Statement
  Ans := Statement.Ans
  Err := Exc
  State := State
  Choice := Choice
  Launch := Caller
  Env := Empty
  exec := exec D
  main _ caller := caller.interpret Call.body
  close t s := ⟨s.db.close t, Function.update s.failed t false⟩
  env := nofun

instance {D : Deployment} : DecidableEq (Sessions D).Worker := inferInstanceAs (DecidableEq String)

/-- The tables as the migrations leave them, and nobody connected. -/
def initial : State := ⟨.empty, fun _ => false⟩

/-- **The states of every history**: any callers, connecting and ending in any
order, one statement at a time. -/
def Reached (D : Deployment) (p : (Sessions D).Pool) : Prop :=
  Machine.Reaches (fun _ _ => True) (Machine.idle initial) p

end FinanceBaselines
end BaobabErp
