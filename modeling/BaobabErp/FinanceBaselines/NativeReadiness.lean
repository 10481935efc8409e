/-
# The engine's reading of a baseline

`BaselineFinanceReadiness.java`: before iDempiere writes a financial row, the
engine's own check that its company is ready.  It reads the platform's two
baseline tables with a query of its own, which takes the version that started
last and then asks whether it was ever withdrawn, where `effective` leaves out
the withdrawn ones first.

The engine's query is the stricter one.  Where it returns a version, the version
that started last stands, so it is also the last of those that stand
(`Temporal.latest_narrow`), which is the version in force
(`native_baseline_in_force`).
-/

import BaobabErp.FinanceBaselines.InForce

namespace BaobabErp
namespace FinanceBaselines

open Concurrency Python
open Provisioning (FinancialConfigurationBaseline)

/-! ### What the engine hands over -/

/-- `NativeRecord`: the row that is about to change. -/
structure NativeRecord where
  table : String
  adClientId : Int
  transactionName : Option String
  intValue : String → Int

/-- `NativeOperation`: the operation the write belongs to and its source document. -/
structure NativeOperation where
  sourceTable : String
  sourceRecordId : Int
  record : Option NativeRecord

/-- `NativePlacement`: whose company the client is. -/
structure NativePlacement where
  legalEntityId : Option String
  adClientId : Int

/-- `FinanceBaseline`. -/
structure FinanceBaseline where
  legalEntityId : Option String
  version : Int
  deriving DecidableEq

/-! ### The engine's tables -/

structure AdClient where
  adClientId : Int
  isActive : Bool

structure AcctSchema where
  adClientId : Int
  isActive : Bool

structure Document where
  id : Int
  docTypeId : Int

structure DocType where
  id : Int
  docBaseType : String

structure PeriodControl where
  periodId : Int
  docBaseType : String
  periodStatus : String

structure Period where
  id : Int
  adClientId : Int

/-- The statements of the check, each of which may throw. -/
inductive NativeQuery
  | client | acctSchema | baseline | docType | period
  deriving DecidableEq

/-- **The engine's state**, as far as the check reads it. -/
structure Engine where
  /-- The connection of a named transaction and whether it commits every statement
  at once; `none` where there is none. -/
  connection : String → Option Bool
  clients : List AdClient
  acctSchemas : List AcctSchema
  /-- The rows of a document table; `none` where the query of it fails. -/
  documents : String → Option (List Document)
  docTypes : List DocType
  periodControls : List PeriodControl
  periods : List Period
  throws : NativeQuery → Bool

/-- An exception of the check; what it says is not looked at. -/
inductive NativeExc
  | exception
  | nullPointer
  deriving DecidableEq

/-- `Character.isWhitespace`. -/
def isWhitespace (c : Char) : Bool :=
  isSpace c && !([0x85, 0xA0, 0x2007, 0x202F] : List Nat).contains c.toNat

/-- `NativeConnections.transactional`. -/
def transactional (E : Engine) (trx : Option String) : Except NativeExc Unit :=
  match trx with
  | none => .error .exception
  | some name =>
    if name.toList.all isWhitespace then .error .exception
    else match E.connection name with
      | some false => .ok ()
      | some true => .error .exception
      | none => .error .exception

/-- A statement that did not throw. -/
def Engine.answered {α : Type} (E : Engine) (q : NativeQuery) (a : α) : Except NativeExc α :=
  if E.throws q then .error .exception else .ok a

/-- `DOCUMENT_TYPED`. -/
def documentTyped : List String :=
  ["GL_Journal", "C_Invoice", "C_Payment", "C_AllocationHdr", "M_InOut", "C_Order",
    "C_BankStatement", "C_Cash"]

/-- `periodOpen`. -/
def periodOpen (E : Engine) (o : NativeOperation) (record : NativeRecord) :
    Except NativeExc Bool := do
  let period := record.intValue "C_Period_ID"
  if period ≤ 0 ∨ ¬ documentTyped.contains o.sourceTable then return false
  let some headers := E.documents o.sourceTable | throw .exception
  let baseTypes ← E.answered .docType (headers.flatMap fun h =>
    if h.id = o.sourceRecordId then E.docTypes.filter (·.id = h.docTypeId) else [])
  let some baseType := baseTypes.head? | return false
  E.answered .period (E.periodControls.any fun pc =>
    pc.periodId = period && pc.docBaseType = baseType.docBaseType && pc.periodStatus = "O" &&
      E.periods.any fun p => p.id = pc.periodId && p.adClientId = record.adClientId)

/-- The `SELECT` of the two baseline tables: the version that started last by the
session's day, and whether it was withdrawn. -/
def lastStarted (db : Db) (t : Session) (legalEntityId : Option String) (today : Date) :
    Option (Int × Bool) :=
  legalEntityId.bind fun le =>
    (Temporal.latest rank (fun b => dayOf b.effectiveFrom ≤ dayOf today) (recorded db t le)).map
      fun b => (b.version, (withdrawalAt db t b.legalEntityId b.version).isSome)

/-- What stands in the `try` of `currentBaseline`. -/
def readiness (E : Engine) (db : Db) (t : Session) (today : Date) (o : NativeOperation)
    (record : NativeRecord) (placement : NativePlacement) :
    Except NativeExc (Option FinanceBaseline) := do
  transactional E record.transactionName
  let client ← E.answered .client
    (E.clients.any fun c => c.adClientId = placement.adClientId && c.isActive)
  if !client then return none
  let schema ← E.answered .acctSchema
    (E.acctSchemas.any fun a => a.adClientId = placement.adClientId && a.isActive)
  if !schema then return none
  let row ← E.answered .baseline (lastStarted db t placement.legalEntityId today)
  let some (version, false) := row | return none
  if record.table = "Fact_Acct" then
    let isOpen ← periodOpen E o record
    if !isOpen then return none
  return some ⟨placement.legalEntityId, version⟩

/-- `currentBaseline`, with the session's `current_date`. -/
def currentBaseline (E : Engine) (db : Db) (t : Session) (today : Date)
    (operation : Option NativeOperation) (placement : Option NativePlacement) :
    Except NativeExc (Option FinanceBaseline) :=
  match operation, placement with
  | some o, some p =>
    match o.record with
    | none => .error .nullPointer
    | some record =>
      if p.adClientId ≠ record.adClientId then .ok none
      else match readiness E db t today o record p with
        | .ok b => .ok b
        | .error _ => .ok none
  | _, _ => .ok none

/-! ### What the engine relies on -/

variable {E : Engine} {db : Db} {t : Session} {today : Date} {o : NativeOperation}
  {record : NativeRecord} {placement : NativePlacement} {f : FinanceBaseline}

theorem Engine.answered_eq_ok {α : Type} {q : NativeQuery} {a b : α}
    (h : E.answered q a = .ok b) : a = b := by
  unfold Engine.answered at h
  split_ifs at h
  exact Except.ok.inj h

/-- **What is relied on was read**: the version that started last, not withdrawn. -/
theorem readiness_reads (h : readiness E db t today o record placement = .ok (some f)) :
    f.legalEntityId = placement.legalEntityId ∧
      lastStarted db t placement.legalEntityId today = some (f.version, false) := by
  unfold readiness at h
  obtain ⟨-, -, h⟩ := bind_eq_ok h
  obtain ⟨client, -, h⟩ := bind_eq_ok h
  cases client with
  | false => cases h
  | true =>
    obtain ⟨schema, -, h⟩ := bind_eq_ok h
    cases schema with
    | false => cases h
    | true =>
      obtain ⟨row, hrow, h⟩ := bind_eq_ok h
      rw [Engine.answered_eq_ok hrow]
      match row, h with
      | none, h => cases h
      | some (_, true), h => cases h
      | some (version, false), h =>
        dsimp only at h
        split_ifs at h with hfact
        · obtain ⟨opened, -, h⟩ := bind_eq_ok h
          cases opened with
          | false => cases h
          | true =>
            obtain rfl := Option.some.inj (Except.ok.inj h)
            exact ⟨rfl, rfl⟩
        · obtain rfl := Option.some.inj (Except.ok.inj h)
          exact ⟨rfl, rfl⟩

theorem currentBaseline_reads {operation : Option NativeOperation}
    {placed : Option NativePlacement}
    (h : currentBaseline E db t today operation placed = .ok (some f)) :
    ∃ placement, placed = some placement ∧ f.legalEntityId = placement.legalEntityId ∧
      lastStarted db t placement.legalEntityId today = some (f.version, false) := by
  unfold currentBaseline at h
  split at h
  · rename_i o placement
    split at h
    · cases h
    · split_ifs at h with hclient
      · cases h
      · split at h
        · rename_i hready
          obtain rfl := Except.ok.inj h
          exact ⟨placement, rfl, readiness_reads hready⟩
        · cases h
  · cases h

/-- **The version that started last, never withdrawn, is in force.** -/
theorem Recorded.lastStarted_inForce (hd : Recorded db) {le : String} {v : Int}
    (h : lastStarted db t (some le) today = some (v, false)) :
    ∃ b, b.version = v ∧ (register db t le).InForce (dayOf today) b := by
  obtain ⟨b, hb, hrow⟩ := Option.map_eq_some_iff.1 h
  obtain ⟨rfl, hw⟩ := Prod.mk.inj hrow
  obtain ⟨⟨hmem, hstarted⟩, -⟩ := Temporal.latest_spec hb
  have hle : b.legalEntityId = le := (hd.mem_recorded.1 hmem).1
  refine ⟨b, rfl, hd.effective_answered.1 (congrArg Except.ok ?_)⟩
  refine Temporal.latest_narrow (fun c hc e he => ?_) (fun c _ hc => ?_) hb ?_
  · exact numbered.rank_injective (hd.mem_recorded.1 hc) (hd.mem_recorded.1 he)
  · exact (Bool.and_eq_true _ _ ▸ hc).1
  · rw [Bool.and_eq_true, Bool.not_eq_true', withdrawnBy]
    refine ⟨hstarted, ?_⟩
    rw [Option.isSome_eq_false_iff, Option.isNone_iff_eq_none] at hw
    rw [hw]

/-- **The engine relies on the version in force only.**  Whatever was recorded and
withdrawn, whatever the engine's tables hold and whichever of its statements throw:
when the check returns a baseline, it is of the placement's legal entity, and the
platform's `effective` and `status`, read from the same rows on the same day, call
that version the one in force. -/
theorem native_baseline_in_force {p : (Sessions D).Pool} (h : Reached D p) (t u : Session)
    (hread : p.state.db.view u = p.state.db.view t) (E : Engine) (today : Date)
    (operation : Option NativeOperation) (placed : Option NativePlacement) (f : FinanceBaseline)
    (hf : currentBaseline E p.state.db t today operation placed = .ok (some f)) :
    ∃ placement le b, placed = some placement ∧ placement.legalEntityId = some le ∧
      f.legalEntityId = some le ∧ b.legalEntityId = le ∧ b.version = f.version ∧
      (effective le today).answered (reads p.state.db u) = .ok (some b) ∧
      (status b today).answered (reads p.state.db u) = .ok .effective := by
  have hd : Recorded p.state.db := h.recorded
  obtain ⟨placement, rfl, hle, hlast⟩ := currentBaseline_reads hf
  cases hentity : placement.legalEntityId with
  | none =>
    rw [hentity] at hlast
    cases hlast
  | some le =>
    rw [hentity] at hlast hle
    obtain ⟨b, hv, hforce⟩ := hd.lastStarted_inForce hlast
    have hsame : register p.state.db u le = register p.state.db t le := by
      unfold register baselineAt withdrawalAt
      rw [hread]
    rw [← hsame] at hforce
    have hrecorded := hforce.stands.recorded
    refine ⟨placement, le, b, rfl, hentity, hle, hrecorded.1, hv, hd.effective_answered.2 hforce,
      ?_⟩
    rw [hd.status_answered hrecorded, Temporal.Register.standing_eq_effective_iff.2 hforce]

/-! ### A ready company -/

/-- One client with its schema, and a transaction that is open. -/
def readyEngine : Engine where
  connection _ := some false
  clients := [⟨11, true⟩]
  acctSchemas := [⟨11, true⟩]
  documents _ := none
  docTypes := []
  periodControls := []
  periods := []
  throws _ := false

/-- An order of that client is about to change. -/
def sampleOperation : NativeOperation := ⟨"C_Order", 5, some ⟨"C_Order", 11, some "trx", fun _ => -1⟩⟩

theorem readyEngine_runs :
    (Machine.run (withdrawnLeaderRun 7) (Machine.idle initial)).map (fun p =>
      currentBaseline readyEngine p.state.db "e" ⟨2026, 3, 20, by decide⟩ (some sampleOperation)
        (some ⟨some "le-1", 11⟩)) = some (.ok (some ⟨some "le-1", 2⟩)) := by
  decide +kernel

/-- Two recordings committed and the second one not withdrawn yet: the engine finds
version 2, and so does the platform. -/
theorem native_baseline_of_second : ∃ (p : (Sessions plain).Pool)
    (b : FinancialConfigurationBaseline), Reached plain p ∧ b.version = 2 ∧
      (effective "le-1" ⟨2026, 3, 20, by decide⟩).answered (reads p.state.db "e") = .ok (some b) ∧
      (status b ⟨2026, 3, 20, by decide⟩).answered (reads p.state.db "e") = .ok .effective := by
  obtain ⟨p, hp, hf⟩ := Option.map_eq_some_iff.1 readyEngine_runs
  have h : Reached plain p := Machine.reaches_of_run (fun _ _ _ => trivial) hp
  obtain ⟨placement, le, b, -, -, hle, -, hv, heffective, hstatus⟩ :=
    native_baseline_in_force h "e" "e" rfl readyEngine _ _ _ _ hf
  obtain rfl := Option.some.inj hle
  exact ⟨p, b, h, hv, heffective, hstatus⟩

end FinanceBaselines
end BaobabErp
