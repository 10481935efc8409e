/-
# The tables of the native placements

`db/native-migrations/N0001_native_placement.sql`, `N0002_document_provenance.sql`
(with the functions as `N0004` has them), `forbid_uncatalogued_family` of `N0008`
and `N0009_native_company_org_ownership.sql`: where an organisation is placed, the
placement that every governed document was created under, and who owns a native
organisation.  The tables have no program of their own: any session may send any
statement, and what keeps them in order is their constraints and the functions
that their triggers run.

A trigger is a program of statements: each of its queries looks again, and other
sessions go on in between.  An `UPDATE` or a `DELETE` of several rows is as many
calls here, one row after another; an `INSERT` is of any number of rows, and what
runs after it runs for all of them at its end.
-/

import BaobabErp.Concurrency.Dialect
import BaobabErp.Concurrency.Refining
import BaobabErp.FinanceBaselines.Store
import BaobabErp.NativeFinance.Placement
import BaobabErp.Temporal.Windows

namespace BaobabErp
namespace NativeFinance
namespace PlacementStore

open Concurrency Python
open FinanceBaselines (accountable btrim given)
open Temporal (Window)

/-! ### The rows -/

/-- A row of `native_placement`. -/
@[ext]
structure PlacementRow extends PlacementVersion where
  approvedBy : String
  checkedBy : String
  evidenceReference : String
  erpAssignmentReference : String
  recordedAt : Int

instance : DecidableEq PlacementRow := fun _ _ => decidable_of_iff' _ PlacementRow.ext_iff

instance (p r : PlacementRow) : Decidable (p.identity = r.identity) :=
  @instDecidableEqProd _ _ instDecidableEqString (@instDecidableEqProd _ _ instDecidableEqString
    (@instDecidableEqProd _ _ instDecidableEqString inferInstance)) p.identity r.identity

/-- `^ei_[a-z0-9]+$`, of 6 to 63 characters. -/
def isEngineInstanceId (s : String) : Bool :=
  6 ≤ s.length && s.length ≤ 63 && "ei_".toList.isPrefixOf s.toList &&
    (s.toList.drop 3).all fun c => isAsciiLower c || isAsciiDigit c

/-- The value fits an `integer` column. -/
def isInteger (n : Int) : Bool := -2147483648 ≤ n && n ≤ 2147483647

/-- The `CHECK`s of the columns that `NativePlacement` leaves open, and the ranges of
the numbers. -/
def checkColumns (D : FinanceBaselines.Deployment) (r : PlacementRow) : Bool :=
  isInteger r.version && isInteger r.adClientId && isInteger r.adOrgId &&
    isEngineInstanceId r.engineInstanceId &&
    (r.market.toList.length == 2 && r.market.toList.all isAsciiUpper) &&
    accountable D r.approvedBy && accountable D r.checkedBy && given r.evidenceReference &&
    btrim r.erpAssignmentReference != "" &&
    D.lower (btrim r.approvedBy) != D.lower (btrim r.checkedBy)

/-- `effective_to IS NULL OR effective_to > effective_from`. -/
def checkWindow (r : PlacementRow) : Bool := Window.before r.effectiveFrom r.effectiveTo

/-- The `CHECK`s of the table. -/
def check (D : FinanceBaselines.Deployment) (r : PlacementRow) : Bool := checkColumns D r && checkWindow r

/-- The row is of the native organisation. -/
def PlacementRow.of (r : PlacementRow) (client org : Int) : Bool :=
  r.adClientId = client && r.adOrgId = org

/-- `tstzrange(…) && tstzrange(…)`. -/
def PlacementRow.overlaps (r u : PlacementRow) : Bool :=
  Window.before u.effectiveFrom r.effectiveTo && Window.before r.effectiveFrom u.effectiveTo

/-- What both rows say without `effective_to`. -/
def PlacementRow.withoutEnd (r : PlacementRow) : PlacementRow := { r with effectiveTo := none }

/-! ### The tables of iDempiere -/

/-- The header tables that are governed. -/
inductive GovernedTable
  | glJournal | cInvoice | cPayment | cAllocationHdr | mInOut | cOrder | cBankStatement | cCash
  deriving DecidableEq

/-- Its name in `native_table`. -/
def GovernedTable.table : GovernedTable → NativeTable
  | .glJournal => .glJournal
  | .cInvoice => .cInvoice
  | .cPayment => .cPayment
  | .cAllocationHdr => .cAllocationHdr
  | .mInOut => .mInOut
  | .cOrder => .cOrder
  | .cBankStatement => .other "C_BankStatement"
  | .cCash => .other "C_Cash"

/-- No placed client writes it. -/
def GovernedTable.uncatalogued : GovernedTable → Bool
  | .cBankStatement | .cCash => true
  | _ => false

/-- The client and the organisation of a governed header row. -/
structure Document where
  adClientId : Int
  adOrgId : Int
  deriving DecidableEq

/-- A row of `ad_org`. -/
structure AdOrg where
  adClientId : Int
  isActive : Bool
  deriving DecidableEq

/-- The owner of a native organisation, if it is active. -/
def AdOrg.owns (o : AdOrg) (client : Int) : Bool := o.adClientId = client && o.isActive

/-- The primary keys of the tables of iDempiere. -/
inductive NativeKey
  | document (table : GovernedTable) (record : Int)
  | adOrg (adOrgId : Int)
  deriving DecidableEq

def NativeRow : NativeKey → Type
  | .document _ _ => Document
  | .adOrg _ => AdOrg

/-! ### The keys -/

/-- The primary keys of the tables. -/
inductive Key
  | placement (placementId : String) (version : Int)
  | provenance (table : GovernedTable) (record : Int)
  | native (k : NativeKey)
  deriving DecidableEq

/-- A placement under its key, as the `CHECK`s leave it. -/
abbrev Filed (D : FinanceBaselines.Deployment) (placementId : String) (version : Int) : Type :=
  { r : PlacementRow // check D r = true ∧ r.placementId = placementId ∧ r.version = version }

/-- A provenance under its key, as the `CHECK`s leave it. -/
abbrev Traced (table : GovernedTable) (record : Int) : Type :=
  { p : Provenance // p.nativeTable = table.table ∧ p.recordId = record ∧ 0 < p.adClientId ∧
    0 < p.adOrgId }

/-- A row of the table a key is of. -/
def Row (D : FinanceBaselines.Deployment) : Key → Type
  | .placement id v => Filed D id v
  | .provenance table record => Traced table record
  | .native k => NativeRow k

/-- A connection to the database. -/
abbrev Session := String

abbrev Db (D : FinanceBaselines.Deployment) := Concurrency.Database Session (Row D)

/-! ### What the queries read -/

/-- What a statement meets: the readings of `clock_timestamp()` while it runs, and
the order in which it comes by the rows. -/
structure Reading where
  clock : Nat → Int
  monotone : ∀ {i j}, i ≤ j → clock i ≤ clock j
  order : List PlacementRow → List PlacementRow
  order_perm : ∀ rows, (order rows).Perm rows

section Queries

variable {D : FinanceBaselines.Deployment} (d : Db D) (t : Session)

/-- A placement as a session reads it. -/
def placementAt (id : String) (v : Int) : Option (Filed D id v) := d.view t (.placement id v)

/-- A provenance as a session reads it. -/
def provenanceAt (table : GovernedTable) (record : Int) : Option (Traced table record) :=
  d.view t (.provenance table record)

/-- A row of iDempiere as a session reads it. -/
def nativeAt (k : NativeKey) : Option (NativeRow k) := d.view t (.native k)

/-- The placements that a session reads. -/
def placements : List PlacementRow :=
  d.keys.filterMap fun
    | .placement id v => (placementAt d t id v).map (·.1)
    | _ => none

/-- `current_placement`: the first of the rows that are in force while they are
looked at, the `i`th one at the readings `2i` and `2i + 1`. -/
def currentPlacement (reading : Reading) (client org : Int) : Option PlacementRow :=
  ((reading.order (placements d t)).zipIdx.find? fun (p, i) => p.of client org &&
    p.effectiveFrom ≤ reading.clock (2 * i) &&
      Window.before (reading.clock (2 * i + 1)) p.effectiveTo).map (·.1)

/-- Another session is about to commit an open placement of the organisation. -/
def openElsewhere (client org : Int) : Bool :=
  d.keys.any fun
    | .placement id v => match d.store.pending (.placement id v) with
      | some (u, some r) =>
        let r : Filed D id v := r
        decide (u ≠ t) && r.1.of client org && r.1.effectiveTo.isNone
      | _ => false
    | _ => false

end Queries

/-- **The statements that only read.** -/
inductive Query
  /-- The version before this one exists. -/
  | previous (placementId : String) (version : Int)
  /-- Another version of the placement says something else. -/
  | otherIdentity (row : PlacementRow)
  /-- A placement of the native organisation overlaps it. -/
  | overlapping (row : PlacementRow)
  | allPlacements
  /-- `client_is_placed`, of one of them. -/
  | clientIsPlaced (clients : List Int)
  | currentPlacement (client org : Int)
  /-- The native organisation has an open placement. -/
  | openPlacement (client org : Int)
  | provenance (table : GovernedTable) (record : Int)
  | native (k : NativeKey)

@[reducible] def Query.Ans : Query → Type
  | .previous _ _ | .otherIdentity _ | .overlapping _ | .clientIsPlaced _ | .openPlacement _ _ =>
    Bool
  | .allPlacements => List PlacementRow
  | .currentPlacement _ _ => Option PlacementRow
  | .provenance table record => Option (Traced table record)
  | .native k => Option (NativeRow k)

def Query.answer {D : FinanceBaselines.Deployment} (d : Db D) (t : Session) (reading : Reading) :
    (q : Query) → q.Ans
  | .previous id v => (placementAt d t id (v - 1)).isSome
  | .otherIdentity r => (placements d t).any fun p =>
      decide (p.placementId = r.placementId ∧ p.identity ≠ r.identity)
  | .overlapping r => (placements d t).any fun p =>
      p.of r.adClientId r.adOrgId && p.overlaps r
  | .allPlacements => placements d t
  | .clientIsPlaced clients => (placements d t).any fun p => clients.contains p.adClientId
  | .currentPlacement client org => PlacementStore.currentPlacement d t reading client org
  | .openPlacement client org => (placements d t).any fun p =>
      p.of client org && p.effectiveTo.isNone
  | .provenance table record => provenanceAt d t table record
  | .native k => nativeAt d t k

/-! ### The statements -/

inductive DbError
  | uniqueViolation | foreignKeyViolation | checkViolation | exclusionViolation
  | insufficientPrivilege | inFailedSqlTransaction | operationalError
  deriving DecidableEq

inductive Statement
  | read (q : Query)
  /-- `pg_advisory_xact_lock(hashtextextended('native-placement/' || …, 0))`. -/
  | lock (client org : Int)
  | insertPlacement (row : PlacementRow)
  /-- One row of an `UPDATE`, as it is now; `none` where it is not selected. -/
  | updatePlacement (placementId : String) (version : Int) (new : PlacementRow → Option PlacementRow)
  | deletePlacement (placementId : String) (version : Int)
  | insertProvenance (table : GovernedTable) (record : Int) (row : Traced table record)
  /-- An `UPDATE` or a `DELETE` of a row. -/
  | alterProvenance (table : GovernedTable) (record : Int)
  /-- The row of `ad_org` is there, active and of the client; `FOR SHARE`. -/
  | ownOrg (client org : Int)
  | insertNative (k : NativeKey) (row : NativeRow k)
  /-- A row that is changed or deleted is locked and read first. -/
  | lockNative (k : NativeKey)
  | writeNative (k : NativeKey) (row : Option (NativeRow k))

@[reducible] def Statement.Ans : Statement → Type
  | .read q => q.Ans
  | .ownOrg _ _ => Bool
  | .lockNative k => Option (NativeRow k)
  | .lock _ _ | .insertPlacement _ | .updatePlacement _ _ _ | .deletePlacement _ _
  | .insertProvenance _ _ _ | .alterProvenance _ _ | .insertNative _ _ | .writeNative _ _ => Unit

/-- The lock of a native organisation. -/
def lockOf (D : FinanceBaselines.Deployment) (client org : Int) : Int :=
  D.hashtextextended ("native-placement/" ++ toString client ++ "/" ++ toString org)

/-- `native_placement_guard` admits the `UPDATE`. -/
def admitted (old new : PlacementRow) (now : Int) : Bool :=
  new.withoutEnd = old.withoutEnd && old.effectiveTo.isNone &&
    new.effectiveTo.any fun e => now - 1000000 ≤ e

section Run

variable {D : FinanceBaselines.Deployment} (d : Db D) (t : Session)

/-- One row is written: it waits for who holds the row. -/
def write (k : Key) (row : Option (Row D k)) : Option (Except DbError (Unit × Db D)) :=
  if d.store.free t k then some (.ok ((), d.put t ⟨k, row⟩)) else none

/-- `INSERT INTO baobab_native.native_placement`, after its triggers. -/
def insertPlacement (r : PlacementRow) : Option (Except DbError (Unit × Db D)) :=
  if h : check D r = true then
    if (placementAt d t r.placementId r.version).isSome then some (.error .uniqueViolation)
    else if r.effectiveTo.isNone && openElsewhere d t r.adClientId r.adOrgId then none
    else if r.effectiveTo.isNone && (placements d t).any fun p =>
        p.of r.adClientId r.adOrgId && p.effectiveTo.isNone then
      some (.error .uniqueViolation)
    else write d t (.placement r.placementId r.version)
      (some (⟨r, h, rfl, rfl⟩ : Filed D r.placementId r.version))
  else some (.error .checkViolation)

/-- `UPDATE baobab_native.native_placement`, with its trigger. -/
def updatePlacement (reading : Reading) (id : String) (v : Int)
    (new : PlacementRow → Option PlacementRow) : Option (Except DbError (Unit × Db D)) :=
  if d.store.free t (.placement id v) then
    match placementAt d t id v with
    | none => some (.ok ((), d))
    | some old => match new old.1 with
      | none => some (.ok ((), d))
      | some r =>
        if admitted old.1 r (reading.clock 0) then
          if h : check D r = true ∧ r.placementId = id ∧ r.version = v then
            some (.ok ((), d.put t ⟨.placement id v, some (⟨r, h⟩ : Filed D id v)⟩))
          else some (.error .checkViolation)
        else some (.error .insufficientPrivilege)
  else none

/-- A `DELETE`, or an `UPDATE` that no trigger lets through. -/
def deny (k : Key) : Option (Except DbError (Unit × Db D)) :=
  if d.store.free t k then
    if (d.view t k).isSome then some (.error .insufficientPrivilege) else some (.ok ((), d))
  else none

/-- `INSERT INTO baobab_native.document_provenance`. -/
def insertProvenance (table : GovernedTable) (record : Int) (p : Traced table record) :
    Option (Except DbError (Unit × Db D)) :=
  if (provenanceAt d t table record).isSome then some (.error .uniqueViolation)
  else if (placementAt d t p.1.placementId p.1.placementVersion).isNone then
    some (.error .foreignKeyViolation)
  else write d t (.provenance table record) (some p)

/-- `SELECT 1 FROM adempiere.ad_org … FOR SHARE`.  Two sessions that hold one row
this way have the same client and organisation, so they have the same advisory
lock too, which one of them waits for. -/
def ownOrg (client org : Int) : Option (Except DbError (Bool × Db D)) :=
  if d.store.free t (.native (.adOrg org)) then
    match nativeAt d t (.adOrg org) with
    | none => some (.ok (false, d))
    | some o =>
      let o : AdOrg := o
      some (.ok (if o.owns client then
        (true, d.put t ⟨.native (.adOrg org), some (show NativeRow (.adOrg org) from o)⟩)
        else (false, d)))
  else none

def insertNative (k : NativeKey) (row : NativeRow k) : Option (Except DbError (Unit × Db D)) :=
  if (nativeAt d t k).isSome then some (.error .uniqueViolation)
  else write d t (.native k) (some row)

def lockNative (k : NativeKey) : Option (Except DbError (Option (NativeRow k) × Db D)) :=
  if d.store.free t (.native k) then
    some (.ok (match nativeAt d t k with
      | none => (none, d)
      | some row => (some row, d.put t ⟨.native k, some row⟩)))
  else none

/-- **One statement.** -/
def run (reading : Reading) : (e : Statement) → Option (Except DbError (e.Ans × Db D))
  | .read q => some (.ok (q.answer d t reading, d))
  | .lock client org =>
    if d.lockFree t (lockOf D client org) then some (.ok ((), d.enter t (lockOf D client org)))
    else none
  | .insertPlacement r => insertPlacement d t r
  | .updatePlacement id v new => updatePlacement d t reading id v new
  | .deletePlacement id v => deny d t (.placement id v)
  | .insertProvenance table record p => insertProvenance d t table record p
  | .alterProvenance table record => deny d t (.provenance table record)
  | .ownOrg client org => ownOrg d t client org
  | .insertNative k row => insertNative d t k row
  | .lockNative k => lockNative d t k
  | .writeNative k row => write d t (.native k) row

end Run

section Does

variable {D : FinanceBaselines.Deployment} {d d' : Db D} {t : Session}

theorem write_eq {k : Key} {row : Option (Row D k)} {a : Unit}
    (h : write d t k row = some (.ok (a, d'))) :
    d.store.free t k = true ∧ d' = d.put t ⟨k, row⟩ := by
  unfold write at h
  split_ifs at h with hf
  exact ⟨hf, (Prod.mk.inj (Except.ok.inj (Option.some.inj h))).2.symm⟩

/-- **A placement that is inserted** was checked and is new to the session. -/
theorem insertPlacement_eq {r : PlacementRow} {a : Unit}
    (h : insertPlacement d t r = some (.ok (a, d'))) :
    ∃ hc : check D r = true, d.view t (.placement r.placementId r.version) = none ∧
      d.store.free t (.placement r.placementId r.version) = true ∧
      d' = d.put t ⟨.placement r.placementId r.version,
        some (⟨r, hc, rfl, rfl⟩ : Filed D r.placementId r.version)⟩ := by
  unfold insertPlacement at h
  split_ifs at h with hc hsome hwait hopen
  · cases Option.some.inj h
  · cases Option.some.inj h
  · obtain ⟨hf, rfl⟩ := write_eq h
    exact ⟨hc, Option.not_isSome_iff_eq_none.1 hsome, hf, rfl⟩
  · cases Option.some.inj h

/-- **A placement that is changed** was open and is closed, with nothing else changed. -/
theorem updatePlacement_eq {reading : Reading} {id : String} {v : Int}
    {new : PlacementRow → Option PlacementRow} {a : Unit}
    (h : updatePlacement d t reading id v new = some (.ok (a, d'))) :
    d' = d ∨ ∃ old r : Filed D id v, d.view t (.placement id v) = some old ∧
      admitted old.1 r.1 (reading.clock 0) = true ∧ d.store.free t (.placement id v) = true ∧
      d' = d.put t ⟨.placement id v, some r⟩ := by
  unfold updatePlacement at h
  split_ifs at h with hf
  split at h
  · exact .inl (Prod.mk.inj (Except.ok.inj (Option.some.inj h))).2.symm
  · rename_i old hold
    split at h
    · exact .inl (Prod.mk.inj (Except.ok.inj (Option.some.inj h))).2.symm
    · rename_i r hr
      split_ifs at h with hadm hc
      · obtain ⟨-, rfl⟩ := Prod.mk.inj (Except.ok.inj (Option.some.inj h))
        exact .inr ⟨old, ⟨r, hc⟩, hold, hadm, hf, rfl⟩
      · cases Option.some.inj h
      · cases Option.some.inj h

theorem deny_eq {k : Key} {a : Unit} (h : deny d t k = some (.ok (a, d'))) : d' = d := by
  unfold deny at h
  split_ifs at h
  · cases Option.some.inj h
  · exact (Prod.mk.inj (Except.ok.inj (Option.some.inj h))).2.symm

/-- **A provenance that is inserted** is new and refers to a placement that is there. -/
theorem insertProvenance_eq {table : GovernedTable} {record : Int} {p : Traced table record}
    {a : Unit} (h : insertProvenance d t table record p = some (.ok (a, d'))) :
    d.view t (.provenance table record) = none ∧
      (placementAt d t p.1.placementId p.1.placementVersion).isSome = true ∧
      d.store.free t (.provenance table record) = true ∧
      d' = d.put t ⟨.provenance table record, some p⟩ := by
  unfold insertProvenance at h
  split_ifs at h with hsome hparent
  · cases Option.some.inj h
  · cases Option.some.inj h
  · obtain ⟨hf, rfl⟩ := write_eq h
    refine ⟨Option.not_isSome_iff_eq_none.1 hsome, ?_, hf, rfl⟩
    exact Option.isSome_iff_ne_none.2 fun hnone => hparent (Option.isNone_iff_eq_none.2 hnone)

/-- **An organisation that is owned** is held from then on. -/
theorem ownOrg_eq {client org : Int} {owned : Bool}
    (h : ownOrg d t client org = some (.ok (owned, d'))) :
    (owned = false ∧ d' = d) ∨ (owned = true ∧ ∃ o : AdOrg, nativeAt d t (.adOrg org) = some o ∧
      o.owns client = true ∧ d.store.free t (.native (.adOrg org)) = true ∧
      d' = d.put t ⟨.native (.adOrg org), some (show NativeRow (.adOrg org) from o)⟩) := by
  unfold ownOrg at h
  split_ifs at h with hf
  split at h
  · obtain ⟨rfl, rfl⟩ := Prod.mk.inj (Except.ok.inj (Option.some.inj h))
    exact .inl ⟨rfl, rfl⟩
  · rename_i o ho
    dsimp only at h
    split_ifs at h with howns
    · obtain ⟨rfl, rfl⟩ := Prod.mk.inj (Except.ok.inj (Option.some.inj h))
      exact .inr ⟨rfl, o, ho, howns, hf, rfl⟩
    · obtain ⟨rfl, rfl⟩ := Prod.mk.inj (Except.ok.inj (Option.some.inj h))
      exact .inl ⟨rfl, rfl⟩

theorem insertNative_eq {k : NativeKey} {row : NativeRow k} {a : Unit}
    (h : insertNative d t k row = some (.ok (a, d'))) :
    nativeAt d t k = none ∧ d.store.free t (.native k) = true ∧
      d' = d.put t ⟨.native k, some row⟩ := by
  unfold insertNative at h
  split_ifs at h with hsome
  · cases Option.some.inj h
  · obtain ⟨hf, rfl⟩ := write_eq h
    exact ⟨Option.not_isSome_iff_eq_none.1 hsome, hf, rfl⟩

/-- A row that is locked stays as it is. -/
theorem lockNative_eq {k : NativeKey} {found : Option (NativeRow k)}
    (h : lockNative d t k = some (.ok (found, d'))) :
    nativeAt d t k = found ∧ ((found = none ∧ d' = d) ∨ ∃ row, found = some row ∧
      d.store.free t (.native k) = true ∧ d' = d.put t ⟨.native k, some row⟩) := by
  unfold lockNative at h
  split_ifs at h with hf
  split at h
  · rename_i hnone
    obtain ⟨rfl, rfl⟩ := Prod.mk.inj (Except.ok.inj (Option.some.inj h))
    exact ⟨hnone, .inl ⟨rfl, rfl⟩⟩
  · rename_i row hrow
    obtain ⟨rfl, rfl⟩ := Prod.mk.inj (Except.ok.inj (Option.some.inj h))
    exact ⟨hrow, .inr ⟨row, rfl, hf, rfl⟩⟩

theorem run_does {reading : Reading} {e : Statement} {a : e.Ans}
    (h : run d t reading e = some (.ok (a, d'))) : d.Does t d' := by
  cases e with
  | read q =>
    obtain ⟨-, rfl⟩ := Prod.mk.inj (Except.ok.inj (Option.some.inj h))
    exact .read
  | lock client org =>
    unfold run at h
    dsimp only at h
    split_ifs at h with hf
    obtain ⟨-, rfl⟩ := Prod.mk.inj (Except.ok.inj (Option.some.inj h))
    exact .enter hf
  | insertPlacement r =>
    obtain ⟨hc, -, hf, rfl⟩ := insertPlacement_eq h
    exact .put hf
  | updatePlacement id v new =>
    obtain rfl | ⟨old, r, -, -, hf, rfl⟩ := updatePlacement_eq h
    · exact .read
    · exact .put hf
  | deletePlacement id v =>
    obtain rfl := deny_eq h
    exact .read
  | insertProvenance table record p =>
    obtain ⟨-, -, hf, rfl⟩ := insertProvenance_eq h
    exact .put hf
  | alterProvenance table record =>
    obtain rfl := deny_eq h
    exact .read
  | ownOrg client org =>
    obtain ⟨-, rfl⟩ | ⟨-, o, -, -, hf, rfl⟩ := ownOrg_eq h
    · exact .read
    · exact .put hf
  | insertNative k row =>
    obtain ⟨-, hf, rfl⟩ := insertNative_eq h
    exact .put hf
  | lockNative k =>
    obtain ⟨-, ⟨-, rfl⟩ | ⟨row, -, hf, rfl⟩⟩ := lockNative_eq h
    · exact .read
    · exact .put hf
  | writeNative k row =>
    obtain ⟨hf, rfl⟩ := write_eq h
    exact .put hf

end Does

/-- **The statements**, to one database. -/
def dialect (D : FinanceBaselines.Deployment) : Dialect Session (Row D) where
  Statement := Statement
  Ans := Statement.Ans
  Err := DbError
  Reading := Reading
  run t reading d e := run d t reading e
  aborted := .inFailedSqlTransaction
  connectionLost := .operationalError
  run_does h := run_does h

/-! ### The triggers -/

section Triggers

variable (D : FinanceBaselines.Deployment)

abbrev Program (α : Type) := (dialect D).Program α

variable {D}

/-- A statement of a program. -/
def sql (e : Statement) : Program D e.Ans := Dialect.sql (L := dialect D) e

/-- A query of a program. -/
def ask (q : Query) : Program D q.Ans := sql (.read q)

/-- `RAISE EXCEPTION` where the condition holds. -/
def refuseIf (x : DbError) (b : Bool) : Program D Unit :=
  if b then Dialect.raise (L := dialect D) x else pure ()

/-- `IF NEW.version > 1 AND NOT EXISTS …` -/
def previousVersion (r : PlacementRow) : Program D Unit :=
  if 1 < r.version then ask (.previous r.placementId r.version) >>= fun found =>
    refuseIf .checkViolation !found
  else pure ()

/-- `native_placement_guard`, of a row that is inserted. -/
def nativePlacementGuard (r : PlacementRow) : Program D Unit := do
  sql (.lock r.adClientId r.adOrgId)
  previousVersion r
  ask (.otherIdentity r) >>= refuseIf .checkViolation
  ask (.overlapping r) >>= refuseIf .exclusionViolation

/-- `native_placement_org_owner_guard` -/
def nativePlacementOrgOwnerGuard (r : PlacementRow) : Program D Unit :=
  sql (.ownOrg r.adClientId r.adOrgId) >>= fun owned => refuseIf .checkViolation !owned

/-- `forbid_uncatalogued_family`, with the clients of the old and the new row. -/
def forbidUncataloguedFamily (table : GovernedTable) (clients : List Int) : Program D Unit :=
  if table.uncatalogued then ask (.clientIsPlaced clients) >>= refuseIf .insufficientPrivilege
  else pure ()

/-- `record_document_provenance` -/
def recordDocumentProvenance (table : GovernedTable) (record : Int) (row : Document) :
    Program D Unit :=
  ask (.clientIsPlaced [row.adClientId]) >>= fun placed =>
    if placed then ask (.currentPlacement row.adClientId row.adOrgId) >>= fun
      | none => refuseIf .insufficientPrivilege true
      | some p =>
        if h : 0 < record ∧ 0 < row.adClientId ∧ 0 < row.adOrgId then
          sql (.insertProvenance table record ⟨{
            nativeTable := table.table
            recordId := record
            adClientId := row.adClientId
            adOrgId := row.adOrgId
            placementId := p.placementId
            placementVersion := p.version
            recordId_pos := h.1 }, rfl, rfl, h.2.1, h.2.2⟩)
        else refuseIf .checkViolation true
    else pure ()

/-- `forbid_document_org_change` -/
def forbidDocumentOrgChange (old new : Document) : Program D Unit :=
  if new = old then pure ()
  else ask (.clientIsPlaced [old.adClientId, new.adClientId]) >>= refuseIf .insufficientPrivilege

/-- `placed_ad_org_change_guard`; `new` is `none` where the row is deleted. -/
def placedAdOrgChangeGuard (adOrgId : Int) (old : AdOrg) (new : Option AdOrg) : Program D Unit :=
  if new = some old then pure ()
  else ask (.openPlacement old.adClientId adOrgId) >>= refuseIf .insufficientPrivilege

/-! ### The calls -/

/-- `INSERT INTO baobab_native.native_placement` -/
def insertPlacements : List PlacementRow → Program D Unit
  | [] => pure ()
  | r :: rows => do
    nativePlacementGuard r
    nativePlacementOrgOwnerGuard r
    sql (.insertPlacement r)
    insertPlacements rows

/-- The rows of an `INSERT` of headers. -/
def insertHeaders (table : GovernedTable) : List (Int × Document) → Program D Unit
  | [] => pure ()
  | x :: rows => do
    forbidUncataloguedFamily table [x.2.adClientId]
    sql (.insertNative (.document table x.1) x.2)
    insertHeaders table rows

/-- The triggers at its end. -/
def recordProvenances (table : GovernedTable) : List (Int × Document) → Program D Unit
  | [] => pure ()
  | x :: rows => do
    recordDocumentProvenance table x.1 x.2
    recordProvenances table rows

/-- `INSERT INTO` a governed header table. -/
def insertDocuments (table : GovernedTable) (rows : List (Int × Document)) : Program D Unit := do
  insertHeaders table rows
  recordProvenances table rows

/-- `UPDATE` of a governed header row. -/
def updateDocument (table : GovernedTable) (record : Int) (new : Document → Document) :
    Program D Unit :=
  sql (.lockNative (.document table record)) >>= fun
    | none => pure ()
    | some (old : Document) => do
      forbidDocumentOrgChange old (new old)
      forbidUncataloguedFamily table [old.adClientId, (new old).adClientId]
      sql (.writeNative (.document table record) (some (new old)))

/-- `DELETE` of a governed header row. -/
def deleteDocument (table : GovernedTable) (record : Int) : Program D Unit :=
  sql (.lockNative (.document table record)) >>= fun
    | none => pure ()
    | some (old : Document) => do
      forbidUncataloguedFamily table [old.adClientId]
      sql (.writeNative (.document table record) none)

/-- `UPDATE` of a row of `ad_org`, or its `DELETE` where `new` gives none. -/
def changeAdOrg (adOrgId : Int) (new : AdOrg → Option AdOrg) : Program D Unit :=
  sql (.lockNative (.adOrg adOrgId)) >>= fun
    | none => pure ()
    | some (old : AdOrg) => do
      placedAdOrgChangeGuard adOrgId old (new old)
      sql (.writeNative (.adOrg adOrgId) (new old))

/-- What a caller can send. -/
inductive Call
  | read (q : Query)
  | insertPlacements (rows : List PlacementRow)
  | updatePlacement (placementId : String) (version : Int) (new : PlacementRow → Option PlacementRow)
  | deletePlacement (placementId : String) (version : Int)
  | alterProvenance (table : GovernedTable) (record : Int)
  | insertDocuments (table : GovernedTable) (rows : List (Int × Document))
  | updateDocument (table : GovernedTable) (record : Int) (new : Document → Document)
  | deleteDocument (table : GovernedTable) (record : Int)
  | insertAdOrg (adOrgId : Int) (row : AdOrg)
  | changeAdOrg (adOrgId : Int) (new : AdOrg → Option AdOrg)
  | commit
  | rollback

@[reducible] def Call.Ans : Call → Type
  | .read q => q.Ans
  | _ => Unit

/-- **What a call does.** -/
def body : (c : Call) → Program D c.Ans
  | .read q => ask q
  | .insertPlacements rows => PlacementStore.insertPlacements rows
  | .updatePlacement id v new => sql (.updatePlacement id v new)
  | .deletePlacement id v => sql (.deletePlacement id v)
  | .alterProvenance table record => sql (.alterProvenance table record)
  | .insertDocuments table rows => PlacementStore.insertDocuments table rows
  | .updateDocument table record new => PlacementStore.updateDocument table record new
  | .deleteDocument table record => PlacementStore.deleteDocument table record
  | .insertAdOrg adOrgId row => sql (.insertNative (.adOrg adOrgId) row)
  | .changeAdOrg adOrgId new => PlacementStore.changeAdOrg adOrgId new
  | .commit => .perform (Dialect.Command.commit (L := dialect D))
  | .rollback => .perform (Dialect.Command.rollback (L := dialect D))

end Triggers

/-- A caller is any program over the calls. -/
abbrev Caller := Prog Call.Ans DbError Unit

/-- A session runs a caller. -/
def main {D : FinanceBaselines.Deployment} (_ : Session) (p : Caller) : Program D Unit :=
  p.interpret body

/-- **The sessions**, any number of callers in any order. -/
abbrev Sessions (D : FinanceBaselines.Deployment) : Machine := (dialect D).sessions Caller main

/-- No placements, no documents and no organisations, and nobody is connected. -/
def initial (D : FinanceBaselines.Deployment) : (Sessions D).Pool :=
  Machine.idle (M := Sessions D) Dialect.initial

/-- From `p` the sessions can get to `q`. -/
abbrev Reaches {D : FinanceBaselines.Deployment} (p q : (Sessions D).Pool) : Prop :=
  Machine.Reaches (fun _ _ => True) p q

end PlacementStore
end NativeFinance
end BaobabErp
