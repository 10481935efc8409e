/-
# The attribution of a native transaction

`NativeFinanceAttribution` and `NativeDerivedWrites` over the tables
`finance_authority_attribution` (0025, N0003) and `derived_write_attribution`
(N0005, N0007), each with its insert guard and its CHECKs.

A derived write may be of organisation 0, the organisation of client-level
costing.  An attribution may not, and `append` gives it the organisation of the
row that is saved, not the one of the root.
-/

import BaobabErp.FinanceBaselines.Store
import BaobabErp.Java.Numbers
import BaobabErp.NativeFinance.Placement

namespace BaobabErp
namespace NativeFinance

open FinanceBaselines (btrim)
open OrderToCash (postgresUuid)
open Python (UuidText isAsciiUpper isAsciiLower splitAtChar)

/-- Why a callback ends without authority. -/
inductive Denial where
  /-- a `return false` -/
  | refused
  /-- the Control Plane gives no runtime context -/
  | context
  /-- the Control Plane does not authorise the operation -/
  | posting
  /-- a documentary restriction, or no current answer about one -/
  | documentary
  /-- `native financial attribution is unbound` -/
  | unbound
  /-- a text that PostgreSQL does not take for its column -/
  | parameter
  /-- `posting authority expired before attribution` -/
  | expired
  /-- `attribution does not match the current placement` -/
  | misplaced
  /-- a CHECK of the table -/
  | check
  /-- the placement version is not there -/
  | foreignKey
  /-- `cost detail has no product, schema or root` -/
  | incomplete
  /-- `cost detail has no current root attribution in this transaction` -/
  | unattributed
  /-- `costing write without an authorised root in this transaction` -/
  | unauthorised
  deriving DecidableEq, Repr

/-! ### Texts of the tables -/

/-- `String.isBlank` -/
def isBlank (s : String) : Bool :=
  s.toList.all fun c => c.toNat < 2 ^ 16 && Java.isWhitespace (Java.unit c)

/-- A text column holds no NUL. -/
def storable (s : String) : Bool := s.toList.all (· != '\x00')

/-- `length(btrim(column)) BETWEEN lo AND hi` -/
def within (lo hi : Nat) (s : String) : Bool :=
  lo ≤ (btrim s).length && (btrim s).length ≤ hi

/-- The text is one that such a column takes. -/
def fits (lo hi : Nat) (s : String) : Bool := storable s && within lo hi s

/-- `^[A-Za-z_]{3,hi}$` -/
def isTableName (hi : Nat) (s : String) : Bool :=
  3 ≤ s.length && s.length ≤ hi &&
    s.toList.all fun c => isAsciiUpper c || isAsciiLower c || c == '_'

/-- `[a-z-]+` -/
def isClassPart (cs : List Char) : Bool :=
  !cs.isEmpty && cs.all fun c => isAsciiLower c || c == '-'

/-- `^erp\.[a-z-]+\.[a-z-]+$` -/
def isOperationClass (s : String) : Bool :=
  match splitAtChar (· == '.') s.toList with
  | (erp, some rest) =>
    match splitAtChar (· == '.') rest with
    | (area, some verb) => erp == "erp".toList && isClassPart area && isClassPart verb
    | _ => false
  | _ => false

/-! ### The rows -/

/-- A Control Plane decision that is already validated. -/
structure Decision where
  decisionId : UuidText
  contextId : UuidText
  mandateId : UuidText
  supersedesMandateId : Option UuidText
  evidenceReference : String
  mandateEffectiveFrom : Int
  usableUntil : Int
  evidence_given : isBlank evidenceReference = false
  evidence_length : evidenceReference.length ≤ 500
  deriving DecidableEq

/-- `FinanceBaseline`, a version of the approved baseline. -/
@[ext]
structure FinanceBaseline where
  legalEntityId : String
  version : Int
  version_pos : 1 ≤ version

instance : DecidableEq FinanceBaseline := fun _ _ => decidable_of_iff' _ FinanceBaseline.ext_iff

/-- A row of `finance_authority_attribution`, as N0003 leaves the table. -/
structure AttributionRow where
  tenantId : String
  contextId : String
  operatingOrganisationId : String
  responsibleLegalEntityId : String
  cpMandateId : String
  evidenceReference : String
  nativeTable : NativeTable
  adClientId : Int
  adOrgId : Int
  nativeRecordId : Int
  actionName : String
  nativeTransactionName : String
  correlationId : String
  decisionId : String
  operationClass : OperationClass
  sourceTable : NativeTable
  sourceRecordId : Int
  supersedesMandateId : Option String
  mandateEffectiveFrom : Int
  authorityExpiresAt : Int
  placementId : String
  placementVersion : Int
  financeBaselineLegalEntityId : String
  financeBaselineVersion : Int
  receivedAt : Int
  txid : Int
  deriving DecidableEq, Repr

/-- The lease of an attribution: thirty seconds, in microseconds. -/
def lease : Int := 30000000

namespace AttributionRow

variable (a : AttributionRow)

/-- The CHECKs of 0025, with the bound of the evidence that N0003 sets. -/
def columnChecks : Bool :=
  within 3 100 a.tenantId && within 3 160 a.responsibleLegalEntityId &&
    within 1 500 a.evidenceReference && isTableName 90 a.nativeTable.name &&
    decide (0 < a.adClientId) && decide (0 < a.adOrgId) && decide (0 ≤ a.nativeRecordId) &&
    within 3 120 a.actionName && within 3 256 a.nativeTransactionName

/-- `finance_authority_attribution_p004b_complete` -/
def complete : Bool :=
  isOperationClass a.operationClass.name && isTableName 60 a.sourceTable.name &&
    decide (0 ≤ a.sourceRecordId) && decide (1 ≤ a.placementVersion) &&
    a.financeBaselineLegalEntityId == a.responsibleLegalEntityId &&
    decide (1 ≤ a.financeBaselineVersion) && decide (a.authorityExpiresAt ≤ a.receivedAt + lease)

/-- `finance_authority_attribution_placement_fk` -/
def placementKnown (R : Registry) : Bool :=
  R.versions.any fun v => v.placementId == a.placementId && v.version == a.placementVersion

/-- **The constraints of the table** hold of the row. -/
def Meets (R : Registry) : Prop :=
  a.columnChecks = true ∧ a.complete = true ∧ a.placementKnown R = true

/-- The columns that the functions of the database read. -/
def entry : Attribution :=
  ⟨a.txid, a.adClientId, some a.decisionId, a.operationClass, a.sourceTable, a.sourceRecordId,
    a.authorityExpiresAt⟩

end AttributionRow

/-- **The database of a native transaction**: iDempiere's tables, and the registry
of the clients that are placed. -/
structure Database where
  native : Native
  registry : Registry
  placed : native.nativePlacement = registry.versions.map (·.adClientId)

/-- The database with one attribution more. -/
def Database.attribute (D : Database) (a : AttributionRow) : Database :=
  { D with native := { D.native with attribution := D.native.attribution ++ [a.entry] } }

/-! ### `append` -/

/-- A text as the parameter of a `uuid` column. -/
def castUuid (s : String) : Except Denial String :=
  match postgresUuid s with
  | some id => .ok id
  | none => .error .parameter

/-- The ids of a row, as PostgreSQL reads them. -/
structure RowIds where
  contextId : String
  operatingOrganisationId : String
  cpMandateId : String
  correlationId : String
  decisionId : String
  supersedesMandateId : Option String
  placementId : String

/-- The `::uuid` parameters of the INSERT. -/
def castIds (p : NativePlacement) (d : Decision) (correlation : UuidText) : Except Denial RowIds := do
  let contextId ← castUuid d.contextId.1
  let operatingOrganisationId ← castUuid p.operatingOrganisationId
  let cpMandateId ← castUuid d.mandateId.1
  let correlationId ← castUuid correlation.1
  let decisionId ← castUuid d.decisionId.1
  let supersedesMandateId ← d.supersedesMandateId.mapM fun id => castUuid id.1
  let placementId ← castUuid p.placementId
  pure ⟨contextId, operatingOrganisationId, cpMandateId, correlationId, decisionId,
    supersedesMandateId, placementId⟩

/-- The row of the INSERT, with the defaults of the two columns it leaves. -/
def attributionRow (s : Session) (o : NativeOperation) (c : NativeChange) (p : NativePlacement)
    (d : Decision) (b : FinanceBaseline) (ids : RowIds) : AttributionRow where
  tenantId := p.tenantId
  contextId := ids.contextId
  operatingOrganisationId := ids.operatingOrganisationId
  responsibleLegalEntityId := p.legalEntityId
  cpMandateId := ids.cpMandateId
  evidenceReference := d.evidenceReference
  nativeTable := c.table
  adClientId := c.adClientId
  adOrgId := c.adOrgId
  nativeRecordId := max c.recordId 0
  actionName := c.action
  nativeTransactionName := c.transactionName
  correlationId := ids.correlationId
  decisionId := ids.decisionId
  operationClass := o.operationClass
  sourceTable := o.sourceTable
  sourceRecordId := o.sourceRecordId
  supersedesMandateId := ids.supersedesMandateId
  mandateEffectiveFrom := d.mandateEffectiveFrom
  authorityExpiresAt := d.usableUntil
  placementId := ids.placementId
  placementVersion := p.version
  financeBaselineLegalEntityId := b.legalEntityId
  financeBaselineVersion := b.version
  receivedAt := s.clock
  txid := s.txid

/-- The text parameters of the INSERT. -/
def AttributionRow.texts (a : AttributionRow) : List String :=
  [a.tenantId, a.responsibleLegalEntityId, a.evidenceReference, a.nativeTable.name, a.actionName,
    a.nativeTransactionName, a.operationClass.name, a.sourceTable.name,
    a.financeBaselineLegalEntityId]

/-- The version in force that `finance_attribution_insert_guard` finds. -/
def Registry.guardVersion (R : Registry) (clock : Int) (placementId : String) (client : Int) :
    Option PlacementVersion :=
  R.versions.find? fun v => v.placementId == placementId && v.adClientId == client && v.inForce clock

/-- The columns that the guard sets. -/
def AttributionRow.stamped (a : AttributionRow) (s : Session) : AttributionRow :=
  { a with
    receivedAt := s.clock
    txid := s.txid
    authorityExpiresAt := min a.authorityExpiresAt (s.clock + lease) }

/-- `finance_attribution_insert_guard` -/
def insertGuard (R : Registry) (s : Session) (new : AttributionRow) : Except Denial AttributionRow :=
  if new.authorityExpiresAt ≤ s.clock then .error .expired
  else
    match R.guardVersion s.clock new.placementId new.adClientId with
    | none => .error .misplaced
    | some v =>
      if v.version ≠ new.placementVersion ∨ v.tenantId ≠ new.tenantId ∨
          v.operatingOrganisationId ≠ new.operatingOrganisationId ∨
          v.legalEntityId ≠ new.responsibleLegalEntityId then .error .misplaced
      else .ok (new.stamped s)

/-- The constraints of the table, after the guard. -/
def checked (R : Registry) (new : AttributionRow) : Except Denial AttributionRow :=
  if !(new.columnChecks && new.complete) then .error .check
  else if !new.placementKnown R then .error .foreignKey
  else .ok new

/-- `append`; `UUID.fromString` takes every text of the ids. -/
def append (R : Registry) (s : Session) (o : NativeOperation) (c : NativeChange)
    (p : NativePlacement) (d : Decision) (b : FinanceBaseline) (correlation : UuidText) :
    Except Denial AttributionRow := do
  if isBlank d.evidenceReference || p.legalEntityId != b.legalEntityId then throw .unbound
  let row := attributionRow s o c p d b (← castIds p d correlation)
  if !row.texts.all storable then throw .parameter
  checked R (← insertGuard R s row)

/-- `hasCurrent` -/
def hasCurrent (N : Native) (s : Session) (o : NativeOperation) (c : NativeChange) : Bool :=
  decide (0 < o.sourceRecordId) &&
    N.hasCurrentAttributionFor s c.adClientId o.sourceTable o.sourceRecordId (some o.operationClass)

/-! ### Derived writes -/

/-- The decision of the latest current attribution of the root. -/
def rootDecision (N : Native) (s : Session) (o : NativeOperation) (c : NativeChange) :
    Option (Option String) :=
  ((N.attribution.filter fun a => a.txid = s.txid && a.adClientId = c.adClientId &&
    a.decisionId.isSome && a.sourceTable = o.sourceTable && a.sourceRecordId = o.sourceRecordId &&
    decide (s.clock < a.authorityExpiresAt)).map (·.decisionId)).getLast?

/-- The root is a document of the client, and of the organisation unless that is 0. -/
def rootPlaced (N : Native) (o : NativeOperation) (client org : Int) : Bool :=
  match o.sourceTable with
  | .mInOut => (N.mInOut o.sourceRecordId).any fun io =>
      io.adClientId = client && (org = 0 || io.adOrgId = org)
  | .cInvoice => ((N.cInvoice o.sourceRecordId).any fun i =>
      i.adClientId = client && (org = 0 || i.adOrgId = org)) &&
        N.governedClassOf .cInvoice o.sourceRecordId = some .vendorInvoice
  | _ => false

/-- `derived_write_insert_guard` -/
def derivedGuard (N : Native) (s : Session) (o : NativeOperation) (c : NativeChange)
    (decision : Option String) : Bool :=
  N.hasGovernedAttribution s c.adClientId o.sourceTable o.sourceRecordId &&
    (N.attribution.any fun a => a.txid = s.txid && a.adClientId = c.adClientId &&
      a.decisionId = decision && a.sourceTable = o.sourceTable &&
      a.sourceRecordId = o.sourceRecordId) &&
    rootPlaced N o c.adClientId c.adOrgId

/-- `appendCostDetail`: the row that the statement selects at `selected` is guarded
at `guarded`. -/
def appendCostDetail (D : Database) (selected guarded : Session) (o : NativeOperation)
    (c : NativeChange) : Except Denial Database :=
  let product := c.intValue "M_Product_ID"
  let schema := c.intValue "C_AcctSchema_ID"
  let element := max (c.intValue "M_CostElement_ID") 0
  let asi := max (c.intValue "M_AttributeSetInstance_ID") 0
  if product ≤ 0 ∨ schema ≤ 0 ∨ o.sourceRecordId ≤ 0 then .error .incomplete
  else
    match rootDecision D.native selected o c with
    | none => .error .unattributed
    | some decision =>
      if !derivedGuard D.native guarded o c decision then .error .unauthorised
      else if h : (o.sourceTable = .mInOut ∨ o.sourceTable = .cInvoice) ∧ 0 < o.sourceRecordId ∧
          c.table = .mCostDetail ∧ 0 < c.adClientId ∧ 0 ≤ c.adOrgId ∧ 0 < product ∧ 0 < schema ∧
          0 ≤ element ∧ 0 ≤ asi then
        .ok { D with native := { D.native with derivedWrite := D.native.derivedWrite ++
          [⟨guarded.txid, o.sourceTable, o.sourceRecordId, c.adClientId, c.adOrgId, product, schema,
            element, asi, h.1, h.2.1⟩] } }
      else .error .check

/-- `costCovered` -/
def costCovered (N : Native) (s : Session) (c : NativeChange) : Bool :=
  let product := c.intValue "M_Product_ID"
  let schema := c.intValue "C_AcctSchema_ID"
  let costType := c.intValue "M_CostType_ID"
  let element := c.intValue "M_CostElement_ID"
  if product ≤ 0 ∨ schema ≤ 0 ∨ costType ≤ 0 ∨ element ≤ 0 ∨ c.adClientId ≤ 0 ∨ c.adOrgId < 0 then
    false
  else N.costBucketCovered s ⟨c.adClientId, c.adOrgId, product, schema, costType, element,
    max (c.intValue "M_AttributeSetInstance_ID") 0⟩

/-! ### What the columns take -/

/-- A text of a canonical id has neither a blank nor a NUL. -/
theorem plain_of_isTenantId {t : String} (h : Identifiers.isTenantId t = true) :
    ∀ c ∈ t.toList, c ≠ ' ' ∧ c ≠ '\x00' := by
  intro c hc
  rw [Identifiers.isTenantId, Bool.and_eq_true, Bool.and_eq_true] at h
  obtain ⟨⟨-, hp⟩, h⟩ := h
  rw [← List.prefix_iff_eq_append.1 (List.isPrefixOf_iff_prefix.1 hp)] at hc
  rcases List.mem_append.1 hc with hc | hc
  · have hprefix : "tn_".toList.all (fun c => c != ' ' && c != '\x00') = true := by decide
    simpa using List.all_eq_true.1 hprefix c hc
  · have hall := List.all_eq_true.1 h c hc
    constructor <;>
      · rintro rfl
        exact absurd hall (by decide)

theorem plain_of_isLegalEntityId {t : String} (h : Identifiers.isLegalEntityId t = true) :
    ∀ c ∈ t.toList, c ≠ ' ' ∧ c ≠ '\x00' := by
  intro c hc
  have hchar : c = '-' ∨ isAsciiUpper c = true ∨ Python.isAsciiDigit c = true := by
    rw [Identifiers.isLegalEntityId, Bool.and_eq_true] at h
    obtain ⟨-, h⟩ := h
    split at h
    · next d cs hs =>
      rw [hs] at hc
      rw [Bool.and_eq_true] at h
      rcases List.mem_cons.1 hc with rfl | hc
      · exact .inr (.inl h.1)
      · exact Identifiers.legalEntityTail_mem h.2 _ hc
    · cases h
  constructor <;>
    · rintro rfl
      exact absurd hchar (by decide)

/-- Nothing is trimmed where there is no blank. -/
theorem btrim_of_plain {t : String} (h : ∀ c ∈ t.toList, c ≠ ' ' ∧ c ≠ '\x00') : btrim t = t := by
  rw [btrim, Python.dropWhile_both fun c hc => beq_eq_false_iff_ne.2 (h c hc).1, String.ofList_toList]

theorem storable_of_plain {t : String} (h : ∀ c ∈ t.toList, c ≠ ' ' ∧ c ≠ '\x00') :
    storable t = true :=
  List.all_eq_true.2 fun c hc => bne_iff_ne.2 (h c hc).2

/-- Trimming keeps what is no blank, and adds nothing. -/
theorem btrim_length {t : String} :
    (btrim t).length ≤ t.length ∧ ((∃ c ∈ t.toList, c ≠ ' ') → 1 ≤ (btrim t).length) := by
  have hdrop : ∀ cs : List Char, (cs.dropWhile (· == ' ')).length ≤ cs.length := fun cs =>
    (List.dropWhile_sublist _).length_le
  have hlen : (btrim t).length = ((t.toList.dropWhile (· == ' ')).reverse.dropWhile (· == ' ')).length := by
    rw [btrim, String.length_ofList, List.length_reverse]
  constructor
  · rw [hlen, ← String.length_toList]
    exact (hdrop _).trans (by rw [List.length_reverse]; exact hdrop _)
  · rintro ⟨c, hc, hne⟩
    have hkept : ∀ {cs : List Char}, c ∈ cs → c ∈ cs.dropWhile (· == ' ') := by
      intro cs hmem
      rw [← List.takeWhile_append_dropWhile (p := (· == ' ')) (l := cs)] at hmem
      rcases List.mem_append.1 hmem with hmem | hmem
      · have hblank : (c == ' ') = true := @List.mem_takeWhile_imp _ (· == ' ') _ _ hmem
        exact absurd (beq_iff_eq.1 hblank) hne
      · exact hmem
    rw [hlen]
    exact List.length_pos_of_mem (hkept (List.mem_reverse.2 (hkept hc)))

/-- **The evidence of a decision fits its column.** -/
theorem Decision.within_evidence (d : Decision) : within 1 500 d.evidenceReference = true := by
  obtain ⟨hle, hpos⟩ := @btrim_length d.evidenceReference
  have hlen := d.evidence_length
  have hchar : ∃ c ∈ d.evidenceReference.toList, c ≠ ' ' := by
    by_contra hno
    have hblank : isBlank d.evidenceReference = true := by
      refine List.all_eq_true.2 fun c hc => ?_
      obtain rfl : c = ' ' := by
        by_contra hne
        exact hno ⟨c, hc, hne⟩
      decide
    rw [d.evidence_given] at hblank
    cases hblank
  have h := hpos hchar
  rw [within, Bool.and_eq_true, decide_eq_true_iff, decide_eq_true_iff]
  omega

/-! ### What `append` needs -/

theorem castUuid_text (u : UuidText) : ∃ id, castUuid u.1 = .ok id := by
  obtain ⟨id, hid⟩ := Python.postgresUuid_of_uuidFormat u.2
  exact ⟨id, by rw [castUuid, hid]⟩

theorem castUuid_canonical {id : String} (h : postgresUuid id = some id) : castUuid id = .ok id := by
  rw [castUuid, h]

/-- PostgreSQL takes the ids, and the placement's as they are. -/
theorem castIds_ok (p : NativePlacement) (d : Decision) (correlation : UuidText) :
    ∃ ids, castIds p d correlation = .ok ids ∧
      ids.operatingOrganisationId = p.operatingOrganisationId ∧ ids.placementId = p.placementId := by
  obtain ⟨contextId, hc⟩ := castUuid_text d.contextId
  obtain ⟨mandate, hm⟩ := castUuid_text d.mandateId
  obtain ⟨correlationId, hr⟩ := castUuid_text correlation
  obtain ⟨decisionId, hd⟩ := castUuid_text d.decisionId
  have hs : ∃ supersedes, (d.supersedesMandateId.mapM fun id => castUuid id.1) = .ok supersedes := by
    cases hs : d.supersedesMandateId with
    | none => exact ⟨none, rfl⟩
    | some u =>
      obtain ⟨id, hid⟩ := castUuid_text u
      exact ⟨some id, by rw [Option.mapM_some, hid]; rfl⟩
  obtain ⟨supersedes, hs⟩ := hs
  refine ⟨⟨contextId, p.operatingOrganisationId, mandate, correlationId, decisionId, supersedes,
    p.placementId⟩, ?_, rfl, rfl⟩
  rw [castIds, hc, castUuid_canonical p.organisation_uuid, hm, hr, hd, hs,
    castUuid_canonical p.placementId_uuid]
  rfl

namespace Registry

variable {R : Registry} {clock : Int}

/-- **The guard finds the placement in force.** -/
theorem guardVersion_eq {p : NativePlacement} (h : R.inForce clock p = true) :
    ∃ v, R.guardVersion clock p.placementId p.adClientId = some v ∧ v ∈ R.versions ∧
      v.toNativePlacement = p := by
  obtain ⟨v, hv, h⟩ := List.any_eq_true.1 h
  rw [Bool.and_eq_true, decide_eq_true_iff] at h
  obtain ⟨rfl, hforce⟩ := h
  have hsome : (R.guardVersion clock v.placementId v.adClientId).isSome = true := by
    rw [guardVersion, List.find?_isSome]
    exact ⟨v, hv, by simp [hforce]⟩
  obtain ⟨u, hu⟩ := Option.isSome_iff_exists.1 hsome
  have hmem : u ∈ R.versions := List.mem_of_find?_eq_some hu
  have hfound := List.find?_some hu
  simp only [Bool.and_eq_true, beq_iff_eq] at hfound
  have hid := R.identity_eq u hmem v hv hfound.1.1
  have horg : u.adOrgId = v.adOrgId := (Prod.mk.inj (Prod.mk.inj (Prod.mk.inj (Prod.mk.inj hid).2).2).2).2
  obtain rfl := eq_of_inForce hmem hv hfound.1.2 horg hfound.2 hforce
  exact ⟨u, hu, hmem, rfl⟩

end Registry

section

variable {R : Registry} {s : Session} {o : NativeOperation} {c : NativeChange} {p : NativePlacement}
  {d : Decision} {b : FinanceBaseline} {ids : RowIds}

/-- The three texts of a row that no earlier check bounds. -/
def TextsFit (c : NativeChange) (d : Decision) : Prop :=
  fits 3 120 c.action = true ∧ fits 3 256 c.transactionName = true ∧
    storable d.evidenceReference = true

/-- The tables of a cost detail's attribution have names that the columns take. -/
theorem names_of_costDetail (hc : c.table = .mCostDetail)
    (ho : o.sourceTable = .mInOut ∨ o.sourceTable = .cInvoice) :
    isTableName 90 c.table.name = true ∧ storable c.table.name = true ∧
      isTableName 60 o.sourceTable.name = true ∧ storable o.sourceTable.name = true := by
  rw [hc]
  rcases ho with ho | ho <;> rw [ho] <;> decide

/-- A catalogued class has a text of the class column. -/
theorem OperationClass.name_catalogued (cls : OperationClass) :
    isOperationClass cls.name = true ∧ storable cls.name = true := by
  cases cls <;> decide

/-- **The row of a placed operation meets the constraints exactly if** its own
organisation is not 0 and its texts fit. -/
theorem row_checks_iff (hc : c.table = .mCostDetail)
    (ho : o.sourceTable = .mInOut ∨ o.sourceTable = .cInvoice) (hid : 0 ≤ o.sourceRecordId)
    (hclient : p.adClientId = c.adClientId) (hentity : p.legalEntityId = b.legalEntityId) :
    ((attributionRow s o c p d b ids).texts.all storable = true ∧
        (((attributionRow s o c p d b ids).stamped s).columnChecks &&
          ((attributionRow s o c p d b ids).stamped s).complete) = true) ↔
      0 < c.adOrgId ∧ TextsFit c d := by
  obtain ⟨hname, hname', hsource, hsource'⟩ := names_of_costDetail hc ho
  obtain ⟨hclass, hclass'⟩ := o.operationClass.name_catalogued
  have htenant := plain_of_isTenantId p.tenantId_canonical
  have hlegal := plain_of_isLegalEntityId p.legalEntityId_canonical
  have hlegal' : storable b.legalEntityId = true := hentity ▸ storable_of_plain hlegal
  have htexts : (attributionRow s o c p d b ids).texts.all storable =
      (storable d.evidenceReference && storable c.action && storable c.transactionName) := by
    simp [AttributionRow.texts, attributionRow, storable_of_plain htenant, storable_of_plain hlegal,
      hname', hsource', hclass', hlegal', Bool.and_assoc]
  have htenantLength : within 3 100 p.tenantId = true := by
    have h := p.tenantId_canonical
    simp only [Identifiers.isTenantId, Bool.and_eq_true, decide_eq_true_eq] at h
    rw [within, btrim_of_plain htenant, Bool.and_eq_true, decide_eq_true_iff, decide_eq_true_iff]
    omega
  have hlegalLength : within 3 160 p.legalEntityId = true := by
    have h := p.legalEntityId_canonical
    simp only [Identifiers.isLegalEntityId, Bool.and_eq_true, decide_eq_true_eq] at h
    rw [within, btrim_of_plain hlegal, Bool.and_eq_true, decide_eq_true_iff, decide_eq_true_iff]
    omega
  have hpos : 0 < c.adClientId := hclient ▸ p.adClientId_pos
  have hcolumns : ((attributionRow s o c p d b ids).stamped s).columnChecks =
      (decide (0 < c.adOrgId) && within 3 120 c.action && within 3 256 c.transactionName) := by
    show (within 3 100 p.tenantId && within 3 160 p.legalEntityId &&
      within 1 500 d.evidenceReference && isTableName 90 c.table.name && decide (0 < c.adClientId) &&
      decide (0 < c.adOrgId) && decide (0 ≤ max c.recordId 0) && within 3 120 c.action &&
      within 3 256 c.transactionName) = _
    rw [htenantLength, hlegalLength, d.within_evidence, hname, decide_eq_true hpos,
      decide_eq_true (le_max_right c.recordId 0)]
    simp only [Bool.true_and, Bool.and_true]
  have hcomplete : ((attributionRow s o c p d b ids).stamped s).complete = true := by
    simp [AttributionRow.complete, AttributionRow.stamped, attributionRow, hclass, hsource, hid,
      hentity, p.version_pos, b.version_pos]
  rw [htexts, hcolumns, hcomplete, TextsFit, fits, fits]
  simp only [Bool.and_eq_true, decide_eq_true_eq]
  constructor
  · rintro ⟨⟨⟨hev, ha⟩, ht⟩, ⟨⟨horg, ha'⟩, ht'⟩, -⟩
    exact ⟨horg, ⟨ha, ha'⟩, ⟨ht, ht'⟩, hev⟩
  · rintro ⟨horg, ⟨ha, ha'⟩, ⟨ht, ht'⟩, hev⟩
    exact ⟨⟨⟨hev, ha⟩, ht⟩, ⟨⟨horg, ha'⟩, ht'⟩, trivial⟩

/-- The row of the ids, with what the guard sets. -/
theorem insertGuard_eq (hforce : R.inForce s.clock p = true) (hclient : p.adClientId = c.adClientId)
    (hlease : s.clock < d.usableUntil) (horg : ids.operatingOrganisationId = p.operatingOrganisationId)
    (hplacement : ids.placementId = p.placementId) :
    insertGuard R s (attributionRow s o c p d b ids) = .ok ((attributionRow s o c p d b ids).stamped s) := by
  obtain ⟨v, hv, -, hp⟩ := Registry.guardVersion_eq hforce
  have hfound : R.guardVersion s.clock (attributionRow s o c p d b ids).placementId
      (attributionRow s o c p d b ids).adClientId = some v := by
    rw [← hv]
    exact congrArg₂ (R.guardVersion s.clock) hplacement hclient.symm
  have hlive : ¬(attributionRow s o c p d b ids).authorityExpiresAt ≤ s.clock := not_le.2 hlease
  rw [insertGuard, if_neg hlive, hfound]
  subst hp
  refine if_neg ?_
  rintro (h | h | h | h)
  · exact h rfl
  · exact h rfl
  · exact h horg.symm
  · exact h rfl

/-- The version of a placement in force is there for the foreign key. -/
theorem placementKnown_of_inForce (hforce : R.inForce s.clock p = true)
    (hplacement : ids.placementId = p.placementId) :
    ((attributionRow s o c p d b ids).stamped s).placementKnown R = true := by
  obtain ⟨v, hv, h⟩ := List.any_eq_true.1 hforce
  rw [Bool.and_eq_true, decide_eq_true_iff] at h
  refine List.any_eq_true.2 ⟨v, hv, ?_⟩
  rw [Bool.and_eq_true, beq_iff_eq, beq_iff_eq]
  show v.placementId = ids.placementId ∧ v.version = p.version
  rw [hplacement, ← h.1]
  exact ⟨rfl, rfl⟩

/-- **What `append` does of a placed cost detail**: it records the row of some ids
exactly if the row's own organisation is not 0 and its texts fit. -/
theorem append_ok_iff {correlation : UuidText} (hc : c.table = .mCostDetail)
    (ho : o.sourceTable = .mInOut ∨ o.sourceTable = .cInvoice) (hid : 0 ≤ o.sourceRecordId)
    (hforce : R.inForce s.clock p = true) (hclient : p.adClientId = c.adClientId)
    (hentity : p.legalEntityId = b.legalEntityId) (hlease : s.clock < d.usableUntil) :
    ∃ ids, ∀ row, append R s o c p d b correlation = .ok row ↔
      (0 < c.adOrgId ∧ TextsFit c d) ∧ row = (attributionRow s o c p d b ids).stamped s := by
  obtain ⟨ids, hids, horg, hplacement⟩ := castIds_ok p d correlation
  refine ⟨ids, fun row => ?_⟩
  rw [← @row_checks_iff s o c p d b ids hc ho hid hclient hentity]
  have hbound : (isBlank d.evidenceReference || p.legalEntityId != b.legalEntityId) = false := by
    rw [d.evidence_given, hentity, Bool.false_or, bne_self_eq_false]
  have hguard := @insertGuard_eq R s o c p d b ids hforce hclient hlease horg hplacement
  have hknown := @placementKnown_of_inForce R s o c p d b ids hforce hplacement
  have happend : append R s o c p d b correlation =
      if !(attributionRow s o c p d b ids).texts.all storable then .error .parameter
      else checked R ((attributionRow s o c p d b ids).stamped s) := by
    rw [append, hbound, hids]
    simp only [Bool.false_eq_true, if_false, bind, Except.bind]
    split_ifs
    · rfl
    · rw [hguard]
  rw [happend, checked, hknown]
  generalize (attributionRow s o c p d b ids).texts.all storable = texts
  generalize (((attributionRow s o c p d b ids).stamped s).columnChecks &&
    ((attributionRow s o c p d b ids).stamped s).complete) = checks
  cases texts <;> cases checks <;> simp [eq_comm]

end

/-! ### What a derived write needs -/

section

variable {D : Database} {s t : Session} {o : NativeOperation} {c : NativeChange}

/-- Authority that is still current when the row is guarded was so when it was selected. -/
theorem rootDecision_of_governed (hclock : s.clock ≤ t.clock) (htxid : t.txid = s.txid)
    (h : D.native.hasGovernedAttribution t c.adClientId o.sourceTable o.sourceRecordId = true) :
    ∃ decision, rootDecision D.native s o c = some decision := by
  obtain ⟨a, ha, h⟩ := List.any_eq_true.1 h
  simp only [Bool.and_eq_true, decide_eq_true_eq] at h
  obtain ⟨⟨⟨⟨⟨⟨htx, hcl⟩, hdec⟩, htab⟩, hrec⟩, -⟩, hexp⟩ := h
  refine Option.isSome_iff_exists.1 (List.getLast?_isSome.2 fun hnil => ?_)
  have hmem : a ∈ D.native.attribution.filter fun a => a.txid = s.txid && a.adClientId = c.adClientId &&
      a.decisionId.isSome && a.sourceTable = o.sourceTable && a.sourceRecordId = o.sourceRecordId &&
      decide (s.clock < a.authorityExpiresAt) := by
    refine List.mem_filter.2 ⟨ha, ?_⟩
    simp only [Bool.and_eq_true, decide_eq_true_eq]
    exact ⟨⟨⟨⟨⟨htx.trans htxid, hcl⟩, hdec⟩, htab⟩, hrec⟩, by omega⟩
  rw [List.map_eq_nil_iff.1 hnil] at hmem
  exact absurd hmem List.not_mem_nil

/-- The decision that is selected is one of the root's in this transaction. -/
theorem any_of_rootDecision {decision : Option String} (htxid : t.txid = s.txid)
    (h : rootDecision D.native s o c = some decision) :
    (D.native.attribution.any fun a => a.txid = t.txid && a.adClientId = c.adClientId &&
      a.decisionId = decision && a.sourceTable = o.sourceTable &&
      a.sourceRecordId = o.sourceRecordId) = true := by
  obtain ⟨a, ha, hdec⟩ := List.mem_map.1 (List.mem_of_getLast? h)
  obtain ⟨ha, hfilter⟩ := List.mem_filter.1 ha
  simp only [Bool.and_eq_true, decide_eq_true_eq] at hfilter
  obtain ⟨⟨⟨⟨⟨htx, hcl⟩, -⟩, htab⟩, hrec⟩, -⟩ := hfilter
  refine List.any_eq_true.2 ⟨a, ha, ?_⟩
  simp only [Bool.and_eq_true, decide_eq_true_eq]
  exact ⟨⟨⟨⟨htx.trans htxid.symm, hcl⟩, hdec⟩, htab⟩, hrec⟩

/-- **A cost detail is recorded exactly if** it names a product and an accounting
schema and the transaction is authorised for the root's own class. -/
theorem appendCostDetail_ok_iff (hc : c.table = .mCostDetail)
    (ho : o.sourceTable = .mInOut ∨ o.sourceTable = .cInvoice) (hid : 0 < o.sourceRecordId)
    (hclient : 0 < c.adClientId) (horg : 0 ≤ c.adOrgId) (hclock : s.clock ≤ t.clock)
    (htxid : t.txid = s.txid) (hroot : rootPlaced D.native o c.adClientId c.adOrgId = true) :
    (∃ D', appendCostDetail D s t o c = .ok D') ↔ 0 < c.intValue "M_Product_ID" ∧
      0 < c.intValue "C_AcctSchema_ID" ∧
      D.native.hasGovernedAttribution t c.adClientId o.sourceTable o.sourceRecordId = true := by
  unfold appendCostDetail
  dsimp only
  constructor
  · rintro ⟨D', h⟩
    by_cases hinc : c.intValue "M_Product_ID" ≤ 0 ∨ c.intValue "C_AcctSchema_ID" ≤ 0 ∨
        o.sourceRecordId ≤ 0
    · rw [if_pos hinc] at h
      cases h
    · rw [if_neg hinc] at h
      refine ⟨by omega, by omega, ?_⟩
      split at h
      · cases h
      · by_contra hno
        rw [derivedGuard, Bool.eq_false_of_not_eq_true hno] at h
        cases h
  · rintro ⟨hp, hs, hgov⟩
    obtain ⟨decision, hdec⟩ := rootDecision_of_governed hclock htxid hgov
    have hguard : derivedGuard D.native t o c decision = true := by
      rw [derivedGuard, hgov, any_of_rootDecision htxid hdec, hroot]
      rfl
    rw [if_neg (by omega)]
    simp only [hdec, hguard]
    rw [if_neg (by decide), dif_pos ⟨ho, hid, hc, hclient, horg, hp, hs, le_max_right _ _, le_max_right _ _⟩]
    exact ⟨_, rfl⟩

end
end NativeFinance
end BaobabErp
