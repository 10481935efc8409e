/-
# The authority of a native write

`CpNativeFinancialAuthority`: a write is classified, its source document placed,
and unless the transaction already holds authority for that document, the Control
Plane decides and the decision is recorded in the same transaction.  A cost detail
is recorded besides as a consequence of its root.

A cost detail may be of organisation 0.  The guard of the callback, the resolver,
the placement lookup and the derived write all take it as client-level costing;
the attribution alone does not, because `append` records the organisation of the
cost detail.  **Such a write is authorised only where the transaction already
holds authority for its root** (`costDetail_authorised_iff`).
-/

import BaobabErp.NativeFinance.Attribution

namespace BaobabErp
namespace NativeFinance

open Python (UuidText)

/-! ### What the Control Plane answers -/

/-- What came back of a request, if it kept its contract, and the clock of the JVM
when the answer is looked at. -/
structure Reply (α : Type) where
  answer : Option α
  now : Int

/-- `PlatformContext` of the pinned contract; an instant that does not parse is `none`. -/
structure PlatformContext where
  contextId : UuidText
  tenantId : String
  organisationId : Option String
  countryCode : Option String
  resolvedAt : Option Int
  expiresAt : Option Int

/-- `PostingAuthorityDecision` of the pinned contract, where
`provider_permissions_granted` is the constant `false`. -/
structure PostingDecision where
  decisionId : UuidText
  contextId : UuidText
  engineInstanceId : String
  operationClass : String
  placementId : UuidText
  placementVersion : Int
  operationReference : String
  outcome : String
  tenantId : Option String
  operatingOrganisationId : Option String
  market : Option String
  responsibleLegalEntityId : Option String
  mandateId : Option UuidText
  supersedesMandateId : Option UuidText
  evidenceReferences : List { s : String // s.length ≤ 500 }
  mandateEffectiveFrom : Option Int
  evaluatedAt : Option Int
  expiresAt : Option Int

/-- `DocumentaryRestrictionAssessmentResponse` of the pinned contract, where
`authority_granted` and `policy_reference` are constants. -/
structure DocumentaryAssessment where
  contextId : UuidText
  organisationId : String
  market : String
  capability : String
  operationReference : String
  blocked : Bool
  evaluatedAt : Option Int
  expiresAt : Option Int

/-- Seconds of the clock. -/
def seconds (n : Int) : Int := n * 1000000

/-- `recent` -/
def recent (stamp : Option Int) (now maxAge maxFuture : Int) : Bool :=
  stamp.any fun value => now - seconds maxAge ≤ value && value ≤ now + seconds maxFuture

/-- `issueCurrentCpContext` -/
def issueCurrentCpContext (p : NativePlacement) (r : Reply PlatformContext) :
    Except Denial UuidText :=
  match r.answer with
  | none => .error .context
  | some x =>
    if x.tenantId == p.tenantId && x.organisationId == some p.operatingOrganisationId &&
        x.countryCode == some p.market && recent x.resolvedAt r.now 5 1 &&
        x.expiresAt.any (fun expiry => decide (r.now < expiry) && decide (expiry ≤ r.now + seconds 600))
    then .ok x.contextId
    else .error .context

/-- `MAX_LEASE_SECONDS` -/
def maxLeaseSeconds : Int := 30

/-- The decision names this operation, this placement and the placement's legal entity. -/
def PostingDecision.grants (x : PostingDecision) (context : UuidText) (p : NativePlacement)
    (o : NativeOperation) (reference : String) : Bool :=
  x.outcome == "AUTHORIZED" && x.contextId == context && x.engineInstanceId == p.engineInstanceId &&
    x.operationClass == o.operationClass.name && x.operationReference == reference &&
    x.placementId.1 == p.placementId && x.placementVersion.bmod (2 ^ 32) == p.version &&
    x.tenantId == some p.tenantId && x.operatingOrganisationId == some p.operatingOrganisationId &&
    x.market == some p.market && x.responsibleLegalEntityId == some p.legalEntityId

/-- `postingAuthority` -/
def postingAuthority (context : UuidText) (p : NativePlacement) (o : NativeOperation)
    (reference : String) (r : Reply PostingDecision) : Except Denial Decision :=
  match r.answer with
  | none => .error .posting
  | some x =>
    match x.evidenceReferences.head?, x.mandateId, x.mandateEffectiveFrom, x.evaluatedAt,
      x.expiresAt with
    | some evidence, some mandate, some effective, some evaluated, some expires =>
      if !x.grants context p o reference then .error .posting
      else if !recent x.evaluatedAt r.now maxLeaseSeconds 1 || decide (expires ≤ evaluated) ||
          decide (evaluated + seconds maxLeaseSeconds < expires) || decide (expires ≤ r.now) then
        .error .posting
      else if h : isBlank evidence.1 = false then
        .ok
          { decisionId := x.decisionId
            contextId := context
            mandateId := mandate
            supersedesMandateId := x.supersedesMandateId
            evidenceReference := evidence.1
            mandateEffectiveFrom := effective
            usableUntil := min expires (r.now + seconds maxLeaseSeconds)
            evidence_given := h
            evidence_length := evidence.2 }
      else .error .posting
    | _, _, _, _, _ => .error .posting

/-- `documentaryClear` -/
def documentaryClear (context : UuidText) (p : NativePlacement) (o : NativeOperation)
    (reference : String) (r : Reply DocumentaryAssessment) : Except Denial Unit :=
  match r.answer with
  | none => .error .documentary
  | some x =>
    match x.evaluatedAt, x.expiresAt with
    | some evaluated, some expires =>
      if x.contextId == context && x.organisationId == p.operatingOrganisationId &&
          x.market == p.market && x.capability == o.operationClass.name &&
          x.operationReference == reference && !x.blocked && recent x.evaluatedAt r.now 3 1 &&
          decide (r.now < expires) && decide (evaluated < expires) &&
          decide (expires ≤ evaluated + seconds 2)
      then .ok ()
      else .error .documentary
    | _, _ => .error .documentary

/-! ### The callback -/

/-- **One callback of the validator**: what the clock of the database shows its
statements, and what its providers answer. -/
structure Callback where
  txid : Int
  classified : Int
  placed : Int
  held : Int
  recorded : Int
  selected : Int
  guarded : Int
  context : Reply PlatformContext
  posting : Reply PostingDecision
  documentary : Reply DocumentaryAssessment
  /-- `currentBaseline` -/
  baseline : Option FinanceBaseline
  refreshed : Reply PostingDecision
  documentaryAgain : Reply DocumentaryAssessment
  /-- `UUID.randomUUID` -/
  correlation : UuidText
  ordered : classified ≤ placed ∧ placed ≤ held ∧ held ≤ recorded ∧ recorded ≤ selected ∧
    selected ≤ guarded

/-- A statement of the transaction at this reading of the clock. -/
def Callback.session (w : Callback) (clock : Int) : Session := ⟨w.txid, clock⟩

/-- `return false` where there is nothing. -/
def orRefused {α : Type} : Option α → Except Denial α
  | some a => .ok a
  | none => .error .refused

/-- The decisions of the Control Plane, the readiness of the company and the
documentary checks, up to the attribution. -/
def decided (w : Callback) (o : NativeOperation) (p : NativePlacement) (reference : String) :
    Except Denial (Decision × FinanceBaseline) := do
  let context ← issueCurrentCpContext p w.context
  let decision ← postingAuthority context p o reference w.posting
  documentaryClear context p o reference w.documentary
  let baseline ← orRefused w.baseline
  if p.legalEntityId ≠ baseline.legalEntityId then throw .refused
  let refreshed ← postingAuthority context p o reference w.refreshed
  if decision.mandateId ≠ refreshed.mandateId then throw .refused
  documentaryClear context p o reference w.documentaryAgain
  pure (refreshed, baseline)

/-- `derivedRecorded` -/
def derivedRecorded (D : Database) (w : Callback) (o : NativeOperation) (c : NativeChange) :
    Except Denial Database :=
  if c.table = .mCostDetail then appendCostDetail D (w.session w.selected) (w.session w.guarded) o c
  else .ok D

/-- `NativeFinancePolicy.costing` -/
def costing (table : NativeTable) : Bool := table = .other "M_Cost" || table = .mCostDetail

/-- `emptyDraftAllocation` -/
def emptyDraftAllocation (N : Native) (c : NativeChange) : Bool :=
  c.table = .cAllocationHdr && "model:".toList.isPrefixOf c.action.toList &&
    (c.value "DocStatus" = some (.text "DR") || c.value "DocStatus" = some (.text "IP")) &&
    (decide (c.recordId ≤ 0) || Resolver.emptyAllocation N c.recordId 0)

/-- What the callback refuses before it classifies. -/
def ungoverned (c : NativeChange) : Bool :=
  isBlank c.transactionName || decide (c.adClientId ≤ 0) || decide (c.recordId < 0) ||
    decide (c.adOrgId < 0) || decide (c.adOrgId = 0) && !costing c.table

/-- An operation with its placement: the authority the transaction holds, or a new
attribution.  The row is the attribution that is appended. -/
def authorise (D : Database) (w : Callback) (o : NativeOperation) (c : NativeChange)
    (p : NativePlacement) (reference : String) :
    Except Denial (Option AttributionRow × Database) :=
  if hasCurrent D.native (w.session w.held) o c then
    (derivedRecorded D w o c).map fun D' => (none, D')
  else do
    let x ← decided w o p reference
    let row ← append D.registry (w.session w.recorded) o c p x.1 x.2 w.correlation
    let D' ← derivedRecorded (D.attribute row) w o c
    pure (some row, D')

/-- The body of `currentlyAuthorised`: the attribution it appends, if it appends one,
and the database it leaves. -/
def callback (D : Database) (w : Callback) (c : NativeChange) :
    Except Denial (Option AttributionRow × Database) :=
  if ungoverned c then .error .refused
  else if c.table = .other "M_Cost" then
    if costCovered D.native (w.session w.classified) c then .ok (none, D) else .error .refused
  else if emptyDraftAllocation D.native c then .ok (none, D)
  else do
    let o ← orRefused (Resolver.classify D.native (w.session w.classified) c.toNativeRecord)
    let reference ← orRefused (o.operationReference c)
    let p ← orRefused (D.registry.currentPlacement w.placed o c)
    if p.adClientId = c.adClientId then authorise D w o c p reference else throw .refused

/-- `currentlyAuthorised` -/
def currentlyAuthorised (D : Database) (w : Callback) (c : NativeChange) : Bool :=
  match callback D w c with
  | .ok _ => true
  | .error _ => false

/-! ### What is appended -/

/-- **A row that is appended meets the constraints** of the table. -/
theorem meets_of_append {R : Registry} {s : Session} {o : NativeOperation} {c : NativeChange}
    {p : NativePlacement} {d : Decision} {b : FinanceBaseline} {correlation : UuidText}
    {row : AttributionRow} (h : append R s o c p d b correlation = .ok row) : row.Meets R := by
  have hchecked : ∀ {new : AttributionRow}, checked R new = .ok row → row.Meets R := by
    intro new h
    unfold checked at h
    split_ifs at h with hcheck hknown
    obtain rfl := Except.ok.inj h
    simp only [Bool.not_eq_true', Bool.not_eq_false, Bool.and_eq_true] at hcheck hknown
    exact ⟨hcheck.1, hcheck.2, hknown⟩
  unfold append at h
  split_ifs at h
  · cases h
  · obtain ⟨ids, -, h⟩ := Python.bind_eq_ok h
    dsimp only at h
    split_ifs at h
    · cases h
    · obtain ⟨new, -, h⟩ := Python.bind_eq_ok h
      exact hchecked h

/-- Whatever the write, a callback appends no other row. -/
theorem meets_of_callback {D D' : Database} {w : Callback} {c : NativeChange} {row : AttributionRow}
    (h : callback D w c = .ok (some row, D')) : row.Meets D.registry := by
  unfold callback at h
  split_ifs at h
  · cases h
  · cases h
  · obtain ⟨o, -, h⟩ := Python.bind_eq_ok h
    obtain ⟨reference, -, h⟩ := Python.bind_eq_ok h
    obtain ⟨p, -, h⟩ := Python.bind_eq_ok h
    split_ifs at h
    · unfold authorise at h
      split_ifs at h
      · cases hD : derivedRecorded D w o c with
        | error e =>
          rw [hD] at h
          cases h
        | ok D'' =>
          rw [hD] at h
          cases h
      · obtain ⟨x, -, h⟩ := Python.bind_eq_ok h
        obtain ⟨new, hnew, h⟩ := Python.bind_eq_ok h
        obtain ⟨D'', -, h⟩ := Python.bind_eq_ok h
        obtain ⟨hrow, -⟩ := Prod.mk.inj (Except.ok.inj h)
        obtain rfl := Option.some.inj hrow
        exact meets_of_append hnew

/-! ### The root of a cost detail -/

namespace Resolver

variable {N : Native} {s : Session} {r : NativeRecord} {o : NativeOperation}

theorem rootPlaced_of_shipment {line shipment : Int} (h : shipmentOfLine N r line = some shipment)
    (ho : o.sourceTable = .mInOut) (hid : o.sourceRecordId = shipment) :
    rootPlaced N o r.adClientId r.adOrgId = true := by
  obtain ⟨l, hl, h⟩ := Option.bind_eq_some_iff.1 h
  obtain ⟨io, hio, h⟩ := Option.bind_eq_some_iff.1 h
  split_ifs at h with hno
  obtain rfl := Option.some.inj h
  rw [not_or, not_or, not_not, not_not, not_and_or, not_not, not_not] at hno
  simp only [rootPlaced, ho, hid, hio, Option.any_some, Bool.and_eq_true, Bool.or_eq_true,
    decide_eq_true_eq]
  exact hno.2

theorem rootPlaced_of_receipt {line receipt : Int}
    (h : N.purchaseCostRoot s r.adClientId r.adOrgId line = some receipt)
    (ho : o.sourceTable = .mInOut) (hid : o.sourceRecordId = receipt) :
    rootPlaced N o r.adClientId r.adOrgId = true := by
  have hmem : receipt ∈ N.mMatchPO.filterMap (N.purchaseCandidate s r.adClientId r.adOrgId line) := by
    rw [Native.purchaseCostRoot] at h
    split at h
    · next receipt' hone =>
      obtain rfl := Option.some.inj h
      rw [← List.mem_dedup, hone]
      exact List.mem_singleton.2 rfl
    · cases h
  obtain ⟨mp, -, h⟩ := List.mem_filterMap.1 hmem
  obtain ⟨line', -, h⟩ := Option.bind_eq_some_iff.1 h
  obtain ⟨l, -, h⟩ := Option.bind_eq_some_iff.1 h
  obtain ⟨io, hio, h⟩ := Option.bind_eq_some_iff.1 h
  split_ifs at h with hall
  obtain rfl := Option.some.inj h
  obtain ⟨-, hmp, -, hclient, horg, -⟩ := hall
  simp only [rootPlaced, ho, hid, hio, Option.any_some, Bool.and_eq_true, Bool.or_eq_true,
    decide_eq_true_eq]
  exact ⟨hclient.trans hmp, horg⟩

theorem rootPlaced_of_invoice {line invoice : Int}
    (h : N.invoiceCostRoot r.adClientId r.adOrgId line = some invoice)
    (ho : o.sourceTable = .cInvoice) (hid : o.sourceRecordId = invoice) :
    rootPlaced N o r.adClientId r.adOrgId = true := by
  obtain ⟨il, -, h⟩ := Option.bind_eq_some_iff.1 h
  obtain ⟨i, hi, h⟩ := Option.bind_eq_some_iff.1 h
  split_ifs at h with hall
  obtain rfl := Option.some.inj h
  obtain ⟨hil, hclient, horg, hcls, -⟩ := hall
  simp only [rootPlaced, ho, hid, hi, Option.any_some, Bool.and_eq_true, Bool.or_eq_true,
    decide_eq_true_eq]
  exact ⟨⟨hclient.trans hil, horg⟩, hcls⟩

/-- **The root of a cost detail** is a document of its client, and of its organisation
unless that is 0. -/
theorem rootPlaced_of_classify (hc : r.table = .mCostDetail) (h : classify N s r = some o) :
    rootPlaced N o r.adClientId r.adOrgId = true := by
  rw [classify, hc] at h
  dsimp only at h
  unfold costDetailRoot at h
  split_ifs at h with horder hinvoice
  · unfold purchaseCostRoot at h
    split_ifs at h
    split at h
    · next receipt hroot =>
      split_ifs at h
      obtain rfl := Option.some.inj h
      exact rootPlaced_of_receipt hroot rfl rfl
    · cases h
  · unfold invoiceCostRoot at h
    split_ifs at h
    split at h
    · next invoice hroot =>
      split_ifs at h
      obtain rfl := Option.some.inj h
      exact rootPlaced_of_invoice hroot rfl rfl
    · cases h
  · obtain ⟨shipment, hline, rfl⟩ := Option.map_eq_some_iff.1 h
    exact rootPlaced_of_shipment hline rfl rfl

end Resolver

/-- The root is a receipt, a shipment or an invoice. -/
theorem table_of_rootPlaced {N : Native} {o : NativeOperation} {client org : Int}
    (h : rootPlaced N o client org = true) : o.sourceTable = .mInOut ∨ o.sourceTable = .cInvoice := by
  unfold rootPlaced at h
  split at h
  · next ho => exact .inl ho
  · next ho => exact .inr ho
  · cases h

/-! ### The authority of a cost detail -/

section

variable {D : Database} {w : Callback} {c : NativeChange} {o : NativeOperation} {p : NativePlacement}
  {d : Decision} {b : FinanceBaseline}

/-- The transaction holds current authority of the operation's class for the root. -/
def Holds (D : Database) (w : Callback) (c : NativeChange) (o : NativeOperation) : Prop :=
  hasCurrent D.native (w.session w.held) o c = true

/-- The transaction is authorised for the root's own class when the derived write is
guarded. -/
def Governs (D : Database) (w : Callback) (c : NativeChange) (o : NativeOperation) : Prop :=
  D.native.hasGovernedAttribution (w.session w.guarded) c.adClientId o.sourceTable
    o.sourceRecordId = true

/-- **Everything authorises**: the Control Plane, the readiness of the company and the
documentary checks, of the reference of the operation and of its placement, which is
in force when the attribution is recorded; and the lease lasts until the derived write. -/
structure Authorises (D : Database) (w : Callback) (c : NativeChange) (o : NativeOperation)
    (p : NativePlacement) (d : Decision) (b : FinanceBaseline) : Prop where
  placement : D.registry.currentPlacement w.placed o c = some p
  client : p.adClientId = c.adClientId
  decision : ∃ reference, o.operationReference c = some reference ∧ decided w o p reference = .ok (d, b)
  inForce : D.registry.inForce w.recorded p = true
  lasts : w.guarded < min d.usableUntil (w.recorded + lease)

/-- **When a cost detail is authorised.**  It is a row with a product and an accounting
schema, in a named transaction; and either the transaction holds authority for the root,
which still governs when the derived write is guarded, or it holds none, and the cost
detail is not of organisation 0, its texts fit their columns and the root is of the class
that is authorised. -/
structure Attributable (D : Database) (w : Callback) (c : NativeChange) (o : NativeOperation)
    (d : Decision) : Prop where
  transaction : isBlank c.transactionName = false
  record : 0 ≤ c.recordId
  org : 0 ≤ c.adOrgId
  product : 0 < c.intValue "M_Product_ID"
  schema : 0 < c.intValue "C_AcctSchema_ID"
  authority : Holds D w c o ∧ Governs D w c o ∨
    ¬Holds D w c o ∧ (0 < c.adOrgId ∧ TextsFit c d) ∧
      (Governs D w c o ∨
        D.native.governedClassOf o.sourceTable o.sourceRecordId = some o.operationClass)

/-- The baseline that is decided on is of the placement's legal entity. -/
theorem decided_entity {reference : String} (h : decided w o p reference = .ok (d, b)) :
    p.legalEntityId = b.legalEntityId := by
  obtain ⟨context, -, h⟩ := Python.bind_eq_ok h
  obtain ⟨decision, -, h⟩ := Python.bind_eq_ok h
  obtain ⟨-, -, h⟩ := Python.bind_eq_ok h
  obtain ⟨baseline, -, h⟩ := Python.bind_eq_ok h
  by_cases hne : p.legalEntityId ≠ baseline.legalEntityId
  · rw [if_pos hne] at h
    cases h
  · rw [if_neg hne] at h
    obtain ⟨refreshed, -, h⟩ := Python.bind_eq_ok h
    split_ifs at h
    · cases h
    · obtain ⟨-, -, h⟩ := Python.bind_eq_ok h
      obtain ⟨-, rfl⟩ := Prod.mk.inj (Except.ok.inj h)
      exact not_not.1 hne

/-- **An attribution more** is current authority of its class for its source. -/
theorem hasGoverned_attribute (a : AttributionRow) (s : Session) (client : Int) (table : NativeTable)
    (record : Int) : (D.attribute a).native.hasGovernedAttribution s client table record =
      (D.native.hasGovernedAttribution s client table record ||
        (decide (a.txid = s.txid) && decide (a.adClientId = client) && decide (a.sourceTable = table) &&
          decide (a.sourceRecordId = record) &&
          decide (some a.operationClass = D.native.governedClassOf table record) &&
          decide (s.clock < a.authorityExpiresAt))) := by
  have hclass : (D.attribute a).native.governedClassOf table record =
      D.native.governedClassOf table record := rfl
  unfold Native.hasGovernedAttribution Native.hasCurrentAttributionFor
  rw [hclass]
  simp [Database.attribute, AttributionRow.entry]

theorem ungoverned_costDetail (hc : c.table = .mCostDetail) (hclient : 0 < c.adClientId) :
    ungoverned c = false ↔ isBlank c.transactionName = false ∧ 0 ≤ c.recordId ∧ 0 ≤ c.adOrgId := by
  have hcost : costing c.table = true := by
    rw [hc]
    decide
  simp only [ungoverned, hcost, Bool.or_eq_false_iff, Bool.not_true, Bool.and_false, decide_eq_false_iff_not,
    and_true, not_le, not_lt, hclient]
  exact and_assoc

/-- Authority that is held covers the cost detail while it governs. -/
theorem authorise_held {reference : String} (hheld : Holds D w c o) (hc : c.table = .mCostDetail)
    (hid : 0 < o.sourceRecordId) (hclient : 0 < c.adClientId) (horg : 0 ≤ c.adOrgId)
    (hroot : rootPlaced D.native o c.adClientId c.adOrgId = true) :
    (∃ x, authorise D w o c p reference = .ok x) ↔ 0 < c.intValue "M_Product_ID" ∧
      0 < c.intValue "C_AcctSchema_ID" ∧ Governs D w c o := by
  have hderived : (∃ D', appendCostDetail D (w.session w.selected) (w.session w.guarded) o c = .ok D') ↔
      0 < c.intValue "M_Product_ID" ∧ 0 < c.intValue "C_AcctSchema_ID" ∧ Governs D w c o :=
    appendCostDetail_ok_iff hc (table_of_rootPlaced hroot) hid hclient horg w.ordered.2.2.2.2 rfl hroot
  have hcurrent : hasCurrent D.native (w.session w.held) o c = true := hheld
  rw [← hderived, authorise, if_pos hcurrent, derivedRecorded, if_pos hc]
  cases appendCostDetail D (w.session w.selected) (w.session w.guarded) o c with
  | error e => simp [Except.map]
  | ok D' => simp [Except.map]

/-- **A new attribution** covers the cost detail exactly if the row can be appended and
is of the root's class. -/
theorem authorise_new {reference : String} (hnot : ¬Holds D w c o) (h : Authorises D w c o p d b)
    (hdecided : decided w o p reference = .ok (d, b)) (hc : c.table = .mCostDetail)
    (hid : 0 < o.sourceRecordId) (horg : 0 ≤ c.adOrgId)
    (hroot : rootPlaced D.native o c.adClientId c.adOrgId = true) :
    (∃ x, authorise D w o c p reference = .ok x) ↔ (0 < c.adOrgId ∧ TextsFit c d) ∧
      0 < c.intValue "M_Product_ID" ∧ 0 < c.intValue "C_AcctSchema_ID" ∧ (Governs D w c o ∨
        D.native.governedClassOf o.sourceTable o.sourceRecordId = some o.operationClass) := by
  have hclient : 0 < c.adClientId := h.client ▸ p.adClientId_pos
  have ho := table_of_rootPlaced hroot
  have hlive : (w.session w.recorded).clock < d.usableUntil := by
    have hlasts := h.lasts
    have horder := w.ordered
    show w.recorded < d.usableUntil
    omega
  obtain ⟨ids, happend⟩ := @append_ok_iff D.registry (w.session w.recorded) o c p d b w.correlation hc ho
    hid.le h.inForce h.client (decided_entity hdecided) hlive
  generalize hrow : (attributionRow (w.session w.recorded) o c p d b ids).stamped (w.session w.recorded) = row
    at happend
  have hgoverned : (D.attribute row).native.hasGovernedAttribution (w.session w.guarded) c.adClientId
      o.sourceTable o.sourceRecordId = true ↔ Governs D w c o ∨
        D.native.governedClassOf o.sourceTable o.sourceRecordId = some o.operationClass := by
    have hexpires : (w.session w.guarded).clock < row.authorityExpiresAt := by
      rw [← hrow]
      exact h.lasts
    rw [hasGoverned_attribute, Bool.or_eq_true, decide_eq_true hexpires, ← hrow]
    simp only [AttributionRow.stamped, attributionRow, Callback.session, decide_true, Bool.true_and,
      Bool.and_true]
    exact or_congr Iff.rfl (decide_eq_true_iff.trans eq_comm)
  have hderived : (∃ D', appendCostDetail (D.attribute row) (w.session w.selected) (w.session w.guarded) o c =
      .ok D') ↔ 0 < c.intValue "M_Product_ID" ∧ 0 < c.intValue "C_AcctSchema_ID" ∧
        (D.attribute row).native.hasGovernedAttribution (w.session w.guarded) c.adClientId o.sourceTable
          o.sourceRecordId = true :=
    appendCostDetail_ok_iff hc ho hid hclient horg w.ordered.2.2.2.2 rfl hroot
  have hcurrent : ¬hasCurrent D.native (w.session w.held) o c = true := hnot
  rw [← hgoverned, ← hderived, authorise, if_neg hcurrent]
  constructor
  · rintro ⟨x, hx⟩
    obtain ⟨y, hy, hx⟩ := Python.bind_eq_ok hx
    obtain rfl := Except.ok.inj (hdecided.symm.trans hy)
    obtain ⟨row', hrow', hx⟩ := Python.bind_eq_ok hx
    obtain ⟨hfits, rfl⟩ := (happend row').1 hrow'
    obtain ⟨D', hD', -⟩ := Python.bind_eq_ok hx
    rw [derivedRecorded, if_pos hc] at hD'
    exact ⟨hfits, D', hD'⟩
  · rintro ⟨hfits, D', hD'⟩
    refine ⟨(some row, D'), ?_⟩
    rw [hdecided]
    show (append D.registry (w.session w.recorded) o c p d b w.correlation >>= _) = _
    rw [(happend row).2 ⟨hfits, rfl⟩]
    show (derivedRecorded (D.attribute row) w o c >>= _) = _
    rw [derivedRecorded, if_pos hc, hD']
    rfl

/-- **A cost detail whose root is authorised is authorised itself exactly if**
`Attributable` holds of it: client-level costing only where the transaction already
holds authority for the root. -/
theorem costDetail_authorised_iff (hc : c.table = .mCostDetail)
    (hclass : Resolver.classify D.native (w.session w.classified) c.toNativeRecord = some o)
    (h : Authorises D w c o p d b) :
    (currentlyAuthorised D w c = true ∧
        ∀ row D', callback D w c = .ok (some row, D') → row.Meets D.registry) ↔
      Attributable D w c o d := by
  have hroot : rootPlaced D.native o c.adClientId c.adOrgId = true :=
    Resolver.rootPlaced_of_classify hc hclass
  have ho := table_of_rootPlaced hroot
  have hclient : 0 < c.adClientId := h.client ▸ p.adClientId_pos
  have hid : 0 < o.sourceRecordId := by
    refine Registry.sourceRecordId_pos h.placement ?_
    rw [hc]
    rcases ho with ho | ho <;> rw [ho] <;> decide
  obtain ⟨reference, href, hdecided⟩ := h.decision
  have hcallback : callback D w c =
      if ungoverned c then .error .refused else authorise D w o c p reference := by
    have hcost : ¬c.table = .other "M_Cost" := by
      rw [hc]
      decide
    have hdraft : ¬emptyDraftAllocation D.native c = true := by
      rw [emptyDraftAllocation, hc]
      simp
    rw [callback, if_neg hcost, if_neg hdraft, hclass]
    simp only [orRefused, bind, Except.bind, href, h.placement, if_pos h.client]
  have hok : currentlyAuthorised D w c = true ↔ ungoverned c = false ∧
      ∃ x, authorise D w o c p reference = .ok x := by
    rw [currentlyAuthorised, hcallback]
    cases ungoverned c
    · cases authorise D w o c p reference <;> simp
    · simp
  have hmeets : ∀ row D', callback D w c = .ok (some row, D') → row.Meets D.registry :=
    fun _ _ => meets_of_callback
  rw [and_iff_left hmeets, hok, ungoverned_costDetail hc hclient]
  by_cases hheld : Holds D w c o
  · constructor
    · rintro ⟨⟨htrx, hrec, horg⟩, hx⟩
      obtain ⟨hp, hs, hg⟩ := (authorise_held hheld hc hid hclient horg hroot).1 hx
      exact ⟨htrx, hrec, horg, hp, hs, .inl ⟨hheld, hg⟩⟩
    · rintro ⟨htrx, hrec, horg, hp, hs, ⟨-, hg⟩ | ⟨hnot, -⟩⟩
      · exact ⟨⟨htrx, hrec, horg⟩, (authorise_held hheld hc hid hclient horg hroot).2 ⟨hp, hs, hg⟩⟩
      · exact absurd hheld hnot
  · constructor
    · rintro ⟨⟨htrx, hrec, horg⟩, hx⟩
      obtain ⟨hfits, hp, hs, hg⟩ := (authorise_new hheld h hdecided hc hid horg hroot).1 hx
      exact ⟨htrx, hrec, horg, hp, hs, .inr ⟨hheld, hfits, hg⟩⟩
    · rintro ⟨htrx, hrec, horg, hp, hs, ⟨hyes, -⟩ | ⟨-, hfits, hg⟩⟩
      · exact absurd hyes hheld
      · exact ⟨⟨htrx, hrec, horg⟩,
          (authorise_new hheld h hdecided hc hid horg hroot).2 ⟨hfits, hp, hs, hg⟩⟩

end

/-! ### A client-level cost detail of a shipment -/

/-- The placement of organisation 12 of client 11. -/
def acmePlacement : NativePlacement where
  placementId := "6f1c0a54-3f1d-4a0e-9a64-0c5d3f9f7f10"
  version := 1
  tenantId := "tn_acme01"
  engineInstanceId := "ei_idem01"
  operatingOrganisationId := "0b9a7c3e-52d4-4c0b-8f26-6a1de0a4c911"
  legalEntityId := "ACME-LTD"
  market := "ZA"
  adClientId := 11
  adOrgId := 12
  placementId_uuid := by decide +kernel
  version_pos := by decide
  tenantId_canonical := by decide
  organisation_uuid := by decide +kernel
  legalEntityId_canonical := by decide
  adClientId_pos := by decide
  adOrgId_pos := by decide

theorem shipmentId_pos : (0 : Int) < 500 := by decide

/-- A placed client with a sales shipment, and a transaction without authority. -/
def placedShipment : Database where
  native := { Native.empty with
    nativePlacement := [11]
    mInOut := fun r => if r = 500 then some ⟨11, 12, some "Y", some "C-"⟩ else none
    mInOutLine := fun r => if r = 50 then some ⟨11, 500⟩ else none }
  registry :=
    { versions := [⟨acmePlacement, 0, none⟩]
      provenance := [⟨.mInOut, 500, 11, 12, acmePlacement.placementId, 1, shipmentId_pos⟩]
      activeOrgs := [(11, 12)]
      identity_eq := by
        intro v hv u hu _
        rw [List.mem_singleton.1 hv, List.mem_singleton.1 hu]
      apart := List.pairwise_singleton _ _ }
  placed := rfl

/-- A new cost detail of the shipment's line, of this organisation. -/
def costDetailOf (org : Int) : NativeChange where
  table := .mCostDetail
  adClientId := 11
  adOrgId := org
  recordId := 0
  value := fun
    | "M_InOutLine_ID" => some (.integer 50)
    | "IsSOTrx" => some (.boolean true)
    | "M_Product_ID" => some (.integer 7)
    | "C_AcctSchema_ID" => some (.integer 3)
    | _ => none
  action := "model:TYPE_BEFORE_NEW"
  transactionName := "Post_4711"

/-- The operation both are classified to. -/
def shipmentOperation : NativeOperation := ⟨.shipment, .mInOut, 500⟩

/-- The ids that the Control Plane answers with. -/
def acmeContextId : UuidText := ⟨"1d7f4a60-7c0e-4a55-9f0d-0e6b1c2d3e4f", by decide⟩
def acmeDecisionId : UuidText := ⟨"2e8a5b71-8d1f-4b66-8a1e-1f7c2d3e4f50", by decide⟩
def acmeMandateId : UuidText := ⟨"3f9b6c82-9e20-4c77-9b2f-208d3e4f5061", by decide⟩

/-- The decision of the Control Plane about the shipment. -/
def shipmentDecision : PostingDecision where
  decisionId := acmeDecisionId
  contextId := acmeContextId
  engineInstanceId := "ei_idem01"
  operationClass := "erp.shipment.complete"
  placementId := ⟨"6f1c0a54-3f1d-4a0e-9a64-0c5d3f9f7f10", by decide⟩
  placementVersion := 1
  operationReference :=
    "erp/erp.shipment.complete/M_InOut/500/M_CostDetail/0/model:TYPE_BEFORE_NEW/Post_4711"
  outcome := "AUTHORIZED"
  tenantId := some "tn_acme01"
  operatingOrganisationId := some "0b9a7c3e-52d4-4c0b-8f26-6a1de0a4c911"
  market := some "ZA"
  responsibleLegalEntityId := some "ACME-LTD"
  mandateId := some acmeMandateId
  supersedesMandateId := none
  evidenceReferences := [⟨"mandate-register/2041", by decide⟩]
  mandateEffectiveFrom := some 0
  evaluatedAt := some 1000
  expiresAt := some 20000000

/-- Nothing restricts the shipment. -/
def noRestriction : DocumentaryAssessment where
  contextId := acmeContextId
  organisationId := "0b9a7c3e-52d4-4c0b-8f26-6a1de0a4c911"
  market := "ZA"
  capability := "erp.shipment.complete"
  operationReference :=
    "erp/erp.shipment.complete/M_InOut/500/M_CostDetail/0/model:TYPE_BEFORE_NEW/Post_4711"
  blocked := false
  evaluatedAt := some 1000
  expiresAt := some 1500000

/-- A callback that everything authorises. -/
def authorisingCallback : Callback where
  txid := 1
  classified := 1000
  placed := 1001
  held := 1002
  recorded := 2000
  selected := 2001
  guarded := 2002
  context := ⟨some ⟨acmeContextId, "tn_acme01", some "0b9a7c3e-52d4-4c0b-8f26-6a1de0a4c911", some "ZA",
    some 1000, some 60000000⟩, 1100⟩
  posting := ⟨some shipmentDecision, 1200⟩
  documentary := ⟨some noRestriction, 1300⟩
  baseline := some ⟨"ACME-LTD", 1, by decide⟩
  refreshed := ⟨some shipmentDecision, 1400⟩
  documentaryAgain := ⟨some noRestriction, 1500⟩
  correlation := acmeContextId
  ordered := by decide

/-- The decision as the callback records it. -/
def recordedDecision : Decision where
  decisionId := acmeDecisionId
  contextId := acmeContextId
  mandateId := acmeMandateId
  supersedesMandateId := none
  evidenceReference := "mandate-register/2041"
  mandateEffectiveFrom := 0
  usableUntil := 20000000
  evidence_given := by decide
  evidence_length := by decide

theorem shipment_authorised {org : Int} (h : org = 0 ∨ org = 12) :
    Authorises placedShipment authorisingCallback (costDetailOf org) shipmentOperation acmePlacement
      recordedDecision ⟨"ACME-LTD", 1, by decide⟩ where
  placement := by rcases h with rfl | rfl <;> decide +kernel
  client := rfl
  decision := by
    refine ⟨"erp/erp.shipment.complete/M_InOut/500/M_CostDetail/0/model:TYPE_BEFORE_NEW/Post_4711", ?_, ?_⟩
    · rcases h with rfl | rfl <;> decide +kernel
    · decide +kernel
  inForce := by decide +kernel
  lasts := by decide

/-- **A client-level cost detail is denied** although everything authorises its root:
the attribution table takes no row of organisation 0. -/
theorem clientLevelCosting_denied :
    ¬ ∀ (D : Database) (w : Callback) (c : NativeChange) (o : NativeOperation) (p : NativePlacement)
      (d : Decision) (b : FinanceBaseline), c.table = .mCostDetail →
      D.native.clientIsPlaced c.adClientId = true →
      Resolver.classify D.native (w.session w.classified) c.toNativeRecord = some o →
      Authorises D w c o p d b →
      currentlyAuthorised D w c = true ∧
        ∀ row D', callback D w c = .ok (some row, D') → row.Meets D.registry := by
  intro h
  have hdenied := (h placedShipment authorisingCallback (costDetailOf 0) shipmentOperation acmePlacement
    recordedDecision _ rfl (by decide) (by decide +kernel) (shipment_authorised (.inl rfl))).1
  have hfalse : currentlyAuthorised placedShipment authorisingCallback (costDetailOf 0) = false := by
    decide +kernel
  rw [hfalse] at hdenied
  cases hdenied

/-- The cost detail of the shipment's own organisation. -/
theorem organisationCosting_authorised :
    (currentlyAuthorised placedShipment authorisingCallback (costDetailOf 12) = true ∧
        ∀ row D', callback placedShipment authorisingCallback (costDetailOf 12) = .ok (some row, D') →
          row.Meets placedShipment.registry) ↔
      Attributable placedShipment authorisingCallback (costDetailOf 12) shipmentOperation
        recordedDecision :=
  costDetail_authorised_iff rfl (by decide +kernel) (shipment_authorised (.inr rfl))

end NativeFinance
end BaobabErp
