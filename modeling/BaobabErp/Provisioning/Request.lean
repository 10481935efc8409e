/-
# Provisioning requests, plans and their validation

`modules/provisioning/model.py` and `validation.py`.  A request that was read
back from storage is not type-checked, so a member that the code declares as a
text is a `Json` here: a check that meets anything else raises, as in the
source.  `ErpProvisioningRequest.Typed` says of a request that it has the types
its class declares.
-/

import BaobabErp.Python.Calendar
import BaobabErp.Python.Objects
import BaobabErp.OrderToCash.InboxExecution

namespace BaobabErp
namespace Provisioning

open Python

/-- What the provisioning code raises and catches. -/
inductive Exc
  | stateUnreadable
  | stateDrift
  | engineUnconfigured
  | processUnconfigured
  | authentication
  | api (status : Nat)
  | client
  | duplicateNativeRecords
  | mappingConflict
  | warehouseIdentityConflict
  | invalidRequest (message : String)
  | assignment (message : String)
  | assignmentNotEstablished (status : Nat) (code : Option String)
  | controlPlaneUnavailable
  | notImplemented (message : String)
  | envelope (message : String)
  | value (typeName : String)
  | uniqueViolation
  | foreignKeyViolation
  | checkViolation
  | database
  | other (typeName : String)
deriving DecidableEq, Repr

/-- `ProvisioningStatus`. -/
inductive ProvisioningStatus
  | requested
  | validating
  | planned
  | applying
  | reconciling
  | ready
  | active
  | failed
  | suspended
deriving DecidableEq, Repr

def ProvisioningStatus.value : ProvisioningStatus → String
  | requested => "requested"
  | validating => "validating"
  | planned => "planned"
  | applying => "applying"
  | reconciling => "reconciling"
  | ready => "ready"
  | active => "active"
  | failed => "failed"
  | suspended => "suspended"

/-- `StepKind`. -/
inductive StepKind
  | createClient
  | createOrganisation
  | configureAccounting
  | configureLocalisation
  | createWarehouse
  | persistMapping
deriving DecidableEq, Repr

namespace StepKind

def value : StepKind → String
  | createClient => "create_client"
  | createOrganisation => "create_organisation"
  | configureAccounting => "configure_accounting"
  | configureLocalisation => "configure_localisation"
  | createWarehouse => "create_warehouse"
  | persistMapping => "persist_mapping"

def all : List StepKind :=
  [createClient, createOrganisation, configureAccounting, configureLocalisation, createWarehouse,
    persistMapping]

/-- `StepKind(value)`. -/
def ofJson : Json → Except Exc StepKind
  | .str s => match all.find? fun k => k.value == s with
    | some k => .ok k
    | none => .error (.value "ValueError")
  | _ => .error (.value "ValueError")

theorem ofJson_value (k : StepKind) : ofJson (.str k.value) = .ok k := by cases k <;> rfl

end StepKind

/-- `MarketConfiguration`. -/
structure MarketConfiguration where
  marketId : Json
  countryCode : Json
  participationCapabilities : List Json
  currencies : List Json
  localisationProfile : Json
  warehouseCodes : List Json
  warehouseTimezones : List (Json × Json)

/-- `AccountingConfiguration`. -/
structure AccountingConfiguration where
  functionalCurrency : Json
  fiscalYearStartMonth : Int
  chartOfAccountsTemplate : Json
  accountingSchema : Json
  taxProfile : Json
  costingMethod : Json
  approvedBy : Json
  approvedAt : DateTime

/-- `ErpProvisioningRequest`. -/
structure ErpProvisioningRequest where
  provisioningId : Json
  idempotencyKey : Json
  tenantId : Json
  legalEntityId : Json
  legalName : Json
  registrationIdentifier : Json
  jurisdictionCode : Json
  engineInstanceId : Json
  isolationRequirement : Json
  planDigest : Json
  targetEnvironment : Json
  effectiveDate : Date
  accounting : AccountingConfiguration
  markets : List MarketConfiguration
  requestedCapabilities : List Json

/-- `ProvisioningStep`. -/
structure ProvisioningStep where
  key : String
  kind : StepKind
  payload : List (String × Json)

/-- `ProvisioningPlan`. -/
structure ProvisioningPlan where
  provisioningId : Json
  desiredStateDigest : String
  steps : List ProvisioningStep

/-- `ReadinessCheck`. -/
structure ReadinessCheck where
  code : String
  ready : Bool
  detail : String
deriving DecidableEq, Repr

/-- What an operation on JSON values raises, as an exception of this code. -/
def raised {α : Type} : Raises α → Except Exc α
  | .ok a => .ok a
  | .error "ValueError" => .error (.value "ValueError")
  | .error name => .error (.other name)

/-! ### The declared types -/

/-- A value that is a text. -/
def IsText (j : Json) : Prop := ∃ s, j = .str s

/-- A `frozenset[str]`: its texts in order, each once. -/
def IsTextSet (xs : List Json) : Prop :=
  ∃ texts : List String, xs = texts.map .str ∧ texts.Pairwise (· < ·)

/-- A `tuple[str, …]`. -/
def IsTexts (xs : List Json) : Prop := ∀ x ∈ xs, IsText x

def MarketConfiguration.Typed (m : MarketConfiguration) : Prop :=
  IsText m.marketId ∧ IsText m.countryCode ∧ IsTextSet m.participationCapabilities ∧
    IsTexts m.currencies ∧ IsText m.localisationProfile ∧ IsTexts m.warehouseCodes ∧
    ∀ p ∈ m.warehouseTimezones, IsText p.1 ∧ IsText p.2

def AccountingConfiguration.Typed (a : AccountingConfiguration) : Prop :=
  IsText a.functionalCurrency ∧ IsText a.chartOfAccountsTemplate ∧ IsText a.accountingSchema ∧
    IsText a.taxProfile ∧ IsText a.costingMethod ∧ IsText a.approvedBy

/-- **A request with the types its class declares.** -/
def ErpProvisioningRequest.Typed (r : ErpProvisioningRequest) : Prop :=
  IsText r.provisioningId ∧ IsText r.idempotencyKey ∧ IsText r.tenantId ∧ IsText r.legalEntityId ∧
    IsText r.legalName ∧ IsText r.registrationIdentifier ∧ IsText r.jurisdictionCode ∧
    IsText r.engineInstanceId ∧ IsText r.isolationRequirement ∧ IsText r.planDigest ∧
    IsText r.targetEnvironment ∧ r.accounting.Typed ∧ (∀ m ∈ r.markets, m.Typed) ∧
    IsTextSet r.requestedCapabilities

/-! ### `validate_request` -/

def supportedCapabilities : List String := ["finance.order-consequence.process"]

def isolationRequirements : List String := ["schema_per_tenant", "row_level_security"]

def marketCapabilities : List String :=
  ["legal_presence", "sourcing", "procurement", "selling", "importing", "exporting", "warehousing",
    "distribution", "fulfilment", "processing", "transit"]

/-- `datetime.min.replace(tzinfo=timezone.utc)`. -/
def pendingDatetime : DateTime :=
  ⟨⟨1, 1, 1, by decide⟩, 0, 0, 0, 0, some 0, DateTime.midnight_valid⟩

/-- `date.min`. -/
def pendingDate : Date := ⟨1, 1, 1, by decide⟩

def isPlaceholder (s : String) : Bool := "REQUIRED_".toList.isPrefixOf s.toList

/-- A text member, which must be there and no placeholder. -/
def textCheck (code : String) (value : Json) : Except Exc ReadinessCheck :=
  match value with
  | .str s =>
    let valid := strip s != "" && !isPlaceholder s
    .ok ⟨code, valid, if valid then "configured" else "missing or placeholder"⟩
  | _ => .error (.other "AttributeError")

/-- `value or other`, of a value that becomes a text. -/
def textOr (R : Runtime) (value : Json) (other : String) : String :=
  if value.truthy R then OrderExecution.textOf value else other

/-- `sep.join(xs)`. -/
def join (sep : String) (xs : List Json) : Except Exc String :=
  if Json.allText xs then .ok (sep.intercalate (xs.filterMap Json.str?)) else .error (.other "TypeError")

/-- `sorted(xs - allowed)`. -/
def notAllowed (R : Runtime) (xs : List Json) (allowed : List String) : Except Exc (List Json) :=
  raised (Json.sortedBy R id (xs.filter fun x => !(x.str?.any allowed.contains)))

/-- `len(code) == 3 and code.isupper()`. -/
def isCurrencyCode (R : Runtime) : Json → Except Exc Bool
  | .str s => .ok (s.length == 3 && R.isUpper s)
  | .arr xs => if xs.length = 3 then .error (.other "AttributeError") else .ok false
  | .obj ms => if ms.length = 3 then .error (.other "AttributeError") else .ok false
  | _ => .error (.other "TypeError")

/-- `all(p(x) for x in xs)`, which stops at the first failure. -/
def allM (p : Json → Except Exc Bool) : List Json → Except Exc Bool
  | [] => .ok true
  | x :: xs => do
    if ← p x then allM p xs else pure false

/-- `bool(value) and not value.startswith("REQUIRED_")`. -/
def localisationValid (R : Runtime) (value : Json) : Except Exc Bool :=
  if value.truthy R then
    match value with
    | .str s => .ok (!isPlaceholder s)
    | _ => .error (.other "AttributeError")
  else .ok false

/-- `not code.startswith("REQUIRED_")`. -/
def warehouseCodeValid : Json → Except Exc Bool
  | .str s => .ok (!isPlaceholder s)
  | _ => .error (.other "AttributeError")

/-- The five checks of one market. -/
def marketChecks (R : Runtime) (seen : List Json) (m : MarketConfiguration) :
    Except Exc (List ReadinessCheck) := do
  if !m.marketId.hashable then throw (.other "TypeError")
  let pre := "market." ++ OrderExecution.textOf m.marketId
  let unique := !seen.any (Json.equal R m.marketId)
  let unknown ← notAllowed R m.participationCapabilities marketCapabilities
  let unknownText ← if unknown.isEmpty then pure "" else join ", " unknown
  let localisation ← localisationValid R m.localisationProfile
  let currencies ← if m.currencies.isEmpty then pure false else allM (isCurrencyCode R) m.currencies
  let currencyText ← join "," m.currencies
  let warehouses ← if m.warehouseCodes.isEmpty then pure false
    else allM warehouseCodeValid m.warehouseCodes
  let warehouseText ← join "," m.warehouseCodes
  pure
    [⟨pre ++ ".unique", unique, if unique then "unique" else "duplicate"⟩,
      ⟨pre ++ ".capabilities", unknown.isEmpty,
        if unknown.isEmpty then "valid" else "unknown: " ++ unknownText⟩,
      ⟨pre ++ ".localisation", localisation, textOr R m.localisationProfile "missing"⟩,
      ⟨pre ++ ".currencies", currencies, if currencyText = "" then "missing" else currencyText⟩,
      ⟨pre ++ ".warehouses", warehouses,
        if warehouseText = "" then "missing" else warehouseText⟩]

/-- The checks of the markets, in order. -/
def allMarketChecks (R : Runtime) : List Json → List MarketConfiguration →
    Except Exc (List ReadinessCheck)
  | _, [] => .ok []
  | seen, m :: ms => do
    let checks ← marketChecks R seen m
    let rest ← allMarketChecks R (m.marketId :: seen) ms
    pure (checks ++ rest)

/-- The check of the requested capabilities. -/
def capabilityCheck (R : Runtime) (requested : List Json) : Except Exc ReadinessCheck := do
  let unsupported ← notAllowed R requested supportedCapabilities
  let ok := !requested.isEmpty && unsupported.isEmpty
  let detail ← if ok then pure "supported"
    else if requested.isEmpty then pure "none requested"
    else do pure ("unsupported: " ++ (← join ", " unsupported))
  pure ⟨"capabilities.supported", ok, detail⟩

/-- `approved_by.strip()` is not empty. -/
def approvalRecorded : Json → Bool
  | .str s => strip s != ""
  | _ => false

/-- `validate_request`. -/
def validateRequest (R : Runtime) (r : ErpProvisioningRequest) : Except Exc (List ReadinessCheck) := do
  let required ← [("provisioning_id", r.provisioningId), ("idempotency_key", r.idempotencyKey),
      ("tenant_id", r.tenantId), ("legal_entity_id", r.legalEntityId), ("legal_name", r.legalName),
      ("registration_identifier", r.registrationIdentifier),
      ("jurisdiction_code", r.jurisdictionCode), ("engine_instance_id", r.engineInstanceId),
      ("isolation_requirement", r.isolationRequirement), ("plan_digest", r.planDigest),
      ("accounting.approved_by", r.accounting.approvedBy)].mapM
    fun (name, value) => textCheck ("required." ++ name) value
  let accounting ← [("functional_currency", r.accounting.functionalCurrency),
      ("chart_of_accounts_template", r.accounting.chartOfAccountsTemplate),
      ("accounting_schema", r.accounting.accountingSchema), ("tax_profile", r.accounting.taxProfile),
      ("costing_method", r.accounting.costingMethod)].mapM
    fun (name, value) => textCheck ("accounting." ++ name) value
  let capabilities ← capabilityCheck R r.requestedCapabilities
  let month := r.accounting.fiscalYearStartMonth
  let recorded := approvalRecorded r.accounting.approvedBy
  let approvedAt := !r.accounting.approvedAt.same pendingDatetime
  let markets ← allMarketChecks R [] r.markets
  pure (required ++
    ⟨"environment.production", r.targetEnvironment.str? == some "production",
      "target=" ++ OrderExecution.textOf r.targetEnvironment⟩ ::
    (accounting ++
    capabilities ::
    ⟨"isolation.requirement", r.isolationRequirement.str?.any isolationRequirements.contains,
      textOr R r.isolationRequirement "missing"⟩ ::
    ⟨"accounting.fiscal_year", 1 ≤ month && month ≤ 12, "start_month=" ++ toString month⟩ ::
    ⟨"accounting.approval", recorded,
      if recorded then "finance approval recorded" else "finance approval required"⟩ ::
    ⟨"accounting.approved_at", approvedAt,
      if approvedAt then "recorded" else "missing or placeholder"⟩ ::
    ⟨"effective_date", r.effectiveDate ≠ pendingDate,
      if r.effectiveDate ≠ pendingDate then "recorded" else "missing or placeholder"⟩ ::
    markets))

/-- `require_valid_request`. -/
def requireValidRequest (R : Runtime) (r : ErpProvisioningRequest) :
    Except Exc (List ReadinessCheck) := do
  let checks ← validateRequest R r
  let failures := checks.filter fun c => !c.ready
  if failures.isEmpty then pure checks
  else throw (.invalidRequest ("; ".intercalate (failures.map fun c => c.code ++ ": " ++ c.detail)))

end Provisioning
end BaobabErp
