/-
# From an approved assignment to a provisioning request

`modules/provisioning/cp_contract.py`, `legal_entity_policy.py`,
`finance_baseline.py` and `authoritative_service.py`: what Control Plane assigns,
what ERP adds of its own (native placement, the Finance baseline, the markets'
configuration), and the request the two make.
-/

import BaobabErp.Provisioning.OperationRequest
import Mathlib.Data.List.Dedup

namespace BaobabErp
namespace Python

/-- The instant of an aware `datetime`, `none` of a naive one. -/
def DateTime.instant (t : DateTime) : Option Instant :=
  t.offset.map fun o => t.wallClock - o - 719163 * 86400000000

end Python

namespace Provisioning

open Python

/-- `CpMarketAssignment`. -/
structure CpMarketAssignment where
  market : String
  activities : List String

/-- `CpErpAssignment`, without `issued_at`, which nothing reads. -/
structure CpErpAssignment where
  tenantId : String
  tenantProvisioningId : String
  planId : String
  planVersion : Int
  planDigest : String
  legalEntityId : String
  legalName : String
  jurisdictionCode : String
  registrationIdentifiers : List (List (String × Json))
  verificationState : String
  markets : List CpMarketAssignment
  engineId : String
  engineInstanceId : String
  isolationRequirement : String
  capabilities : List String
  expiresAt : Instant

namespace CpErpAssignment

/-- `validate`. -/
def validate (a : CpErpAssignment) (now : Instant) : Except Exc Unit := do
  let missing := [("tenant_id", a.tenantId), ("tenant_provisioning_id", a.tenantProvisioningId),
    ("plan_id", a.planId), ("plan_digest", a.planDigest), ("legal_entity_id", a.legalEntityId),
    ("legal_name", a.legalName), ("jurisdiction_code", a.jurisdictionCode),
    ("engine_instance_id", a.engineInstanceId),
    ("isolation_requirement", a.isolationRequirement)].filter fun m => strip m.2 == ""
  if !missing.isEmpty then
    throw (.assignment ("missing authoritative assignment fields: " ++
      ", ".intercalate (missing.map Prod.fst)))
  if a.planVersion < 1 then throw (.assignment "plan_version must be an integer >= 1")
  if a.engineId ≠ "baobab-erp" then
    throw (.assignment ("the assignment is for engine '" ++ a.engineId ++ "', not 'baobab-erp'"))
  if a.verificationState ≠ "VERIFIED" then
    throw (.assignment "the legal entity is not VERIFIED")
  if a.expiresAt ≤ now then throw (.assignment "authoritative CP assignment has expired")
  if a.markets.isEmpty then
    throw (.assignment "at least one CP-authorised market assignment is required")
  if (a.markets.map CpMarketAssignment.market).dedup.length ≠ a.markets.length then
    throw (.assignment "duplicate market in CP assignment")
  if a.capabilities.isEmpty then throw (.assignment "the assignment binds no capability")

/-- `registration_identifier`. -/
def registrationIdentifier (a : CpErpAssignment) : Except Exc String :=
  let found := a.registrationIdentifiers.filter fun i =>
    (Json.get i "type").str? == some "COMPANY_REGISTRATION"
  match found with
  | [i] =>
    let value := OrderExecution.textOf ((i.lookup "value").getD (.str ""))
    if strip value = "" then .error (.assignment
      "the legal entity needs exactly one COMPANY_REGISTRATION identifier, found 1")
    else .ok value
  | _ => .error (.assignment ("the legal entity needs exactly one COMPANY_REGISTRATION " ++
      "identifier, found " ++ toString found.length))

/-- `provisioning_record_id`. -/
def provisioningRecordId (a : CpErpAssignment) : String :=
  a.tenantProvisioningId ++ "." ++ a.legalEntityId ++ ".v" ++ toString a.planVersion

/-- `idempotency_key`. -/
def idempotencyKey (H : Hashes) (a : CpErpAssignment) : String :=
  "erp-prov-" ++ H.sha256 (a.tenantProvisioningId ++ "|" ++ a.legalEntityId ++ "|" ++ a.planId ++
    "|" ++ toString a.planVersion ++ "|" ++ a.planDigest)

end CpErpAssignment

/-! ### What ERP adds -/

/-- `FinancialConfigurationBaseline`. -/
structure FinancialConfigurationBaseline where
  legalEntityId : String
  version : Int
  functionalCurrency : String
  fiscalYearStartMonth : Int
  chartOfAccountsTemplate : String
  accountingSchema : String
  taxProfile : String
  costingMethod : String
  effectiveFrom : Date
  approvedBy : String
  approvedAt : DateTime
  evidenceReference : String

/-- `baseline_id_for`. -/
def baselineIdFor (H : Hashes) (legalEntityId : String) : String :=
  "fb_" ++ String.ofList ((H.sha256 legalEntityId).toList.take 32)

/-- `approved_at.astimezone(utc).isoformat(timespec="microseconds")`, with a final `Z`. -/
def microsecondText (t : Instant) : String :=
  dateTimeText t ++ "." ++ padded 6 (t - t.fdiv 1000000 * 1000000) ++ "Z"

/-- The canonical document of a baseline. -/
def baselineDocument (b : FinancialConfigurationBaseline) (approvedAt : Instant) : Json :=
  .obj [("legal_entity_id", .str b.legalEntityId), ("version", .int b.version),
    ("functional_currency", .str b.functionalCurrency),
    ("fiscal_year_start_month", .int b.fiscalYearStartMonth),
    ("chart_of_accounts_template", .str b.chartOfAccountsTemplate),
    ("accounting_schema", .str b.accountingSchema), ("tax_profile", .str b.taxProfile),
    ("costing_method", .str b.costingMethod), ("effective_from", .str b.effectiveFrom.str),
    ("approved_by", .str b.approvedBy), ("approved_at", .str (microsecondText approvedAt)),
    ("evidence_reference", .str b.evidenceReference)]

/-- `ErpMarketConfiguration`. -/
structure ErpMarketConfiguration where
  currencies : List String
  localisationProfile : String
  warehouseCodes : List String := []
  warehouseTimezones : List (String × String) := []

/-- `NativeClientMode`. -/
inductive NativeClientMode
  | dedicatedClient
  | existingClient
deriving DecidableEq, Repr

def NativeClientMode.value : NativeClientMode → String
  | dedicatedClient => "dedicated_client"
  | existingClient => "existing_client"

/-- `NativePlacement`. -/
structure NativePlacement where
  nativeClientKey : String
  mode : NativeClientMode := .dedicatedClient

/-- `ProvisioningDependencies`, without Control Plane and the clock. -/
structure ProvisioningDependencies where
  nativePlacement : String → Option NativePlacement
  marketConfiguration : String → Option ErpMarketConfiguration
  targetEnvironment : String

/-- `native_boundary`: the mode of the placement. -/
def nativeBoundary (P : ProvisioningDependencies) (a : CpErpAssignment) (now : Instant) :
    Except Exc NativeClientMode := do
  a.validate now
  match P.nativePlacement a.legalEntityId with
  | none => throw (.assignment
      ("no ERP native placement is configured for legal entity '" ++ a.legalEntityId ++ "'"))
  | some placement =>
    if strip placement.nativeClientKey = "" then
      throw (.assignment "native placement has an empty native_client_key")
    pure placement.mode

/-- The market of `materialize_request`. -/
def materializeMarket (R : Runtime) (P : ProvisioningDependencies) (m : CpMarketAssignment) :
    Except Exc MarketConfiguration :=
  match P.marketConfiguration m.market with
  | none => .error (.assignment ("no ERP market configuration for '" ++ m.market ++ "'"))
  | some configured => .ok
      { marketId := .str m.market, countryCode := .str m.market
        participationCapabilities := (Json.sortedTexts (m.activities.map R.lower)).map .str
        currencies := configured.currencies.map .str
        localisationProfile := .str configured.localisationProfile
        warehouseCodes := configured.warehouseCodes.map .str
        warehouseTimezones := configured.warehouseTimezones.map fun p => (.str p.1, .str p.2) }

/-- `materialize_request`. -/
def materializeRequest (H : Hashes) (R : Runtime) (P : ProvisioningDependencies)
    (a : CpErpAssignment) (b : FinancialConfigurationBaseline) (now : Instant) :
    Except Exc ErpProvisioningRequest := do
  a.validate now
  let markets ← (a.markets.insertionSort fun m n => m.market ≤ n.market).mapM (materializeMarket R P)
  let registration ← a.registrationIdentifier
  pure
    { provisioningId := .str a.provisioningRecordId, idempotencyKey := .str (a.idempotencyKey H)
      tenantId := .str a.tenantId, legalEntityId := .str a.legalEntityId
      legalName := .str a.legalName, registrationIdentifier := .str registration
      jurisdictionCode := .str a.jurisdictionCode, engineInstanceId := .str a.engineInstanceId
      isolationRequirement := .str a.isolationRequirement, planDigest := .str a.planDigest
      targetEnvironment := .str P.targetEnvironment, effectiveDate := b.effectiveFrom
      accounting :=
        { functionalCurrency := .str b.functionalCurrency
          fiscalYearStartMonth := b.fiscalYearStartMonth
          chartOfAccountsTemplate := .str b.chartOfAccountsTemplate
          accountingSchema := .str b.accountingSchema, taxProfile := .str b.taxProfile
          costingMethod := .str b.costingMethod, approvedBy := .str b.approvedBy
          approvedAt := b.approvedAt }
      markets
      requestedCapabilities := (Json.sortedTexts a.capabilities).map .str }

/-- `AuthoritativeProvisioningRequestFactory.build`, of the assignment that was
read and the baseline that was referenced for this legal entity. -/
def buildRequest (H : Hashes) (R : Runtime) (P : ProvisioningDependencies) (tenantId : String)
    (legalEntityId : String) (a : CpErpAssignment) (baseline : Option FinancialConfigurationBaseline)
    (now : Instant) : Except Exc ErpProvisioningRequest := do
  if a.tenantId ≠ tenantId || a.legalEntityId ≠ legalEntityId then
    throw (.assignment "Control Plane returned a cross-boundary ERP assignment")
  let mode ← nativeBoundary P a now
  if mode ≠ .dedicatedClient then
    throw (.notImplemented ("native_client_mode='" ++ mode.value ++ "' is not supported by the " ++
      "provisioning adapter (only dedicated_client creates a real AD_Client today)"))
  match baseline with
  | none => throw (.assignment
      ("no Finance-approved baseline is in force for '" ++ legalEntityId ++ "'"))
  | some b =>
    if b.legalEntityId ≠ legalEntityId then
      throw (.assignment "the Finance baseline belongs to another legal entity")
    materializeRequest H R P a b now

/-! ### The requests that are built -/

theorem sortedTexts_pairwise (texts : List String) : (Json.sortedTexts texts).Pairwise (· < ·) := by
  have hle := List.pairwise_insertionSort (· ≤ ·) texts
  have hne := List.nodup_dedup (texts.insertionSort (· ≤ ·))
  exact ((hle.sublist (List.dedup_sublist _)).and hne).imp fun h => lt_of_le_of_ne h.1 h.2

theorem isTextSet_sortedTexts (texts : List String) :
    IsTextSet ((Json.sortedTexts texts).map .str) :=
  ⟨_, rfl, sortedTexts_pairwise texts⟩

theorem isTexts_map (texts : List String) : IsTexts (texts.map .str) := by
  intro x hx
  obtain ⟨s, -, rfl⟩ := List.mem_map.1 hx
  exact ⟨s, rfl⟩

theorem materializeMarket_typed {R : Runtime} {P : ProvisioningDependencies}
    {m : CpMarketAssignment} {market : MarketConfiguration}
    (h : materializeMarket R P m = .ok market) : market.Typed := by
  unfold materializeMarket at h
  split at h
  · cases h
  · rename_i configured hc
    obtain rfl := Except.ok.inj h
    refine ⟨⟨_, rfl⟩, ⟨_, rfl⟩, isTextSet_sortedTexts _, isTexts_map _, ⟨_, rfl⟩, isTexts_map _, ?_⟩
    intro p hp
    obtain ⟨q, -, rfl⟩ := List.mem_map.1 hp
    exact ⟨⟨_, rfl⟩, ⟨_, rfl⟩⟩

end Provisioning
end BaobabErp
