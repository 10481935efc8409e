/-
# The desired state of a request and the plan it produces

`modules/provisioning/planner.py`: the canonical serialisation of a request,
its digest, and the steps that provision it.
-/

import BaobabErp.Provisioning.Request
import BaobabErp.Python.Dumps

namespace BaobabErp
namespace Provisioning

open Python

/-! ### The desired state -/

/-- A `frozenset` in a document: its items in order. -/
def setDocument (R : Runtime) (xs : List Json) : Except Exc Json :=
  return .arr (← raised (Json.sortedBy R id xs))

/-- The members of `asdict(market)`; the time zones are left out where there are none. -/
def marketMembers (m : MarketConfiguration) (capabilities : Json) : List (String × Json) :=
  [("country_code", m.countryCode), ("currencies", .arr m.currencies),
    ("localisation_profile", m.localisationProfile), ("market_id", m.marketId),
    ("participation_capabilities", capabilities), ("warehouse_codes", .arr m.warehouseCodes)] ++
    if m.warehouseTimezones.isEmpty then []
    else [("warehouse_timezones", .arr (m.warehouseTimezones.map fun p => .arr [p.1, p.2]))]

/-- `asdict(market)`. -/
def marketDocument (R : Runtime) (m : MarketConfiguration) : Except Exc Json :=
  return .obj (marketMembers m (← setDocument R m.participationCapabilities))

/-- `asdict(accounting)`. -/
def accountingDocument (a : AccountingConfiguration) : Json :=
  .obj [("accounting_schema", a.accountingSchema), ("approved_at", .str a.approvedAt.str),
    ("approved_by", a.approvedBy), ("chart_of_accounts_template", a.chartOfAccountsTemplate),
    ("costing_method", a.costingMethod), ("fiscal_year_start_month", .int a.fiscalYearStartMonth),
    ("functional_currency", a.functionalCurrency), ("tax_profile", a.taxProfile)]

/-- The members of `asdict(request)`. -/
def requestMembers (r : ErpProvisioningRequest) (markets : List Json) (capabilities : Json) :
    List (String × Json) :=
  [("accounting", accountingDocument r.accounting), ("effective_date", .str r.effectiveDate.str),
    ("engine_instance_id", r.engineInstanceId), ("idempotency_key", r.idempotencyKey),
    ("isolation_requirement", r.isolationRequirement), ("jurisdiction_code", r.jurisdictionCode),
    ("legal_entity_id", r.legalEntityId), ("legal_name", r.legalName), ("markets", .arr markets),
    ("plan_digest", r.planDigest), ("provisioning_id", r.provisioningId),
    ("registration_identifier", r.registrationIdentifier),
    ("requested_capabilities", capabilities), ("target_environment", r.targetEnvironment),
    ("tenant_id", r.tenantId)]

/-- `asdict(request)`, sets as sorted lists and dates as their texts: what is
stored as the operation's desired state. -/
def desiredState (R : Runtime) (r : ErpProvisioningRequest) : Except Exc Json := do
  let markets ← r.markets.mapM (marketDocument R)
  let capabilities ← setDocument R r.requestedCapabilities
  pure (.obj (requestMembers r markets capabilities))

/-- `desired_state_json`. -/
def desiredStateJson (R : Runtime) (r : ErpProvisioningRequest) : Except Exc String :=
  return (← desiredState R r).dumps

/-- `desired_state_digest`. -/
def desiredStateDigest (H : Hashes) (R : Runtime) (r : ErpProvisioningRequest) : Except Exc String :=
  return H.sha256 (← desiredStateJson R r)

/-! ### The plan -/

/-- `timezone_of(warehouse_code)`: the last entry of the code, as in a `dict`. -/
def MarketConfiguration.timezoneOf (R : Runtime) (m : MarketConfiguration) (code : Json) :
    Except Exc Json :=
  if m.warehouseTimezones.all fun p => p.1.hashable then
    .ok (((m.warehouseTimezones.reverse.find? fun p => p.1.equal R code).map Prod.snd).getD .null)
  else .error (.other "TypeError")

/-- The step of one warehouse. -/
def warehouseStep (R : Runtime) (pre : String) (m : MarketConfiguration) (warehouse : Json) :
    Except Exc ProvisioningStep := do
  let timezone ← m.timezoneOf R warehouse
  pure ⟨pre ++ ":warehouse:" ++ OrderExecution.textOf m.marketId ++ ":" ++
      OrderExecution.textOf warehouse, .createWarehouse,
    [("market_id", m.marketId), ("warehouse_code", warehouse)] ++
      if timezone.truthy R then [("timezone", timezone)] else []⟩

/-- The steps of one market: its localisation, then its warehouses by code. -/
def marketSteps (R : Runtime) (pre : String) (m : MarketConfiguration) :
    Except Exc (List ProvisioningStep) := do
  let warehouses ← raised (Json.sortedBy R id m.warehouseCodes)
  let steps ← warehouses.mapM (warehouseStep R pre m)
  pure (⟨pre ++ ":market:" ++ OrderExecution.textOf m.marketId, .configureLocalisation,
    [("market_id", m.marketId), ("country_code", m.countryCode),
      ("profile", m.localisationProfile)]⟩ :: steps)

/-- The client and accounting steps. -/
def firstSteps (pre : String) (r : ErpProvisioningRequest) : List ProvisioningStep :=
  [⟨pre ++ ":client", .createClient, [("Name", r.legalName)]⟩,
    ⟨pre ++ ":accounting", .configureAccounting,
      [("functional_currency", r.accounting.functionalCurrency),
        ("accounting_schema", r.accounting.accountingSchema),
        ("chart_of_accounts_template", r.accounting.chartOfAccountsTemplate),
        ("fiscal_year_start_month", .int r.accounting.fiscalYearStartMonth),
        ("tax_profile", r.accounting.taxProfile), ("costing_method", r.accounting.costingMethod)]⟩]

/-- The step that writes the tenant mapping. -/
def mappingStep (pre : String) (r : ErpProvisioningRequest) : ProvisioningStep :=
  ⟨pre ++ ":mapping", .persistMapping,
    [("tenant_id", r.tenantId), ("legal_entity_id", r.legalEntityId),
      ("engine_instance_id", r.engineInstanceId), ("plan_digest", r.planDigest)]⟩

/-- The first part of every step key: the operation and twelve digits of its digest. -/
def stepPrefix (r : ErpProvisioningRequest) (digest : String) : String :=
  OrderExecution.textOf r.provisioningId ++ ":" ++ String.ofList (digest.toList.take 12)

/-- `build_plan`. -/
def buildPlan (H : Hashes) (R : Runtime) (r : ErpProvisioningRequest) :
    Except Exc ProvisioningPlan := do
  let _ ← requireValidRequest R r
  let digest ← desiredStateDigest H R r
  let pre := stepPrefix r digest
  let markets ← raised (Json.sortedBy R MarketConfiguration.marketId r.markets)
  let steps ← markets.mapM (marketSteps R pre)
  pure ⟨r.provisioningId, digest, firstSteps pre r ++ steps.flatten ++ [mappingStep pre r]⟩

end Provisioning
end BaobabErp
