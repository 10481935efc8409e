/-
# Applying a plan's steps to the engine

`modules/provisioning/idempiere_adapter.py`.  A native record is found by the id
that was recorded for its step, else by the marker the step wrote into it, and
only then created; the tenant mapping is written by the last step, from the
`AD_Client` the first one recorded.
-/

import BaobabErp.Provisioning.CommandStore

namespace BaobabErp
namespace Provisioning

open Python Concurrency

/-- A value as the parameter of a statement on a text column. -/
def textParam : Json → Program String
  | .str s => pure s
  | _ => throw (.other "ProgrammingError")

/-- `payload[name]`. -/
def payloadItem (step : ProvisioningStep) (name : String) : Program Json :=
  match step.payload.lookup name with
  | some value => pure value
  | none => throw (.other "KeyError")

/-- `ConfirmingTenantMappings.create_mapping` (`execution_store.py`), with the
`INSERT` of `PostgresTenantMappingStore`. -/
def createMapping (tenant entity : String) (adClientId adOrgId : Int) (engineInstance : String) :
    Program Unit := do
  match ← Call.sql (.selectForUpdate (.tenantMapping tenant entity)) with
  | none =>
    if strip engineInstance = "" then throw (.value "ValueError")
    tryCatch
      (do
        let _ ← Call.sql (.insert (.tenantMapping tenant entity) fun _ =>
          ({ adClientId, adOrgId, engineInstanceId := some engineInstance } : TenantMappingRow))
        pure ())
      fun
        | .uniqueViolation => throw .mappingConflict
        | x => throw x
  | some (existing : TenantMappingRow) =>
    if existing ≠ { adClientId, adOrgId, engineInstanceId := some engineInstance } then
      throw .mappingConflict

namespace IdempiereAdapter

/-- `_resource_key`. -/
def resourceKey (step : ProvisioningStep) : String := step.kind.value ++ ":" ++ step.key

/-- `_client_alias_key`. -/
def clientAliasKey : String := "AD_Client:primary"

/-- The text every marker starts with. -/
def markerPrefix : String := "baobab-provisioning:"

/-- `_marker`. -/
def marker (step : ProvisioningStep) : Except Exc String :=
  let marker := markerPrefix ++ step.key
  if 255 < marker.length then .error (.value "ValueError") else .ok marker

/-- `_safe_value`. -/
def safeValue : Json → Except Exc Json
  | .str s => .ok (.str (String.ofList ((s.toList.map fun c => if c = '_' then '-' else c).take 40)))
  | _ => .error (.other "AttributeError")

/-- `_table`. -/
def table : StepKind → Option String
  | .createClient => some "AD_Client"
  | .createOrganisation => some "AD_Org"
  | .createWarehouse => some "M_Warehouse"
  | _ => none

/-- `_find_marked`. -/
def findMarked (σ : Session) (table marker : String) : Program (Option Int) := do
  match ← Call.query σ table marker with
  | [] => pure none
  | [id] => pure (some id)
  | _ => throw .duplicateNativeRecords

/-- What a create step returns. -/
def createResult (table : String) (id : Int) (reused : Bool) (adopted : Bool) : Json :=
  .obj ([("table", .str table), ("id", .int id), ("reused", .bool reused)] ++
    if adopted then [("adopted", .bool true)] else [])

/-- `_create_once`; answers the id with the result. -/
def createOnce (σ : Session) (request : ErpProvisioningRequest) (step : ProvisioningStep)
    (table : String) (fields : List (String × Json)) : Program (Int × Json) := do
  let pid ← textParam request.provisioningId
  match ← NativeMappings.getNativeId pid (resourceKey step) with
  | some existing => do
    let _ ← Call.getRecord σ table existing
    pure (existing, createResult table existing true false)
  | none => do
    let marker ← orRaise (marker step)
    match ← findMarked σ table marker with
    | some adopted => do
      NativeMappings.putNativeId pid (resourceKey step) adopted
      pure (adopted, createResult table adopted true true)
    | none => do
      let id ← Call.createRecord σ table (Json.insertMember fields "Description" (.str marker))
      NativeMappings.putNativeId pid (resourceKey step) id
      pure (id, createResult table id false false)

/-- `_mark_applied`: 1 is no record id, only a mark. -/
def markApplied (request : ErpProvisioningRequest) (step : ProvisioningStep) : Program Unit := do
  let pid ← textParam request.provisioningId
  NativeMappings.putNativeId pid (resourceKey step) 1

/-- `_create_client`. -/
def createClient (σ : Session) (request : ErpProvisioningRequest) (step : ProvisioningStep) :
    Program Json := do
  let value ← orRaise (safeValue request.legalEntityId)
  let (id, result) ← createOnce σ request step "AD_Client"
    [("Name", request.legalName), ("Value", value), ("IsActive", .bool true)]
  let pid ← textParam request.provisioningId
  NativeMappings.putNativeId pid clientAliasKey id
  pure result

/-- `fields.setdefault(name, value)`. -/
def setDefault (fields : List (String × Json)) (name : String) (value : Json) :
    List (String × Json) :=
  if (fields.lookup name).isSome then fields else fields ++ [(name, value)]

/-- `_create_org`. -/
def createOrg (σ : Session) (request : ErpProvisioningRequest) (step : ProvisioningStep) :
    Program Json := do
  let value ← orRaise (safeValue request.legalEntityId)
  let fields := setDefault (setDefault (setDefault step.payload "Name" request.legalName)
    "Value" value) "IsActive" (.bool true)
  return (← createOnce σ request step "AD_Org" fields).2

/-- `_create_warehouse`. -/
def createWarehouse (σ : Session) (request : ErpProvisioningRequest) (step : ProvisioningStep) :
    Program Json := do
  let code ← payloadItem step "warehouse_code"
  return (← createOnce σ request step "M_Warehouse"
    [("Name", code), ("Value", code), ("IsActive", .bool true)]).2

/-- `_configure_accounting` and `_configure_localisation`, which differ in the
text of the error only. -/
def configure (D : ProvisioningDeployment) (σ : Session) (request : ErpProvisioningRequest)
    (step : ProvisioningStep) : Program Json := do
  let value := Json.get step.payload "process_id"
  if value.isNull then throw (.value "ValueError")
  let process ← orRaise (raised (value.toInt D.runtime))
  let result ← Call.executeProcess σ process step.payload
  markApplied request step
  pure (.obj [("process_id", .int process), ("result", result)])

/-- `_persist_mapping`, with the worker's `tenant_mappings`. -/
def persistMapping (request : ErpProvisioningRequest) (step : ProvisioningStep) : Program Json := do
  markApplied request step
  let pid ← textParam request.provisioningId
  match ← NativeMappings.getNativeId pid clientAliasKey with
  | none => throw (.value "ValueError")
  | some adClientId => do
    match Json.get step.payload "engine_instance_id" with
    | .str engineInstance => do
      if strip engineInstance = "" then throw (.value "ValueError")
      let tenant ← textParam (← payloadItem step "tenant_id")
      let entity ← textParam (← payloadItem step "legal_entity_id")
      createMapping tenant entity adClientId 0 engineInstance
      pure (.obj [("canonical", .obj step.payload), ("persisted", .bool true),
        ("tenant_mapping", .obj [("ad_client_id", .int adClientId), ("ad_org_id", .int 0),
          ("engine_instance_id", .str engineInstance)])])
    | _ => throw (.value "ValueError")

/-- `apply`. -/
def apply (D : ProvisioningDeployment) (σ : Session) (request : ErpProvisioningRequest)
    (step : ProvisioningStep) : Program Json :=
  match step.kind with
  | .createClient => createClient σ request step
  | .createOrganisation => createOrg σ request step
  | .configureAccounting => configure D σ request step
  | .configureLocalisation => configure D σ request step
  | .createWarehouse => createWarehouse σ request step
  | .persistMapping => persistMapping request step

/-- `check`. -/
def check (D : ProvisioningDeployment) (σ : Session) (request : ErpProvisioningRequest)
    (step : ProvisioningStep) : Program ReadinessCheck := do
  let code := "idempiere." ++ step.kind.value
  let pid ← textParam request.provisioningId
  let native ← NativeMappings.getNativeId pid (resourceKey step)
  match table step.kind with
  | none => pure ⟨code, native.isSome, if native.isSome then "applied" else "not applied"⟩
  | some table =>
    match native with
    | none => pure ⟨code, false, "native mapping missing"⟩
    | some id => do
      tryCatch
        (do
          let record ← Call.getRecord σ table id
          let active := match record.lookup "IsActive" with
            | some value => value.truthy D.runtime
            | none => true
          pure ⟨code, active, table ++ ":" ++ toString id⟩)
        fun _ => pure ⟨code, false, "native record unavailable"⟩

end IdempiereAdapter

end Provisioning
end BaobabErp
