/-
# Executing `trade.customer.projected`

`modules/customers/projection_execution.py`, with the mapping store of
`provisioning/master_data_mapping.py` and the event of `partner_events.py`: from
a claimed row to a business partner in the engine and the mapping that order
execution resolves its customer through.
-/

import BaobabErp.Customers.Payload
import BaobabErp.OrderToCash.InboxExecution
import BaobabErp.OrderToCash.OutcomeStore

namespace BaobabErp
namespace CustomerExecution

open Python Concurrency ExecutionPolicy Inbox

def customerProjected : String := "com.baobab-platform.trade.customer.projected.v1"

def settledInAttempt : List String := ["CREATED", "ADOPTED_NATIVE_PARTNER", "UPDATED"]

/-- `_find_marked`. -/
def findMarked (σ : Session) (text : String) : Program (Option Int) := do
  match ← Call.query σ .cBPartner text with
  | [] => pure none
  | [id] => pure (some id)
  | rows => throw (dead "DUPLICATE_NATIVE_PARTNERS"
      (toString rows.length ++ " engine partners carry the customer's marker"))

/-- `_default_group`. -/
def defaultGroup (σ : Session) : Program Int := do
  match ← Call.defaultGroups σ with
  | [id] => pure id
  | ids => throw (blocked "BP_GROUP_UNAVAILABLE" (toString ids.length ++
      " default business-partner groups in the tenant's client (exactly one is needed)"))

/-- `_numeric_version`: a mapping the bootstrapper wrote may carry any text. -/
def numericVersion (sourceVersion : String) : Int := (intOfText sourceVersion).getD 0

/-- `_update_fields`. -/
def updateFields (customer : CustomerProjection) : PartnerFields :=
  { name := customer.displayName, isActive := customer.active }

/-- The body of the create request. -/
def createFields (customer : CustomerProjection) (group : Int) (text : String) : PartnerFields :=
  { updateFields customer with
    value := some customer.customerId, bpGroupId := some group, description := some text }

/-- `PostgresMasterDataMappingStore.put`, without its own commit; answers the
public id, minted by the column default on first write. -/
def put (engineInstanceId legalEntityId kind canonicalId : String) (nativeId : Int)
    (desiredDigest sourceVersion : String) : Program String := do
  let row ← Call.upsert (.masterData engineInstanceId legalEntityId kind canonicalId)
    (fun d => ({ nativeId, desiredDigest, sourceVersion, erpResourceId := "erp_" ++ d.random } :
      MasterDataRow))
    (fun (row : MasterDataRow) => { row with nativeId, desiredDigest, sourceVersion })
  pure (MasterDataRow.erpResourceId row)

/-! ### The event -/

def eventType : String := "com.baobab-platform.erp.business-partner.changed.v1"

def namespaceId : String := "0a6e1d52-8f4b-5e07-9c1a-7b3d2e9f4a61"

/-- `business_partner_changed_event`. -/
def businessPartnerChangedEvent (H : Hashes) (tenantId legalEntityId businessPartnerId
    sourceCustomerId displayName status : String) (revision : Nat) (now : Instant)
    (correlationId : Option String) : Except String CloudEvent :=
  let data : Json := .obj
    [("legal_entity_id", .str legalEntityId), ("business_partner_id", .str businessPartnerId),
     ("source_customer_id", .str sourceCustomerId), ("roles", .arr [.str "customer"]),
     ("display_name", .str displayName), ("status", .str status), ("revision", .int revision)]
  CloudEvent.newEvent
    (H.uuid5 namespaceId ("business-partner|" ++ tenantId ++ "|" ++ businessPartnerId ++ "|" ++
      toString revision))
    eventType ("business-partner:" ++ businessPartnerId)
    (CloudEvent.correlation H namespaceId
      ("correlation|" ++ tenantId ++ "|" ++ businessPartnerId) correlationId)
    data (some tenantId) now
    (some ("erp-business-partner-" ++ businessPartnerId ++ "-r" ++ toString revision))

/-- `_announce_partner`: once per change ERP made to the partner. -/
def announcePartner (H : Hashes) (claim : Claim) (tenantId : String) (customer : CustomerProjection)
    (publicId : String) : Program Unit := do
  let now ← Call.now
  let step ← Outcome.advance tenantId .businessPartner publicId customer.status
    (.businessPartner customer.displayName customer.customerId) now
  if step.changed then
    match businessPartnerChangedEvent H tenantId customer.legalEntityId publicId
        customer.customerId customer.displayName customer.status step.revision now
        claim.correlationId with
    | .ok event => Outbox.recordEvent event
    | .error message => throw (.envelope message)
  else
    pure ()

/-! ### The attempt -/

/-- The engine half of an update: the mapped partner must still exist. -/
def updateMapped (σ : Session) (customer : CustomerProjection) (nativeId : Int) :
    Program (Int × String) := do
  let _ ← tryCatch (Call.getRecord σ "C_BPartner" nativeId) fun
    | .api 404 => throw (dead "NATIVE_PARTNER_MISSING" "the mapped engine partner no longer exists")
    | x => throw x
  Call.updateRecord σ nativeId (.partner (updateFields customer))
  pure (nativeId, "UPDATED")

/-- The engine half of a first projection: adopt the partner an earlier attempt
marked, or create one. -/
def adoptOrCreate (H : Hashes) (σ : Session) (tenantId : String) (customer : CustomerProjection) :
    Program (Int × String) := do
  let text := CustomerProjection.marker H tenantId customer.legalEntityId customer.customerId
  match ← findMarked σ text with
  | some adopted =>
    Call.updateRecord σ adopted (.partner (updateFields customer))
    pure (adopted, "ADOPTED_NATIVE_PARTNER")
  | none =>
    let group ← defaultGroup σ
    let nativeId ← Call.createRecord σ (.partner (createFields customer group text))
    pure (nativeId, "CREATED")

/-- The engine half of an attempt. -/
def nativePartner (H : Hashes) (σ : Session) (tenantId : String) (customer : CustomerProjection)
    (mapped : Option MasterDataRow) : Program (Int × String) :=
  engineErrors <|
    match mapped with
    | some mapped => updateMapped σ customer mapped.nativeId
    | none => adoptOrCreate H σ tenantId customer

/-- The one transaction of a projected customer: the mapping, the announcing
event and the inbox outcome. -/
def record (D : Deployment) (claim : Claim) (tenantId engineInstanceId : String)
    (customer : CustomerProjection) (nativeId : Int) (code : String) : Program Unit :=
  orRollback do
    let publicId ← put engineInstanceId customer.legalEntityId customerKind customer.customerId
      nativeId (customer.digest D.hashes) (toString customer.customerVersion)
    announcePartner D.hashes claim tenantId customer publicId
    processed claim code
    Call.commit

/-- The lock key of a customer. -/
def lockKey (tenantId : String) (customer : CustomerProjection) : String :=
  "baobab.customer|" ++ tenantId ++ "|" ++ customer.legalEntityId ++ "|" ++ customer.customerId

/-- The body of `_execute` for a version that has to be applied. -/
def executeNewer (D : Deployment) (claim : Claim) (tenantId engineInstanceId : String)
    (placement : TenantMappingRow) (customer : CustomerProjection)
    (mapped : Option MasterDataRow) : Program Outcome := do
  let σ ← OrderExecution.session D placement
  let (nativeId, code) ← nativePartner D.hashes σ tenantId customer mapped
  record D claim tenantId engineInstanceId customer nativeId code
  pure { status := .processed, code }

/-- The body of `_execute` under the customer's lock. -/
def executeLocked (D : Deployment) (claim : Claim) (tenantId engineInstanceId : String)
    (placement : TenantMappingRow) (customer : CustomerProjection) (held : Bool) :
    Program Outcome :=
  if held then do
    let mapped ← Call.select
      (.masterData engineInstanceId customer.legalEntityId customerKind customer.customerId)
    Call.commit
    match mapped with
    | none => executeNewer D claim tenantId engineInstanceId placement customer none
    | some (mapped : MasterDataRow) =>
      if customer.customerVersion < numericVersion mapped.sourceVersion then
        pure { status := .processed, code := "STALE_VERSION" }
      else if customer.customerVersion = numericVersion mapped.sourceVersion then
        if customer.digest D.hashes = mapped.desiredDigest then
          pure { status := .processed, code := "ALREADY_PROJECTED" }
        else throw (dead "VERSION_CONFLICT"
          "the same customer version arrived with different content")
      else executeNewer D claim tenantId engineInstanceId placement customer (some mapped)
  else
    pure { status := .retry, code := "CUSTOMER_CONTENDED",
           delaySeconds := some contentionDelaySeconds, refundAttempt := true }

/-- `_execute`. -/
def execute (D : Deployment) (claim : Claim) : Program Outcome := do
  let customer ← parsed (CustomerProjection.parseCustomerProjected claim.data)
  match claim.tenantId.filter (· != "") with
  | none => throw (dead "TENANT_MISSING" "a tenant-scoped customer event carries no tenant")
  | some tenantId =>
    let placement ← target tenantId customer.legalEntityId
    match placement.bind fun p => p.engineInstanceId.map (p, ·) with
    | none => throw (blocked "TENANT_UNMAPPED"
        "no active engine placement for the tenant and legal entity")
    | some (placement, engineInstanceId) =>
      withLock (lockKey tenantId customer)
        (executeLocked D claim tenantId engineInstanceId placement customer)

/-- `run_claim`. -/
def runClaim (D : Deployment) (claim : Claim) : Program Outcome :=
  settle claim (execute D claim) settledInAttempt

end CustomerExecution
end BaobabErp
