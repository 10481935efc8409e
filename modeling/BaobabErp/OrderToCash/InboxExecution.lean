/-
# Executing `trade.order.placed`

`modules/order_to_cash/inbox_execution.py`, with `sales_order_fields` and the
native-action permit of `service.py` and `native_action_gate.py`: from a claimed
row to a sales order in the engine, the consequence record, its event and the
row's outcome.

The engine write and ERP's transaction are two steps.  An attempt holds the
order's session lock around both, looks the order up by its POReference before
it creates one, and writes ERP's rows and the settlement in one transaction.
-/

import BaobabErp.Inbox.ExecutionSupport
import BaobabErp.OrderToCash.ConsequenceStore
import BaobabErp.OrderToCash.PlacedOrder

namespace BaobabErp
namespace OrderExecution

open Python Concurrency ExecutionPolicy Inbox

/-- `TenantScope`. -/
structure TenantScope where
  tenantId : String
  legalEntityId : String
  adClientId : Int
  adOrgId : Int
deriving DecidableEq, Repr

/-- The permit `_authorised_native_action` sets, as far as it is compared. -/
structure Permit where
  tenantId : String
  legalEntityId : String
  action : String
  reference : String
deriving DecidableEq, Repr

/-- `_deny_legacy_native_action` does not raise. -/
def permitted (D : Deployment) (permit : Option Permit) (scope : TenantScope)
    (action reference : String) : Bool :=
  !D.protectedRuntime || permit == some ⟨scope.tenantId, scope.legalEntityId, action, reference⟩

/-- `_ACTION_ROLE`. -/
def actionRole (action : String) : Option String :=
  [("create_sales_order", "CONTRACTING_PARTY"), ("complete_sales_order", "CONTRACTING_PARTY"),
   ("create_shipment", "CONTRACTING_PARTY"), ("complete_shipment", "CONTRACTING_PARTY"),
   ("create_customer_invoice", "INVOICE_ISSUER"), ("create_payment", "ACCOUNTING_ENTITY"),
   ("complete_payment", "ACCOUNTING_ENTITY"), ("allocate_payment", "ACCOUNTING_ENTITY")].lookup
    action

/-- The checks `perform_governed_native_action` makes itself. -/
def bound (policy : NativeActionPolicy) (operation : LegalActorOperation) (scope : TenantScope)
    (resourceReference : String) : Bool :=
  (actionRole policy.action).isSome && policy.activity != "" && policy.capability != "" &&
    policy.authorityReference != "" && some operation.role == actionRole policy.action &&
    operation.activity == policy.activity && operation.capability == policy.capability &&
    operation.tenantId == scope.tenantId &&
    operation.expectedLegalEntityId == scope.legalEntityId &&
    operation.operationReference == resourceReference && resourceReference != ""

/-- `perform_governed_native_action`: `execute` runs under the permit once every
decision has been made for this operation. -/
def performGovernedNativeAction {α : Type} (authority : InboxNativeAuthority) (scope : TenantScope)
    (resourceReference : String) (execute : Permit → Program α) : Program α :=
  if bound authority.policy authority.operation scope resourceReference then do
    Call.assess authority.operation
    execute ⟨scope.tenantId, scope.legalEntityId, authority.policy.action, resourceReference⟩
  else
    throw .legalActorNotAuthorised

/-- `sales_order_fields`. -/
def salesOrderFields (businessPartnerNativeId : Int) (documentCurrency : String)
    (lines : List OrderLine) (reference : Option String) : Fields :=
  .order ⟨businessPartnerNativeId, documentCurrency, lines, reference⟩

/-! ### Reading the engine -/

/-- `repr(text)`: single quotes unless the text has some and no double quote. -/
def quoted (text : String) : String :=
  let cs := text.toList
  let quote := if cs.contains '\'' && !cs.contains '"' then '"' else '\''
  String.ofList ([quote] ++ cs.flatMap (fun c =>
    if c == '\\' || c == quote then ['\\', c] else if c == '\n' then ['\\', 'n']
    else if c == '\r' then ['\\', 'r'] else if c == '\t' then ['\\', 't']
    else if c.toNat < 32 || c.toNat == 127 then ['\\', 'x'] ++ hexText 2 c.toNat
    else [c]) ++ [quote])

mutual

/-- `repr(value)`. -/
def reprOf : Json → String
  | .null => "None"
  | .bool b => if b then "True" else "False"
  | .int n => toString n
  | .float t => t
  | .str s => quoted s
  | .arr items => "[" ++ ", ".intercalate (reprItems items) ++ "]"
  | .obj members => "\x7b" ++ ", ".intercalate (reprMembers members) ++ "\x7d"

def reprItems : List Json → List String
  | [] => []
  | item :: items => reprOf item :: reprItems items

def reprMembers : List (String × Json) → List String
  | [] => []
  | (name, value) :: members => (quoted name ++ ": " ++ reprOf value) :: reprMembers members

end

/-- `str(value)`. -/
def textOf : Json → String
  | .str s => s
  | value => reprOf value

/-- `_reference`: the id of a reference column, which comes back as `{"id": …}`. -/
def reference (value : Json) : Option Int :=
  let value := match value with
    | .obj m => Json.get m "id"
    | v => v
  match value with
  | .int n => if 0 ≤ n then some n else none
  | .str s => if s.toList.all fun c => (digitValue c).isSome then intOfText s else none
  | _ => none

/-- The unit of a product, as its X12 code. -/
def unitCode (σ : Session) (product : Int) : Program String := do
  let record ← Call.getRecord σ "M_Product" product
  match reference (Json.get record "C_UOM_ID") with
  | none => throw .client
  | some uomId =>
    let uom ← Call.getRecord σ "C_UOM" uomId
    pure (textOf (Json.get uom "X12DE355"))

/-- The loop of `_verify_units`: the lines in a unit other than the product's
own; `codes` are the units already read. -/
def wrongUnits (σ : Session) : List (Int × String) → List (PlacedOrder.PlacedLine × Int) →
    Program (List String)
  | _, [] => pure []
  | codes, (placed, product) :: rest => do
    let code ← match codes.lookup product with
      | some code => pure code
      | none => unitCode σ product
    let wrong ← wrongUnits σ ((product, code) :: codes) rest
    pure (if code = placed.unit then wrong else placed.lineId :: wrong)

/-- `_verify_units`. -/
def verifyUnits (σ : Session) (order : PlacedOrder) (products : List Int) : Program Unit := do
  let wrong ← wrongUnits σ [] (order.lines.zip products)
  if wrong.isEmpty then pure ()
  else throw (dead "UNIT_MISMATCH"
    ("line(s) in a unit other than the product's own: " ++ ", ".intercalate (wrong.take 10)))

/-- The order lines for the engine, from the products of the placed lines. -/
def orderLines (order : PlacedOrder) (products : List Int) : List OrderLine :=
  (order.lines.zip products).map fun (line, product) =>
    ⟨toString product, line.quantity, line.unitPrice⟩

/-- The body of `_find_or_create`, before its engine failures are outcomes. -/
def lookupOrCreate (σ : Session) (order : PlacedOrder) (customer : Int) (products : List Int) :
    Program (Int × Bool) := do
  match ← Call.query σ .cOrder order.commerceOrderId with
  | [] =>
    verifyUnits σ order products
    let nativeId ← Call.createRecord σ (salesOrderFields customer order.currency
      (orderLines order products) (some order.commerceOrderId))
    pure (nativeId, false)
  | [nativeId] => pure (nativeId, true)
  | existing => throw (dead "DUPLICATE_NATIVE_ORDERS"
      (toString existing.length ++ " engine orders carry the order's reference"))

/-- `_find_or_create`: the engine order an earlier attempt already created, or a
new one. -/
def findOrCreate (D : Deployment) (permit : Option Permit) (scope : TenantScope) (σ : Session)
    (order : PlacedOrder) (customer : Int) (products : List Int) : Program (Int × Bool) :=
  if permitted D permit scope "create_sales_order" order.commerceOrderId then
    engineErrors (lookupOrCreate σ order customer products)
  else
    throw (.orderToCash ("native order-to-cash action denied: exact CP legal actor, " ++
      "documentary and iDempiere readiness approval required"))

/-- `_resolve_lines`: the product of every line, and the lines that have none. -/
def resolveProducts (engineInstanceId legalEntityId : String) :
    List PlacedOrder.PlacedLine → Program (List String × List Int)
  | [] => pure ([], [])
  | line :: rest => do
    let product ← native engineInstanceId legalEntityId productKind line.skuId
    let (missing, products) ← resolveProducts engineInstanceId legalEntityId rest
    match product with
    | none => pure (line.lineId :: missing, products)
    | some product => pure (missing, product :: products)

def resolveLines (engineInstanceId : String) (order : PlacedOrder) : Program (List Int) := do
  let (missing, products) ← resolveProducts engineInstanceId order.legalEntityId order.lines
  if missing.isEmpty then pure products
  else throw (blocked "PRODUCT_UNMAPPED" (toString missing.length ++
    " line(s) have no product mapping: " ++ ", ".intercalate (missing.take 10)))

/-- `_engine_factory`: an engine session is bound to one AD_Org, so it is used
only for the organisation the mapping names, or for the whole client at AD_Org 0. -/
def engineFor (D : Deployment) (adClientId adOrgId : Int) : Except Exc (Option Session) :=
  match D.credentials adClientId with
  | none => .ok none
  | some found =>
    if adOrgId ≠ allOrganizationsAdOrgId ∧ found.organizationId ≠ adOrgId then
      .error .engineOrgMismatch
    else .ok (some found)

/-- The engine session of a placement, with the outcomes of its absence. -/
def session (D : Deployment) (placement : TenantMappingRow) : Program Session :=
  match engineFor D placement.adClientId placement.adOrgId with
  | .error .engineOrgMismatch => throw (blocked "ENGINE_ORG_MISMATCH"
      "the engine credentials are for another AD_Org than the tenant's mapping")
  | .error x => throw x
  | .ok none => throw (blocked "ENGINE_UNCONFIGURED" "no engine credentials for the tenant's AD_Client")
  | .ok (some σ) => pure σ

/-- The part of `_execute` that reaches the engine: directly, or in a protected
runtime under the authority of the claim. -/
def nativeOrder (D : Deployment) (authority : Option InboxNativeAuthority) (scope : TenantScope)
    (σ : Session) (order : PlacedOrder) (customer : Int) (products : List Int) :
    Program (Int × Bool) :=
  if D.protectedRuntime then
    match authority with
    | none => throw (blocked "LEGAL_ACTOR_PENDING"
        "current CP legal actor and ERP provider checks required")
    | some authority =>
      tryCatch (performGovernedNativeAction authority scope order.commerceOrderId fun permit =>
          findOrCreate D (some permit) scope σ order customer products) fun
        | .legalActorNotAuthorised | .orderToCash _ | .controlPlaneUnavailable =>
          throw (blocked "LEGAL_ACTOR_DENIED"
            "current CP legal actor, documentary or native provider authority denied")
        | x => throw x
  else
    findOrCreate D none scope σ order customer products

/-- The code of an attempt that found or created the order. -/
def settledCode (adopted : Bool) : String :=
  if adopted then "ADOPTED_NATIVE_ORDER" else "EXECUTED"

/-- The one transaction of an executed order: consequence record, order link,
announcing event and inbox outcome. -/
def record (D : Deployment) (claim : Claim) (tenantId : String) (order : PlacedOrder)
    (nativeId : Int) (adopted : Bool) : Program Unit :=
  orRollback do
    let now ← Call.now
    match ← Consequence.openOrder tenantId order.legalEntityId order.commerceOrderId
        order.orderVersion (erpOrderId D.hashes tenantId order.commerceOrderId) now with
    | none => throw (.other "AttributeError")
    | some opened =>
      let _ ← Call.insert (.execution tenantId order.commerceOrderId) fun _ =>
        ({ legalEntityId := order.legalEntityId, orderVersion := order.orderVersion,
           erpOrderId := opened.erpOrderId, nativeId, sourceEventId := claim.eventId, adopted } :
          ExecutionRow)
      Consequence.announceRecord D.hashes opened claim.correlationId
      processed claim (settledCode adopted)
      Call.commit

/-- The lock key of an order. -/
def lockKey (tenantId commerceOrderId : String) : String :=
  "baobab.order|" ++ tenantId ++ "|" ++ commerceOrderId

/-- The body of `_execute` once the order has no consequence record. -/
def executeNew (D : Deployment) (claim : Claim) (authority : Option InboxNativeAuthority)
    (tenantId engineInstanceId : String) (placement : TenantMappingRow) (order : PlacedOrder) :
    Program Outcome := do
  let products ← resolveLines engineInstanceId order
  let σ ← session D placement
  match ← native engineInstanceId order.legalEntityId customerKind order.customerId with
  | none => throw (blocked "CUSTOMER_UNMAPPED" "the order's customer has no master-data mapping")
  | some customer =>
    let scope : TenantScope :=
      ⟨tenantId, order.legalEntityId, placement.adClientId, placement.adOrgId⟩
    let (nativeId, adopted) ← nativeOrder D authority scope σ order customer products
    record D claim tenantId order nativeId adopted
    pure { status := .processed, code := settledCode adopted }

/-- The body of `_execute` under the order's lock. -/
def executeLocked (D : Deployment) (claim : Claim) (authority : Option InboxNativeAuthority)
    (tenantId engineInstanceId : String) (placement : TenantMappingRow) (order : PlacedOrder)
    (held : Bool) : Program Outcome :=
  if held then do
    let known ← Consequence.get tenantId order.commerceOrderId
    Call.commit
    match known with
    | some known =>
      if order.orderVersion = known.orderVersion then
        pure { status := .processed, code := "ALREADY_EXECUTED" }
      else if order.orderVersion < known.orderVersion then
        pure { status := .processed, code := "STALE_VERSION" }
      else throw (dead "AMENDMENT_UNSUPPORTED"
        "a later version of an executed order; amendment is not implemented")
    | none => executeNew D claim authority tenantId engineInstanceId placement order
  else
    -- another worker is on this very order; neither a failure nor an attempt
    pure { status := .retry, code := "ORDER_CONTENDED",
           delaySeconds := some contentionDelaySeconds, refundAttempt := true }

/-- `_execute`. -/
def execute (D : Deployment) (claim : Claim) (authority : Option InboxNativeAuthority) :
    Program Outcome := do
  let order ← parsed (PlacedOrder.parsePlacedOrder claim.data)
  match claim.tenantId.filter (· != "") with
  | none => throw (dead "TENANT_MISSING" "a tenant-scoped order event carries no tenant")
  | some tenantId =>
    let placement ← target tenantId order.legalEntityId
    match placement.bind fun p => p.engineInstanceId.map (p, ·) with
    | none => throw (blocked "TENANT_UNMAPPED"
        "no active engine placement for the tenant and legal entity")
    | some (placement, engineInstanceId) =>
      withLock (lockKey tenantId order.commerceOrderId)
        (executeLocked D claim authority tenantId engineInstanceId placement order)

/-- `run_claim`. -/
def runClaim (D : Deployment) (claim : Claim) (authority : Option InboxNativeAuthority) :
    Program Outcome :=
  settle claim (execute D claim authority) ["EXECUTED", "ADOPTED_NATIVE_ORDER"]

end OrderExecution
end BaobabErp
