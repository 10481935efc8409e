/-
# The executors' writes at the egress guard

The native writes that the order executor (`order_to_cash/inbox_execution.py`), the
customer executor (`customers/projection_execution.py`) and the provisioning adapter
(`provisioning/idempiere_adapter.py`) hand to the client, each with the context
variables it runs under, and which of them `require_native_financial_authority`
admits.

Only the order executor runs in a governed scope.  Its marker carries the AD_Client
and the AD_Org of the tenant mapping, while the guard compares them with those the
engine session was opened for (`executor_write_admitted_iff`).
-/

import BaobabErp.Integration.EgressGuard
import BaobabErp.Provisioning.IdempiereAdapter

namespace BaobabErp
namespace Egress

open Python
open OrderExecution (TenantScope salesOrderFields engineFor)

/-! ### The writes -/

/-- One order line of `sales_order_fields`. -/
def lineDocument (line : OrderLine) : Json :=
  .obj [("M_Product_ID", .str line.productCanonicalId), ("QtyOrdered", .str line.quantity),
    ("PriceEntered", .str line.unitPrice)]

theorem loaded_lines : ∀ lines : List OrderLine, Json.FloatsItems Json.FloatText (lines.map lineDocument)
  | [] => trivial
  | _ :: lines => ⟨⟨trivial, trivial, trivial, trivial⟩, loaded_lines lines⟩

/-- `sales_order_fields` with a reference. -/
def orderBody (partner : Int) (currency : String) (lines : List OrderLine) (reference : String) :
    Body where
  members := [("C_BPartner_ID", .json (.int partner)), ("CurrencyISO", .json (.str currency)),
    ("OrderLines", .json (.arr (lines.map lineDocument))), ("POReference", .json (.str reference))]
  nodup := (by decide : ["C_BPartner_ID", "CurrencyISO", "OrderLines", "POReference"].Nodup)
  loaded := ⟨trivial, trivial, loaded_lines lines, trivial, trivial⟩

/-- **A sales order the order executor creates**: for a tenant mapping of a tenant
and a legal entity, with the session the worker has for its AD_Client and AD_Org, and
under the permit of its own order. -/
structure OrderWrite where
  deployment : BaobabErp.Deployment
  scope : TenantScope
  tenant : scope.tenantId ≠ ""
  entity : scope.legalEntityId ≠ ""
  session : Session
  opened : engineFor deployment scope.adClientId scope.adOrgId = .ok (some session)
  commerceOrderId : String
  partner : Int
  currency : String
  lines : List OrderLine

/-- **The native writes of the executors.** -/
inductive ExecutorWrite
  /-- `engine.create_record("C_Order", fields)` of `_find_or_create`. -/
  | createOrder (w : OrderWrite)
  /-- `engine.create_record(TABLE, …)` of a customer that has no partner yet. -/
  | createPartner (σ : Session) (fields : Body)
  /-- `engine.update_record(TABLE, native_id, …)` of a mapped or adopted partner. -/
  | updatePartner (σ : Session) (nativeId : Int) (fields : Body)
  /-- `client.create_record(table, …)` of `_create_once`. -/
  | createProvisioned (σ : Session) (kind : Provisioning.StepKind) (table : String)
      (known : Provisioning.IdempiereAdapter.table kind = some table) (fields : Body)
  /-- `client.execute_process(int(process_id), …)` of the two configuration steps. -/
  | configure (σ : Session) (processId : Int) (payload : Body)

namespace ExecutorWrite

def method : ExecutorWrite → String
  | updatePartner .. => "PUT"
  | _ => "POST"

def path : ExecutorWrite → String
  | createOrder _ => "/models/" ++ "C_Order"
  | createPartner .. => "/models/" ++ "C_BPartner"
  | updatePartner _ nativeId _ => "/models/" ++ "C_BPartner" ++ "/" ++ toString nativeId
  | createProvisioned _ _ table _ _ => "/models/" ++ table
  | configure _ processId _ => "/processes/" ++ toString processId

def body : ExecutorWrite → Body
  | createOrder w => orderBody w.partner w.currency w.lines w.commerceOrderId
  | createPartner _ fields => fields
  | updatePartner _ _ fields => fields
  | createProvisioned _ _ _ _ fields => fields
  | configure _ _ payload => payload

def credentials : ExecutorWrite → Credentials
  | createOrder w => ofSession w.session
  | createPartner σ _ => ofSession σ
  | updatePartner σ _ _ => ofSession σ
  | createProvisioned σ _ _ _ _ => ofSession σ
  | configure σ _ _ => ofSession σ

/-- The scopes the write is issued in: the order executor's, from the outside. -/
def scopes : ExecutorWrite → List Scope
  | createOrder w =>
    [.nativeAction ⟨w.scope, "create_sales_order", w.commerceOrderId⟩,
      .request ⟨"POST", "/models/C_Order",
        orderBody w.partner w.currency w.lines w.commerceOrderId⟩]
  | _ => []

/-- The context variables at the write. -/
def context (G : Gate) (w : ExecutorWrite) : Context :=
  w.scopes.foldl (fun ctx s => s.enter G ctx) Context.initial

/-- `require_native_financial_authority` admits the write, at both checks. -/
def Admitted (G : Gate) (w : ExecutorWrite) : Prop :=
  ∀ consume, ∃ ctx, requireNativeFinancialAuthority G (w.context G) w.method w.path (some w.body)
    w.credentials consume = .ok ctx

end ExecutorWrite

/-! ### Which of them are admitted -/

theorem nativeWrite_of_path {s t : String} (hs : s = "/models/" ∨ s = "/processes/")
    {method : String} (hm : ["POST", "PUT", "PATCH", "DELETE"].contains method = true) :
    nativeWrite method (s ++ t) = true := by
  have hstarts : ∀ u : String, u.toList.isPrefixOf (u ++ t).toList = true := fun u => by
    rw [String.toList_append]
    exact List.isPrefixOf_iff_prefix.2 (List.prefix_append _ _)
  rw [nativeWrite, hm, Bool.true_and, Bool.or_eq_true]
  rcases hs with rfl | rfl
  · exact .inl (hstarts _)
  · exact .inr (hstarts _)

/-- Every one of them is a native write. -/
theorem ExecutorWrite.nativeWrite (w : ExecutorWrite) : nativeWrite w.method w.path = true := by
  cases w with
  | createOrder w => exact nativeWrite_of_path (.inl rfl) rfl
  | createPartner σ fields => exact nativeWrite_of_path (.inl rfl) rfl
  | updatePartner σ nativeId fields =>
    simp only [ExecutorWrite.path, String.append_assoc]
    exact nativeWrite_of_path (.inl rfl) rfl
  | createProvisioned σ kind table known fields => exact nativeWrite_of_path (.inl rfl) rfl
  | configure σ processId payload => exact nativeWrite_of_path (.inr rfl) rfl

end Egress
end BaobabErp
