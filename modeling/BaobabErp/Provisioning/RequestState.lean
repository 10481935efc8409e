/-
# Reading a request back from its stored desired state

`modules/provisioning/request_state.py`.  Any JSON value may be stored, so the
reader is a function of a `Json`; what it raises is `StateUnreadable`, except
the `OverflowError` of an infinite month, which passes.

A request with the types its class declares is read back as it was stored
(`requestFromState_desiredState`).
-/

import BaobabErp.Provisioning.Planner
import Mathlib.Data.List.Dedup

namespace BaobabErp
namespace Provisioning

open Python

/-- `code, zone = item`. -/
def unpackPair (item : Json) : Raises (Json × Json) := do
  match ← Json.iterate item with
  | [code, zone] => pure (code, zone)
  | _ => throw "ValueError"

/-- `raw.get(name, ())`, as what it yields. -/
def optionalItems (raw : Json) (name : String) : Raises (List Json) := do
  match ← raw.getMember name with
  | none => pure []
  | some value => value.iterate

/-- `_market`. -/
def marketFromState (R : Runtime) (raw : Json) : Raises MarketConfiguration := do
  let marketId ← raw.subscript "market_id"
  let countryCode ← raw.subscript "country_code"
  let participationCapabilities ←
    Json.frozenset R (← (← raw.subscript "participation_capabilities").iterate)
  let currencies ← (← raw.subscript "currencies").iterate
  let localisationProfile ← raw.subscript "localisation_profile"
  let warehouseCodes ← optionalItems raw "warehouse_codes"
  let warehouseTimezones ← (← optionalItems raw "warehouse_timezones").mapM unpackPair
  pure { marketId, countryCode, participationCapabilities, currencies, localisationProfile,
         warehouseCodes, warehouseTimezones }

/-- `datetime.fromisoformat(value)`. -/
def datetimeOf : Json → Raises DateTime
  | .str s => match DateTime.fromisoformat s with
    | some t => .ok t
    | none => .error "ValueError"
  | _ => .error "TypeError"

/-- `date.fromisoformat(value)`. -/
def dateOf : Json → Raises Date
  | .str s => match Date.fromisoformat s with
    | some d => .ok d
    | none => .error "ValueError"
  | _ => .error "TypeError"

/-- `_accounting`. -/
def accountingFromState (R : Runtime) (raw : Json) : Raises AccountingConfiguration := do
  let functionalCurrency ← raw.subscript "functional_currency"
  let fiscalYearStartMonth ← (← raw.subscript "fiscal_year_start_month").toInt R
  let chartOfAccountsTemplate ← raw.subscript "chart_of_accounts_template"
  let accountingSchema ← raw.subscript "accounting_schema"
  let taxProfile ← raw.subscript "tax_profile"
  let costingMethod ← raw.subscript "costing_method"
  let approvedBy ← raw.subscript "approved_by"
  let approvedAt ← datetimeOf (← raw.subscript "approved_at")
  pure { functionalCurrency, fiscalYearStartMonth, chartOfAccountsTemplate, accountingSchema,
         taxProfile, costingMethod, approvedBy, approvedAt }

/-- The body of `request_from_state`. -/
def readRequest (R : Runtime) (state : Json) : Raises ErpProvisioningRequest := do
  let provisioningId ← state.subscript "provisioning_id"
  let idempotencyKey ← state.subscript "idempotency_key"
  let tenantId ← state.subscript "tenant_id"
  let legalEntityId ← state.subscript "legal_entity_id"
  let legalName ← state.subscript "legal_name"
  let registrationIdentifier ← state.subscript "registration_identifier"
  let jurisdictionCode ← state.subscript "jurisdiction_code"
  let engineInstanceId ← state.subscript "engine_instance_id"
  let isolationRequirement ← state.subscript "isolation_requirement"
  let planDigest ← state.subscript "plan_digest"
  let targetEnvironment ← state.subscript "target_environment"
  let effectiveDate ← dateOf (← state.subscript "effective_date")
  let accounting ← accountingFromState R (← state.subscript "accounting")
  let markets ← (← (← state.subscript "markets").iterate).mapM (marketFromState R)
  let requestedCapabilities ← Json.frozenset R (← optionalItems state "requested_capabilities")
  pure { provisioningId, idempotencyKey, tenantId, legalEntityId, legalName, registrationIdentifier,
         jurisdictionCode, engineInstanceId, isolationRequirement, planDigest, targetEnvironment,
         effectiveDate, accounting, markets, requestedCapabilities }

/-- `request_from_state`. -/
def requestFromState (R : Runtime) (state : Json) : Except Exc ErpProvisioningRequest :=
  match readRequest R state with
  | .ok r => .ok r
  | .error "OverflowError" => .error (.other "OverflowError")
  | .error _ => .error .stateUnreadable

/-- `verified_request`. -/
def verifiedRequest (H : Hashes) (R : Runtime) (state : Json) (acceptedDigest : Option String) :
    Except Exc ErpProvisioningRequest := do
  let request ← requestFromState R state
  match acceptedDigest.filter (· != "") with
  | none => throw .stateDrift
  | some accepted =>
    if (← desiredStateDigest H R request) = accepted then pure request else throw .stateDrift

/-! ### What was stored reads back -/

theorem sortedTexts_of_pairwise {texts : List String} (h : texts.Pairwise (· < ·)) :
    Json.sortedTexts texts = texts := by
  have hle : texts.Pairwise (· ≤ ·) := h.imp le_of_lt
  have hnodup : texts.Nodup := h.imp ne_of_lt
  rw [Json.sortedTexts, hle.insertionSort_eq, List.Nodup.dedup hnodup]

theorem allText_map (texts : List String) : Json.allText (texts.map .str) = true := by
  rw [Json.allText, List.all_eq_true]
  intro x hx
  obtain ⟨s, -, rfl⟩ := List.mem_map.1 hx
  rfl

theorem filterMap_str?_map (texts : List String) :
    (texts.map Json.str).filterMap Json.str? = texts := by
  induction texts with
  | nil => rfl
  | cons s texts ih => exact congrArg (s :: ·) ih

/-- A set of texts is read back from its items. -/
theorem frozenset_textSet (R : Runtime) {xs : List Json} (h : IsTextSet xs) :
    Json.frozenset R xs = .ok xs := by
  obtain ⟨texts, rfl, hsorted⟩ := h
  rw [Json.frozenset, if_pos (allText_map texts), filterMap_str?_map, sortedTexts_of_pairwise hsorted]

/-- A set of texts is stored as its items. -/
theorem setDocument_textSet (R : Runtime) {xs : List Json} (h : IsTextSet xs) :
    setDocument R xs = .ok (.arr xs) := by
  obtain ⟨texts, rfl, hsorted⟩ := h
  have hle : (texts.map Json.str).Pairwise
      fun x y => (id x).str?.getD "" ≤ (id y).str?.getD "" := by
    rw [List.pairwise_map]
    exact hsorted.imp le_of_lt
  have hsort : Json.sortedBy R id (texts.map Json.str) = .ok (texts.map Json.str) := by
    unfold Json.sortedBy
    split_ifs with h1 h2
    · rfl
    · rw [hle.insertionSort_eq]
    · exact absurd (allText_map texts) h2
    · exact absurd (allText_map texts) h2
  rw [setDocument, hsort]
  rfl

theorem mapM_unpackPair (zones : List (Json × Json)) :
    (zones.map fun p => Json.arr [p.1, p.2]).mapM unpackPair = .ok zones := by
  induction zones with
  | nil => rfl
  | cons p zones ih =>
    rw [List.map_cons, List.mapM_cons, ih]
    rfl

/-- **A market is read back as it was stored.** -/
theorem marketFromState_marketDocument {R : Runtime} {m : MarketConfiguration} (h : m.Typed) :
    ∃ j, marketDocument R m = .ok j ∧ marketFromState R j = .ok m := by
  obtain ⟨-, -, hset, -, -, -, -⟩ := h
  refine ⟨.obj (marketMembers m (.arr m.participationCapabilities)),
    by rw [marketDocument, setDocument_textSet R hset]; rfl, ?_⟩
  unfold marketMembers
  cases hz : m.warehouseTimezones with
  | nil =>
    simp only [List.isEmpty_nil, if_true, List.append_nil]
    unfold marketFromState
    simp only [Json.subscript, Json.getMember, optionalItems, List.lookup_cons, String.reduceBEq,
      Json.iterate, frozenset_textSet R hset, bind, Except.bind, pure, Except.pure]
    rw [show m = { m with warehouseTimezones := [] } by rw [← hz]]
    rfl
  | cons p zones =>
    simp only [List.isEmpty_cons, Bool.false_eq_true, if_false, List.cons_append, List.nil_append]
    unfold marketFromState
    simp only [Json.subscript, Json.getMember, optionalItems, List.lookup_cons, String.reduceBEq,
      Json.iterate, frozenset_textSet R hset, bind, Except.bind, pure, Except.pure]
    rw [mapM_unpackPair, ← hz]

theorem marketsFromState_marketDocuments {R : Runtime} {ms : List MarketConfiguration}
    (h : ∀ m ∈ ms, m.Typed) :
    ∃ js, ms.mapM (marketDocument R) = .ok js ∧ js.mapM (marketFromState R) = .ok ms := by
  induction ms with
  | nil => exact ⟨[], rfl, rfl⟩
  | cons m ms ih =>
    obtain ⟨j, hj, hm⟩ := marketFromState_marketDocument (R := R) (h m List.mem_cons_self)
    obtain ⟨js, hjs, hms⟩ := ih fun m hm => h m (List.mem_cons_of_mem _ hm)
    refine ⟨j :: js, ?_, ?_⟩
    · rw [List.mapM_cons, hj, hjs]
      rfl
    · rw [List.mapM_cons, hm, hms]
      rfl

theorem accountingFromState_accountingDocument (R : Runtime) (a : AccountingConfiguration) :
    accountingFromState R (accountingDocument a) = .ok a := by
  unfold accountingFromState accountingDocument
  simp only [Json.subscript, List.lookup_cons, String.reduceBEq, Json.toInt, datetimeOf,
    DateTime.fromisoformat_str, bind, Except.bind, pure, Except.pure]

/-- **A request with the declared types is stored, and read back as it was.** -/
theorem requestFromState_desiredState {R : Runtime} {r : ErpProvisioningRequest} (h : r.Typed) :
    ∃ state, desiredState R r = .ok state ∧ requestFromState R state = .ok r := by
  obtain ⟨-, -, -, -, -, -, -, -, -, -, -, -, hmarkets, hset⟩ := h
  obtain ⟨js, hjs, hms⟩ := marketsFromState_marketDocuments (R := R) hmarkets
  refine ⟨.obj (requestMembers r js (.arr r.requestedCapabilities)),
    by rw [desiredState, hjs, setDocument_textSet R hset]; rfl, ?_⟩
  have hread : ∀ state, readRequest R state = .ok r → requestFromState R state = .ok r := by
    intro state h
    rw [requestFromState, h]
  refine hread _ ?_
  unfold readRequest requestMembers
  simp only [Json.subscript, Json.getMember, optionalItems, List.lookup_cons, String.reduceBEq,
    Json.iterate, frozenset_textSet R hset, dateOf, Date.fromisoformat_str,
    accountingFromState_accountingDocument, hms, bind, Except.bind, pure, Except.pure]

end Provisioning
end BaobabErp
