/-
# The body of a provisioning command

`modules/provisioning/operation_request.py`: the member set is closed, every
member has its grammar, and a body that breaks a rule is refused with all the
members that do (`RequestError.errors`).  The fingerprint binds an idempotency
key to the principal and to what the request asks for.
-/

import BaobabErp.Provisioning.Request
import BaobabErp.Python.Dumps

namespace BaobabErp
namespace Provisioning

open Python

/-! ### The grammars -/

def isLowerAlnum (c : Char) : Bool := isAsciiLower c || isAsciiDigit c

/-- `^pre[a-z0-9]+$`. -/
def isTagged (pre : String) (s : String) : Bool :=
  pre.toList.isPrefixOf s.toList && !(s.toList.drop pre.length).isEmpty &&
    (s.toList.drop pre.length).all isLowerAlnum

/-- `^[0-9a-fA-F]{8}-[0-9a-fA-F]{4}-[0-9a-fA-F]{4}-[0-9a-fA-F]{4}-[0-9a-fA-F]{12}$`. -/
def isContextId (s : String) : Bool :=
  let isHex := fun c => isAsciiDigit c || ('a' ≤ c && c ≤ 'f') || ('A' ≤ c && c ≤ 'F')
  s.length == 36 && (s.toList.zipIdx.all fun (c, i) =>
    if i = 8 || i = 13 || i = 18 || i = 23 then c == '-' else isHex c)

/-- `^sha256:[0-9a-f]{64}$`. -/
def isDigest (s : String) : Bool :=
  "sha256:".toList.isPrefixOf s.toList && (s.toList.drop 7).length == 64 &&
    (s.toList.drop 7).all CloudEvent.isLowerHex

/-- `^[A-Z][A-Z0-9]*(?:-[A-Z0-9]+)*$`. -/
def isLegalEntity (s : String) : Bool :=
  match s.toList with
  | c :: cs => isAsciiUpper c && Identifiers.legalEntityTail true cs
  | [] => false

/-- `^[A-Z]{n}$`. -/
def isUpperCode (n : Nat) (s : String) : Bool := s.length == n && s.toList.all isAsciiUpper

/-- `^[A-Za-z0-9][A-Za-z0-9._:-]*$`. -/
def isResource (s : String) : Bool :=
  match s.toList with
  | c :: cs => isAsciiAlnum c && cs.all isIdTail
  | [] => false

/-- `^[0-9]{4}-(?:0[1-9]|1[0-2])-(?:0[1-9]|[12][0-9]|3[01])$`. -/
def isDateText (s : String) : Bool :=
  match s.toList with
  | [y₁, y₂, y₃, y₄, '-', m₁, m₂, '-', d₁, d₂] =>
    [y₁, y₂, y₃, y₄].all isAsciiDigit &&
      ((m₁ == '0' && isAsciiDigit m₂ && m₂ != '0') || (m₁ == '1' && '0' ≤ m₂ && m₂ ≤ '2')) &&
      ((d₁ == '0' && isAsciiDigit d₂ && d₂ != '0') || ((d₁ == '1' || d₁ == '2') && isAsciiDigit d₂) ||
        (d₁ == '3' && (d₂ == '0' || d₂ == '1')))
  | _ => false

/-- The handler's rule for `Idempotency-Key`. -/
def isIdempotencyKey (s : String) : Bool := 16 ≤ s.length && s.length ≤ 128 && isResource s

/-! ### The parsed command -/

/-- `ControlPlaneAuthority`. -/
structure ControlPlaneAuthority where
  tenantProvisioningId : String
  planId : String
  planVersion : Int
  planDigest : String
deriving DecidableEq, Repr

/-- `FinanceBaselineRef`. -/
structure FinanceBaselineRef where
  baselineId : String
  legalEntityId : String
  version : Int
  digest : String
  effectiveFrom : String
deriving DecidableEq, Repr

/-- `_BASELINE_AUTHORITY`. -/
def baselineAuthority : Json :=
  .obj [("engine_id", .str "baobab-erp"), ("system_of_record", .str "FINANCE_BASELINE")]

def FinanceBaselineRef.asContract (ref : FinanceBaselineRef) : Json :=
  .obj [("baseline_id", .str ref.baselineId), ("legal_entity_id", .str ref.legalEntityId),
    ("version", .int ref.version), ("digest", .str ref.digest),
    ("effective_from", .str ref.effectiveFrom), ("authority", baselineAuthority)]

/-- `ProvisioningCommand`; a set is the list of its items. -/
structure ProvisioningCommand where
  tenantId : String
  contextId : String
  authority : ControlPlaneAuthority
  legalEntityIds : List String
  requestedCountries : List String
  functionalCurrencies : List String
  deploymentPolicyId : Option String
  localisationProfileIds : List String
  financeBaselines : List FinanceBaselineRef

def sorted (texts : List String) : List String := texts.insertionSort (· ≤ ·)

/-- A sorted list of texts, as a document. -/
def textsDocument (texts : List String) : Json := .arr (texts.map .str)

/-- `ProvisioningCommand.fingerprint`. -/
def ProvisioningCommand.fingerprint (H : Hashes) (c : ProvisioningCommand) (principal : String) :
    String :=
  H.sha256 (Json.dumps (.obj
    [("principal", .str principal), ("tenant_id", .str c.tenantId),
      ("authority", .arr [.str c.authority.tenantProvisioningId, .str c.authority.planId,
        .int c.authority.planVersion, .str c.authority.planDigest]),
      ("legal_entity_ids", textsDocument (sorted c.legalEntityIds)),
      ("finance_baselines", .arr ((c.financeBaselines.insertionSort
        fun r s => r.legalEntityId ≤ s.legalEntityId).map FinanceBaselineRef.asContract)),
      ("requested_countries", textsDocument (Json.sortedTexts c.requestedCountries)),
      ("functional_currencies", textsDocument (Json.sortedTexts c.functionalCurrencies)),
      ("deployment_policy_id", (c.deploymentPolicyId.map Json.str).getD .null),
      ("localisation_profile_ids", textsDocument (Json.sortedTexts c.localisationProfileIds))]))

/-! ### The parser -/

/-- The members that are wrong, with what is wrong about each. -/
abbrev Errors := List (String × String)

/-- `_text`. -/
def textOfMember (value : Json) (grammar : String → Bool) (field : String) (low high : Nat) :
    Option String × Errors :=
  match value with
  | .str s =>
    if low ≤ s.length && s.length ≤ high && grammar s then (some s, [])
    else (none, [(field, "does not match the canonical grammar")])
  | _ => (none, [(field, "does not match the canonical grammar")])

/-- `_set`. -/
def setOfMember (value : Json) (grammar : String → Bool) (field : String) (minimum low high : Nat) :
    List String × Errors :=
  match value with
  | .arr xs =>
    if xs.length < minimum then ([], [(field, "must be a list of at least " ++ toString minimum)])
    else
      let repeated := if (xs.map OrderExecution.textOf).dedup.length = xs.length then []
        else [(field, "must not repeat a value")]
      let items := xs.zipIdx.map fun (x, i) =>
        textOfMember x grammar (field ++ "[" ++ toString i ++ "]") low high
      ((items.filterMap Prod.fst).filter (· != ""), repeated ++ (items.map Prod.snd).flatten)
  | _ => ([], [(field, "must be a list of at least " ++ toString minimum)])

/-- `isinstance(version, int)`, no `bool`, and at least 1. -/
def isVersion (value : Json) : Bool := value.int?.any (1 ≤ ·)

/-- The names that are not members, and the members that are missing. -/
def memberErrors (ms : List (String × Json)) (allowed required : List String) (pre unknown : String) :
    Errors :=
  (Json.sortedTexts ((ms.map Prod.fst).filter fun n => !allowed.contains n)).map
      (fun n => (pre ++ n, unknown)) ++
    (Json.sortedTexts (required.filter fun n => !(ms.map Prod.fst).contains n)).map
      fun n => (pre ++ n, "is required")

def baselineMembers : List String :=
  ["baseline_id", "legal_entity_id", "version", "digest", "effective_from", "authority"]

/-- One reference of `_baseline_refs`. -/
def baselineRef (R : Runtime) (item : Json) (field : String) : Option FinanceBaselineRef × Errors :=
  match item with
  | .obj ms =>
    let members := memberErrors ms baselineMembers baselineMembers (field ++ ".")
      "is not a member of a Finance baseline reference"
    let (id, e₁) := textOfMember (Json.get ms "baseline_id") (isTagged "fb_")
      (field ++ ".baseline_id") 6 63
    let (entity, e₂) := textOfMember (Json.get ms "legal_entity_id") isLegalEntity
      (field ++ ".legal_entity_id") 3 63
    let (digest, e₃) := textOfMember (Json.get ms "digest") isDigest (field ++ ".digest") 71 71
    let (text, e₄) := textOfMember (Json.get ms "effective_from") isDateText
      (field ++ ".effective_from") 10 10
    let effective := text.filter fun s => (Date.fromisoformat s).isSome
    let e₅ := if text.isSome && effective.isNone then
      [(field ++ ".effective_from", "is not a calendar date")] else []
    let e₆ := if isVersion (Json.get ms "version") then []
      else [(field ++ ".version", "must be an integer >= 1")]
    let e₇ := if Json.equal R (Json.get ms "authority") baselineAuthority then []
      else [(field ++ ".authority",
        "must be exactly baobab-erp as the FINANCE_BASELINE system of record")]
    let errors := e₁ ++ e₂ ++ e₃ ++ e₄ ++ e₅ ++ e₆ ++ e₇
    let ref := match id, entity, digest, effective, (Json.get ms "version").int? with
      | some id, some entity, some digest, some effective, some version =>
        if errors.isEmpty then some ⟨id, entity, version, digest, effective⟩ else none
      | _, _, _, _, _ => none
    (ref, members ++ errors)
  | _ => (none, [(field, "must be an object")])

/-- `_baseline_refs`. -/
def baselineRefs (R : Runtime) (value : Json) : List FinanceBaselineRef × Errors :=
  match value with
  | .arr (x :: xs) =>
    let items := (x :: xs).zipIdx.map fun (item, i) =>
      baselineRef R item ("finance_baselines[" ++ toString i ++ "]")
    let refs := items.filterMap Prod.fst
    let twice := if (refs.map FinanceBaselineRef.legalEntityId).dedup.length = refs.length then []
      else [("finance_baselines", "must not reference a legal entity twice")]
    (refs, (items.map Prod.snd).flatten ++ twice)
  | _ => ([], [("finance_baselines", "must be a list of at least 1")])

def authorityMembers : List String :=
  ["tenant_provisioning_id", "plan_id", "plan_version", "plan_digest"]

/-- The `control_plane_authority` member. -/
def authorityOf (value : Json) : Option ControlPlaneAuthority × Errors :=
  match value with
  | .obj ms =>
    let pre := "control_plane_authority."
    let members := memberErrors ms authorityMembers authorityMembers pre "is not a member"
    let version := Json.get ms "plan_version"
    let e₁ := if (ms.lookup "plan_version").isSome && !isVersion version then
      [(pre ++ "plan_version", "must be an integer >= 1")] else []
    let (provisioning, e₂) := textOfMember (Json.get ms "tenant_provisioning_id") (isTagged "tp_")
      (pre ++ "tenant_provisioning_id") 6 63
    let (plan, e₃) := textOfMember (Json.get ms "plan_id") (isTagged "plan_") (pre ++ "plan_id") 8 63
    let (digest, e₄) := textOfMember (Json.get ms "plan_digest") isDigest (pre ++ "plan_digest") 71 71
    let authority := match provisioning, plan, digest, version.int? with
      | some provisioning, some plan, some digest, some n =>
        if 1 ≤ n && (ms.all fun m => authorityMembers.contains m.1) then
          some ⟨provisioning, plan, n, digest⟩
        else none
      | _, _, _, _ => none
    (authority, members ++ e₁ ++ e₂ ++ e₃ ++ e₄)
  | _ => (none, [("control_plane_authority", "must be an object")])

/-- `f body["name"]`, when the member is there. -/
def whenPresent {α : Type} (ms : List (String × Json)) (name : String) (absent : α)
    (f : Json → α × Errors) : α × Errors :=
  match ms.lookup name with
  | some value => f value
  | none => (absent, [])

def requiredMembers : List String :=
  ["tenant_id", "context_id", "control_plane_authority", "legal_entity_ids", "finance_baselines",
    "requested_countries", "functional_currencies"]

/-- `parse_command`. -/
def parseCommand (R : Runtime) (body : Json) : Except Errors ProvisioningCommand :=
  match body with
  | .obj ms =>
    let members := memberErrors ms
      (requiredMembers ++ ["deployment_policy_id", "localisation_profile_ids"]) requiredMembers ""
      "is not a member of the provisioning request"
    let (tenant, e₁) := whenPresent ms "tenant_id" none fun v =>
      textOfMember v (isTagged "tn_") "tenant_id" 6 63
    let (contextId, e₂) := whenPresent ms "context_id" none fun v =>
      textOfMember v isContextId "context_id" 36 36
    let (authority, e₃) := whenPresent ms "control_plane_authority" none authorityOf
    let (entities, e₄) := whenPresent ms "legal_entity_ids" [] fun v =>
      setOfMember v isLegalEntity "legal_entity_ids" 1 3 63
    let (baselines, e₅) := whenPresent ms "finance_baselines" [] (baselineRefs R)
    let (countries, e₆) := whenPresent ms "requested_countries" [] fun v =>
      setOfMember v (isUpperCode 2) "requested_countries" 1 2 2
    let (currencies, e₇) := whenPresent ms "functional_currencies" [] fun v =>
      setOfMember v (isUpperCode 3) "functional_currencies" 1 3 3
    let (policy, e₈) := whenPresent ms "deployment_policy_id" none fun v =>
      textOfMember v isResource "deployment_policy_id" 3 128
    let (profiles, e₉) := whenPresent ms "localisation_profile_ids" [] fun v =>
      setOfMember v isResource "localisation_profile_ids" 0 3 128
    let errors := members ++ e₁ ++ e₂ ++ e₃ ++ e₄ ++ e₅ ++ e₆ ++ e₇ ++ e₈ ++ e₉
    match tenant, contextId, authority with
    | some tenant, some contextId, some authority =>
      if errors.isEmpty then .ok
        { tenantId := tenant, contextId, authority, legalEntityIds := entities,
          requestedCountries := countries, functionalCurrencies := currencies,
          deploymentPolicyId := policy, localisationProfileIds := profiles,
          financeBaselines := baselines }
      else .error errors
    | _, _, _ => .error errors
  | _ => .error [("body", "must be a JSON object")]

end Provisioning
end BaobabErp
