/-
# The Trade customer a `customer.projected` event asks ERP to hold

`modules/customers/payload.py`: whether the data of a stored event is a valid
customer projection, the digest that identifies the native state one version
asks for, and the marker an ERP-created partner is found again by.

The marker is unique to its tenant, legal entity and customer as long as SHA-256
does not collide on the texts that are too long to be written out
(`marker_injective`).
-/

import BaobabErp.OrderToCash.PlacedOrder

namespace BaobabErp

open Python

structure CustomerProjection where
  legalEntityId : String
  customerId : String
  customerVersion : Int
  customerType : String
  displayName : String
  status : String
deriving DecidableEq, Repr

namespace CustomerProjection

def customerTypes : List String := ["person", "organisation"]
def statuses : List String := ["active", "suspended", "closed"]
def maxName : Nat := 255

/-- Only an active customer is an active business partner. -/
def active (c : CustomerProjection) : Bool := c.status == "active"

/-- A JSON string literal of `text` (`ensure_ascii`), as `json.dumps` writes it. -/
def jsonString (text : String) : String :=
  "\"" ++ String.join (text.toList.map fun c =>
    if c == '"' then "\\\"" else if c == '\\' then "\\\\"
    else if ' ' ≤ c && c ≤ '~' then c.toString
    else if c.toNat < 0x10000 then "\\u" ++ String.ofList (hexText 4 c.toNat)
    else
      let n := c.toNat - 0x10000
      "\\u" ++ String.ofList (hexText 4 (0xD800 + n / 0x400)) ++
        "\\u" ++ String.ofList (hexText 4 (0xDC00 + n % 0x400))) ++ "\""

/-- `digest`: the version is not part of it. -/
def digest (H : Hashes) (c : CustomerProjection) : String :=
  H.sha256 ("\x7b\"customer_type\":" ++ jsonString c.customerType ++ ",\"display_name\":" ++
    jsonString c.displayName ++ ",\"status\":" ++ jsonString c.status ++ "\x7d")

/-- An optional member is absent or matches `[A-Z]{n}`. -/
def isCodeOrAbsent (value : Json) (n : Nat) : Bool :=
  value.isNull || value.str?.any fun s => s.length == n && s.toList.all isAsciiUpper

/-- `parse_customer_projected`. -/
def parseCustomerProjected (data : Json) : Except String CustomerProjection := do
  let data ← orPayloadError data.obj? "data is not an object"
  let legalEntityId ← orPayloadError
    ((Json.get data "legal_entity_id").str?.filter Identifiers.isLegalEntityId)
    "legal_entity_id is missing or malformed"
  let customerId ← orPayloadError
    ((Json.get data "customer_id").str?.filter Identifiers.isResourceId)
    "customer_id is missing or not a canonical resource id"
  let customerVersion ← orPayloadError ((Json.get data "customer_version").int?.filter (1 ≤ ·))
    "customer_version must be a positive integer"
  let customerType ← orPayloadError
    ((Json.get data "customer_type").str?.filter (customerTypes.contains ·))
    "customer_type must be person or organisation"
  let name ← orPayloadError
    ((Json.get data "display_name").str?.filter fun s => strip s != "" && s.length ≤ maxName &&
      s.toList.all fun c => c.toNat ≥ 32)
    "display_name must be 1-255 printable characters"
  let status ← orPayloadError ((Json.get data "status").str?.filter (statuses.contains ·))
    "status must be active, suspended or closed"
  if !isCodeOrAbsent (Json.get data "billing_country") 2 then
    .error "billing_country must be an ISO 3166-1 alpha-2 code"
  else if !isCodeOrAbsent (Json.get data "preferred_currency") 3 then
    .error "preferred_currency must be an ISO 4217 code"
  else
    pure { legalEntityId, customerId, customerVersion, customerType, displayName := strip name,
           status }

def maxMarker : Nat := 255

/-- The marker's text before it is shortened. -/
def markerText (tenantId legalEntityId customerId : String) : String :=
  "baobab-customer:" ++ tenantId ++ ":" ++ legalEntityId ++ ":" ++ customerId

/-- `marker`: written into the created partner and used to find it again. -/
def marker (H : Hashes) (tenantId legalEntityId customerId : String) : String :=
  let text := markerText tenantId legalEntityId customerId
  if text.length ≤ maxMarker then text else "baobab-customer-sha256:" ++ H.sha256 text

theorem parseCustomerProjected_ok {data : Json} {c : CustomerProjection}
    (h : parseCustomerProjected data = .ok c) :
    Identifiers.isLegalEntityId c.legalEntityId = true ∧
      Identifiers.isResourceId c.customerId = true := by
  unfold parseCustomerProjected at h
  obtain ⟨d, -, h⟩ := bind_eq_ok h
  obtain ⟨le, hle, h⟩ := bind_eq_ok h
  obtain ⟨cid, hcid, h⟩ := bind_eq_ok h
  obtain ⟨v, -, h⟩ := bind_eq_ok h
  obtain ⟨ty, -, h⟩ := bind_eq_ok h
  obtain ⟨n, -, h⟩ := bind_eq_ok h
  obtain ⟨st, -, h⟩ := bind_eq_ok h
  split_ifs at h
  obtain rfl := Except.ok.inj h
  exact ⟨(Option.filter_eq_some_iff.1 (PlacedOrder.orPayloadError_ok hle)).2,
    (Option.filter_eq_some_iff.1 (PlacedOrder.orPayloadError_ok hcid)).2⟩

/-- Two texts cut at their first colon. -/
theorem append_colon_inj {a b c d : List Char} (ha : ':' ∉ a) (hb : ':' ∉ b)
    (h : a ++ ':' :: c = b ++ ':' :: d) : a = b ∧ c = d := by
  induction a generalizing b with
  | nil =>
    cases b with
    | nil => exact ⟨rfl, (List.cons.inj h).2⟩
    | cons y ys => exact absurd (List.cons.inj h).1 fun e => hb (e ▸ List.mem_cons_self)
  | cons x xs ih =>
    cases b with
    | nil => exact absurd (List.cons.inj h).1 fun e => ha (e ▸ List.mem_cons_self)
    | cons y ys =>
      obtain ⟨hx, ht⟩ := List.cons.inj h
      obtain ⟨hxs, hcd⟩ := ih (fun m => ha (List.mem_cons_of_mem _ m))
        (fun m => hb (List.mem_cons_of_mem _ m)) ht
      exact ⟨by rw [hx, hxs], hcd⟩

theorem toList_markerText (t l c : String) :
    (markerText t l c).toList =
      "baobab-customer:".toList ++ (t.toList ++ ':' :: (l.toList ++ ':' :: c.toList)) := by
  have h : (":" : String).toList = [':'] := rfl
  unfold markerText
  simp only [String.toList_append, h, List.append_assoc, List.cons_append, List.nil_append]

/-- A shortened marker is not the text of any marker: they differ after the
common prefix. -/
theorem shortened_ne_markerText (x t l c : String) :
    "baobab-customer-sha256:" ++ x ≠ markerText t l c := by
  intro he
  have hl := congrArg String.toList he
  have hs : "baobab-customer-sha256:".toList = "baobab-customer".toList ++ "-sha256:".toList := rfl
  have hp : "baobab-customer:".toList = "baobab-customer".toList ++ [':'] := rfl
  rw [toList_markerText, String.toList_append, hs, hp, List.append_assoc, List.append_assoc] at hl
  have hc := List.append_cancel_left hl
  exact absurd (List.cons.inj hc).1 (by decide)

/-- **The marker tells its tenant, legal entity and customer apart**, where the
tenant and legal-entity ids are well formed and SHA-256 does not collide on the
marker texts. -/
theorem marker_injective {H : Hashes} {t l c t' l' c' : String}
    (hsha : ∀ x y, H.sha256 x = H.sha256 y → x = y) (ht : Identifiers.isTenantId t = true)
    (ht' : Identifiers.isTenantId t' = true) (hl : Identifiers.isLegalEntityId l = true)
    (hl' : Identifiers.isLegalEntityId l' = true) (h : marker H t l c = marker H t' l' c') :
    t = t' ∧ l = l' ∧ c = c' := by
  have text : markerText t l c = markerText t' l' c' := by
    unfold marker at h
    dsimp only at h
    split_ifs at h with h₁ h₂ h₂
    · exact h
    · exact absurd h.symm (shortened_ne_markerText _ _ _ _)
    · exact absurd h (shortened_ne_markerText _ _ _ _)
    · have he := congrArg String.toList h
      rw [String.toList_append, String.toList_append] at he
      exact hsha _ _ (String.toList_inj.1 (List.append_cancel_left he))
  have he := congrArg String.toList text
  rw [toList_markerText, toList_markerText] at he
  obtain ⟨htl, he⟩ := append_colon_inj (Identifiers.isTenantId_colon ht)
    (Identifiers.isTenantId_colon ht') (List.append_cancel_left he)
  obtain ⟨hll, hcl⟩ := append_colon_inj (Identifiers.isLegalEntityId_colon hl)
    (Identifiers.isLegalEntityId_colon hl') he
  exact ⟨String.toList_inj.1 htl, String.toList_inj.1 hll, String.toList_inj.1 hcl⟩

end CustomerProjection

end BaobabErp
