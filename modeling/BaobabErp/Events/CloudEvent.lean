/-
# Identifiers, the event registry and the event envelope

`modules/mapping/identifiers.py`, `modules/events/registry.py` and
`modules/events/cloudevent.py`: the identifier grammars, the types ERP produces
and consumes, and the CloudEvents envelope with the rules `validate` enforces.

`uuid.uuid5`, SHA-256 and PostgreSQL's `hashtextextended` are the functions of a
`Hashes`: nothing that is proved about the code depends on which functions they
are, and a statement that needs one to be free of collisions says so.
-/

import BaobabErp.Python.Values
import Mathlib.Tactic.SplitIfs

namespace BaobabErp

/-- The hash functions of the standard library and of the database. -/
structure Hashes where
  /-- `str(uuid.uuid5(uuid.UUID(namespace), name))`. -/
  uuid5 : String → String → String
  /-- `hashlib.sha256(text.encode()).hexdigest()`. -/
  sha256 : String → String
  /-- `hashtextextended(key, 0)`. -/
  hashtext : String → Int

namespace Identifiers

open Python

/-- `^[A-Z][A-Z0-9]*(?:-[A-Z0-9]+)*$`, after its first character; `last` says
whether the previous character was not a hyphen. -/
def legalEntityTail : Bool → List Char → Bool
  | last, [] => last
  | last, c :: cs =>
    if c == '-' then last && legalEntityTail false cs
    else (isAsciiUpper c || isAsciiDigit c) && legalEntityTail true cs

/-- `identifiers.tenant_id(value)` does not raise. -/
def isTenantId (s : String) : Bool :=
  6 ≤ s.length && s.length ≤ 63 && "tn_".toList.isPrefixOf s.toList &&
    (s.toList.drop 3).all fun c => isAsciiLower c || isAsciiDigit c

/-- `identifiers.legal_entity_id(value)` does not raise. -/
def isLegalEntityId (s : String) : Bool :=
  3 ≤ s.length && s.length ≤ 63 && match s.toList with
    | c :: cs => isAsciiUpper c && legalEntityTail true cs
    | [] => false

/-- `^[A-Za-z0-9][A-Za-z0-9._:-]{2,127}$`, a canonical resource id. -/
def isResourceId (s : String) : Bool :=
  3 ≤ s.length && s.length ≤ 128 && match s.toList with
    | c :: cs => isAsciiAlnum c && cs.all isIdTail
    | [] => false

/-- `^erp_[a-z0-9]{4,59}$`, the check of every public ERP identifier column. -/
def isErpResourceId (s : String) : Bool :=
  8 ≤ s.length && s.length ≤ 63 && "erp_".toList.isPrefixOf s.toList &&
    (s.toList.drop 4).all fun c => isAsciiLower c || isAsciiDigit c

theorem legalEntityTail_mem : ∀ {last : Bool} {cs : List Char}, legalEntityTail last cs = true →
    ∀ c ∈ cs, c = '-' ∨ isAsciiUpper c = true ∨ isAsciiDigit c = true
  | _, [], _, _, h => absurd h List.not_mem_nil
  | last, d :: cs, h, c, hc => by
      rw [legalEntityTail] at h
      split_ifs at h with hd
      · rw [Bool.and_eq_true] at h
        rcases List.mem_cons.1 hc with rfl | hc
        · exact .inl (by simpa using hd)
        · exact legalEntityTail_mem h.2 c hc
      · rw [Bool.and_eq_true, Bool.or_eq_true] at h
        rcases List.mem_cons.1 hc with rfl | hc
        · exact .inr h.1
        · exact legalEntityTail_mem h.2 c hc

/-- A legal-entity id has no colon. -/
theorem isLegalEntityId_colon {s : String} (h : isLegalEntityId s = true) : ':' ∉ s.toList := by
  intro hc
  rw [isLegalEntityId, Bool.and_eq_true] at h
  obtain ⟨-, h⟩ := h
  split at h
  · rename_i c cs hs
    rw [hs] at hc
    rw [Bool.and_eq_true] at h
    rcases List.mem_cons.1 hc with rfl | hc
    · exact absurd h.1 (by decide)
    · rcases legalEntityTail_mem h.2 _ hc with hc | hc | hc <;> revert hc <;> decide
  · exact absurd h (by decide)

/-- A tenant id has no colon. -/
theorem isTenantId_colon {s : String} (h : isTenantId s = true) : ':' ∉ s.toList := by
  intro hc
  rw [isTenantId, Bool.and_eq_true, Bool.and_eq_true] at h
  obtain ⟨⟨-, hp⟩, h⟩ := h
  rw [← (List.prefix_iff_eq_append.1 (List.isPrefixOf_iff_prefix.1 hp))] at hc
  rcases List.mem_append.1 hc with hc | hc
  · revert hc; decide
  · have := List.all_eq_true.1 h ':' hc
    revert this; decide

end Identifiers

namespace Registry

def erpSource : String := "urn:baobab-platform:service:baobab-erp"

def sourcePrefix : String := "urn:baobab-platform:service:"

def contractHost : String := "https://contracts.baobab-platform.com/"

def erpSchema (schema : String) : String := contractHost ++ "erp/v1/" ++ schema ++ ".schema.json"

/-- `PRODUCED`: the types ERP may emit and the schema of each. -/
def produced : List (String × String) :=
  [("com.baobab-platform.erp.business-partner.changed.v1", erpSchema "business-partner-projection"),
   ("com.baobab-platform.erp.inventory.availability-changed.v1", erpSchema "inventory-availability"),
   ("com.baobab-platform.erp.invoice.changed.v1", erpSchema "invoice-outcome"),
   ("com.baobab-platform.erp.order.consequence-changed.v1", erpSchema "order-consequence-status"),
   ("com.baobab-platform.erp.payment.accounting-changed.v1", erpSchema "payment-outcome"),
   ("com.baobab-platform.erp.provisioning.changed.v1", erpSchema "provisioning-state"),
   ("com.baobab-platform.erp.warehouse.changed.v1", erpSchema "warehouse-projection"),
   ("com.baobab-platform.customer.buyer-commercial-profile.changed.v1",
     contractHost ++
       "buyer-organisation/v1/events.schema.json#/$defs/buyerCommercialProfileChangedEventData")]

/-- `CONSUMED`: the types ERP accepts, the schema and the producing repository of each. -/
def consumed : List (String × String × String) :=
  [("com.baobab-platform.trade.order.placed.v1", erpSchema "commerce-order-consequence",
     "baobab-trade"),
   ("com.baobab-platform.trade.customer.projected.v1", erpSchema "customer-projection",
     "baobab-trade")]

/-- `dataschema_for(event_type)`; `none` stands for the `KeyError`. -/
def dataschemaFor (type : String) : Option String :=
  (produced.lookup type).orElse fun _ => (consumed.lookup type).map Prod.fst

end Registry

/-! ### The envelope -/

structure CloudEvent where
  id : String
  type : String
  source : String
  subject : String
  time : Python.Instant
  dataschema : String
  baobabscope : String
  correlationid : String
  data : Python.Json
  tenantid : Option String := none
  causationid : Option String := none
  idempotencykey : Option String := none
  traceparent : Option String := none
  tracestate : Option String := none

namespace CloudEvent

open Python

/-- `[a-z0-9]+(?:[.-][a-z0-9]+)*`; `last` says whether the previous character was
a letter or a digit. -/
def typeName : Bool → List Char → Bool
  | last, [] => last
  | last, c :: cs =>
    if c == '.' || c == '-' then last && typeName false cs
    else (isAsciiLower c || isAsciiDigit c) && typeName true cs

/-- `_TYPE`: `com.baobab-platform.`, the name and a final `.v` with a positive number. -/
def isType (s : String) : Bool :=
  let pre := "com.baobab-platform.".toList
  let body := s.toList.drop pre.length
  let digits := body.reverse.takeWhile isAsciiDigit
  let name := (body.reverse.dropWhile isAsciiDigit).reverse
  pre.isPrefixOf s.toList && (match digits.reverse with
    | d :: _ => d != '0'
    | [] => false) &&
  (name.drop (name.length - 2) == ".v".toList) && typeName false (name.take (name.length - 2))

/-- `_IDEMPOTENCY` and the length rule of an idempotency key. -/
def isIdempotencyKey (s : String) : Bool :=
  16 ≤ s.length && s.length ≤ 128 && match s.toList with
    | c :: cs => isAsciiAlnum c && cs.all isIdTail
    | [] => false

def isLowerHex (c : Char) : Bool := isAsciiDigit c || ('a' ≤ c && c ≤ 'f')

/-- `_TRACEPARENT`. -/
def isTraceparent (s : String) : Bool :=
  let cs := s.toList
  let trace := (cs.drop 3).take 32
  let span := (cs.drop 36).take 16
  cs.length == 55 && "00-".toList.isPrefixOf cs && trace.all isLowerHex && trace.any (· != '0') &&
    cs[35]? == some '-' && span.all isLowerHex && span.any (· != '0') && cs[52]? == some '-' &&
    (cs.drop 53).all isLowerHex

/-- `_TRACESTATE` and its length rule. -/
def isTracestate (s : String) : Bool :=
  1 ≤ s.length && s.length ≤ 512 && s.toList.all fun c => ' ' ≤ c && c ≤ '~'

/-- `_absolute_uri`: of at most `limit` characters, with a scheme. -/
def isAbsoluteUri (s : String) (limit : Nat) : Bool :=
  let scheme := s.toList.takeWhile (· != ':')
  s.length != 0 && s.length ≤ limit && scheme.length < s.toList.length && (match scheme with
    | c :: cs => (isAsciiUpper c || isAsciiLower c) &&
        cs.all fun c => isAsciiAlnum c || c == '+' || c == '-' || c == '.'
    | [] => false)

/-- A rule of the envelope: `message` is raised unless `ok`. -/
def require (ok : Bool) (message : String) : Except String Unit :=
  if ok then .ok () else .error message

/-- `CloudEvent.validate`, with the text of the `EnvelopeError` it raises. -/
def validate (e : CloudEvent) : Except String CloudEvent := do
  require (uuidValue e.id).isSome "id must be a UUID"
  require (uuidValue e.correlationid).isSome "correlationid must be a UUID"
  require (e.causationid.all fun c => (uuidValue c).isSome) "causationid must be a UUID"
  require (e.type.length ≤ 255 && isType e.type)
    "type must be a versioned com.baobab-platform.* event type"
  require (isAbsoluteUri e.source 255) "source must be an absolute URI of at most 255 characters"
  require (isAbsoluteUri e.dataschema 512)
    "dataschema must be an absolute URI of at most 512 characters"
  require (1 ≤ e.subject.length && e.subject.length ≤ 255) "subject must be 1-255 characters"
  require (e.baobabscope == "platform" || e.baobabscope == "tenant")
    "baobabscope must be platform or tenant"
  match e.tenantid with
  | none => require (e.baobabscope != "tenant") "a tenant-scoped event requires tenantid"
  | some tenant =>
    require (e.baobabscope == "tenant")
      "a platform-scoped event must not carry tenantid (no default tenant)"
    require (Identifiers.isTenantId tenant) "tenantid is not a canonical tenant identifier"
  require (e.idempotencykey.all isIdempotencyKey)
    "idempotencykey does not match the canonical grammar"
  require (e.traceparent.all isTraceparent)
    "traceparent must be a W3C trace context version 00 value"
  require (e.tracestate.all isTracestate) "tracestate is not a valid W3C trace state"
  require e.data.obj?.isSome "data must be an object"
  pure e

/-- `new_event`. The random id of the source is the argument `id`: every builder
replaces it by a derived one before the event is seen. -/
def newEvent (id type subject correlationId : String) (data : Json) (tenantId : Option String)
    (time : Instant) (idempotencyKey : Option String) : Except String CloudEvent :=
  match Registry.produced.lookup type with
  | none => .error (type ++ " is not an event type baobab-erp produces")
  | some schema => validate
      { id, type, source := Registry.erpSource, subject, time, dataschema := schema,
        baobabscope := if tenantId.any (· != "") then "tenant" else "platform",
        correlationid := correlationId, data, tenantid := tenantId,
        idempotencykey := idempotencyKey }

/-- The correlation every builder of an event uses: the supplied one when it is a
UUID, else one derived from `name`. -/
def correlation (H : Hashes) (ns name : String) (supplied : Option String) : String :=
  ((supplied.getD "None") |> canonicalUuid).getD (H.uuid5 ns name)

/-! What `validate` lets through it does not change. -/

theorem require_bind {α : Type} {ok : Bool} {m : String} {f : Unit → Except String α} {a : α}
    (h : (require ok m >>= f) = .ok a) : ok = true ∧ f () = .ok a := by
  cases ok with
  | false => exact absurd h (by simp [require, bind, Except.bind])
  | true => exact ⟨rfl, by simpa [require, bind, Except.bind] using h⟩

theorem validate_eq {e e' : CloudEvent} (h : validate e = .ok e') : e' = e := by
  unfold validate at h
  replace h := (require_bind h).2
  replace h := (require_bind h).2
  replace h := (require_bind h).2
  replace h := (require_bind h).2
  replace h := (require_bind h).2
  replace h := (require_bind h).2
  replace h := (require_bind h).2
  replace h := (require_bind h).2
  split at h
  · replace h := (require_bind h).2
    replace h := (require_bind h).2
    replace h := (require_bind h).2
    replace h := (require_bind h).2
    replace h := (require_bind h).2
    exact (Except.ok.inj h).symm
  · replace h := (require_bind h).2
    replace h := (require_bind h).2
    replace h := (require_bind h).2
    replace h := (require_bind h).2
    replace h := (require_bind h).2
    replace h := (require_bind h).2
    exact (Except.ok.inj h).symm

theorem valid_of_isSome {e : CloudEvent} (h : (validate e).toOption.isSome = true) :
    ∃ e', validate e = .ok e' := by
  cases hv : validate e with
  | error m =>
    rw [hv] at h
    cases h
  | ok e' => exact ⟨e', rfl⟩

/-- An event with another id, time, data and idempotency key is as well formed. -/
theorem validate_congr {e e' : CloudEvent} (h : (validate e).toOption.isSome = true)
    (hid : (uuidValue e'.id).isSome = true) (hkey : e'.idempotencykey.all isIdempotencyKey = true)
    (hdata : e'.data.obj?.isSome = true)
    (hsame : e = { e' with
      id := e.id, time := e.time, data := e.data, idempotencykey := e.idempotencykey }) :
    validate e' = .ok e' := by
  obtain ⟨y, hv⟩ := valid_of_isSome h
  unfold validate at hv
  rw [hsame] at hv
  obtain ⟨-, hv⟩ := require_bind hv
  obtain ⟨h₂, hv⟩ := require_bind hv
  obtain ⟨h₃, hv⟩ := require_bind hv
  obtain ⟨h₄, hv⟩ := require_bind hv
  obtain ⟨h₅, hv⟩ := require_bind hv
  obtain ⟨h₆, hv⟩ := require_bind hv
  obtain ⟨h₇, hv⟩ := require_bind hv
  obtain ⟨h₈, hv⟩ := require_bind hv
  dsimp only at h₂ h₃ h₄ h₅ h₆ h₇ h₈ hv
  unfold validate
  split at hv
  · obtain ⟨h₉, hv⟩ := require_bind hv
    obtain ⟨-, hv⟩ := require_bind hv
    obtain ⟨h₁₁, hv⟩ := require_bind hv
    obtain ⟨h₁₂, hv⟩ := require_bind hv
    simp only [require, hid, h₂, h₃, h₄, h₅, h₆, h₇, h₈, h₉, hkey, h₁₁, h₁₂, hdata, if_true,
      bind, Except.bind, pure, Except.pure]
  · obtain ⟨h₉, hv⟩ := require_bind hv
    obtain ⟨h₁₀, hv⟩ := require_bind hv
    obtain ⟨-, hv⟩ := require_bind hv
    obtain ⟨h₁₁, hv⟩ := require_bind hv
    obtain ⟨h₁₂, hv⟩ := require_bind hv
    simp only [require, hid, h₂, h₃, h₄, h₅, h₆, h₇, h₉, Bool.or_true, h₁₀, hkey, h₁₁, h₁₂,
      hdata, if_true, bind, Except.bind, pure, Except.pure]

/-- The idempotency key of a well formed event. -/
theorem key_of_valid {e : CloudEvent} (h : (validate e).toOption.isSome = true) :
    e.idempotencykey.all isIdempotencyKey = true := by
  obtain ⟨e', h⟩ := valid_of_isSome h
  unfold validate at h
  replace h := (require_bind h).2
  replace h := (require_bind h).2
  replace h := (require_bind h).2
  replace h := (require_bind h).2
  replace h := (require_bind h).2
  replace h := (require_bind h).2
  replace h := (require_bind h).2
  replace h := (require_bind h).2
  split at h
  · exact (require_bind (require_bind h).2).1
  · exact (require_bind (require_bind (require_bind h).2).2).1

/-- A digit at the end of a key may be another one. -/
theorem isIdempotencyKey_digit {s : String} {c c' : Char} (hc' : isAsciiDigit c' = true)
    (h : isIdempotencyKey (s ++ String.singleton c) = true) :
    isIdempotencyKey (s ++ String.singleton c') = true := by
  unfold isIdempotencyKey at h ⊢
  rw [Bool.and_eq_true] at h ⊢
  obtain ⟨hlen, htail⟩ := h
  rw [String.length_append, String.length_singleton] at hlen ⊢
  refine ⟨hlen, ?_⟩
  rw [String.toList_append, String.toList_singleton] at htail ⊢
  cases hs : s.toList with
  | nil =>
    have h0 : s.length = 0 := by rw [← String.length_toList, hs]; rfl
    rw [h0] at hlen
    simp at hlen
  | cons a as =>
    rw [hs, List.cons_append] at htail
    rw [List.cons_append]
    simp only [Bool.and_eq_true, List.all_append, List.all_cons, List.all_nil, Bool.and_true]
      at htail ⊢
    refine ⟨htail.1, htail.2.1, ?_⟩
    simp [isIdTail, isAsciiAlnum, hc']

end CloudEvent

end BaobabErp
