/-
# Receiving an inbound event

`modules/inbox/service.py` and `modules/inbox/postgres_store.py`, with `from_wire`,
`validate` and `check_consumable` of `modules/events/cloudevent.py` on a document as
`json.loads` returns it: a member may be any value and a text may hold any code point.
The columns are those of migrations 0005 and 0013.
-/

import BaobabErp.OrderToCash.Service
import BaobabErp.Python.Calendar
import BaobabErp.Python.Loads

namespace BaobabErp
namespace Inbox

open Python
open OrderToCash (postgresUuid)

/-- What a delivery may raise.  A `UnicodeEncodeError` is a `ValueError`. -/
inductive Raised
  | invalidSignature
  /-- `EnvelopeError`. -/
  | envelope (message : PyStr)
  /-- Another `ValueError`. -/
  | value
  | type
  | overflow
  | recursion
  /-- An error of the database, or of the driver about a value it does not send. -/
  | database

/-- `isinstance(x, ValueError)`. -/
def Raised.isValueError : Raised → Bool
  | .envelope _ => true
  | .value => true
  | _ => false

/-- **What the code runs with**: the standard library and the limits of the interpreter and
the database. -/
structure Runtime where
  /-- `hmac.new(secret.encode(), body, hashlib.sha256).hexdigest()`. -/
  hmac : String → List UInt8 → String
  /-- How deep the interpreter recurses. -/
  recursion : Nat
  /-- `urlsplit` refuses the network location: its brackets, or what it normalises to. -/
  badNetloc : String → Bool
  /-- A `jsonb` takes the size and the nesting of the document. -/
  jsonbFits : PyJson → Bool

/-! ### `verify_signature` -/

/-- `verify_signature`; `compare_digest` takes ASCII texts only. -/
def verifySignature (R : Runtime) (body : List UInt8) (signature secret : String) : Except Raised Bool :=
  if body.isEmpty || signature == "" || secret == "" then .ok false
  else
    let scheme := "sha256=".toList
    let supplied := if scheme.isPrefixOf signature.toList then signature.toList.drop scheme.length
      else signature.toList
    if supplied.all fun c => c.toNat < 128 then .ok (supplied == (R.hmac secret body).toList)
    else .error .type

/-! ### Reading the members -/

abbrev Members := List (PyStr × PyJson)

/-- `members[name]`. -/
def member (members : Members) (name : String) : Option PyJson := members.lookup (PyStr.ofString name)

/-- `value == text`. -/
def isText (value : PyJson) (text : String) : Bool :=
  match value with
  | .str s => s == PyStr.ofString text
  | _ => false

/-- `str(value)` where it may be a UUID or a time: the text of any other value has a
bracket or a quote, or is too short. -/
def textOf : PyJson → Option String
  | .str s => some s.shown
  | .int n => some (toString n)
  | _ => none

/-- The value of a UUID, canonically written. -/
def uuidOf (value : PyJson) : Option String := (textOf value).bind canonicalUuid

def refuse {α : Type} (message : String) : Except Raised α := .error (.envelope (PyStr.ofString message))

/-- A rule of the envelope. -/
def require (ok : Bool) (message : String) : Except Raised Unit := if ok then .ok () else refuse message

/-- `_uuid`, whose value nobody reads. -/
def checkUuid (value : PyJson) (name : String) : Except Raised Unit :=
  require (uuidOf value).isSome (name ++ " must be a UUID")

/-- `datetime.fromisoformat(str(value).replace("Z", "+00:00"))`. -/
def readTime (value : PyJson) : Option DateTime :=
  (textOf value).bind fun text => DateTime.fromisoformat (String.ofList
    (text.toList.flatMap fun c => if c = 'Z' then "+00:00".toList else [c]))

/-- A wall clock from year 1 to year 9999. -/
def inCalendar (wallClock : Int) : Bool :=
  86400000000 ≤ wallClock && wallClock < 3652060 * 86400000000

/-- The microseconds from the epoch of `DateTime.wallClock` to 1970. -/
def epoch : Int := 719163 * 86400000000

/-- `_timestamp`. -/
def timestamp (value : PyJson) : Except Raised Instant :=
  match readTime value with
  | none => refuse "time must be an RFC 3339 date-time"
  | some t =>
    match t.offset with
    | none => refuse "time must include a timezone"
    | some offset =>
      if inCalendar (t.wallClock - offset) then .ok (t.wallClock - offset - epoch) else .error .overflow

/-! ### `urlsplit` -/

/-- `scheme_chars`. -/
def isSchemeChar (c : Char) : Bool := isAsciiAlnum c || c == '+' || c == '-' || c == '.'

/-- The URL without its scheme, and whether it has one. -/
def splitScheme (url : List Char) : Bool × List Char :=
  let scheme := url.takeWhile (· != ':')
  if scheme.length < url.length ∧ scheme.head?.any (fun c => isAsciiUpper c || isAsciiLower c) ∧
      scheme.all isSchemeChar then (true, url.drop (scheme.length + 1))
  else (false, url)

/-- `urlsplit(url).scheme` is not empty. -/
def hasScheme (R : Runtime) (url : String) : Except Raised Bool :=
  let url := (url.toList.dropWhile fun c => c ≤ ' ').filter fun c => c ≠ '\t' ∧ c ≠ '\r' ∧ c ≠ '\n'
  let (scheme, rest) := splitScheme url
  if rest.take 2 = "//".toList ∧ R.badNetloc (String.ofList ((rest.drop 2).takeWhile fun c =>
      c ≠ '/' ∧ c ≠ '?' ∧ c ≠ '#')) then .error .value
  else .ok scheme

/-- `_absolute_uri`. -/
def checkUri (R : Runtime) (value : PyJson) (name : String) (limit : Nat) : Except Raised Unit :=
  match value with
  | .str s =>
    if s.isEmpty || limit < s.length then
      refuse (name ++ " must be an absolute URI of at most " ++ toString limit ++ " characters")
    else do
      require (← hasScheme R s.shown) (name ++ " must be an absolute URI")
  | _ => refuse (name ++ " must be an absolute URI of at most " ++ toString limit ++ " characters")

/-! ### The envelope -/

/-- `CloudEvent` as `from_wire` builds it, before it is validated. -/
structure Received where
  id : PyJson
  type : PyJson
  source : PyJson
  subject : PyJson
  time : Instant
  dataschema : PyJson
  baobabscope : PyJson
  correlationid : PyJson
  data : PyJson
  tenantid : Option PyJson
  causationid : Option PyJson
  idempotencykey : Option PyJson
  traceparent : Option PyJson
  tracestate : Option PyJson

def checkCause : Option PyJson → Except Raised Unit
  | some cause => checkUuid cause "causationid"
  | none => .ok ()

def checkType : PyJson → Except Raised Unit
  | .str s =>
    require (s.length ≤ 255 && CloudEvent.isType s.shown)
      "type must be a versioned com.baobab-platform.* event type"
  | _ => refuse "type must be a versioned com.baobab-platform.* event type"

def checkSubject : PyJson → Except Raised Unit
  | .str s => require (1 ≤ s.length && s.length ≤ 255) "subject must be 1-255 characters"
  | _ => refuse "subject must be 1-255 characters"

def checkTenant : Option PyJson → Except Raised Unit
  | none => refuse "a tenant-scoped event requires tenantid"
  | some (.str s) =>
    require (Identifiers.isTenantId s.shown) "tenantid is not a canonical tenant identifier"
  | some _ => refuse "tenantid is not a canonical tenant identifier"

def checkScope (scope : PyJson) (tenant : Option PyJson) : Except Raised Unit :=
  if isText scope "tenant" then checkTenant tenant
  else if isText scope "platform" then
    require tenant.isNone "a platform-scoped event must not carry tenantid (no default tenant)"
  else refuse "baobabscope must be platform or tenant"

/-- The rules of `validate` up to the scope. -/
def checkHeader (R : Runtime) (e : Received) : Except Raised Unit := do
  checkUuid e.id "id"
  checkUuid e.correlationid "correlationid"
  checkCause e.causationid
  checkType e.type
  checkUri R e.source "source" 255
  checkUri R e.dataschema "dataschema" 512
  checkSubject e.subject
  checkScope e.baobabscope e.tenantid

/-- `low <= len(value) <= high and pattern.fullmatch(value)` of an optional member: what has
no length, and what is no text where its length will do, is a `TypeError`. -/
def checkSized (value : Option PyJson) (low high : Nat) (pattern : String → Bool) (message : String) :
    Except Raised Unit :=
  match value with
  | none => .ok ()
  | some (.str s) => require (low ≤ s.length && s.length ≤ high && pattern s.shown) message
  | some (.arr items) => if low ≤ items.length ∧ items.length ≤ high then .error .type else refuse message
  | some (.obj members) =>
    if low ≤ members.length ∧ members.length ≤ high then .error .type else refuse message
  | some _ => .error .type

/-- `pattern.fullmatch(value)` of an optional member. -/
def checkPattern (value : Option PyJson) (pattern : String → Bool) (message : String) :
    Except Raised Unit :=
  match value with
  | none => .ok ()
  | some (.str s) => require (pattern s.shown) message
  | some _ => .error .type

def checkData : PyJson → Except Raised Unit
  | .obj _ => .ok ()
  | _ => refuse "data must be an object"

/-- The rules of `validate` after the scope. -/
def checkOptional (e : Received) : Except Raised Unit := do
  checkSized e.idempotencykey 16 128 CloudEvent.isIdempotencyKey
    "idempotencykey does not match the canonical grammar"
  checkPattern e.traceparent CloudEvent.isTraceparent
    "traceparent must be a W3C trace context version 00 value"
  checkSized e.tracestate 1 512 CloudEvent.isTracestate "tracestate is not a valid W3C trace state"
  checkData e.data

/-- `validate`. -/
def validate (R : Runtime) (e : Received) : Except Raised Received := do
  checkHeader R e
  checkOptional e
  pure e

/-! ### `from_wire` -/

def requiredNames : List String :=
  ["specversion", "id", "type", "source", "subject", "time", "datacontenttype", "dataschema",
    "baobabscope", "correlationid", "data"]

def optionalNames : List String :=
  ["causationid", "tenantid", "idempotencykey", "traceparent", "tracestate"]

/-- The order of `sorted`, by code points. -/
def codeUnits (s : PyStr) : List Nat := s.map fun
  | .scalar c => c.toNat
  | .surrogate n => 0xD800 + n

/-- `", ".join(names)`. -/
def joinNames : List PyStr → PyStr
  | [] => []
  | [name] => name
  | name :: names => name ++ PyStr.ofString ", " ++ joinNames names

/-- The checks of `from_wire` before it builds the event. -/
def membersOf (value : PyJson) : Except Raised Members :=
  match value with
  | .obj members =>
    let known := (requiredNames ++ optionalNames).map PyStr.ofString
    let unknown := ((members.map Prod.fst).filter fun name => !known.contains name).mergeSort
      fun s t => decide (codeUnits s ≤ codeUnits t)
    let missing := requiredNames.filter fun name => (member members name).isNone
    if !unknown.isEmpty then
      .error (.envelope (PyStr.ofString "unknown envelope members: " ++ joinNames unknown))
    else if !missing.isEmpty then
      refuse ("missing envelope members: " ++ ", ".intercalate missing)
    else if !(member members "specversion").any (isText · "1.0") then refuse "specversion must be 1.0"
    else if !(member members "datacontenttype").any (isText · "application/json") then
      refuse "datacontenttype must be application/json"
    else if optionalNames.any fun name => (member members name).any fun
        | .null => true
        | _ => false then
      refuse "optional members must be omitted, not null"
    else .ok members
  | _ => refuse "an event must be a JSON object"

/-- The event of the members. -/
def eventOf (members : Members) (time : Instant) : Received :=
  let value := fun name => (member members name).getD .null
  { id := value "id", type := value "type", source := value "source", subject := value "subject"
    time, dataschema := value "dataschema", baobabscope := value "baobabscope"
    correlationid := value "correlationid", data := value "data"
    tenantid := member members "tenantid", causationid := member members "causationid"
    idempotencykey := member members "idempotencykey", traceparent := member members "traceparent"
    tracestate := member members "tracestate" }

/-- What `from_wire` builds. -/
def construct (value : PyJson) : Except Raised Received := do
  let members ← membersOf value
  let time ← timestamp ((member members "time").getD .null)
  pure (eventOf members time)

/-- `from_wire`. -/
def fromWire (R : Runtime) (value : PyJson) : Except Raised Received := do
  validate R (← construct value)

/-! ### `check_consumable` -/

/-- `accepted_sources`. -/
def acceptedSources (producer : String) : List String :=
  let bare := if "baobab-".toList.isPrefixOf producer.toList then
    String.ofList (producer.toList.drop "baobab-".length) else producer
  [Registry.sourcePrefix ++ producer, Registry.sourcePrefix ++ bare]

/-- The text of the type, which `validate` has found to be one. -/
def Received.typeText (e : Received) : PyStr :=
  match e.type with
  | .str s => s
  | _ => []

/-- `check_consumable`. -/
def checkConsumable (e : Received) : Except Raised Received :=
  let after := fun message => PyStr.ofString message ++ e.typeText
  match Registry.consumed.find? fun entry => e.typeText == PyStr.ofString entry.1 with
  | none => .error (.envelope (e.typeText ++ PyStr.ofString " is not an event type baobab-erp consumes"))
  | some (_, schema, producer) =>
    if !isText e.dataschema schema then
      .error (.envelope (after "dataschema does not match the registered schema for "))
    else if !(acceptedSources producer).any (isText e.source) then
      .error (.envelope (after "source is not the registered producer of "))
    else if !isText e.baobabscope "tenant" then
      .error (.envelope (e.typeText ++ PyStr.ofString " is tenant-scoped"))
    else .ok e

/-! ### `PostgresInboxStore` -/

/-- The columns `record_received` writes. -/
structure InboxRow where
  eventId : String
  eventType : String
  tenantId : Option String
  payload : PyJson
  source : String
  subject : String
  dataschema : String
  scope : String
  correlationId : String
  causationId : Option String
  idempotencyKey : Option String
  traceparent : Option String
  tracestate : Option String
  time : Instant

/-- The key of `event_inbox_cloudevent_source_id_unique`. -/
def InboxRow.key (row : InboxRow) : String × String := (row.source, row.eventId)

/-- **`baobab.event_inbox`**, its canonical rows. -/
structure EventInbox where
  rows : List InboxRow
  unique : (rows.map InboxRow.key).Nodup

/-- A parameter as the driver sends it. -/
inductive Param
  | text (s : String)
  | number (n : Int)
deriving DecidableEq

/-- A value as a parameter: a text is encoded, and has no NUL. -/
def Param.of : PyJson → Except Raised Param
  | .str s =>
    match s.encode with
    | none => .error .value
    | some chars => if chars.toList.contains '\x00' then .error .database else .ok (.text chars)
  | .int n => .ok (.number n)
  | _ => .error .database

/-- The same of a nullable one. -/
def Param.ofOption : Option PyJson → Except Raised (Option Param)
  | none => .ok none
  | some value => (Param.of value).map some

/-- `%s::uuid`; a number has no cast. -/
def Param.uuid : Param → Except Raised String
  | .text s =>
    match postgresUuid s with
    | some id => .ok id
    | none => .error .database
  | .number _ => .error .database

/-- `%s` for a column of texts. -/
def Param.column : Param → Except Raised String
  | .text s => .ok s
  | .number _ => .error .database

/-- The same of nullable ones. -/
def nullable {α : Type} (cast : Param → Except Raised α) : Option Param → Except Raised (Option α)
  | none => .ok none
  | some p => (cast p).map some

/-- No unit is zero, and every surrogate is in a pair. -/
def wellPaired : List Nat → Bool
  | [] => true
  | high :: low :: us =>
    if isHigh high then isLow low && wellPaired us
    else high != 0 && !isLow high && wellPaired (low :: us)
  | [unit] => unit != 0 && !isHigh unit && !isLow unit

/-- A text as `json.dumps` escapes it, two surrogates side by side as the pair they read as. -/
def jsonbText (s : PyStr) : Bool := wellPaired (s.flatMap CodePoint.units)

mutual

/-- **`jsonb` takes the text that `json.dumps` writes of the value**: `NaN` and `Infinity`
are no JSON, `\u0000` and half a pair are no text. -/
def jsonbTakes : PyJson → Bool
  | .null => true
  | .bool _ => true
  | .int _ => true
  | .float x => x.isFinite
  | .str s => jsonbText s
  | .arr items => jsonbTakesItems items
  | .obj members => jsonbTakesMembers members

def jsonbTakesItems : List PyJson → Bool
  | [] => true
  | x :: xs => jsonbTakes x && jsonbTakesItems xs

def jsonbTakesMembers : List (PyStr × PyJson) → Bool
  | [] => true
  | (name, x) :: members => jsonbText name && jsonbTakes x && jsonbTakesMembers members

end

/-- `%s::jsonb` of `json.dumps(data)`. -/
def jsonbParam (R : Runtime) (data : PyJson) : Except Raised PyJson :=
  if R.jsonbFits data && jsonbTakes data then .ok data else .error .database

/-- `event_inbox_format_complete`, of a canonical row. -/
def InboxRow.complete (row : InboxRow) : Bool :=
  row.scope == "tenant" && row.tenantId.isSome &&
    "com.baobab-platform.".toList.isPrefixOf row.eventType.toList

/-- `exists`. -/
def existsEvent (s : EventInbox) (e : Received) : Except Raised Bool := do
  let source ← Param.of e.source
  let id ← Param.of e.id
  let key := (← source.column, ← id.uuid)
  pure ((s.rows.map InboxRow.key).contains key)

/-- `INSERT … ON CONFLICT (ce_source, event_id) DO NOTHING`. -/
def EventInbox.insert (s : EventInbox) (row : InboxRow) : EventInbox :=
  if h : row.key ∈ s.rows.map InboxRow.key then s
  else ⟨s.rows ++ [row], by
    rw [List.map_append, List.nodup_append]
    refine ⟨s.unique, List.nodup_singleton _, fun a ha b hb hab => h ?_⟩
    rw [← List.mem_singleton.1 hb, ← hab]
    exact ha⟩

/-- `record_received`: every parameter is sent before the statement looks at any. -/
def recordReceived (R : Runtime) (s : EventInbox) (e : Received) : Except Raised EventInbox := do
  let id ← Param.of e.id
  let type ← Param.of e.type
  let tenant ← Param.ofOption e.tenantid
  let source ← Param.of e.source
  let subject ← Param.of e.subject
  let dataschema ← Param.of e.dataschema
  let scope ← Param.of e.baobabscope
  let correlation ← Param.of e.correlationid
  let cause ← Param.ofOption e.causationid
  let key ← Param.ofOption e.idempotencykey
  let parent ← Param.ofOption e.traceparent
  let state ← Param.ofOption e.tracestate
  let row : InboxRow :=
    { eventId := ← id.uuid, eventType := ← type.column, tenantId := ← nullable Param.column tenant
      payload := ← jsonbParam R e.data, source := ← source.column, subject := ← subject.column
      dataschema := ← dataschema.column, scope := ← scope.column
      correlationId := ← correlation.uuid, causationId := ← nullable Param.uuid cause
      idempotencyKey := ← nullable Param.column key, traceparent := ← nullable Param.column parent
      tracestate := ← nullable Param.column state, time := e.time }
  if row.complete then pure (s.insert row) else throw .database

/-! ### `receive` -/

/-- What the body says, parsed and checked. -/
def accept (R : Runtime) (body : List UInt8) : Except Raised Received :=
  match loads R.recursion body with
  | .error .decode => .error .value
  | .error .value => .error .value
  | .error .recursion => .error .recursion
  | .ok value => do checkConsumable (← fromWire R value)

/-- **`receive`**, the inbox as each of its two transactions finds it: what comes of it, and
the inbox it leaves. -/
def receive (R : Runtime) (body : List UInt8) (signature secret : String) (atExists atRecord : EventInbox) :
    Except Raised Received × EventInbox :=
  match verifySignature R body signature secret with
  | .error x => (.error x, atRecord)
  | .ok false => (.error .invalidSignature, atRecord)
  | .ok true =>
    match accept R body with
    | .error x => (.error x, atRecord)
    | .ok e =>
      match existsEvent atExists e with
      | .error x => (.error x, atRecord)
      | .ok true => (.ok e, atRecord)
      | .ok false =>
        match recordReceived R atRecord e with
        | .error x => (.error x, atRecord)
        | .ok left => (.ok e, left)

end Inbox
end BaobabErp
