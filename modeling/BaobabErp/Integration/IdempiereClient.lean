/-
# The iDempiere REST client under the egress guard

`RestIdempiereClient` of `modules/integration/idempiere_client.py`, and programs
that call it inside the scopes of `order_to_cash.service` and of the guard.  A
client checks twice: before it logs in, and again, spending the permit, right
before it sends.  A request the engine answers with 401 is sent once more after a
new login.

What the engine answers may depend on everything sent before.  `wire` is what was
sent, each exchange with the numbered scopes it was sent in.
-/

import BaobabErp.Integration.NativeFinanceGuard
import BaobabErp.Scoping.Script

namespace BaobabErp
namespace Egress

open Python Scoping

/-! ### Scopes -/

/-- A request as `authorised_native_financial_request` is given it. -/
structure Request where
  method : String
  path : String
  body : Body

/-- **The scopes**: `_authorised_native_action`, `_authorised_invoice_post` and
`authorised_native_financial_request`. -/
inductive Scope
  | nativeAction (marker : NativeMarker)
  | invoicePost (marker : InvoiceMarker)
  | request (r : Request)

namespace Scope

/-- A governed scope: it grants a fresh operation. -/
def governed : Scope → Bool
  | request _ => false
  | _ => true

/-- The context inside the scope. -/
def enter (G : Gate) : Scope → Context → Context
  | nativeAction marker, ctx =>
    { ctx with nativeAction := some marker, nativeActionSpent := false }
  | invoicePost marker, ctx => { ctx with invoicePost := some marker, nativeActionSpent := false }
  | request r, ctx =>
    { ctx with nativeRequest := some (upper r.method, r.path, requestDigest G r.body) }

/-- The tokens are reset: each variable the scope set is again what it was. -/
def leave : Scope → Context → Context → Context
  | nativeAction _, before, ctx =>
    { ctx with nativeAction := before.nativeAction, nativeActionSpent := before.nativeActionSpent }
  | invoicePost _, before, ctx =>
    { ctx with invoicePost := before.invoicePost, nativeActionSpent := before.nativeActionSpent }
  | request _, before, ctx => { ctx with nativeRequest := before.nativeRequest }

end Scope

/-! ### The wire -/

/-- One HTTP request: `Request(base_url + path, data, method)` of a session. -/
structure Exchange where
  method : String
  path : String
  body : Option Json
  bearer : Option Json
  credentials : Credentials

/-- An exchange and the scopes it was sent in. -/
structure Sent where
  exchange : Exchange
  path : Path Scope

/-- What comes back: a document, a status of 400 or more with the document of the
error (an empty one where there is none), no connection, or what makes `urlopen` or
`json.loads` raise something else. -/
inductive Reply
  | value (j : Json)
  | error (status : Int) (body : Json)
  | unreachable
  | raised (name : String)

/-- **The engine and the clock.** -/
structure Network where
  reply : List Sent → Reply
  /-- `time.monotonic()` at its n-th reading, in microseconds. -/
  clock : Nat → Int

/-- The tokens a client holds; `null` is `None`. -/
structure Tokens where
  token : Json
  refreshToken : Json
  userId : Json
  expiresAt : Int

/-- A client right after `__init__`. -/
def Tokens.initial : Tokens := ⟨.null, .null, .null, 0⟩

/-- **The state of a run**: the context variables, the tokens of every client, how
often the clock was read, and what was sent. -/
structure World where
  ctx : Context
  tokens : Nat → Tokens
  ticks : Nat
  wire : List Sent

/-- The state a process starts in. -/
def World.initial : World := ⟨.initial, fun _ => .initial, 0, []⟩

/-- A computation that may raise; what it did to the world stays. -/
abbrev Act := ExceptT Exc (StateM World)

/-- A computation that only returns or raises. -/
def liftExcept {α : Type} (r : Except Exc α) : Act α := ExceptT.mk (pure r)

/-- **The clients of a program**, by number. -/
structure Deployment where
  gate : Gate
  network : Network
  clients : Nat → Credentials

section Client

variable (D : Deployment) (path : Path Scope) (i : Nat)

/-- An exception of Python's own, by name. -/
def ofRaises {α : Type} (x : Raises α) : Act α :=
  match x with
  | .ok a => pure a
  | .error name => throw (.other name)

/-- What `_send` makes of what comes back. -/
def outcome : Reply → Except Exc Json
  | .value j => .ok j
  | .error status (.obj _) => .error (if status = 401 then .authentication else .api status)
  | .error _ _ => .error (.other "AttributeError")
  | .unreachable => .error .client
  | .raised name => .error (.other name)

/-- `_send`. -/
def send (x : Exchange) : Act Json := do
  modify fun w => { w with wire := w.wire ++ [⟨x, path⟩] }
  liftExcept (outcome (D.network.reply (← get).wire))

/-- `_auth_call`: a refused login is an authentication error. -/
def authCall (authPath : String) (body : Json) : Act Json := do
  try send D path ⟨"POST", authPath, some body, none, D.clients i⟩
  catch
    | .api _ => throw .authentication
    | x => throw x

/-- `time.monotonic()`. -/
def monotonic : Act Int := do
  let w ← get
  set { w with ticks := w.ticks + 1 }
  pure (D.network.clock w.ticks)

/-- `_store_token_response`. -/
def storeTokenResponse (response : Json) : Act Json := do
  let token ← ofRaises (response.subscript "token")
  let refreshed ← ofRaises (response.getMember "refresh_token")
  let userId ← ofRaises (response.getMember "userId")
  let now ← monotonic D
  let held := (← get).tokens i
  let tokens : Tokens := ⟨token, refreshed.getD held.refreshToken, userId.getD held.userId,
    now + seconds 3540⟩
  modify fun w => { w with tokens := Function.update w.tokens i tokens }
  pure token

/-- `_authenticate`. -/
def authenticate : Act Json := do
  let creds := D.clients i
  let parameters := [("clientId", Json.int creds.clientId), ("roleId", .int creds.roleId),
    ("organizationId", .int creds.organizationId), ("language", .str creds.language)] ++
    (creds.warehouseId.map fun n => ("warehouseId", Json.int n)).toList
  let response ← authCall D path i "/auth/tokens"
    (.obj [("userName", .str creds.username), ("password", .str creds.password),
      ("parameters", .obj parameters)])
  storeTokenResponse D i response

/-- `_refresh`. -/
def refresh : Act Json := do
  let tokens := (← get).tokens i
  let response ← authCall D path i "/auth/refresh"
    (.obj [("refresh_token", tokens.refreshToken), ("clientId", .int (D.clients i).clientId),
      ("userId", tokens.userId)])
  storeTokenResponse D i response

/-- The part of `_ensure_token` without a token that is still good. -/
def renewToken : Act Json := do
  if ((← get).tokens i).refreshToken.isNull then authenticate D path i
  else
    try refresh D path i
    catch
      -- the refresh token has expired or was used: a full login
      | .authentication => authenticate D path i
      | x => throw x

/-- `_ensure_token`. -/
def ensureToken : Act Json := do
  let tokens := (← get).tokens i
  if tokens.token.isNull then renewToken D path i
  else if (← monotonic D) < tokens.expiresAt then pure tokens.token
  else renewToken D path i

/-- `require_native_financial_authority`, in the context of the call. -/
def requireAuthority (method target : String) (body : Option Body) (consume : Bool) : Act Unit := do
  let w ← get
  let ctx ← liftExcept (requireNativeFinancialAuthority D.gate w.ctx method target body
    (D.clients i) consume)
  set { w with ctx := ctx }

/-- `json.dumps(body)`, as the document it writes. -/
def dumpsBody : Option Body → Except Exc (Option Json)
  | none => .ok none
  | some b => if b.serialisable then .ok (some b.image) else .error (.other "TypeError")

/-- `_raw_request`. -/
def rawRequest (method target : String) (body : Option Body) (token : Json) : Act Json := do
  requireAuthority D i method target body true
  let data ← liftExcept (dumpsBody body)
  send D path ⟨method, target, data, some token, D.clients i⟩

/-- `_call`. -/
def clientCall (method target : String) (body : Option Body) : Act Json := do
  -- denied before even authenticating
  requireAuthority D i method target body false
  let token ← ensureToken D path i
  try rawRequest D path i method target body token
  catch
    -- the token may have been invalidated: once more with a new login
    | .authentication => do
      let token ← authenticate D path i
      rawRequest D path i method target body token
    | x => throw x

end Client

/-! ### The public methods -/

/-- **A call of a public method** of a client.  `page` is one request of `query`,
with the text `urlencode` gave its parameters. -/
inductive Call
  | getRecord (i : Nat) (table : String) (recordId : Int)
  | page (i : Nat) (table : String) (parameters : String)
  | createRecord (i : Nat) (table : String) (fields : Body)
  | updateRecord (i : Nat) (table : String) (recordId : Int) (fields : Body)
  | executeProcess (i : Nat) (processId : Int) (parameters : Body)

/-- What a public method does. -/
def Call.act (D : Deployment) (path : Path Scope) : Call → Act Json
  | getRecord i table recordId =>
    clientCall D path i "GET" ("/models/" ++ table ++ "/" ++ toString recordId) none
  | page i table parameters =>
    clientCall D path i "GET" ("/models/" ++ table ++ "?" ++ parameters) none
  | createRecord i table fields => do
    let created ← clientCall D path i "POST" ("/models/" ++ table) (some fields)
    let id ← ofRaises (created.subscript "id")
    let n ← ofRaises (id.toInt D.gate.runtime)
    pure (.int n)
  | updateRecord i table recordId fields => do
    let _ ← clientCall D path i "PUT" ("/models/" ++ table ++ "/" ++ toString recordId) (some fields)
    pure .null
  | executeProcess i processId parameters =>
    clientCall D path i "POST" ("/processes/" ++ toString processId) (some parameters)

/-- **Programs over the client**: any nesting of the scopes, with any exception
leaving or caught around them. -/
abbrev Program := Script Scope Call Json Exc Json

/-- What the scopes and the methods do to the world. -/
def semantics (D : Deployment) : Semantics Scope Call Json Exc World where
  enter s w := { w with ctx := s.enter D.gate w.ctx }
  leave s before w := { w with ctx := s.leave before.ctx w.ctx }
  perform path c w := (c.act D path).run w

/-- The world after a program, run in a process that did nothing before it. -/
def Deployment.run (D : Deployment) (p : Program) : World :=
  (Script.run (semantics D) p [] (0, World.initial)).2.2

end Egress
end BaobabErp
