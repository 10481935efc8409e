/-
# The enforcement point at the native REST egress

`modules/integration/native_finance_guard.py` and the execution markers of
`modules/order_to_cash/service.py`: what a request through the REST client has to
show before it may change a native record or run a native process.  The permits are
four context variables, set when a scope is entered and reset to what they were when
it is left.

The upper case of a character is given as far as an ASCII text can come of it: every
text it is asked for is compared with ASCII texts.
-/

import BaobabErp.Python.Dumps
import BaobabErp.Python.Objects
import BaobabErp.OrderToCash.InboxExecution
import Mathlib.Data.List.DropRight

namespace BaobabErp
namespace Egress

open Python
open OrderExecution (TenantScope)

/-! ### Texts and paths -/

/-- The characters outside ASCII whose upper case is an ASCII text. -/
def upperSpecials : List (Char × String) :=
  [('\u00df', "SS"), ('\u0131', "I"), ('\u017f', "S"), ('\ufb00', "FF"), ('\ufb01', "FI"),
   ('\ufb02', "FL"), ('\ufb03', "FFI"), ('\ufb04', "FFL"), ('\ufb05', "ST"), ('\ufb06', "ST")]

def upperChar (c : Char) : List Char :=
  if isAsciiLower c then [Char.ofNat (c.toNat - 32)]
  else ((upperSpecials.lookup c).map String.toList).getD [c]

/-- `text.upper()`. -/
def upper (s : String) : String := String.ofList (s.toList.flatMap upperChar)

/-- `urllib.parse.urlsplit` of a text that starts with a slash. -/
structure SplitUrl where
  path : List Char
  query : List Char
  fragment : List Char

/-- The part before the first `mark`, and the part after it. -/
def cutAt (mark : Char) (cs : List Char) : List Char × List Char :=
  (cs.takeWhile (· != mark), (cs.dropWhile (· != mark)).drop 1)

/-- Tabs and line ends are removed, the fragment and then the query split off. -/
def urlsplit (path : String) : SplitUrl :=
  let clean := path.toList.filter fun c => !(c == '\t' || c == '\r' || c == '\n')
  let (rest, fragment) := cutAt '#' clean
  let (target, query) := cutAt '?' rest
  ⟨target, query, fragment⟩

/-- `text.strip("/")`. -/
def stripSlashes (cs : List Char) : List Char :=
  (cs.dropWhile (· == '/')).rdropWhile (· == '/')

/-- `text.split("/")`. -/
def segments : List Char → List (List Char)
  | [] => [[]]
  | c :: cs =>
    if c == '/' then [] :: segments cs
    else match segments cs with
      | s :: rest => (c :: s) :: rest
      | [] => [[c]]

/-- `int(text)` where `text.isdigit()`.  A digit that is no decimal one makes `int`
raise, which lets no request through either. -/
def digitNumber (text : List Char) : Option Nat :=
  if text.all fun c => (digitValue c).isSome then digitsWith digitValue 10 false 0 text else none

/-! ### Request bodies -/

/-- A value of a request body: what JSON has a form for, or another object with
(or inside) it, given by what `default=str` writes for it and the integer it equals. -/
inductive Value
  | json (j : Json)
  | object (image : Json) (number : Option Int)

namespace Value

/-- What `json.dumps(value, default=str)` writes. -/
def image : Value → Json
  | json j => j
  | object j _ => j

/-- `value == n`. -/
def equals (R : Runtime) : Value → Int → Bool
  | json j, n => Json.equal R j (.int n)
  | object _ number, n => number == some n

/-- `isinstance(value, bool)`. -/
def isBool : Value → Bool
  | json (.bool _) => true
  | _ => false

/-- `isinstance(value, int) and not isinstance(value, bool) and value > 0`. -/
def isRecordId : Value → Bool
  | json (.int n) => 0 < n
  | _ => false

/-- `isinstance(value, (str, int))`. -/
def isTextOrInt : Value → Bool
  | json (.str _) => true
  | json (.int _) => true
  | json (.bool _) => true
  | _ => false

/-- `value == text`. -/
def isText (text : String) : Value → Bool
  | json (.str s) => s == text
  | _ => false

end Value

/-- The document of a dictionary with `default=str`. -/
def imageOf (members : List (String × Value)) : Json :=
  .obj (members.map fun m => (m.1, m.2.image))

/-- **The body of a request**: a dictionary, each float of which `json.dumps` can
write. -/
structure Body where
  members : List (String × Value)
  nodup : (members.map Prod.fst).Nodup
  loaded : (imageOf members).Loaded

namespace Body

def image (b : Body) : Json := imageOf b.members

/-- `json.dumps(body)` returns. -/
def serialisable (b : Body) : Bool :=
  b.members.all fun m => match m.2 with
    | .json _ => true
    | .object _ _ => false

/-- `list(body)`. -/
def keys (b : Body) : List String := b.members.map Prod.fst

/-- `body.get(name)`, or `body[name]` of a member it has. -/
def get (b : Body) (name : String) : Option Value := b.members.lookup name

/-- `{}`. -/
def empty : Body := ⟨[], List.nodup_nil, trivial⟩

end Body

/-! ### Scopes and their permits -/

/-- `IdempiereCredentials`, as far as a request depends on it. -/
structure Credentials where
  baseUrl : String
  username : String
  password : String
  clientId : Int
  roleId : Int
  organizationId : Int
  warehouseId : Option Int
  language : String
deriving DecidableEq

/-- A session as the guard sees its credentials. -/
def ofSession (σ : Session) : Credentials :=
  ⟨σ.baseUrl, σ.username, "", σ.clientId, σ.roleId, σ.organizationId, none, "en_US"⟩

/-- What `_authorised_native_action` puts into `_native_action_execution`. -/
structure NativeMarker where
  scope : TenantScope
  action : String
  reference : String
deriving DecidableEq

/-- What `_authorised_invoice_post` puts into `_invoice_post_execution`. -/
structure InvoiceMarker where
  scope : TenantScope
  invoiceId : String
deriving DecidableEq

/-- **The context variables** a request is judged by. -/
structure Context where
  /-- `_native_request`: the method, the path and the digest of the body. -/
  nativeRequest : Option (String × String × String)
  /-- `_native_action_spent`. -/
  nativeActionSpent : Bool
  nativeAction : Option NativeMarker
  invoicePost : Option InvoiceMarker

/-- The defaults of the context variables. -/
def Context.initial : Context := ⟨none, true, none, none⟩

/-- **The environment of the process.** -/
structure Gate where
  sha256 : String → String
  runtime : Runtime
  /-- `_protected_finance_runtime()`. -/
  protectedRuntime : Bool
  /-- `os.environ.get(name, "")`. -/
  environ : String → String

/-- What a call of the client, or the program around it, raises. -/
inductive Exc
  /-- `NativeFinancialMutationDenied`. -/
  | denied
  /-- `IdempiereAuthenticationError`. -/
  | authentication
  /-- `IdempiereApiError`, with its status. -/
  | api (status : Int)
  /-- Another `IdempiereClientError`. -/
  | client
  /-- Any other exception. -/
  | other (name : String)
deriving DecidableEq

/-- `if …: _denied()`. -/
def deny (refused : Bool) : Except Exc Unit := if refused then .error .denied else .ok ()

/-- `_request_digest`. -/
def requestDigest (G : Gate) (body : Body) : String := G.sha256 body.image.dumps

/-- `_require_exact_request`. -/
def requireExactRequest (G : Gate) (ctx : Context) (method path : String) (body : Body)
    (consume : Bool) : Except Exc Context := do
  deny (ctx.nativeRequest != some (upper method, path, requestDigest G body))
  deny ctx.nativeActionSpent
  pure (if consume then { ctx with nativeRequest := none, nativeActionSpent := true } else ctx)

/-! ### The rules -/

/-- `_FINANCE_TABLES`. -/
def financeTables : List String :=
  ["C_ORDER", "C_ORDERLINE", "M_INOUT", "M_INOUTLINE", "C_INVOICE", "C_INVOICELINE", "C_PAYMENT",
   "C_PAYMENTALLOCATE", "C_ALLOCATIONHDR", "C_ALLOCATIONLINE", "FACT_ACCT", "GL_JOURNAL",
   "GL_JOURNALLINE", "C_BANKSTATEMENT", "C_BANKSTATEMENTLINE", "C_CASH", "C_CASHLINE",
   "C_ACCTSCHEMA", "C_PERIOD", "C_YEAR", "C_CALENDAR", "C_CONVERSION_RATE", "C_TAX",
   "C_TAXCATEGORY"]

/-- `_CREATION_ACTIONS`. -/
def creationActions : List (String × String) :=
  [("C_ORDER", "create_sales_order"), ("M_INOUT", "create_shipment"),
   ("C_INVOICE", "create_customer_invoice"), ("C_PAYMENT", "create_payment")]

/-- `_PROCESS_ID_ENV`. -/
def processIdEnv : List (String × String) :=
  [("complete_sales_order", "IDEMPIERE_PROCESS_COMPLETE_SALES_ORDER"),
   ("complete_shipment", "IDEMPIERE_PROCESS_COMPLETE_SHIPMENT"),
   ("post_customer_invoice", "IDEMPIERE_PROCESS_POST_CUSTOMER_INVOICE"),
   ("complete_payment", "IDEMPIERE_PROCESS_COMPLETE_PAYMENT"),
   ("allocate_payment", "IDEMPIERE_PROCESS_ALLOCATE_PAYMENT")]

/-- `_COMPLETE_ACTIONS`. -/
def completeActions : List (String × String) :=
  [("C_Order_ID", "complete_sales_order"), ("M_InOut_ID", "complete_shipment"),
   ("C_Invoice_ID", "post_customer_invoice"), ("C_Payment_ID", "complete_payment")]

/-- `_company_bound` of a marker with that scope. -/
def companyBound (scope : TenantScope) (credentials : Credentials) : Bool :=
  scope.adClientId == credentials.clientId && scope.adOrgId == credentials.organizationId &&
    scope.tenantId != "" && scope.legalEntityId != ""

/-- A body does not put another company in the place of the session's. -/
def keepsCompany (R : Runtime) (data : Body) (field : String) (expected : Int) : Bool :=
  match data.get field with
  | some value => !value.isBool && value.equals R expected
  | none => true

/-- The rules for `/models/…`, the segments after the first. -/
def requireModel (G : Gate) (ctx : Context) (method : String) (data : Body)
    (credentials : Credentials) : List (List Char) → Except Exc Unit
  | [] => .error .denied
  | segment :: rest => do
    let table := upper (String.ofList segment)
    deny (!financeTables.contains table)
    deny (method != "POST" || !rest.isEmpty)
    match creationActions.lookup table, ctx.nativeAction with
    | some action, some native =>
      deny (!companyBound native.scope credentials || native.action != action)
      -- an order is created under the reference it was cleared for
      deny (table == "C_ORDER" &&
        !((data.get "POReference").any (Value.isText native.reference)))
      deny (data.members.any fun m =>
        ["DOCSTATUS", "DOCACTION", "POSTED", "PROCESSED"].contains (upper m.1))
      deny (!(keepsCompany G.runtime data "AD_Client_ID" credentials.clientId &&
        keepsCompany G.runtime data "AD_Org_ID" credentials.organizationId))
    | _, _ => .error .denied

/-- The keys of `_COMPLETE_ACTIONS` among the keys of a body. -/
def presentIds (keys : List String) : List String :=
  (completeActions.map Prod.fst).filter keys.contains

/-- The action of a process call, by the documents it names. -/
def completeAction (keys : List String) : Option String :=
  match presentIds keys with
  | ["C_Invoice_ID", "C_Payment_ID"] => some "allocate_payment"
  | [key] => completeActions.lookup key
  | _ => none

/-- The other parameters a process call has to have. -/
def processParameters (data : Body) (action : String) : Bool :=
  if action == "allocate_payment" then
    !data.keys.contains "DocAction" && (data.get "Amount").any Value.isTextOrInt
  else (data.get "DocAction").any (Value.isText "CO")

/-- `set(data) == required_keys`. -/
def exactKeys (data : Body) (action : String) : Bool :=
  let required := presentIds data.keys ++
    [if action == "allocate_payment" then "Amount" else "DocAction"]
  data.keys.all required.contains && required.all data.keys.contains

/-- The number of the process an installation has for an action. -/
def configuredProcess (G : Gate) (action : String) : Option Nat :=
  (processIdEnv.lookup action).bind fun name => digitNumber (G.environ name).toList

/-- The company and, unless it posts an invoice, the action a process call needs. -/
def processBound (ctx : Context) (action : String) (credentials : Credentials) : Bool :=
  if action == "post_customer_invoice" then
    ctx.invoicePost.any fun marker => companyBound marker.scope credentials
  else
    ctx.nativeAction.any fun native =>
      companyBound native.scope credentials && native.action == action

/-- The rules for `/processes/…`, the segments after the first. -/
def requireProcess (G : Gate) (ctx : Context) (method : String) (data : Body)
    (credentials : Credentials) : List (List Char) → Except Exc Unit
  | [segment] => do
    deny (method != "POST" || (digitNumber segment).getD 0 == 0)
    deny ((presentIds data.keys).isEmpty ||
      (presentIds data.keys).any fun key => !((data.get key).any Value.isRecordId))
    match completeAction data.keys with
    | some action =>
      deny (!processParameters data action)
      deny ((configuredProcess G action).getD 0 == 0 ||
        configuredProcess G action != digitNumber segment)
      deny (!exactKeys data action)
      deny (!processBound ctx action credentials)
    | none => .error .denied
  | _ => .error .denied

/-- **`require_native_financial_authority`**: raises, or gives the context it leaves. -/
def requireNativeFinancialAuthority (G : Gate) (ctx : Context) (method path : String)
    (body : Option Body) (credentials : Credentials) (consume : Bool) : Except Exc Context :=
  if !G.protectedRuntime || !(["POST", "PUT", "PATCH", "DELETE"].contains (upper method)) then .ok ctx
  else
    let target := urlsplit path
    let data := body.getD Body.empty
    match segments (stripSlashes target.path) with
    | first :: rest =>
      if first == "models".toList || first == "processes".toList then do
        deny (!target.query.isEmpty || !target.fragment.isEmpty ||
          target.path.getLast? == some '/' || target.path.contains '%')
        (if first == "models".toList then requireModel G ctx method data credentials rest
          else requireProcess G ctx method data credentials rest)
        requireExactRequest G ctx method path data consume
      else .ok ctx
    | [] => .ok ctx

end Egress
end BaobabErp
