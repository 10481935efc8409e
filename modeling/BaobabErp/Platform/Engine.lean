/-
# The iDempiere engine as the code sees it

`modules/integration/idempiere_client.py`: an engine session signs in with one
set of credentials and creates, looks up, reads and updates records over REST.
The engine itself is not part of the repository.  What is kept of it is the list
of records that were created, each with the session that created it and the
fields it was created with; which records a lookup of a session returns is a
parameter (`Deployment.sees`).

An installation is its `base_url`, and record ids are assigned per installation.
-/

import BaobabErp.Platform.Schema

namespace BaobabErp

open Python

/-- `IdempiereCredentials`, without the password: what a session signs in as. -/
structure Session where
  baseUrl : String
  username : String
  clientId : Int
  roleId : Int
  organizationId : Int
deriving DecidableEq, Repr

/-- `order_to_cash.model.OrderLine`. -/
structure OrderLine where
  productCanonicalId : String
  quantity : String
  unitPrice : String
deriving DecidableEq, Repr

/-- The `C_Order` record `sales_order_fields` builds. -/
structure SalesOrderFields where
  businessPartnerId : Int
  currencyIso : String
  orderLines : List OrderLine
  poReference : Option String
deriving DecidableEq, Repr

/-- The `C_BPartner` members the customer executor writes; an update leaves the
last three out. -/
structure PartnerFields where
  name : String
  isActive : Bool
  isCustomer : Bool := true
  value : Option String := none
  bpGroupId : Option Int := none
  description : Option String := none
deriving DecidableEq, Repr

/-- The body of a create or update request. -/
inductive Fields
  | order (f : SalesOrderFields)
  | partner (f : PartnerFields)
  | document (table : String) (body : List (String × Json))

/-- The tables the executors look records up in. -/
inductive Table
  | cOrder
  | cBPartner
deriving DecidableEq, Repr

namespace Fields

/-- The model the request is for. -/
def table : Fields → String
  | order _ => "C_Order"
  | partner _ => "C_BPartner"
  | document t _ => t

/-- The column the executors look the record up by: `POReference` of an order,
`Description` of a partner. -/
def lookup : Fields → Option (Table × String)
  | order f => f.poReference.map (Table.cOrder, ·)
  | partner f => f.description.map (Table.cBPartner, ·)
  | document _ _ => none

/-- What is left of a record after an update with `new`: the members the update
sends replace those the record has. -/
def merge (old new : Fields) : Fields :=
  match old, new with
  | partner o, partner n =>
    partner { o with name := n.name, isActive := n.isActive, isCustomer := n.isCustomer }
  | o, _ => o

theorem lookup_merge (old new : Fields) : (old.merge new).lookup = old.lookup := by
  unfold merge
  split <;> rfl

theorem table_merge (old new : Fields) : (old.merge new).table = old.table := by
  unfold merge
  split <;> rfl

end Fields

/-- A record of the engine.  `creator` is the claim in whose execution it was
created, `none` for a record something else created. -/
structure EngineRecord where
  id : Int
  home : Session
  fields : Fields
  creator : Option Ticket

/-- Two records are the same engine record: one table and id of one installation. -/
def EngineRecord.sameIdentity (a b : EngineRecord) : Bool :=
  a.home.baseUrl == b.home.baseUrl && a.fields.table == b.fields.table && a.id == b.id

/-- **The deployment**: hash functions, environment, the credentials per
AD_Client, and the records a session of the engine is shown. -/
structure Deployment where
  hashes : Hashes
  /-- `_protected_finance_runtime()`. -/
  protectedRuntime : Bool
  /-- `IDEMPIERE_CLIENT_CREDENTIALS_JSON`, keyed by AD_Client. -/
  credentials : Int → Option Session
  sees : Session → EngineRecord → Bool

end BaobabErp
