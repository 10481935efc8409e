/-
# Bootstrapping master data

`CanonicalMasterRecord` and `IdempiereMasterDataBootstrapper.bootstrap` of
`modules/provisioning/master_data.py` and `master_data_adapter.py`.  A record that is
not mapped yet is created in the engine; a mapped one is updated when its content
differs, unless its version is older than the one that is mapped.

Every call, of the engine or of the mapping store, may raise; a mapping that could not
be written may have been written all the same.
-/

import BaobabErp.Python.DumpsUnicode
import BaobabErp.Python.Text
import Mathlib.Logic.Function.Basic

namespace BaobabErp
namespace MasterData

open Python

/-! ### Records -/

/-- `MasterDataKind`. -/
inductive MasterDataKind
  | product
  | uom
  | businessPartner
  | currency
  | taxCategory
  | paymentTerm
  | productAccounting
deriving DecidableEq

/-- `kind.value`. -/
def MasterDataKind.value : MasterDataKind → String
  | product => "product"
  | uom => "uom"
  | businessPartner => "business_partner"
  | currency => "currency"
  | taxCategory => "tax_category"
  | paymentTerm => "payment_term"
  | productAccounting => "product_accounting"

/-- `TABLES[kind]`; product accounting has none. -/
def MasterDataKind.table : MasterDataKind → String
  | product => "M_Product"
  | uom => "C_UOM"
  | businessPartner => "C_BPartner"
  | currency => "C_Currency"
  | taxCategory => "C_TaxCategory"
  | paymentTerm => "C_PaymentTerm"
  | productAccounting => ""

/-- `CanonicalMasterRecord`, with a payload `json.dumps` can write. -/
structure CanonicalMasterRecord where
  kind : MasterDataKind
  canonicalId : String
  externalKey : String
  legalEntityId : String
  payload : List (String × Json)
  contractVersion : String
  sourceVersion : String
  writable : (Json.obj payload).Floats Json.AsciiFloat

/-- What a call raises. -/
inductive Exc
  /-- `MasterDataError`. -/
  | masterData (message : String)
  /-- `ValueError`. -/
  | value (message : String)
  /-- What the client or the store raised. -/
  | raised
deriving DecidableEq

/-- `text.strip()` is not empty. -/
def present (text : String) : Bool := strip text != ""

namespace CanonicalMasterRecord

/-- `validate`. -/
def validate (r : CanonicalMasterRecord) : Except Exc Unit :=
  if !present r.canonicalId then .error (.masterData "canonical_id is required")
  else if !present r.externalKey then .error (.masterData "external_key is required")
  else if !present r.legalEntityId then .error (.masterData "legal_entity_id is required")
  else if !present r.contractVersion then .error (.masterData "contract_version is required")
  else if !present r.sourceVersion then .error (.masterData "source_version is required")
  else .ok ()

/-- What is hashed. -/
def document (r : CanonicalMasterRecord) : Json :=
  .obj [("kind", .str r.kind.value), ("canonical_id", .str r.canonicalId),
    ("external_key", .str r.externalKey), ("legal_entity_id", .str r.legalEntityId),
    ("payload", .obj r.payload), ("contract_version", .str r.contractVersion),
    ("source_version", .str r.sourceVersion)]

/-- `digest`. -/
def digest (sha256 : String → String) (r : CanonicalMasterRecord) : String :=
  sha256 r.document.dumpsUnicode

/-- `_fields`: the payload, with `Value` and `IsActive` where it has none. -/
def fields (r : CanonicalMasterRecord) : List (String × Json) :=
  let setDefault := fun (p : List (String × Json)) (name : String) (value : Json) =>
    if (p.lookup name).isSome then p else p ++ [(name, value)]
  setDefault (setDefault r.payload "Value" (.str r.externalKey)) "IsActive" (.bool true)

end CanonicalMasterRecord

/-! ### Versions -/

/-- `int(text)`, which refuses more than 4300 digits. -/
def versionNumber (text : String) : Option Int :=
  if (text.toList.filter fun c => (digitValue c).isSome).length ≤ 4300 then intOfText text else none

/-- `_is_stale`. -/
def isStale (incoming mapped : String) : Bool :=
  match versionNumber incoming, versionNumber mapped with
  | some i, some m => i < m
  | _, _ => false

/-! ### The engine and the mappings -/

/-- The primary key of `erp_master_data_mapping`. -/
structure Key where
  engineInstanceId : String
  legalEntityId : String
  kind : MasterDataKind
  canonicalId : String
deriving DecidableEq

/-- A row of `erp_master_data_mapping`. -/
structure Mapping where
  nativeId : Int
  desiredDigest : String
  sourceVersion : String
deriving DecidableEq

/-- A call of the engine. -/
inductive Call
  | getRecord (table : String) (id : Int)
  | createRecord (table : String) (fields : List (String × Json))
  | updateRecord (table : String) (id : Int) (fields : List (String × Json))

/-- The call writes to the engine. -/
def Call.writes : Call → Bool
  | getRecord .. => false
  | _ => true

/-- **The surroundings of a run**: the hash, what the engine answers after the calls so
far (`none` where the call raises, the id of a record it created), and which accesses of
the mapping store raise, some after they took effect. -/
structure Surroundings where
  sha256 : String → String
  answer : List Call → Option Int
  failure : Nat → Option Bool

/-- **The state**: the mappings, what the engine was asked, how often the store was used. -/
structure World where
  mappings : Key → Option Mapping
  calls : List Call
  accesses : Nat

/-- What became of a record. -/
inductive Drift
  /-- `…: product accounting requires approved accounting process`. -/
  | accounting (canonicalId : String)
  /-- `…: incoming source_version … is not newer than mapped …; not applying, needs
  reconciliation`. -/
  | notNewer (canonicalId incoming mapped : String)
deriving DecidableEq

inductive Outcome
  | created
  | reused
  | updated
  | drift (d : Drift)
deriving DecidableEq

section Bootstrap

variable (S : Surroundings)

/-- A call of the client. -/
def ask (c : Call) (w : World) : Except Exc Int × World :=
  let w := { w with calls := w.calls ++ [c] }
  match S.answer w.calls with
  | some id => (.ok id, w)
  | none => (.error .raised, w)

/-- `mappings.get`. -/
def getMapping (k : Key) (w : World) : Except Exc (Option Mapping) × World :=
  let found := w.mappings k
  match S.failure w.accesses with
  | none => (.ok found, { w with accesses := w.accesses + 1 })
  | some _ => (.error .raised, { w with accesses := w.accesses + 1 })

/-- `mappings.put`. -/
def putMapping (k : Key) (m : Mapping) (w : World) : Except Exc Unit × World :=
  let stored := { w with mappings := Function.update w.mappings k (some m) }
  match S.failure w.accesses with
  | none => (.ok (), { stored with accesses := w.accesses + 1 })
  | some true => (.error .raised, { stored with accesses := w.accesses + 1 })
  | some false => (.error .raised, { w with accesses := w.accesses + 1 })

/-- The key of a record in one call. -/
def keyOf (engineInstanceId legalEntityId : String) (r : CanonicalMasterRecord) : Key :=
  ⟨engineInstanceId, legalEntityId, r.kind, r.canonicalId⟩

/-- The end of both branches that write: the mapping is put. -/
def record (k : Key) (r : CanonicalMasterRecord) (id : Int) (outcome : Outcome) (w : World) :
    Except Exc Outcome × World :=
  match putMapping S k ⟨id, r.digest S.sha256, r.sourceVersion⟩ w with
  | (.ok (), w) => (.ok outcome, w)
  | (.error x, w) => (.error x, w)

/-- A record that is mapped. -/
def reconcileMapped (k : Key) (r : CanonicalMasterRecord) (m : Mapping) (w : World) :
    Except Exc Outcome × World :=
  match ask S (.getRecord r.kind.table m.nativeId) w with
  | (.error x, w) => (.error x, w)
  | (.ok _, w) =>
    if m.desiredDigest = r.digest S.sha256 then (.ok .reused, w)
    else if isStale r.sourceVersion m.sourceVersion then
      (.ok (.drift (.notNewer r.canonicalId r.sourceVersion m.sourceVersion)), w)
    else match ask S (.updateRecord r.kind.table m.nativeId r.fields) w with
      | (.error x, w) => (.error x, w)
      | (.ok _, w) => record S k r m.nativeId .updated w

/-- A record that is not. -/
def createUnmapped (k : Key) (r : CanonicalMasterRecord) (w : World) : Except Exc Outcome × World :=
  match ask S (.createRecord r.kind.table r.fields) w with
  | (.error x, w) => (.error x, w)
  | (.ok id, w) => record S k r id .created w

/-- **One turn of the loop.** -/
def reconcile (engineInstanceId legalEntityId : String) (r : CanonicalMasterRecord) (w : World) :
    Except Exc Outcome × World :=
  match r.validate with
  | .error x => (.error x, w)
  | .ok () =>
    if r.legalEntityId ≠ legalEntityId then
      (.error (.value ("cross-legal-entity master data: " ++ r.canonicalId)), w)
    else if r.kind = .productAccounting then (.ok (.drift (.accounting r.canonicalId)), w)
    else
      let k := keyOf engineInstanceId legalEntityId r
      match getMapping S k w with
      | (.error x, w) => (.error x, w)
      | (.ok (some m), w) => reconcileMapped S k r m w
      | (.ok none, w) => createUnmapped S k r w

/-- The loop: it ends at the first record that raises. -/
def reconcileAll (engineInstanceId legalEntityId : String) :
    List CanonicalMasterRecord → World → Except Exc (List Outcome) × World
  | [], w => (.ok [], w)
  | r :: rs, w =>
    match reconcile S engineInstanceId legalEntityId r w with
    | (.error x, w) => (.error x, w)
    | (.ok outcome, w) =>
      match reconcileAll engineInstanceId legalEntityId rs w with
      | (.error x, w) => (.error x, w)
      | (.ok outcomes, w) => (.ok (outcome :: outcomes), w)

/-- `BootstrapResult`. -/
structure BootstrapResult where
  desired : Nat
  created : Nat
  reused : Nat
  updated : Nat
  drift : List Drift

/-- The result of the outcomes of a loop. -/
def resultOf (outcomes : List Outcome) : BootstrapResult :=
  let drift := outcomes.filterMap fun | .drift d => some d | _ => none
  let created := outcomes.count .created
  let reused := outcomes.count .reused
  let updated := outcomes.count .updated
  ⟨created + reused + updated + drift.length, created, reused, updated, drift⟩

/-- **`bootstrap`.** -/
def bootstrap (engineInstanceId legalEntityId : String) (records : List CanonicalMasterRecord)
    (w : World) : Except Exc BootstrapResult × World :=
  match reconcileAll S engineInstanceId legalEntityId records w with
  | (.error x, w) => (.error x, w)
  | (.ok outcomes, w) => (.ok (resultOf outcomes), w)

end Bootstrap

end MasterData
end BaobabErp
