/-
# Physical stock, read live from the engine

`IdempiereStockReader` of `modules/inventory/availability.py`: what is on hand and what
is reserved for one product and warehouse, and a revision, the latest second in which
one of the rows read was updated.

Quantities are `Decimal`s: a sum is rounded to 28 digits.  `int(instant.timestamp())`
goes through a double.
-/

import BaobabErp.Integration.Filter
import BaobabErp.Numeric.Significant
import BaobabErp.Python.Calendar
import BaobabErp.Python.Decimal
import Mathlib.Data.Rat.Floor

namespace BaobabErp
namespace Inventory

open Python Numeric

/-- A record of the engine, as its members. -/
abbrev Members := List (String × Json)

/-- What a reading raises: `StockReadError`, or what the client raises. -/
inductive ReadError
  | stock (message : String)
  | client (typeName : String)
deriving DecidableEq

/-! ### Values -/

/-- `_reference`. -/
def reference (value : Option Json) (what : String) : Except ReadError Nat :=
  let refused := Except.error (.stock (what ++ " is not a record reference"))
  let digits := fun s : String =>
    -- a digit that is no decimal one makes `int` raise instead
    if s.toList ≠ [] ∧ s.toList.all fun c => (digitValue c).isSome then
      (digitsWith digitValue 10 false 0 s.toList).elim refused .ok
    else refused
  match value with
  | some (.obj members) => match members.lookup "id" with
    | some (.int n) => if 0 ≤ n then .ok n.toNat else refused
    | some (.str s) => digits s
    | _ => refused
  | some (.int n) => if 0 ≤ n then .ok n.toNat else refused
  | some (.str s) => digits s
  | _ => refused

/-- The value of a finite decimal. -/
def decimalValue (d : Decimal) : ℚ :=
  (if d.negative then -1 else 1) * d.coefficient * (10 : ℚ) ^ d.exponent

/-- `Decimal(text)`, when it is a finite number. -/
def decimalText (text what : String) : Except ReadError ℚ :=
  match Decimal.ofText text with
  | some d => .ok (decimalValue d)
  | none =>
    if (decimalOfText text).isSome then .error (.stock (what ++ " is not finite"))
    else .error (.stock (what ++ " is not a number"))

/-- `_quantity`. -/
def quantity (value : Option Json) (what : String) : Except ReadError ℚ :=
  match value with
  | some (.int n) => .ok n
  | some (.float text) => decimalText text what
  | some (.str text) => decimalText text what
  | _ => .error (.stock (what ++ " is not a number"))

/-- The microseconds from the epoch to a datetime, a naive one taken as UTC. -/
def microsSinceEpoch (t : DateTime) : Int :=
  t.wallClock - t.offset.getD 0 - 719163 * 86400000000

/-- `int(instant.timestamp())`: the nearest double, cut towards zero. -/
def timestamp (t : DateTime) : Int :=
  let seconds : ℚ := significant 2 53 ((microsSinceEpoch t : ℚ) / 1000000)
  if 0 ≤ seconds then ⌊seconds⌋ else ⌈seconds⌉

/-- `value.replace("Z", "+00:00")`. -/
def zuluReplaced (text : String) : String :=
  String.ofList (text.toList.flatMap fun c => if c == 'Z' then "+00:00".toList else [c])

/-- `_updated`. -/
def updated (value : Option Json) : Except ReadError Int :=
  match value with
  | some (.str text) =>
    match DateTime.fromisoformat (zuluReplaced text) with
    | some t => .ok (timestamp t)
    | none => .error (.stock "a stock row has an unreadable Updated instant")
  | _ => .error (.stock "a stock row has no Updated instant")

/-- `x + y` of two decimals. -/
def plus (x y : ℚ) : ℚ := significant 10 28 (x + y)

/-! ### The reading -/

/-- The two methods of the client it uses. -/
structure Client where
  getRecord : String → Nat → Except ReadError Members
  query : String → List RestQuery.Eq → List String → Except ReadError (List Members)

/-- `StockFacts`. -/
structure StockFacts where
  onHand : ℚ
  allocated : ℚ
  unit : String
  revision : Int
deriving DecidableEq

/-- `_UOM_CODE.fullmatch(code)`, and no more than 24 characters. -/
def isUnitCode (code : String) : Bool :=
  match code.toList with
  | [] => false
  | c :: cs => (isAsciiUpper c || isAsciiDigit c) && cs.length < 24 &&
      cs.all fun d => isAsciiUpper d || isAsciiDigit d || d == '.' || d == '_' || d == '/' || d == '-'

/-- `_unit`. -/
def unitOf (C : Client) (product : Nat) : Except ReadError String := do
  let record ← C.getRecord "M_Product" product
  let uom ← reference (record.lookup "C_UOM_ID") "C_UOM_ID"
  let unit ← C.getRecord "C_UOM" uom
  match unit.lookup "X12DE355" with
  | some (.str code) =>
    if isUnitCode code then .ok code
    else .error (.stock "the product's unit of measure has no usable X12 code")
  | _ => .error (.stock "the product's unit of measure has no usable X12 code")

/-- The locators of the records, `M_Locator_ID` or else `id`. -/
def locatorIds : List Members → Except ReadError (List Nat)
  | [] => .ok []
  | row :: rows => do
    let first ← reference ((row.lookup "M_Locator_ID").or (row.lookup "id")) "M_Locator_ID"
    let rest ← locatorIds rows
    return first :: rest

/-- The loop over `M_StorageOnHand`. -/
def addOnHand (locators : List Nat) : List Members → ℚ × Int → Except ReadError (ℚ × Int)
  | [], sum => .ok sum
  | row :: rows, (onHand, revision) => do
    let locator ← reference (row.lookup "M_Locator_ID") "M_Locator_ID"
    if locator ∈ locators then
      let qty ← quantity (row.lookup "QtyOnHand") "QtyOnHand"
      let second ← updated (row.lookup "Updated")
      addOnHand locators rows (plus onHand qty, max revision second)
    else addOnHand locators rows (onHand, revision)

/-- The loop over `M_StorageReservation`. -/
def addAllocated : List Members → ℚ × Int → Except ReadError (ℚ × Int)
  | [], sum => .ok sum
  | row :: rows, (allocated, revision) => do
    let qty ← quantity (row.lookup "Qty") "Qty"
    let second ← updated (row.lookup "Updated")
    addAllocated rows (plus allocated qty, max revision second)

/-- `read`. -/
def read (C : Client) (product warehouse : Nat) : Except ReadError StockFacts := do
  let unit ← unitOf C product
  let locators ← locatorIds (← C.query "M_Locator" [⟨"M_Warehouse_ID", .int warehouse⟩]
    ["M_Locator_ID"])
  let (onHand, revision) ← addOnHand locators
    (← C.query "M_StorageOnHand" [⟨"M_Product_ID", .int product⟩]
      ["M_Locator_ID", "QtyOnHand", "Updated"]) (0, 0)
  let (allocated, revision) ← addAllocated
    (← C.query "M_StorageReservation" [⟨"M_Product_ID", .int product⟩,
      ⟨"M_Warehouse_ID", .int warehouse⟩, ⟨"IsSOTrx", .bool true⟩] ["Qty", "Updated"]) (0, revision)
  -- `revision or 1`
  return ⟨onHand, allocated, unit, if revision = 0 then 1 else revision⟩

/-! ### An engine with stock -/

/-- A reference as the engine writes it. -/
structure Reference where
  json : Json
  id : Nat
  reads : reference (some json) "M_Locator_ID" = .ok id

/-- A quantity as the engine writes it. -/
structure Quantity where
  json : Json
  value : ℚ
  reads : ∀ what, quantity (some json) what = .ok value

/-- An `Updated` instant as the engine writes it. -/
structure Stamp where
  text : String
  instant : DateTime
  reads : DateTime.fromisoformat (zuluReplaced text) = some instant

/-- A row of `M_StorageOnHand` or of `M_StorageReservation`. -/
inductive StockRow
  | storage (product : Nat) (locator : Reference) (qtyOnHand : Quantity) (updated : Stamp)
  | reservation (product warehouse : Nat) (isSOTrx : Bool) (qty : Quantity) (updated : Stamp)

/-- A row of `M_Locator`. -/
structure Locator where
  warehouse : Nat
  locator : Reference

/-- **The engine**: its stock rows in the order it serves them, and what does not change
with the stock. -/
structure Engine where
  records : String → Nat → Except ReadError Members
  locators : List Locator
  rows : List StockRow

namespace Engine

/-- The record of a row of `M_StorageOnHand` of a product. -/
def storageRecord (product : Nat) : StockRow → Option Members
  | .storage p locator qty updated =>
    if p = product then some [("M_Locator_ID", locator.json), ("QtyOnHand", qty.json),
      ("Updated", .str updated.text)]
    else none
  | .reservation .. => none

/-- The record of a sales reservation of a product in a warehouse. -/
def reservationRecord (product warehouse : Nat) : StockRow → Option Members
  | .storage .. => none
  | .reservation p w isSOTrx qty updated =>
    if p = product ∧ w = warehouse ∧ isSOTrx then
      some [("Qty", qty.json), ("Updated", .str updated.text)]
    else none

/-- **What the engine answers** to the reads of a reader. -/
def client (e : Engine) : Client where
  getRecord := e.records
  query table conditions _ :=
    match table, conditions with
    | "M_Locator", [⟨_, .int w⟩] =>
      .ok ((e.locators.filter fun l => (l.warehouse : Int) = w).map fun l =>
        [("M_Locator_ID", l.locator.json)])
    | "M_StorageOnHand", [⟨_, .int p⟩] => .ok (e.rows.filterMap (storageRecord p.toNat))
    | "M_StorageReservation", [⟨_, .int p⟩, ⟨_, .int w⟩, _] =>
      .ok (e.rows.filterMap (reservationRecord p.toNat w.toNat))
    | _, _ => .error (.client "IdempiereApiError")

end Engine

end Inventory
end BaobabErp
