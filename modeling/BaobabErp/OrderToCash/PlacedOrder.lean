/-
# The Trade order an `order.placed` event asks ERP to carry

`modules/order_to_cash/placed_order.py`: whether the data of a stored event is a
valid commerce order, with the reason when it is not.  Only what ERP needs is
read; a member that is present must be well formed.
-/

import BaobabErp.Events.CloudEvent

namespace BaobabErp

open Python

/-- The value, or a `PayloadError` with this reason. -/
def orPayloadError {α : Type} (value : Option α) (reason : String) : Except String α :=
  match value with
  | some a => .ok a
  | none => .error reason

namespace PlacedOrder

def maxLines : Nat := 500

structure PlacedLine where
  lineId : String
  skuId : String
  quantity : String
  unit : String
  unitPrice : String
deriving DecidableEq, Repr

end PlacedOrder

structure PlacedOrder where
  legalEntityId : String
  commerceOrderId : String
  orderVersion : Int
  customerId : String
  currency : String
  lines : List PlacedOrder.PlacedLine
deriving DecidableEq, Repr

namespace PlacedOrder

/-- `^[A-Z]{3}$`. -/
def isCurrency (s : String) : Bool := s.length == 3 && s.toList.all isAsciiUpper

/-- `_resource_id`. -/
def resourceId (data : List (String × Json)) (name : String) : Except String String :=
  orPayloadError ((Json.get data name).str?.filter Identifiers.isResourceId)
    (name ++ " is missing or not a canonical resource id")

/-- `_decimal`: the text itself, once `Decimal` accepts it within its range. -/
def decimal (value : Json) (what : String) (positive : Bool) : Except String String := do
  let text ← orPayloadError value.str? (what ++ " must be a decimal string")
  let parsed ← orPayloadError (decimalOfText text) (what ++ " is not a decimal")
  if !parsed.finite || (positive && (parsed.negative || parsed.zero)) ||
      (parsed.negative && !parsed.zero) then
    .error (what ++ " is out of range")
  else
    pure text

/-- The body of the loop over `lines`, for one line. -/
def parseLine (currency : String) (seen : List String) (raw : Json) :
    Except String PlacedLine := do
  let raw ← orPayloadError raw.obj? "a line is not an object"
  let lineId ← resourceId raw "line_id"
  if lineId ∈ seen then .error "line_id repeats" else
  let quantity ← orPayloadError (Json.get raw "quantity").obj?
    "a line needs quantity and unit_price objects"
  let price ← orPayloadError (Json.get raw "unit_price").obj?
    "a line needs quantity and unit_price objects"
  let unit ← orPayloadError ((Json.get quantity "unit").str?.filter (· != ""))
    "a line quantity needs a unit"
  if (Json.get price "currency").str? ≠ some currency then
    .error "a line price is not in the order currency"
  else
  let skuId ← resourceId raw "sku_id"
  let quantity ← decimal (Json.get quantity "value") "quantity" true
  let unitPrice ← decimal (Json.get price "amount") "unit_price" false
  pure { lineId, skuId, quantity, unit, unitPrice }

/-- The loop over `lines`, in order; `seen` are the line ids already read. -/
def parseLines (currency : String) : List String → List Json → Except String (List PlacedLine)
  | _, [] => pure []
  | seen, raw :: rest => do
    let line ← parseLine currency seen raw
    let lines ← parseLines currency (line.lineId :: seen) rest
    pure (line :: lines)

/-- `parse_placed_order`. -/
def parsePlacedOrder (data : Json) : Except String PlacedOrder := do
  let data ← orPayloadError data.obj? "data is not an object"
  let legalEntityId ← orPayloadError
    ((Json.get data "legal_entity_id").str?.filter Identifiers.isLegalEntityId)
    "legal_entity_id is missing or malformed"
  let orderVersion ← orPayloadError ((Json.get data "order_version").int?.filter (1 ≤ ·))
    "order_version must be a positive integer"
  let currency ← orPayloadError ((Json.get data "currency").str?.filter isCurrency)
    "currency must be an ISO 4217 code"
  let raw ← orPayloadError ((Json.get data "lines").arr?.filter fun lines =>
    !lines.isEmpty && lines.length ≤ maxLines) "lines must be a non-empty list"
  let lines ← parseLines currency [] raw
  let commerceOrderId ← resourceId data "commerce_order_id"
  let customerId ← resourceId data "customer_id"
  pure { legalEntityId, commerceOrderId, orderVersion, customerId, currency, lines }

theorem orPayloadError_ok {α : Type} {o : Option α} {m : String} {a : α}
    (h : orPayloadError o m = .ok a) : o = some a := by
  cases o with
  | none => exact absurd h (by simp [orPayloadError])
  | some b => exact congrArg some (Except.ok.inj h)

/-- The data of an order event with one line. -/
def sampleData (legalEntity order : String) : Json :=
  .obj [("legal_entity_id", .str legalEntity), ("commerce_order_id", .str order),
    ("order_version", .int 1), ("customer_id", .str "customer-1"), ("currency", .str "EUR"),
    ("lines", .arr [.obj [("line_id", .str "line-1"), ("sku_id", .str "sku-1"),
      ("quantity", .obj [("value", .str "2"), ("unit", .str "EA")]),
      ("unit_price", .obj [("amount", .str "10.00"), ("currency", .str "EUR")])]])]

example : (parsePlacedOrder (sampleData "NABH" "order-1")).toOption = some
    ⟨"NABH", "order-1", 1, "customer-1", "EUR", [⟨"line-1", "sku-1", "2", "EA", "10.00"⟩]⟩ := by
  decide +kernel

end PlacedOrder

end BaobabErp
