/-
# The accounting outcomes of invoices and payments

`modules/order_to_cash/accounting_outcomes.py`: the facts of a document are read
back from the engine after its native process ran, a status is drawn from them, and
a change is announced with an event of its own.  A fact that is missing or makes no
sense is an `AccountingFactError`; an engine call that fails raises what it raises.
-/

import BaobabErp.OrderToCash.OutcomeStore
import BaobabErp.OrderToCash.InboxExecution
import BaobabErp.Python.Decimal
import BaobabErp.Python.Objects

namespace BaobabErp
namespace Accounting

open Python Concurrency
open OrderExecution (textOf)

/-! ### Facts -/

/-- `Money`. -/
structure Money where
  amount : String
  currency : String
deriving DecidableEq, Repr

/-- `Money.contract`. -/
def Money.contract (m : Money) : Json :=
  .obj [("amount", .str m.amount), ("currency", .str m.currency)]

/-- `InvoiceFacts`. -/
structure InvoiceFacts where
  number : String
  total : Money
  completed : Bool
  paid : Bool
deriving DecidableEq, Repr

/-- `PaymentFacts`. -/
structure PaymentFacts where
  amount : Money
  completed : Bool
  fullyAllocated : Bool
deriving DecidableEq, Repr

/-- `AccountingFactError`. -/
def factError : Exc := .other "AccountingFactError"

/-! ### Columns -/

/-- `_code`: a reference comes back as a dictionary with its `id`. -/
def codeOf (value : Json) : Option String :=
  let value := match value with
    | .obj m => Json.get m "id"
    | v => v
  if value.isNull then none else some (textOf value)

def lowerAscii (s : String) : String :=
  String.ofList (s.toList.map fun c => if isAsciiUpper c then Char.ofNat (c.toNat + 32) else c)

/-- `_flag`.  No other letter has one of `true`, `y` and `yes` as its lower case. -/
def flagOf : Json → Bool
  | .bool b => b
  | value => ["true", "y", "yes", "1"].contains (lowerAscii (strip (textOf value)))

/-- `value in _COMPLETED`. -/
def isCompleted (code : Option String) : Bool := code == some "CO" || code == some "CL"

/-- The characters that are digits for `str.isdigit` and none for `int`. -/
def otherDigits : List (Nat × Nat) :=
  [(0xb2, 0xb3), (0xb9, 0xb9), (0x1369, 0x1371), (0x19da, 0x19da), (0x2070, 0x2070),
   (0x2074, 0x2079), (0x2080, 0x2089), (0x2460, 0x2468), (0x2474, 0x247c), (0x2488, 0x2490),
   (0x24ea, 0x24ea), (0x24f5, 0x24fd), (0x24ff, 0x24ff), (0x2776, 0x277e), (0x2780, 0x2788),
   (0x278a, 0x2792), (0x10a40, 0x10a43), (0x10e60, 0x10e68), (0x11052, 0x1105a),
   (0x1f100, 0x1f10a)]

/-- `c.isdigit()`. -/
def isDigitChar (c : Char) : Bool :=
  (digitValue c).isSome || otherDigits.any fun r => r.1 ≤ c.toNat && c.toNat ≤ r.2

/-- `text.isdigit()`. -/
def isDigitText (s : String) : Bool := s != "" && s.toList.all isDigitChar

/-- `len(iso) == 3 and iso.isupper()` of a text. -/
def isoCode (R : Runtime) : Json → Option String
  | .str s => if s.length = 3 && R.isUpper s then some s else none
  | _ => none

/-- `int(currency.get("StdPrecision", 2))`. -/
def places (R : Runtime) (currency : List (String × Json)) : Raises Int :=
  match (currency.lookup "StdPrecision").getD (.int 2) with
  | .float "NaN" => .error "ValueError"
  | value => value.toInt R

/-! ### Reading facts from the engine -/

/-- How the amount of a document is refused or written, in a currency. -/
inductive Amount
  | invalid
  | raises (name : String)
  | text (amount : String)
deriving DecidableEq, Repr

/-- The part of `_money` after the currency was read: the amount with the places of
the currency.  Only `InvalidOperation`, `ValueError` and `TypeError` of the
conversions are caught, and none of `quantize`. -/
def amountOf (R : Runtime) (amount : Json) (currency : List (String × Json)) : Amount :=
  match decimalOfText (textOf amount) with
  | none => .invalid
  | some _ =>
    match places R currency with
    | .error name => if name = "OverflowError" then .raises name else .invalid
    | .ok n =>
      match Decimal.ofText (textOf amount) with
      | none => .invalid
      | some value =>
        if value.isNegative || n < 0 || 6 < n then .invalid
        else match value.quantize n.toNat with
          | none => .raises "InvalidOperation"
          | some rounded => .text (rounded.fixed n.toNat)

/-- `_money`. -/
def money (R : Runtime) (σ : Session) (amount currencyRef : Json) : Program Money :=
  match codeOf currencyRef with
  | none => throw factError
  | some currencyId =>
    if isDigitText currencyId then
      match intOfText currencyId with
      | none => throw (.other "ValueError")
      | some n => do
        let currency ← Call.getRecord σ "C_Currency" n
        match isoCode R (Json.get currency "ISO_Code") with
        | none => throw factError
        | some iso =>
          match amountOf R amount currency with
          | .invalid => throw factError
          | .raises name => throw (.other name)
          | .text text => pure ⟨text, iso⟩
    else throw factError

/-- The document number of an invoice, where it has one. -/
def documentNumber : Json → Option String
  | .str s => if strip s = "" || 96 < s.length then none else some s
  | _ => none

/-- `read_invoice`. -/
def readInvoice (R : Runtime) (σ : Session) (nativeId : Int) : Program InvoiceFacts := do
  let record ← Call.getRecord σ "C_Invoice" nativeId
  match documentNumber (Json.get record "DocumentNo") with
  | none => throw factError
  | some number => do
    let total ← money R σ (Json.get record "GrandTotal") (Json.get record "C_Currency_ID")
    pure ⟨number, total, isCompleted (codeOf (Json.get record "DocStatus")),
      flagOf ((record.lookup "IsPaid").getD (.bool false))⟩

/-- `read_payment`. -/
def readPayment (R : Runtime) (σ : Session) (nativeId : Int) : Program PaymentFacts := do
  let record ← Call.getRecord σ "C_Payment" nativeId
  let amount ← money R σ (Json.get record "PayAmt") (Json.get record "C_Currency_ID")
  pure ⟨amount, isCompleted (codeOf (Json.get record "DocStatus")),
    flagOf ((record.lookup "IsAllocated").getD (.bool false))⟩

/-! ### What the facts establish -/

/-- `invoice_status`, `none` for its `AccountingFactError`. -/
def invoiceStatus (facts : InvoiceFacts) (allocated : Bool) : Option String :=
  if !facts.completed then none
  else if facts.paid then some "paid"
  else some (if allocated then "partially_paid" else "posted")

/-- `payment_status`, `none` for its `AccountingFactError`. -/
def paymentStatus (facts : PaymentFacts) (allocationRequested : Bool) : Option String :=
  if !facts.completed then none
  else if facts.fullyAllocated then some "allocated"
  else some (if allocationRequested then "partially_allocated" else "posted")

/-! ### The events -/

def invoiceEvent : String := "com.baobab-platform.erp.invoice.changed.v1"

def paymentEvent : String := "com.baobab-platform.erp.payment.accounting-changed.v1"

def namespaceId : String := "0a6e1d52-8f4b-5e07-9c1a-7b3d2e9f4a60"

/-- The id of the event that announces a revision of a document. -/
def eventId (H : Hashes) (kind tenantId documentId : String) (revision : Nat) : String :=
  H.uuid5 namespaceId (kind ++ "|" ++ tenantId ++ "|" ++ documentId ++ "|" ++ toString revision)

/-- `invoice_changed_event`. -/
def invoiceChangedEvent (H : Hashes) (tenantId legalEntityId invoiceId commerceOrderId : String)
    (facts : InvoiceFacts) (status : String) (issuedAt : Instant) (revision : Nat) (now : Instant)
    (correlationId : Option String) : Except String CloudEvent :=
  CloudEvent.newEvent (eventId H "invoice" tenantId invoiceId revision) invoiceEvent
    ("invoice:" ++ invoiceId)
    (CloudEvent.correlation H namespaceId ("correlation|" ++ tenantId ++ "|" ++ commerceOrderId)
      correlationId)
    (.obj [("legal_entity_id", .str legalEntityId), ("invoice_id", .str invoiceId),
      ("invoice_number", .str facts.number), ("commerce_order_id", .str commerceOrderId),
      ("status", .str status), ("total", facts.total.contract), ("issued_at", .str (stamp issuedAt)),
      ("revision", .int revision)])
    (some tenantId) now (some ("erp-invoice-" ++ invoiceId ++ "-r" ++ toString revision))

/-- `payment_accounting_event`. -/
def paymentAccountingEvent (H : Hashes) (tenantId legalEntityId paymentCaptureId erpPaymentId : String)
    (invoiceId : Option String) (facts : PaymentFacts) (status : String) (revision : Nat)
    (now : Instant) (correlationId : Option String) : Except String CloudEvent :=
  CloudEvent.newEvent (eventId H "payment" tenantId paymentCaptureId revision) paymentEvent
    ("payment:" ++ paymentCaptureId)
    (CloudEvent.correlation H namespaceId ("correlation|" ++ tenantId ++ "|" ++ paymentCaptureId)
      correlationId)
    (.obj ([("legal_entity_id", .str legalEntityId), ("payment_capture_id", .str paymentCaptureId),
      ("erp_payment_id", .str erpPaymentId), ("status", .str status),
      ("amount", facts.amount.contract), ("accounted_at", .str (stamp now)),
      ("revision", .int revision)] ++ (invoiceId.map fun id => ("invoice_id", Json.str id)).toList))
    (some tenantId) now (some ("erp-payment-" ++ paymentCaptureId ++ "-r" ++ toString revision))

end Accounting
end BaobabErp
