/-
# The reads that follow a posting

After the native process of an invoice or a payment ran, the document and its currency
are read back and a change of its accounting status is announced.  `AccountingFactError`
is caught, and nothing else is: whatever a read raises, and whatever escapes the
conversion of what it returned, rolls the request back, the event and the fact of a
posting that cannot be undone with it.

What a list of replies comes to is computed by `invoiceOf` and `paymentOf`; when nothing
escapes is said of the replies themselves (`InvoiceTame`, `PaymentTame`).
-/

import BaobabErp.OrderToCash.Service
import BaobabErp.Platform.Replies

namespace BaobabErp
namespace Accounting

open Python Concurrency
open OrderExecution (textOf)

variable {D : Deployment} {w : Worker} {R : Runtime} {σ : Session}
  {s t : World × List Reply}

/-! ### What replies come to -/

/-- What `_money` comes to, its read answered by the first reply. -/
def moneyOf (R : Runtime) (amount currencyRef : Json) (replies : List Reply) : Except Exc Money :=
  match codeOf currencyRef with
  | none => .error factError
  | some currencyId =>
    if isDigitText currencyId then
      match intOfText currencyId, replies with
      | none, _ => .error (.other "ValueError")
      | some _, .ok currency :: _ =>
        match isoCode R (Json.get currency "ISO_Code") with
        | none => .error factError
        | some iso =>
          match amountOf R amount currency with
          | .invalid => .error factError
          | .raises name => .error (.other name)
          | .text text => .ok ⟨text, iso⟩
      | some _, .error z :: _ => .error z
      | some _, [] => .error factError
    else .error factError

/-- What `read_invoice` comes to. -/
def invoiceOf (R : Runtime) : List Reply → Except Exc InvoiceFacts
  | .ok record :: replies =>
    match documentNumber (Json.get record "DocumentNo") with
    | none => .error factError
    | some number =>
      match moneyOf R (Json.get record "GrandTotal") (Json.get record "C_Currency_ID") replies with
      | .error z => .error z
      | .ok total => .ok ⟨number, total, isCompleted (codeOf (Json.get record "DocStatus")),
          flagOf ((record.lookup "IsPaid").getD (.bool false))⟩
  | .error z :: _ => .error z
  | [] => .error factError

/-- What `read_payment` comes to. -/
def paymentOf (R : Runtime) : List Reply → Except Exc PaymentFacts
  | .ok record :: replies =>
    match moneyOf R (Json.get record "PayAmt") (Json.get record "C_Currency_ID") replies with
    | .error z => .error z
    | .ok amount => .ok ⟨amount, isCompleted (codeOf (Json.get record "DocStatus")),
        flagOf ((record.lookup "IsAllocated").getD (.bool false))⟩
  | .error z :: _ => .error z
  | [] => .error factError

/-- The replies `_money` leaves. -/
def moneyRest (currencyRef : Json) (replies : List Reply) : List Reply :=
  match codeOf currencyRef with
  | none => replies
  | some currencyId =>
    if isDigitText currencyId && (intOfText currencyId).isSome then replies.tail else replies

/-- The replies `read_payment` leaves. -/
def paymentRest : List Reply → List Reply
  | .ok record :: replies => moneyRest (Json.get record "C_Currency_ID") replies
  | replies => replies.tail

theorem money_heard {amount currencyRef : Json} {x : Except Exc Money}
    (h : Heard D w (money R σ amount currencyRef) s x t) :
    x = moneyOf R amount currencyRef s.2 ∧ t.2 = moneyRest currencyRef s.2 ∧
      t.1.store = s.1.store := by
  unfold money at h
  unfold moneyOf moneyRest
  cases hcode : codeOf currencyRef with
  | none =>
    rw [hcode] at h
    obtain ⟨rfl, rfl⟩ := Prog.Alone.of_ret h
    exact ⟨rfl, rfl, rfl⟩
  | some currencyId =>
    rw [hcode] at h
    dsimp only at h ⊢
    cases hd : isDigitText currencyId with
    | false =>
      rw [hd, if_neg (by decide)] at h
      obtain ⟨rfl, rfl⟩ := Prog.Alone.of_ret h
      exact ⟨rfl, rfl, rfl⟩
    | true =>
      rw [hd, if_pos rfl] at h
      rw [if_pos rfl, Bool.true_and]
      cases hn : intOfText currencyId with
      | none =>
        rw [hn] at h
        obtain ⟨rfl, rfl⟩ := Prog.Alone.of_ret h
        exact ⟨rfl, rfl, rfl⟩
      | some n =>
        rw [hn] at h
        dsimp only at h ⊢
        rw [if_pos (Option.isSome_some)]
        rcases h.of_bind with ⟨z, hr, rfl⟩ | ⟨currency, u, hr, h₁⟩
        · obtain ⟨hs, hstore⟩ := heard_getRecord hr
          rw [hs]
          exact ⟨rfl, rfl, hstore⟩
        · obtain ⟨hs, hstore⟩ := heard_getRecord hr
          rw [hs]
          dsimp only [List.tail_cons]
          cases hiso : isoCode R (Json.get currency "ISO_Code") with
          | none =>
            rw [hiso] at h₁
            obtain ⟨rfl, rfl⟩ := h₁.of_throw
            exact ⟨rfl, rfl, hstore⟩
          | some iso =>
            rw [hiso] at h₁
            dsimp only at h₁ ⊢
            cases ha : amountOf R amount currency with
            | invalid =>
              rw [ha] at h₁
              obtain ⟨rfl, rfl⟩ := h₁.of_throw
              exact ⟨rfl, rfl, hstore⟩
            | raises name =>
              rw [ha] at h₁
              obtain ⟨rfl, rfl⟩ := h₁.of_throw
              exact ⟨rfl, rfl, hstore⟩
            | text text =>
              rw [ha] at h₁
              obtain ⟨rfl, rfl⟩ := h₁.of_pure
              exact ⟨rfl, rfl, hstore⟩

theorem readInvoice_heard {id : Int} {x : Except Exc InvoiceFacts}
    (h : Heard D w (readInvoice R σ id) s x t) :
    x = invoiceOf R s.2 ∧ t.1.store = s.1.store := by
  unfold readInvoice at h
  rcases h.of_bind with ⟨z, hr, rfl⟩ | ⟨record, u, hr, h₁⟩
  · obtain ⟨hs, hstore⟩ := heard_getRecord hr
    rw [hs]
    exact ⟨rfl, hstore⟩
  · obtain ⟨hs, hstore⟩ := heard_getRecord hr
    rw [hs]
    unfold invoiceOf
    dsimp only at h₁ ⊢
    cases hn : documentNumber (Json.get record "DocumentNo") with
    | none =>
      rw [hn] at h₁
      obtain ⟨rfl, rfl⟩ := h₁.of_throw
      exact ⟨rfl, hstore⟩
    | some number =>
      rw [hn] at h₁
      dsimp only at h₁ ⊢
      rcases h₁.of_bind with ⟨z, hm, rfl⟩ | ⟨total, v, hm, h₂⟩
      · obtain ⟨hx, -, hstore'⟩ := money_heard hm
        rw [← hx]
        exact ⟨rfl, hstore'.trans hstore⟩
      · obtain ⟨hx, -, hstore'⟩ := money_heard hm
        obtain ⟨rfl, rfl⟩ := h₂.of_pure
        rw [← hx]
        exact ⟨rfl, hstore'.trans hstore⟩

theorem readPayment_heard {id : Int} {x : Except Exc PaymentFacts}
    (h : Heard D w (readPayment R σ id) s x t) :
    x = paymentOf R s.2 ∧ t.2 = paymentRest s.2 ∧ t.1.store = s.1.store := by
  unfold readPayment at h
  rcases h.of_bind with ⟨z, hr, rfl⟩ | ⟨record, u, hr, h₁⟩
  · obtain ⟨hs, hstore⟩ := heard_getRecord hr
    rw [hs]
    exact ⟨rfl, rfl, hstore⟩
  · obtain ⟨hs, hstore⟩ := heard_getRecord hr
    rw [hs]
    unfold paymentOf paymentRest
    dsimp only at h₁ ⊢
    rcases h₁.of_bind with ⟨z, hm, rfl⟩ | ⟨amount, v, hm, h₂⟩
    · obtain ⟨hx, hrest, hstore'⟩ := money_heard hm
      rw [← hx]
      exact ⟨rfl, hrest, hstore'.trans hstore⟩
    · obtain ⟨hx, hrest, hstore'⟩ := money_heard hm
      obtain ⟨rfl, rfl⟩ := h₂.of_pure
      rw [← hx]
      exact ⟨rfl, hrest, hstore'.trans hstore⟩

/-! ### When nothing escapes -/

/-- A read that raises raises the error that is caught. -/
def Answered (reply : Reply) : Prop := ∀ z, reply = .error z → z = factError

/-- Nothing escapes the conversion of an amount: the precision of its currency is no
infinite number, and with as many places as it says the amount has no more digits than
the decimal context. -/
def Fits (R : Runtime) (amount : Json) (currency : List (String × Json)) : Prop :=
  (decimalOfText (textOf amount)).isSome = true →
    places R currency ≠ .error "OverflowError" ∧
    ∀ n d, places R currency = .ok n → Decimal.ofText (textOf amount) = some d →
      d.isNegative = false → 0 ≤ n → n ≤ 6 → d.overflows n.toNat = false

/-- Nothing escapes `_money`: a currency id of digits is one of decimal digits, its read
is answered, and the amount fits the currency where that has an ISO code. -/
def MoneyTame (R : Runtime) (amount currencyRef : Json) (replies : List Reply) : Prop :=
  ∀ currencyId, codeOf currencyRef = some currencyId → isDigitText currencyId = true →
    (intOfText currencyId).isSome = true ∧ ∀ reply ∈ replies.head?, Answered reply ∧
      ∀ currency, reply = .ok currency →
        (isoCode R (Json.get currency "ISO_Code")).isSome = true → Fits R amount currency

/-- Nothing escapes `read_invoice`. -/
def InvoiceTame (R : Runtime) (replies : List Reply) : Prop :=
  ∀ reply ∈ replies.head?, Answered reply ∧ ∀ record, reply = .ok record →
    (documentNumber (Json.get record "DocumentNo")).isSome = true →
      MoneyTame R (Json.get record "GrandTotal") (Json.get record "C_Currency_ID") replies.tail

/-- Nothing escapes `read_payment`. -/
def PaymentTame (R : Runtime) (replies : List Reply) : Prop :=
  ∀ reply ∈ replies.head?, Answered reply ∧ ∀ record, reply = .ok record →
    MoneyTame R (Json.get record "PayAmt") (Json.get record "C_Currency_ID") replies.tail

/-- What was read raises nothing but the error that is caught. -/
def Caught {α : Type} (x : Except Exc α) : Prop := ∀ z, x = .error z → z = factError

theorem caught_ok {α : Type} (a : α) : Caught (.ok a : Except Exc α) := nofun

theorem caught_error {α : Type} {z : Exc} :
    Caught (.error z : Except Exc α) ↔ z = factError :=
  ⟨fun h => h z rfl, fun hz _ h => (Except.error.inj h) ▸ hz⟩

theorem caught_factError {α : Type} : Caught (.error factError : Except Exc α) :=
  caught_error.2 rfl

/-- The conversion raises something else exactly where the amount does not fit. -/
theorem fits_iff {amount : Json} {currency : List (String × Json)} :
    Fits R amount currency ↔ ∀ name, amountOf R amount currency ≠ .raises name := by
  unfold Fits amountOf
  cases hdec : decimalOfText (textOf amount) with
  | none => exact ⟨fun _ => nofun, fun _ => nofun⟩
  | some _ =>
    cases hplaces : places R currency with
    | error name =>
      by_cases hname : name = "OverflowError"
      · subst hname
        refine ⟨fun h => absurd rfl (h rfl).1, fun h => ?_⟩
        exact absurd rfl (h "OverflowError")
      · refine ⟨fun _ => ?_, fun _ _ => ⟨fun h => hname (Except.error.inj h), nofun⟩⟩
        intro name'
        dsimp only
        rw [if_neg hname]
        exact nofun
    | ok n =>
      cases hof : Decimal.ofText (textOf amount) with
      | none => exact ⟨fun _ => nofun, fun _ _ => ⟨nofun, nofun⟩⟩
      | some d =>
        dsimp only
        by_cases hbad : (d.isNegative || n < 0 || 6 < n : Bool) = true
        · rw [if_pos hbad]
          refine ⟨fun _ => nofun, fun _ _ => ⟨nofun, fun n' d' hn hd hneg h0 h6 => ?_⟩⟩
          obtain rfl := Except.ok.inj hn
          obtain rfl := Option.some.inj hd
          rw [hneg, Bool.false_or, Bool.or_eq_true, decide_eq_true_eq, decide_eq_true_eq] at hbad
          omega
        · rw [if_neg hbad]
          have hgood : d.isNegative = false ∧ 0 ≤ n ∧ n ≤ 6 := by
            rw [Bool.or_eq_true, Bool.or_eq_true, decide_eq_true_eq, decide_eq_true_eq, not_or,
              not_or, Bool.not_eq_true] at hbad
            exact ⟨hbad.1.1, by omega, by omega⟩
          unfold Decimal.quantize
          cases hover : d.overflows n.toNat with
          | true =>
            refine ⟨fun h => ?_, fun h => absurd rfl (h "InvalidOperation")⟩
            have hfits := (h rfl).2 n d rfl rfl hgood.1 hgood.2.1 hgood.2.2
            rw [hover] at hfits
            cases hfits
          | false =>
            have htext : ∀ (o : Decimal) (name : String), Amount.text (o.fixed n.toNat) ≠ .raises name :=
              fun _ _ => nofun
            refine ⟨fun _ name => ?_, fun _ _ => ⟨nofun, fun n' d' hn hd _ _ _ => ?_⟩⟩
            · rw [if_neg (by exact Bool.false_ne_true)]
              split_ifs <;> exact htext _ _
            · obtain rfl := Except.ok.inj hn
              obtain rfl := Option.some.inj hd
              exact hover

theorem amountOf_raises {amount : Json} {currency : List (String × Json)} {name : String}
    (h : amountOf R amount currency = .raises name) :
    name = "OverflowError" ∨ name = "InvalidOperation" := by
  unfold amountOf at h
  split at h
  · cases h
  · split at h
    · split_ifs at h with hname
      exact .inl ((Amount.raises.inj h).symm.trans hname)
    · split at h
      · cases h
      · split_ifs at h
        split at h
        · exact .inr (Amount.raises.inj h).symm
        · cases h

/-! A read, by its reply, and what is asked of the record. -/

section

variable {α : Type} {P : List (String × Json) → Prop} {rest : List Reply}

theorem answered_nil : (∀ reply ∈ ([] : List Reply).head?, Answered reply ∧
    ∀ record, reply = .ok record → P record) ↔ Caught (.error factError : Except Exc α) :=
  ⟨fun _ => caught_factError, fun _ => nofun⟩

theorem answered_error {z : Exc} : (∀ reply ∈ (.error z :: rest : List Reply).head?,
    Answered reply ∧ ∀ record, reply = .ok record → P record) ↔
      Caught (.error z : Except Exc α) := by
  rw [List.head?_cons]
  refine ⟨fun h => caught_error.2 ((h _ rfl).1 z rfl), fun h r hr => ?_⟩
  obtain rfl := Option.some.inj hr
  exact ⟨fun z' hz => (Except.error.inj hz) ▸ caught_error.1 h, nofun⟩

theorem answered_ok {record : List (String × Json)} :
    (∀ reply ∈ (.ok record :: rest : List Reply).head?,
      Answered reply ∧ ∀ record, reply = .ok record → P record) ↔ P record := by
  rw [List.head?_cons]
  refine ⟨fun h => (h _ rfl).2 record rfl, fun h r hr => ?_⟩
  obtain rfl := Option.some.inj hr
  exact ⟨nofun, fun c hc => (Except.ok.inj hc) ▸ h⟩

end

theorem moneyTame_iff {amount currencyRef : Json} {replies : List Reply} :
    MoneyTame R amount currencyRef replies ↔ Caught (moneyOf R amount currencyRef replies) := by
  unfold MoneyTame moneyOf
  cases hcode : codeOf currencyRef with
  | none => exact ⟨fun _ => caught_factError, fun _ => nofun⟩
  | some currencyId =>
    dsimp only
    by_cases hd : isDigitText currencyId = true
    · rw [if_pos hd]
      cases hn : intOfText currencyId with
      | none =>
        refine ⟨fun h => ?_, fun h => ?_⟩
        · obtain ⟨hsome, -⟩ := h currencyId rfl hd
          rw [hn] at hsome
          cases hsome
        · exact absurd (caught_error.1 h) (by decide)
      | some n =>
        have hone : ∀ P : Prop, (∀ c, some currencyId = some c → isDigitText c = true →
            (intOfText c).isSome = true ∧ P) ↔ P := fun P =>
          ⟨fun h => (h currencyId rfl hd).2, fun hP c hc _ => by
            obtain rfl := Option.some.inj hc
            exact ⟨by rw [hn]; rfl, hP⟩⟩
        rw [hone]
        cases replies with
        | nil => exact answered_nil
        | cons reply rest =>
          cases reply with
          | error z => exact answered_error
          | ok currency =>
            refine answered_ok.trans ?_
            dsimp only
            cases hiso : isoCode R (Json.get currency "ISO_Code") with
            | none => exact ⟨fun _ => caught_factError, fun _ h => nomatch h⟩
            | some iso =>
              have hfits : ((some iso).isSome = true → Fits R amount currency) ↔ _ :=
                ⟨fun h => h rfl, fun h _ => h⟩
              refine hfits.trans (fits_iff.trans ?_)
              dsimp only
              cases ha : amountOf R amount currency with
              | invalid => exact ⟨fun _ => caught_factError, fun _ => nofun⟩
              | raises name =>
                refine ⟨fun h => absurd rfl (h name), fun h => ?_⟩
                have hname := Exc.other.inj (caught_error.1 h)
                rcases amountOf_raises ha with rfl | rfl
                · exact absurd hname (by decide)
                · exact absurd hname (by decide)
              | text text => exact ⟨fun _ => caught_ok _, fun _ => nofun⟩
    · rw [if_neg hd]
      refine ⟨fun _ => caught_factError, fun _ c hc hdigits => ?_⟩
      obtain rfl := Option.some.inj hc
      exact absurd hdigits hd

/-- **Nothing escapes `read_invoice` exactly where its replies are tame.** -/
theorem invoiceTame_iff {replies : List Reply} :
    InvoiceTame R replies ↔ Caught (invoiceOf R replies) := by
  unfold InvoiceTame
  cases replies with
  | nil => exact answered_nil
  | cons reply rest =>
    cases reply with
    | error z => exact answered_error
    | ok record =>
      refine answered_ok.trans ?_
      unfold invoiceOf
      dsimp only [List.tail_cons]
      cases hn : documentNumber (Json.get record "DocumentNo") with
      | none => exact ⟨fun _ => caught_factError, fun _ h => nomatch h⟩
      | some number =>
        have hone : ((some number).isSome = true → MoneyTame R (Json.get record "GrandTotal")
            (Json.get record "C_Currency_ID") rest) ↔ _ := ⟨fun h => h rfl, fun h _ => h⟩
        refine hone.trans (moneyTame_iff.trans ?_)
        cases moneyOf R (Json.get record "GrandTotal") (Json.get record "C_Currency_ID") rest with
        | error z => exact caught_error.trans caught_error.symm
        | ok total => exact ⟨fun _ => caught_ok _, fun _ => caught_ok _⟩

/-- **Nothing escapes `read_payment` exactly where its replies are tame.** -/
theorem paymentTame_iff {replies : List Reply} :
    PaymentTame R replies ↔ Caught (paymentOf R replies) := by
  unfold PaymentTame
  cases replies with
  | nil => exact answered_nil
  | cons reply rest =>
    cases reply with
    | error z => exact answered_error
    | ok record =>
      refine answered_ok.trans (moneyTame_iff.trans ?_)
      unfold paymentOf
      dsimp only [List.tail_cons]
      cases moneyOf R (Json.get record "PayAmt") (Json.get record "C_Currency_ID") rest with
      | error z => exact caught_error.trans caught_error.symm
      | ok amount => exact ⟨fun _ => caught_ok _, fun _ => caught_ok _⟩

end Accounting
end BaobabErp
