/-
# Which orders carry plain decimals

`parse_placed_order` reads the quantity and the price of a line with `Decimal` and keeps the
text, which `sales_order_fields` sends to the engine as it stands.  `Decimal` also takes
signs, exponents, underscores, white space and the digits of other scripts.  **The amounts
of an accepted order are plain decimals, and the engine reads the numbers that were
checked, exactly if the payload spells them in ASCII digits and points**
(`parsePlacedOrder_plain_iff`).
-/

import BaobabErp.OrderToCash.InboxExecution
import BaobabErp.Python.PlainDecimal

namespace BaobabErp
namespace PlacedOrder

open Python Inventory OrderExecution

/-! ### The amounts of a payload -/

/-- A member of an object, `null` of any other value. -/
def memberOf (value : Json) (name : String) : Json := Json.get (value.obj?.getD []) name

/-- The texts a line spells its quantity and its price with. -/
def lineAmounts (raw : Json) : List String :=
  (memberOf (memberOf raw "quantity") "value").str?.toList ++
    (memberOf (memberOf raw "unit_price") "amount").str?.toList

/-- **The amount texts of a payload.** -/
def amountTexts (data : Json) : List String :=
  ((memberOf data "lines").arr?.getD []).flatMap lineAmounts

/-- The number `_decimal` checks the range of. -/
def checkedValue (text : String) : Option ℚ := (Decimal.ofText text).map decimalValue

/-- **An amount as the order may carry it**: a plain decimal whose number was checked, above
zero or at least not below it. -/
structure PlainAmount (positive : Bool) (text : String) : Prop where
  plain : isPlainDecimal text = true
  checked : checkedValue text = some (plainValue text)
  inRange : if positive then 0 < plainValue text else 0 ≤ plainValue text

/-- An engine that reads a plain decimal as the number it denotes. -/
def ReadsPlain (reads : String → Option ℚ) : Prop :=
  ∀ text, isPlainDecimal text = true → reads text = some (plainValue text)

/-- **What the engine is sent for an order denotes what was checked**: in every record
`sales_order_fields` builds of its lines, the engine reads the number `_decimal` read. -/
def SentAsChecked (o : PlacedOrder) : Prop :=
  ∀ reads, ReadsPlain reads → ∀ customer products reference f,
    salesOrderFields customer o.currency (orderLines o products) reference = .order f →
    ∀ sent ∈ f.orderLines, reads sent.quantity = checkedValue sent.quantity ∧
      reads sent.unitPrice = checkedValue sent.unitPrice

/-! ### One amount -/

theorem decimal_ok {value : Json} {what text : String} {positive : Bool}
    (h : decimal value what positive = .ok text) :
    value.str? = some text ∧ ∃ v, decimalOfText text = some v ∧ v.finite = true ∧
      (positive = true → v.zero = false) := by
  obtain ⟨t, ht, h⟩ := bind_eq_ok h
  obtain ⟨v, hv, h⟩ := bind_eq_ok h
  split at h
  · exact absurd h (by simp)
  · rename_i hrange
    obtain rfl : t = text := Except.ok.inj h
    refine ⟨orPayloadError_ok ht, v, orPayloadError_ok hv, ?_, ?_⟩
    · by_contra hfinite
      exact hrange (by simp [hfinite])
    · intro hpositive
      by_contra hzero
      exact hrange (by simp [hpositive, hzero])

/-- The infinities and the NaNs are not finite. -/
theorem decimalSpecial_finite {negative : Bool} {cs : List Char} {v : DecimalValue}
    (h : decimalSpecial negative cs = some v) : v.finite = false := by
  unfold decimalSpecial at h
  simp only at h
  split at h
  · rw [← Option.some.inj h]
  split at h
  · rw [← Option.some.inj h]
  split at h
  · rw [← Option.some.inj h]
  · exact absurd h (by simp)

/-- Digits and points start with neither sign. -/
theorem unsigned {cs : List Char} (h : ∀ c ∈ cs, isPlainChar c = true) (ds : List Char) :
    cs ≠ '-' :: ds ∧ cs ≠ '+' :: ds := by
  constructor
  · rintro rfl
    exact absurd (h _ List.mem_cons_self) (by decide)
  · rintro rfl
    exact absurd (h _ List.mem_cons_self) (by decide)

/-- What `Decimal` takes of digits and points it takes as a number. -/
theorem number_of_decimalOfText {text : String} {v : DecimalValue}
    (h : ∀ c ∈ text.toList, isPlainChar c = true) (hv : decimalOfText text = some v)
    (hfinite : v.finite = true) : decimalNumber false text.toList = some v := by
  unfold decimalOfText at hv
  simp only [stripped_plain h] at hv
  split at hv
  · rename_i heq
    exact absurd heq (unsigned h _).1
  · rename_i heq
    exact absurd heq (unsigned h _).2
  · cases hspecial : decimalSpecial false text.toList with
    | none => simpa [hspecial] using hv
    | some w =>
      rw [hspecial, Option.orElse_some] at hv
      obtain rfl := Option.some.inj hv
      rw [decimalSpecial_finite hspecial] at hfinite
      exact absurd hfinite (by decide)

theorem checkedValue_plain {text : String} {v : DecimalValue}
    (h : ∀ c ∈ text.toList, isPlainChar c = true) (hv : decimalOfText text = some v)
    (hfinite : v.finite = true) : checkedValue text = some (plainValue text) := by
  have hnumber := number_of_decimalOfText h hv hfinite
  rw [checkedValue, Decimal.ofText, hv]
  simp only [hfinite, if_true, stripped_plain h]
  split
  · rename_i heq
    exact absurd heq (unsigned h _).1
  · rename_i heq
    exact absurd heq (unsigned h _).2
  · rw [Option.map_some, decimalValue_number h hnumber]

/-- **An accepted amount of digits and points alone is as the order may carry it.** -/
theorem plainAmount_of_decimal {value : Json} {what text : String} {positive : Bool}
    (hok : decimal value what positive = .ok text)
    (h : ∀ c ∈ text.toList, isPlainChar c = true) : PlainAmount positive text := by
  obtain ⟨-, v, hv, hfinite, hzero⟩ := decimal_ok hok
  have hnumber := number_of_decimalOfText h hv hfinite
  refine ⟨plain_of_number h hnumber, checkedValue_plain h hv hfinite, ?_⟩
  have hnonneg := plainValue_nonneg text
  cases positive with
  | false => exact hnonneg
  | true =>
    refine lt_of_le_of_ne hnonneg fun heq => ?_
    have := (zero_iff_plainValue h hnumber).2 heq.symm
    rw [hzero rfl] at this
    exact absurd this (by decide)

/-! ### The amounts of an accepted payload -/

/-- The amounts of a line, in the order they are read. -/
def PlacedLine.amounts (l : PlacedLine) : List String := [l.quantity, l.unitPrice]

/-- Both amounts of a line were accepted. -/
def PlacedLine.Accepted (l : PlacedLine) : Prop :=
  (∃ value, decimal value "quantity" true = .ok l.quantity) ∧
    ∃ value, decimal value "unit_price" false = .ok l.unitPrice

theorem memberOf_of_obj? {value : Json} {members : List (String × Json)}
    (h : value.obj? = some members) (name : String) :
    memberOf value name = Json.get members name := by
  rw [memberOf, h, Option.getD_some]

theorem parseLine_ok {currency : String} {seen : List String} {raw : Json} {l : PlacedLine}
    (h : parseLine currency seen raw = .ok l) : l.Accepted ∧ lineAmounts raw = l.amounts := by
  obtain ⟨members, hmembers, h⟩ := bind_eq_ok h
  obtain ⟨lineId, -, h⟩ := bind_eq_ok h
  split at h
  · exact absurd h (by simp)
  obtain ⟨quantity, hquantity, h⟩ := bind_eq_ok h
  obtain ⟨price, hprice, h⟩ := bind_eq_ok h
  obtain ⟨unit, -, h⟩ := bind_eq_ok h
  split at h
  · exact absurd h (by simp)
  obtain ⟨skuId, -, h⟩ := bind_eq_ok h
  obtain ⟨q, hq, h⟩ := bind_eq_ok h
  obtain ⟨p, hp, h⟩ := bind_eq_ok h
  obtain rfl := Except.ok.inj h
  refine ⟨⟨⟨_, hq⟩, _, hp⟩, ?_⟩
  rw [lineAmounts, memberOf_of_obj? (orPayloadError_ok hmembers),
    memberOf_of_obj? (orPayloadError_ok hmembers), memberOf_of_obj? (orPayloadError_ok hquantity),
    memberOf_of_obj? (orPayloadError_ok hprice), (decimal_ok hq).1, (decimal_ok hp).1]
  rfl

theorem parseLines_ok {currency : String} {raws : List Json} {ls : List PlacedLine}
    {seen : List String} (h : parseLines currency seen raws = .ok ls) :
    (∀ l ∈ ls, l.Accepted) ∧ raws.flatMap lineAmounts = ls.flatMap PlacedLine.amounts := by
  induction raws generalizing seen ls with
  | nil =>
    obtain rfl := Except.ok.inj h
    simp
  | cons raw raws ih =>
    obtain ⟨l, hl, h⟩ := bind_eq_ok h
    obtain ⟨rest, hrest, h⟩ := bind_eq_ok h
    obtain rfl := Except.ok.inj h
    obtain ⟨haccepted, hamounts⟩ := parseLine_ok hl
    obtain ⟨ihaccepted, ihamounts⟩ := ih hrest
    refine ⟨List.forall_mem_cons.2 ⟨haccepted, ihaccepted⟩, ?_⟩
    rw [List.flatMap_cons, List.flatMap_cons, hamounts, ihamounts]

/-- **The amounts of an accepted order are the amount texts of its payload.** -/
theorem parsePlacedOrder_amounts {data : Json} {o : PlacedOrder}
    (h : parsePlacedOrder data = .ok o) :
    (∀ l ∈ o.lines, l.Accepted) ∧ amountTexts data = o.lines.flatMap PlacedLine.amounts := by
  obtain ⟨members, hmembers, h⟩ := bind_eq_ok h
  obtain ⟨legalEntityId, -, h⟩ := bind_eq_ok h
  obtain ⟨orderVersion, -, h⟩ := bind_eq_ok h
  obtain ⟨currency, -, h⟩ := bind_eq_ok h
  obtain ⟨raws, hraws, h⟩ := bind_eq_ok h
  obtain ⟨ls, hls, h⟩ := bind_eq_ok h
  obtain ⟨commerceOrderId, -, h⟩ := bind_eq_ok h
  obtain ⟨customerId, -, h⟩ := bind_eq_ok h
  obtain rfl := Except.ok.inj h
  have hlines := (Option.filter_eq_some_iff.1 (orPayloadError_ok hraws)).1
  obtain ⟨haccepted, hamounts⟩ := parseLines_ok hls
  refine ⟨haccepted, ?_⟩
  rw [amountTexts, memberOf_of_obj? (orPayloadError_ok hmembers), hlines, Option.getD_some, hamounts]

/-! ### What is sent to the engine -/

/-- A line sent to the engine carries the texts of a line of the order. -/
theorem orderLines_texts {o : PlacedOrder} {products : List Int} {sent : OrderLine}
    (h : sent ∈ orderLines o products) :
    ∃ l ∈ o.lines, sent.quantity = l.quantity ∧ sent.unitPrice = l.unitPrice := by
  obtain ⟨⟨l, product⟩, hmem, rfl⟩ := List.mem_map.1 h
  exact ⟨l, (List.of_mem_zip hmem).1, rfl, rfl⟩

theorem sentAsChecked_of_plain {o : PlacedOrder}
    (h : ∀ l ∈ o.lines, PlainAmount true l.quantity ∧ PlainAmount false l.unitPrice) :
    SentAsChecked o := by
  intro reads hreads customer products reference f hf sent hsent
  obtain rfl := Fields.order.inj hf
  obtain ⟨l, hl, hquantity, hprice⟩ := orderLines_texts hsent
  obtain ⟨hplainQuantity, hplainPrice⟩ := h l hl
  rw [hquantity, hprice, hreads _ hplainQuantity.plain, hreads _ hplainPrice.plain,
    hplainQuantity.checked, hplainPrice.checked]
  exact ⟨rfl, rfl⟩

/-- **The amounts of an accepted order are plain decimals within their ranges, and the
engine reads the numbers that were checked, exactly if every amount text of the payload
consists of ASCII digits and points.** -/
theorem parsePlacedOrder_plain_iff {data : Json} {o : PlacedOrder}
    (h : parsePlacedOrder data = .ok o) :
    ((∀ l ∈ o.lines, PlainAmount true l.quantity ∧ PlainAmount false l.unitPrice) ∧
        SentAsChecked o) ↔
      ∀ text ∈ amountTexts data, ∀ c ∈ text.toList, isPlainChar c = true := by
  obtain ⟨haccepted, hamounts⟩ := parsePlacedOrder_amounts h
  rw [hamounts]
  constructor
  · rintro ⟨hplain, -⟩ text htext c hc
    obtain ⟨l, hl, hmem⟩ := List.mem_flatMap.1 htext
    have hchars : ∀ t, isPlainDecimal t = true → ∀ d ∈ t.toList, isPlainChar d = true := by
      intro t ht
      simp only [isPlainDecimal, Bool.and_eq_true, List.all_eq_true] at ht
      exact ht.1.1
    rcases List.mem_cons.1 hmem with rfl | hmem
    · exact hchars _ (hplain l hl).1.plain c hc
    · obtain rfl := List.mem_singleton.1 hmem
      exact hchars _ (hplain l hl).2.plain c hc
  · intro hchars
    have hplain : ∀ l ∈ o.lines, PlainAmount true l.quantity ∧ PlainAmount false l.unitPrice := by
      intro l hl
      obtain ⟨⟨_, hquantity⟩, _, hprice⟩ := haccepted l hl
      have htexts : ∀ t ∈ l.amounts, ∀ c ∈ t.toList, isPlainChar c = true := fun t ht =>
        hchars t (List.mem_flatMap.2 ⟨l, hl, ht⟩)
      exact ⟨plainAmount_of_decimal hquantity (htexts _ List.mem_cons_self),
        plainAmount_of_decimal hprice (htexts _ (List.mem_cons_of_mem _ List.mem_cons_self))⟩
    exact ⟨hplain, sentAsChecked_of_plain hplain⟩

theorem parsed_of_toOption {data : Json} {o : PlacedOrder}
    (h : (parsePlacedOrder data).toOption = some o) : parsePlacedOrder data = .ok o := by
  cases hparse : parsePlacedOrder data with
  | error reason =>
    rw [hparse] at h
    exact absurd h (by simp [Except.toOption])
  | ok found =>
    rw [hparse] at h
    exact congrArg Except.ok (Option.some.inj h)

theorem sampleData_plain :
    ∃ o, parsePlacedOrder (sampleData "NABH" "order-1") = .ok o ∧
      (∀ l ∈ o.lines, PlainAmount true l.quantity ∧ PlainAmount false l.unitPrice) ∧
      SentAsChecked o := by
  have hparse : parsePlacedOrder (sampleData "NABH" "order-1") = .ok
      ⟨"NABH", "order-1", 1, "customer-1", "EUR", [⟨"line-1", "sku-1", "2", "EA", "10.00"⟩]⟩ :=
    parsed_of_toOption (by decide +kernel)
  have hall : (amountTexts (sampleData "NABH" "order-1")).all (fun text => text.toList.all isPlainChar) =
      true := by decide +kernel
  exact ⟨_, hparse, (parsePlacedOrder_plain_iff hparse).2 fun text htext =>
    List.all_eq_true.1 (List.all_eq_true.1 hall text htext)⟩

/-- The data of an order event whose one line spells its quantity with an underscore. -/
def separatedData : Json :=
  .obj [("legal_entity_id", .str "NABH"), ("commerce_order_id", .str "order-1"),
    ("order_version", .int 1), ("customer_id", .str "customer-1"), ("currency", .str "EUR"),
    ("lines", .arr [.obj [("line_id", .str "line-1"), ("sku_id", .str "sku-1"),
      ("quantity", .obj [("value", .str "1_2"), ("unit", .str "EA")]),
      ("unit_price", .obj [("amount", .str "10.00"), ("currency", .str "EUR")])]])]

/-- **It is accepted as twelve, and `1_2` is what the engine is sent.** -/
theorem separatedData_accepted :
    ∃ o, parsePlacedOrder separatedData = .ok o ∧
      ¬ (∀ l ∈ o.lines, PlainAmount true l.quantity ∧ PlainAmount false l.unitPrice) ∧
      (∀ l ∈ o.lines, l.quantity = "1_2" ∧ Decimal.ofText l.quantity = some ⟨false, 12, 0⟩) ∧
      ∀ products, ∀ sent ∈ orderLines o products, sent.quantity = "1_2" := by
  have hparse : parsePlacedOrder separatedData = .ok
      ⟨"NABH", "order-1", 1, "customer-1", "EUR", [⟨"line-1", "sku-1", "1_2", "EA", "10.00"⟩]⟩ :=
    parsed_of_toOption (by decide +kernel)
  refine ⟨_, hparse, fun h => ?_, ?_, fun products sent hsent => ?_⟩
  · exact absurd (h _ List.mem_cons_self).1.plain (by decide +kernel)
  · intro l hl
    obtain rfl := List.mem_singleton.1 hl
    exact ⟨rfl, by decide +kernel⟩
  · obtain ⟨l, hl, hquantity, -⟩ := orderLines_texts hsent
    obtain rfl := List.mem_singleton.1 hl
    exact hquantity

end PlacedOrder
end BaobabErp
