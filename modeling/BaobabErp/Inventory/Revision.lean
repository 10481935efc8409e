/-
# When the revision of a stock reading moves with the stock

The revision is the latest second in which a row that was read was updated.  So it
moves only with what is there to be read: a row that is taken away, or moved to a
locator of another warehouse, takes its stock with it and leaves no second behind, and
a row written in the second of the last reading leaves the revision as it was.

**In every run of the engine whose writes either change no weight and take no latest
second away, or leave the row they write in a later second than any row read before,
two readings differ only if the later one has the greater revision**
(`revision_of_run`).
-/

import BaobabErp.Inventory.Availability

namespace BaobabErp
namespace Inventory

open Python Numeric

/-! ### What a reading makes of the rows -/

/-- What a reading of a product and warehouse makes of a row: its stock on hand. -/
def storageOf (locators : List Nat) (product : Nat) : StockRow → Option (ℚ × Int)
  | .storage p locator qty updated =>
    if p = product ∧ locator.id ∈ locators then some (qty.value, timestamp updated.instant)
    else none
  | .reservation .. => none

/-- … its reservation. -/
def reservationOf (product warehouse : Nat) : StockRow → Option (ℚ × Int)
  | .storage .. => none
  | .reservation p w isSOTrx qty updated =>
    if p = product ∧ w = warehouse ∧ isSOTrx then some (qty.value, timestamp updated.instant)
    else none

/-- The sum of quantities, one after the other. -/
def total (quantities : List ℚ) : ℚ := quantities.foldl plus 0

/-- The latest of the seconds, from 0. -/
def latest (seconds : List Int) : Int := seconds.foldl max 0

/-- `latest or 1`. -/
def mark (seconds : List Int) : Int := if latest seconds = 0 then 1 else latest seconds

/-- The locators of a warehouse. -/
def Engine.locatorsOf (e : Engine) (warehouse : Nat) : List Nat :=
  (e.locators.filter fun l => (l.warehouse : Int) = warehouse).map fun l => l.locator.id

/-- The seconds of the rows a reading counts. -/
def seconds (locators : List Nat) (product warehouse : Nat) (rows : List StockRow) : List Int :=
  (rows.filterMap (storageOf locators product)).map Prod.snd ++
    (rows.filterMap (reservationOf product warehouse)).map Prod.snd

theorem locatorIds_eq (ls : List Locator) :
    locatorIds (ls.map fun l => [("M_Locator_ID", l.locator.json)]) =
      .ok (ls.map fun l => l.locator.id) := by
  induction ls with
  | nil => rfl
  | cons l ls ih =>
    have hfirst : reference ((([("M_Locator_ID", l.locator.json)] : Members).lookup
        "M_Locator_ID").or (([("M_Locator_ID", l.locator.json)] : Members).lookup "id"))
        "M_Locator_ID" = .ok l.locator.id := l.locator.reads
    rw [List.map_cons, locatorIds, hfirst, ih]
    rfl

theorem updated_eq (s : Stamp) : updated (some (.str s.text)) = .ok (timestamp s.instant) := by
  rw [updated, s.reads]

theorem addOnHand_eq (locators : List Nat) (product : Nat) (rows : List StockRow) (x : ℚ) (r : Int) :
    addOnHand locators (rows.filterMap (Engine.storageRecord product)) (x, r) =
      .ok (((rows.filterMap (storageOf locators product)).map Prod.fst).foldl plus x,
        ((rows.filterMap (storageOf locators product)).map Prod.snd).foldl max r) := by
  induction rows generalizing x r with
  | nil => rfl
  | cons row rows ih =>
    cases row with
    | reservation p w isSOTrx qty stamp => exact ih x r
    | storage p locator qty stamp =>
      by_cases hp : p = product
      · have hrecord : (StockRow.storage p locator qty stamp :: rows).filterMap
            (Engine.storageRecord product) = [("M_Locator_ID", locator.json),
              ("QtyOnHand", qty.json), ("Updated", .str stamp.text)] ::
              rows.filterMap (Engine.storageRecord product) := by
          simp [Engine.storageRecord, hp]
        have hlocator : reference (([("M_Locator_ID", locator.json), ("QtyOnHand", qty.json),
            ("Updated", .str stamp.text)] : Members).lookup "M_Locator_ID") "M_Locator_ID" =
            .ok locator.id := locator.reads
        have hqty : quantity (([("M_Locator_ID", locator.json), ("QtyOnHand", qty.json),
            ("Updated", .str stamp.text)] : Members).lookup "QtyOnHand") "QtyOnHand" =
            .ok qty.value := qty.reads "QtyOnHand"
        have hsecond : updated (([("M_Locator_ID", locator.json), ("QtyOnHand", qty.json),
            ("Updated", .str stamp.text)] : Members).lookup "Updated") =
            .ok (timestamp stamp.instant) := updated_eq stamp
        rw [hrecord, addOnHand, hlocator]
        by_cases hl : locator.id ∈ locators
        · have hcounted : (StockRow.storage p locator qty stamp :: rows).filterMap
              (storageOf locators product) = (qty.value, timestamp stamp.instant) ::
                rows.filterMap (storageOf locators product) := by
            simp [storageOf, hp, hl]
          simp only [hcounted, bind, Except.bind, if_pos hl, hqty, hsecond, List.map_cons,
            List.foldl_cons]
          exact ih _ _
        · have hskipped : (StockRow.storage p locator qty stamp :: rows).filterMap
              (storageOf locators product) = rows.filterMap (storageOf locators product) := by
            simp [storageOf, hl]
          simp only [hskipped, bind, Except.bind, if_neg hl]
          exact ih x r
      · have hrecord : (StockRow.storage p locator qty stamp :: rows).filterMap
            (Engine.storageRecord product) = rows.filterMap (Engine.storageRecord product) := by
          simp [Engine.storageRecord, hp]
        have hskipped : (StockRow.storage p locator qty stamp :: rows).filterMap
            (storageOf locators product) = rows.filterMap (storageOf locators product) := by
          simp [storageOf, hp]
        rw [hrecord, hskipped, ih]

theorem addAllocated_eq (product warehouse : Nat) (rows : List StockRow) (x : ℚ) (r : Int) :
    addAllocated (rows.filterMap (Engine.reservationRecord product warehouse)) (x, r) =
      .ok (((rows.filterMap (reservationOf product warehouse)).map Prod.fst).foldl plus x,
        ((rows.filterMap (reservationOf product warehouse)).map Prod.snd).foldl max r) := by
  induction rows generalizing x r with
  | nil => rfl
  | cons row rows ih =>
    cases row with
    | storage p locator qty stamp => exact ih x r
    | reservation p w isSOTrx qty stamp =>
      by_cases hcond : p = product ∧ w = warehouse ∧ isSOTrx = true
      · have hrecord : (StockRow.reservation p w isSOTrx qty stamp :: rows).filterMap
            (Engine.reservationRecord product warehouse) = [("Qty", qty.json),
              ("Updated", .str stamp.text)] ::
              rows.filterMap (Engine.reservationRecord product warehouse) := by
          simp [Engine.reservationRecord, hcond]
        have hcounted : (StockRow.reservation p w isSOTrx qty stamp :: rows).filterMap
            (reservationOf product warehouse) = (qty.value, timestamp stamp.instant) ::
              rows.filterMap (reservationOf product warehouse) := by
          simp [reservationOf, hcond]
        have hqty : quantity (([("Qty", qty.json), ("Updated", .str stamp.text)] : Members).lookup
            "Qty") "Qty" = .ok qty.value := qty.reads "Qty"
        have hsecond : updated (([("Qty", qty.json), ("Updated", .str stamp.text)] :
            Members).lookup "Updated") = .ok (timestamp stamp.instant) := updated_eq stamp
        rw [hrecord, hcounted, addAllocated, hqty]
        simp only [bind, Except.bind, hsecond, List.map_cons, List.foldl_cons]
        exact ih _ _
      · have hrecord : (StockRow.reservation p w isSOTrx qty stamp :: rows).filterMap
            (Engine.reservationRecord product warehouse) =
              rows.filterMap (Engine.reservationRecord product warehouse) := by
          rw [List.filterMap_cons, Engine.reservationRecord, if_neg hcond]
        have hskipped : (StockRow.reservation p w isSOTrx qty stamp :: rows).filterMap
            (reservationOf product warehouse) = rows.filterMap (reservationOf product warehouse) := by
          rw [List.filterMap_cons, reservationOf, if_neg hcond]
        rw [hrecord, hskipped, ih]

/-- **A reading of the engine**: the sums over the rows it counts, and their latest second. -/
theorem read_client (e : Engine) (product warehouse : Nat) :
    read e.client product warehouse = (unitOf e.client product).map fun unit =>
      ⟨total ((e.rows.filterMap (storageOf (e.locatorsOf warehouse) product)).map Prod.fst),
        total ((e.rows.filterMap (reservationOf product warehouse)).map Prod.fst), unit,
        mark (seconds (e.locatorsOf warehouse) product warehouse e.rows)⟩ := by
  have hlocators : (e.client.query "M_Locator" [⟨"M_Warehouse_ID", .int warehouse⟩]
      ["M_Locator_ID"]).bind locatorIds = .ok (e.locatorsOf warehouse) := by
    refine (locatorIds_eq _).trans ?_
    rw [Engine.locatorsOf]
  have hstorage : e.client.query "M_StorageOnHand" [⟨"M_Product_ID", .int product⟩]
      ["M_Locator_ID", "QtyOnHand", "Updated"] =
      .ok (e.rows.filterMap (Engine.storageRecord product)) := rfl
  have hreservations : e.client.query "M_StorageReservation" [⟨"M_Product_ID", .int product⟩,
      ⟨"M_Warehouse_ID", .int warehouse⟩, ⟨"IsSOTrx", .bool true⟩] ["Qty", "Updated"] =
      .ok (e.rows.filterMap (Engine.reservationRecord product warehouse)) := rfl
  cases hunit : unitOf e.client product with
  | error x => simp [read, hunit, bind, Except.bind, Except.map]
  | ok unit =>
    have hrun : read e.client product warehouse =
        ((e.client.query "M_Locator" [⟨"M_Warehouse_ID", .int warehouse⟩]
          ["M_Locator_ID"]).bind locatorIds).bind fun locators =>
        (addOnHand locators (e.rows.filterMap (Engine.storageRecord product)) (0, 0)).bind fun s =>
        (addAllocated (e.rows.filterMap (Engine.reservationRecord product warehouse))
          (0, s.2)).bind fun a => .ok ⟨s.1, a.1, unit, if a.2 = 0 then 1 else a.2⟩ := by
      simp only [read, hunit, hstorage, hreservations, bind, Except.bind, pure, Except.pure]
      cases e.client.query "M_Locator" [⟨"M_Warehouse_ID", .int warehouse⟩] ["M_Locator_ID"] <;> rfl
    rw [hrun, hlocators]
    simp only [Except.bind, addOnHand_eq, addAllocated_eq, Except.map]
    rw [mark, latest, seconds, List.foldl_append]
    rfl

/-! ### Sums and marks -/

/-- Adding nothing to a sum leaves it. -/
theorem plus_zero (x y : ℚ) : plus (plus x y) 0 = plus x y := by
  rw [plus, add_zero, plus, significant_significant (by decide) (by decide)]

/-- **Zeros do not count.** -/
theorem total_filter_ne_zero (qs : List ℚ) : total (qs.filter (· ≠ 0)) = total qs := by
  have hsum : ∀ (qs : List ℚ) (x : ℚ), plus x 0 = x →
      (qs.filter (· ≠ 0)).foldl plus x = qs.foldl plus x := by
    intro qs
    induction qs with
    | nil => exact fun _ _ => rfl
    | cons q qs ih =>
      intro x hx
      by_cases hq : q = 0
      · have hfilter : (q :: qs).filter (· ≠ 0) = qs.filter (· ≠ 0) := by simp [hq]
        rw [hfilter, List.foldl_cons, hq, hx, ih x hx]
      · have hfilter : (q :: qs).filter (· ≠ 0) = q :: qs.filter (· ≠ 0) := by simp [hq]
        rw [hfilter, List.foldl_cons, List.foldl_cons, ih _ (plus_zero x q)]
  refine hsum qs 0 ?_
  rw [plus, add_zero, significant_zero]

theorem latest_le_iff {seconds : List Int} {n : Int} :
    latest seconds ≤ n ↔ 0 ≤ n ∧ ∀ s ∈ seconds, s ≤ n := by
  have hfold : ∀ (m : Int), seconds.foldl max m ≤ n ↔ m ≤ n ∧ ∀ s ∈ seconds, s ≤ n := by
    induction seconds with
    | nil => simp
    | cons s ss ih =>
      intro m
      rw [List.foldl_cons, ih, max_le_iff, List.forall_mem_cons, and_assoc]
  exact hfold 0

theorem le_mark_of_mem {seconds : List Int} {s : Int} (h : s ∈ seconds) : s ≤ mark seconds := by
  have hle := (latest_le_iff.1 (le_refl (latest seconds))).2 s h
  unfold mark
  split_ifs <;> omega

theorem one_le_mark (seconds : List Int) : 1 ≤ mark seconds := by
  have hnonneg := (latest_le_iff.1 (le_refl (latest seconds))).1
  unfold mark
  split_ifs <;> omega

theorem mark_le_iff {seconds : List Int} {n : Int} (hn : 1 ≤ n) :
    mark seconds ≤ n ↔ ∀ s ∈ seconds, s ≤ n := by
  refine ⟨fun h s hs => (le_mark_of_mem hs).trans h, fun h => ?_⟩
  have hle := latest_le_iff.2 ⟨by omega, h⟩
  unfold mark
  split_ifs <;> omega

/-! ### Writes of the engine -/

/-- **One write**: a row is added, written again (its locator, its quantity) or removed. -/
inductive Write
  | insert (i : Nat) (row : StockRow)
  | replace (i : Nat) (row : StockRow)
  | remove (i : Nat)

namespace Write

/-- The rows after it. -/
def apply : Write → List StockRow → List StockRow
  | insert i row, rows => rows.take i ++ row :: rows.drop i
  | replace i row, rows => rows.set i row
  | remove i, rows => rows.eraseIdx i

/-- The row it writes over or removes. -/
def before : Write → List StockRow → Option StockRow
  | insert .., _ => none
  | replace i _, rows => rows[i]?
  | remove i, rows => rows[i]?

/-- The row as it leaves it. -/
def after : Write → List StockRow → Option StockRow
  | insert _ row, _ => some row
  | replace i row, rows => if i < rows.length then some row else none
  | remove _, _ => none

/-- **A write touches one row**, and leaves those before and behind it as they are. -/
theorem splits (w : Write) (rows : List StockRow) :
    ∃ front rear, rows = front ++ ((w.before rows).toList ++ rear) ∧
      w.apply rows = front ++ ((w.after rows).toList ++ rear) := by
  cases w with
  | insert i row => exact ⟨rows.take i, rows.drop i, by simp [before], by simp [apply, after]⟩
  | replace i row =>
    by_cases hi : i < rows.length
    · refine ⟨rows.take i, rows.drop (i + 1), ?_, ?_⟩
      · simp [before, hi]
      · simp [apply, after, hi, List.set_eq_take_append_cons_drop]
    · refine ⟨rows, [], ?_, ?_⟩
      · simp [before, List.getElem?_eq_none (by omega : rows.length ≤ i)]
      · simp [apply, after, hi, List.set_eq_of_length_le (by omega : rows.length ≤ i)]
  | remove i =>
    by_cases hi : i < rows.length
    · refine ⟨rows.take i, rows.drop (i + 1), ?_, ?_⟩
      · simp [before, hi]
      · simp [apply, after, List.eraseIdx_eq_take_drop_succ]
    · refine ⟨rows, [], ?_, ?_⟩
      · simp [before, List.getElem?_eq_none (by omega : rows.length ≤ i)]
      · simp [apply, after, List.eraseIdx_of_length_le (by omega : rows.length ≤ i)]

end Write

section Reading

variable (locators : List Nat) (product warehouse : Nat)

/-- What a row weighs on hand and in reservations; a row that is not counted weighs nothing. -/
def weight (row : StockRow) : ℚ × ℚ :=
  (((storageOf locators product row).map Prod.fst).getD 0,
    ((reservationOf product warehouse row).map Prod.fst).getD 0)

/-- The second of a row that is counted. -/
def countedAt (row : StockRow) : Option Int :=
  ((storageOf locators product row).or (reservationOf product warehouse row)).map Prod.snd

/-- **A quiet write**: the row it touches weighs what it weighed, and the second it had is
not lost as the latest one. -/
def Quiet (w : Write) (rows : List StockRow) : Prop :=
  (((w.before rows).map (weight locators product warehouse)).getD 0 =
    ((w.after rows).map (weight locators product warehouse)).getD 0) ∧
  ∀ s, (w.before rows).bind (countedAt locators product warehouse) = some s →
    s ≤ 1 ∨ ∃ row ∈ w.apply rows, ∃ s', countedAt locators product warehouse row = some s' ∧ s ≤ s'

/-- **A rising write**: the row it leaves is counted, in a later second than any row before. -/
def Rising (w : Write) (rows : List StockRow) : Prop :=
  ∃ s, (w.after rows).bind (countedAt locators product warehouse) = some s ∧ 1 < s ∧
    ∀ row ∈ rows, ∀ s', countedAt locators product warehouse row = some s' → s' < s

/-- Every write of a run is quiet or rising. -/
def Regular : List Write → List StockRow → Prop
  | [], _ => True
  | w :: ws, rows =>
    (Quiet locators product warehouse w rows ∨ Rising locators product warehouse w rows) ∧
      Regular ws (w.apply rows)

end Reading

/-- The rows after a run of writes. -/
def rowsAfter : List Write → List StockRow → List StockRow
  | [], rows => rows
  | w :: ws, rows => rowsAfter ws (w.apply rows)

section Steps

variable {locators : List Nat} {product warehouse : Nat} {rows : List StockRow} {w : Write}

theorem mem_seconds {s : Int} : s ∈ seconds locators product warehouse rows ↔
    ∃ row ∈ rows, countedAt locators product warehouse row = some s := by
  simp only [seconds, List.mem_append, List.mem_map, List.mem_filterMap]
  constructor
  · rintro (⟨⟨q, t⟩, ⟨row, hrow, hseen⟩, rfl⟩ | ⟨⟨q, t⟩, ⟨row, hrow, hseen⟩, rfl⟩)
    · exact ⟨row, hrow, by simp [countedAt, hseen]⟩
    · refine ⟨row, hrow, ?_⟩
      cases row with
      | storage => simp [reservationOf] at hseen
      | reservation => simp [countedAt, storageOf, hseen]
  · rintro ⟨row, hrow, hcounted⟩
    rw [countedAt, Option.map_eq_some_iff] at hcounted
    obtain ⟨⟨q, t⟩, hseen, rfl⟩ := hcounted
    rcases Option.or_eq_some_iff.1 hseen with hs | ⟨-, hr⟩
    · exact .inl ⟨(q, t), ⟨row, hrow, hs⟩, rfl⟩
    · exact .inr ⟨(q, t), ⟨row, hrow, hr⟩, rfl⟩

/-- A sum over the rows counted is the sum of the weights of all rows. -/
theorem total_filterMap (f : StockRow → Option (ℚ × Int)) (rows : List StockRow) :
    total ((rows.filterMap f).map Prod.fst) = total (rows.map fun r => ((f r).map Prod.fst).getD 0) := by
  rw [← total_filter_ne_zero, ← total_filter_ne_zero (rows.map _)]
  congr 1
  induction rows with
  | nil => rfl
  | cons r rows ih =>
    cases hf : f r with
    | none =>
      have hzero : (((f r).map Prod.fst).getD 0 :: rows.map fun r => ((f r).map Prod.fst).getD 0).filter
          (· ≠ 0) = (rows.map fun r => ((f r).map Prod.fst).getD 0).filter (· ≠ 0) := by simp [hf]
      rw [List.filterMap_cons_none hf, List.map_cons, hzero, ih]
    | some p =>
      rw [List.filterMap_cons_some hf, List.map_cons, List.map_cons, List.filter_cons, List.filter_cons,
        ih, hf]
      rfl

/-- A weight of nothing is not noticed. -/
theorem total_map_of_weight {α : Type} (g : α → ℚ) (front rear : List α) {x y : Option α}
    (h : (x.map g).getD 0 = (y.map g).getD 0) :
    total ((front ++ (x.toList ++ rear)).map g) = total ((front ++ (y.toList ++ rear)).map g) := by
  have hone : ∀ z : Option α, ((z.toList).map g).filter (· ≠ 0) =
      if (z.map g).getD 0 = 0 then [] else [(z.map g).getD 0] := by
    intro z
    cases z with
    | none => simp
    | some a => by_cases ha : g a = 0 <;> simp [ha]
  rw [← total_filter_ne_zero, ← total_filter_ne_zero ((front ++ (y.toList ++ rear)).map g)]
  simp only [List.map_append, List.filter_append, hone, h]

theorem sums_of_quiet (h : Quiet locators product warehouse w rows) :
    total (((w.apply rows).filterMap (storageOf locators product)).map Prod.fst) =
        total ((rows.filterMap (storageOf locators product)).map Prod.fst) ∧
      total (((w.apply rows).filterMap (reservationOf product warehouse)).map Prod.fst) =
        total ((rows.filterMap (reservationOf product warehouse)).map Prod.fst) := by
  obtain ⟨front, rear, hrows, happly⟩ := w.splits rows
  have hpart : ∀ g : ℚ × ℚ → ℚ, g (0, 0) = 0 →
      ((w.before rows).map fun r => g (weight locators product warehouse r)).getD 0 =
        ((w.after rows).map fun r => g (weight locators product warehouse r)).getD 0 := by
    intro g hg
    have hget : ∀ z : Option StockRow,
        (z.map fun r => g (weight locators product warehouse r)).getD 0 =
          g ((z.map (weight locators product warehouse)).getD 0) := by
      intro z
      cases z with
      | none => exact hg.symm
      | some r => rfl
    rw [hget, hget, h.1]
  have hside : ∀ g : ℚ × ℚ → ℚ, g (0, 0) = 0 →
      total ((w.apply rows).map fun r => g (weight locators product warehouse r)) =
        total (rows.map fun r => g (weight locators product warehouse r)) := by
    intro g hg
    have hsum := total_map_of_weight (fun r => g (weight locators product warehouse r)) front rear
      (hpart g hg)
    rw [← hrows, ← happly] at hsum
    exact hsum.symm
  simp only [total_filterMap]
  exact ⟨hside Prod.fst rfl, hside Prod.snd rfl⟩

/-- The seconds of the rows a write leaves alone are still there. -/
theorem mem_seconds_apply {s : Int} (h : s ∈ seconds locators product warehouse rows) :
    s ∈ seconds locators product warehouse (w.apply rows) ∨
      (w.before rows).bind (countedAt locators product warehouse) = some s := by
  obtain ⟨row, hrow, hcounted⟩ := mem_seconds.1 h
  obtain ⟨front, rear, hrows, happly⟩ := w.splits rows
  rw [hrows, List.mem_append, List.mem_append, Option.mem_toList] at hrow
  rcases hrow with hrow | hrow | hrow
  · refine .inl (mem_seconds.2 ⟨row, ?_, hcounted⟩)
    rw [happly]
    exact List.mem_append_left _ hrow
  · rw [hrow]
    exact .inr hcounted
  · refine .inl (mem_seconds.2 ⟨row, ?_, hcounted⟩)
    rw [happly]
    exact List.mem_append_right _ (List.mem_append_right _ hrow)

theorem mark_of_quiet (h : Quiet locators product warehouse w rows) :
    mark (seconds locators product warehouse rows) ≤
      mark (seconds locators product warehouse (w.apply rows)) := by
  refine (mark_le_iff (one_le_mark _)).2 fun s hs => ?_
  rcases mem_seconds_apply hs with hs | hs
  · exact le_mark_of_mem hs
  · rcases h.2 s hs with hone | ⟨row, hrow, s', hcounted, hle⟩
    · exact hone.trans (one_le_mark _)
    · exact hle.trans (le_mark_of_mem (mem_seconds.2 ⟨row, hrow, hcounted⟩))

theorem mark_of_rising (h : Rising locators product warehouse w rows) :
    mark (seconds locators product warehouse rows) <
      mark (seconds locators product warehouse (w.apply rows)) := by
  obtain ⟨s, hs, hone, hlater⟩ := h
  have hmem : s ∈ seconds locators product warehouse (w.apply rows) := by
    obtain ⟨row, hrow, hcounted⟩ := Option.bind_eq_some_iff.1 hs
    obtain ⟨front, rear, -, happly⟩ := w.splits rows
    refine mem_seconds.2 ⟨row, ?_, hcounted⟩
    rw [happly, hrow]
    exact List.mem_append_right _ (List.mem_append_left _ (List.mem_singleton.2 rfl))
  have hbelow : mark (seconds locators product warehouse rows) ≤ s - 1 := by
    refine (mark_le_iff (by omega)).2 fun s' hs' => ?_
    obtain ⟨row, hrow, hcounted⟩ := mem_seconds.1 hs'
    have := hlater row hrow s' hcounted
    omega
  have := le_mark_of_mem hmem
  omega

/-- **A run of quiet and rising writes**: the revision does not fall, and the sums stay
what they were unless it rose. -/
theorem run_of_regular {ws : List Write} (h : Regular locators product warehouse ws rows) :
    mark (seconds locators product warehouse rows) <
        mark (seconds locators product warehouse (rowsAfter ws rows)) ∨
      (mark (seconds locators product warehouse rows) ≤
          mark (seconds locators product warehouse (rowsAfter ws rows)) ∧
        total (((rowsAfter ws rows).filterMap (storageOf locators product)).map Prod.fst) =
          total ((rows.filterMap (storageOf locators product)).map Prod.fst) ∧
        total (((rowsAfter ws rows).filterMap (reservationOf product warehouse)).map Prod.fst) =
          total ((rows.filterMap (reservationOf product warehouse)).map Prod.fst)) := by
  induction ws generalizing rows with
  | nil => exact .inr ⟨le_refl _, rfl, rfl⟩
  | cons w ws ih =>
    obtain ⟨hw, hws⟩ := h
    have hrest := ih hws
    rcases hw with hquiet | hrising
    · have hle := mark_of_quiet hquiet
      obtain ⟨honHand, hallocated⟩ := sums_of_quiet hquiet
      rcases hrest with hlt | ⟨hle', honHand', hallocated'⟩
      · exact .inl (lt_of_le_of_lt hle hlt)
      · exact .inr ⟨hle.trans hle', honHand'.trans honHand, hallocated'.trans hallocated⟩
    · have hlt := mark_of_rising hrising
      rcases hrest with hlt' | ⟨hle', -, -⟩
      · exact .inl (hlt.trans hlt')
      · exact .inl (lt_of_lt_of_le hlt hle')

end Steps

/-- The engine after a run of writes. -/
def Engine.afterWrites (e : Engine) (ws : List Write) : Engine :=
  { e with rows := rowsAfter ws e.rows }

/-- **Two readings around a run of quiet and rising writes.**  If what is on hand or
allocated differs, the later revision is the greater; without a write they are equal. -/
theorem revision_of_run (e : Engine) (product warehouse : Nat) (ws : List Write)
    (h : Regular (e.locatorsOf warehouse) product warehouse ws e.rows) {first second : StockFacts}
    (hfirst : read e.client product warehouse = .ok first)
    (hsecond : read (e.afterWrites ws).client product warehouse = .ok second) :
    (first.onHand ≠ second.onHand ∨ first.allocated ≠ second.allocated →
      first.revision < second.revision) ∧ (ws = [] → first = second) := by
  constructor
  · rw [read_client] at hfirst hsecond
    cases hunit : unitOf e.client product with
    | error x =>
      rw [hunit] at hfirst
      cases hfirst
    | ok unit =>
      have hunit' : unitOf (e.afterWrites ws).client product = .ok unit := hunit
      rw [hunit] at hfirst
      rw [hunit'] at hsecond
      obtain rfl := Except.ok.inj hfirst
      obtain rfl := Except.ok.inj hsecond
      intro hdiffer
      rcases run_of_regular h with hlt | ⟨-, honHand, hallocated⟩
      · exact hlt
      · rcases hdiffer with hdiffer | hdiffer
        · exact absurd honHand.symm hdiffer
        · exact absurd hallocated.symm hdiffer
  · rintro rfl
    exact Except.ok.inj (hfirst.symm.trans hsecond)

/-! ### Two rows of one product -/

/-- A stamp from its text. -/
def Stamp.of (text : String) (h : (DateTime.fromisoformat (zuluReplaced text)).isSome = true) :
    Stamp := ⟨text, (DateTime.fromisoformat (zuluReplaced text)).get h, (Option.some_get h).symm⟩

/-- A whole quantity. -/
def Quantity.of (n : Int) : Quantity := ⟨.int n, n, fun _ => rfl⟩

/-- A locator as an object that carries its id. -/
def Reference.of (n : Nat) : Reference :=
  ⟨.obj [("id", .int n)], n, by simp [reference]⟩

/-- A row of product 7 in locator 11. -/
def shelved (n : Int) (stamp : Stamp) : StockRow := .storage 7 (.of 11) (.of n) stamp

/-- Locator 11 is of warehouse 1 and holds 5 and 7 pieces, written half a second apart. -/
def shelf : Engine where
  records table _ :=
    if table = "M_Product" then .ok [("C_UOM_ID", .obj [("id", .int 100)])]
    else .ok [("X12DE355", .str "EA")]
  locators := [⟨1, .of 11⟩]
  rows := [shelved 5 (.of "2026-10-01T08:00:00Z" (by decide +kernel)),
    shelved 7 (.of "2026-10-01T08:00:00.5Z" (by decide +kernel))]

/-- **The revision stays**: when the row of 5 pieces is removed, and when the row of 7 is
written again with 9 pieces a quarter of a second later. -/
theorem revision_stays :
    read shelf.client 7 1 = .ok ⟨12, 0, "EA", 1790841600⟩ ∧
    read (shelf.afterWrites [.remove 0]).client 7 1 = .ok ⟨7, 0, "EA", 1790841600⟩ ∧
    read (shelf.afterWrites [.replace 1
      (shelved 9 (.of "2026-10-01T08:00:00.75Z" (by decide +kernel)))]).client 7 1 =
        .ok ⟨14, 0, "EA", 1790841600⟩ := by
  refine ⟨?_, ?_, ?_⟩ <;> decide +kernel

/-- Written again two seconds later, the row takes the revision along. -/
theorem revision_rises : ∃ first second : StockFacts, read shelf.client 7 1 = .ok first ∧
    read (shelf.afterWrites [.replace 1
      (shelved 9 (.of "2026-10-01T08:00:02Z" (by decide +kernel)))]).client 7 1 = .ok second ∧
    first.onHand ≠ second.onHand ∧ first.revision < second.revision := by
  have hfirst : read shelf.client 7 1 = .ok ⟨12, 0, "EA", 1790841600⟩ := by decide +kernel
  have hsecond : read (shelf.afterWrites [.replace 1
      (shelved 9 (.of "2026-10-01T08:00:02Z" (by decide +kernel)))]).client 7 1 =
        .ok ⟨14, 0, "EA", 1790841602⟩ := by decide +kernel
  have hrow : countedAt (shelf.locatorsOf 1) 7 1
      (shelved 9 (.of "2026-10-01T08:00:02Z" (by decide +kernel))) = some 1790841602 := by
    decide +kernel
  have hrows : ∀ row ∈ shelf.rows, countedAt (shelf.locatorsOf 1) 7 1 row = some 1790841600 := by
    intro row hmem
    rcases List.mem_pair.1 hmem with rfl | rfl <;> decide +kernel
  have hregular : Regular (shelf.locatorsOf 1) 7 1 [.replace 1
      (shelved 9 (.of "2026-10-01T08:00:02Z" (by decide +kernel)))] shelf.rows := by
    refine ⟨.inr ⟨1790841602, hrow, by decide, fun row hmem s hs => ?_⟩, trivial⟩
    rw [hrows row hmem] at hs
    obtain rfl := Option.some.inj hs
    decide
  have hdiffer : (12 : ℚ) ≠ 14 := by decide +kernel
  exact ⟨_, _, hfirst, hsecond, hdiffer,
    (revision_of_run shelf 7 1 _ hregular hfirst hsecond).1 (.inl hdiffer)⟩

end Inventory
end BaobabErp
