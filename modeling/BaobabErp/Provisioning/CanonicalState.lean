/-
# One canonical text, one request

The digest an operation was accepted under is taken over the canonical text of
its desired state.  A request with the declared types and a request read from
whatever is stored have one text only if they are one request
(`desiredStateJson_injective`): the document has its members in order, its
items are determined by their sorted form, and `dumps` is injective on it.
-/

import BaobabErp.Provisioning.RequestState

namespace BaobabErp
namespace Provisioning

open Python

/-! ### One canonical text, one request -/

theorem sortMembers_keys (ms : List (String × Json)) :
    (Json.sortMembers ms).map Prod.fst = ms.map Prod.fst := by
  induction ms with
  | nil => rfl
  | cons m ms ih =>
    obtain ⟨name, value⟩ := m
    rw [Json.sortMembers, List.map_cons, List.map_cons, ih]

/-- An object that lists its members by name is sorted within. -/
theorem sortKeys_obj {ms : List (String × Json)} (h : (ms.map Prod.fst).Pairwise (· ≤ ·)) :
    Json.sortKeys (.obj ms) = .obj (Json.sortMembers ms) := by
  have hs : (Json.sortMembers ms).Pairwise fun m n => m.1 ≤ n.1 := by
    rw [← sortMembers_keys] at h
    exact List.pairwise_map.1 h
  rw [Json.sortKeys, hs.insertionSort_eq]

theorem eq_str_of_sortKeys {j : Json} {s : String} (h : Json.sortKeys j = .str s) : j = .str s := by
  cases j with
  | str t => exact h
  | _ => simp [Json.sortKeys] at h

theorem eq_int_of_sortKeys {j : Json} {n : Int} (h : Json.sortKeys j = .int n) : j = .int n := by
  cases j with
  | int m => exact h
  | _ => simp [Json.sortKeys] at h

/-- What has the sorted form of a text is that text. -/
theorem IsText.eq_of_sortKeys {j k : Json} (hj : IsText j) (h : Json.sortKeys j = Json.sortKeys k) :
    j = k := by
  obtain ⟨s, rfl⟩ := hj
  exact (eq_str_of_sortKeys h.symm).symm

theorem IsTexts.eq_of_sortItems {xs ys : List Json} (hxs : IsTexts xs)
    (h : Json.sortItems xs = Json.sortItems ys) : xs = ys := by
  induction xs generalizing ys with
  | nil =>
    cases ys with
    | nil => rfl
    | cons y ys => simp [Json.sortItems] at h
  | cons x xs ih =>
    cases ys with
    | nil => simp [Json.sortItems] at h
    | cons y ys =>
      rw [Json.sortItems, Json.sortItems, List.cons.injEq] at h
      rw [(hxs x List.mem_cons_self).eq_of_sortKeys h.1,
        ih (fun z hz => hxs z (List.mem_cons_of_mem _ hz)) h.2]

theorem IsTextSet.isTexts {xs : List Json} (h : IsTextSet xs) : IsTexts xs := by
  obtain ⟨texts, rfl, -⟩ := h
  intro x hx
  obtain ⟨s, -, rfl⟩ := List.mem_map.1 hx
  exact ⟨s, rfl⟩

/-- Pairs of texts are determined by their sorted form. -/
theorem zones_eq_of_sortItems {zs ws : List (Json × Json)} (hzs : ∀ p ∈ zs, IsText p.1 ∧ IsText p.2)
    (h : Json.sortItems (zs.map fun p => .arr [p.1, p.2]) =
      Json.sortItems (ws.map fun p => .arr [p.1, p.2])) : zs = ws := by
  induction zs generalizing ws with
  | nil =>
    cases ws with
    | nil => rfl
    | cons w ws => simp [Json.sortItems] at h
  | cons z zs ih =>
    cases ws with
    | nil => simp [Json.sortItems] at h
    | cons w ws =>
      simp only [List.map_cons, Json.sortItems, Json.sortKeys, List.cons.injEq, Json.arr.injEq,
        and_true] at h
      obtain ⟨h₁, h₂⟩ := hzs z List.mem_cons_self
      rw [ih (fun p hp => hzs p (List.mem_cons_of_mem _ hp)) h.2,
        Prod.ext (h₁.eq_of_sortKeys h.1.1) (h₂.eq_of_sortKeys h.1.2)]

/-- A `frozenset` whose items are texts is the sorted list of them. -/
def IsFrozenset (xs : List Json) : Prop := IsTexts xs → IsTextSet xs

theorem allText_iff {xs : List Json} : Json.allText xs = true ↔ IsTexts xs := by
  rw [Json.allText, List.all_eq_true]
  refine forall₂_congr fun x _ => ?_
  cases x with
  | str s => exact ⟨fun _ => ⟨s, rfl⟩, fun _ => rfl⟩
  | _ =>
    refine ⟨fun h => absurd h (by simp [Json.str?]), fun h => ?_⟩
    obtain ⟨s, h⟩ := h
    cases h

theorem eq_str_of_equal {R : Runtime} {s : String} {y : Json} (h : Json.equal R (.str s) y = true) :
    y = .str s := by
  cases y with
  | str t => rw [Json.equal, beq_iff_eq] at h; rw [h]
  | _ => simp [Json.equal, Json.number?] at h

/-- Texts are left only of a list of texts. -/
theorem isTexts_of_distinct {R : Runtime} {xs : List Json} (h : IsTexts (Json.distinct R xs)) :
    IsTexts xs := by
  induction xs with
  | nil => exact fun x hx => absurd hx List.not_mem_nil
  | cons x xs ih =>
    rw [Json.distinct] at h
    obtain ⟨s, rfl⟩ := h x List.mem_cons_self
    have htail : IsTexts (Json.distinct R xs) := by
      intro y hy
      cases he : Json.equal R (.str s) y with
      | true => exact ⟨s, eq_str_of_equal he⟩
      | false =>
        refine h y (List.mem_cons_of_mem _ (List.mem_filter.2 ⟨hy, ?_⟩))
        rw [he, Bool.not_false]
    intro y hy
    rcases List.mem_cons.1 hy with rfl | hy
    · exact ⟨s, rfl⟩
    · exact ih htail y hy

theorem frozenset_isFrozenset {R : Runtime} {xs ys : List Json} (h : Json.frozenset R xs = .ok ys) :
    IsFrozenset ys := by
  unfold Json.frozenset at h
  split_ifs at h with htext hhash
  · obtain rfl := Except.ok.inj h
    intro _
    refine ⟨_, rfl, ?_⟩
    have hle := List.pairwise_insertionSort (· ≤ ·) (xs.filterMap Json.str?)
    have hne := List.nodup_dedup ((xs.filterMap Json.str?).insertionSort (· ≤ ·))
    exact ((hle.sublist (List.dedup_sublist _)).and hne).imp fun h => lt_of_le_of_ne h.1 h.2
  · obtain rfl := Except.ok.inj h
    intro hy
    exact absurd (allText_iff.2 (isTexts_of_distinct hy)) htext

/-- Sets with one stored form are one set. -/
theorem textSet_eq_of_setDocument {R : Runtime} {xs ys : List Json} {j k : Json}
    (hxs : IsTextSet xs) (hys : IsFrozenset ys) (hj : setDocument R xs = .ok j)
    (hk : setDocument R ys = .ok k) (h : Json.sortKeys j = Json.sortKeys k) : xs = ys := by
  rw [setDocument_textSet R hxs] at hj
  obtain rfl := Except.ok.inj hj
  -- the items of the second set are those of its stored form, in another order
  have hperm : ∀ zs, setDocument R ys = .ok (.arr zs) → zs.Perm ys := by
    intro zs hz
    unfold setDocument Json.sortedBy at hz
    split_ifs at hz <;> simp only [raised, bind, Except.bind, pure, Except.pure, Except.ok.injEq,
      Json.arr.injEq] at hz
    · exact hz ▸ .refl _
    · exact hz ▸ List.perm_insertionSort ..
    · exact hz ▸ List.perm_insertionSort ..
    · cases hz
  obtain ⟨zs, rfl⟩ : ∃ zs, k = .arr zs := by
    unfold setDocument at hk
    cases hs : raised (Json.sortedBy R id ys) with
    | error e => rw [hs] at hk; cases hk
    | ok zs => rw [hs] at hk; exact ⟨zs, (Except.ok.inj hk).symm⟩
  rw [Json.sortKeys, Json.sortKeys, Json.arr.injEq] at h
  have hzs : xs = zs := hxs.isTexts.eq_of_sortItems h
  have htexts : IsTexts ys := fun y hy =>
    hxs.isTexts y (hzs ▸ (hperm zs hk).mem_iff.2 hy)
  rw [setDocument_textSet R (hys htexts)] at hk
  rw [hzs]
  exact (Json.arr.inj (Except.ok.inj hk)).symm

theorem sorted_marketMembers (m : MarketConfiguration) (capabilities : Json) :
    ((marketMembers m capabilities).map Prod.fst).Pairwise (· ≤ ·) := by
  unfold marketMembers
  split
  · exact (by decide : ["country_code", "currencies", "localisation_profile", "market_id",
      "participation_capabilities", "warehouse_codes"].Pairwise (· ≤ ·))
  · exact (by decide : ["country_code", "currencies", "localisation_profile", "market_id",
      "participation_capabilities", "warehouse_codes", "warehouse_timezones"].Pairwise (· ≤ ·))

/-- Markets with one stored form are one market. -/
theorem market_eq_of_marketDocument {R : Runtime} {m n : MarketConfiguration} {j k : Json}
    (hm : m.Typed) (hn : IsFrozenset n.participationCapabilities)
    (hj : marketDocument R m = .ok j) (hk : marketDocument R n = .ok k)
    (h : Json.sortKeys j = Json.sortKeys k) : m = n := by
  obtain ⟨hid, hcountry, hset, hcurrencies, hprofile, hcodes, hzones⟩ := hm
  rw [marketDocument, setDocument_textSet R hset] at hj
  obtain rfl := Except.ok.inj hj
  cases hc : setDocument R n.participationCapabilities with
  | error e => rw [marketDocument, hc] at hk; cases hk
  | ok c =>
    rw [marketDocument, hc] at hk
    obtain rfl := Except.ok.inj hk
    rw [sortKeys_obj (sorted_marketMembers m _), sortKeys_obj (sorted_marketMembers n _),
      Json.obj.injEq] at h
    -- the members that are there in any case, and the time zones where there are any
    have hparts : Json.sortKeys m.countryCode = Json.sortKeys n.countryCode ∧
        Json.sortItems m.currencies = Json.sortItems n.currencies ∧
        Json.sortKeys m.localisationProfile = Json.sortKeys n.localisationProfile ∧
        Json.sortKeys m.marketId = Json.sortKeys n.marketId ∧
        Json.sortKeys (.arr m.participationCapabilities) = Json.sortKeys c ∧
        Json.sortItems m.warehouseCodes = Json.sortItems n.warehouseCodes ∧
        Json.sortItems (m.warehouseTimezones.map fun p => .arr [p.1, p.2]) =
          Json.sortItems (n.warehouseTimezones.map fun p => .arr [p.1, p.2]) := by
      unfold marketMembers at h
      cases hmz : m.warehouseTimezones with
      | nil =>
        cases hnz : n.warehouseTimezones with
        | nil =>
          simpa [hmz, hnz, Json.sortMembers, Json.sortKeys] using h
        | cons z zs => simp [hmz, hnz, Json.sortMembers] at h
      | cons z zs =>
        cases hnz : n.warehouseTimezones with
        | nil => simp [hmz, hnz, Json.sortMembers] at h
        | cons w ws => simpa [hmz, hnz, Json.sortMembers, Json.sortKeys] using h
    obtain ⟨h₁, h₂, h₃, h₄, h₅, h₆, h₇⟩ := hparts
    have hcaps := textSet_eq_of_setDocument hset hn (setDocument_textSet R hset) hc h₅
    have hz := zones_eq_of_sortItems hzones h₇
    obtain ⟨_, _, _, _, _, _, _⟩ := m
    obtain ⟨_, _, _, _, _, _, _⟩ := n
    simp only [MarketConfiguration.mk.injEq]
    exact ⟨hid.eq_of_sortKeys h₄, hcountry.eq_of_sortKeys h₁, hcaps, hcurrencies.eq_of_sortItems h₂,
      hprofile.eq_of_sortKeys h₃, hcodes.eq_of_sortItems h₆, hz⟩

theorem markets_eq_of_marketDocuments {R : Runtime} {ms ns : List MarketConfiguration}
    {js ks : List Json} (hms : ∀ m ∈ ms, m.Typed)
    (hns : ∀ n ∈ ns, IsFrozenset n.participationCapabilities)
    (hjs : ms.mapM (marketDocument R) = .ok js) (hks : ns.mapM (marketDocument R) = .ok ks)
    (h : Json.sortItems js = Json.sortItems ks) : ms = ns := by
  have hnil : ∀ {xs : List MarketConfiguration}, xs.mapM (marketDocument R) = .ok [] → xs = [] := by
    intro xs hx
    cases xs with
    | nil => rfl
    | cons x xs =>
      rw [List.mapM_cons] at hx
      cases hd : marketDocument R x with
      | error e => rw [hd] at hx; cases hx
      | ok d =>
        cases hr : xs.mapM (marketDocument R) with
        | error e => rw [hd, hr] at hx; cases hx
        | ok ds => rw [hd, hr] at hx; cases hx
  have hcons : ∀ {x : MarketConfiguration} {xs : List MarketConfiguration} {ds : List Json},
      (x :: xs).mapM (marketDocument R) = .ok ds → ∃ e es, ds = e :: es ∧
        marketDocument R x = .ok e ∧ xs.mapM (marketDocument R) = .ok es := by
    intro x xs ds hx
    rw [List.mapM_cons] at hx
    cases hd : marketDocument R x with
    | error e => rw [hd] at hx; cases hx
    | ok d =>
      cases hr : xs.mapM (marketDocument R) with
      | error e => rw [hd, hr] at hx; cases hx
      | ok es =>
        rw [hd, hr] at hx
        exact ⟨d, es, (Except.ok.inj hx).symm, rfl, rfl⟩
  induction ms generalizing ns js ks with
  | nil =>
    obtain rfl := Except.ok.inj hjs
    cases ks with
    | nil => exact (hnil hks).symm
    | cons k ks => simp [Json.sortItems] at h
  | cons m ms ih =>
    obtain ⟨j, js, rfl, hj, hjs⟩ := hcons hjs
    cases ns with
    | nil =>
      obtain rfl := Except.ok.inj hks
      simp [Json.sortItems] at h
    | cons n ns =>
      obtain ⟨k, ks, rfl, hk, hks⟩ := hcons hks
      rw [Json.sortItems, Json.sortItems, List.cons.injEq] at h
      rw [market_eq_of_marketDocument (hms m List.mem_cons_self) (hns n List.mem_cons_self) hj hk h.1,
        ih (fun x hx => hms x (List.mem_cons_of_mem _ hx))
          (fun x hx => hns x (List.mem_cons_of_mem _ hx)) hjs hks h.2]

theorem accounting_eq_of_accountingDocument {a b : AccountingConfiguration} (ha : a.Typed)
    (h : Json.sortKeys (accountingDocument a) = Json.sortKeys (accountingDocument b)) : a = b := by
  have hkeys : ∀ c : AccountingConfiguration, Json.sortKeys (accountingDocument c) = _ := fun c =>
    sortKeys_obj (by
      exact (by decide : ["accounting_schema", "approved_at", "approved_by",
        "chart_of_accounts_template", "costing_method", "fiscal_year_start_month",
        "functional_currency", "tax_profile"].Pairwise (· ≤ ·)))
  rw [hkeys, hkeys, Json.obj.injEq] at h
  simp only [Json.sortMembers, Json.sortKeys, List.cons.injEq, Prod.mk.injEq, true_and, and_true,
    Json.str.injEq, Json.int.injEq] at h
  obtain ⟨h₁, h₂, h₃, h₄, h₅, h₆, h₇, h₈⟩ := h
  obtain ⟨hf, hc, hs, ht, hm, hb⟩ := ha
  obtain ⟨_, _, _, _, _, _, _, _⟩ := a
  obtain ⟨_, _, _, _, _, _, _, _⟩ := b
  simp only [AccountingConfiguration.mk.injEq]
  exact ⟨hf.eq_of_sortKeys h₇, h₆, hc.eq_of_sortKeys h₄, hs.eq_of_sortKeys h₁, ht.eq_of_sortKeys h₈,
    hm.eq_of_sortKeys h₅, hb.eq_of_sortKeys h₃, DateTime.str_injective h₂⟩

/-! ### What is read from a loaded state -/

theorem loaded_str (s : String) : Json.Loaded (.str s) := trivial

theorem loaded_arr {xs : List Json} : Json.Loaded (.arr xs) ↔ ∀ x ∈ xs, Json.Loaded x := by
  induction xs with
  | nil => exact ⟨fun _ x h => absurd h List.not_mem_nil, fun _ => trivial⟩
  | cons x xs ih =>
    rw [List.forall_mem_cons, ← ih]
    exact .rfl

theorem loaded_obj {ms : List (String × Json)} :
    Json.Loaded (.obj ms) ↔ ∀ m ∈ ms, Json.Loaded m.2 :=
  Json.floatsMembers_iff

theorem mem_of_lookup {ms : List (String × Json)} {name : String} {v : Json}
    (h : ms.lookup name = some v) : (name, v) ∈ ms := by
  induction ms with
  | nil => cases h
  | cons m ms ih =>
    obtain ⟨other, value⟩ := m
    rw [List.lookup_cons] at h
    split at h
    · rename_i he
      obtain rfl := Option.some.inj h
      rw [beq_iff_eq.1 he]
      exact List.mem_cons_self
    · exact List.mem_cons_of_mem _ (ih h)

theorem loaded_subscript {j v : Json} {name : String} (hj : Json.Loaded j)
    (h : j.subscript name = .ok v) : Json.Loaded v := by
  cases j with
  | obj ms =>
    unfold Json.subscript at h
    cases hl : ms.lookup name with
    | none => simp only [hl, reduceCtorEq] at h
    | some u =>
      simp only [hl, Except.ok.injEq] at h
      exact h ▸ loaded_obj.1 hj _ (mem_of_lookup hl)
  | _ => cases h

theorem loaded_iterate {j : Json} {xs : List Json} (hj : Json.Loaded j)
    (h : j.iterate = .ok xs) : ∀ x ∈ xs, Json.Loaded x := by
  cases j with
  | arr ys =>
    obtain rfl := Except.ok.inj h
    exact loaded_arr.1 hj
  | str s =>
    obtain rfl := Except.ok.inj h
    intro x hx
    obtain ⟨c, -, rfl⟩ := List.mem_map.1 hx
    exact loaded_str _
  | obj ms =>
    obtain rfl := Except.ok.inj h
    intro x hx
    obtain ⟨m, -, rfl⟩ := List.mem_map.1 hx
    exact loaded_str _
  | _ => cases h

theorem loaded_optionalItems {j : Json} {name : String} {xs : List Json} (hj : Json.Loaded j)
    (h : optionalItems j name = .ok xs) : ∀ x ∈ xs, Json.Loaded x := by
  obtain ⟨v, hv, h⟩ := bind_eq_ok h
  cases v with
  | none =>
    obtain rfl := Except.ok.inj h
    exact fun x hx => absurd hx List.not_mem_nil
  | some v =>
    refine loaded_iterate ?_ h
    cases j with
    | obj ms => exact loaded_obj.1 hj _ (mem_of_lookup (Except.ok.inj hv))
    | _ => cases hv

theorem mem_of_distinct {R : Runtime} {xs : List Json} {y : Json} (h : y ∈ Json.distinct R xs) :
    y ∈ xs := by
  induction xs with
  | nil => exact h
  | cons x xs ih =>
    rcases List.mem_cons.1 h with rfl | h
    · exact List.mem_cons_self
    · exact List.mem_cons_of_mem _ (ih (List.mem_filter.1 h).1)

theorem loaded_frozenset {R : Runtime} {xs ys : List Json} (hxs : ∀ x ∈ xs, Json.Loaded x)
    (h : Json.frozenset R xs = .ok ys) : ∀ y ∈ ys, Json.Loaded y := by
  unfold Json.frozenset at h
  split_ifs at h with htext hhash
  · obtain rfl := Except.ok.inj h
    intro y hy
    obtain ⟨s, -, rfl⟩ := List.mem_map.1 hy
    exact loaded_str s
  · obtain rfl := Except.ok.inj h
    exact fun y hy => hxs y (mem_of_distinct hy)

theorem sortedBy_perm {α : Type} {R : Runtime} {key : α → Json} {xs ys : List α}
    (h : Json.sortedBy R key xs = .ok ys) : ys.Perm xs := by
  unfold Json.sortedBy at h
  split_ifs at h
  · exact Except.ok.inj h ▸ .refl _
  · exact Except.ok.inj h ▸ List.perm_insertionSort ..
  · exact Except.ok.inj h ▸ List.perm_insertionSort ..

theorem raised_eq_ok {α : Type} {x : Raises α} {a : α} (h : raised x = .ok a) : x = .ok a := by
  unfold raised at h
  split at h
  · exact congrArg Except.ok (Except.ok.inj h)
  · cases h
  · cases h

theorem loaded_setDocument {R : Runtime} {xs : List Json} {j : Json}
    (hxs : ∀ x ∈ xs, Json.Loaded x) (h : setDocument R xs = .ok j) : Json.Loaded j := by
  obtain ⟨ys, hys, h⟩ := bind_eq_ok h
  obtain rfl := Except.ok.inj h
  exact loaded_arr.2 fun y hy => hxs y ((sortedBy_perm (raised_eq_ok hys)).mem_iff.1 hy)

theorem loaded_unpackPair {item : Json} {p : Json × Json} (hi : Json.Loaded item)
    (h : unpackPair item = .ok p) : Json.Loaded p.1 ∧ Json.Loaded p.2 := by
  obtain ⟨xs, hxs, h⟩ := bind_eq_ok h
  have hall := loaded_iterate hi hxs
  split at h
  · obtain rfl := Except.ok.inj h
    exact ⟨hall _ (by simp), hall _ (by simp)⟩
  · cases h

/-- Every result of a `mapM` comes from an item. -/
theorem mem_of_mapM {ε α β : Type} {f : α → Except ε β} {xs : List α} {ys : List β}
    (h : xs.mapM f = .ok ys) : ∀ y ∈ ys, ∃ x ∈ xs, f x = .ok y := by
  induction xs generalizing ys with
  | nil =>
    obtain rfl := Except.ok.inj h
    exact fun y hy => absurd hy List.not_mem_nil
  | cons x xs ih =>
    rw [List.mapM_cons] at h
    obtain ⟨z, hz, h⟩ := bind_eq_ok h
    obtain ⟨zs, hzs, h⟩ := bind_eq_ok h
    obtain rfl := Except.ok.inj h
    intro y hy
    rcases List.mem_cons.1 hy with rfl | hy
    · exact ⟨x, List.mem_cons_self, hz⟩
    · obtain ⟨u, hu, hf⟩ := ih hzs y hy
      exact ⟨u, List.mem_cons_of_mem _ hu, hf⟩

/-- A market read from a loaded state is stored as a loaded document. -/
theorem market_loaded {R : Runtime} {raw : Json} {m : MarketConfiguration} (hraw : Json.Loaded raw)
    (h : marketFromState R raw = .ok m) :
    IsFrozenset m.participationCapabilities ∧
      ∀ j, marketDocument R m = .ok j → Json.Loaded j := by
  obtain ⟨marketId, hid, h⟩ := bind_eq_ok h
  obtain ⟨country, hcountry, h⟩ := bind_eq_ok h
  obtain ⟨listed, hlisted, h⟩ := bind_eq_ok h
  obtain ⟨items, hitems, h⟩ := bind_eq_ok h
  obtain ⟨capabilities, hcaps, h⟩ := bind_eq_ok h
  obtain ⟨quoted, hquoted, h⟩ := bind_eq_ok h
  obtain ⟨currencies, hcur, h⟩ := bind_eq_ok h
  obtain ⟨localisation, hprofile, h⟩ := bind_eq_ok h
  obtain ⟨codes, hcodes, h⟩ := bind_eq_ok h
  obtain ⟨pairs, hpairs, h⟩ := bind_eq_ok h
  obtain ⟨zones, hzones, h⟩ := bind_eq_ok h
  obtain rfl := Except.ok.inj h
  refine ⟨frozenset_isFrozenset hcaps, fun j hj => ?_⟩
  obtain ⟨set, hset, hj⟩ := bind_eq_ok hj
  obtain rfl := Except.ok.inj hj
  have hset' : Json.Loaded set := loaded_setDocument
    (loaded_frozenset (loaded_iterate (loaded_subscript hraw hlisted) hitems) hcaps) hset
  have hcur' : Json.Loaded (.arr currencies) :=
    loaded_arr.2 (loaded_iterate (loaded_subscript hraw hquoted) hcur)
  have hcodes' : Json.Loaded (.arr codes) := loaded_arr.2 (loaded_optionalItems hraw hcodes)
  have hzones' : Json.Loaded (.arr (zones.map fun p => .arr [p.1, p.2])) := by
    refine loaded_arr.2 fun x hx => ?_
    obtain ⟨p, hp, rfl⟩ := List.mem_map.1 hx
    obtain ⟨item, hitem, hunpack⟩ := mem_of_mapM hzones p hp
    obtain ⟨h₁, h₂⟩ := loaded_unpackPair (loaded_optionalItems hraw hpairs item hitem) hunpack
    exact ⟨h₁, h₂, trivial⟩
  refine loaded_obj.2 fun member hm => ?_
  unfold marketMembers at hm
  rw [List.mem_append] at hm
  rcases hm with hm | hm
  · simp only [List.mem_cons, List.not_mem_nil, or_false] at hm
    rcases hm with rfl | rfl | rfl | rfl | rfl | rfl
    · exact loaded_subscript hraw hcountry
    · exact hcur'
    · exact loaded_subscript hraw hprofile
    · exact loaded_subscript hraw hid
    · exact hset'
    · exact hcodes'
  · split at hm
    · exact absurd hm List.not_mem_nil
    · rw [List.mem_singleton] at hm
      exact hm ▸ hzones'

theorem accounting_loaded {R : Runtime} {raw : Json} {a : AccountingConfiguration}
    (hraw : Json.Loaded raw) (h : accountingFromState R raw = .ok a) :
    Json.Loaded (accountingDocument a) := by
  obtain ⟨functional, hfunctional, h⟩ := bind_eq_ok h
  obtain ⟨start, hstart, h⟩ := bind_eq_ok h
  obtain ⟨month, hmonth, h⟩ := bind_eq_ok h
  obtain ⟨chart, hchart, h⟩ := bind_eq_ok h
  obtain ⟨schema, hschema, h⟩ := bind_eq_ok h
  obtain ⟨tax, htax, h⟩ := bind_eq_ok h
  obtain ⟨costing, hcosting, h⟩ := bind_eq_ok h
  obtain ⟨approver, happrover, h⟩ := bind_eq_ok h
  obtain ⟨text, htext, h⟩ := bind_eq_ok h
  obtain ⟨approved, happroved, h⟩ := bind_eq_ok h
  obtain rfl := Except.ok.inj h
  exact ⟨loaded_subscript hraw hschema, trivial, loaded_subscript hraw happrover,
    loaded_subscript hraw hchart, loaded_subscript hraw hcosting, trivial,
    loaded_subscript hraw hfunctional, loaded_subscript hraw htax, trivial⟩

/-- **What the reader makes of a loaded state**: its sets are sets, and its
stored form is a loaded document. -/
theorem readRequest_loaded {R : Runtime} {state : Json} {r : ErpProvisioningRequest}
    (hs : Json.Loaded state) (h : readRequest R state = .ok r) :
    (∀ m ∈ r.markets, IsFrozenset m.participationCapabilities) ∧
      IsFrozenset r.requestedCapabilities ∧
      ∀ j, desiredState R r = .ok j → Json.Loaded j := by
  obtain ⟨provisioningId, h₁, h⟩ := bind_eq_ok h
  obtain ⟨idempotencyKey, h₂, h⟩ := bind_eq_ok h
  obtain ⟨tenantId, h₃, h⟩ := bind_eq_ok h
  obtain ⟨legalEntityId, h₄, h⟩ := bind_eq_ok h
  obtain ⟨legalName, h₅, h⟩ := bind_eq_ok h
  obtain ⟨registration, h₆, h⟩ := bind_eq_ok h
  obtain ⟨jurisdiction, h₇, h⟩ := bind_eq_ok h
  obtain ⟨engineInstanceId, h₈, h⟩ := bind_eq_ok h
  obtain ⟨isolation, h₉, h⟩ := bind_eq_ok h
  obtain ⟨planDigest, h₁₀, h⟩ := bind_eq_ok h
  obtain ⟨environment, h₁₁, h⟩ := bind_eq_ok h
  obtain ⟨dateText, h₁₂, h⟩ := bind_eq_ok h
  obtain ⟨effectiveDate, h₁₃, h⟩ := bind_eq_ok h
  obtain ⟨rawAccounting, h₁₄, h⟩ := bind_eq_ok h
  obtain ⟨accounting, h₁₅, h⟩ := bind_eq_ok h
  obtain ⟨rawMarkets, h₁₆, h⟩ := bind_eq_ok h
  obtain ⟨items, h₁₇, h⟩ := bind_eq_ok h
  obtain ⟨markets, h₁₈, h⟩ := bind_eq_ok h
  obtain ⟨listed, h₁₉, h⟩ := bind_eq_ok h
  obtain ⟨capabilities, h₂₀, h⟩ := bind_eq_ok h
  obtain rfl := Except.ok.inj h
  have hmarkets : ∀ m ∈ markets, IsFrozenset m.participationCapabilities ∧
      ∀ j, marketDocument R m = .ok j → Json.Loaded j := by
    intro m hm
    obtain ⟨raw, hraw, hread⟩ := mem_of_mapM h₁₈ m hm
    exact market_loaded (loaded_iterate (loaded_subscript hs h₁₆) h₁₇ raw hraw) hread
  refine ⟨fun m hm => (hmarkets m hm).1, frozenset_isFrozenset h₂₀, fun j hj => ?_⟩
  obtain ⟨docs, hdocs, hj⟩ := bind_eq_ok hj
  obtain ⟨set, hset, hj⟩ := bind_eq_ok hj
  obtain rfl := Except.ok.inj hj
  have hdocs' : Json.Loaded (.arr docs) := by
    refine loaded_arr.2 fun d hd => ?_
    obtain ⟨m, hm, hdoc⟩ := mem_of_mapM hdocs d hd
    exact (hmarkets m hm).2 d hdoc
  have hset' : Json.Loaded set :=
    loaded_setDocument (loaded_frozenset (loaded_optionalItems hs h₁₉) h₂₀) hset
  exact ⟨accounting_loaded (loaded_subscript hs h₁₄) h₁₅, trivial, loaded_subscript hs h₈,
    loaded_subscript hs h₂, loaded_subscript hs h₉, loaded_subscript hs h₇,
    loaded_subscript hs h₄, loaded_subscript hs h₅, hdocs', loaded_subscript hs h₁₀,
    loaded_subscript hs h₁, loaded_subscript hs h₆, hset', loaded_subscript hs h₁₁,
    loaded_subscript hs h₃, trivial⟩

/-! ### The text of a request determines it -/

theorem IsText.plain {j : Json} (h : IsText j) : Json.Plain j := by
  obtain ⟨s, rfl⟩ := h
  trivial

theorem plain_arr {xs : List Json} : Json.Plain (.arr xs) ↔ ∀ x ∈ xs, Json.Plain x := by
  induction xs with
  | nil => exact ⟨fun _ x h => absurd h List.not_mem_nil, fun _ => trivial⟩
  | cons x xs ih =>
    rw [List.forall_mem_cons, ← ih]
    exact .rfl

theorem IsTexts.plain {xs : List Json} (h : IsTexts xs) : Json.Plain (.arr xs) :=
  plain_arr.2 fun x hx => (h x hx).plain

/-- A market with the declared types has no float. -/
theorem market_plain {R : Runtime} {m : MarketConfiguration} {j : Json} (hm : m.Typed)
    (h : marketDocument R m = .ok j) : Json.Plain j := by
  obtain ⟨hid, hcountry, hset, hcurrencies, hprofile, hcodes, hzones⟩ := hm
  rw [marketDocument, setDocument_textSet R hset] at h
  obtain rfl := Except.ok.inj h
  refine Json.floatsMembers_iff.2 fun member hmem => ?_
  unfold marketMembers at hmem
  rw [List.mem_append] at hmem
  rcases hmem with hmem | hmem
  · simp only [List.mem_cons, List.not_mem_nil, or_false] at hmem
    rcases hmem with rfl | rfl | rfl | rfl | rfl | rfl
    · exact hcountry.plain
    · exact hcurrencies.plain
    · exact hprofile.plain
    · exact hid.plain
    · exact hset.isTexts.plain
    · exact hcodes.plain
  · split at hmem
    · exact absurd hmem List.not_mem_nil
    · rw [List.mem_singleton] at hmem
      subst hmem
      refine plain_arr.2 fun x hx => ?_
      obtain ⟨p, hp, rfl⟩ := List.mem_map.1 hx
      exact ⟨(hzones p hp).1.plain, (hzones p hp).2.plain, trivial⟩

theorem desiredState_plain {R : Runtime} {r : ErpProvisioningRequest} {j : Json} (hr : r.Typed)
    (h : desiredState R r = .ok j) : Json.Plain j := by
  obtain ⟨h₁, h₂, h₃, h₄, h₅, h₆, h₇, h₈, h₉, h₁₀, h₁₁, ha, hmarkets, hset⟩ := hr
  obtain ⟨docs, hdocs, h⟩ := bind_eq_ok h
  rw [setDocument_textSet R hset] at h
  obtain rfl := Except.ok.inj h
  have hdocs' : Json.Plain (.arr docs) := by
    refine plain_arr.2 fun d hd => ?_
    obtain ⟨m, hm, hdoc⟩ := mem_of_mapM hdocs d hd
    exact market_plain (hmarkets m hm) hdoc
  obtain ⟨a₁, a₂, a₃, a₄, a₅, a₆⟩ := ha
  have hacc : Json.Plain (accountingDocument r.accounting) :=
    ⟨a₃.plain, trivial, a₆.plain, a₂.plain, a₅.plain, trivial, a₁.plain, a₄.plain, trivial⟩
  exact ⟨hacc, trivial, h₈.plain, h₂.plain, h₉.plain, h₇.plain, h₄.plain, h₅.plain, hdocs',
    h₁₀.plain, h₁.plain, h₆.plain, hset.isTexts.plain, h₁₁.plain, h₃.plain, trivial⟩

theorem sortKeys_requestMembers (r : ErpProvisioningRequest) (docs : List Json) (set : Json) :
    Json.sortKeys (.obj (requestMembers r docs set)) =
      .obj (Json.sortMembers (requestMembers r docs set)) :=
  sortKeys_obj (by
    exact (by decide : ["accounting", "effective_date", "engine_instance_id", "idempotency_key",
      "isolation_requirement", "jurisdiction_code", "legal_entity_id", "legal_name", "markets",
      "plan_digest", "provisioning_id", "registration_identifier", "requested_capabilities",
      "target_environment", "tenant_id"].Pairwise (· ≤ ·)))

/-- **Two requests with one canonical text are one request**, when one has the
declared types and the other was read from a loaded state. -/
theorem desiredStateJson_injective {R : Runtime} {r s : ErpProvisioningRequest} {state : Json}
    {text : String} (hr : r.Typed) (hstate : Json.Loaded state)
    (hs : readRequest R state = .ok s) (htr : desiredStateJson R r = .ok text)
    (hts : desiredStateJson R s = .ok text) : s = r := by
  obtain ⟨hsets, hset', hloaded⟩ := readRequest_loaded hstate hs
  obtain ⟨j, hj, htr⟩ := bind_eq_ok htr
  obtain ⟨k, hk, hts⟩ := bind_eq_ok hts
  have htext : j.dumps = k.dumps := (Except.ok.inj htr).trans (Except.ok.inj hts).symm
  have hsort := Json.dumps_injective (desiredState_plain hr hj).loaded (hloaded k hk) htext
  obtain ⟨h₁, h₂, h₃, h₄, h₅, h₆, h₇, h₈, h₉, h₁₀, h₁₁, ha, hmarkets, hset⟩ := hr
  obtain ⟨docs, hdocs, hj⟩ := bind_eq_ok hj
  rw [setDocument_textSet R hset] at hj
  obtain rfl := Except.ok.inj hj
  obtain ⟨docs', hdocs', hk⟩ := bind_eq_ok hk
  obtain ⟨set, hcaps, hk⟩ := bind_eq_ok hk
  obtain rfl := Except.ok.inj hk
  rw [sortKeys_requestMembers, sortKeys_requestMembers, Json.obj.injEq] at hsort
  unfold requestMembers at hsort
  simp only [Json.sortMembers, List.cons.injEq, Prod.mk.injEq, true_and, and_true] at hsort
  obtain ⟨e₁, e₂, e₃, e₄, e₅, e₆, e₇, e₈, e₉, e₁₀, e₁₁, e₁₂, e₁₃, e₁₄, e₁₅⟩ := hsort
  have hdate : r.effectiveDate = s.effectiveDate := Date.str_injective (Json.str.inj e₂)
  have hm := markets_eq_of_marketDocuments hmarkets hsets hdocs hdocs' (Json.arr.inj e₉)
  have hc := textSet_eq_of_setDocument hset hset' (setDocument_textSet R hset) hcaps e₁₃
  obtain ⟨_, _, _, _, _, _, _, _, _, _, _, _, _, _, _⟩ := r
  obtain ⟨_, _, _, _, _, _, _, _, _, _, _, _, _, _, _⟩ := s
  simp only [ErpProvisioningRequest.mk.injEq]
  exact ⟨(h₁.eq_of_sortKeys e₁₁).symm, (h₂.eq_of_sortKeys e₄).symm, (h₃.eq_of_sortKeys e₁₅).symm,
    (h₄.eq_of_sortKeys e₇).symm, (h₅.eq_of_sortKeys e₈).symm, (h₆.eq_of_sortKeys e₁₂).symm,
    (h₇.eq_of_sortKeys e₆).symm, (h₈.eq_of_sortKeys e₃).symm, (h₉.eq_of_sortKeys e₅).symm,
    (h₁₀.eq_of_sortKeys e₁₀).symm, (h₁₁.eq_of_sortKeys e₁₄).symm, hdate.symm,
    (accounting_eq_of_accountingDocument ha e₁).symm, hm.symm, hc.symm⟩

end Provisioning
end BaobabErp
