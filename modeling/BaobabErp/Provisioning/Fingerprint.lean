/-
# What a request fingerprint tells apart

`ProvisioningCommand.fingerprint` hashes a canonical document of the command and the
principal.  **Two accepted requests have the same document exactly if they come from the
same principal and ask for the same** (`canonicalText_eq_iff`): the order of the legal
entities, baselines, countries, currencies and profiles does not count, the context of the
request does not count, and every other member does.
-/

import BaobabErp.Provisioning.Assignment
import BaobabErp.Provisioning.CanonicalState
import BaobabErp.Provisioning.OperationRequest

namespace BaobabErp
namespace Provisioning

open Python

/-! ### The document that is hashed -/

/-- The members of the document `fingerprint` hashes. -/
def ProvisioningCommand.canonicalMembers (c : ProvisioningCommand) (principal : String) :
    List (String × Json) :=
  [("principal", .str principal), ("tenant_id", .str c.tenantId),
    ("authority", .arr [.str c.authority.tenantProvisioningId, .str c.authority.planId,
      .int c.authority.planVersion, .str c.authority.planDigest]),
    ("legal_entity_ids", textsDocument (sorted c.legalEntityIds)),
    ("finance_baselines", .arr ((c.financeBaselines.insertionSort
      fun r s => r.legalEntityId ≤ s.legalEntityId).map FinanceBaselineRef.asContract)),
    ("requested_countries", textsDocument (Json.sortedTexts c.requestedCountries)),
    ("functional_currencies", textsDocument (Json.sortedTexts c.functionalCurrencies)),
    ("deployment_policy_id", (c.deploymentPolicyId.map Json.str).getD .null),
    ("localisation_profile_ids", textsDocument (Json.sortedTexts c.localisationProfileIds))]

/-- **The text that is hashed.** -/
def ProvisioningCommand.canonicalText (c : ProvisioningCommand) (principal : String) : String :=
  Json.dumps (.obj (c.canonicalMembers principal))

theorem fingerprint_eq (H : Hashes) (c : ProvisioningCommand) (principal : String) :
    c.fingerprint H principal = H.sha256 (c.canonicalText principal) := rfl

/-! ### What a request asks for -/

/-- The items of a list member; none where it is absent. -/
def itemsOf (ms : List (String × Json)) (name : String) : List Json :=
  ((ms.lookup name).bind Json.arr?).getD []

/-- These members of an object. -/
def membersOf (names : List String) (value : Json) : List Json :=
  names.map (Json.get (value.obj?.getD []))

/-- The members that tell one baseline reference from another; its `authority` is the same
in all that are accepted. -/
def baselineFacts : List String :=
  ["baseline_id", "legal_entity_id", "version", "digest", "effective_from"]

/-- **What a request asks for**: the members of its body, a list that stands for a set as
the set of its items.  The context of the request is no part of it. -/
structure RequestContent where
  tenant : Json
  authority : List Json
  legalEntities : Set Json
  baselines : Set (List Json)
  countries : Set Json
  currencies : Set Json
  policy : Option Json
  profiles : Set Json

def requestContent (body : Json) : RequestContent :=
  let ms := body.obj?.getD []
  { tenant := Json.get ms "tenant_id"
    authority := membersOf authorityMembers (Json.get ms "control_plane_authority")
    legalEntities := {x | x ∈ itemsOf ms "legal_entity_ids"}
    baselines := {x | x ∈ (itemsOf ms "finance_baselines").map (membersOf baselineFacts)}
    countries := {x | x ∈ itemsOf ms "requested_countries"}
    currencies := {x | x ∈ itemsOf ms "functional_currencies"}
    policy := ms.lookup "deployment_policy_id"
    profiles := {x | x ∈ itemsOf ms "localisation_profile_ids"} }

/-- The facts of a parsed reference. -/
def FinanceBaselineRef.facts (r : FinanceBaselineRef) : List Json :=
  [.str r.baselineId, .str r.legalEntityId, .int r.version, .str r.digest, .str r.effectiveFrom]

/-- The content of a parsed command. -/
def ProvisioningCommand.content (c : ProvisioningCommand) : RequestContent where
  tenant := .str c.tenantId
  authority := [.str c.authority.tenantProvisioningId, .str c.authority.planId,
    .int c.authority.planVersion, .str c.authority.planDigest]
  legalEntities := {x | x ∈ c.legalEntityIds.map Json.str}
  baselines := {x | x ∈ c.financeBaselines.map FinanceBaselineRef.facts}
  countries := {x | x ∈ c.requestedCountries.map Json.str}
  currencies := {x | x ∈ c.functionalCurrencies.map Json.str}
  policy := c.deploymentPolicyId.map Json.str
  profiles := {x | x ∈ c.localisationProfileIds.map Json.str}

/-! ### What the parser keeps -/

theorem str_of_textOfMember {value : Json} {grammar : String → Bool} {field : String}
    {low high : Nat} (h : (textOfMember value grammar field low high).2 = []) :
    ∃ s, value = .str s ∧ low ≤ s.length ∧
      (textOfMember value grammar field low high).1 = some s := by
  unfold textOfMember at h ⊢
  cases value with
  | str s =>
    simp only at h ⊢
    split at h
    · rename_i hs
      rw [if_pos hs]
      simp only [Bool.and_eq_true, decide_eq_true_eq] at hs
      exact ⟨s, rfl, hs.1.1, rfl⟩
    · exact absurd h (by simp)
  | _ => exact absurd h (by simp)

theorem nodup_of_dedup_length {α : Type} [DecidableEq α] {xs : List α}
    (h : xs.dedup.length = xs.length) : xs.Nodup := by
  rw [← (List.dedup_sublist xs).eq_of_length h]
  exact List.nodup_dedup xs

/-- The items of a set, read one after the other. -/
theorem texts_of_items {grammar : String → Bool} {field : Nat → String} {low high : Nat}
    (hlow : 0 < low) {xs : List Json} {k : Nat}
    (h : (((xs.zipIdx k).map fun (x, i) => textOfMember x grammar (field i) low high).map
      Prod.snd).flatten = []) :
    xs = ((((xs.zipIdx k).map fun (x, i) => textOfMember x grammar (field i) low high).filterMap
      Prod.fst).filter (· != "")).map Json.str := by
  induction xs generalizing k with
  | nil => rfl
  | cons x xs ih =>
    rw [List.zipIdx_cons, List.map_cons, List.map_cons, List.flatten_cons, List.append_eq_nil_iff] at h
    obtain ⟨s, rfl, hs, htext⟩ := str_of_textOfMember h.1
    have hne : (s != "") = true := by
      rw [bne_iff_ne]
      rintro rfl
      rw [String.length_empty] at hs
      omega
    rw [List.zipIdx_cons, List.map_cons, List.filterMap_cons_some htext,
      @List.filter_cons_of_pos _ (· != "") s _ hne, List.map_cons, ← ih h.2]

/-- **A set member that is accepted is the list of its texts**, none of them twice. -/
theorem arr_of_setOfMember {value : Json} {grammar : String → Bool} {field : String}
    {minimum low high : Nat} (hlow : 0 < low)
    (h : (setOfMember value grammar field minimum low high).2 = []) :
    value = .arr ((setOfMember value grammar field minimum low high).1.map Json.str) ∧
      (setOfMember value grammar field minimum low high).1.Nodup := by
  unfold setOfMember at h ⊢
  cases value with
  | arr xs =>
    simp only at h ⊢
    split at h
    · exact absurd h (by simp)
    rename_i hlength
    rw [if_neg hlength]
    obtain ⟨hrepeated, hitems⟩ := List.append_eq_nil_iff.1 h
    have htexts := @texts_of_items grammar (fun i => field ++ "[" ++ toString i ++ "]") low high hlow
      xs 0 hitems
    refine ⟨congrArg Json.arr htexts, ?_⟩
    split at hrepeated
    · rename_i hdedup
      have hnodup := nodup_of_dedup_length (hdedup.trans (List.length_map _).symm)
      rw [htexts, List.map_map] at hnodup
      exact hnodup.of_map
    · exact absurd hrepeated (by simp)
  | _ => exact absurd h (by simp)

theorem eq_int_of_int? {value : Json} {n : Int} (h : value.int? = some n) : value = .int n := by
  cases value with
  | int m => rw [Json.int?, Option.some.injEq] at h; rw [h]
  | _ => exact absurd h (by simp [Json.int?])

theorem isSome_of_isVersion {value : Json} (h : isVersion value = true) :
    ∃ n, value = .int n ∧ value.int? = some n := by
  unfold isVersion at h
  cases value with
  | int n => exact ⟨n, rfl, rfl⟩
  | _ => exact absurd h (by simp [Json.int?])

theorem pair_of_textOfMember {value : Json} {grammar : String → Bool} {field : String}
    {low high : Nat} (h : (textOfMember value grammar field low high).2 = []) :
    ∃ s, value = .str s ∧ textOfMember value grammar field low high = (some s, []) := by
  obtain ⟨s, hvalue, -, htext⟩ := str_of_textOfMember h
  exact ⟨s, hvalue, Prod.ext htext h⟩

theorem eq_nil_of_ite {p : Prop} [Decidable p] {e : String × String}
    (h : (if p then [] else [e]) = ([] : Errors)) : p := by
  by_contra hp
  rw [if_neg hp] at h
  cases h

/-- **An accepted reference holds the facts of its item.** -/
theorem facts_of_baselineRef {R : Runtime} {item : Json} {field : String}
    (h : (baselineRef R item field).2 = []) :
    ∃ ref, (baselineRef R item field).1 = some ref ∧ membersOf baselineFacts item = ref.facts := by
  cases item with
  | obj ms =>
    unfold baselineRef at h ⊢
    simp only [List.append_eq_nil_iff] at h
    obtain ⟨-, ⟨⟨⟨⟨⟨hid, hentity⟩, hdigest⟩, hdate⟩, heffective⟩, hversion⟩, hauthority⟩ := h
    obtain ⟨id, hid', hid⟩ := pair_of_textOfMember hid
    obtain ⟨entity, hentity', hentity⟩ := pair_of_textOfMember hentity
    obtain ⟨digest, hdigest', hdigest⟩ := pair_of_textOfMember hdigest
    obtain ⟨date, hdate', hdate⟩ := pair_of_textOfMember hdate
    obtain ⟨n, hn, hversion'⟩ := isSome_of_isVersion (eq_nil_of_ite hversion)
    have hcalendar : (Date.fromisoformat date).isSome = true := by
      by_contra hcalendar
      rw [hdate] at heffective
      simp [Option.filter, hcalendar] at heffective
    have hfilter : (some date).filter (fun s => (Date.fromisoformat s).isSome) = some date := by
      rw [Option.filter, if_pos hcalendar]
    refine ⟨⟨id, entity, n, digest, date⟩, ?_, ?_⟩
    · simp only [hid, hentity, hdigest, hdate, hfilter, hversion', Option.isNone_some,
        Bool.and_false, Bool.false_eq_true, if_false, hversion, hauthority, List.append_nil,
        List.isEmpty_nil, if_true]
    · simp only [membersOf, baselineFacts, Json.obj?, Option.getD_some, List.map_cons, List.map_nil,
        hid', hentity', hdigest', hdate', hn, FinanceBaselineRef.facts]
  | _ => exact absurd h (by simp [baselineRef])

/-- The references of a list, read one after the other. -/
theorem facts_of_items {R : Runtime} {field : Nat → String} {xs : List Json} {k : Nat}
    (h : (((xs.zipIdx k).map fun (x, i) => baselineRef R x (field i)).map Prod.snd).flatten = []) :
    xs.map (membersOf baselineFacts) =
      (((xs.zipIdx k).map fun (x, i) => baselineRef R x (field i)).filterMap Prod.fst).map
        FinanceBaselineRef.facts := by
  induction xs generalizing k with
  | nil => rfl
  | cons x xs ih =>
    rw [List.zipIdx_cons, List.map_cons, List.map_cons, List.flatten_cons, List.append_eq_nil_iff] at h
    obtain ⟨ref, href, hfacts⟩ := facts_of_baselineRef h.1
    rw [List.zipIdx_cons, List.map_cons, List.map_cons, List.filterMap_cons_some href, List.map_cons,
      hfacts, ih h.2]

/-- **Accepted references are those of the items**, and name no legal entity twice. -/
theorem facts_of_baselineRefs {R : Runtime} {value : Json} (h : (baselineRefs R value).2 = []) :
    ∃ items, value = .arr items ∧
      items.map (membersOf baselineFacts) = (baselineRefs R value).1.map FinanceBaselineRef.facts ∧
      ((baselineRefs R value).1.map FinanceBaselineRef.legalEntityId).Nodup := by
  unfold baselineRefs at h ⊢
  split at h
  · rename_i x xs
    obtain ⟨hitems, htwice⟩ := List.append_eq_nil_iff.1 h
    refine ⟨x :: xs, rfl, @facts_of_items R (fun i => "finance_baselines[" ++ toString i ++ "]") _ 0
      hitems, ?_⟩
    exact nodup_of_dedup_length ((eq_nil_of_ite htwice).trans (List.length_map _).symm)
  · cases h

/-- The parsed authority holds the members of its object. -/
theorem members_of_authorityOf {value : Json} {authority : ControlPlaneAuthority}
    (h : (authorityOf value).2 = []) (hauthority : (authorityOf value).1 = some authority) :
    membersOf authorityMembers value = [.str authority.tenantProvisioningId, .str authority.planId,
      .int authority.planVersion, .str authority.planDigest] := by
  cases value with
  | obj ms =>
    unfold authorityOf at h hauthority
    simp only [List.append_eq_nil_iff] at h
    obtain ⟨⟨⟨⟨-, -⟩, hprovisioning⟩, hplan⟩, hdigest⟩ := h
    obtain ⟨provisioning, hprovisioning', hprovisioning⟩ := pair_of_textOfMember hprovisioning
    obtain ⟨plan, hplan', hplan⟩ := pair_of_textOfMember hplan
    obtain ⟨digest, hdigest', hdigest⟩ := pair_of_textOfMember hdigest
    simp only [hprovisioning, hplan, hdigest] at hauthority
    cases hversion : (Json.get ms "plan_version").int? with
    | none =>
      rw [hversion] at hauthority
      cases hauthority
    | some n =>
      rw [hversion] at hauthority
      simp only at hauthority
      split at hauthority
      · obtain rfl := Option.some.inj hauthority
        simp only [membersOf, authorityMembers, Json.obj?, Option.getD_some, List.map_cons,
          List.map_nil, hprovisioning', hplan', hdigest', eq_int_of_int? hversion]
      · cases hauthority
  | _ => exact absurd hauthority (by simp [authorityOf])

/-! ### What an accepted request holds -/

/-- No two legal entities and no two baselines of a command are the same. -/
structure ProvisioningCommand.Apart (c : ProvisioningCommand) : Prop where
  entities : c.legalEntityIds.Nodup
  baselines : (c.financeBaselines.map FinanceBaselineRef.legalEntityId).Nodup

theorem lookup_of_whenPresent {α : Type} {ms : List (String × Json)} {name : String} {absent : α}
    {f : Json → α × Errors} {value : Json} (h : ms.lookup name = some value) :
    whenPresent ms name absent f = f value := by
  rw [whenPresent, h]

theorem absent_of_whenPresent {α : Type} {ms : List (String × Json)} {name : String} {absent : α}
    {f : Json → α × Errors} (h : ms.lookup name = none) :
    whenPresent ms name absent f = (absent, []) := by
  rw [whenPresent, h]

/-- The items of a set member that is accepted are its texts. -/
theorem items_of_set {ms : List (String × Json)} {name field : String} {grammar : String → Bool}
    {minimum low high : Nat} (hlow : 0 < low)
    (h : (whenPresent ms name [] fun v => setOfMember v grammar field minimum low high).2 = []) :
    itemsOf ms name =
        ((whenPresent ms name [] fun v => setOfMember v grammar field minimum low high).1).map
          Json.str ∧
      ((whenPresent ms name [] fun v => setOfMember v grammar field minimum low high).1).Nodup := by
  cases hlookup : ms.lookup name with
  | none =>
    rw [absent_of_whenPresent hlookup, itemsOf, hlookup]
    exact ⟨rfl, List.nodup_nil⟩
  | some value =>
    rw [lookup_of_whenPresent hlookup] at h ⊢
    obtain ⟨hvalue, hnodup⟩ := arr_of_setOfMember hlow h
    refine ⟨?_, hnodup⟩
    rw [itemsOf, hlookup, Option.bind_some]
    conv_lhs => rw [hvalue]
    rfl

/-- The references that are accepted are those of the items of their member. -/
theorem items_of_baselines {R : Runtime} {ms : List (String × Json)}
    (h : (whenPresent ms "finance_baselines" [] (baselineRefs R)).2 = []) :
    (itemsOf ms "finance_baselines").map (membersOf baselineFacts) =
        (whenPresent ms "finance_baselines" [] (baselineRefs R)).1.map FinanceBaselineRef.facts ∧
      ((whenPresent ms "finance_baselines" [] (baselineRefs R)).1.map
        FinanceBaselineRef.legalEntityId).Nodup := by
  cases hlookup : ms.lookup "finance_baselines" with
  | none =>
    rw [absent_of_whenPresent hlookup, itemsOf, hlookup]
    exact ⟨rfl, List.nodup_nil⟩
  | some value =>
    rw [lookup_of_whenPresent hlookup] at h ⊢
    obtain ⟨items, rfl, hfacts, hnodup⟩ := facts_of_baselineRefs h
    refine ⟨?_, hnodup⟩
    rw [itemsOf, hlookup, ← hfacts]
    rfl

/-- A text member that is accepted is that text, if it is there. -/
theorem lookup_of_text {ms : List (String × Json)} {name field : String}
    {grammar : String → Bool} {low high : Nat}
    (h : (whenPresent ms name none fun v => textOfMember v grammar field low high).2 = []) :
    ms.lookup name =
      (whenPresent ms name none fun v => textOfMember v grammar field low high).1.map Json.str := by
  cases hlookup : ms.lookup name with
  | none =>
    rw [absent_of_whenPresent hlookup]
    rfl
  | some value =>
    rw [lookup_of_whenPresent hlookup] at h ⊢
    obtain ⟨t, rfl, ht⟩ := pair_of_textOfMember h
    rw [ht]
    rfl

/-- **The content of an accepted body is that of its command.** -/
theorem content_of_parseCommand {R : Runtime} {body : Json} {c : ProvisioningCommand}
    (h : parseCommand R body = .ok c) : requestContent body = c.content ∧ c.Apart := by
  unfold parseCommand at h
  cases body with
  | obj ms =>
    simp only at h
    split at h
    · rename_i tenant contextId authority htenant hcontext hauthority
      split at h
      · rename_i hempty
        obtain rfl := Except.ok.inj h
        simp only [List.isEmpty_iff, List.append_eq_nil_iff] at hempty
        obtain ⟨⟨⟨⟨⟨⟨⟨⟨⟨-, e₁⟩, -⟩, e₃⟩, e₄⟩, e₅⟩, e₆⟩, e₇⟩, e₈⟩, e₉⟩ := hempty
        have htenant' : Json.get ms "tenant_id" = .str tenant := by
          rw [Json.get, lookup_of_text e₁, htenant]
          rfl
        have hauthority' : membersOf authorityMembers (Json.get ms "control_plane_authority") =
            [.str authority.tenantProvisioningId, .str authority.planId,
              .int authority.planVersion, .str authority.planDigest] := by
          cases hlookup : ms.lookup "control_plane_authority" with
          | none =>
            rw [absent_of_whenPresent hlookup] at hauthority
            cases hauthority
          | some value =>
            rw [lookup_of_whenPresent hlookup] at e₃ hauthority
            rw [Json.get, hlookup, Option.getD_some]
            exact members_of_authorityOf e₃ hauthority
        obtain ⟨hentities, hnodup⟩ := items_of_set (by norm_num) e₄
        obtain ⟨hbaselines, happart⟩ := items_of_baselines e₅
        refine ⟨?_, hnodup, happart⟩
        simp only [requestContent, Json.obj?, Option.getD_some, htenant', hauthority', hentities,
          hbaselines, (items_of_set (by norm_num) e₆).1, (items_of_set (by norm_num) e₇).1,
          lookup_of_text e₈, (items_of_set (by norm_num) e₉).1, ProvisioningCommand.content]
      · cases h
    · cases h
  | _ => cases h

/-! ### Equal content has one text -/

theorem mem_map_str {texts : List String} {s : String} : Json.str s ∈ texts.map Json.str ↔ s ∈ texts :=
  List.mem_map_of_injective fun _ _ h => Json.str.inj h

/-- The lists that stand for one set have the same texts. -/
theorem mem_iff_of_sets {xs ys : List String}
    (h : {x | x ∈ xs.map Json.str} = {x | x ∈ ys.map Json.str}) (s : String) : s ∈ xs ↔ s ∈ ys := by
  have hs : Json.str s ∈ {x | x ∈ xs.map Json.str} ↔ Json.str s ∈ {x | x ∈ ys.map Json.str} := by
    rw [h]
  exact mem_map_str.symm.trans (hs.trans mem_map_str)

/-- A sorted list is determined by what is in it, when the order tells its items apart. -/
theorem insertionSort_eq_of_mem_iff {α : Type} {r : α → α → Prop} [DecidableRel r]
    [Std.Total r] [IsTrans α r] {xs ys : List α} (hxs : xs.Nodup) (hys : ys.Nodup)
    (h : ∀ a, a ∈ xs ↔ a ∈ ys) (hanti : ∀ a ∈ xs, ∀ b ∈ xs, r a b → r b a → a = b) :
    xs.insertionSort r = ys.insertionSort r := by
  have hperm : (xs.insertionSort r).Perm (ys.insertionSort r) :=
    (List.perm_insertionSort r xs).trans
      (((List.perm_ext_iff_of_nodup hxs hys).2 h).trans (List.perm_insertionSort r ys).symm)
  refine hperm.eq_of_pairwise (fun a b ha hb hab hba => ?_) (List.pairwise_insertionSort r xs)
    (List.pairwise_insertionSort r ys)
  exact hanti a ((List.mem_insertionSort r).1 ha) b ((h b).2 ((List.mem_insertionSort r).1 hb)) hab hba

theorem mem_sorted {texts : List String} {s : String} : s ∈ sorted texts ↔ s ∈ texts :=
  List.mem_insertionSort _

theorem mem_sortedTexts {texts : List String} {s : String} :
    s ∈ Json.sortedTexts texts ↔ s ∈ texts := by
  rw [Json.sortedTexts, List.mem_dedup, List.mem_insertionSort]

theorem sortedTexts_eq_of_mem_iff {xs ys : List String} (h : ∀ s, s ∈ xs ↔ s ∈ ys) :
    Json.sortedTexts xs = Json.sortedTexts ys := by
  have hxs := sortedTexts_pairwise xs
  have hys := sortedTexts_pairwise ys
  have hmem : ∀ s, s ∈ Json.sortedTexts xs ↔ s ∈ Json.sortedTexts ys := fun s => by
    rw [mem_sortedTexts, mem_sortedTexts, h s]
  have hperm := (List.perm_ext_iff_of_nodup (hxs.imp ne_of_lt) (hys.imp ne_of_lt)).2 hmem
  exact hperm.eq_of_pairwise (fun a b _ _ hab hba => absurd hba (lt_asymm hab)) hxs hys

theorem facts_injective : Function.Injective FinanceBaselineRef.facts := by
  intro a b h
  obtain ⟨id, entity, version, digest, date⟩ := a
  obtain ⟨id', entity', version', digest', date'⟩ := b
  simp only [FinanceBaselineRef.facts, List.cons.injEq, Json.str.injEq, Json.int.injEq,
    and_true] at h
  obtain ⟨rfl, rfl, rfl, rfl, rfl⟩ := h
  rfl

/-- References of different entities are told apart by their entities. -/
theorem eq_of_legalEntityId {refs : List FinanceBaselineRef}
    (h : (refs.map FinanceBaselineRef.legalEntityId).Nodup) {a b : FinanceBaselineRef}
    (ha : a ∈ refs) (hb : b ∈ refs) (heq : a.legalEntityId = b.legalEntityId) : a = b :=
  List.inj_on_of_nodup_map h ha hb heq

instance : Std.Total fun r s : FinanceBaselineRef => r.legalEntityId ≤ s.legalEntityId :=
  ⟨fun r s => le_total r.legalEntityId s.legalEntityId⟩

instance : IsTrans FinanceBaselineRef fun r s => r.legalEntityId ≤ s.legalEntityId :=
  ⟨fun _ _ _ => le_trans⟩

/-- **Commands of one content have one text.** -/
theorem canonicalMembers_eq {c c' : ProvisioningCommand} (hc : c.Apart) (hc' : c'.Apart)
    (h : c.content = c'.content) (principal : String) :
    c.canonicalMembers principal = c'.canonicalMembers principal := by
  simp only [ProvisioningCommand.content, RequestContent.mk.injEq, Json.str.injEq, List.cons.injEq,
    Json.int.injEq, and_true] at h
  obtain ⟨htenant, ⟨hprovisioning, hplan, hversion, hdigest⟩, hentities, hbaselines, hcountries,
    hcurrencies, hpolicy, hprofiles⟩ := h
  have hsorted : sorted c.legalEntityIds = sorted c'.legalEntityIds :=
    insertionSort_eq_of_mem_iff hc.entities hc'.entities (mem_iff_of_sets hentities)
      fun a _ b _ => le_antisymm
  have hrefs : ∀ r, r ∈ c.financeBaselines ↔ r ∈ c'.financeBaselines := fun r => by
    have hr : r.facts ∈ {x | x ∈ c.financeBaselines.map FinanceBaselineRef.facts} ↔
        r.facts ∈ {x | x ∈ c'.financeBaselines.map FinanceBaselineRef.facts} := by rw [hbaselines]
    exact (List.mem_map_of_injective facts_injective).symm.trans
      (hr.trans (List.mem_map_of_injective facts_injective))
  have hbaselines' := @insertionSort_eq_of_mem_iff _
    (fun r s : FinanceBaselineRef => r.legalEntityId ≤ s.legalEntityId) _ _ _ _ _
    (List.Nodup.of_map _ hc.baselines) (List.Nodup.of_map _ hc'.baselines) hrefs
    fun a ha b hb hab hba => eq_of_legalEntityId hc.baselines ha hb (le_antisymm hab hba)
  rw [ProvisioningCommand.canonicalMembers, ProvisioningCommand.canonicalMembers, htenant,
    hprovisioning, hplan, hversion, hdigest, hsorted, hbaselines',
    sortedTexts_eq_of_mem_iff (mem_iff_of_sets hcountries),
    sortedTexts_eq_of_mem_iff (mem_iff_of_sets hcurrencies), hpolicy,
    sortedTexts_eq_of_mem_iff (mem_iff_of_sets hprofiles)]

/-! ### One text has equal content -/

/-- A member of a document is there, sorted within, in every document of its text. -/
theorem mem_of_sortKeys {ms ns : List (String × Json)}
    (h : Json.sortKeys (.obj ms) = Json.sortKeys (.obj ns)) {m : String × Json}
    (hm : m ∈ Json.sortMembers ms) : m ∈ Json.sortMembers ns := by
  rw [Json.sortKeys, Json.sortKeys, Json.obj.injEq] at h
  have hsorted := (List.mem_insertionSort fun m n : String × Json => m.1 ≤ n.1).2 hm
  rw [h] at hsorted
  exact (List.mem_insertionSort _).1 hsorted

theorem sortKeys_textsDocument (texts : List String) :
    Json.sortKeys (textsDocument texts) = textsDocument texts := by
  have hitems : Json.sortItems (texts.map Json.str) = texts.map Json.str := by
    induction texts with
    | nil => rfl
    | cons s texts ih => rw [List.map_cons, Json.sortItems, ih]; rfl
  rw [textsDocument, Json.sortKeys, hitems]

theorem textsDocument_injective {xs ys : List String} (h : textsDocument xs = textsDocument ys) :
    xs = ys :=
  List.map_injective_iff.2 (fun _ _ h => Json.str.inj h) (Json.arr.inj h)

theorem textsDocument_plain (texts : List String) : Json.Plain (textsDocument texts) := by
  induction texts with
  | nil => trivial
  | cons s texts ih => exact ⟨trivial, ih⟩

theorem asContract_plain (refs : List FinanceBaselineRef) :
    Json.Plain (.arr (refs.map FinanceBaselineRef.asContract)) := by
  induction refs with
  | nil => trivial
  | cons r refs ih => exact ⟨⟨trivial, trivial, trivial, trivial, trivial, ⟨trivial, trivial, trivial⟩, trivial⟩, ih⟩

/-- The document that is hashed has no float in it. -/
theorem canonicalMembers_plain (c : ProvisioningCommand) (principal : String) :
    Json.Plain (.obj (c.canonicalMembers principal)) := by
  have hpolicy : Json.Plain ((c.deploymentPolicyId.map Json.str).getD .null) := by
    cases c.deploymentPolicyId with
    | none => trivial
    | some s => trivial
  exact ⟨trivial, trivial, ⟨trivial, trivial, trivial, trivial, trivial⟩, textsDocument_plain _,
    asContract_plain _, textsDocument_plain _, textsDocument_plain _, hpolicy,
    textsDocument_plain _, trivial⟩

/-- A reference is determined by its document. -/
theorem asContract_injective {refs refs' : List FinanceBaselineRef}
    (h : Json.sortItems (refs.map FinanceBaselineRef.asContract) =
      Json.sortItems (refs'.map FinanceBaselineRef.asContract)) : refs = refs' := by
  induction refs generalizing refs' with
  | nil =>
    cases refs' with
    | nil => rfl
    | cons r refs' => simp [Json.sortItems] at h
  | cons r refs ih =>
    cases refs' with
    | nil => simp [Json.sortItems] at h
    | cons r' refs' =>
      rw [List.map_cons, List.map_cons, Json.sortItems, Json.sortItems, List.cons.injEq] at h
      obtain ⟨hr, hrefs⟩ := h
      have hmem := fun m => @mem_of_sortKeys _ _ hr m
      have hid : r.baselineId = r'.baselineId := by
        simpa [Json.sortMembers, Json.sortKeys] using hmem ("baseline_id", .str r.baselineId)
      have hentity : r.legalEntityId = r'.legalEntityId := by
        simpa [Json.sortMembers, Json.sortKeys] using hmem ("legal_entity_id", .str r.legalEntityId)
      have hversion : r.version = r'.version := by
        simpa [Json.sortMembers, Json.sortKeys] using hmem ("version", .int r.version)
      have hdigest : r.digest = r'.digest := by
        simpa [Json.sortMembers, Json.sortKeys] using hmem ("digest", .str r.digest)
      have hdate : r.effectiveFrom = r'.effectiveFrom := by
        simpa [Json.sortMembers, Json.sortKeys] using hmem ("effective_from", .str r.effectiveFrom)
      have heq : r.facts = r'.facts := by
        rw [FinanceBaselineRef.facts, FinanceBaselineRef.facts, hid, hentity, hversion, hdigest, hdate]
      rw [ih hrefs, facts_injective heq]

/-- A member whose value is sorted within is the other document's member of that name. -/
theorem member_eq {c c' : ProvisioningCommand} {p p' : String}
    (h : c.canonicalText p = c'.canonicalText p') {m : String × Json}
    (hm : m ∈ Json.sortMembers (c.canonicalMembers p)) :
    m ∈ Json.sortMembers (c'.canonicalMembers p') :=
  mem_of_sortKeys (Json.dumps_injective (canonicalMembers_plain c p).loaded
    (canonicalMembers_plain c' p').loaded h) hm

theorem policy_injective {a b : Option String}
    (h : (a.map Json.str).getD .null = (b.map Json.str).getD .null) : a = b := by
  cases a with
  | none =>
    cases b with
    | none => rfl
    | some s => cases h
  | some s =>
    cases b with
    | none => cases h
    | some t => exact congrArg some (Json.str.inj h)

theorem sortKeys_policy (a : Option String) :
    Json.sortKeys ((a.map Json.str).getD .null) = (a.map Json.str).getD .null := by
  cases a with
  | none => rfl
  | some s => rfl

theorem sets_of_mem_iff {xs ys : List String} (h : ∀ s, s ∈ xs ↔ s ∈ ys) :
    {x | x ∈ xs.map Json.str} = {x | x ∈ ys.map Json.str} := by
  ext x
  simp only [Set.mem_ofPred_eq, List.mem_map, h]

theorem mem_iff_of_sortedTexts {xs ys : List String} (h : Json.sortedTexts xs = Json.sortedTexts ys)
    (s : String) : s ∈ xs ↔ s ∈ ys := by
  rw [← mem_sortedTexts, h, mem_sortedTexts]

/-- **One text has one principal and one content.** -/
theorem content_of_canonicalText {c c' : ProvisioningCommand} {p p' : String}
    (h : c.canonicalText p = c'.canonicalText p') : p = p' ∧ c.content = c'.content := by
  have hmem := fun m => @member_eq c c' p p' h m
  have hprincipal : p = p' := by
    simpa [ProvisioningCommand.canonicalMembers, Json.sortMembers, Json.sortKeys] using
      hmem ("principal", .str p)
  have htenant : c.tenantId = c'.tenantId := by
    simpa [ProvisioningCommand.canonicalMembers, Json.sortMembers, Json.sortKeys] using
      hmem ("tenant_id", .str c.tenantId)
  have hauthority : c.content.authority = c'.content.authority := by
    have := hmem ("authority", Json.sortKeys (.arr c.content.authority))
    simpa [ProvisioningCommand.canonicalMembers, ProvisioningCommand.content, Json.sortMembers,
      Json.sortKeys, Json.sortItems] using this
  have hentities : sorted c.legalEntityIds = sorted c'.legalEntityIds := by
    have := hmem ("legal_entity_ids", textsDocument (sorted c.legalEntityIds))
    simp only [ProvisioningCommand.canonicalMembers, Json.sortMembers, sortKeys_textsDocument] at this
    exact textsDocument_injective (by simpa using this)
  have hbaselines : (c.financeBaselines.insertionSort fun r s => r.legalEntityId ≤ s.legalEntityId) =
      c'.financeBaselines.insertionSort fun r s => r.legalEntityId ≤ s.legalEntityId := by
    have := hmem ("finance_baselines", Json.sortKeys (.arr ((c.financeBaselines.insertionSort
      fun r s => r.legalEntityId ≤ s.legalEntityId).map FinanceBaselineRef.asContract)))
    simp only [ProvisioningCommand.canonicalMembers, Json.sortMembers] at this
    exact asContract_injective (by simpa [Json.sortKeys] using this)
  have hcountries : Json.sortedTexts c.requestedCountries = Json.sortedTexts c'.requestedCountries := by
    have := hmem ("requested_countries", textsDocument (Json.sortedTexts c.requestedCountries))
    simp only [ProvisioningCommand.canonicalMembers, Json.sortMembers, sortKeys_textsDocument] at this
    exact textsDocument_injective (by simpa using this)
  have hcurrencies :
      Json.sortedTexts c.functionalCurrencies = Json.sortedTexts c'.functionalCurrencies := by
    have := hmem ("functional_currencies", textsDocument (Json.sortedTexts c.functionalCurrencies))
    simp only [ProvisioningCommand.canonicalMembers, Json.sortMembers, sortKeys_textsDocument] at this
    exact textsDocument_injective (by simpa using this)
  have hpolicy : c.deploymentPolicyId = c'.deploymentPolicyId := by
    have := hmem ("deployment_policy_id", (c.deploymentPolicyId.map Json.str).getD .null)
    simp only [ProvisioningCommand.canonicalMembers, Json.sortMembers, sortKeys_policy] at this
    exact policy_injective (by simpa using this)
  have hprofiles :
      Json.sortedTexts c.localisationProfileIds = Json.sortedTexts c'.localisationProfileIds := by
    have := hmem ("localisation_profile_ids",
      textsDocument (Json.sortedTexts c.localisationProfileIds))
    simp only [ProvisioningCommand.canonicalMembers, Json.sortMembers, sortKeys_textsDocument] at this
    exact textsDocument_injective (by simpa using this)
  have hentity : ∀ s, s ∈ c.legalEntityIds ↔ s ∈ c'.legalEntityIds := fun s => by
    rw [← mem_sorted, hentities, mem_sorted]
  have hbaseline : ∀ r, r ∈ c.financeBaselines ↔ r ∈ c'.financeBaselines := fun r => by
    rw [← List.mem_insertionSort fun r s : FinanceBaselineRef => r.legalEntityId ≤ s.legalEntityId,
      hbaselines, List.mem_insertionSort]
  refine ⟨hprincipal, ?_⟩
  rw [ProvisioningCommand.content, ProvisioningCommand.content, RequestContent.mk.injEq]
  refine ⟨congrArg Json.str htenant, hauthority, sets_of_mem_iff hentity, ?_,
    sets_of_mem_iff (mem_iff_of_sortedTexts hcountries),
    sets_of_mem_iff (mem_iff_of_sortedTexts hcurrencies), congrArg (Option.map Json.str) hpolicy,
    sets_of_mem_iff (mem_iff_of_sortedTexts hprofiles)⟩
  ext x
  simp only [Set.mem_ofPred_eq, List.mem_map, hbaseline]

/-- **Two accepted requests are hashed from one text exactly if they come from the same
principal and ask for the same.** -/
theorem canonicalText_eq_iff {R R' : Runtime} {body body' : Json} {c c' : ProvisioningCommand}
    (h : parseCommand R body = .ok c) (h' : parseCommand R' body' = .ok c') (p p' : String) :
    c.canonicalText p = c'.canonicalText p' ↔ p = p' ∧ requestContent body = requestContent body' := by
  obtain ⟨hcontent, hc⟩ := content_of_parseCommand h
  obtain ⟨hcontent', hc'⟩ := content_of_parseCommand h'
  rw [hcontent, hcontent']
  constructor
  · exact content_of_canonicalText
  · rintro ⟨rfl, hsame⟩
    rw [ProvisioningCommand.canonicalText, ProvisioningCommand.canonicalText,
      canonicalMembers_eq hc hc' hsame]

/-- A request for one legal entity in some countries, under a context of its own. -/
def countriesBody (contextId : String) (countries : List String) : Json :=
  .obj [("tenant_id", .str "tn_acme"), ("context_id", .str contextId),
    ("control_plane_authority", .obj [("tenant_provisioning_id", .str "tp_acme"),
      ("plan_id", .str "plan_acme"), ("plan_version", .int 1),
      ("plan_digest",
        .str "sha256:60e96e8846578a9f955bbcd64656f40ddda13a3218b2ebc7e7e00bcfb8c38d18")]),
    ("legal_entity_ids", .arr [.str "NABK"]),
    ("finance_baselines", .arr [.obj [("baseline_id", .str "fb_60e96e8846578a9f955bbcd64656f40d"),
      ("legal_entity_id", .str "NABK"), ("version", .int 1),
      ("digest", .str "sha256:60e96e8846578a9f955bbcd64656f40ddda13a3218b2ebc7e7e00bcfb8c38d18"),
      ("effective_from", .str "2026-01-01"), ("authority", baselineAuthority)]]),
    ("requested_countries", .arr (countries.map Json.str)),
    ("functional_currencies", .arr [.str "KES"])]

/-- Numbers and letters as far as the requests above hold any. -/
def plainRuntime : Runtime := ⟨fun _ => none, fun _ _ => .eq, fun _ => false, id⟩

theorem parsed_of_isSome {R : Runtime} {body : Json}
    (h : (parseCommand R body).toOption.isSome = true) : ∃ c, parseCommand R body = .ok c := by
  cases hparse : parseCommand R body with
  | error e =>
    rw [hparse] at h
    cases h
  | ok c => exact ⟨c, rfl⟩

/-- A request repeated under another context with its countries in another order. -/
theorem reordered_same_text :
    ∃ c c', parseCommand plainRuntime
        (countriesBody "11111111-1111-4111-8111-111111111111" ["KE", "UG"]) = .ok c ∧
      parseCommand plainRuntime
        (countriesBody "22222222-2222-4222-8222-222222222222" ["UG", "KE"]) = .ok c' ∧
      c.canonicalText "control-plane" = c'.canonicalText "control-plane" := by
  obtain ⟨c, hc⟩ := @parsed_of_isSome plainRuntime
    (countriesBody "11111111-1111-4111-8111-111111111111" ["KE", "UG"]) (by decide +kernel)
  obtain ⟨c', hc'⟩ := @parsed_of_isSome plainRuntime
    (countriesBody "22222222-2222-4222-8222-222222222222" ["UG", "KE"]) (by decide +kernel)
  refine ⟨c, c', hc, hc', (canonicalText_eq_iff hc hc' _ _).2 ⟨rfl, ?_⟩⟩
  have hcountries : {x | x ∈ [Json.str "KE", .str "UG"]} = {x | x ∈ [Json.str "UG", .str "KE"]} := by
    ext x
    simp only [Set.mem_ofPred_eq, List.mem_cons, List.not_mem_nil, or_false]
    exact or_comm
  rw [requestContent, requestContent, RequestContent.mk.injEq]
  exact ⟨rfl, rfl, rfl, rfl, hcountries, rfl, rfl, rfl⟩

end Provisioning
end BaobabErp
