/-
# Which source versions reach the engine

A mapped record is to be updated only by a strictly newer version; any other version of
different content is drift, for a steward to reconcile.  The code compares two versions
only where both are numbers, and takes what it cannot compare, or what is equal, for
newer.  **A run keeps the rule when every record of different content that comes in for
a mapping is strictly newer, or is seen to be older** (`versions_respected`).
-/

import BaobabErp.Provisioning.MasterData

namespace BaobabErp
namespace MasterData

open Python

/-- **Strictly newer**: both versions are numbers, and the first is the greater. -/
def Newer (incoming mapped : String) : Prop :=
  ∃ i m, intOfText incoming = some i ∧ intOfText mapped = some m ∧ m < i

/-- One document, up to the order of its members. -/
def SameContent (r s : CanonicalMasterRecord) : Prop := r.document.sortKeys = s.document.sortKeys

/-- The row was written for that record. -/
def WrittenFor (S : Surroundings) (m : Mapping) (s : CanonicalMasterRecord) : Prop :=
  s.digest S.sha256 = m.desiredDigest ∧ s.sourceVersion = m.sourceVersion

/-- Every row was written for some record. -/
def Sourced (S : Surroundings) (w : World) : Prop :=
  ∀ k m, w.mappings k = some m → ∃ s, WrittenFor S m s

/-- The version of a row goes forward. -/
def Forward (m m' : Mapping) : Prop :=
  m'.sourceVersion = m.sourceVersion ∨ Newer m'.sourceVersion m.sourceVersion

/-- **The rule, for one record of a run.**  Unless it is strictly newer than what is
mapped, nothing is written, in the engine or to the mappings, and the record is drift
or, with the content that is mapped, reused; and no mapping goes back. -/
structure Respected (S : Surroundings) (engineInstanceId legalEntityId : String)
    (r : CanonicalMasterRecord) (w : World) : Prop where
  unchanged : ∀ m, w.mappings (keyOf engineInstanceId legalEntityId r) = some m →
    ¬ Newer r.sourceVersion m.sourceVersion →
    (reconcile S engineInstanceId legalEntityId r w).2.mappings = w.mappings ∧
    (∃ asked, (reconcile S engineInstanceId legalEntityId r w).2.calls = w.calls ++ asked ∧
      ∀ c ∈ asked, c.writes = false) ∧
    ∀ outcome, (reconcile S engineInstanceId legalEntityId r w).1 = .ok outcome →
      (∃ d, outcome = .drift d) ∨
        (outcome = .reused ∧ r.sourceVersion = m.sourceVersion ∧
          ∃ s, WrittenFor S m s ∧ SameContent r s)
  forward : ∀ k m, w.mappings k = some m →
    ∃ m', (reconcile S engineInstanceId legalEntityId r w).2.mappings k = some m' ∧ Forward m m'

/-- **The condition on a record**: of different content than what is mapped, it is strictly
newer, or the code sees that it is older. -/
def Regular (S : Surroundings) (engineInstanceId legalEntityId : String)
    (r : CanonicalMasterRecord) (w : World) : Prop :=
  ∀ m, w.mappings (keyOf engineInstanceId legalEntityId r) = some m →
    r.validate = .ok () → r.legalEntityId = legalEntityId → r.kind ≠ .productAccounting →
    r.digest S.sha256 ≠ m.desiredDigest →
    Newer r.sourceVersion m.sourceVersion ∨ isStale r.sourceVersion m.sourceVersion = true

/-! ### Contents and digests -/

/-- Records of one content have one version. -/
theorem SameContent.sourceVersion {r s : CanonicalMasterRecord} (h : SameContent r s) :
    r.sourceVersion = s.sourceVersion := by
  have hmem : ∀ t : CanonicalMasterRecord, ∀ v, ("source_version", Json.str v) ∈
      ((Json.sortMembers [("kind", .str t.kind.value), ("canonical_id", .str t.canonicalId),
        ("external_key", .str t.externalKey), ("legal_entity_id", .str t.legalEntityId),
        ("payload", .obj t.payload), ("contract_version", .str t.contractVersion),
        ("source_version", .str t.sourceVersion)]).insertionSort fun m n => m.1 ≤ n.1) ↔
      v = t.sourceVersion := by
    intro t v
    rw [List.mem_insertionSort]
    simp [Json.sortMembers, Json.sortKeys]
  have hsame := Json.obj.inj h
  exact (hmem s _).1 (hsame ▸ (hmem r _).2 rfl)

/-- **One digest, one content.** -/
theorem sameContent_of_digest {S : Surroundings}
    (hsha : ∀ s t, S.sha256 s = S.sha256 t → s = t) {r s : CanonicalMasterRecord}
    (h : r.digest S.sha256 = s.digest S.sha256) : SameContent r s := by
  have hwritable : ∀ t : CanonicalMasterRecord, t.document.Floats Json.AsciiFloat := fun t =>
    ⟨trivial, trivial, trivial, trivial, t.writable, trivial, trivial, trivial⟩
  exact Json.dumpsUnicode_injective (hwritable r) (hwritable s) (hsha _ _ h)

theorem Newer.trans {u v w : String} (h₁ : Newer u v) (h₂ : Newer v w) : Newer u w := by
  obtain ⟨i, m, hi, hm, hlt⟩ := h₁
  obtain ⟨j, n, hj, hn, hlt'⟩ := h₂
  obtain rfl := Option.some.inj (hm.symm.trans hj)
  exact ⟨i, n, hi, hn, hlt'.trans hlt⟩

theorem Forward.trans {m₁ m₂ m₃ : Mapping} (h₁ : Forward m₁ m₂) (h₂ : Forward m₂ m₃) :
    Forward m₁ m₃ := by
  rcases h₁ with h₁ | h₁ <;> rcases h₂ with h₂ | h₂
  · exact .inl (h₂.trans h₁)
  · exact .inr (h₁ ▸ h₂)
  · right
    rwa [h₂]
  · exact .inr (h₂.trans h₁)

/-- What is seen to be older is not newer. -/
theorem not_newer_of_isStale {u v : String} (h : isStale u v = true) : ¬ Newer u v := by
  rintro ⟨i, m, hi, hm, hlt⟩
  unfold isStale versionNumber at h
  rw [hi, hm] at h
  split_ifs at h
  all_goals simp at h
  omega

/-! ### One record -/

section Record

variable {S : Surroundings} {engineInstanceId legalEntityId : String}
  {r : CanonicalMasterRecord} {w : World}

@[simp] theorem ask_mappings (c : Call) (w : World) : (ask S c w).2.mappings = w.mappings := by
  unfold ask
  dsimp only
  split <;> rfl

@[simp] theorem ask_calls (c : Call) (w : World) : (ask S c w).2.calls = w.calls ++ [c] := by
  unfold ask
  dsimp only
  split <;> rfl

theorem getMapping_eq (k : Key) (w : World) : (getMapping S k w).2.mappings = w.mappings ∧
    (getMapping S k w).2.calls = w.calls ∧
    ((getMapping S k w).1 = .ok (w.mappings k) ∨ (getMapping S k w).1 = .error .raised) := by
  unfold getMapping
  dsimp only
  split
  · exact ⟨rfl, rfl, .inl rfl⟩
  · exact ⟨rfl, rfl, .inr rfl⟩

/-- A mapping is put, or nothing happens to the mappings. -/
theorem record_mappings (k : Key) (id : Int) (outcome : Outcome) (w : World) :
    (record S k r id outcome w).2.mappings = w.mappings ∨
      (record S k r id outcome w).2.mappings =
        Function.update w.mappings k (some ⟨id, r.digest S.sha256, r.sourceVersion⟩) := by
  unfold record putMapping
  dsimp only
  cases S.failure w.accesses with
  | none => exact .inr rfl
  | some stored =>
    cases stored with
    | true => exact .inr rfl
    | false => exact .inl rfl

/-- **A record of different content that is not seen to be older overwrites**; any other
leaves engine and mappings as they are. -/
theorem reconcileMapped_cases (k : Key) (m : Mapping) (w : World) :
    ((reconcileMapped S k r m w).2.mappings = w.mappings ∧
      (reconcileMapped S k r m w).2.calls = w.calls ++ [.getRecord r.kind.table m.nativeId] ∧
      ∀ outcome, (reconcileMapped S k r m w).1 = .ok outcome →
        (∃ d, outcome = .drift d) ∨
          (outcome = .reused ∧ m.desiredDigest = r.digest S.sha256)) ∨
    (m.desiredDigest ≠ r.digest S.sha256 ∧ isStale r.sourceVersion m.sourceVersion = false ∧
      ((reconcileMapped S k r m w).2.mappings = w.mappings ∨
        (reconcileMapped S k r m w).2.mappings = Function.update w.mappings k
          (some ⟨m.nativeId, r.digest S.sha256, r.sourceVersion⟩))) := by
  have hmappings := @ask_mappings S (.getRecord r.kind.table m.nativeId) w
  have hcalls := @ask_calls S (.getRecord r.kind.table m.nativeId) w
  unfold reconcileMapped
  rcases hask : ask S (.getRecord r.kind.table m.nativeId) w with ⟨_ | id, w₁⟩ <;>
    rw [hask] at hmappings hcalls
  · exact .inl ⟨hmappings, hcalls, nofun⟩
  dsimp only at hmappings hcalls ⊢
  split_ifs with hdigest hstale
  · refine .inl ⟨hmappings, hcalls, fun outcome h => .inr ⟨?_, hdigest⟩⟩
    exact (Except.ok.inj h).symm
  · refine .inl ⟨hmappings, hcalls, fun outcome h => .inl ⟨_, (Except.ok.inj h).symm⟩⟩
  · refine .inr ⟨hdigest, Bool.eq_false_iff.2 hstale, ?_⟩
    have hupdate := @ask_mappings S (.updateRecord r.kind.table m.nativeId r.fields) w₁
    rcases hask' : ask S (.updateRecord r.kind.table m.nativeId r.fields) w₁ with ⟨_ | id', w₂⟩ <;>
      rw [hask'] at hupdate
    · exact .inl (hupdate.trans hmappings)
    · dsimp only at hupdate ⊢
      rw [← hmappings, ← hupdate]
      exact record_mappings k m.nativeId .updated w₂

theorem createUnmapped_mappings (k : Key) (w : World) :
    (createUnmapped S k r w).2.mappings = w.mappings ∨ ∃ m,
      (createUnmapped S k r w).2.mappings = Function.update w.mappings k (some m) ∧
        WrittenFor S m r := by
  have hmappings := @ask_mappings S (.createRecord r.kind.table r.fields) w
  unfold createUnmapped
  rcases hask : ask S (.createRecord r.kind.table r.fields) w with ⟨_ | id, w₁⟩ <;>
    rw [hask] at hmappings
  · exact .inl hmappings
  · dsimp only at hmappings ⊢
    rw [← hmappings]
    exact (record_mappings k id .created w₁).imp_right fun h => ⟨_, h, rfl, rfl⟩

/-- **What one turn of the loop does to the mappings**: nothing, or it writes the row of
the record, which had none, or another content that was not seen to be newer. -/
theorem reconcile_mappings (w : World) :
    (reconcile S engineInstanceId legalEntityId r w).2.mappings = w.mappings ∨
    ∃ m', (reconcile S engineInstanceId legalEntityId r w).2.mappings =
        Function.update w.mappings (keyOf engineInstanceId legalEntityId r) (some m') ∧
      WrittenFor S m' r ∧
      ∀ m, w.mappings (keyOf engineInstanceId legalEntityId r) = some m →
        r.validate = .ok () ∧ r.legalEntityId = legalEntityId ∧ r.kind ≠ .productAccounting ∧
          r.digest S.sha256 ≠ m.desiredDigest ∧
          isStale r.sourceVersion m.sourceVersion = false := by
  unfold reconcile
  cases hvalid : r.validate with
  | error x => exact .inl rfl
  | ok u =>
    dsimp only
    split_ifs with hentity hkind
    · exact .inl rfl
    · exact .inl rfl
    obtain ⟨hmappings, -, hanswer⟩ :=
      @getMapping_eq S (keyOf engineInstanceId legalEntityId r) w
    rcases hget : getMapping S (keyOf engineInstanceId legalEntityId r) w with ⟨answer, w₁⟩
    rw [hget] at hmappings hanswer
    rcases answer with x | found
    · exact .inl hmappings
    have hfound : found = w.mappings (keyOf engineInstanceId legalEntityId r) := by
      rcases hanswer with h | h
      · exact Except.ok.inj h
      · cases h
    dsimp only at hmappings ⊢
    cases found with
    | none =>
      rw [← hmappings] at hfound ⊢
      refine (createUnmapped_mappings _ w₁).imp_right fun ⟨m', hm', hwritten⟩ => ⟨m', hm', hwritten, ?_⟩
      intro m hm
      rw [← hfound] at hm
      cases hm
    | some m =>
      rcases reconcileMapped_cases (keyOf engineInstanceId legalEntityId r) m w₁ with
        ⟨hkept, -, -⟩ | ⟨hdigest, hstale, hkept | hput⟩
      · exact .inl (hkept.trans hmappings)
      · exact .inl (hkept.trans hmappings)
      · rw [← hmappings] at hfound ⊢
        refine .inr ⟨_, hput, ⟨rfl, rfl⟩, fun m' hm' => ?_⟩
        rw [← hfound] at hm'
        obtain rfl := Option.some.inj hm'
        exact ⟨rfl, not_not.1 hentity, hkind, hdigest.symm, hstale⟩

/-- A mapped record that is not newer, where the condition holds. -/
theorem reconcile_unchanged (hsha : ∀ s t, S.sha256 s = S.sha256 t → s = t) (hw : Sourced S w)
    (hr : Regular S engineInstanceId legalEntityId r w) {m : Mapping}
    (hm : w.mappings (keyOf engineInstanceId legalEntityId r) = some m)
    (hnew : ¬ Newer r.sourceVersion m.sourceVersion) :
    (reconcile S engineInstanceId legalEntityId r w).2.mappings = w.mappings ∧
    (∃ asked, (reconcile S engineInstanceId legalEntityId r w).2.calls = w.calls ++ asked ∧
      ∀ c ∈ asked, c.writes = false) ∧
    ∀ outcome, (reconcile S engineInstanceId legalEntityId r w).1 = .ok outcome →
      (∃ d, outcome = .drift d) ∨
        (outcome = .reused ∧ r.sourceVersion = m.sourceVersion ∧
          ∃ s, WrittenFor S m s ∧ SameContent r s) := by
  have hnothing : ∃ asked, w.calls = w.calls ++ asked ∧ ∀ c ∈ asked, c.writes = false :=
    ⟨[], (List.append_nil _).symm, fun _ h => absurd h List.not_mem_nil⟩
  have hregular := hr m hm
  unfold reconcile
  cases hvalid : r.validate with
  | error x => exact ⟨rfl, hnothing, nofun⟩
  | ok u =>
    dsimp only
    split_ifs with hentity hkind
    · exact ⟨rfl, hnothing, nofun⟩
    · exact ⟨rfl, hnothing, fun outcome h => .inl ⟨_, (Except.ok.inj h).symm⟩⟩
    obtain ⟨hmappings, hcalls, hanswer⟩ :=
      @getMapping_eq S (keyOf engineInstanceId legalEntityId r) w
    rcases hget : getMapping S (keyOf engineInstanceId legalEntityId r) w with ⟨answer, w₁⟩
    rw [hget] at hmappings hcalls hanswer
    rcases answer with x | found
    · exact ⟨hmappings, ⟨[], by rw [List.append_nil]; exact hcalls,
        fun _ h => absurd h List.not_mem_nil⟩, nofun⟩
    obtain rfl : found = some m := by
      rcases hanswer with h | h
      · exact (Except.ok.inj h).trans hm
      · cases h
    dsimp only at hmappings hcalls ⊢
    rcases reconcileMapped_cases (keyOf engineInstanceId legalEntityId r) m w₁ with
      ⟨hkept, hasked, houtcome⟩ | ⟨hdigest, hstale, -⟩
    · refine ⟨hkept.trans hmappings, ⟨_, hasked.trans (by rw [hcalls]), ?_⟩, fun outcome h => ?_⟩
      · intro c hc
        rw [List.mem_singleton.1 hc]
        rfl
      · rcases houtcome outcome h with hdrift | ⟨hreused, hdigest⟩
        · exact .inl hdrift
        · obtain ⟨s, hs⟩ := hw _ m hm
          have hcontent := sameContent_of_digest hsha (hdigest.symm.trans hs.1.symm)
          exact .inr ⟨hreused, hcontent.sourceVersion.trans hs.2, s, hs, hcontent⟩
    -- the code overwrites only what the condition lets through
    · rcases hregular hvalid (not_not.1 hentity) hkind hdigest.symm with hnewer | hold
      · exact absurd hnewer hnew
      · rw [hold] at hstale
        cases hstale

/-- No mapping goes back, where the condition holds. -/
theorem reconcile_forward (hr : Regular S engineInstanceId legalEntityId r w) (k : Key) (m : Mapping)
    (hm : w.mappings k = some m) :
    ∃ m', (reconcile S engineInstanceId legalEntityId r w).2.mappings k = some m' ∧ Forward m m' := by
  rcases reconcile_mappings (S := S) (r := r) w with hkept | ⟨m', hput, hwritten, hover⟩
  · exact ⟨m, by rw [hkept, hm], .inl rfl⟩
  · by_cases hk : k = keyOf engineInstanceId legalEntityId r
    · subst hk
      obtain ⟨hvalid, hentity, hkind, hdigest, hstale⟩ := hover m hm
      refine ⟨m', by rw [hput, Function.update_self], .inr ?_⟩
      rw [← hwritten.2]
      refine (hr m hm hvalid hentity hkind hdigest).resolve_right fun h => ?_
      rw [h] at hstale
      cases hstale
    · exact ⟨m, by rw [hput, Function.update_of_ne hk, hm], .inl rfl⟩

/-- Every row stays the row of some record. -/
theorem Sourced.reconcile (hw : Sourced S w) :
    Sourced S (reconcile S engineInstanceId legalEntityId r w).2 := by
  intro k m hm
  rcases reconcile_mappings (S := S) (r := r) w with hkept | ⟨m', hput, hwritten, -⟩
  · exact hw k m (by rw [← hkept, hm])
  · rw [hput] at hm
    by_cases hk : k = keyOf engineInstanceId legalEntityId r
    · rw [hk, Function.update_self] at hm
      obtain rfl := Option.some.inj hm
      exact ⟨r, hwritten⟩
    · rw [Function.update_of_ne hk] at hm
      exact hw k m hm

end Record

/-! ### Runs -/

/-- One call of `bootstrap`. -/
structure Batch where
  engineInstanceId : String
  legalEntityId : String
  records : List CanonicalMasterRecord

/-- Something holds of every record the loop gets to, in the state it finds. -/
def AlongLoop (S : Surroundings) (P : String → String → CanonicalMasterRecord → World → Prop)
    (engineInstanceId legalEntityId : String) : List CanonicalMasterRecord → World → Prop
  | [], _ => True
  | r :: rs, w => P engineInstanceId legalEntityId r w ∧
    match reconcile S engineInstanceId legalEntityId r w with
    | (.error _, _) => True
    | (.ok _, w) => AlongLoop S P engineInstanceId legalEntityId rs w

theorem alongLoop_singleton {S : Surroundings}
    {P : String → String → CanonicalMasterRecord → World → Prop} {engineInstanceId legalEntityId : String}
    {r : CanonicalMasterRecord} {w : World} :
    AlongLoop S P engineInstanceId legalEntityId [r] w ↔ P engineInstanceId legalEntityId r w := by
  constructor
  · exact And.left
  · intro h
    refine ⟨h, ?_⟩
    split <;> constructor

/-- The state after a run of calls, whether they return or raise. -/
def afterRun (S : Surroundings) : List Batch → World → World
  | [], w => w
  | b :: bs, w => afterRun S bs (bootstrap S b.engineInstanceId b.legalEntityId b.records w).2

/-- Something holds of every record of a run. -/
def AlongRun (S : Surroundings) (P : String → String → CanonicalMasterRecord → World → Prop) :
    List Batch → World → Prop
  | [], _ => True
  | b :: bs, w => AlongLoop S P b.engineInstanceId b.legalEntityId b.records w ∧
    AlongRun S P bs (bootstrap S b.engineInstanceId b.legalEntityId b.records w).2

section Run

variable {S : Surroundings} {w : World}

/-- No mapping of the first state is lost or goes back. -/
def Advanced (w w' : World) : Prop :=
  ∀ k m, w.mappings k = some m → ∃ m', w'.mappings k = some m' ∧ Forward m m'

theorem Advanced.refl (w : World) : Advanced w w := fun _ m hm => ⟨m, hm, .inl rfl⟩

theorem Advanced.trans {w₁ w₂ w₃ : World} (h₁ : Advanced w₁ w₂) (h₂ : Advanced w₂ w₃) :
    Advanced w₁ w₃ := by
  intro k m hm
  obtain ⟨m₂, hm₂, hf₂⟩ := h₁ k m hm
  obtain ⟨m₃, hm₃, hf₃⟩ := h₂ k m₂ hm₂
  exact ⟨m₃, hm₃, hf₂.trans hf₃⟩

/-- One loop under the condition keeps the rule. -/
theorem loop_respected (hsha : ∀ s t, S.sha256 s = S.sha256 t → s = t)
    {engineInstanceId legalEntityId : String} {rs : List CanonicalMasterRecord} (hw : Sourced S w)
    (h : AlongLoop S (Regular S) engineInstanceId legalEntityId rs w) :
    AlongLoop S (Respected S) engineInstanceId legalEntityId rs w ∧
      Sourced S (reconcileAll S engineInstanceId legalEntityId rs w).2 ∧
      Advanced w (reconcileAll S engineInstanceId legalEntityId rs w).2 := by
  induction rs generalizing w with
  | nil => exact ⟨trivial, hw, .refl w⟩
  | cons r rs ih =>
    obtain ⟨hr, hrest⟩ := h
    have hone : Respected S engineInstanceId legalEntityId r w :=
      ⟨fun m hm hnew => reconcile_unchanged hsha hw hr hm hnew, reconcile_forward hr⟩
    have hsourced : Sourced S (reconcile S engineInstanceId legalEntityId r w).2 := hw.reconcile
    have hadvanced : Advanced w (reconcile S engineInstanceId legalEntityId r w).2 := hone.forward
    simp only [AlongLoop, reconcileAll]
    rcases hrec : reconcile S engineInstanceId legalEntityId r w with ⟨x | outcome, w₁⟩ <;>
      rw [hrec] at hrest hsourced hadvanced
    · exact ⟨⟨hone, trivial⟩, hsourced, hadvanced⟩
    · dsimp only at hrest hsourced hadvanced ⊢
      obtain ⟨hloop, hs, ha⟩ := ih hsourced hrest
      refine ⟨⟨hone, hloop⟩, ?_⟩
      rcases hall : reconcileAll S engineInstanceId legalEntityId rs w₁ with ⟨x | outcomes, w₂⟩ <;>
        rw [hall] at hs ha
      · exact ⟨hs, hadvanced.trans ha⟩
      · exact ⟨hs, hadvanced.trans ha⟩

theorem bootstrap_world (engineInstanceId legalEntityId : String)
    (rs : List CanonicalMasterRecord) (w : World) :
    (bootstrap S engineInstanceId legalEntityId rs w).2 =
      (reconcileAll S engineInstanceId legalEntityId rs w).2 := by
  unfold bootstrap
  rcases reconcileAll S engineInstanceId legalEntityId rs w with ⟨x | outcomes, w₁⟩ <;> rfl

/-- **Every run under the condition keeps the rule**, and no mapping goes back in it. -/
theorem versions_respected (S : Surroundings) (hsha : ∀ s t, S.sha256 s = S.sha256 t → s = t)
    (batches : List Batch) (w : World) (hw : Sourced S w)
    (h : AlongRun S (Regular S) batches w) :
    AlongRun S (Respected S) batches w ∧ Advanced w (afterRun S batches w) := by
  induction batches generalizing w with
  | nil => exact ⟨trivial, .refl w⟩
  | cons b bs ih =>
    obtain ⟨hloop, hrest⟩ := h
    obtain ⟨hrespected, hs, ha⟩ := loop_respected hsha hw hloop
    rw [← bootstrap_world] at hs ha
    obtain ⟨hrun, hafter⟩ := ih _ hs hrest
    exact ⟨⟨hrespected, hrun⟩, ha.trans hafter⟩

end Run

/-! ### Two runs -/

/-- A product of a catalogue, in one of its versions. -/
def catalogueProduct (sourceVersion name : String) : CanonicalMasterRecord :=
  ⟨.product, "product-1", "SKU-1", "acme-nl", [("Name", .str name)], "1.0", sourceVersion,
    ⟨trivial, trivial⟩⟩

/-- A call for that one product. -/
def catalogueBatch (sourceVersion name : String) : Batch :=
  ⟨"engine-1", "acme-nl", [catalogueProduct sourceVersion name]⟩

/-- Every call is answered, and the hash is the text itself. -/
def willing : Surroundings := ⟨id, fun _ => some 7, fun _ => none⟩

/-- Nothing is mapped yet. -/
def unmapped : World := ⟨fun _ => none, [], 0⟩

/-- The row of the product. -/
def mappedRow (w : World) : Option Mapping :=
  w.mappings ⟨"engine-1", "acme-nl", .product, "product-1"⟩

/-- The mapped version of the product. -/
def mappedVersion (w : World) : Option String := (mappedRow w).map Mapping.sourceVersion

/-- The state after a first call. -/
def afterFirst (sourceVersion name : String) : World :=
  (bootstrap willing "engine-1" "acme-nl" [catalogueProduct sourceVersion name] unmapped).2

/-- Numbered versions: the second is an update. -/
theorem versions_respected_numbered :
    AlongRun willing (Respected willing)
      [catalogueBatch "9" "Flour", catalogueBatch "10" "Wheat flour"] unmapped ∧
    Advanced unmapped (afterRun willing
      [catalogueBatch "9" "Flour", catalogueBatch "10" "Wheat flour"] unmapped) := by
  have hmapped : mappedVersion (afterFirst "9" "Flour") = some "9" := by decide +kernel
  refine versions_respected willing (fun _ _ h => h) _ _ nofun
    ⟨alongLoop_singleton.2 nofun, alongLoop_singleton.2 ?_, True.intro⟩
  intro m hm _ _ _ _
  have hrow : some m.sourceVersion = some "9" :=
    (congrArg (Option.map Mapping.sourceVersion) hm).symm.trans hmapped
  rw [Option.some.inj hrow]
  exact .inl ⟨10, 9, by decide +kernel, by decide +kernel, by decide⟩

/-- **Equal versions are taken for newer, and so are versions that are no numbers**: a
second content of one version overwrites the first, and a dated version goes back. -/
theorem equal_and_dated_versions_overwrite :
    ¬ AlongRun willing (Respected willing)
      [catalogueBatch "9" "Flour", catalogueBatch "9" "Wheat flour"] unmapped ∧
    ¬ AlongRun willing (Respected willing)
      [catalogueBatch "2026-02-01" "Wheat flour", catalogueBatch "2026-01-01" "Flour"] unmapped := by
  constructor
  · intro h
    have hmapped : mappedVersion (afterFirst "9" "Flour") = some "9" := by decide +kernel
    have hput : mappedRow (reconcile willing "engine-1" "acme-nl" (catalogueProduct "9" "Wheat flour")
        (afterFirst "9" "Flour")).2 ≠ mappedRow (afterFirst "9" "Flour") := by decide +kernel
    obtain ⟨m, hm, hversion⟩ := Option.map_eq_some_iff.1 hmapped
    have hnew : ¬ Newer "9" m.sourceVersion := by
      rw [hversion]
      rintro ⟨i, j, hi, hj, hlt⟩
      obtain rfl := Option.some.inj (hi.symm.trans hj)
      exact lt_irrefl i hlt
    obtain ⟨hkept, -⟩ := h.2.1.1.unchanged m hm hnew
    have hsame : mappedRow _ = mappedRow _ :=
      congrArg (fun rows => rows ⟨"engine-1", "acme-nl", .product, "product-1"⟩) hkept
    exact hput hsame
  · intro h
    have hmapped : mappedVersion (afterFirst "2026-02-01" "Wheat flour") = some "2026-02-01" := by
      decide +kernel
    have hput : mappedRow (reconcile willing "engine-1" "acme-nl" (catalogueProduct "2026-01-01" "Flour")
        (afterFirst "2026-02-01" "Wheat flour")).2 ≠ mappedRow (afterFirst "2026-02-01" "Wheat flour") := by
      decide +kernel
    obtain ⟨m, hm, -⟩ := Option.map_eq_some_iff.1 hmapped
    have hnew : ¬ Newer "2026-01-01" m.sourceVersion := by
      rintro ⟨i, _, hi, -⟩
      rw [show intOfText "2026-01-01" = none by decide +kernel] at hi
      cases hi
    obtain ⟨hkept, -⟩ := h.2.1.1.unchanged m hm hnew
    have hsame : mappedRow _ = mappedRow _ :=
      congrArg (fun rows => rows ⟨"engine-1", "acme-nl", .product, "product-1"⟩) hkept
    exact hput hsame

end MasterData
end BaobabErp
