/-
# The placements over every run

Whatever sessions send, in any order: the placements that are committed form a
`Registry` as `PlacementContextSource` reads it (`registry`), a placement is kept as
it is until it is closed, once (`placements_history`), a document stays in the
organisation that its provenance has (`provenance_kept`), and the organisation of an
open placement is active and its client's (`open_placements_owned`).
-/

import BaobabErp.NativeFinance.DocumentTriggers

namespace BaobabErp
namespace NativeFinance
namespace PlacementStore

open Concurrency

variable {D : FinanceBaselines.Deployment} {d d' : Db D} {t : Session} {p q : (Sessions D).Pool}

/-! ### What is committed -/

/-- A placement as it is committed. -/
def placement (d : Db D) (placementId : String) (version : Int) : Option PlacementRow :=
  (show Option (Filed D placementId version) from d.store.committed (.placement placementId version)).map
    (·.1)

/-- A provenance as it is committed. -/
def provenance (d : Db D) (table : GovernedTable) (record : Int) : Option Provenance :=
  (show Option (Traced table record) from d.store.committed (.provenance table record)).map (·.1)

/-- A document as it is committed. -/
def document (d : Db D) (table : GovernedTable) (record : Int) : Option Document :=
  d.store.committed (.native (.document table record))

/-- An organisation as it is committed. -/
def adOrg (d : Db D) (org : Int) : Option AdOrg := d.store.committed (.native (.adOrg org))

theorem placement_eq {id : String} {v : Int} {r : PlacementRow} :
    placement d id v = some r ↔
      ∃ a : Filed D id v, d.store.committed (placementKey (id, v)) = some a ∧ a.1 = r :=
  Option.map_eq_some_iff

theorem provenance_eq {x : RecordId} {p : Provenance} :
    provenance d x.1 x.2 = some p ↔
      ∃ a : Traced x.1 x.2, d.store.committed (provenanceKey x) = some a ∧ a.1 = p :=
  Option.map_eq_some_iff

theorem placement_filed {id : String} {v : Int} {r : PlacementRow} (h : placement d id v = some r) :
    r.placementId = id ∧ r.version = v := by
  obtain ⟨a, -, rfl⟩ := placement_eq.1 h
  exact ⟨a.2.2.1, a.2.2.2⟩

/-- A version is in force at an instant of its window. -/
theorem inForce_iff {id : String} {v : Int} {a : Filed D id v} {clock : Int} :
    a.1.inForce clock = true ↔ (window a).Covers clock := by
  unfold PlacementVersion.inForce Temporal.Window.Covers window
  rw [Bool.and_eq_true, decide_eq_true_eq]
  exact and_congr_right fun _ => Temporal.Window.before_iff

/-- **Two placements that are committed** say the same of one placement, and are never
in force together for one organisation. -/
theorem Sound.coexist (h : Sound d) {id id' : String} {v v' : Int} {r r' : PlacementRow}
    (hr : placement d id v = some r) (hr' : placement d id' v' = some r') (hne : (id, v) ≠ (id', v')) :
    (id = id' → r.identity = r'.identity) ∧ r.toPlacementVersion.Apart r'.toPlacementVersion := by
  obtain ⟨a, ha, rfl⟩ := placement_eq.1 hr
  obtain ⟨b, hb, rfl⟩ := placement_eq.1 hr'
  have hc : Coexist (id, v) (id', v') a b := h.history.coexist (id, v) (id', v') a b hne ha hb
  refine ⟨hc.identity, fun hclient horg clock hf => ?_⟩
  exact hc.apart hclient horg clock ⟨inForce_iff.1 hf.1, inForce_iff.1 hf.2⟩

/-! ### What a run keeps -/

/-- **A row that is committed stays**, or what may follow it does. -/
theorem committed_relates {ι : Type} {key : ι → Key} {Ref : ∀ i, Row D (key i) → Row D (key i) → Prop}
    (hrefl : ∀ i r, Ref i r r) (htrans : ∀ i a b c, Ref i a b → Ref i b c → Ref i a c)
    (href : ∀ d : Db D, Sound d → d.store.Refining key Ref) (hp : Reaches (initial D) p)
    (hq : Reaches p q) (i : ι) (r : Row D (key i)) (hr : p.state.db.store.committed (key i) = some r) :
    ∃ r', q.state.db.store.committed (key i) = some r' ∧ Ref i r' r := by
  refine (kept (D := D)).relates
    (R := fun d d' => ∀ r, d.store.committed (key i) = some r →
      ∃ r', d'.store.committed (key i) = some r' ∧ Ref i r' r)
    (fun d r hr => ⟨r, hr, hrefl i r⟩) (fun {d e f} hde hef r hr => ?_) (fun {t d d'} hd hm => ?_)
    (kept.reached sound_empty hp) hq r hr
  · obtain ⟨r', hr', h'⟩ := hde r hr
    obtain ⟨r'', hr'', h''⟩ := hef r' hr'
    exact ⟨r'', hr'', htrans i _ _ _ h'' h'⟩
  · intro r hr
    cases hm with
    | none => exact ⟨r, hr, hrefl i r⟩
    | run _ hrun =>
      rw [((dialect D).run_does hrun).committed]
      exact ⟨r, hr, hrefl i r⟩
    | commit _ => exact (href d hd).view_of_committed hrefl hr
    | rollback => exact ⟨r, hr, hrefl i r⟩
    | close => exact ⟨r, hr, hrefl i r⟩

/-- **A placement is kept until it is closed.**  In every run, of what is committed:
the versions of a placement are `1 … n`; two of one placement differ in their windows
only; two of one organisation are never in force together; and a placement stays as it
is, except that an open one is closed once. -/
theorem placements_history (hp : Reaches (initial D) p) (hq : Reaches p q) :
    (∀ id, ∃ n, ∀ v, (placement q.state.db id v).isSome = true ↔ 1 ≤ v ∧ v ≤ n) ∧
    (∀ id id' v v' r r', placement q.state.db id v = some r → placement q.state.db id' v' = some r' →
      (id, v) ≠ (id', v') → (id = id' → r.identity = r'.identity) ∧
        r.toPlacementVersion.Apart r'.toPlacementVersion) ∧
    ∀ id v r, placement p.state.db id v = some r → ∃ r', placement q.state.db id v = some r' ∧
      (r' = r ∨ r.effectiveTo = none ∧ r'.effectiveTo ≠ none ∧ r'.withoutEnd = r.withoutEnd) := by
  have hsound : Sound q.state.db := sound_of_reaches (hp.trans hq)
  refine ⟨fun id => ?_, fun id id' v v' r r' hr hr' hne => hsound.coexist hr hr' hne,
    fun id v r hr => ?_⟩
  · obtain ⟨n, hn⟩ := hsound.history.dense id
    refine ⟨n, fun v => ?_⟩
    rw [placement, Option.isSome_map]
    exact hn.2 v
  · obtain ⟨a, ha, rfl⟩ := placement_eq.1 hr
    obtain ⟨a', ha', hcl⟩ := committed_relates Closes.refl Closes.trans (fun d hd => hd.history.refining)
      hp hq (id, v) a ha
    refine ⟨a'.1, placement_eq.2 ⟨a', ha', rfl⟩, ?_⟩
    exact hcl.imp_left (congrArg Subtype.val)

/-- **A document stays where it was created.**  In every run, of what is committed: a
provenance is never changed, it names a version of its own organisation, and a
document of the client it has is of the organisation it has. -/
theorem provenance_kept (hp : Reaches (initial D) p) (hq : Reaches p q) :
    (∀ table record r, provenance p.state.db table record = some r →
      provenance q.state.db table record = some r) ∧
    (∀ table record r, provenance q.state.db table record = some r →
      ∃ u, placement q.state.db r.placementId r.placementVersion = some u ∧
        u.adClientId = r.adClientId ∧ u.adOrgId = r.adOrgId) ∧
    ∀ table record r o, provenance q.state.db table record = some r →
      document q.state.db table record = some o → r.adClientId = o.adClientId →
        r.adOrgId = o.adOrgId := by
  have hsound : Sound q.state.db := sound_of_reaches (hp.trans hq)
  refine ⟨fun table record r hr => ?_, fun table record r hr => ?_, fun table record r o hr ho => ?_⟩
  · obtain ⟨a, ha, rfl⟩ := provenance_eq (x := (table, record)).1 hr
    obtain ⟨a', ha', rfl⟩ := committed_relates (fun _ _ => rfl) (fun _ _ _ _ => Eq.trans)
      (fun d hd => hd.provenances.refining) hp hq (table, record) a ha
    exact provenance_eq (x := (table, record)).2 ⟨a', ha', rfl⟩
  · obtain ⟨a, ha, rfl⟩ := provenance_eq (x := (table, record)).1 hr
    obtain ⟨u, hu, hc, ho⟩ := hsound.provenances.named (table, record) _ a ha rfl
    exact ⟨u.1, placement_eq.2 ⟨u, hu, rfl⟩, hc, ho⟩
  · obtain ⟨a, ha, rfl⟩ := provenance_eq (x := (table, record)).1 hr
    exact hsound.provenances.agrees (table, record) o a ho ha

/-- **The organisation of an open placement is active and its client's**, in every
state of every run: closing a placement comes before its organisation changes hands. -/
theorem open_placements_owned (hp : Reaches (initial D) p) {id : String} {v : Int} {r : PlacementRow}
    (hr : placement p.state.db id v = some r) (hopen : r.effectiveTo = none) :
    ∃ o, adOrg p.state.db r.adOrgId = some o ∧ o.adClientId = r.adClientId ∧ o.isActive = true := by
  obtain ⟨a, ha, rfl⟩ := placement_eq.1 hr
  obtain ⟨o, ho, howns⟩ := (sound_of_reaches hp).ownership.owned (id, v) a.1.adOrgId a ha hopen rfl
  simp only [AdOrg.owns, Bool.and_eq_true, decide_eq_true_eq] at howns
  exact ⟨o, ho, howns⟩

/-! ### The registry -/

/-- The versions that are committed, in the order of their keys. -/
def versions (d : Db D) : List PlacementVersion :=
  d.keys.filterMap fun
    | .placement id v => (placement d id v).map (·.toPlacementVersion)
    | _ => none

/-- The provenance that is committed. -/
def recordedProvenance (d : Db D) : List Provenance :=
  d.keys.filterMap fun
    | .provenance table record => provenance d table record
    | _ => none

/-- The active organisations, each with its client. -/
def activeOrgs (d : Db D) : List (Int × Int) :=
  d.keys.filterMap fun
    | .native (.adOrg org) => (adOrg d org).bind fun o =>
      if o.isActive then some (o.adClientId, org) else none
    | _ => none

theorem mem_versions {v : PlacementVersion} (h : v ∈ versions d) :
    ∃ r, placement d v.placementId v.version = some r ∧ r.toPlacementVersion = v := by
  obtain ⟨k, -, hk⟩ := List.mem_filterMap.1 h
  split at hk
  · obtain ⟨r, hr, rfl⟩ := Option.map_eq_some_iff.1 hk
    obtain ⟨h₁, h₂⟩ := placement_filed hr
    exact ⟨r, by rw [h₁, h₂]; exact hr, rfl⟩
  · cases hk

theorem mem_activeOrgs (hd : d.Indexed) {org : Int} {o : AdOrg} (ho : adOrg d org = some o)
    (hactive : o.isActive = true) : (o.adClientId, org) ∈ activeOrgs d := by
  refine List.mem_filterMap.2 ⟨.native (.adOrg org), hd _ (.inl ?_), ?_⟩
  · exact Option.isSome_iff_exists.2 ⟨o, ho⟩
  · exact Option.bind_eq_some_iff.2 ⟨o, ho, if_pos hactive⟩

theorem Sound.versions_apart (h : Sound d) : (versions d).Pairwise PlacementVersion.Apart := by
  refine (List.pairwise_filterMap.2 (h.history.nodup.imp fun {k l} hkl v hv u hu => ?_))
  split at hv
  · split at hu
    · rename_i id n id' n'
      obtain ⟨r, hr, rfl⟩ := Option.map_eq_some_iff.1 hv
      obtain ⟨r', hr', rfl⟩ := Option.map_eq_some_iff.1 hu
      refine (h.coexist hr hr' fun heq => hkl ?_).2
      obtain ⟨rfl, rfl⟩ := Prod.mk.inj heq
      rfl
    · cases hu
  · cases hv

theorem Sound.identity_eq (h : Sound d) (v : PlacementVersion) (hv : v ∈ versions d)
    (u : PlacementVersion) (hu : u ∈ versions d) (hvu : v.placementId = u.placementId) :
    v.identity = u.identity := by
  obtain ⟨r, hr, rfl⟩ := mem_versions hv
  obtain ⟨r', hr', rfl⟩ := mem_versions hu
  by_cases hver : r.version = r'.version
  · rw [← hvu, ← hver] at hr'
    obtain rfl := Option.some.inj (hr.symm.trans hr')
    rfl
  · exact (h.coexist hr hr' fun heq => hver (Prod.mk.inj heq).2).1 hvu

/-- **The registry** that the tables hold. -/
def registry (d : Db D) (h : Sound d) : Registry where
  versions := versions d
  provenance := recordedProvenance d
  activeOrgs := activeOrgs d
  identity_eq := h.identity_eq
  apart := h.versions_apart

theorem Sound.versions_nodup (h : Sound d) : (versions d).Nodup := by
  refine h.history.nodup.filterMap fun k l v hv hu => ?_
  split at hv
  · split at hu
    · obtain ⟨r, hr, rfl⟩ := Option.map_eq_some_iff.1 hv
      obtain ⟨r', hr', heq⟩ := Option.map_eq_some_iff.1 hu
      obtain ⟨h₁, h₂⟩ := placement_filed hr
      obtain ⟨h₃, h₄⟩ := placement_filed hr'
      rw [← h₁, ← h₂, ← h₃, ← h₄, heq]
    · cases hu
  · cases hv

/-- An open placement that has begun is the one that is current for its organisation. -/
theorem currentForOrg_of_open (hd : Sound d) {id : String} {v : Int} {r : PlacementRow} {clock : Int}
    (hr : placement d id v = some r) (hopen : r.effectiveTo = none) (hbegun : r.effectiveFrom ≤ clock) :
    (registry d hd).currentForOrg clock r.adClientId r.adOrgId = [r.toPlacementVersion] := by
  obtain ⟨a, ha, rfl⟩ := placement_eq.1 hr
  have hmem : a.1.toPlacementVersion ∈ versions d :=
    List.mem_filterMap.2 ⟨.placement id v, hd.history.indexed _ (.inl (Option.isSome_iff_exists.2 ⟨a, ha⟩)),
      Option.map_eq_some_iff.2 ⟨a.1, hr, rfl⟩⟩
  have hforce : a.1.inForce clock = true := by
    rw [PlacementVersion.inForce, hopen, Option.all_none, Bool.and_true, decide_eq_true_eq]
    exact hbegun
  obtain ⟨o, ho, howns⟩ := hd.ownership.owned (id, v) a.1.adOrgId a ha hopen rfl
  simp only [AdOrg.owns, Bool.and_eq_true, decide_eq_true_eq] at howns
  refine List.perm_singleton.1 ((List.perm_ext_iff_of_nodup (hd.versions_nodup.filter _)
    (List.nodup_singleton _)).2 fun u => ?_)
  simp only [registry, Registry.usable, List.mem_filter, Bool.and_eq_true, decide_eq_true_eq,
    List.mem_singleton]
  constructor
  · rintro ⟨hu, ⟨hc, horg⟩, hf, -⟩
    exact Registry.eq_of_inForce (R := registry d hd) hu hmem hc horg hf hforce
  · rintro rfl
    refine ⟨hmem, ⟨rfl, rfl⟩, hforce, ?_⟩
    rw [← howns.1]
    exact decide_eq_true (mem_activeOrgs hd.history.indexed ho howns.2)

/-- **Who is placed is found.**  In every state of every run, an open placement that has
begun is the placement of a header of its organisation that is saved, with whatever
other placements there are. -/
theorem currentPlacement_of_open (hp : Reaches (initial D) p) {id : String} {v : Int}
    {r : PlacementRow} {clock : Int} (hr : placement p.state.db id v = some r)
    (hopen : r.effectiveTo = none) (hbegun : r.effectiveFrom ≤ clock) {o : NativeOperation}
    {c : NativeChange} (hnew : o.sourceRecordId = 0) (htable : o.sourceTable = c.table)
    (hclient : c.adClientId = r.adClientId) (horg : c.adOrgId = r.adOrgId) :
    (registry p.state.db (sound_of_reaches hp)).currentPlacement clock o c =
      some r.toNativePlacement := by
  rw [Registry.currentPlacement, if_neg fun h => h.2 htable, if_pos hnew, hclient, horg,
    currentForOrg_of_open _ hr hopen hbegun]

/-! ### A branch that is placed -/

theorem branch_uuid : OrderToCash.postgresUuid "6f1c0a54-3f1d-4a0e-9a64-0c5d3f9f7f10" =
    some "6f1c0a54-3f1d-4a0e-9a64-0c5d3f9f7f10" := by decide +kernel

theorem branch_tenantId : Identifiers.isTenantId "tn_acme01" = true := by decide

theorem branch_legalEntityId : Identifiers.isLegalEntityId "ACME-LTD" = true := by decide

theorem branch_version : (1 : Int) ≤ 1 := by decide

theorem branch_adClientId : (0 : Int) < 11 := by decide

theorem branch_adOrgId : (0 : Int) < 12 := by decide

/-- The placement of organisation 12 of client 11, from the first second on. -/
def branch : PlacementRow where
  placementId := "6f1c0a54-3f1d-4a0e-9a64-0c5d3f9f7f10"
  version := 1
  tenantId := "tn_acme01"
  engineInstanceId := "ei_idem01"
  operatingOrganisationId := "6f1c0a54-3f1d-4a0e-9a64-0c5d3f9f7f10"
  legalEntityId := "ACME-LTD"
  market := "ZA"
  adClientId := 11
  adOrgId := 12
  placementId_uuid := branch_uuid
  version_pos := branch_version
  tenantId_canonical := branch_tenantId
  organisation_uuid := branch_uuid
  legalEntityId_canonical := branch_legalEntityId
  adClientId_pos := branch_adClientId
  adOrgId_pos := branch_adOrgId
  effectiveFrom := 1000000
  effectiveTo := none
  approvedBy := "A. Wanjiru"
  checkedBy := "B. Otieno"
  evidenceReference := "min-1"
  erpAssignmentReference := "as-1"
  recordedAt := 1000000

/-- The branch is placed, and invoice 7 created there. -/
def opens : Caller := do
  let _ ← Prog.perform (Call.insertAdOrg 12 ⟨11, true⟩)
  let _ ← Prog.perform (Call.insertPlacements [branch])
  let _ ← Prog.perform (Call.insertDocuments .cInvoice [(7, ⟨11, 12⟩)])
  Prog.perform Call.commit

/-- The placement is closed. -/
def closes : Caller := do
  let _ ← Prog.perform (Call.updatePlacement branch.placementId 1 fun r =>
    some { r with effectiveTo := some 3000000 })
  Prog.perform Call.commit

/-- A database that folds ASCII letters and takes every lock on one hash. -/
def ascii : FinanceBaselines.Deployment := ⟨FinanceBaselines.lower, fun _ => 0⟩

/-- A clock that stands. -/
def standing (now : Int) : Reading := ⟨fun _ => now, fun _ => Int.le_refl now, id, fun _ => .refl _⟩

def openRun : List (Sessions ascii).Action :=
  .launch "a" opens :: List.replicate 11 (.call "a" (.runs (standing 2000000)))

def closeRun : List (Sessions ascii).Action :=
  .launch "b" closes :: List.replicate 2 (.call "b" (.runs (standing 3000000)))

/-- One session after the other, each to its end. -/
theorem opened_then_closed : ∃ p q : (Sessions ascii).Pool, Reaches (initial ascii) p ∧ Reaches p q ∧
    placement p.state.db branch.placementId 1 = some branch ∧
    placement q.state.db branch.placementId 1 = some { branch with effectiveTo := some 3000000 } ∧
    (provenance p.state.db .cInvoice 7).isSome = true ∧
    document q.state.db .cInvoice 7 = some ⟨11, 12⟩ := by
  have hruns : ((Machine.run openRun (initial ascii)).bind fun p =>
      (Machine.run closeRun p).map fun q => (placement p.state.db branch.placementId 1,
        placement q.state.db branch.placementId 1, (provenance p.state.db .cInvoice 7).isSome,
        document q.state.db .cInvoice 7)) =
      some (some branch, some { branch with effectiveTo := some 3000000 }, true,
        some ⟨11, 12⟩) := by decide +kernel
  obtain ⟨p, hrun, hrest⟩ := Option.bind_eq_some_iff.1 hruns
  obtain ⟨q, hrun', heq⟩ := Option.map_eq_some_iff.1 hrest
  obtain ⟨h₁, h₂, h₃, h₄⟩ := by simpa only [Prod.mk.injEq] using heq
  exact ⟨p, q, Machine.reaches_of_run (fun _ _ _ => trivial) hrun,
    Machine.reaches_of_run (fun _ _ _ => trivial) hrun', h₁, h₂, h₃, h₄⟩

/-- The branch is placed for two seconds. -/
theorem placements_history_closed : ∃ p q : (Sessions ascii).Pool, Reaches (initial ascii) p ∧
    Reaches p q ∧ placement p.state.db branch.placementId 1 = some branch ∧
    ∃ r', placement q.state.db branch.placementId 1 = some r' ∧ r' ≠ branch ∧
      branch.effectiveTo = none ∧ r'.effectiveTo ≠ none ∧ r'.withoutEnd = branch.withoutEnd := by
  obtain ⟨p, q, hp, hq, hopen, hclosed, -, -⟩ := opened_then_closed
  obtain ⟨r', hr', hcases⟩ := (placements_history hp hq).2.2 _ _ branch hopen
  have hne : r' ≠ branch := by
    obtain rfl := Option.some.inj (hclosed.symm.trans hr')
    decide
  exact ⟨p, q, hp, hq, hopen, r', hr', hne, hcases.resolve_left hne⟩

/-- The invoice keeps its provenance while the placement is closed. -/
theorem provenance_kept_closed : ∃ (p q : (Sessions ascii).Pool) (r : Provenance),
    Reaches (initial ascii) p ∧ Reaches p q ∧ provenance p.state.db .cInvoice 7 = some r ∧
    provenance q.state.db .cInvoice 7 = some r ∧
    (∃ u, placement q.state.db r.placementId r.placementVersion = some u ∧
      u.adClientId = r.adClientId ∧ u.adOrgId = r.adOrgId) ∧ (r.adClientId = 11 → r.adOrgId = 12) := by
  obtain ⟨p, q, hp, hq, -, -, hsome, hdoc⟩ := opened_then_closed
  obtain ⟨r, hr⟩ := Option.isSome_iff_exists.1 hsome
  obtain ⟨hkept, hnamed, hagrees⟩ := provenance_kept hp hq
  have hr' := hkept _ _ _ hr
  exact ⟨p, q, r, hp, hq, hr, hr', hnamed _ _ _ hr', hagrees _ _ _ ⟨11, 12⟩ hr' hdoc⟩

/-- Organisation 12 is client 11's while the branch is placed. -/
theorem branch_owned : ∃ (p : (Sessions ascii).Pool) (o : AdOrg), Reaches (initial ascii) p ∧
    adOrg p.state.db 12 = some o ∧ o.adClientId = 11 ∧ o.isActive = true := by
  obtain ⟨p, q, hp, -, hopen, -⟩ := opened_then_closed
  obtain ⟨o, ho⟩ := open_placements_owned hp hopen rfl
  exact ⟨p, o, hp, ho⟩

/-- Another invoice of the branch, at a later time. -/
theorem branch_found : ∃ (p : (Sessions ascii).Pool) (hp : Reaches (initial ascii) p),
    (registry p.state.db (sound_of_reaches hp)).currentPlacement 2000000
      ⟨.customerInvoice, .cInvoice, 0⟩ ⟨⟨.cInvoice, 11, 12, 0, fun _ => none⟩, "insert", "trx"⟩ =
      some branch.toNativePlacement := by
  obtain ⟨p, q, hp, -, hopen, -⟩ := opened_then_closed
  exact ⟨p, hp, currentPlacement_of_open hp hopen rfl (by decide) rfl rfl rfl rfl⟩

end PlacementStore
end NativeFinance
end BaobabErp
