/-
# What the triggers of the placements keep to

`contract` puts the three invariants together: what a session has to know before a
statement (`Guard`) and before it commits (every document it sees is of the
organisation of its provenance).  Each trigger establishes what the statement after
it needs, and what it establishes lasts while other sessions go on: the advisory
lock keeps an organisation free of further windows (`apart`), a row that is held
keeps its links (`suits`, `unplaced`), and a placement that is seen stays
(`placement_stays`).
-/

import BaobabErp.NativeFinance.PlacementLinks

namespace BaobabErp
namespace NativeFinance
namespace PlacementStore

open Concurrency

variable {D : FinanceBaselines.Deployment} {d d' : Db D} {t u : Session}

/-- **What every history of the tables keeps.** -/
structure Sound (d : Db D) : Prop where
  history : History d
  ownership : Ownership d
  provenances : Provenances d

/-- **What a session knows of a placement it is about to insert.** -/
structure Insertable (t : Session) (r : PlacementRow) (d : Db D) : Prop where
  lock : d.transaction (lockOf D r.adClientId r.adOrgId) = some t
  previous : 1 < r.version → ∃ a : Filed D r.placementId (r.version - 1),
    d.view t (placementKey (r.placementId, r.version - 1)) = some a ∧ a.1.identity = r.identity
  apart : ∀ (j : String × Int) (b : Filed D j.1 j.2), d.view t (placementKey j) = some b →
    b.1.adClientId = r.adClientId → b.1.adOrgId = r.adOrgId → b.1.overlaps r = false
  owner : d.store.Holds t (adOrgKey r.adOrgId) ∧
    ∃ o : AdOrg, d.view t (adOrgKey r.adOrgId) = some o ∧ o.owns r.adClientId = true

/-- What a session knows before a statement. -/
def Guard (t : Session) : Statement → Db D → Prop
  | .insertPlacement r, d => Insertable t r d
  | .insertProvenance table record p, d => d.store.Holds t (documentKey (table, record)) ∧
    NamedBy (table, record) (p.1.placementId, p.1.placementVersion)
      (some (show Row D (provenanceKey (table, record)) from p))
      (d.view t (placementKey (p.1.placementId, p.1.placementVersion)))
  | .writeNative (.adOrg org) row, d =>
    ∀ i, OwnedBy i org (d.view t (placementKey i)) (show Option (Row D (adOrgKey org)) from row)
  | _, _ => True

namespace Sound

/-! ### One statement -/

theorem put_native (h : Sound d) {k : NativeKey} {v : Option (NativeRow k)}
    (hf : d.store.free t (.native k) = true) (ho : Ownership (d.put t ⟨.native k, v⟩)) :
    Sound (d.put t ⟨.native k, v⟩) :=
  ⟨h.history.put_other nofun, ho, h.provenances.put_native hf⟩

theorem put_document (h : Sound d) {table : GovernedTable} {record : Int}
    {v : Option (NativeRow (.document table record))}
    (hf : d.store.free t (.native (.document table record)) = true) :
    Sound (d.put t ⟨.native (.document table record), v⟩) := by
  refine h.put_native hf (h.ownership.put_same hf (fun i hk => ?_) fun org hk => ?_)
  · cases hk
  · cases hk

/-- A row that is locked is written as it is. -/
theorem lock_native (h : Sound d) {k : NativeKey} {v : Option (NativeRow k)}
    (hf : d.store.free t (.native k) = true) (hv : nativeAt d t k = v) :
    Sound (d.put t ⟨.native k, v⟩) :=
  h.put_native hf (h.ownership.put_same hf nofun fun _ _ => hv)

/-- **A placement that is inserted** coexists with the ones its session sees. -/
theorem insert_placement (h : Sound d) {r : PlacementRow} (hg : Insertable t r d)
    (hc : check D r = true) (hnone : d.view t (.placement r.placementId r.version) = none)
    (hf : d.store.free t (.placement r.placementId r.version) = true) :
    Sound (d.put t ⟨.placement r.placementId r.version,
      some (⟨r, hc, rfl, rfl⟩ : Filed D r.placementId r.version)⟩) := by
  obtain ⟨n, hn⟩ := h.history.denseView r.placementId t
  have hrn : ¬ (1 ≤ r.version ∧ r.version ≤ n) := fun hle => by
    have hsome := (hn.2 r.version).2 hle
    rw [show d.view t (placementKey (r.placementId, r.version)) = none from hnone] at hsome
    cases hsome
  have hidentity : ∀ (j : String × Int) (b : Filed D j.1 j.2), d.view t (placementKey j) = some b →
      r.placementId = j.1 → r.identity = b.1.identity := by
    rintro ⟨id, w⟩ b hb rfl
    have hw : 1 ≤ w ∧ w ≤ n := (hn.2 w).1 (Option.isSome_iff_exists.2 ⟨_, hb⟩)
    have hpos : 1 ≤ r.version := r.version_pos
    obtain ⟨a, ha, hra⟩ := hg.previous (by omega)
    rw [← hra]
    by_cases hwv : w = r.version - 1
    · subst hwv
      obtain rfl := Option.some.inj (ha.symm.trans hb)
      rfl
    · refine (h.history.coexistView t (r.placementId, r.version - 1) (r.placementId, w) a b ?_ ha
        hb).identity rfl
      exact fun heq => hwv (Prod.mk.inj heq).2.symm
  have hcoexist : ∀ (j : String × Int) (b : Filed D j.1 j.2), j ≠ (r.placementId, r.version) →
      d.view t (placementKey j) = some b →
        Coexist (r.placementId, r.version) j ⟨r, hc, rfl, rfl⟩ b := by
    intro j b _ hb
    refine ⟨hidentity j b hb, fun hcl horg => ?_⟩
    have hover : (window b).overlaps (window ⟨r, hc, rfl, rfl⟩) = false :=
      hg.apart j b hb hcl.symm horg.symm
    exact (Temporal.Window.apart_of_overlaps hover).symm
  have hprev : 1 < r.version →
      (d.view t (placementKey (r.placementId, r.version - 1))).isSome = true := by
    intro hv
    obtain ⟨a, ha, -⟩ := hg.previous hv
    exact Option.isSome_iff_exists.2 ⟨a, ha⟩
  have hcloses : ∀ r₀ : Filed D r.placementId r.version,
      d.view t (placementKey (r.placementId, r.version)) = some r₀ →
        Closes (r.placementId, r.version) ⟨r, hc, rfl, rfl⟩ r₀ :=
    fun r₀ hr₀ => nomatch hnone.symm.trans hr₀
  exact ⟨h.history.put (i := (r.placementId, r.version)) hf hcloses (fun _ => hg.lock) hprev hcoexist,
    h.ownership.put_placement (i := (r.placementId, r.version)) hf fun _ => hg.owner,
    h.provenances.put_placement (i := (r.placementId, r.version)) hf hcloses⟩

theorem closes_of_admitted {i : String × Int} {old r : Filed D i.1 i.2} {now : Int}
    (h : admitted old.1 r.1 now = true) : Closes i r old := by
  simp only [admitted, Bool.and_eq_true, decide_eq_true_eq] at h
  refine .inr ⟨Option.isNone_iff_eq_none.1 h.1.2, fun hnone => ?_, h.1.1⟩
  rw [hnone] at h
  exact Bool.false_ne_true h.2

/-- **A placement that is closed.** -/
theorem close_placement (h : Sound d) {i : String × Int} {old r : Filed D i.1 i.2}
    (hold : d.view t (placementKey i) = some old) (hcl : Closes i r old)
    (hf : d.store.free t (placementKey i) = true)
    (hclosed : r.1.effectiveTo ≠ none) :
    Sound (d.put t ⟨placementKey i, some (show Row D (placementKey i) from r)⟩) := by
  have hcloses : ∀ r₀ : Filed D i.1 i.2, d.view t (placementKey i) = some r₀ → Closes i r r₀ := by
    intro r₀ hr₀
    obtain rfl := Option.some.inj (hold.symm.trans hr₀)
    exact hcl
  refine ⟨h.history.put hf hcloses (fun hnone => ?_) (fun hv => ?_) fun j b hj hb => ?_,
    h.ownership.put_placement hf fun hopen => absurd hopen hclosed,
    h.provenances.put_placement hf hcloses⟩
  · -- a placement that only its session sees was inserted by it
    have hheld : d.store.Holds t (placementKey i) := by
      by_contra hno
      cases hold.symm.trans ((Store.view_of_not_holds hno).trans hnone)
    have hlock := h.history.locked t i old ⟨hheld, hnone⟩ hold
    rwa [hcl.toNativePlacement]
  · obtain ⟨n, hn⟩ := h.history.denseView i.1 t
    have hin : 1 ≤ i.2 ∧ i.2 ≤ n := (hn.2 i.2).1 (Option.isSome_iff_exists.2 ⟨_, hold⟩)
    exact (hn.2 (i.2 - 1)).2 (by omega)
  · exact (h.history.coexistView t i j old b hj.symm hold hb).closes hcl (.refl j b)

/-- **A guarded statement keeps what every history keeps.** -/
theorem run {reading : Reading} {e : Statement} {a : e.Ans} (h : Sound d) (hg : Guard t e d)
    (hr : run d t reading e = some (.ok (a, d'))) : Sound d' := by
  cases e with
  | read q =>
    obtain ⟨-, rfl⟩ := Prod.mk.inj (Except.ok.inj (Option.some.inj hr))
    exact h
  | lock client org =>
    unfold PlacementStore.run at hr
    dsimp only at hr
    split_ifs at hr with hf
    obtain ⟨-, rfl⟩ := Prod.mk.inj (Except.ok.inj (Option.some.inj hr))
    exact ⟨h.history.enter hf, h.ownership.enter, h.provenances.enter⟩
  | insertPlacement r =>
    obtain ⟨hc, hnone, hf, rfl⟩ := insertPlacement_eq hr
    exact h.insert_placement hg hc hnone hf
  | updatePlacement id v new =>
    obtain rfl | ⟨old, r, hold, hadm, hf, rfl⟩ := updatePlacement_eq hr
    · exact h
    · have hcl : Closes (id, v) r old := closes_of_admitted hadm
      refine h.close_placement (i := (id, v)) hold hcl hf fun hopen => ?_
      simp only [admitted, Bool.and_eq_true] at hadm
      rw [hopen] at hadm
      exact Bool.false_ne_true hadm.2
  | deletePlacement id v =>
    obtain rfl := deny_eq hr
    exact h
  | insertProvenance table record p =>
    obtain ⟨hnone, -, hf, rfl⟩ := insertProvenance_eq hr
    have hplacement : ∀ i, placementKey i ≠ provenanceKey (table, record) := fun i hk => by cases hk
    have horg : ∀ org, provenanceKey (table, record) ≠ adOrgKey org := fun org hk => by cases hk
    exact ⟨h.history.put_other hplacement,
      h.ownership.put_same hf hplacement fun org hk => absurd hk (horg org),
      h.provenances.put_provenance (x := (table, record)) hf hnone hg.1 hg.2⟩
  | alterProvenance table record =>
    obtain rfl := deny_eq hr
    exact h
  | ownOrg client org =>
    obtain ⟨-, rfl⟩ | ⟨-, o, ho, -, hf, rfl⟩ := ownOrg_eq hr
    · exact h
    · exact h.lock_native hf ho
  | insertNative k row =>
    obtain ⟨hnone, hf, rfl⟩ := insertNative_eq hr
    cases k with
    | document table record => exact h.put_document hf
    | adOrg org =>
      refine h.put_native hf (h.ownership.put_adOrg hf fun i r hr hopen horg => ?_)
      obtain ⟨o, ho, -⟩ := h.ownership.ownedView t i org r hr hopen horg
      cases hnone.symm.trans ho
  | lockNative k =>
    obtain ⟨hfound, ⟨-, rfl⟩ | ⟨row, rfl, hf, rfl⟩⟩ := lockNative_eq hr
    · exact h
    · exact h.lock_native hf hfound
  | writeNative k row =>
    obtain ⟨hf, rfl⟩ := write_eq hr
    cases k with
    | document table record => exact h.put_document hf
    | adOrg org => exact h.put_native hf (h.ownership.put_adOrg hf hg)

end Sound

/-- **The contract of the tables.** -/
def contract (D : FinanceBaselines.Deployment) : (dialect D).Contract where
  Inv := Sound
  Guard := Guard
  Ready t d := Agrees (d.view t)
  run h hg hr := h.run hg hr
  commit h ha := ⟨h.history.commit, h.ownership.commit h.history, h.provenances.commit h.history ha⟩
  rollback h := ⟨h.history.rollback, h.ownership.rollback, h.provenances.rollback⟩
  close h := ⟨h.history.close, h.ownership.close, h.provenances.close⟩
  ready_clean h hc := h.provenances.agrees_clean hc
  ready_moved hu h _ hm ha := by
    obtain ⟨-, -, hview | ⟨hb, rfl⟩⟩ := hm.other hu
    · intro x
      rw [hview, hview]
      exact ha x
    · exact fun x => h.provenances.agreesOn_commit (ha x) (hb x)

end PlacementStore
end NativeFinance
end BaobabErp
