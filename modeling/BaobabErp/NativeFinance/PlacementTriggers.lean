/-
# The triggers of the placements keep the contract

What each query of a trigger shows lasts until the statement it is for: a placement
that is seen stays (`placement_stays`), the advisory lock keeps an organisation free
of further windows (`apartFact`), and a row that is held keeps its links
(`suitsFact`, `ownersFact`).  So every call of a session keeps the contract
(`body_proves`), and with it every program of calls.
-/

import BaobabErp.NativeFinance.PlacementContract

namespace BaobabErp
namespace NativeFinance
namespace PlacementStore

open Concurrency

variable {D : FinanceBaselines.Deployment} {d d' : Db D} {t u : Session}

abbrev Fact (D : FinanceBaselines.Deployment) (t : Session) := (contract D).Fact t

abbrev Step (t : Session) (d d' : Db D) : Prop := (contract D).Step t d d'

/-- **From `A` the program ends in `B` of its value.** -/
abbrev Proves {α : Type} (t : Session) (A : Fact D t) (p : Program D α) (B : α → Fact D t) : Prop :=
  (contract D).Proves main t A p B

abbrev ready (t : Session) : Fact D t := (contract D).ready t

/-! ### What lasts -/

/-- A placement that is seen stays, or is closed. -/
theorem placement_stays (hu : u ≠ t) (hd : Sound d) (hm : Step u d d') {i : String × Int}
    {a : Filed D i.1 i.2} (ha : d.view t (placementKey i) = some a) :
    ∃ a' : Filed D i.1 i.2, d'.view t (placementKey i) = some a' ∧ Closes i a' a := by
  obtain ⟨-, -, hview | ⟨-, rfl⟩⟩ := hm.other hu
  · exact ⟨a, (hview _).trans ha, .refl i a⟩
  · exact hd.history.refining.grows Closes.refl hu.symm ha

/-- **A placement that appears** was there before, perhaps open, or its session has
inserted it. -/
theorem placement_appears (hu : u ≠ t) (hd : Sound d) (hm : Step u d d') {i : String × Int}
    {a : Filed D i.1 i.2} (ha : d'.view t (placementKey i) = some a) :
    (∃ a₀ : Filed D i.1 i.2, d.view t (placementKey i) = some a₀ ∧ Closes i a a₀) ∨
      d.store.Fresh u (placementKey i) ∧ d.view u (placementKey i) = some a := by
  obtain ⟨-, -, hview | ⟨-, rfl⟩⟩ := hm.other hu
  · exact .inl ⟨a, (hview _).symm.trans ha, .refl i a⟩
  by_cases ht : d.store.Holds t (placementKey i)
  · exact .inl ⟨a, (Store.view_commit_of_holds hu.symm ht).symm.trans ha, .refl i a⟩
  have hau : d.view u (placementKey i) = some a := (Store.view_commit_of_not_holds ht).symm.trans ha
  by_cases hh : d.store.Holds u (placementKey i)
  · cases hc : d.store.committed (placementKey i) with
    | none => exact .inr ⟨⟨hh, hc⟩, hau⟩
    | some a₀ =>
      obtain ⟨b, hb, hvb⟩ := hd.history.refining.view_of_holds hh
      obtain rfl := Option.some.inj (hvb.symm.trans hau)
      exact .inl ⟨a₀, (Store.view_of_not_holds ht).trans hc,
        hd.history.refining.refines u i b a₀ hb hc⟩
  · exact .inl ⟨a, (Store.view_of_not_holds ht).trans ((Store.view_of_not_holds hh).symm.trans hau),
      .refl i a⟩

/-- The session has the lock of the organisation. -/
def lockFact (r : PlacementRow) : Fact D t where
  holds d := d.transaction (lockOf D r.adClientId r.adOrgId) = some t
  stable hu _ _ hm h := (hm.other hu).2.1 _ h

/-- The version before is there. -/
def previousFact (r : PlacementRow) : Fact D t where
  holds d := 1 < r.version → ∃ a : Filed D r.placementId (r.version - 1),
    d.view t (placementKey (r.placementId, r.version - 1)) = some a
  stable hu hd _ hm h hv := by
    obtain ⟨a, ha⟩ := h hv
    obtain ⟨a', ha', -⟩ := placement_stays hu hd hm ha
    exact ⟨a', ha'⟩

/-- It says the same. -/
def sameFact (r : PlacementRow) : Fact D t where
  holds d := 1 < r.version → ∃ a : Filed D r.placementId (r.version - 1),
    d.view t (placementKey (r.placementId, r.version - 1)) = some a ∧ a.1.identity = r.identity
  stable hu hd _ hm h hv := by
    obtain ⟨a, ha, hid⟩ := h hv
    obtain ⟨a', ha', hcl⟩ := placement_stays hu hd hm ha
    refine ⟨a', ha', ?_⟩
    rw [← hid]
    exact congrArg NativePlacement.identity hcl.toNativePlacement

/-- **No placement of the organisation overlaps it**, and none can be added. -/
def apartFact (r : PlacementRow) : Fact D t where
  holds d := d.transaction (lockOf D r.adClientId r.adOrgId) = some t ∧
    ∀ (j : String × Int) (b : Filed D j.1 j.2), d.view t (placementKey j) = some b →
      b.1.adClientId = r.adClientId → b.1.adOrgId = r.adOrgId → b.1.overlaps r = false
  stable {u d d'} hu hd _ hm h := by
    refine ⟨(hm.other hu).2.1 _ h.1, fun j b hb hc ho => ?_⟩
    rcases placement_appears hu hd hm hb with ⟨b₀, hb₀, hcl⟩ | ⟨hfresh, hbu⟩
    · rw [hcl.toNativePlacement] at hc ho
      exact hcl.overlaps (h.2 j b₀ hb₀ hc ho)
    · -- who has inserted one of this organisation has its lock
      have hlock := hd.history.locked u j b hfresh hbu
      rw [hc, ho, h.1] at hlock
      exact absurd (Option.some.inj hlock).symm hu

/-- The session holds the organisation, and it is the client's. -/
def ownerFact (r : PlacementRow) : Fact D t where
  holds d := d.store.Holds t (adOrgKey r.adOrgId) ∧
    ∃ o : AdOrg, d.view t (adOrgKey r.adOrgId) = some o ∧ o.owns r.adClientId = true
  stable hu _ _ hm h := by
    obtain ⟨hh, hview⟩ := hm.held hu h.1
    rw [hview]
    exact ⟨hh, h.2⟩

/-- The session holds a row of iDempiere, which it sees as it is. -/
def heldFact (k : NativeKey) (row : NativeRow k) : Fact D t where
  holds d := d.store.Holds t (.native k) ∧ nativeAt d t k = some row
  stable hu _ _ hm h := by
    obtain ⟨hh, hview⟩ := hm.held hu h.1
    exact ⟨hh, hview.trans h.2⟩

/-- **The document could be this row**, as far as its provenance goes. -/
def suitsFact (x : RecordId) (row : Option Document) : Fact D t where
  holds d := d.store.Holds t (documentKey x) ∧
    AgreesOn x (show Option (Row D (documentKey x)) from row) (d.view t (provenanceKey x))
  stable {u d d'} hu hd _ hm h := by
    refine ⟨(hm.held hu h.1).1, ?_⟩
    obtain ⟨-, -, hview | ⟨-, rfl⟩⟩ := hm.other hu
    · rw [hview]
      exact h.2
    · -- nobody else adds the provenance of a document that the session holds
      have hno : ¬ d.store.Holds u (provenanceKey x) := fun hp =>
        hu (Store.holds_unique (hd.provenances.documents u x hp) h.1)
      have hsame : (d.commit u).view t (provenanceKey x) = d.view t (provenanceKey x) := by
        by_cases hp : d.store.Holds t (provenanceKey x)
        · exact Store.view_commit_of_holds hu.symm hp
        · exact (Store.view_commit_of_not_holds hp).trans
            ((Store.view_of_not_holds hno).trans (Store.view_of_not_holds hp).symm)
      rw [hsame]
      exact h.2

/-- **The organisation could be this row**, as far as the open placements go. -/
def ownersFact (org : Int) (row : Option AdOrg) : Fact D t where
  holds d := d.store.Holds t (adOrgKey org) ∧
    ∀ i, OwnedBy i org (d.view t (placementKey i)) (show Option (Row D (adOrgKey org)) from row)
  stable {u d d'} hu hd _ hm h := by
    refine ⟨(hm.held hu h.1).1, fun i r hr hopen horg => ?_⟩
    rcases placement_appears hu hd hm hr with ⟨r₀, hr₀, hcl⟩ | ⟨hfresh, hru⟩
    · rw [← hcl.eq_of_open hopen] at hr₀
      exact h.2 i r hr₀ hopen horg
    · -- who has inserted an open placement holds its organisation
      have hheld := hd.ownership.held u i r hfresh hru hopen
      rw [horg] at hheld
      exact absurd (Store.holds_unique hheld h.1) hu

/-- A placement of the organisation is there. -/
def placedFact (i : String × Int) (client org : Int) : Fact D t where
  holds d := ∃ r : Filed D i.1 i.2, d.view t (placementKey i) = some r ∧
    r.1.adClientId = client ∧ r.1.adOrgId = org
  stable hu hd _ hm h := by
    obtain ⟨r, hr, hc, ho⟩ := h
    obtain ⟨r', hr', hcl⟩ := placement_stays hu hd hm hr
    exact ⟨r', hr', by rw [hcl.toNativePlacement, hc], by rw [hcl.toNativePlacement, ho]⟩

/-- **The rows that were inserted wait for their provenance**; the other documents
are right. -/
def waitingFact (table : GovernedTable) (rows : List (Int × Document)) : Fact D t where
  holds d := (∀ x, (∀ y ∈ rows, x ≠ (table, y.1)) →
      AgreesOn x (d.view t (documentKey x)) (d.view t (provenanceKey x))) ∧
    ∀ y ∈ rows, d.store.Holds t (documentKey (table, y.1)) ∧
      nativeAt d t (.document table y.1) = some y.2
  stable {u d d'} hu hd _ hm h := by
    refine ⟨fun x hx => ?_, fun y hy => ?_⟩
    · obtain ⟨-, -, hview | ⟨hb, rfl⟩⟩ := hm.other hu
      · rw [hview, hview]
        exact h.1 x hx
      · exact hd.provenances.agreesOn_commit (h.1 x hx) (hb x)
    · obtain ⟨hh, hview⟩ := hm.held hu (h.2 y hy).1
      exact ⟨hh, hview.trans (h.2 y hy).2⟩

/-! ### One statement -/

/-- The statement leaves documents and provenance as its session sees them. -/
def Statement.quiet : Statement → Bool
  | .insertProvenance _ _ _ | .insertNative (.document _ _) _ | .writeNative (.document _ _) _ => false
  | _ => true

theorem view_quiet {reading : Reading} {e : Statement} {a : e.Ans} (hq : e.quiet = true)
    (hr : run d t reading e = some (.ok (a, d'))) (x : RecordId) :
    d'.view t (documentKey x) = d.view t (documentKey x) ∧
      d'.view t (provenanceKey x) = d.view t (provenanceKey x) := by
  have hput : ∀ {k : Key} {v : Option (Row D k)}, (documentKey x = k → d.view t k = v) →
      provenanceKey x ≠ k → (d.put t ⟨k, v⟩).view t (documentKey x) = d.view t (documentKey x) ∧
        (d.put t ⟨k, v⟩).view t (provenanceKey x) = d.view t (provenanceKey x) := by
    intro k v hdoc hprov
    refine ⟨?_, Store.view_put_of_ne hprov⟩
    by_cases hk : documentKey x = k
    · subst hk
      exact Store.view_put_self.trans (hdoc rfl).symm
    · exact Store.view_put_of_ne hk
  cases e with
  | read q =>
    obtain ⟨-, rfl⟩ := Prod.mk.inj (Except.ok.inj (Option.some.inj hr))
    exact ⟨rfl, rfl⟩
  | lock client org =>
    unfold run at hr
    dsimp only at hr
    split_ifs at hr
    obtain ⟨-, rfl⟩ := Prod.mk.inj (Except.ok.inj (Option.some.inj hr))
    exact ⟨rfl, rfl⟩
  | insertPlacement r =>
    obtain ⟨hc, -, -, rfl⟩ := insertPlacement_eq hr
    exact hput (fun h => by cases h) fun h => by cases h
  | updatePlacement id v new =>
    obtain rfl | ⟨old, r, -, -, -, rfl⟩ := updatePlacement_eq hr
    · exact ⟨rfl, rfl⟩
    · exact hput (fun h => by cases h) fun h => by cases h
  | deletePlacement id v =>
    obtain rfl := deny_eq hr
    exact ⟨rfl, rfl⟩
  | insertProvenance table record p => cases hq
  | alterProvenance table record =>
    obtain rfl := deny_eq hr
    exact ⟨rfl, rfl⟩
  | ownOrg client org =>
    obtain ⟨-, rfl⟩ | ⟨-, o, -, -, -, rfl⟩ := ownOrg_eq hr
    · exact ⟨rfl, rfl⟩
    · exact hput (fun h => by cases h) fun h => by cases h
  | insertNative k row =>
    obtain ⟨-, -, rfl⟩ := insertNative_eq hr
    cases k with
    | document table record => cases hq
    | adOrg org => exact hput (fun h => by cases h) fun h => by cases h
  | lockNative k =>
    obtain ⟨hfound, ⟨-, rfl⟩ | ⟨row, rfl, -, rfl⟩⟩ := lockNative_eq hr
    · exact ⟨rfl, rfl⟩
    · exact hput (fun _ => hfound) fun h => by cases h
  | writeNative k row =>
    obtain ⟨-, rfl⟩ := write_eq hr
    cases k with
    | document table record => cases hq
    | adOrg org => exact hput (fun h => by cases h) fun h => by cases h

theorem agrees_quiet {reading : Reading} {e : Statement} {a : e.Ans} (hq : e.quiet = true)
    (hr : run d t reading e = some (.ok (a, d'))) (ha : (ready t).holds d) : (ready t).holds d' := by
  intro x
  rw [(view_quiet hq hr x).1, (view_quiet hq hr x).2]
  exact ha x

/-- **A statement** that answers leaves `B` of its answer. -/
theorem sql_proves {e : Statement} {A : Fact D t} {B : e.Ans → Fact D t}
    (hg : ∀ d, Sound d → A.holds d → Guard t e d)
    (h : ∀ d d' reading a, Sound d → A.holds d → run d t reading e = some (.ok (a, d')) →
      (B a).holds d') :
    Proves t A (sql e) B :=
  .sql hg fun d d' reading a hd _ hA hr => h d d' reading a hd hA hr

/-- A statement that needs nothing and leaves the documents alone. -/
theorem quiet_proves {e : Statement} (hq : e.quiet = true) (hg : ∀ d : Db D, Guard t e d) :
    Proves (D := D) t (ready t) (sql e) fun _ => ready t :=
  sql_proves (fun d _ _ => hg d) fun _ _ _ _ _ ha hr => agrees_quiet hq hr ha

/-- **A query** shows what its answer says. -/
theorem ask_proves {q : Query} {A : Fact D t} {B : q.Ans → Fact D t}
    (h : ∀ d reading, Sound d → A.holds d → (B (q.answer d t reading)).holds d) :
    Proves t A (ask q) B := by
  refine sql_proves (fun _ _ _ => trivial) fun d d' reading a hd hA hr => ?_
  obtain ⟨rfl, rfl⟩ := Prod.mk.inj (Except.ok.inj (Option.some.inj hr))
  exact h d reading hd hA

/-- What remains where the trigger goes on. -/
theorem refuse_proves {p : Program D Bool} {x : DbError} {A C : Fact D t} {B : Bool → Fact D t}
    {f : Bool → Bool} (hp : Proves t A p B)
    (h : ∀ b d, Sound d → f b = false → (B b).holds d → C.holds d) :
    Proves t A (p >>= fun b => refuseIf x (f b)) fun _ => C := by
  refine hp.seq fun b => ?_
  unfold refuseIf
  cases hb : f b with
  | true => exact .raise
  | false => exact .ret fun d hd hB => h b d hd hb hB

/-! ### Placements -/

variable {r : PlacementRow}

theorem previousVersion_proves {A : Fact D t} :
    Proves t A (previousVersion r) fun _ => A.and (previousFact r) := by
  unfold previousVersion
  split_ifs with hv
  · refine refuse_proves (B := fun found => A.and ⟨fun d => found = true → (previousFact r).holds d,
      fun hu hd hd' hm h hf => (previousFact r).stable hu hd hd' hm (h hf)⟩)
      (ask_proves fun d _ _ hA => ⟨hA, fun hf _ => ?_⟩) fun b d _ hb hB => ⟨hB.1, hB.2 ?_⟩
    · obtain ⟨a, ha⟩ := Option.isSome_iff_exists.1 hf
      exact ⟨a, ha⟩
    · simpa using hb
  · exact .ret fun d _ hA => ⟨hA, fun hv' => absurd hv' hv⟩

/-- **What the trigger of an `INSERT` establishes.** -/
theorem nativePlacementGuard_proves : Proves (D := D) t (ready t) (nativePlacementGuard r)
    fun _ => (ready t).and ((sameFact r).and (apartFact r)) := by
  unfold nativePlacementGuard
  refine .seq (B := fun _ => (ready t).and (lockFact r)) (sql_proves (fun _ _ _ => trivial) ?_)
    fun _ => previousVersion_proves.seq fun _ => ?_
  · intro d d' reading a _ ha hr
    refine ⟨agrees_quiet rfl hr ha, ?_⟩
    unfold run at hr
    dsimp only at hr
    split_ifs at hr
    obtain ⟨-, rfl⟩ := Prod.mk.inj (Except.ok.inj (Option.some.inj hr))
    exact Function.update_self ..
  refine .seq (B := fun _ => ((ready t).and (lockFact r)).and (sameFact r)) ?_ fun _ => ?_
  · -- of the version before, another identity was not found
    refine refuse_proves (f := id) (B := fun other =>
      ((ready t).and (lockFact r)).and ⟨fun d => other = false → (sameFact r).holds d,
        fun hu hd hd' hm h hf => (sameFact r).stable hu hd hd' hm (h hf)⟩)
      (ask_proves fun d _ hd hA => ⟨hA.1, fun hf hv => ?_⟩) fun b d _ hb hB => ⟨hB.1, hB.2 hb⟩
    obtain ⟨a, ha⟩ := hA.2 hv
    refine ⟨a, ha, by_contra fun hne => ?_⟩
    rw [Query.answer, List.any_eq_false] at hf
    refine hf a.1 ((mem_placements hd.history.indexed).2
      ⟨(r.placementId, r.version - 1), a, ha, rfl⟩) ?_
    exact decide_eq_true ⟨a.2.2.1, hne⟩
  · refine refuse_proves (f := id) (B := fun meets =>
      ((ready t).and (sameFact r)).and ⟨fun d => (lockFact (t := t) r).holds d ∧
        (meets = false → (apartFact (t := t) r).holds d),
        fun hu hd hd' hm h => ⟨(lockFact r).stable hu hd hd' hm h.1,
          fun hf => (apartFact r).stable hu hd hd' hm (h.2 hf)⟩⟩)
      (ask_proves fun d _ hd hA => ⟨⟨hA.1.1, hA.2⟩, hA.1.2, fun hf => ⟨hA.1.2, ?_⟩⟩)
      fun b d _ hb hB => ⟨hB.1.1, hB.1.2, hB.2.2 hb⟩
    intro j b hb hc ho
    rw [Query.answer, List.any_eq_false] at hf
    have hno := hf b.1 ((mem_placements hd.history.indexed).2 ⟨j, b, hb, rfl⟩)
    rw [Bool.and_eq_true, not_and, Bool.not_eq_true] at hno
    refine hno ?_
    simp only [PlacementRow.of, hc, ho, decide_true, Bool.and_true]

/-- The owner of the organisation is checked, and the organisation held. -/
theorem nativePlacementOrgOwnerGuard_proves {A : Fact D t}
    (hA : ∀ d d' reading a, A.holds d →
      run d t reading (.ownOrg r.adClientId r.adOrgId) = some (.ok (a, d')) → A.holds d') :
    Proves t A (nativePlacementOrgOwnerGuard r) fun _ => A.and (ownerFact r) := by
  unfold nativePlacementOrgOwnerGuard
  refine refuse_proves (B := fun owned => A.and ⟨fun d => owned = true → (ownerFact r).holds d,
    fun hu hd hd' hm h hf => (ownerFact r).stable hu hd hd' hm (h hf)⟩)
    (sql_proves (fun _ _ _ => trivial) fun d d' reading a _ h hr => ⟨hA d d' reading a h hr, fun ha => ?_⟩)
    fun b d _ hb hB => ⟨hB.1, hB.2 (by simpa using hb)⟩
  obtain ⟨hfalse, -⟩ | ⟨-, o, -, howns, -, rfl⟩ := ownOrg_eq hr
  · exact absurd (hfalse.symm.trans ha) Bool.false_ne_true
  · exact ⟨Store.holds_put_self, o, Store.view_put_self, howns⟩

/-- A row of `ad_org` that is held changes nothing else. -/
theorem ownOrg_keeps {d d' : Db D} {reading : Reading} {client org : Int} {a : Bool}
    (hr : run d t reading (.ownOrg client org) = some (.ok (a, d'))) :
    d'.transaction = d.transaction ∧
      ∀ i, d'.view t (placementKey i) = d.view t (placementKey i) := by
  obtain ⟨-, rfl⟩ | ⟨-, o, -, -, -, rfl⟩ := ownOrg_eq hr
  · exact ⟨rfl, fun _ => rfl⟩
  · exact ⟨rfl, fun i => Store.view_put_of_ne nofun⟩

theorem insertPlacements_proves (rows : List PlacementRow) :
    Proves (D := D) t (ready t) (insertPlacements rows) fun _ => ready t := by
  induction rows with
  | nil => exact .ret fun _ _ h => h
  | cons r rows ih =>
    refine nativePlacementGuard_proves.seq fun _ =>
      (nativePlacementOrgOwnerGuard_proves ?_).seq fun _ => .seq (B := fun _ => ready t) ?_ fun _ => ih
    · rintro d d' reading a ⟨hready, hsame, hlock, hapart⟩ hr
      obtain ⟨htrans, hview⟩ := ownOrg_keeps hr
      refine ⟨agrees_quiet rfl hr hready, fun hv => ?_, htrans ▸ hlock, fun j b hb => ?_⟩
      · rw [hview]
        exact hsame hv
      · rw [hview] at hb
        exact hapart j b hb
    · refine sql_proves (fun d _ hA => ?_) fun d d' _ _ _ hA hr => agrees_quiet rfl hr hA.1.1
      exact ⟨hA.1.2.2.1, hA.1.2.1, hA.1.2.2.2, hA.2⟩

end PlacementStore
end NativeFinance
end BaobabErp
