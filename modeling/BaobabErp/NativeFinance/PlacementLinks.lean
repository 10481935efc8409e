/-
# What the placements are linked to

Three families of rows go by rows of another table.  An open placement goes by its
organisation, which its client owns and which is active (`Ownership`).  A
provenance goes by the placement it names and by its document (`Provenances`).

Each link holds through the commits of others because whoever adds a row that goes
by another holds that other row as well: a placement that is inserted has its
organisation `FOR SHARE`, a provenance is inserted for the document its transaction
has inserted.  The proof of each is `Store.view_commit_pair`.
-/

import BaobabErp.NativeFinance.PlacementHistory

namespace BaobabErp
namespace NativeFinance
namespace PlacementStore

open Concurrency

variable {D : FinanceBaselines.Deployment} {d : Db D} {t u : Session}

/-- The rows of a transaction, or the committed ones. -/
abbrev Rows (D : FinanceBaselines.Deployment) : Type := (k : Key) → Option (Row D k)

/-! ### Who owns an organisation -/

/-- The row of `ad_org`. -/
abbrev adOrgKey (org : Int) : Key := .native (.adOrg org)

/-- If the placement is open and of the organisation, its client owns that one. -/
def OwnedBy (i : String × Int) (org : Int) (x : Option (Row D (placementKey i)))
    (y : Option (Row D (adOrgKey org))) : Prop :=
  ∀ r : Filed D i.1 i.2, x = some r → r.1.effectiveTo = none → r.1.adOrgId = org →
    ∃ o : AdOrg, y = some o ∧ o.owns r.1.adClientId = true

/-- **Every open placement's organisation** is there, active and of its client. -/
def Owned (rows : Rows D) : Prop :=
  ∀ i org, OwnedBy i org (rows (placementKey i)) (rows (adOrgKey org))

/-- **What every history of the organisations keeps.** -/
structure Ownership (d : Db D) : Prop where
  /-- Who has inserted an open placement holds its organisation. -/
  held : ∀ t (i : String × Int) (r : Filed D i.1 i.2), d.store.Fresh t (placementKey i) →
    d.view t (placementKey i) = some r → r.1.effectiveTo = none →
      d.store.Holds t (adOrgKey r.1.adOrgId)
  owned : Owned d.store.committed
  ownedView : ∀ t, Owned (d.view t)

theorem Owned.congr {rows rows' : Rows D} (h : Owned rows)
    (hp : ∀ i, rows' (placementKey i) = rows (placementKey i))
    (ho : ∀ org, rows' (adOrgKey org) = rows (adOrgKey org)) : Owned rows' := by
  intro i org
  rw [hp i, ho org]
  exact h i org

namespace Ownership

theorem empty : Ownership (.empty : Db D) where
  held t _ _ h := absurd h.1 (Store.clean_ofRows _ t _)
  owned _ _ _ hx := nomatch hx
  ownedView _ _ _ _ hx := nomatch hx

/-- A row of another table, or the row a session sees. -/
theorem put_same (h : Ownership d) {k : Key} {v : Option (Row D k)}
    (hf : d.store.free t k = true) (hk : ∀ i, placementKey i ≠ k)
    (hv : ∀ org, k = adOrgKey org → d.view t k = v) : Ownership (d.put t ⟨k, v⟩) where
  held u i r hu hr hopen := by
    have hfresh : d.store.Fresh u (placementKey i) := by
      refine ⟨?_, hu.2⟩
      rcases Store.holds_put_iff.1 hu.1 with ⟨heq, -⟩ | ⟨-, hh⟩
      · exact absurd heq (hk i)
      · exact hh
    have hheld := h.held u i r hfresh ((Store.view_put_of_ne (hk i)).symm.trans hr) hopen
    refine Store.holds_put_iff.2 ?_
    by_cases hko : adOrgKey r.1.adOrgId = k
    · subst hko
      exact .inl ⟨rfl, Store.free_iff.1 hf u hheld⟩
    · exact .inr ⟨hko, hheld⟩
  owned := h.owned
  ownedView u := by
    refine (h.ownedView u).congr (fun i => Store.view_put_of_ne (hk i)) fun org => ?_
    by_cases hu : u = t
    · subst hu
      by_cases hko : adOrgKey org = k
      · subst hko
        exact (Store.view_put_self).trans (hv org rfl).symm
      · exact Store.view_put_of_ne hko
    · exact (Concurrency.Database.Does.put (x := ⟨k, v⟩) hf).view_other hu

/-- A placement, whose organisation is held where it is open and new. -/
theorem put_placement (h : Ownership d) {i : String × Int} {r : Filed D i.1 i.2}
    (hf : d.store.free t (placementKey i) = true)
    (howner : r.1.effectiveTo = none → d.store.Holds t (adOrgKey r.1.adOrgId) ∧
      ∃ o : AdOrg, d.view t (adOrgKey r.1.adOrgId) = some o ∧ o.owns r.1.adClientId = true) :
    Ownership (d.put t ⟨placementKey i, some (show Row D (placementKey i) from r)⟩) where
  held u j b hu hb hopen := by
    refine Store.holds_put_iff.2 (.inr ⟨nofun, ?_⟩)
    rcases Store.holds_put_iff.1 hu.1 with ⟨heq, rfl⟩ | ⟨hne, hh⟩
    · obtain rfl := placementKey_injective heq
      obtain rfl := Option.some.inj (Store.view_put_self.symm.trans hb)
      exact (howner hopen).1
    · exact h.held u j b ⟨hh, hu.2⟩ ((Store.view_put_of_ne hne).symm.trans hb) hopen
  owned := h.owned
  ownedView u j org b hb hopen horg := by
    have hsame : (d.put t ⟨placementKey i, some (show Row D (placementKey i) from r)⟩).view u
        (adOrgKey org) = d.view u (adOrgKey org) := Store.view_put_of_ne nofun
    rw [hsame]
    by_cases hu : u = t
    · subst hu
      by_cases hj : j = i
      · subst hj
        obtain rfl := Option.some.inj (Store.view_put_self.symm.trans hb)
        subst horg
        exact (howner hopen).2
      · have hne : placementKey j ≠ placementKey i := fun heq => hj (placementKey_injective heq)
        exact h.ownedView u j org b ((Store.view_put_of_ne hne).symm.trans hb) hopen horg
    · refine h.ownedView u j org b (Eq.trans ?_ hb) hopen horg
      exact ((Concurrency.Database.Does.put (x := ⟨placementKey i, _⟩) hf).view_other hu).symm

/-- An organisation, which still suits the open placements that are seen. -/
theorem put_adOrg (h : Ownership d) {org : Int} {row : Option (Row D (adOrgKey org))}
    (hf : d.store.free t (adOrgKey org) = true)
    (hrow : ∀ i, OwnedBy i org (d.view t (placementKey i)) row) :
    Ownership (d.put t ⟨adOrgKey org, row⟩) where
  held u i r hu hr hopen := by
    have hne : placementKey i ≠ adOrgKey org := nofun
    have hfresh : d.store.Fresh u (placementKey i) :=
      ⟨(Store.holds_put_iff.1 hu.1).elim (fun h => absurd h.1 hne) And.right, hu.2⟩
    have hheld := h.held u i r hfresh ((Store.view_put_of_ne hne).symm.trans hr) hopen
    refine Store.holds_put_iff.2 ?_
    by_cases hko : adOrgKey r.1.adOrgId = adOrgKey org
    · rw [hko] at hheld
      exact .inl ⟨hko, Store.free_iff.1 hf u hheld⟩
    · exact .inr ⟨hko, hheld⟩
  owned := h.owned
  ownedView u i org' := by
    have hpl : (d.put t ⟨adOrgKey org, row⟩).view u (placementKey i) = d.view u (placementKey i) :=
      Store.view_put_of_ne nofun
    rw [hpl]
    by_cases ho : adOrgKey org' = adOrgKey org
    · obtain rfl : org' = org := NativeKey.adOrg.inj (Key.native.inj ho)
      by_cases hu : u = t
      · subst hu
        rw [show (d.put u ⟨adOrgKey org', row⟩).view u (adOrgKey org') = row from
          Store.view_put_self]
        exact hrow i
      · rw [(Concurrency.Database.Does.put (x := ⟨adOrgKey org', row⟩) hf).view_other hu]
        exact h.ownedView u i org'
    · rw [show (d.put t ⟨adOrgKey org, row⟩).view u (adOrgKey org') = d.view u (adOrgKey org') from
        Store.view_put_of_ne ho]
      exact h.ownedView u i org'

theorem enter (h : Ownership d) {l : Int} : Ownership (d.enter t l) := ⟨h.held, h.owned, h.ownedView⟩

theorem rollback (h : Ownership d) : Ownership (d.rollback t) where
  held u i r hu hr hopen := by
    obtain ⟨hut, hh⟩ := Store.holds_rollback_iff.1 hu.1
    exact Store.holds_rollback_iff.2 ⟨hut,
      h.held u i r ⟨hh, hu.2⟩ ((Store.view_rollback hut).symm.trans hr) hopen⟩
  owned := h.owned
  ownedView u i org := Store.view_rollback_pair (h.ownedView u i org) (h.owned i org)

theorem close (h : Ownership d) : Ownership (d.close t) :=
  have hr := h.rollback (t := t)
  ⟨hr.held, hr.owned, hr.ownedView⟩

/-- **No commit takes an open placement's organisation away.** -/
theorem commit (h : Ownership d) (hd : History d) : Ownership (d.commit t) where
  held u i r hu hr hopen := by
    obtain ⟨hut, hh⟩ := Store.holds_commit_iff.1 hu.1
    refine Store.holds_commit_iff.2 ⟨hut, h.held u i r ⟨hh, ?_⟩
      ((Store.view_commit_of_holds hut hh).symm.trans hr) hopen⟩
    rw [← Store.view_of_not_holds fun ht => hut (Store.holds_unique hh ht)]
    exact hu.2
  owned := h.ownedView t
  ownedView u i org := by
    -- who holds the placement of an organisation that another one holds has not inserted it
    have hmixed : ∀ s s', s ≠ s' → d.store.Holds s (placementKey i) →
        d.store.Holds s' (adOrgKey org) →
        OwnedBy i org (d.view s (placementKey i)) (d.view s' (adOrgKey org)) := by
      intro s s' hs hi ho r hr hopen horg
      have hs'i : d.view s' (placementKey i) = d.store.committed (placementKey i) :=
        Store.view_of_not_holds fun hh => hs (Store.holds_unique hi hh)
      cases hc : d.store.committed (placementKey i) with
      | none =>
        have hheld := h.held s i r ⟨hi, hc⟩ hr hopen
        rw [horg] at hheld
        exact absurd (Store.holds_unique hheld ho) hs
      | some r₀ =>
        obtain ⟨a, ha, hva⟩ := hd.refining.view_of_holds hi
        obtain rfl := Option.some.inj (hva.symm.trans hr)
        have hcl : Closes i a r₀ := hd.refining.refines s i a r₀ ha hc
        rw [← hcl.eq_of_open hopen] at hc
        exact h.ownedView s' i org a (hs'i.trans hc) hopen horg
    exact Store.view_commit_pair (P := OwnedBy i org) (h.ownedView u i org) (h.ownedView t i org)
      (hmixed u t) fun hut ho hi => hmixed t u (Ne.symm hut) hi ho

end Ownership

/-! ### Documents and their provenance -/

/-- A record of a governed table. -/
abbrev RecordId : Type := GovernedTable × Int

abbrev provenanceKey (x : RecordId) : Key := .provenance x.1 x.2

abbrev documentKey (x : RecordId) : Key := .native (.document x.1 x.2)

theorem provenanceKey_injective : Function.Injective provenanceKey := by
  rintro ⟨table, record⟩ ⟨table', record'⟩ h
  obtain ⟨rfl, rfl⟩ := Key.provenance.inj h
  rfl

/-- The version that a provenance names is there, and of the same organisation. -/
def NamedBy (x : RecordId) (i : String × Int) (p : Option (Row D (provenanceKey x)))
    (y : Option (Row D (placementKey i))) : Prop :=
  ∀ p₀ : Traced x.1 x.2, p = some p₀ → (p₀.1.placementId, p₀.1.placementVersion) = i →
    ∃ r : Filed D i.1 i.2, y = some r ∧ r.1.adClientId = p₀.1.adClientId ∧
      r.1.adOrgId = p₀.1.adOrgId

/-- **Every provenance names a version of its organisation.** -/
def Named (rows : Rows D) : Prop :=
  ∀ x i, NamedBy x i (rows (provenanceKey x)) (rows (placementKey i))

/-- Of one client, the document and its provenance are of one organisation. -/
def AgreesOn (x : RecordId) (o : Option (Row D (documentKey x)))
    (p : Option (Row D (provenanceKey x))) : Prop :=
  ∀ (o₀ : Document) (p₀ : Traced x.1 x.2), o = some o₀ → p = some p₀ →
    p₀.1.adClientId = o₀.adClientId → p₀.1.adOrgId = o₀.adOrgId

/-- **Every document is of the organisation that its provenance has.** -/
def Agrees (rows : Rows D) : Prop :=
  ∀ x, AgreesOn x (rows (documentKey x)) (rows (provenanceKey x))

/-- **What every history of the provenance keeps.** -/
structure Provenances (d : Db D) : Prop where
  /-- A provenance is never changed. -/
  refining : d.store.Refining (provenanceKey : RecordId → Key) fun _ => Eq
  /-- Who has inserted a provenance holds its document. -/
  documents : ∀ t x, d.store.Holds t (provenanceKey x) → d.store.Holds t (documentKey x)
  named : Named d.store.committed
  namedView : ∀ t, Named (d.view t)
  agrees : Agrees d.store.committed

namespace Provenances

theorem empty : Provenances (.empty : Db D) where
  refining := .ofRows
  documents t _ h := absurd h (Store.clean_ofRows _ t _)
  named _ _ _ hp := nomatch hp
  namedView _ _ _ _ hp := nomatch hp
  agrees _ _ _ ho := nomatch ho

theorem documents_put (h : Provenances d) {k : Key} {v : Option (Row D k)}
    (hf : d.store.free t k = true) (hk : ∀ x, provenanceKey x = k → d.store.Holds t (documentKey x))
    (u : Session) (x : RecordId) (hu : (d.put t ⟨k, v⟩).store.Holds u (provenanceKey x)) :
    (d.put t ⟨k, v⟩).store.Holds u (documentKey x) := by
  have hdoc : d.store.Holds u (documentKey x) := by
    rcases Store.holds_put_iff.1 hu with ⟨heq, rfl⟩ | ⟨-, hh⟩
    · exact hk x heq
    · exact h.documents u x hh
  refine Store.holds_put_iff.2 ?_
  by_cases hkd : documentKey x = k
  · subst hkd
    exact .inl ⟨rfl, Store.free_iff.1 hf u hdoc⟩
  · exact .inr ⟨hkd, hdoc⟩

/-- A row of iDempiere. -/
theorem put_native (h : Provenances d) {k : NativeKey} {v : Option (NativeRow k)}
    (hf : d.store.free t (.native k) = true) : Provenances (d.put t ⟨.native k, v⟩) where
  refining := h.refining.put_other nofun
  documents := h.documents_put hf nofun
  named := h.named
  namedView u x i := by
    rw [show (d.put t ⟨.native k, v⟩).view u (provenanceKey x) = d.view u (provenanceKey x) from
      Store.view_put_of_ne nofun, show (d.put t ⟨.native k, v⟩).view u (placementKey i) =
        d.view u (placementKey i) from Store.view_put_of_ne nofun]
    exact h.namedView u x i
  agrees := h.agrees

/-- A placement, or another version of one that says the same. -/
theorem put_placement (h : Provenances d) {i : String × Int} {r : Filed D i.1 i.2}
    (hf : d.store.free t (placementKey i) = true)
    (hcloses : ∀ r₀ : Filed D i.1 i.2, d.view t (placementKey i) = some r₀ → Closes i r r₀) :
    Provenances (d.put t ⟨placementKey i, some (show Row D (placementKey i) from r)⟩) where
  refining := h.refining.put_other nofun
  documents := h.documents_put hf nofun
  named := h.named
  namedView u x j p hp hj := by
    have hne : provenanceKey x ≠ placementKey i := nofun
    have hp' : d.view u (provenanceKey x) = some p := (Store.view_put_of_ne hne).symm.trans hp
    obtain ⟨b, hb, hc, ho⟩ := h.namedView u x j p hp' hj
    by_cases hu : u = t
    · subst hu
      by_cases hji : j = i
      · subst hji
        have hcl := hcloses b hb
        exact ⟨r, Store.view_put_self, by rw [hcl.toNativePlacement, hc],
          by rw [hcl.toNativePlacement, ho]⟩
      · exact ⟨b, (Store.view_put_of_ne fun heq => hji (placementKey_injective heq)).trans hb, hc, ho⟩
    · exact ⟨b, ((Concurrency.Database.Does.put (x := ⟨placementKey i, _⟩) hf).view_other hu).trans hb, hc, ho⟩
  agrees := h.agrees

/-- A provenance, by who holds its document. -/
theorem put_provenance (h : Provenances d) {x : RecordId} {p : Traced x.1 x.2}
    (hf : d.store.free t (provenanceKey x) = true)
    (hnew : d.view t (provenanceKey x) = none) (hdoc : d.store.Holds t (documentKey x))
    (hnamed : NamedBy x (p.1.placementId, p.1.placementVersion)
      (some (show Row D (provenanceKey x) from p))
      (d.view t (placementKey (p.1.placementId, p.1.placementVersion)))) :
    Provenances (d.put t ⟨provenanceKey x, some (show Row D (provenanceKey x) from p)⟩) where
  refining := h.refining.put provenanceKey_injective (fun _ _ _ _ => Eq.trans)
    fun r₀ hr₀ => nomatch hnew.symm.trans hr₀
  documents := h.documents_put hf fun y hy => provenanceKey_injective hy ▸ hdoc
  named := h.named
  namedView u y i q hq hi := by
    rw [show (d.put t ⟨provenanceKey x, some (show Row D (provenanceKey x) from p)⟩).view u
      (placementKey i) = d.view u (placementKey i) from Store.view_put_of_ne nofun]
    by_cases hu : u = t
    · subst hu
      by_cases hyx : y = x
      · subst hyx
        obtain rfl := Option.some.inj (Store.view_put_self.symm.trans hq)
        subst hi
        exact hnamed p rfl rfl
      · have hne : provenanceKey y ≠ provenanceKey x := fun heq => hyx (provenanceKey_injective heq)
        exact h.namedView u y i q ((Store.view_put_of_ne hne).symm.trans hq) hi
    · refine h.namedView u y i q (Eq.trans ?_ hq) hi
      exact ((Concurrency.Database.Does.put (x := ⟨provenanceKey x, _⟩) hf).view_other hu).symm
  agrees := h.agrees

theorem enter (h : Provenances d) {l : Int} : Provenances (d.enter t l) :=
  ⟨h.refining, h.documents, h.named, h.namedView, h.agrees⟩

theorem rollback (h : Provenances d) : Provenances (d.rollback t) where
  refining := h.refining.rollback
  documents u x hu := by
    obtain ⟨hut, hh⟩ := Store.holds_rollback_iff.1 hu
    exact Store.holds_rollback_iff.2 ⟨hut, h.documents u x hh⟩
  named := h.named
  namedView u x i := Store.view_rollback_pair (h.namedView u x i) (h.named x i)
  agrees := h.agrees

theorem close (h : Provenances d) : Provenances (d.close t) :=
  have hr := h.rollback (t := t)
  ⟨hr.refining, hr.documents, hr.named, hr.namedView, hr.agrees⟩

/-- **A commit** of a session that sees documents of the right organisation. -/
theorem commit (h : Provenances d) (hd : History d) (ha : Agrees (d.view t)) :
    Provenances (d.commit t) where
  refining := h.refining.commit
  documents u x hu := by
    obtain ⟨hut, hh⟩ := Store.holds_commit_iff.1 hu
    exact Store.holds_commit_iff.2 ⟨hut, h.documents u x hh⟩
  named := h.namedView t
  namedView u x i := by
    -- the placement that one transaction names is committed, where another one holds it
    have hmixed : ∀ s s', s ≠ s' → d.store.Holds s (provenanceKey x) →
        d.store.Holds s' (placementKey i) →
        NamedBy x i (d.view s (provenanceKey x)) (d.view s' (placementKey i)) := by
      intro s s' hs hx hi p hp hpi
      obtain ⟨r₀, hr₀, hc, ho⟩ := h.namedView s x i p hp hpi
      have hcom : d.store.committed (placementKey i) = some r₀ :=
        (Store.view_of_not_holds fun hh => hs (Store.holds_unique hh hi)).symm.trans hr₀
      obtain ⟨r, hr, hcl⟩ := hd.refining.view_of_committed (t := s') Closes.refl hcom
      exact ⟨r, hr, by rw [Closes.toNativePlacement hcl, hc],
        by rw [Closes.toNativePlacement hcl, ho]⟩
    exact Store.view_commit_pair (P := NamedBy x i) (h.namedView u x i) (h.namedView t x i)
      (hmixed u t) fun hut hi hx => hmixed t u (Ne.symm hut) hx hi
  agrees := ha

/-- Who has no open changes sees what is committed. -/
theorem agrees_clean (h : Provenances d) (hc : d.store.Clean t) : Agrees (d.view t) := by
  have hview : d.view t = d.store.committed := funext hc.view
  rw [hview]
  exact h.agrees

/-- What a session sees of a document stays right when another one commits. -/
theorem agreesOn_commit (h : Provenances d) {x : RecordId}
    (ht : AgreesOn x (d.view t (documentKey x)) (d.view t (provenanceKey x)))
    (hu : AgreesOn x (d.view u (documentKey x)) (d.view u (provenanceKey x))) :
    AgreesOn x ((d.commit u).view t (documentKey x)) ((d.commit u).view t (provenanceKey x)) := by
  refine Store.view_commit_pair (P := AgreesOn x) ht hu ?_ ?_
  · intro htu hdoc hprov
    exact absurd (Store.holds_unique hdoc (h.documents u x hprov)) htu
  · intro htu hprov hdoc
    exact absurd (Store.holds_unique (h.documents t x hprov) hdoc) htu

end Provenances

end PlacementStore
end NativeFinance
end BaobabErp
