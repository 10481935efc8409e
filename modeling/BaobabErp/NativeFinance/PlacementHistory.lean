/-
# What every history of the placements keeps

A placement is inserted once and then only closed (`Closes`), so the placements
are a register of rows that are refined (`Store.Refining`).  Any two of them
coexist (`Coexist`): two of one placement say the same but for their windows, and
the windows of one native organisation have no instant in common.

What keeps two transactions from inserting rows that do not coexist is, for one
placement, its primary key, and for one organisation, the advisory lock that a
row is inserted under (`History.locked`): a row that is inserted and not committed
has its lock taken.
-/

import BaobabErp.NativeFinance.PlacementStore

namespace BaobabErp
namespace NativeFinance
namespace PlacementStore

open Concurrency
open Temporal (Window)

variable {D : FinanceBaselines.Deployment} {d : Db D} {t u : Session}

/-! ### Two rows -/

/-- The key of a version of a placement. -/
def placementKey (i : String × Int) : Key := .placement i.1 i.2

theorem placementKey_injective : Function.Injective placementKey := by
  rintro ⟨id, v⟩ ⟨id', v'⟩ h
  obtain ⟨rfl, rfl⟩ := Key.placement.inj h
  rfl

theorem placementKey_version_injective (id : String) :
    Function.Injective fun v => placementKey (id, v) := by
  intro v w h
  exact (Prod.mk.inj (placementKey_injective h)).2

theorem window_nonempty {r : PlacementRow} (h : check D r = true) (e : Int)
    (he : r.effectiveTo = some e) : r.effectiveFrom < e :=
  Window.before_iff.1 (Bool.and_eq_true_iff.1 h).2 e he

/-- When a placement is in force. -/
def window {id : String} {v : Int} (r : Filed D id v) : Window Int :=
  ⟨r.1.effectiveFrom, r.1.effectiveTo, window_nonempty r.2.1⟩

/-- `a` is `b`, or what closing `b` leaves. -/
def Closes (i : String × Int) (a b : Filed D i.1 i.2) : Prop :=
  a = b ∨ b.1.effectiveTo = none ∧ a.1.effectiveTo ≠ none ∧ a.1.withoutEnd = b.1.withoutEnd

namespace Closes

variable {i : String × Int} {a b c : Filed D i.1 i.2}

theorem refl (i : String × Int) (a : Filed D i.1 i.2) : Closes i a a := .inl rfl

theorem trans (i : String × Int) (a b c : Filed D i.1 i.2) (h : Closes i a b)
    (h' : Closes i b c) : Closes i a c := by
  rcases h with rfl | ⟨hb, ha, heq⟩
  · exact h'
  · rcases h' with rfl | ⟨-, hb', -⟩
    · exact .inr ⟨hb, ha, heq⟩
    · exact absurd hb hb'

/-- Closing changes the end only. -/
theorem withoutEnd (h : Closes i a b) : a.1.withoutEnd = b.1.withoutEnd := by
  rcases h with rfl | h
  · rfl
  · exact h.2.2

theorem toNativePlacement (h : Closes i a b) : a.1.toNativePlacement = b.1.toNativePlacement := by
  have heq := congrArg (fun r : PlacementRow => r.toNativePlacement) h.withoutEnd
  exact heq

/-- An open placement has never been closed. -/
theorem eq_of_open (h : Closes i a b) (ha : a.1.effectiveTo = none) : a = b :=
  h.resolve_right fun hc => hc.2.1 ha

/-- A closed placement stays as it is. -/
theorem eq_of_closed (h : Closes i a b) (hb : b.1.effectiveTo ≠ none) : a = b :=
  h.resolve_right fun hc => hb hc.1

/-- What does not overlap an open placement does not overlap it closed. -/
theorem overlaps {r : PlacementRow} (h : Closes i a b) (hb : b.1.overlaps r = false) :
    a.1.overlaps r = false := by
  rcases h with rfl | ⟨hopen, -, heq⟩
  · exact hb
  · have hs := congrArg (fun r : PlacementRow => r.effectiveFrom) heq
    have hs : a.1.effectiveFrom = b.1.effectiveFrom := hs
    unfold PlacementRow.overlaps at hb ⊢
    rw [hopen, Bool.and_eq_false_iff] at hb
    rw [hs, hb.resolve_left nofun, Bool.and_false]

theorem within (h : Closes i a b) : (window a).Within (window b) := by
  rcases h with rfl | ⟨hb, -, heq⟩
  · exact .refl
  · have hs := congrArg (fun r : PlacementRow => r.effectiveFrom) heq
    exact Window.within_of_open hs hb

end Closes

/-- **Two placements that can be there together.** -/
structure Coexist (i j : String × Int) (a : Filed D i.1 i.2) (b : Filed D j.1 j.2) : Prop where
  identity : i.1 = j.1 → a.1.identity = b.1.identity
  apart : a.1.adClientId = b.1.adClientId → a.1.adOrgId = b.1.adOrgId →
    (window a).Apart (window b)

namespace Coexist

variable {i j : String × Int} {a a' : Filed D i.1 i.2} {b b' : Filed D j.1 j.2}

theorem symm (h : Coexist i j a b) : Coexist j i b a :=
  ⟨fun hij => (h.identity hij.symm).symm, fun hc ho => (h.apart hc.symm ho.symm).symm⟩

theorem closes (h : Coexist i j a b) (ha : Closes i a' a) (hb : Closes j b' b) :
    Coexist i j a' b' := by
  refine ⟨fun hij => ?_, fun hc ho => ?_⟩
  · unfold NativePlacement.identity
    rw [ha.toNativePlacement, hb.toNativePlacement]
    exact h.identity hij
  · rw [ha.toNativePlacement, hb.toNativePlacement] at hc ho
    exact (h.apart hc ho).within ha.within hb.within

end Coexist

/-- The placements that a session reads are those it sees. -/
theorem mem_placements {p : PlacementRow} (hd : d.Indexed) :
    p ∈ placements d t ↔ ∃ (i : String × Int) (r : Filed D i.1 i.2),
      d.view t (placementKey i) = some r ∧ r.1 = p := by
  unfold placements
  rw [List.mem_filterMap]
  constructor
  · rintro ⟨k, -, hk⟩
    split at hk
    · rename_i id v
      obtain ⟨r, hr, hrp⟩ := Option.map_eq_some_iff.1 hk
      exact ⟨(id, v), r, hr, hrp⟩
    · cases hk
  · rintro ⟨⟨id, v⟩, r, hr, rfl⟩
    refine ⟨.placement id v, hd.view (t := t) (Option.isSome_iff_exists.2 ⟨_, hr⟩), ?_⟩
    exact Option.map_eq_some_iff.2 ⟨r, hr, rfl⟩

/-! ### The history -/

/-- **What every history of the placements keeps.** -/
structure History (d : Db D) : Prop where
  indexed : d.Indexed
  nodup : d.keys.Nodup
  refining : d.store.Refining placementKey Closes
  /-- A placement that is not committed yet has the lock of its organisation. -/
  locked : ∀ t (i : String × Int) (r : Filed D i.1 i.2), d.store.Fresh t (placementKey i) →
    d.view t (placementKey i) = some r →
      d.transaction (lockOf D r.1.adClientId r.1.adOrgId) = some t
  dense : ∀ id, ∃ n, Store.Dense d.store.committed (fun v => placementKey (id, v)) n
  denseView : ∀ id t, ∃ n, Store.Dense (d.view t) (fun v => placementKey (id, v)) n
  coexist : Store.Compatible d.store.committed placementKey Coexist
  coexistView : ∀ t, Store.Compatible (d.view t) placementKey Coexist

namespace History

theorem empty : History (.empty : Db D) where
  indexed := .empty
  nodup := .nil
  refining := .ofRows
  locked t i r h := absurd h.1 (Store.clean_ofRows _ t _)
  dense id := ⟨0, le_refl _, fun v => by
    refine iff_of_false Bool.false_ne_true ?_
    omega⟩
  denseView id t := ⟨0, le_refl _, fun v => by
    refine iff_of_false Bool.false_ne_true ?_
    omega⟩
  coexist _ _ _ _ _ ha := nomatch ha
  coexistView _ _ _ _ _ _ ha := nomatch ha

variable (h : History d)

include h

/-- A lock that is taken. -/
theorem enter {l : Int} (hf : d.lockFree t l = true) : History (d.enter t l) where
  indexed := h.indexed
  nodup := h.nodup
  refining := h.refining
  locked u i r hu hr := by
    have hl : d.transaction _ = some u := h.locked u i r hu hr
    by_cases hut : u = t
    · subst hut
      unfold Concurrency.Database.enter
      dsimp only
      by_cases heq : lockOf D r.1.adClientId r.1.adOrgId = l
      · rw [heq, Function.update_self]
      · rw [Function.update_of_ne heq, hl]
    · exact (Concurrency.Database.Does.enter hf).lock_other hut hl
  dense := h.dense
  denseView := h.denseView
  coexist := h.coexist
  coexistView := h.coexistView

/-- A row of another table. -/
theorem put_other {k : Key} {v : Option (Row D k)} (hk : ∀ i, placementKey i ≠ k) :
    History (d.put t ⟨k, v⟩) := by
  have hview : ∀ u i, (d.put t ⟨k, v⟩).view u (placementKey i) = d.view u (placementKey i) :=
    fun u i => Store.view_put_of_ne (hk i)
  exact
    { indexed := h.indexed.put
      nodup := Concurrency.Database.nodup_put h.nodup
      refining := h.refining.put_other hk
      locked := fun u i r hu hr => by
        rcases Store.holds_put_iff.1 hu.1 with ⟨heq, -⟩ | ⟨-, hh⟩
        · exact absurd heq (hk i)
        · exact h.locked u i r ⟨hh, hu.2⟩ ((hview u i).symm.trans hr)
      dense := h.dense
      denseView := fun id u => (h.denseView id u).imp fun n hn => hn.congr fun w => hview u (id, w)
      coexist := h.coexist
      coexistView := fun u => (h.coexistView u).congr fun i => hview u i }

/-- **One more placement, or another version of one**: it coexists with the ones its
session sees. -/
theorem put {i : String × Int} {r : Filed D i.1 i.2}
    (hf : d.store.free t (placementKey i) = true)
    (hcloses : ∀ r₀ : Filed D i.1 i.2, d.view t (placementKey i) = some r₀ → Closes i r r₀)
    (hlock : d.store.committed (placementKey i) = none →
      d.transaction (lockOf D r.1.adClientId r.1.adOrgId) = some t)
    (hprev : 1 < i.2 → (d.view t (placementKey (i.1, i.2 - 1))).isSome = true)
    (hcoexist : ∀ (j : String × Int) (b : Filed D j.1 j.2), j ≠ i → d.view t (placementKey j) = some b →
      Coexist i j r b) :
    History (d.put t ⟨placementKey i, some (show Row D (placementKey i) from r)⟩) := by
  obtain ⟨id, v⟩ := i
  have hother : ∀ u, u ≠ t → ∀ k,
      (d.put t ⟨placementKey (id, v), some (show Row D (placementKey (id, v)) from r)⟩).view u k =
        d.view u k :=
    fun u hu k => (Concurrency.Database.Does.put (x := ⟨placementKey (id, v), _⟩) hf).view_other hu
  refine
    { indexed := h.indexed.put
      nodup := Concurrency.Database.nodup_put h.nodup
      refining := h.refining.put placementKey_injective Closes.trans hcloses
      locked := fun u j b hu hb => ?_
      dense := h.dense
      denseView := fun id' u => ?_
      coexist := h.coexist
      coexistView := fun u => ?_ }
  · rcases Store.holds_put_iff.1 hu.1 with ⟨heq, rfl⟩ | ⟨hne, hh⟩
    · obtain rfl := placementKey_injective heq
      obtain rfl := Option.some.inj (Store.view_put_self.symm.trans hb)
      exact hlock hu.2
    · exact h.locked u j b ⟨hh, hu.2⟩ ((Store.view_put_of_ne hne).symm.trans hb)
  · by_cases hid : id' = id
    · subst hid
      exact Store.Refining.dense_put (h.denseView id') (placementKey_version_injective id')
        (by rw [← r.2.2.2]; exact r.1.version_pos) hprev hf u
    · refine (h.denseView id' u).imp fun n hn => hn.congr fun w => Store.view_put_of_ne ?_
      intro heq
      exact hid (Prod.mk.inj (placementKey_injective heq)).1
  · by_cases hu : u = t
    · subst hu
      rw [Concurrency.Database.view_put]
      exact (h.coexistView u).update placementKey_injective fun j b hj hb =>
        ⟨hcoexist j b hj hb, (hcoexist j b hj hb).symm⟩
    · exact (h.coexistView u).congr fun j => hother u hu _

theorem rollback : History (d.rollback t) where
  indexed := h.indexed.rollback
  nodup := h.nodup
  refining := h.refining.rollback
  locked u i r hu hr := by
    obtain ⟨hut, hh⟩ := Store.holds_rollback_iff.1 hu.1
    exact Concurrency.Database.lock_drop_other hut
      (h.locked u i r ⟨hh, hu.2⟩ ((Store.view_rollback hut).symm.trans hr))
  dense := h.dense
  denseView id u := Store.Refining.dense_rollback (h.dense id) (h.denseView id) u
  coexist := h.coexist
  coexistView u := h.coexist.rollback h.coexistView u

theorem close : History (d.close t) where
  __ := h.rollback (t := t)

theorem commit : History (d.commit t) where
  indexed := h.indexed.commit
  nodup := h.nodup
  refining := h.refining.commit
  locked u i r hu hr := by
    obtain ⟨hut, hh⟩ := Store.holds_commit_iff.1 hu.1
    refine Concurrency.Database.lock_drop_other hut (h.locked u i r ⟨hh, ?_⟩ ?_)
    · rw [← Store.view_of_not_holds fun ht => hut (Store.holds_unique hh ht)]
      exact hu.2
    · exact (Store.view_commit_of_holds hut hh).symm.trans hr
  dense id := h.denseView id t
  denseView id u := h.refining.dense_commit Closes.refl (h.dense id) (h.denseView id) u
  coexist := h.coexistView t
  coexistView := by
    refine Store.Compatible.commit h.refining Closes.refl h.coexistView
      (fun i j a a' b b' hab ha hb => hab.closes ha hb) ?_
    intro u t i j a b hut hij ha hb hca hcb
    have hi : d.store.Fresh u (placementKey i) := ⟨⟨_, ha⟩, hca⟩
    have hj : d.store.Fresh t (placementKey j) := ⟨⟨_, hb⟩, hcb⟩
    refine ⟨fun hid => ?_, fun hc ho => ?_⟩
    · -- of one placement, one transaction inserts at a time
      obtain ⟨id, v⟩ := i
      obtain ⟨id', w⟩ := j
      obtain rfl : id = id' := hid
      exact absurd (h.refining.fresh_unique (h.dense id) (h.denseView id) hi hj) hut
    · -- of one organisation, one transaction has the lock
      have hlu := h.locked u i a hi (Store.view_of_pending ha)
      have hlt := h.locked t j b hj (Store.view_of_pending hb)
      rw [hc, ho, hlt] at hlu
      exact absurd (Option.some.inj hlu).symm hut

end History

end PlacementStore
end NativeFinance
end BaobabErp
