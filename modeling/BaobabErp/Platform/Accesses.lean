/-
# What a claim is shown

A statement shows the claim the row at its key, a lookup or an update in the
engine the records it reaches; nothing else does (`exec_accesses`).
-/

import BaobabErp.Platform.Frames

namespace BaobabErp

open Concurrency World

/-- The engine records a call shows. -/
def Eff.shows (D : Deployment) (q : EngineRecord) : Eff → Bool
  | .query σ table value => q.fields.lookup == some (table, value) && D.sees σ q
  | .getRecord σ table id => reached D σ id table q
  | .updateRecord σ id fields => reached D σ id fields.table q
  | _ => false

/-- The row at the key of a statement, or an engine record the call reaches. -/
structure Shown (D : Deployment) (w : Worker) (e : Eff) (s : World) (a : Access) : Prop where
  reader : a.reader = s.current w
  what : (∃ k d, e.key? = some k ∧ s.cell w k = some d ∧ a.creator = d.creator ∧ a.what = .row k) ∨
    ∃ q ∈ s.engine, e.shows D q = true ∧ a.creator = q.creator ∧ a.what = .record q

section

variable {D : Deployment} {w : Worker} {c : Choice} {s t : World}

theorem seeRow_accesses {k : Key} {a : Access} (h : a ∈ (s.seeRow w k).accesses) :
    a ∈ s.accesses ∨ a.reader = s.current w ∧
      ∃ d, s.cell w k = some d ∧ a.creator = d.creator ∧ a.what = .row k := by
  unfold World.seeRow at h
  split at h
  · rename_i d hd
    rcases List.mem_cons.1 h with rfl | h
    · exact .inr ⟨rfl, d, hd, rfl, rfl⟩
    · exact .inl h
  · exact .inl h

theorem seeRecords_accesses {rs : List EngineRecord} {a : Access}
    (h : a ∈ (s.seeRecords w rs).accesses) :
    a ∈ s.accesses ∨ a.reader = s.current w ∧ ∃ q ∈ rs, a.creator = q.creator ∧ a.what = .record q := by
  rcases List.mem_append.1 h with h | h
  · obtain ⟨q, hq, rfl⟩ := List.mem_map.1 h
    exact .inr ⟨rfl, q, hq, rfl, rfl⟩
  · exact .inl h

theorem writeIndexed_accesses {k : Key} {row : Row k} :
    (s.writeIndexed w k row).accesses = s.accesses := by
  have hfold : ∀ (entries : List Index) (u : World),
      (entries.foldl (fun s e => s.write w (.index e) ()) u).accesses = u.accesses := by
    intro entries
    induction entries with
    | nil => exact fun _ => rfl
    | cons e rest ih => exact fun u => ih _
  exact hfold _ _

theorem insertRow_accesses {k : Key} {row : Row k} :
    (s.insertRow w k row).2.accesses = s.accesses := by
  unfold World.insertRow
  split_ifs
  · rfl
  · rfl
  · rfl
  · exact writeIndexed_accesses

theorem updateRow_accesses {k : Key} {row : Row k} {a : Access}
    (h : a ∈ (s.updateRow w k row).2.accesses) :
    a ∈ s.accesses ∨ a ∈ (s.seeRow w k).accesses := by
  unfold World.updateRow at h
  split_ifs at h
  · exact .inr h
  · exact .inl h

/-- **A call shows the row at its key, or the engine records it reaches.** -/
theorem exec_accesses {e : Eff} {r : Except Exc (Ans e)} (h : exec D w e c s = some (r, t)) :
    ∀ a ∈ t.accesses, a ∈ s.accesses ∨ Shown D w e s a := by
  have same : t.accesses = s.accesses → ∀ a ∈ t.accesses, a ∈ s.accesses ∨ Shown D w e s a :=
    fun he a ha => .inl (he ▸ ha)
  have row : ∀ k, e.key? = some k → ∀ a ∈ (s.seeRow w k).accesses,
      a ∈ s.accesses ∨ Shown D w e s a := fun k hk a ha => by
    rcases seeRow_accesses ha with ha | ⟨hr, d, hd⟩
    · exact .inl ha
    · exact .inr ⟨hr, .inl ⟨k, d, hk, hd⟩⟩
  have records : ∀ p : EngineRecord → Bool, (∀ q, p q = true → e.shows D q = true) →
      ∀ a ∈ (s.seeRecords w (s.engine.filter p)).accesses,
        a ∈ s.accesses ∨ Shown D w e s a := fun p hp a ha => by
    rcases seeRecords_accesses ha with ha | ⟨hr, q, hq, hc, hw⟩
    · exact .inl ha
    · obtain ⟨hq, hpq⟩ := List.mem_filter.1 hq
      exact .inr ⟨hr, .inr ⟨q, hq, hp q hpq, hc, hw⟩⟩
  have updated : ∀ k (v : Row k), e.key? = some k → ∀ a ∈ (s.updateRow w k v).2.accesses,
      a ∈ s.accesses ∨ Shown D w e s a := fun k v hk a ha =>
    (updateRow_accesses ha).elim .inl (row k hk a)
  cases e with
  | claim ty lease => exact same (exec_claim h).2.2.1
  | settle claim st =>
    rcases exec_settle h with ⟨-, rfl⟩ | ⟨-, rfl⟩ | ⟨cell, -, -, -, -, rfl⟩ <;> exact same rfl
  | select k =>
    rcases exec_select h with ⟨-, rfl⟩ | ⟨-, rfl⟩
    · exact same rfl
    · exact row k rfl
  | selectForUpdate k =>
    simp only [exec] at h
    split at h
    · obtain ⟨rfl, rfl⟩ := Prod.mk.inj (Option.some.inj h)
      exact same rfl
    · split_ifs at h
      split at h
      · obtain ⟨rfl, rfl⟩ := Prod.mk.inj (Option.some.inj h)
        exact same rfl
      · obtain ⟨rfl, rfl⟩ := Prod.mk.inj (Option.some.inj h)
        exact row k rfl
  | insert k v =>
    rcases exec_insert h with ⟨-, rfl⟩ | ⟨-, -, -, rfl, -, -⟩
    · exact same rfl
    · exact same writeIndexed_accesses
  | insertNew k v =>
    rcases exec_insertNew h with ⟨-, rfl⟩ | ⟨-, -, ⟨-, -, rfl⟩ | ⟨-, -, rfl⟩⟩ <;> exact same rfl
  | update k set =>
    simp only [exec] at h
    split at h
    · obtain ⟨rfl, rfl⟩ := Prod.mk.inj (Option.some.inj h)
      exact same rfl
    · split_ifs at h
      split at h
      · obtain ⟨rfl, rfl⟩ := Prod.mk.inj (Option.some.inj h)
        exact same rfl
      · rename_i cell _
        have ht : t = (s.updateRow w k (set cell.row)).2 := by
          split at h <;> rename_i hu <;>
            rw [hu, ← (Prod.mk.inj (Option.some.inj h)).2]
        rw [ht]
        exact updated k _ rfl
  | upsert k v set =>
    simp only [exec] at h
    split at h
    · obtain ⟨rfl, rfl⟩ := Prod.mk.inj (Option.some.inj h)
      exact same rfl
    · split at h
      · rename_i cell _
        split_ifs at h
        have ht : t = (s.updateRow w k (set cell.row)).2 :=
          (congrArg Prod.snd (Option.some.inj h)).symm
        rw [ht]
        exact updated k _ rfl
      · split_ifs at h
        have ht : t = (s.insertRow w k (v c.defaults)).2 :=
          (congrArg Prod.snd (Option.some.inj h)).symm
        exact same (ht ▸ insertRow_accesses)
  | commit => rcases exec_commit h with rfl | ⟨-, rfl⟩ <;> exact same rfl
  | rollback =>
    obtain rfl := exec_rollback h
    exact same rfl
  | tryLock key =>
    rcases exec_tryLock h with ⟨-, rfl⟩ | ⟨-, rfl⟩ | ⟨-, n, rfl, -⟩ <;> exact same rfl
  | unlock key =>
    rcases exec_unlock h with ⟨-, rfl⟩ | rfl
    · exact same rfl
    · refine same ?_
      unfold World.release
      split
      · split <;> rfl
      · rfl
  | query σ table value =>
    rcases exec_query h with ⟨-, rfl⟩ | ⟨found, rfl, -, rfl⟩
    · exact same rfl
    · exact records _ fun q hq => hq
  | defaultGroups σ =>
    simp only [exec] at h
    split at h <;> obtain ⟨rfl, rfl⟩ := Prod.mk.inj (Option.some.inj h) <;> exact same rfl
  | getRecord σ table id =>
    simp only [exec] at h
    split at h <;> obtain ⟨rfl, rfl⟩ := Prod.mk.inj (Option.some.inj h)
    · exact same rfl
    · exact records _ fun q hq => hq
  | createRecord σ fields =>
    rcases (exec_createRecord h).2 with ⟨rfl, -⟩ | ⟨-, rfl⟩ <;> exact same rfl
  | updateRecord σ id fields =>
    rcases exec_updateRecord h with rfl | rfl
    · exact records _ fun q hq => hq
    · exact same rfl
  | executeProcess σ p ps =>
    simp only [exec] at h
    split at h <;> obtain ⟨rfl, rfl⟩ := Prod.mk.inj (Option.some.inj h) <;> exact same rfl
  | now =>
    obtain ⟨rfl, rfl⟩ := Prod.mk.inj (Option.some.inj h)
    exact same rfl
  | uuid4 =>
    obtain ⟨rfl, rfl⟩ := Prod.mk.inj (Option.some.inj h)
    exact same rfl
  | authorityFor claim =>
    simp only [exec] at h
    split at h <;> obtain ⟨rfl, rfl⟩ := Prod.mk.inj (Option.some.inj h) <;> exact same rfl
  | assess op =>
    simp only [exec] at h
    split at h <;> obtain ⟨rfl, rfl⟩ := Prod.mk.inj (Option.some.inj h) <;> exact same rfl

end

end BaobabErp
