/-
# What the statements answer and write

One lemma for each form of statement: the rows an `INSERT` and an `UPDATE` write
(`insertRow_ok`, `replaceRow_ok`), and what a statement that looks through a table
answers (`mem_statuses`, `mem_completedSteps`).
-/

import BaobabErp.Provisioning.Ledger

namespace BaobabErp
namespace Provisioning

open Python Concurrency

namespace Query

variable {view : Rows} {k : Key} {d : Defaults} {ws : List (Write Row)}

/-! ### Rows that are written -/

/-- An `INSERT` writes its row and the entries of its unique indexes, all of them new. -/
theorem insertRow_ok {row a : Row k} (h : insertRow view k row = .ok (a, ws)) :
    a = row ∧ view k = none ∧ (∀ e ∈ Schema.indexed k row, view e.1 = none) ∧
      Schema.check k row = true ∧ (∀ p ∈ Schema.parents k row, (view p).isSome = true) ∧
      ws = ⟨k, some row⟩ :: (Schema.indexed k row).map fun e => ⟨e.1, some e.2⟩ := by
  unfold insertRow at h
  split_ifs at h with hunique hcheck hparents
  obtain ⟨rfl, rfl⟩ := Prod.mk.inj (Except.ok.inj h)
  rw [Bool.not_eq_true, Bool.or_eq_false_iff, List.any_eq_false] at hunique
  rw [Bool.not_eq_true, List.any_eq_false] at hparents
  refine ⟨rfl, by simpa using hunique.1, fun e he => ?_, by simpa using hcheck, fun p hp => ?_, rfl⟩
  · have := hunique.2 e he
    simpa using this
  · have := hparents p hp
    simpa [Option.isSome_iff_ne_none] using this

/-- An `UPDATE` that moves no unique index writes its row. -/
theorem replaceRow_ok {old new a : Row k} (hindexed : Schema.indexed k new = Schema.indexed k old)
    (h : replaceRow view k old new = .ok (a, ws)) : a = new ∧ ws = [⟨k, some new⟩] := by
  have hnil : (Schema.indexed k old).filter
      (fun e => !((Schema.indexed k old).map Sigma.fst).contains e.1) = [] := by
    rw [List.filter_eq_nil_iff]
    intro e he
    simpa using ⟨e.2, he⟩
  unfold replaceRow at h
  rw [hindexed, hnil] at h
  dsimp only at h
  split_ifs at h with hunique hcheck
  obtain ⟨rfl, rfl⟩ := Prod.mk.inj (Except.ok.inj h)
  exact ⟨rfl, rfl⟩

/-- A row that is read for update is written as it is. -/
theorem selectForUpdate_ok {scan : (Key → Bool) → List Key} {a : Option (Row k)}
    (h : (selectForUpdate k).run view scan d = .ok (a, ws)) :
    a = view k ∧ ((view k = none ∧ ws = []) ∨ ∃ row, view k = some row ∧ ws = [⟨k, some row⟩]) := by
  unfold run at h
  dsimp only at h
  split at h
  · rename_i row hrow
    obtain ⟨rfl, rfl⟩ := Prod.mk.inj (Except.ok.inj h)
    exact ⟨hrow.symm, .inr ⟨row, hrow, rfl⟩⟩
  · rename_i hrow
    obtain ⟨rfl, rfl⟩ := Prod.mk.inj (Except.ok.inj h)
    exact ⟨hrow.symm, .inl ⟨hrow, rfl⟩⟩

/-- An `UPDATE` of a row whose unique indexes it leaves. -/
theorem update_ok {scan : (Key → Bool) → List Key} {set : Defaults → Row k → Option (Row k)}
    {old : Row k} {a : Option (Row k)} (hold : view k = some old)
    (hindexed : ∀ new, set d old = some new → Schema.indexed k new = Schema.indexed k old)
    (h : (update k set).run view scan d = .ok (a, ws)) :
    a = set d old ∧ ((set d old = none ∧ ws = []) ∨
      ∃ new, set d old = some new ∧ ws = [⟨k, some new⟩]) := by
  unfold run at h
  dsimp only at h
  rw [hold] at h
  dsimp only at h
  cases hset : set d old with
  | none =>
    rw [hset] at h
    obtain ⟨rfl, rfl⟩ := Prod.mk.inj (Except.ok.inj h)
    exact ⟨rfl, .inl ⟨rfl, rfl⟩⟩
  | some new =>
    rw [hset] at h
    dsimp only at h
    split at h
    · rename_i row ws' hr
      obtain ⟨rfl, rfl⟩ := Prod.mk.inj (Except.ok.inj h)
      obtain ⟨rfl, rfl⟩ := replaceRow_ok (hindexed new hset) hr
      exact ⟨rfl, .inr ⟨row, rfl, rfl⟩⟩
    · cases h

/-- An upsert of a row without unique indexes writes the row. -/
theorem upsert_ok {scan : (Key → Bool) → List Key} {row a : Row k} {set : Row k → Row k}
    (hindexed : ∀ r, Schema.indexed k r = []) (hset : ∀ r, set r = row)
    (h : (upsert k row set).run view scan d = .ok (a, ws)) : a = row ∧ ws = [⟨k, some row⟩] := by
  unfold run at h
  dsimp only at h
  split at h
  · rw [hset] at h
    exact replaceRow_ok ((hindexed _).trans (hindexed _).symm) h
  · obtain ⟨ha, -, -, -, -, hws⟩ := insertRow_ok h
    rw [hindexed] at hws
    exact ⟨ha, hws⟩

/-! ### Tables that are looked through -/

variable {db : Database Worker Row} {w : Worker}

/-- **The statuses of a command's operations.** -/
theorem statuses_ok (hd : db.Indexed) {op : String} {seen : List ProvisioningStatus}
    (h : (statuses op).run (db.view w) (db.scan w) d = .ok (seen, ws)) :
    ws = [] ∧ Statuses (db.view w) op seen := by
  obtain ⟨rfl, rfl⟩ := Prod.mk.inj (Except.ok.inj h)
  refine ⟨rfl, fun status => ?_⟩
  rw [List.mem_filterMap]
  constructor
  · rintro ⟨k, hk, hs⟩
    obtain ⟨hkey, -⟩ := (Database.mem_scan hd).1 hk
    cases k with
    | commandEntity o legalEntity =>
      obtain rfl : o = op := by simpa [isEntityOf] using hkey
      dsimp only at hs
      split at hs
      · rename_i pid hpid
        split at hs
        · rename_i row hrow
          exact ⟨legalEntity, pid, row, hpid, hrow, Option.some.inj hs⟩
        · cases hs
      · cases hs
    | _ => cases hkey
  · rintro ⟨legalEntity, pid, row, hentity, hrow, rfl⟩
    refine ⟨.commandEntity op legalEntity, (Database.mem_scan hd).2 ⟨?_, by rw [hentity]; rfl⟩, ?_⟩
    · simp [isEntityOf]
    · dsimp only
      rw [hentity]
      dsimp only
      rw [hrow]

/-- **The completed steps of an operation.** -/
theorem completedSteps_ok (hd : db.Indexed) {pid : String} {keys : List String}
    (h : (completedSteps pid).run (db.view w) (db.scan w) d = .ok (keys, ws)) :
    ws = [] ∧ ∀ key, key ∈ keys ↔ ∃ row : StepRow, db.view w (.step pid key) = some row ∧
      row.status = "completed" := by
  obtain ⟨rfl, rfl⟩ := Prod.mk.inj (Except.ok.inj h)
  refine ⟨rfl, fun key => ?_⟩
  rw [List.mem_filterMap]
  constructor
  · rintro ⟨k, hk, hs⟩
    obtain ⟨hkey, -⟩ := (Database.mem_scan hd).1 hk
    cases k with
    | step p key' =>
      obtain rfl : p = pid := by simpa [isStepOf] using hkey
      dsimp only at hs
      split at hs
      · rename_i row hrow
        split_ifs at hs with hst
        obtain rfl := Option.some.inj hs
        exact ⟨row, hrow, hst⟩
      · cases hs
    | _ => cases hkey
  · rintro ⟨row, hrow, hst⟩
    refine ⟨.step pid key, (Database.mem_scan hd).2 ⟨?_, by rw [hrow]; rfl⟩, ?_⟩
    · simp [isStepOf]
    · dsimp only
      rw [hrow]
      dsimp only
      rw [if_pos hst]

end Query

end Provisioning
end BaobabErp
