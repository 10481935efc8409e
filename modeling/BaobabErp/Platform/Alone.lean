/-
# One session running alone over the platform

`Ran D w p s x t`: the program `p`, as session `w`, ends with `x` in the world `t`
when no other session does anything.  A sequence of commands, one after another, is
judged by what each does alone (`Creates`, `transaction_run`).
-/

import BaobabErp.Concurrency.Alone
import BaobabErp.Platform.Records
import BaobabErp.Inbox.ExecutionSupport
import Mathlib.Data.Fintype.EquivFin

namespace BaobabErp

open Concurrency World

variable {D : Deployment} {w : Worker} {α β : Type}

/-- **From `s`, the program of `w` ends with `x` in `t`**, alone. -/
abbrev Ran (D : Deployment) (w : Worker) (p : Program α) (s : World) (x : Except Exc α)
    (t : World) : Prop :=
  Prog.Alone (fun e s r t => ∃ c, exec D w e c s = some (r, t)) p s x t

/-- The run the choices lead to, where they are as many as the calls. -/
def runWith (D : Deployment) (w : Worker) : Program α → List Choice → World →
    Option (Except Exc α × World)
  | .ret x, _, s => some (x, s)
  | .call _ _, [], _ => none
  | .call e k, c :: cs, s =>
    match exec D w e c s with
    | some (r, t) => runWith D w (k r) cs t
    | none => none

theorem ran_of_runWith {p : Program α} {cs : List Choice} {s t : World} {x : Except Exc α}
    (h : runWith D w p cs s = some (x, t)) : Ran D w p s x t := by
  induction p generalizing cs s with
  | ret r =>
    obtain ⟨rfl, rfl⟩ := Prod.mk.inj (Option.some.inj h)
    exact .ret
  | call e k ih =>
    cases cs with
    | nil => cases h
    | cons c cs =>
      unfold runWith at h
      split at h
      · rename_i r u he
        exact .call ⟨c, he⟩ (ih r h)
      · cases h

/-! ### Every call can end -/

theorem exists_fresh (s : World) (σ : Session) (fields : Fields) : ∃ id : Int,
    (s.engine.any fun r => r.sameIdentity ⟨id, σ, fields, none⟩) = false := by
  obtain ⟨id, hid⟩ := Infinite.exists_notMem_finset (s.engine.map EngineRecord.id).toFinset
  refine ⟨id, List.any_eq_false.2 fun q hq hsame => hid ?_⟩
  rw [List.mem_toFinset, List.mem_map]
  exact ⟨q, hq, (sameIdentity_iff.1 hsame).2.2⟩

/-- **A call can always end**: a statement with a lost connection. -/
theorem exec_total (D : Deployment) (w : Worker) (e : Eff) (s : World) :
    ∃ r t, ∃ c, exec D w e c s = some (r, t) := by
  cases e with
  | claim ty lease => exact ⟨_, _, {}, rfl⟩
  | createRecord σ fields =>
    obtain ⟨id, hid⟩ := exists_fresh s σ fields
    refine ⟨.ok id, s.create w σ id fields, { id := id }, ?_⟩
    simp only [exec]
    rw [hid]
    rfl
  | now => exact ⟨_, _, {}, rfl⟩
  | uuid4 => exact ⟨_, _, {}, rfl⟩
  | _ => exact ⟨_, _, { failure := some .database }, rfl⟩

theorem exists_ran (D : Deployment) (w : Worker) (p : Program α) (s : World) :
    ∃ x t, Ran D w p s x t :=
  Prog.Alone.exists_run (exec_total D w) p s

/-! ### Engine records over a run -/

theorem exec_engine_length {e : Eff} {c : Choice} {s t : World} {r : Except Exc (Ans e)}
    (h : exec D w e c s = some (r, t)) : s.engine.length ≤ t.engine.length := by
  rcases exec_engine h with ⟨f, ht, -⟩ | ⟨σ, fields, -, ht⟩
  · rw [ht, List.length_map]
  · rw [ht, List.length_cons]
    omega

theorem ran_engine_length {p : Program α} {s t : World} {x : Except Exc α}
    (h : Ran D w p s x t) : s.engine.length ≤ t.engine.length :=
  h.keeps (R := fun s t : World => s.engine.length ≤ t.engine.length) (fun _ => le_rfl)
    (fun h h' => h.trans h') fun ⟨_, he⟩ => exec_engine_length he

/-- A call that creates an engine record. -/
def createsRecord : Eff → Bool
  | .createRecord _ _ => true
  | _ => false

/-- A program that creates no record leaves as many as there were. -/
theorem ran_quiet_length {p : Program α} {s t : World} {x : Except Exc α}
    (hp : ¬ Prog.Calls (createsRecord · = true) p) (h : Ran D w p s x t) :
    t.engine.length = s.engine.length := by
  refine h.keeps_of_quiet (R := fun s t : World => t.engine.length = s.engine.length)
    (fun _ => rfl) (fun h h' => h'.trans h) ?_ hp
  rintro e s r t he ⟨c, hc⟩
  rcases exec_engine hc with ⟨f, ht, -⟩ | ⟨σ, fields, rfl, -⟩
  · rw [ht, List.length_map]
  · exact absurd rfl he

/-- **Some run of the program leaves one more engine record.** -/
def Creates (D : Deployment) (w : Worker) (p : Program α) (s : World) : Prop :=
  ∃ x t, Ran D w p s x t ∧ s.engine.length < t.engine.length

theorem Creates.handle {p : Program α} {s : World} (h : Creates D w p s)
    (f : Except Exc α → Program β) : Creates D w (p.handle f) s := by
  obtain ⟨x, t, hp, hlt⟩ := h
  obtain ⟨y, u, hf⟩ := exists_ran D w (f x) t
  exact ⟨y, u, Prog.Alone.handle_iff.2 ⟨x, t, hp, hf⟩, hlt.trans_le (ran_engine_length hf)⟩

theorem Creates.bind {p : Program α} {s : World} (h : Creates D w p s) (f : α → Program β) :
    Creates D w (p >>= f) s :=
  h.handle _

/-- A program that comes to one that creates a record creates a record. -/
theorem Creates.after {p : Program α} {f : α → Program β} {a : α} {s t : World}
    (hp : Ran D w p s (.ok a) t) (h : Creates D w (f a) t) : Creates D w (p >>= f) s := by
  obtain ⟨y, u, hf, hlt⟩ := h
  exact ⟨y, u, hp.bind hf, (ran_engine_length hp).trans_lt hlt⟩

theorem creates_createRecord (D : Deployment) (w : Worker) (σ : Session) (fields : Fields)
    (s : World) : Creates D w (Call.createRecord σ fields) s := by
  obtain ⟨id, hid⟩ := exists_fresh s σ fields
  refine ⟨.ok id, s.create w σ id fields, .perform ⟨{ id := id }, ?_⟩, ?_⟩
  · simp only [exec]
    rw [hid]
    rfl
  · show s.engine.length < (_ :: s.engine).length
    rw [List.length_cons]
    omega

/-! ### What is committed -/

/-- A call that may commit. -/
def commits : Eff → Bool
  | .commit => true
  | .claim _ _ => true
  | _ => false

theorem exec_uncommitted {e : Eff} {c : Choice} {s t : World} {r : Except Exc (Ans e)}
    (he : commits e = false) (h : exec D w e c s = some (r, t)) :
    t.store.committed = s.store.committed := by
  have same : t.store = s.store → t.store.committed = s.store.committed := fun hs => by rw [hs]
  have keyed : ∀ l, e.key? = some l → t.store.committed = s.store.committed := fun l hkey => by
    rcases exec_keyed hkey h with ⟨-, rfl⟩ | ht
    · rfl
    · exact ht.committed
  have quiet : e.quiet = true → t.store.committed = s.store.committed := fun hq =>
    same (exec_quiet hq h).1
  cases e with
  | claim ty lease => cases he
  | commit => cases he
  | settle claim st => rcases exec_settle h with ⟨-, rfl⟩ | ⟨-, rfl⟩ | ⟨cell, -, -, -, -, rfl⟩ <;> rfl
  | select l =>
    rcases exec_select h with ⟨-, rfl⟩ | ⟨-, rfl⟩
    · rfl
    · exact same seeRow_store
  | rollback => rw [exec_rollback h]; rfl
  | tryLock key => rcases exec_tryLock h with ⟨-, rfl⟩ | ⟨-, rfl⟩ | ⟨-, n, rfl, -⟩ <;> rfl
  | unlock key =>
    rcases exec_unlock h with ⟨-, rfl⟩ | rfl
    · rfl
    · exact same release_same.1
  | createRecord σ fields => rcases (exec_createRecord h).2 with ⟨rfl, -⟩ | ⟨-, rfl⟩ <;> rfl
  | updateRecord σ id fields => rcases exec_updateRecord h with rfl | rfl <;> rfl
  | selectForUpdate l => exact keyed l rfl
  | insert l row => exact keyed l rfl
  | insertNew l row => exact keyed l rfl
  | update l set => exact keyed l rfl
  | upsert l row set => exact keyed l rfl
  | _ => exact quiet rfl

/-- A program without a commit leaves what is committed. -/
theorem ran_uncommitted {p : Program α} {s t : World} {x : Except Exc α}
    (hp : ¬ Prog.Calls (commits · = true) p) (h : Ran D w p s x t) :
    t.store.committed = s.store.committed := by
  refine h.keeps_of_quiet (R := fun s t : World => t.store.committed = s.store.committed)
    (fun _ => rfl) (fun h h' => h'.trans h) ?_ hp
  rintro e s r t he ⟨c, hc⟩
  exact exec_uncommitted (Bool.eq_false_iff.2 he) hc

/-! ### Requests -/

/-- **A run of a body that is rolled back where it raises.** -/
theorem orRollback_run {p : Program α} {s u : World} {x : Except Exc α}
    (h : Ran D w (Inbox.orRollback p) s x u) :
    (∃ a, x = .ok a ∧ Ran D w p s (.ok a) u) ∨
      ∃ z y t, x = .error y ∧ Ran D w p s (.error z) t ∧ u = t.abort w := by
  unfold Inbox.orRollback at h
  rw [Prog.tryCatch_eq] at h
  obtain ⟨r, t, hp, hr⟩ := Prog.Alone.handle_iff.1 h
  cases r with
  | ok a =>
    obtain ⟨rfl, rfl⟩ := Prog.Alone.of_ret hr
    exact .inl ⟨a, rfl, hp⟩
  | error z =>
    refine .inr ?_
    rcases hr.of_bind with ⟨y, hback, rfl⟩ | ⟨_, v, hback, hthrow⟩
    · obtain ⟨c, hc⟩ := hback.of_perform
      exact ⟨z, y, t, rfl, hp, exec_rollback hc⟩
    · obtain ⟨c, hc⟩ := hback.of_perform
      obtain ⟨rfl, rfl⟩ := hthrow.of_throw
      exact ⟨z, z, t, rfl, hp, exec_rollback hc⟩

end BaobabErp
