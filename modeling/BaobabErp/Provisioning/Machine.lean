/-
# Provisioning workers and request handlers over one database

`provisioning D` runs any number of sessions, each of them a worker's pass over
the due operations or the handler of one request.  What one call does is stated
here once, from the point of view of the session that makes it (`exec_sql`,
`exec_commit`, …) and of every other one (`exec_moved`).
-/

import BaobabErp.Provisioning.AcceptOperation
import BaobabErp.Provisioning.Execution
import BaobabErp.Concurrency.RelyGuarantee

namespace BaobabErp
namespace Provisioning

open Python Concurrency

/-- What a session is started for. -/
inductive Launch
  /-- A pass of the worker over at most `limit` operations. -/
  | worker (limit : Nat)
  /-- A request. -/
  | request (post : AcceptOperation.Post)

def main (D : ProvisioningDeployment) : Launch → Program Unit
  | .worker limit => Execution.runOnce D limit
  | .request post => AcceptOperation.serve D post

/-- **Any number of workers and requests over one database and its engines.** -/
abbrev provisioning (D : ProvisioningDeployment) : Machine where
  Worker := Worker
  Eff := Eff
  Ans := Ans
  Err := Exc
  State := World
  Choice := Choice
  Launch := Launch
  Env := Env
  exec := exec D
  main _ := main D
  close := World.close
  env := env D

instance {D : ProvisioningDeployment} : DecidableEq (provisioning D).Worker :=
  inferInstanceAs (DecidableEq String)

/-! ### What a session has written -/

namespace World

variable {s t : World} {v w : Worker} {k : Key}

/-- What the transaction of `w` has made of a row, `none` where it has not touched it. -/
def own (s : World) (w : Worker) (k : Key) : Option (Option (Row k)) :=
  match s.db.store.pending k with
  | some (u, row) => if u = w then some row else none
  | none => none

/-- The transaction of `w` has touched nothing. -/
def Clean (s : World) (w : Worker) : Prop := s.own w = fun _ => none

theorem own_eq_some {row : Option (Row k)} :
    s.own w k = some row ↔ s.db.store.pending k = some (w, row) := by
  unfold own
  split
  · rename_i u r hp
    rw [hp]
    split_ifs with hu
    · subst hu
      simp
    · simp only [Option.some.injEq, Prod.mk.injEq, false_iff, not_and]
      exact fun h => absurd h hu
  · rename_i hp
    rw [hp]
    simp

theorem view_eq : s.view w k = (s.own w k).getD (s.rows k) := by
  unfold own view rows
  show s.db.store.view w k = _
  unfold Store.view
  split
  · rename_i u r hp
    rw [hp]
    dsimp only
    split_ifs <;> rfl
  · rename_i hp
    rw [hp]
    rfl

theorem Clean.view (h : s.Clean w) : s.view w = s.rows := by
  funext k
  rw [view_eq, show s.own w = _ from h]
  rfl

/-- Two transactions do not hold one row. -/
theorem own_exclusive (hvw : v ≠ w) {row : Option (Row k)} (h : s.own w k = some row) :
    s.own v k = none := by
  cases hv : s.own v k with
  | none => rfl
  | some row' =>
    rw [own_eq_some] at h hv
    rw [h] at hv
    exact absurd (congrArg Prod.fst (Option.some.inj hv)).symm hvw

end World

/-! ### Calls -/

section Calls

variable {D : ProvisioningDeployment} {v w : Worker} {c : Choice} {s t : World}

theorem exec_sql {q : Query} {r : Except Exc q.Ans} (h : exec D w (.sql q) c s = some (r, t)) :
    (∃ x, r = .error x ∧ t = s.abort w ∧
      ((∃ f : Failure, x = f.exc) ∨ q.run (s.view w) (s.db.scan w) c.defaults = .error x)) ∨
    ∃ a ws, q.run (s.view w) (s.db.scan w) c.defaults = .ok (a, ws) ∧ s.db.free w ws = true ∧
      r = .ok a ∧ t = s.write w ws := by
  unfold exec at h
  dsimp only at h
  split at h
  · rename_i f hf
    obtain ⟨rfl, rfl⟩ := Prod.mk.inj (Option.some.inj h)
    exact .inl ⟨_, rfl, rfl, .inl ⟨f, rfl⟩⟩
  · split at h
    · rename_i x hx
      obtain ⟨rfl, rfl⟩ := Prod.mk.inj (Option.some.inj h)
      exact .inl ⟨x, rfl, rfl, .inr hx⟩
    · rename_i a ws hq
      split_ifs at h with hfree
      obtain ⟨rfl, rfl⟩ := Prod.mk.inj (Option.some.inj h)
      exact .inr ⟨a, ws, hq, hfree, rfl, rfl⟩

theorem exec_commit {r : Except Exc Unit} (h : exec D w .commit c s = some (r, t)) :
    (∃ f : Failure, r = .error f.exc ∧ t = s.abort w) ∨ (r = .ok () ∧ t = s.commit w) := by
  unfold exec at h
  dsimp only at h
  split at h
  · obtain ⟨rfl, rfl⟩ := Prod.mk.inj (Option.some.inj h)
    exact .inl ⟨_, rfl, rfl⟩
  · obtain ⟨rfl, rfl⟩ := Prod.mk.inj (Option.some.inj h)
    exact .inr ⟨rfl, rfl⟩

theorem exec_rollback {r : Except Exc Unit} (h : exec D w .rollback c s = some (r, t)) :
    t = s.abort w := by
  unfold exec at h
  dsimp only at h
  split at h
  · obtain ⟨-, rfl⟩ := Prod.mk.inj (Option.some.inj h)
    rfl
  · obtain ⟨-, rfl⟩ := Prod.mk.inj (Option.some.inj h)
    rfl

theorem exec_tryLock {text : String} {seed : Int} {r : Except Exc Bool}
    (h : exec D w (.tryLock text seed) c s = some (r, t)) :
    (∃ f : Failure, r = .error f.exc ∧ t = s.abort w) ∨ (r = .ok false ∧ t = s) ∨
    (r = .ok true ∧ s.db.lockFree w (D.lockHash text seed) = true ∧
      t = { s with db := s.db.acquire w (D.lockHash text seed) }) := by
  unfold exec at h
  dsimp only at h
  split at h
  · obtain ⟨rfl, rfl⟩ := Prod.mk.inj (Option.some.inj h)
    exact .inl ⟨_, rfl, rfl⟩
  · split_ifs at h with hfree
    · obtain ⟨rfl, rfl⟩ := Prod.mk.inj (Option.some.inj h)
      exact .inr (.inr ⟨rfl, hfree, rfl⟩)
    · obtain ⟨rfl, rfl⟩ := Prod.mk.inj (Option.some.inj h)
      exact .inr (.inl ⟨rfl, rfl⟩)

theorem exec_unlock {text : String} {seed : Int} {r : Except Exc Unit}
    (h : exec D w (.unlock text seed) c s = some (r, t)) :
    (∃ f : Failure, r = .error f.exc ∧ t = s.abort w) ∨
    (r = .ok () ∧ t = { s with db := s.db.release w (D.lockHash text seed) }) := by
  unfold exec at h
  dsimp only at h
  split at h
  · obtain ⟨rfl, rfl⟩ := Prod.mk.inj (Option.some.inj h)
    exact .inl ⟨_, rfl, rfl⟩
  · obtain ⟨rfl, rfl⟩ := Prod.mk.inj (Option.some.inj h)
    exact .inr ⟨rfl, rfl⟩

theorem exec_lockTransaction {text : String} {seed : Int} {r : Except Exc Unit}
    (h : exec D w (.lockTransaction text seed) c s = some (r, t)) :
    (∃ f : Failure, r = .error f.exc ∧ t = s.abort w) ∨
    (r = .ok () ∧ s.db.lockFree w (D.lockHash text seed) = true ∧
      t = { s with db := s.db.enter w (D.lockHash text seed) }) := by
  unfold exec at h
  dsimp only at h
  split at h
  · obtain ⟨rfl, rfl⟩ := Prod.mk.inj (Option.some.inj h)
    exact .inl ⟨_, rfl, rfl⟩
  · split_ifs at h with hfree
    obtain ⟨rfl, rfl⟩ := Prod.mk.inj (Option.some.inj h)
    exact .inr ⟨rfl, hfree, rfl⟩

/-- A search of an engine finds every record with the description. -/
theorem exec_query {σ : Session} {table value : String} {r : Except Exc (List Int)}
    (h : exec D w (.query σ table value) c s = some (r, t)) :
    t = s ∧ ((∃ f : Failure, r = .error f.exc) ∨ r = .ok ((s.engine.filter fun x =>
      x.baseUrl == σ.baseUrl && x.table == table && x.description == some value).map
        NativeRecord.id)) := by
  unfold exec at h
  dsimp only at h
  split at h
  · obtain ⟨rfl, rfl⟩ := Prod.mk.inj (Option.some.inj h)
    exact ⟨rfl, .inl ⟨_, rfl⟩⟩
  · obtain ⟨rfl, rfl⟩ := Prod.mk.inj (Option.some.inj h)
    exact ⟨rfl, .inr rfl⟩

/-- A new record has an id its installation has not assigned in that table before. -/
def IsNew (D : ProvisioningDeployment) (s : World) (r : NativeRecord) : Prop :=
  D.issues r.baseUrl r.table r.id = true ∧ ∀ x ∈ s.engine, x.sameIdentity r = false

theorem isNew_of {r : NativeRecord}
    (h : (D.issues r.baseUrl r.table r.id && !s.engine.any r.sameIdentity) = true) :
    IsNew D s r := by
  rw [Bool.and_eq_true, Bool.not_eq_true', List.any_eq_false] at h
  refine ⟨h.1, fun x hx => ?_⟩
  have := h.2 x hx
  unfold NativeRecord.sameIdentity at this ⊢
  rw [Bool.not_eq_true] at this
  rw [← this, Bool.beq_comm (a := x.baseUrl), Bool.beq_comm (a := x.table),
    Bool.beq_comm (a := x.id)]

theorem exec_createRecord {σ : Session} {table : String} {fields : List (String × Json)}
    {r : Except Exc Int} (h : exec D w (.createRecord σ table fields) c s = some (r, t)) :
    (∃ f : Failure, r = .error f.exc ∧ t = s) ∨
    ∃ id, IsNew D s ⟨σ.baseUrl, table, id, descriptionOf fields⟩ ∧
      t = s.create ⟨σ.baseUrl, table, id, descriptionOf fields⟩ ∧
      (r = .ok id ∨ ∃ f : Failure, r = .error f.exc) := by
  unfold exec at h
  dsimp only at h
  split at h
  · split_ifs at h with hnew
    obtain ⟨rfl, rfl⟩ := Prod.mk.inj (Option.some.inj h)
    exact .inr ⟨c.id, isNew_of hnew, rfl, .inl rfl⟩
  · rename_i f hf
    split_ifs at h with hlate hnew
    · obtain ⟨rfl, rfl⟩ := Prod.mk.inj (Option.some.inj h)
      exact .inr ⟨c.id, isNew_of hnew, rfl, .inr ⟨f, rfl⟩⟩
    · obtain ⟨rfl, rfl⟩ := Prod.mk.inj (Option.some.inj h)
      exact .inl ⟨f, rfl, rfl⟩

theorem exec_resolveAssignment {tenant provisioning entity : String}
    {r : Except Exc CpErpAssignment}
    (h : exec D w (.resolveAssignment tenant provisioning entity) c s = some (r, t)) :
    t = s ∧ ∀ a, r = .ok a → D.approves a = true := by
  unfold exec at h
  dsimp only at h
  split at h
  · obtain ⟨rfl, rfl⟩ := Prod.mk.inj (Option.some.inj h)
    exact ⟨rfl, fun a ha => by cases ha⟩
  · split at h
    · rename_i a ha
      split_ifs at h with happroves
      obtain ⟨rfl, rfl⟩ := Prod.mk.inj (Option.some.inj h)
      exact ⟨rfl, fun b hb => Except.ok.inj hb ▸ happroves⟩
    · cases h

theorem exec_receive {tenant key : String} {r : Except Exc Unit}
    (h : exec D w (.receive tenant key) c s = some (r, t)) : r = .ok () ∧
    t = { s with
      wrote := Function.update s.wrote w false
      arrived := Function.update s.arrived w (s.rows (.commandKey tenant key)) } := by
  obtain ⟨rfl, rfl⟩ := Prod.mk.inj (Option.some.inj h)
  exact ⟨rfl, rfl⟩

theorem exec_answer {tenant key : String} {fingerprint : Option String} {response : Response}
    {r : Except Exc Unit} (h : exec D w (.answer tenant key fingerprint response) c s = some (r, t)) :
    r = .ok () ∧ t = { s with exchanges :=
      ⟨tenant, key, fingerprint, response, s.arrived w, s.wrote w⟩ :: s.exchanges } := by
  obtain ⟨rfl, rfl⟩ := Prod.mk.inj (Option.some.inj h)
  exact ⟨rfl, rfl⟩

/-- The calls that change nothing. -/
def Eff.isQuiet : Eff → Bool
  | .query _ _ _ => true
  | .getRecord _ _ _ => true
  | .executeProcess _ _ _ => true
  | .now => true
  | .uuid4 => true
  | .resolveAssignment _ _ _ => true
  | _ => false

theorem exec_quiet {e : Eff} {r : Except Exc (Ans e)} (he : e.isQuiet = true)
    (h : exec D w e c s = some (r, t)) : t = s := by
  cases e with
  | query => exact (exec_query h).1
  | resolveAssignment => exact (exec_resolveAssignment h).1
  | now =>
    obtain ⟨-, rfl⟩ := Prod.mk.inj (Option.some.inj h)
    rfl
  | uuid4 =>
    obtain ⟨-, rfl⟩ := Prod.mk.inj (Option.some.inj h)
    rfl
  | getRecord =>
    unfold exec at h
    dsimp only at h
    split at h
    · exact (congrArg Prod.snd (Option.some.inj h)).symm
    · exact (congrArg Prod.snd (Option.some.inj h)).symm
  | executeProcess =>
    unfold exec at h
    dsimp only at h
    split at h
    · exact (congrArg Prod.snd (Option.some.inj h)).symm
    · exact (congrArg Prod.snd (Option.some.inj h)).symm
  | _ => cases he

/-- The look-ups of the Finance baselines. -/
def Eff.isBaseline : Eff → Bool
  | .baseline _ _ => true
  | .baselineStatus _ _ _ => true
  | _ => false

theorem exec_baseline {e : Eff} {r : Except Exc (Ans e)} (he : e.isBaseline = true)
    (h : exec D w e c s = some (r, t)) : t = s ∨ ((∃ x, r = .error x) ∧ t = s.abort w) := by
  cases e with
  | baseline =>
    unfold exec at h
    dsimp only at h
    split at h
    · obtain ⟨rfl, rfl⟩ := Prod.mk.inj (Option.some.inj h)
      exact .inr ⟨⟨_, rfl⟩, rfl⟩
    · obtain ⟨-, rfl⟩ := Prod.mk.inj (Option.some.inj h)
      exact .inl rfl
  | baselineStatus =>
    unfold exec at h
    dsimp only at h
    split at h
    · obtain ⟨rfl, rfl⟩ := Prod.mk.inj (Option.some.inj h)
      exact .inr ⟨⟨_, rfl⟩, rfl⟩
    · obtain ⟨-, rfl⟩ := Prod.mk.inj (Option.some.inj h)
      exact .inl rfl
  | _ => cases he

/-! ### What a call can do -/

/-- **What a call of `w` does to the shared state.** -/
inductive Move (D : ProvisioningDeployment) (w : Worker) (s : World) : Eff → World → Prop
  | same {e : Eff} : Move D w s e s
  | abort {e : Eff} : Move D w s e (s.abort w)
  | write {q : Query} {ws : List (Write Row)} :
      s.db.free w ws = true → Move D w s (.sql q) (s.write w ws)
  | commit : Move D w s .commit (s.commit w)
  | acquire {text : String} {seed : Int} : s.db.lockFree w (D.lockHash text seed) = true →
      Move D w s (.tryLock text seed) { s with db := s.db.acquire w (D.lockHash text seed) }
  | release {text : String} {seed : Int} :
      Move D w s (.unlock text seed) { s with db := s.db.release w (D.lockHash text seed) }
  | enter {text : String} {seed : Int} :
      Move D w s (.lockTransaction text seed) { s with db := s.db.enter w (D.lockHash text seed) }
  | create {σ : Session} {table : String} {fields : List (String × Json)} {id : Int} :
      IsNew D s ⟨σ.baseUrl, table, id, descriptionOf fields⟩ →
      Move D w s (.createRecord σ table fields)
        (s.create ⟨σ.baseUrl, table, id, descriptionOf fields⟩)
  | receive {tenant key : String} : Move D w s (.receive tenant key)
      { s with
        wrote := Function.update s.wrote w false
        arrived := Function.update s.arrived w (s.rows (.commandKey tenant key)) }
  | answer {tenant key : String} {fingerprint : Option String} {response : Response} :
      Move D w s (.answer tenant key fingerprint response)
        { s with exchanges :=
            ⟨tenant, key, fingerprint, response, s.arrived w, s.wrote w⟩ :: s.exchanges }

theorem exec_move {e : Eff} {r : Except Exc (Ans e)} (h : exec D w e c s = some (r, t)) :
    Move D w s e t := by
  cases e with
  | sql q =>
    rcases exec_sql h with ⟨x, -, rfl, -⟩ | ⟨a, ws, -, hf, -, rfl⟩
    · exact .abort
    · exact .write hf
  | commit =>
    rcases exec_commit h with ⟨f, -, rfl⟩ | ⟨-, rfl⟩
    · exact .abort
    · exact .commit
  | rollback =>
    obtain rfl := exec_rollback h
    exact .abort
  | tryLock =>
    rcases exec_tryLock h with ⟨f, -, rfl⟩ | ⟨-, rfl⟩ | ⟨-, hf, rfl⟩
    · exact .abort
    · exact .same
    · exact .acquire hf
  | unlock =>
    rcases exec_unlock h with ⟨f, -, rfl⟩ | ⟨-, rfl⟩
    · exact .abort
    · exact .release
  | lockTransaction =>
    rcases exec_lockTransaction h with ⟨f, -, rfl⟩ | ⟨-, -, rfl⟩
    · exact .abort
    · exact .enter
  | createRecord =>
    rcases exec_createRecord h with ⟨f, -, rfl⟩ | ⟨id, hnew, rfl, -⟩
    · exact .same
    · exact .create hnew
  | receive =>
    obtain ⟨-, rfl⟩ := exec_receive h
    exact .receive
  | answer =>
    obtain ⟨-, rfl⟩ := exec_answer h
    exact .answer
  | baseline =>
    rcases exec_baseline rfl h with rfl | ⟨-, rfl⟩
    · exact .same
    · exact .abort
  | baselineStatus =>
    rcases exec_baseline rfl h with rfl | ⟨-, rfl⟩
    · exact .same
    · exact .abort
  | _ =>
    obtain rfl := exec_quiet rfl h
    exact .same

end Calls

/-! ### What every call keeps -/

section Keeps

variable {D : ProvisioningDeployment} {v w : Worker} {e : Eff} {s t : World}

theorem Move.db (h : Move D w s e t) : s.db.Step w t.db := by
  cases h with
  | abort => exact .rollback
  | write hf => exact .apply hf
  | commit => exact .commit
  | acquire hf => exact .acquire hf
  | release => exact .release
  | enter => exact .enter
  | _ => exact .same

/-- The committed rows change by a commit. -/
theorem Move.rows (h : Move D w s e t) : t.rows = s.rows ∨ (e = .commit ∧ t = s.commit w) := by
  cases h with
  | commit => exact .inr ⟨rfl, rfl⟩
  | write hf => exact .inl Database.committed_apply
  | release => exact .inl (congrArg Store.committed Database.store_release)
  | _ => exact .inl rfl

/-- An engine changes by the creation of a record. -/
theorem Move.engine (h : Move D w s e t) : t.engine = s.engine ∨
    ∃ σ table fields id, e = .createRecord σ table fields ∧
      IsNew D s ⟨σ.baseUrl, table, id, descriptionOf fields⟩ ∧
      t = s.create ⟨σ.baseUrl, table, id, descriptionOf fields⟩ := by
  cases h with
  | create hnew => exact .inr ⟨_, _, _, _, rfl, hnew, rfl⟩
  | _ => exact .inl rfl

/-- An answer is logged when it is sent. -/
theorem Move.exchanges (h : Move D w s e t) : t.exchanges = s.exchanges ∨
    ∃ tenant key fingerprint response, e = .answer tenant key fingerprint response ∧
      t.exchanges =
        ⟨tenant, key, fingerprint, response, s.arrived w, s.wrote w⟩ :: s.exchanges := by
  cases h with
  | answer => exact .inr ⟨_, _, _, _, rfl, rfl⟩
  | _ => exact .inl rfl

/-- **What `w` has is the same**: its transaction, its locks and what is known of
its request. -/
structure World.Same (w : Worker) (s t : World) : Prop where
  kept : s.db.Kept w t.db
  dirty : t.dirty w = s.dirty w
  wrote : t.wrote w = s.wrote w
  arrived : t.arrived w = s.arrived w

theorem World.Same.own (h : World.Same w s t) : t.own w = s.own w := by
  funext k
  cases hs : s.own w k with
  | some row => exact World.own_eq_some.2 ((h.kept.pending k row).1 (World.own_eq_some.1 hs))
  | none =>
    cases ht : t.own w k with
    | none => rfl
    | some row =>
      have := World.own_eq_some.2 ((h.kept.pending k row).2 (World.own_eq_some.1 ht))
      rw [hs] at this
      cases this

/-- No call takes anything from another session. -/
theorem Move.same_other (h : Move D v s e t) (hv : w ≠ v) : World.Same w s t := by
  have hkept := h.db.kept hv
  cases h with
  | abort => exact ⟨hkept, Function.update_of_ne hv _ _, rfl, rfl⟩
  | write hf => exact ⟨hkept, Function.update_of_ne hv _ _, rfl, rfl⟩
  | commit => exact ⟨hkept, Function.update_of_ne hv _ _, Function.update_of_ne hv _ _, rfl⟩
  | receive => exact ⟨hkept, rfl, Function.update_of_ne hv _ _, Function.update_of_ne hv _ _⟩
  | _ => exact ⟨hkept, rfl, rfl, rfl⟩

theorem close_same (hv : w ≠ v) : World.Same w s (s.close v) :=
  ⟨Database.kept_close hv, Function.update_of_ne hv _ _, Function.update_of_ne hv _ _,
    Function.update_of_ne hv _ _⟩

theorem env_create {r : NativeRecord} (h : env D (.foreign r) s = some t) :
    D.foreign r = true ∧ IsNew D s r ∧ t = s.create r := by
  unfold env at h
  dsimp only at h
  split_ifs at h with hnew
  rw [Bool.and_eq_true] at hnew
  exact ⟨hnew.1, isNew_of hnew.2, (Option.some.inj h).symm⟩

end Keeps

end Provisioning
end BaobabErp
