/-
# Sessions that speak to one database

A `Dialect` says what the statements of a program are: what each answers, and
what it makes of the database as its session sees it.  The rest is the same for
every program: a transaction ends with `commit` or `rollback`; a statement that
fails, or an exception raised in a trigger (`raise`), leaves a transaction that
takes its end only; a connection may be lost before a statement has run or after.
`Dialect.sessions` is any number of such programs in any order.

A `Contract` is an invariant of the database with what a session must know before
a statement (`Guard`) and before it commits (`Ready`).  It gives the protocol of
the sessions (`protocol`), what a session knows is what survives the statements and
the ends of the others (`Fact`), and a program of it is walked through with `Proves`.
Whatever raises leaves a session without open changes (`clean_of_error`).
-/

import BaobabErp.Concurrency.Database
import BaobabErp.Concurrency.RelyGuarantee

set_option linter.unusedSectionVars false

namespace Concurrency

/-- A program is closed under what closes the programs its calls stand for. -/
theorem Prog.Closed.interpret {Eff Eff' : Type} {Ans : Eff → Type} {Ans' : Eff' → Type} {ε α : Type}
    {Φ : (α : Type) → Prog Ans' ε α → Prop} (h : Prog.Closed Φ)
    {f : (e : Eff) → Prog Ans' ε (Ans e)} (hf : ∀ e, Φ _ (f e)) (p : Prog Ans ε α) :
    Φ α (p.interpret f) := by
  induction p with
  | ret r => exact h.ret r
  | call e k ih => exact h.handle (hf e) ih

namespace Database

variable {T K : Type} {V : K → Type} [DecidableEq T] [DecidableEq K]

/-- **What a statement of `t` makes of the database**: it reads, writes a row that
nobody else holds, or takes a lock of its transaction that nobody else has. -/
inductive Does (d : Database T V) (t : T) : Database T V → Prop
  | read : Does d t d
  | put {x : Write V} : d.store.free t x.1 = true → Does d t (d.put t x)
  | enter {h : Int} : d.lockFree t h = true → Does d t (d.enter t h)

theorem nodup_put {d : Database T V} {t : T} {x : Write V} (h : d.keys.Nodup) :
    (d.put t x).keys.Nodup := by
  unfold put
  dsimp only
  split_ifs with hx
  · exact h
  · exact List.nodup_cons.2 ⟨hx, h⟩

namespace Does

variable {d d' : Database T V} {t u : T} {k : K} {h : Int}

theorem committed (hd : d.Does t d') : d'.store.committed = d.store.committed := by
  cases hd <;> rfl

theorem indexed (hd : d.Does t d') (hi : d.Indexed) : d'.Indexed := by
  cases hd with
  | read => exact hi
  | put hf => exact hi.put
  | enter hf => exact hi

/-- **It changes nothing for another session**: what that one sees, holds and has
locked. -/
theorem view_other (hd : d.Does t d') (hu : u ≠ t) : d'.view u k = d.view u k := by
  cases hd with
  | read => rfl
  | @put x hf =>
    by_cases hk : k = x.1
    · subst hk
      exact Store.view_put_other hu hf
    · exact Store.view_put_of_ne hk
  | enter hf => rfl

theorem holds_other (hd : d.Does t d') (hu : u ≠ t) :
    d'.store.Holds u k ↔ d.store.Holds u k := by
  cases hd with
  | read => rfl
  | @put x hf =>
    unfold Database.put
    rw [Store.holds_put_iff]
    refine ⟨fun h => h.elim (fun h => absurd h.2 hu) And.right, fun h => .inr ⟨?_, h⟩⟩
    rintro rfl
    exact hu (Store.free_iff.1 hf u h)
  | enter hf => rfl

theorem lock_other (hd : d.Does t d') (hu : u ≠ t) (hl : d.transaction h = some u) :
    d'.transaction h = some u := by
  cases hd with
  | read => exact hl
  | put hf => exact hl
  | @enter h' hf =>
    have hne : h ≠ h' := by
      rintro rfl
      rw [lockFree, hl, Bool.and_eq_true, Option.all_some, decide_eq_true_eq] at hf
      exact hu hf.2
    exact (Function.update_of_ne hne _ _).trans hl

end Does

theorem lock_drop_other {d : Database T V} {t u : T} {h : Int} (hu : u ≠ t)
    (hl : d.transaction h = some u) : d.dropLocks t h = some u := by
  rw [dropLocks, if_neg, hl]
  rw [hl, Option.some.injEq]
  exact hu

end Database

/-- **The statements of a program.** -/
structure Dialect (T : Type) {K : Type} (V : K → Type) [DecidableEq T] [DecidableEq K] where
  Statement : Type
  Ans : Statement → Type
  Err : Type
  /-- What a statement meets besides the rows, as the clock. -/
  Reading : Type
  /-- `none`: the statement waits. -/
  run : T → Reading → Database T V → (e : Statement) → Option (Except Err (Ans e × Database T V))
  /-- the transaction has failed before -/
  aborted : Err
  connectionLost : Err
  run_does : ∀ {t r e a} {d d' : Database T V}, run t r d e = some (.ok (a, d')) → d.Does t d'

namespace Dialect

variable {T K : Type} {V : K → Type} [DecidableEq T] [DecidableEq K] (L : Dialect T V)

/-- What a session can ask for. -/
inductive Command
  | sql (e : L.Statement)
  | raise (x : L.Err)
  | commit
  | rollback

@[reducible] def Command.Ans {L : Dialect T V} : L.Command → Type
  | .sql e => L.Ans e
  | .raise _ | .commit | .rollback => Unit

/-- A program of a session. -/
abbrev Program (α : Type) := Prog (Command.Ans (L := L)) L.Err α

variable {L} in
/-- One statement. -/
def sql (e : L.Statement) : L.Program (L.Ans e) := .perform (Command.sql e)

variable {L} in
/-- `RAISE EXCEPTION`. -/
def raise (x : L.Err) : L.Program Unit := .perform (Command.raise x)

/-- The database, and the sessions whose transaction has failed. -/
structure State (T : Type) {K : Type} (V : K → Type) where
  db : Database T V
  failed : T → Bool

/-- The connection while a command runs. -/
inductive Meeting
  | runs (r : L.Reading)
  | fails
  | lost

namespace State

variable (s : State T V) (t : T)

/-- The transaction has failed: its rows and its locks are gone. -/
def fail : State T V := ⟨s.db.rollback t, Function.update s.failed t true⟩

/-- The transaction ended, with `db` left. -/
def ended (db : Database T V) : State T V := ⟨db, Function.update s.failed t false⟩

end State

/-- A command of a session whose transaction has not failed. -/
def attempt (t : T) (r : L.Reading) (s : State T V) :
    (c : L.Command) → Option (Except L.Err c.Ans × State T V)
  | .sql e => (L.run t r s.db e).map fun
    | .ok (a, db) => (.ok a, { s with db })
    | .error x => (.error x, s.fail t)
  | .raise x => some (.error x, s.fail t)
  | .commit => some (.ok (), s.ended t (s.db.commit t))
  | .rollback => some (.ok (), s.ended t (s.db.rollback t))

/-- **One command.**  A transaction that has failed takes its end only, and
committing it rolls it back. -/
def exec (t : T) (c : L.Command) (m : L.Meeting) (s : State T V) :
    Option (Except L.Err c.Ans × State T V) :=
  match m, c with
  | .runs r, c =>
    if s.failed t then
      match c with
      | .commit | .rollback => some (.ok (), s.ended t (s.db.rollback t))
      | _ => some (.error L.aborted, s)
    else L.attempt t r s c
  | .fails, _ => some (.error L.connectionLost, s.fail t)
  | .lost, .commit =>
    some (.error L.connectionLost,
      if s.failed t then s.fail t else ⟨s.db.commit t, Function.update s.failed t true⟩)
  | .lost, _ => some (.error L.connectionLost, s.fail t)

/-- **The sessions**, each running a program it is launched with. -/
def sessions (Launch : Type) (main : T → Launch → L.Program Unit) : Machine where
  Worker := T
  Eff := L.Command
  Ans := Command.Ans
  Err := L.Err
  State := State T V
  Choice := L.Meeting
  Launch := Launch
  Env := Empty
  exec := L.exec
  main := main
  close t s := s.ended t (s.db.close t)
  env := nofun

instance {Launch : Type} {main : T → Launch → L.Program Unit} :
    DecidableEq (L.sessions Launch main).Worker := inferInstanceAs (DecidableEq T)

/-- No rows, and nobody connected. -/
def initial : State T V := ⟨.empty, fun _ => false⟩

/-! ### What a command does -/

section Changes

variable {L} {t : T} {s s' : State T V} {d : Database T V} {c : L.Command} {m : L.Meeting}

/-- **What one command of `t` makes of the database.** -/
inductive Change (t : T) (d : Database T V) : L.Command → Database T V → Prop
  | none (e : L.Command) : Change t d e d
  | rollback (e : L.Command) : Change t d e (d.rollback t)
  | commit : Change t d .commit (d.commit t)
  | sql {e : L.Statement} {r : L.Reading} {a : L.Ans e} {d' : Database T V} :
      L.run t r d e = some (.ok (a, d')) → Change t d (.sql e) d'

theorem attempt_change {r : L.Reading} {a : Except L.Err c.Ans}
    (h : L.attempt t r s c = some (a, s')) : Change t s.db c s'.db := by
  cases c with
  | sql e =>
    obtain ⟨x, hx, heq⟩ := Option.map_eq_some_iff.1 h
    cases x with
    | ok p =>
      obtain ⟨-, rfl⟩ := Prod.mk.inj heq
      exact .sql hx
    | error x =>
      obtain ⟨-, rfl⟩ := Prod.mk.inj heq
      exact .rollback _
  | raise x =>
    obtain ⟨-, rfl⟩ := Prod.mk.inj (Option.some.inj h)
    exact .rollback _
  | commit =>
    obtain ⟨-, rfl⟩ := Prod.mk.inj (Option.some.inj h)
    exact .commit
  | rollback =>
    obtain ⟨-, rfl⟩ := Prod.mk.inj (Option.some.inj h)
    exact .rollback _

/-- **One command changes the database in one of these ways.** -/
theorem exec_change {r : Except L.Err c.Ans} (h : L.exec t c m s = some (r, s')) :
    Change t s.db c s'.db := by
  unfold exec at h
  split at h
  · split_ifs at h
    · split at h
      all_goals obtain ⟨-, rfl⟩ := Prod.mk.inj (Option.some.inj h)
      · exact .rollback _
      · exact .rollback _
      · exact .none _
    · exact attempt_change h
  · obtain ⟨-, rfl⟩ := Prod.mk.inj (Option.some.inj h)
    exact .rollback _
  · obtain ⟨-, rfl⟩ := Prod.mk.inj (Option.some.inj h)
    split_ifs
    · exact .rollback _
    · exact .commit
  · obtain ⟨-, rfl⟩ := Prod.mk.inj (Option.some.inj h)
    exact .rollback _

/-- A statement that answered has run. -/
theorem run_of_exec {e : L.Statement} {a : L.Ans e}
    (h : L.exec t (.sql e) m s = some (.ok a, s')) :
    ∃ r, L.run t r s.db e = some (.ok (a, s'.db)) := by
  cases m with
  | runs r =>
    unfold exec at h
    dsimp only at h
    split_ifs at h
    · cases (Prod.mk.inj (Option.some.inj h)).1
    · obtain ⟨x, hx, heq⟩ := Option.map_eq_some_iff.1 h
      cases x with
      | ok p =>
        obtain ⟨ha, rfl⟩ := Prod.mk.inj heq
        obtain rfl := Except.ok.inj ha
        exact ⟨r, hx⟩
      | error x => cases (Prod.mk.inj heq).1
  | fails => cases (Prod.mk.inj (Option.some.inj h)).1
  | lost => cases (Prod.mk.inj (Option.some.inj h)).1

/-! Sessions without open changes. -/

theorem Change.clean {u : T} {d' : Database T V} (h : Change t d c d') (hu : u ≠ t)
    (hd : d.store.Clean u) : d'.store.Clean u := by
  cases h with
  | none => exact hd
  | rollback => exact hd.rollback
  | commit => exact hd.commit
  | sql hr => exact fun k hk => hd k (((L.run_does hr).holds_other hu).1 hk)

/-- Who has failed has no open changes. -/
def FailedClean (s : State T V) : Prop := ∀ t, s.failed t = true → s.db.store.Clean t

/-- **Whatever raises leaves no open changes.** -/
theorem clean_of_error {x : L.Err} (hs : FailedClean s) (h : L.exec t c m s = some (.error x, s')) :
    s'.db.store.Clean t := by
  cases m with
  | runs r =>
    unfold exec at h
    dsimp only at h
    split_ifs at h with hf
    · split at h
      · cases (Prod.mk.inj (Option.some.inj h)).1
      · cases (Prod.mk.inj (Option.some.inj h)).1
      · obtain ⟨-, rfl⟩ := Prod.mk.inj (Option.some.inj h)
        exact hs t hf
    · cases c with
      | sql e =>
        obtain ⟨y, -, heq⟩ := Option.map_eq_some_iff.1 h
        cases y with
        | ok p => cases (Prod.mk.inj heq).1
        | error y =>
          obtain ⟨-, rfl⟩ := Prod.mk.inj heq
          exact Store.clean_rollback
      | raise y =>
        obtain ⟨-, rfl⟩ := Prod.mk.inj (Option.some.inj h)
        exact Store.clean_rollback
      | commit => cases (Prod.mk.inj (Option.some.inj h)).1
      | rollback => cases (Prod.mk.inj (Option.some.inj h)).1
  | fails =>
    obtain ⟨-, rfl⟩ := Prod.mk.inj (Option.some.inj h)
    exact Store.clean_rollback
  | lost =>
    cases c with
    | commit =>
      obtain ⟨-, rfl⟩ := Prod.mk.inj (Option.some.inj h)
      split_ifs
      · exact Store.clean_rollback
      · exact Store.clean_commit
    | sql e =>
      obtain ⟨-, rfl⟩ := Prod.mk.inj (Option.some.inj h)
      exact Store.clean_rollback
    | raise y =>
      obtain ⟨-, rfl⟩ := Prod.mk.inj (Option.some.inj h)
      exact Store.clean_rollback
    | rollback =>
      obtain ⟨-, rfl⟩ := Prod.mk.inj (Option.some.inj h)
      exact Store.clean_rollback

theorem clean_of_commit {r : Except L.Err Unit} (hs : FailedClean s)
    (h : L.exec t .commit m s = some (r, s')) : s'.db.store.Clean t := by
  cases r with
  | error x => exact clean_of_error hs h
  | ok a =>
    cases m with
    | runs r =>
      unfold exec at h
      dsimp only at h
      split_ifs at h
      · obtain ⟨-, rfl⟩ := Prod.mk.inj (Option.some.inj h)
        exact Store.clean_rollback
      · obtain ⟨-, rfl⟩ := Prod.mk.inj (Option.some.inj h)
        exact Store.clean_commit
    | fails => cases (Prod.mk.inj (Option.some.inj h)).1
    | lost => cases (Prod.mk.inj (Option.some.inj h)).1

theorem clean_of_rollback {r : Except L.Err Unit} (hs : FailedClean s)
    (h : L.exec t .rollback m s = some (r, s')) : s'.db.store.Clean t := by
  cases r with
  | error x => exact clean_of_error hs h
  | ok a =>
    cases m with
    | runs r =>
      unfold exec at h
      dsimp only at h
      split_ifs at h
      all_goals
        obtain ⟨-, rfl⟩ := Prod.mk.inj (Option.some.inj h)
        exact Store.clean_rollback
    | fails => cases (Prod.mk.inj (Option.some.inj h)).1
    | lost => cases (Prod.mk.inj (Option.some.inj h)).1

namespace FailedClean

theorem fail (hs : FailedClean s) : FailedClean (s.fail t) := by
  intro u hu
  by_cases hut : u = t
  · subst hut
    exact Store.clean_rollback
  · exact (hs u ((Function.update_of_ne hut _ _).symm.trans hu)).rollback

theorem ended (hs : FailedClean s) {db : Database T V}
    (h : ∀ u, u ≠ t → s.db.store.Clean u → db.store.Clean u) : FailedClean (s.ended t db) := by
  intro u hu
  by_cases hut : u = t
  · subst hut
    simp only [State.ended, Function.update_self, Bool.false_eq_true] at hu
  · exact h u hut (hs u ((Function.update_of_ne hut _ _).symm.trans hu))

theorem attempt {r : L.Reading} {a : Except L.Err c.Ans} (hs : FailedClean s)
    (hf : s.failed t = false) (h : L.attempt t r s c = some (a, s')) : FailedClean s' := by
  cases c with
  | sql e =>
    obtain ⟨x, hx, heq⟩ := Option.map_eq_some_iff.1 h
    cases x with
    | ok p =>
      obtain ⟨-, rfl⟩ := Prod.mk.inj heq
      intro u hu
      have hut : u ≠ t := by
        rintro rfl
        exact Bool.false_ne_true (hf.symm.trans hu)
      exact fun k hk => hs u hu k (((L.run_does hx).holds_other hut).1 hk)
    | error x =>
      obtain ⟨-, rfl⟩ := Prod.mk.inj heq
      exact hs.fail
  | raise x =>
    obtain ⟨-, rfl⟩ := Prod.mk.inj (Option.some.inj h)
    exact hs.fail
  | commit =>
    obtain ⟨-, rfl⟩ := Prod.mk.inj (Option.some.inj h)
    exact hs.ended fun u _ hu => hu.commit
  | rollback =>
    obtain ⟨-, rfl⟩ := Prod.mk.inj (Option.some.inj h)
    exact hs.ended fun u _ hu => hu.rollback

theorem exec {r : Except L.Err c.Ans} (hs : FailedClean s) (h : L.exec t c m s = some (r, s')) :
    FailedClean s' := by
  unfold Dialect.exec at h
  split at h
  · split_ifs at h with hf
    · split at h
      all_goals obtain ⟨-, rfl⟩ := Prod.mk.inj (Option.some.inj h)
      · exact hs.ended fun u _ hu => hu.rollback
      · exact hs.ended fun u _ hu => hu.rollback
      · exact hs
    · exact hs.attempt (Bool.not_eq_true _ ▸ hf) h
  · obtain ⟨-, rfl⟩ := Prod.mk.inj (Option.some.inj h)
    exact hs.fail
  · obtain ⟨-, rfl⟩ := Prod.mk.inj (Option.some.inj h)
    split_ifs
    · exact hs.fail
    · intro u hu
      by_cases hut : u = t
      · subst hut
        exact Store.clean_commit
      · exact (hs u ((Function.update_of_ne hut _ _).symm.trans hu)).commit
  · obtain ⟨-, rfl⟩ := Prod.mk.inj (Option.some.inj h)
    exact hs.fail

theorem close (hs : FailedClean s) : FailedClean (s.ended t (s.db.close t)) :=
  hs.ended fun _ _ hu => hu.rollback

end FailedClean

end Changes

/-! ### Contracts -/

/-- **What a session can do to the database**, where it knows `G` before a
statement and `R` before it commits. -/
inductive Moved (G : T → L.Statement → Database T V → Prop) (R : T → Database T V → Prop) (t : T)
    (d : Database T V) : Database T V → Prop
  | none : Moved G R t d d
  | run {e : L.Statement} {r : L.Reading} {a : L.Ans e} {d' : Database T V} :
      G t e d → L.run t r d e = some (.ok (a, d')) → Moved G R t d d'
  | commit : R t d → Moved G R t d (d.commit t)
  | rollback : Moved G R t d (d.rollback t)
  | close : Moved G R t d (d.close t)

variable {L} in
/-- **What another session does to the one that looks on**: its rows and its locks
stay, and what it sees stays unless that one has committed. -/
theorem Moved.other {G : T → L.Statement → Database T V → Prop} {R : T → Database T V → Prop}
    {t u : T} {d d' : Database T V} (h : L.Moved G R u d d') (hu : u ≠ t) :
    (∀ k, d'.store.Holds t k ↔ d.store.Holds t k) ∧
    (∀ l, d.transaction l = some t → d'.transaction l = some t) ∧
    ((∀ k, d'.view t k = d.view t k) ∨ R u d ∧ d' = d.commit u) := by
  have hback : (∀ k, (d.rollback u).store.Holds t k ↔ d.store.Holds t k) ∧
      (∀ k, (d.rollback u).view t k = d.view t k) :=
    ⟨fun k => Store.holds_rollback_iff.trans (and_iff_right hu.symm),
      fun k => Store.view_rollback hu.symm⟩
  cases h with
  | none => exact ⟨fun _ => .rfl, fun _ => id, .inl fun _ => rfl⟩
  | run _ hr =>
    exact ⟨fun _ => (L.run_does hr).holds_other hu.symm, fun _ => (L.run_does hr).lock_other hu.symm,
      .inl fun _ => (L.run_does hr).view_other hu.symm⟩
  | commit hr =>
    exact ⟨fun _ => Store.holds_commit_iff.trans (and_iff_right hu.symm),
      fun _ => Database.lock_drop_other hu.symm, .inr ⟨hr, rfl⟩⟩
  | rollback => exact ⟨hback.1, fun _ => Database.lock_drop_other hu.symm, .inl hback.2⟩
  | close => exact ⟨hback.1, fun _ => Database.lock_drop_other hu.symm, .inl hback.2⟩

variable {L} in
/-- A row that a session holds stays as that session sees it. -/
theorem Moved.held {G : T → L.Statement → Database T V → Prop} {R : T → Database T V → Prop}
    {t u : T} {d d' : Database T V} {k : K} (h : L.Moved G R u d d') (hu : u ≠ t)
    (hk : d.store.Holds t k) : d'.store.Holds t k ∧ d'.view t k = d.view t k := by
  obtain ⟨hholds, -, hview | ⟨-, rfl⟩⟩ := h.other hu
  · exact ⟨(hholds k).2 hk, hview k⟩
  · exact ⟨(hholds k).2 hk, Store.view_commit_of_holds hu.symm hk⟩

/-- **An invariant of the database**, what a session knows before a statement, and
what it knows between two of its calls. -/
structure Contract where
  Inv : Database T V → Prop
  Guard : T → L.Statement → Database T V → Prop
  Ready : T → Database T V → Prop
  run : ∀ {t e r a d d'}, Inv d → Guard t e d → L.run t r d e = some (.ok (a, d')) → Inv d'
  commit : ∀ {t d}, Inv d → Ready t d → Inv (d.commit t)
  rollback : ∀ {t d}, Inv d → Inv (d.rollback t)
  close : ∀ {t d}, Inv d → Inv (d.close t)
  ready_clean : ∀ {t d}, Inv d → d.store.Clean t → Ready t d
  ready_moved : ∀ {t u d d'}, u ≠ t → Inv d → Inv d' → L.Moved Guard Ready u d d' →
    Ready t d → Ready t d'

namespace Contract

variable {L} (C : L.Contract) {Launch : Type} (main : T → Launch → L.Program Unit)

abbrev Step (t : T) (d d' : Database T V) : Prop := L.Moved C.Guard C.Ready t d d'

/-- The guard of a command. -/
def guard (t : T) : L.Command → Database T V → Prop
  | .sql e, d => C.Guard t e d
  | .commit, d => C.Ready t d
  | _, _ => True

section

variable {C}

theorem step_of_change {t : T} {c : L.Command} {d d' : Database T V} (hg : C.guard t c d)
    (h : Change t d c d') : C.Step t d d' := by
  cases h with
  | none => exact .none
  | rollback => exact .rollback
  | commit => exact .commit hg
  | sql hr => exact .run hg hr

theorem step {t : T} {d d' : Database T V} (hd : C.Inv d) (h : C.Step t d d') : C.Inv d' := by
  cases h with
  | none => exact hd
  | run hg hr => exact C.run hd hg hr
  | commit hr => exact C.commit hd hr
  | rollback => exact C.rollback hd
  | close => exact C.close hd

end

/-- The protocol of the sessions. -/
def protocol : Protocol (L.sessions Launch main) where
  Inv s := C.Inv s.db ∧ FailedClean s
  Guard t c s := C.guard t c s.db
  EnvOk := nofun
  inv_exec hs hg h := ⟨step hs.1 (step_of_change hg (exec_change h)), hs.2.exec h⟩
  inv_close hs := ⟨C.close hs.1, hs.2.close⟩
  inv_env {a} := nomatch a

variable {C main} in
theorem step_of_other {t : T} {s s' : (L.sessions Launch main).State}
    (h : (C.protocol main).Other t s s') : ∃ u, u ≠ t ∧ C.Step u s.db s'.db := by
  cases h with
  | @exec u c m _ r _ hu _ hg he => exact ⟨u, hu, step_of_change hg (exec_change he)⟩
  | @close u _ hu _ => exact ⟨u, hu, .close⟩
  | @env a _ _ => exact nomatch a

/-- **What a session knows of the database**, and the others cannot undo. -/
structure Fact (t : T) where
  holds : Database T V → Prop
  stable : ∀ {u d d'}, u ≠ t → C.Inv d → C.Inv d' → C.Step u d d' → holds d → holds d'

namespace Fact

variable {C} {t : T}

/-- Both. -/
def and (A B : C.Fact t) : C.Fact t :=
  ⟨fun d => A.holds d ∧ B.holds d,
    fun hu hd hd' hm h => ⟨A.stable hu hd hd' hm h.1, B.stable hu hd hd' hm h.2⟩⟩

def assertion (A : C.Fact t) : (C.protocol main).Assertion t where
  holds s := A.holds s.db
  stable hs ht ho hA := by
    obtain ⟨u, hu, hm⟩ := step_of_other ho
    exact A.stable hu hs.1 ht.1 hm hA

end Fact

/-- The session can commit. -/
def ready (t : T) : C.Fact t := ⟨C.Ready t, fun hu hd hd' hm hr => C.ready_moved hu hd hd' hm hr⟩

/-! ### What a program of a session proves -/

/-- **From `A` the program ends in `B` of its value**; where it raises it leaves the
session ready. -/
def Proves {α : Type} (t : T) (A : C.Fact t) (p : L.Program α) (B : α → C.Fact t) : Prop :=
  (C.protocol main).Triple t (A.assertion main) p
    (.ends (fun a => (B a).assertion main) ((C.ready t).assertion main))

namespace Proves

variable {C main} {t : T} {A A' : C.Fact t} {α β : Type} {p : L.Program α} {B B' : α → C.Fact t}

theorem ret {a : α} (h : ∀ d, C.Inv d → A.holds d → (B a).holds d) :
    C.Proves main t A (pure a) B :=
  Protocol.Triple.pure fun s hs hA => h s.db hs.1 hA

theorem seq {B : α → C.Fact t} {R : β → C.Fact t} {f : α → L.Program β}
    (hp : C.Proves main t A p B) (hf : ∀ a, C.Proves main t (B a) (f a) R) :
    C.Proves main t A (p >>= f) R :=
  Protocol.Triple.seq hp hf

theorem pre (h : C.Proves main t A p B) (hA : ∀ d, C.Inv d → A'.holds d → A.holds d) :
    C.Proves main t A' p B :=
  Protocol.Triple.pre h fun s hs hA' => hA s.db hs.1 hA'

theorem post (h : C.Proves main t A p B) (hB : ∀ a d, C.Inv d → (B a).holds d → (B' a).holds d) :
    C.Proves main t A p B' :=
  Protocol.Triple.post h fun
    | .ok a => fun s hs hq => hB a s.db hs.1 hq
    | .error _ => fun _ _ hq => hq

/-- **A statement** that answers leaves `B` of its answer. -/
theorem sql {e : L.Statement} {B : L.Ans e → C.Fact t}
    (hg : ∀ d, C.Inv d → A.holds d → C.Guard t e d)
    (h : ∀ d d' r a, C.Inv d → C.Inv d' → A.holds d → L.run t r d e = some (.ok (a, d')) →
      (B a).holds d') :
    C.Proves main t A (sql e) B := by
  refine .perform (fun s hs hA => hg s.db hs.1 hA) fun m s r s' hs hs' hA _ he => ?_
  cases r with
  | ok a =>
    obtain ⟨r, hr⟩ := run_of_exec he
    exact h s.db s'.db r a hs.1 hs'.1 hA hr
  | error x => exact C.ready_clean hs'.1 (clean_of_error hs.2 he)

theorem raise {x : L.Err} {Q : Unit → C.Fact t} : C.Proves main t A (raise x) Q := by
  refine .perform (fun _ _ _ => trivial) fun m s r s' hs hs' _ _ he => ?_
  cases r with
  | ok a =>
    cases m with
    | runs r =>
      have he : L.exec t (.raise x) (.runs r) s = some (.ok a, s') := he
      unfold exec at he
      dsimp only at he
      split_ifs at he
      · cases (Prod.mk.inj (Option.some.inj he)).1
      · cases (Prod.mk.inj (Option.some.inj he)).1
    | fails => cases (Prod.mk.inj (Option.some.inj he)).1
    | lost => cases (Prod.mk.inj (Option.some.inj he)).1
  | error y => exact C.ready_clean hs'.1 (clean_of_error hs.2 he)

theorem commit : C.Proves main t (C.ready t) (.perform Command.commit) fun _ => C.ready t := by
  refine .perform (fun _ _ hA => hA) fun m s r s' hs hs' _ _ he => ?_
  have hclean : (C.ready t).holds s'.db := C.ready_clean hs'.1 (clean_of_commit hs.2 he)
  cases r with
  | ok _ => exact hclean
  | error _ => exact hclean

theorem rollback : C.Proves main t A (.perform Command.rollback) fun _ => C.ready t := by
  refine .perform (fun _ _ _ => trivial) fun m s r s' hs hs' _ _ he => ?_
  have hclean : (C.ready t).holds s'.db := C.ready_clean hs'.1 (clean_of_rollback hs.2 he)
  cases r with
  | ok _ => exact hclean
  | error _ => exact hclean

/-- Who ends ready whatever happens keeps ready. -/
theorem keeps (h : C.Proves main t (C.ready t) p fun _ => C.ready t) :
    Protocol.Keeps ((C.ready t).assertion main) α p :=
  Protocol.Triple.post h fun
    | .ok _ => fun _ _ hq => hq
    | .error _ => fun _ _ hq => hq

end Proves

/-! ### Every run -/

/-- The programs keep to the contract. -/
def Kept : Prop := ∀ t l, Protocol.Keeps ((C.ready t).assertion main) Unit (main t l)

section Runs

variable {C main}

/-- **The sessions keep the contract** when each of their programs does. -/
def Kept.verified (h : C.Kept main) : (C.protocol main).Verified fun _ _ => True where
  idle t := (C.ready t).assertion main
  envOk {a} := nomatch a
  close hs := C.ready_clean (C.close hs.1) Store.clean_rollback
  main t l := (h t l).post fun _ _ _ _ => trivial

variable {p q : (L.sessions Launch main).Pool}

/-- **Every state of every run keeps it.** -/
theorem Kept.reached (hk : C.Kept main) (h₀ : C.Inv .empty)
    (h : Machine.Reaches (fun _ _ => True) (Machine.idle (M := L.sessions Launch main) initial) p) :
    hk.verified.Sound p := by
  have hidle : hk.verified.Sound (Machine.idle (M := L.sessions Launch main) initial) := by
    refine Protocol.Verified.sound_idle ⟨h₀, fun t ht => nomatch ht⟩ fun t => ?_
    exact C.ready_clean h₀ (Store.clean_ofRows _ t)
  exact hidle.reaches h

theorem Kept.inv (hk : C.Kept main) (h₀ : C.Inv .empty)
    (h : Machine.Reaches (fun _ _ => True) (Machine.idle (M := L.sessions Launch main) initial) p) :
    C.Inv p.state.db :=
  (hk.reached h₀ h).1.1

/-- **What every move of a session keeps to, a whole run keeps to.** -/
theorem Kept.relates (hk : C.Kept main) {R : Database T V → Database T V → Prop}
    (hrefl : ∀ d, R d d) (htrans : ∀ {d e f}, R d e → R e f → R d f)
    (hmove : ∀ {t d d'}, C.Inv d → C.Step t d d' → R d d') (hp : hk.verified.Sound p)
    (h : Machine.Reaches (fun _ _ => True) p q) : R p.state.db q.state.db := by
  refine hp.relates (R := fun (s u : State T V) => R s.db u.db) (fun s : State T V => hrefl s.db)
    htrans ?_ ?_ ?_ h
  · intro t c m s r u hs hg he
    exact hmove hs.1 (step_of_change hg (exec_change he))
  · intro t s hs
    exact hmove hs.1 .close
  · intro a
    exact nomatch a

end Runs

end Contract

end Dialect

end Concurrency
