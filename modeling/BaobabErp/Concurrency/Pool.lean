/-
# Workers over one state, in any order

A `Machine` says what one call of an effect by one worker does to a shared
state, what a worker's end leaves of it, and what the environment may do.  A
`Pool` holds the state and the program every worker is in the middle of.  One
action makes one call of one worker, launches a worker, ends one (it returned,
or it died at that point: the connection closes either way) or moves the
environment; `Reaches` is any number of actions in any order.

`exec` is a function of a `choice`, which settles everything the state does not
(what an external party answers, whether a call fails, what the clock says), so
a run is a list of actions and evaluates (`run`, `reaches_of_run`).
-/

import BaobabErp.Concurrency.Program
import Mathlib.Logic.Function.Basic

namespace Concurrency

/-- **What the workers share and what a call does.**  `exec w e c s = none`
says that the call blocks in `s` (under that choice); otherwise it answers or
raises and leaves a state. -/
structure Machine where
  Worker : Type
  Eff : Type
  Ans : Eff → Type
  Err : Type
  State : Type
  Choice : Type
  Launch : Type
  Env : Type
  exec : Worker → (e : Eff) → Choice → State → Option (Except Err (Ans e) × State)
  main : Worker → Launch → Prog Ans Err Unit
  close : Worker → State → State
  env : Env → State → Option State

namespace Machine

variable (M : Machine)

/-- The shared state and the rest of the program of every worker that runs. -/
structure Pool where
  state : M.State
  running : M.Worker → Option (Prog M.Ans M.Err Unit)

/-- One scheduling decision. -/
inductive Action
  | launch (w : M.Worker) (l : M.Launch)
  | call (w : M.Worker) (c : M.Choice)
  | stop (w : M.Worker)
  | env (a : M.Env)

variable {M}

/-- Nobody runs. -/
def idle (s : M.State) : M.Pool := ⟨s, fun _ => none⟩

variable [DecidableEq M.Worker]

/-- What one action does; `none` when it is not possible. -/
def step : M.Action → M.Pool → Option M.Pool
  | .launch w l, p =>
    match p.running w with
    | none => some { p with running := Function.update p.running w (some (M.main w l)) }
    | some _ => none
  | .call w c, p =>
    match p.running w with
    | some (.call e k) =>
      match M.exec w e c p.state with
      | some (r, s) => some ⟨s, Function.update p.running w (some (k r))⟩
      | none => none
    | _ => none
  | .stop w, p =>
    match p.running w with
    | some _ => some ⟨M.close w p.state, Function.update p.running w none⟩
    | none => none
  | .env a, p =>
    match M.env a p.state with
    | some s => some { p with state := s }
    | none => none

/-- A whole schedule; `none` when an action of it is not possible. -/
def run : List M.Action → M.Pool → Option M.Pool
  | [], p => some p
  | a :: as, p => (step a p).bind (run as)

/-- `q` is reached from `p` by actions that were all allowed where they were taken. -/
inductive Reaches (Ok : M.Action → M.Pool → Prop) (p : M.Pool) : M.Pool → Prop
  | refl : Reaches Ok p p
  | step {q r : M.Pool} {a : M.Action} :
      Reaches Ok p q → Ok a q → M.step a q = some r → Reaches Ok p r

namespace Reaches

variable {Ok : M.Action → M.Pool → Prop} {p q r : M.Pool}

theorem trans (h : Reaches Ok p q) (h' : Reaches Ok q r) : Reaches Ok p r := by
  induction h' with
  | refl => exact h
  | step _ ha hs ih => exact ih.step ha hs

/-- **Induction over a run.**  What one allowed action keeps, a whole run keeps. -/
theorem invariant {I : M.Pool → Prop} (h : Reaches Ok p q) (h₀ : I p)
    (hs : ∀ a q r, Ok a q → I q → M.step a q = some r → I r) : I q := by
  induction h with
  | refl => exact h₀
  | step _ ha hst ih => exact hs _ _ _ ha ih hst

end Reaches

/-- **A schedule that evaluates is a run.** -/
theorem reaches_of_run {Ok : M.Action → M.Pool → Prop} :
    ∀ {as : List M.Action} {p q : M.Pool}, (∀ a ∈ as, ∀ q, Ok a q) → run as p = some q →
      Reaches Ok p q
  | [], p, q, _, h => by cases h; exact .refl
  | a :: as, p, q, hOk, h => by
      obtain ⟨r, hr, hrun⟩ := Option.bind_eq_some_iff.1 h
      exact (Reaches.refl.step (hOk a List.mem_cons_self p) hr).trans
        (reaches_of_run (fun b hb => hOk b (List.mem_cons_of_mem _ hb)) hrun)

/-- The pool a schedule ends in is one a run reaches. -/
theorem reaches_get {Ok : M.Action → M.Pool → Prop} {as : List M.Action} {p : M.Pool}
    (hOk : ∀ a ∈ as, ∀ q, Ok a q) (h : (run as p).isSome) : Reaches Ok p ((run as p).get h) :=
  reaches_of_run hOk (Option.some_get h).symm

/-- **What one action can be.**  Everything a later proof needs of `step`: who
moved, what was called, and what is left running. -/
theorem step_cases {a : M.Action} {p q : M.Pool} (h : step a p = some q) :
    (∃ w l, a = .launch w l ∧ p.running w = none ∧
      q = ⟨p.state, Function.update p.running w (some (M.main w l))⟩) ∨
    (∃ w c e k r s, a = .call w c ∧ p.running w = some (.call e k) ∧
      M.exec w e c p.state = some (r, s) ∧
      q = ⟨s, Function.update p.running w (some (k r))⟩) ∨
    (∃ w m, a = .stop w ∧ p.running w = some m ∧
      q = ⟨M.close w p.state, Function.update p.running w none⟩) ∨
    (∃ b s, a = .env b ∧ M.env b p.state = some s ∧ q = ⟨s, p.running⟩) := by
  cases a with
  | launch w l =>
    cases hw : p.running w with
    | none =>
      simp only [step, hw, Option.some.injEq] at h
      exact .inl ⟨w, l, rfl, hw, h.symm⟩
    | some m => simp only [step, hw, reduceCtorEq] at h
  | call w c =>
    cases hw : p.running w with
    | none => simp only [step, hw, reduceCtorEq] at h
    | some m =>
      cases m with
      | ret r => simp only [step, hw, reduceCtorEq] at h
      | call e k =>
        cases he : M.exec w e c p.state with
        | none => simp only [step, hw, he, reduceCtorEq] at h
        | some rs =>
          simp only [step, hw, he, Option.some.injEq] at h
          exact .inr (.inl ⟨w, c, e, k, rs.1, rs.2, rfl, hw, he, h.symm⟩)
  | stop w =>
    cases hw : p.running w with
    | none => simp only [step, hw, reduceCtorEq] at h
    | some m =>
      simp only [step, hw, Option.some.injEq] at h
      exact .inr (.inr (.inl ⟨w, m, rfl, hw, h.symm⟩))
  | env b =>
    cases hb : M.env b p.state with
    | none => simp only [step, hb, reduceCtorEq] at h
    | some s =>
      simp only [step, hb, Option.some.injEq] at h
      exact .inr (.inr (.inr ⟨b, s, rfl, hb, h.symm⟩))

end Machine

end Concurrency
