/-
# Sequential programs over an effect signature

A program is a tree: it has returned, or it calls an effect and goes on with
whatever the call answered.  A call may raise instead of answering, so a
continuation takes an `Except`, and the two Python constructs that look at how
a block ended (`try … except` and `try … finally`, `with`) are both instances
of one operation, `Prog.handle`.  What an effect does is not said here: a
program is syntax, and `Concurrency.Pool` runs many of them over one state.
-/

import Mathlib.Logic.Basic

namespace Concurrency

/-- **Programs over the signature `Ans`.**  `Ans e` is the type of the answer
of effect `e`, `ε` the type of what a call or the program may raise. -/
inductive Prog {Eff : Type} (Ans : Eff → Type) (ε α : Type) : Type
  | ret (r : Except ε α)
  | call (e : Eff) (k : Except ε (Ans e) → Prog Ans ε α)

namespace Prog

variable {Eff : Type} {Ans : Eff → Type} {ε α β γ : Type}

/-- Runs `p`, then `f` on how `p` ended, whether it returned or raised. -/
def handle : Prog Ans ε α → (Except ε α → Prog Ans ε β) → Prog Ans ε β
  | ret r, f => f r
  | call e k, f => call e fun r => (k r).handle f

/-- One call of `e`: its answer is returned, what it raises is raised. -/
def perform (e : Eff) : Prog Ans ε (Ans e) := call e ret

instance : Monad (Prog Ans ε) where
  pure a := ret (.ok a)
  bind p f := p.handle fun
    | .ok a => f a
    | .error x => ret (.error x)

instance : MonadExceptOf ε (Prog Ans ε) where
  throw x := ret (.error x)
  tryCatch p h := p.handle fun
    | .ok a => ret (.ok a)
    | .error x => h x

/-- `try: p finally: last`.  What `last` raises replaces how `p` ended. -/
def ensure (p : Prog Ans ε α) (last : Prog Ans ε Unit) : Prog Ans ε α :=
  p.handle fun r => last.handle fun
    | .ok _ => ret r
    | .error x => ret (.error x)

/-- The program with every call carried out by a program over other effects. -/
def interpret {Eff' : Type} {Ans' : Eff' → Type} (f : (e : Eff) → Prog Ans' ε (Ans e)) :
    Prog Ans ε α → Prog Ans' ε α
  | ret r => ret r
  | call e k => (f e).handle fun r => (k r).interpret f

/-- What the program comes to when nothing changes between its calls. -/
def answered (f : (e : Eff) → Except ε (Ans e)) : Prog Ans ε α → Except ε α
  | ret r => r
  | call e k => (k (f e)).answered f

theorem pure_eq (a : α) : (pure a : Prog Ans ε α) = ret (.ok a) := rfl

theorem throw_eq (x : ε) : (throw x : Prog Ans ε α) = ret (.error x) := rfl

theorem bind_eq (p : Prog Ans ε α) (f : α → Prog Ans ε β) :
    p >>= f = p.handle fun
      | .ok a => f a
      | .error x => ret (.error x) := rfl

theorem tryCatch_eq (p : Prog Ans ε α) (h : ε → Prog Ans ε α) :
    tryCatch p h = p.handle fun
      | .ok a => ret (.ok a)
      | .error x => h x := rfl

theorem handle_handle (p : Prog Ans ε α) (f : Except ε α → Prog Ans ε β)
    (g : Except ε β → Prog Ans ε γ) :
    (p.handle f).handle g = p.handle fun r => (f r).handle g := by
  induction p with
  | ret r => rfl
  | call e k ih => exact congrArg (call e) (funext fun r => ih r)

theorem bind_bind (p : Prog Ans ε α) (f : α → Prog Ans ε β) (g : β → Prog Ans ε γ) :
    (p >>= f) >>= g = p >>= fun a => f a >>= g := by
  rw [bind_eq, bind_eq, handle_handle, bind_eq]
  congr 1
  funext r
  cases r with
  | ok a => exact (bind_eq (f a) g).symm
  | error x => rfl

theorem answered_handle (g : (e : Eff) → Except ε (Ans e)) (p : Prog Ans ε α)
    (f : Except ε α → Prog Ans ε β) : (p.handle f).answered g = (f (p.answered g)).answered g := by
  induction p with
  | ret r => rfl
  | call e k ih => exact ih (g e)

theorem answered_bind {g : (e : Eff) → Except ε (Ans e)} {p : Prog Ans ε α} {a : α}
    {f : α → Prog Ans ε β} (h : p.answered g = .ok a) :
    (p >>= f).answered g = (f a).answered g := by
  rw [bind_eq, answered_handle, h]

/-! ### The calls of a program -/

/-- **In some run the program makes a call that satisfies `φ`**, whatever its
calls before that answered or raised. -/
inductive Calls (φ : Eff → Prop) : Prog Ans ε α → Prop
  | here {e : Eff} {k : Except ε (Ans e) → Prog Ans ε α} : φ e → Calls φ (call e k)
  | later {e : Eff} {k : Except ε (Ans e) → Prog Ans ε α} (r : Except ε (Ans e)) :
      Calls φ (k r) → Calls φ (call e k)

theorem not_calls_ret {φ : Eff → Prop} {r : Except ε α} : ¬ Calls φ (ret r : Prog Ans ε α) := by
  intro h
  cases h

theorem Calls.imp {φ ψ : Eff → Prop} {p : Prog Ans ε α} (h : Calls φ p) (himp : ∀ e, φ e → ψ e) :
    Calls ψ p := by
  induction h with
  | here he => exact .here (himp _ he)
  | later r _ ih => exact .later r ih

/-! ### Closed properties of programs -/

/-- **A property of programs that running one after another keeps**, whatever
exceptions are raised and caught in between. -/
structure Closed (Φ : (α : Type) → Prog Ans ε α → Prop) : Prop where
  ret : ∀ {α} (r : Except ε α), Φ α (ret r)
  handle : ∀ {α β} {p : Prog Ans ε α} {f : Except ε α → Prog Ans ε β},
    Φ α p → (∀ r, Φ β (f r)) → Φ β (p.handle f)

namespace Closed

variable {Φ : (α : Type) → Prog Ans ε α → Prop}

theorem pure (h : Closed Φ) (a : α) : Φ α (pure a) := h.ret (.ok a)

theorem throw (h : Closed Φ) (x : ε) : Φ α (throw x) := h.ret (.error x)

theorem bind (h : Closed Φ) {p : Prog Ans ε α} {f : α → Prog Ans ε β} (hp : Φ α p)
    (hf : ∀ a, Φ β (f a)) : Φ β (p >>= f) :=
  h.handle hp fun
    | .ok a => hf a
    | .error x => h.ret (.error x)

theorem tryCatch (h : Closed Φ) {p : Prog Ans ε α} {f : ε → Prog Ans ε α} (hp : Φ α p)
    (hf : ∀ x, Φ α (f x)) : Φ α (tryCatch p f) :=
  h.handle hp fun
    | .ok a => h.ret (.ok a)
    | .error x => hf x

theorem ensure (h : Closed Φ) {p : Prog Ans ε α} {last : Prog Ans ε Unit} (hp : Φ α p)
    (hl : Φ Unit last) : Φ α (p.ensure last) :=
  h.handle hp fun r => h.handle hl fun
    | .ok _ => h.ret r
    | .error x => h.ret (.error x)

end Closed

end Prog

end Concurrency
