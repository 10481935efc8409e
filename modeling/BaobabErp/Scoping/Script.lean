/-
# Programs with dynamic scopes

A program calls, or runs a block inside a scope, and goes on with how the call or
the block ended: it returned, or it raised.  Entering a scope changes the state.
Leaving it, however the block ended, gets the state at the entry and the state at
the end of the block: that is what a token of a context variable restores.

The scopes a run enters are numbered in the order it enters them.  A call is
given the numbered scopes around it, the innermost first, so that what it leaves
in the state can say which run of which scope it happened in.
-/

import Mathlib.Logic.Basic

namespace Scoping

/-- **Programs with scopes**: `Ans` is what a call answers, `Val` what a program
returns, `ε` what either may raise. -/
inductive Script (Scope Call Ans ε Val : Type)
  | ret (r : Except ε Val)
  | call (c : Call) (next : Except ε Ans → Script Scope Call Ans ε Val)
  | within (s : Scope) (block : Script Scope Call Ans ε Val)
      (next : Except ε Val → Script Scope Call Ans ε Val)

/-- The numbered scopes around a point of a run, the innermost first. -/
abbrev Path (Scope : Type) := List (Nat × Scope)

/-- **What scopes and calls do to a state.** -/
structure Semantics (Scope Call Ans ε State : Type) where
  enter : Scope → State → State
  /-- Leaving: the state at the entry, then the state at the end of the block. -/
  leave : Scope → State → State → State
  perform : Path Scope → Call → State → Except ε Ans × State

namespace Script

variable {Scope Call Ans ε Val State : Type} (S : Semantics Scope Call Ans ε State)

/-- **The run of a program**, from the number of scopes entered before it and a
state: how it ended, and both afterwards. -/
def run : Script Scope Call Ans ε Val → Path Scope → Nat × State → Except ε Val × Nat × State
  | ret r, _, σ => (r, σ)
  | call c next, path, σ =>
    let answer := S.perform path c σ.2
    (next answer.1).run path (σ.1, answer.2)
  | within s block next, path, σ =>
    let ended := block.run ((σ.1, s) :: path) (σ.1 + 1, S.enter s σ.2)
    (next ended.1).run path (ended.2.1, S.leave s σ.2 ended.2.2)

/-- **The rule of runs.**  A relation between the states before and after holds of
every run when it composes, holds of every call, and holds across a scope whenever
it holds of the block inside. -/
theorem run_rel {R : Path Scope → Nat × State → Nat × State → Prop}
    (refl : ∀ path σ, R path σ σ)
    (trans : ∀ {path σ τ ρ}, R path σ τ → R path τ ρ → R path σ ρ)
    (perform : ∀ path c σ, R path σ (σ.1, (S.perform path c σ.2).2))
    (within : ∀ {path s σ τ}, R ((σ.1, s) :: path) (σ.1 + 1, S.enter s σ.2) τ →
      R path σ (τ.1, S.leave s σ.2 τ.2)) :
    ∀ (p : Script Scope Call Ans ε Val) (path : Path Scope) (σ : Nat × State),
      R path σ (p.run S path σ).2 := by
  intro p
  induction p with
  | ret r => exact fun path σ => refl path σ
  | call c next ih =>
    intro path σ
    exact trans (perform path c σ) (ih _ path _)
  | within s block next ihBlock ihNext =>
    intro path σ
    exact trans (within (ihBlock _ _)) (ihNext _ path _)

end Script

end Scoping
