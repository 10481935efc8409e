/-
# The protocol of an invariant

Where nothing has to be said of single calls, the protocol of an invariant guards a
call by what it asks for: that the call keeps the invariant (`Protocol.keeping`).

A transaction that breaks off is undone by whoever catches what it raised.  `Returns`
asks a program for its assertion at a normal end only; programs that return follow
one another, and `Returns.recovered` is the catch that undoes the rest.
-/

import BaobabErp.Concurrency.RelyGuarantee

namespace Concurrency
namespace Protocol

variable {M : Machine}

/-- **The protocol of an invariant**: a call is guarded where it keeps it. -/
def keeping (I : M.State → Prop) (hclose : ∀ w s, I s → I (M.close w s))
    (henv : ∀ a s t, I s → M.env a s = some t → I t) : Protocol M where
  Inv := I
  Guard w e s := ∀ c r t, M.exec w e c s = some (r, t) → I t
  EnvOk _ _ := True
  inv_exec _ hg he := hg _ _ _ he
  inv_close hs := hclose _ _ hs
  inv_env hs _ he := henv _ _ _ hs he

variable {P : Protocol M} {w : M.Worker} {A B : P.Assertion w} {α β : Type}

/-- A program that returns leaves `A` as it is. -/
def Returns (A : P.Assertion w) (α : Type) (p : Prog M.Ans M.Err α) : Prop :=
  P.Triple w A p (.ends (fun _ => A) (.const True))

theorem Keeps.returns {p : Prog M.Ans M.Err α} (h : Keeps A α p) : Returns A α p := by
  refine h.post fun r s _ hr => ?_
  cases r with
  | ok a => exact hr
  | error x => exact trivial

namespace Returns

theorem pure (a : α) : Returns A α (pure a) :=
  Triple.pure fun _ _ h => h

theorem throw (x : M.Err) : Returns A α (throw x) :=
  Triple.throw fun _ _ _ => trivial

theorem bind {p : Prog M.Ans M.Err α} {f : α → Prog M.Ans M.Err β} (hp : Returns A α p)
    (hf : ∀ a, Returns A β (f a)) : Returns A β (p >>= f) :=
  Triple.seq hp hf

/-- **What a program left undone is undone**, and raised again. -/
theorem recovered {p : Prog M.Ans M.Err α} {undo : Prog M.Ans M.Err Unit} (hp : Returns A α p)
    (hundo : P.Triple w (.const True) undo fun _ => A) :
    Keeps A α (tryCatch p fun x => undo >>= fun _ => MonadExcept.throw x) := by
  refine Triple.tryCatch hp (fun _ _ _ h => h) fun x => ?_
  exact hundo.bind (fun _ => .throw fun _ _ h => h) fun _ _ _ h => h

end Returns

end Protocol
end Concurrency
