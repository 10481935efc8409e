/-
# A program running alone

`Alone step p s x t`: from the state `s` the program `p` ends with `x` in the
state `t`, nothing else happening between its calls.  What a call may answer and do
is the relation `step`.  Programs compose (`handle_iff`), and a relation every call
keeps is one a whole run keeps (`Alone.keeps`).
-/

import BaobabErp.Concurrency.Program

namespace Concurrency
namespace Prog

variable {Eff : Type} {Ans : Eff → Type} {ε α β State : Type}
  {step : (e : Eff) → State → Except ε (Ans e) → State → Prop}

/-- **From `s`, the program ends with `x` in `t`.** -/
inductive Alone (step : (e : Eff) → State → Except ε (Ans e) → State → Prop) :
    Prog Ans ε α → State → Except ε α → State → Prop
  | ret {x : Except ε α} {s : State} : Alone step (ret x) s x s
  | call {e : Eff} {k : Except ε (Ans e) → Prog Ans ε α} {s t u : State} {r : Except ε (Ans e)}
      {x : Except ε α} : step e s r t → Alone step (k r) t x u → Alone step (call e k) s x u

namespace Alone

variable {p : Prog Ans ε α} {s t u : State} {x : Except ε α} {y : Except ε β}

theorem of_ret {r : Except ε α} (h : Alone step (Prog.ret r) s x t) : x = r ∧ t = s := by
  cases h
  exact ⟨rfl, rfl⟩

theorem of_call {e : Eff} {k : Except ε (Ans e) → Prog Ans ε α}
    (h : Alone step (Prog.call e k) s x u) : ∃ r t, step e s r t ∧ Alone step (k r) t x u := by
  cases h with
  | call hs hk => exact ⟨_, _, hs, hk⟩

theorem of_perform {e : Eff} {x : Except ε (Ans e)} (h : Alone step (perform e) s x t) :
    step e s x t := by
  obtain ⟨r, t', hs, hk⟩ := of_call h
  obtain ⟨rfl, rfl⟩ := of_ret hk
  exact hs

theorem perform {e : Eff} {x : Except ε (Ans e)} (h : step e s x t) :
    Alone step (Prog.perform e) s x t :=
  .call h .ret

/-- **A run of one program after another** is a run of the first and one of the
second. -/
theorem handle_iff {f : Except ε α → Prog Ans ε β} :
    Alone step (p.handle f) s y u ↔ ∃ x t, Alone step p s x t ∧ Alone step (f x) t y u := by
  constructor
  · intro h
    induction p generalizing s with
    | ret r => exact ⟨r, s, .ret, h⟩
    | call e k ih =>
      obtain ⟨r, t, hs, hk⟩ := of_call h
      obtain ⟨x, t', hp, hf⟩ := ih r hk
      exact ⟨x, t', .call hs hp, hf⟩
  · rintro ⟨x, t, hp, hf⟩
    induction hp with
    | ret => exact hf
    | call hs _ ih => exact .call hs (ih hf)

/-- A run of a bind raised in its first part, or ran both. -/
theorem of_bind {f : α → Prog Ans ε β} (h : Alone step (p >>= f) s y u) :
    (∃ z, Alone step p s (.error z) u ∧ y = .error z) ∨
    ∃ a t, Alone step p s (.ok a) t ∧ Alone step (f a) t y u := by
  rw [bind_eq, handle_iff] at h
  obtain ⟨x, t, hp, hf⟩ := h
  cases x with
  | error z =>
    obtain ⟨rfl, rfl⟩ := of_ret hf
    exact .inl ⟨z, hp, rfl⟩
  | ok a => exact .inr ⟨a, t, hp, hf⟩

/-- A bind that returned ran both its parts. -/
theorem of_bind_ok {f : α → Prog Ans ε β} {b : β} (h : Alone step (p >>= f) s (.ok b) u) :
    ∃ a t, Alone step p s (.ok a) t ∧ Alone step (f a) t (.ok b) u := by
  rcases h.of_bind with ⟨z, -, hz⟩ | h
  · cases hz
  · exact h

theorem bind {a : α} {f : α → Prog Ans ε β} (hp : Alone step p s (.ok a) t)
    (hf : Alone step (f a) t y u) : Alone step (p >>= f) s y u := by
  rw [bind_eq, handle_iff]
  exact ⟨.ok a, t, hp, hf⟩

theorem bind_error {z : ε} {f : α → Prog Ans ε β} (hp : Alone step p s (.error z) t) :
    Alone step (p >>= f) s (.error z) t := by
  rw [bind_eq, handle_iff]
  exact ⟨.error z, t, hp, .ret⟩

theorem of_throw {z : ε} (h : Alone step (throw z : Prog Ans ε α) s x t) :
    x = .error z ∧ t = s :=
  of_ret h

theorem of_pure {a : α} (h : Alone step (pure a : Prog Ans ε α) s x t) : x = .ok a ∧ t = s :=
  of_ret h

/-- **A relation every call keeps is kept by a run.** -/
theorem keeps {R : State → State → Prop} (refl : ∀ s, R s s)
    (trans : ∀ {s t u}, R s t → R t u → R s u) (hstep : ∀ {e s r t}, step e s r t → R s t)
    (h : Alone step p s x u) : R s u := by
  induction h with
  | ret => exact refl _
  | call hs _ ih => exact trans (hstep hs) ih

/-- **A relation is kept by a run that makes no call of a kind** where the other calls
keep it. -/
theorem keeps_of_quiet {φ : Eff → Prop} {R : State → State → Prop} (refl : ∀ s, R s s)
    (trans : ∀ {s t u}, R s t → R t u → R s u)
    (hstep : ∀ {e s r t}, ¬ φ e → step e s r t → R s t) (hp : ¬ Calls φ p)
    (h : Alone step p s x u) : R s u := by
  induction h with
  | ret => exact refl _
  | call hs _ ih =>
    have hhead := hstep (fun he => hp (.here he)) hs
    exact trans hhead (ih fun hc => hp (.later _ hc))

/-- A run whose calls are calls on a part of the state is a run on that part. -/
theorem map {State' : Type} {step' : (e : Eff) → State' → Except ε (Ans e) → State' → Prop}
    (f : State → State') (hstep : ∀ {e s r t}, step e s r t → step' e (f s) r (f t))
    (h : Alone step p s x u) : Alone step' p (f s) x (f u) := by
  induction h with
  | ret => exact .ret
  | call hs _ ih => exact .call (hstep hs) ih

/-- **A run in which every call has one way to end.** -/
def along (f : (e : Eff) → State → Option (Except ε (Ans e) × State)) :
    Prog Ans ε α → State → Option (Except ε α × State)
  | .ret x, s => some (x, s)
  | .call e k, s => (f e s).bind fun (r, t) => along f (k r) t

theorem of_along {f : (e : Eff) → State → Option (Except ε (Ans e) × State)}
    (h : along f p s = some (x, t)) : Alone (fun e s r t => f e s = some (r, t)) p s x t := by
  induction p generalizing s with
  | ret r =>
    obtain ⟨rfl, rfl⟩ := Prod.mk.inj (Option.some.inj h)
    exact .ret
  | call e k ih =>
    obtain ⟨⟨r, u⟩, hs, hk⟩ := Option.bind_eq_some_iff.1 h
    exact .call hs (ih r hk)

/-- **Where every call can end, every program can.** -/
theorem exists_run (total : ∀ e s, ∃ r t, step e s r t) (p : Prog Ans ε α) (s : State) :
    ∃ x t, Alone step p s x t := by
  induction p generalizing s with
  | ret r => exact ⟨r, s, .ret⟩
  | call e k ih =>
    obtain ⟨r, t, hs⟩ := total e s
    obtain ⟨x, u, hk⟩ := ih r t
    exact ⟨x, u, .call hs hk⟩

end Alone
end Prog
end Concurrency
