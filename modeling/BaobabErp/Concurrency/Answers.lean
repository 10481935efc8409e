/-
# What a program does when it is answered so

`Under J φ Q` is the weakest precondition of a program whose calls are answered as `J`
allows: it makes no call of the kind `φ`, and what it ends with satisfies `Q`.  It is about
every trace with such answers, finished or not (`Under.left`, `Under.causal`).
-/

import BaobabErp.Concurrency.Trace

namespace Concurrency
namespace Prog

variable {Eff : Type} {Ans : Eff → Type} {ε α β : Type} {φ : Eff → Prop}
  {J J' : Event Ans ε → Prop} {Q Q' : Except ε α → Prop}

/-- **Answered as `J` allows, the program makes no call in `φ` and ends as `Q` says.** -/
def Under (J : Event Ans ε → Prop) (φ : Eff → Prop) (Q : Except ε α → Prop) : Prog Ans ε α → Prop
  | ret r => Q r
  | call e k => ¬ φ e ∧ ∀ r, J ⟨e, r⟩ → Under J φ Q (k r)

namespace Under

theorem pure {a : α} (h : Q (.ok a)) : Under J φ Q (Pure.pure a : Prog Ans ε α) := h

theorem throw {x : ε} (h : Q (.error x)) : Under J φ Q (MonadExcept.throw x : Prog Ans ε α) := h

theorem mono {p : Prog Ans ε α} (h : Under J φ Q p) (hQ : ∀ r, Q r → Q' r) : Under J φ Q' p := by
  induction p with
  | ret r => exact hQ r h
  | call e k ih => exact ⟨h.1, fun r hr => ih r (h.2 r hr)⟩

theorem handle {p : Prog Ans ε α} {f : Except ε α → Prog Ans ε β} {Q : Except ε β → Prop}
    (h : Under J φ (fun r => Under J φ Q (f r)) p) : Under J φ Q (p.handle f) := by
  induction p with
  | ret r => exact h
  | call e k ih => exact ⟨h.1, fun r hr => ih r (h.2 r hr)⟩

/-- One program, then another that may rely on what the first returned. -/
theorem bind {p : Prog Ans ε α} {f : α → Prog Ans ε β} {Q : Except ε β → Prop} {P : α → Prop}
    (hp : Under J φ (fun r => (∀ a, r = .ok a → P a) ∧ ∀ x, r = .error x → Q (.error x)) p)
    (hf : ∀ a, P a → Under J φ Q (f a)) : Under J φ Q (p >>= f) := by
  refine handle (hp.mono fun r hr => ?_)
  cases r with
  | ok a => exact hf a (hr.1 a rfl)
  | error x => exact hr.2 x rfl

/-- One call, then a program that may rely on the answer. -/
theorem perform_bind {e : Eff} {f : Ans e → Prog Ans ε β} {Q : Except ε β → Prop} (he : ¬ φ e)
    (hok : ∀ a, J ⟨e, .ok a⟩ → Under J φ Q (f a)) (herror : ∀ x, J ⟨e, .error x⟩ → Q (.error x)) :
    Under J φ Q ((perform e : Prog Ans ε (Ans e)) >>= f) := by
  refine ⟨he, fun r hr => ?_⟩
  cases r with
  | ok a => exact hok a hr
  | error x => exact herror x hr

theorem perform {e : Eff} {Q : Except ε (Ans e) → Prop} (he : ¬ φ e) (h : ∀ r, J ⟨e, r⟩ → Q r) :
    Under J φ Q (perform e : Prog Ans ε (Ans e)) := ⟨he, h⟩

theorem tryCatch {p : Prog Ans ε α} {h : ε → Prog Ans ε α}
    (hp : Under J φ (fun r => (∀ a, r = .ok a → Q (.ok a)) ∧ ∀ x, r = .error x → Under J φ Q (h x)) p) :
    Under J φ Q (MonadExcept.tryCatch p h) := by
  refine handle (hp.mono fun r hr => ?_)
  cases r with
  | ok a => exact hr.1 a rfl
  | error x => exact hr.2 x rfl

theorem ite {c : Prop} [Decidable c] {p q : Prog Ans ε α} (hp : c → Under J φ Q p)
    (hq : ¬ c → Under J φ Q q) : Under J φ Q (if c then p else q) := by
  by_cases hc : c
  · rw [if_pos hc]
    exact hp hc
  · rw [if_neg hc]
    exact hq hc

/-- A program that makes no call in `φ`. -/
theorem quiet {p : Prog Ans ε α} (h : ¬ Calls φ p) : Under J φ (fun _ => True) p := by
  induction p with
  | ret r => exact True.intro
  | call e k ih => exact ⟨fun he => h (.here he), fun r _ => ih r fun hr => h (.later r hr)⟩

/-- **What a trace with such answers left.** -/
theorem left {p q : Prog Ans ε α} {tr : List (Event Ans ε)} (h : Under J φ Q p) (ht : Trace p tr q)
    (hJ : ∀ y ∈ tr, J y) : (∀ y ∈ tr, ¬ φ y.1) ∧ Under J φ Q q := by
  induction ht with
  | nil => exact ⟨fun y hy => absurd hy List.not_mem_nil, h⟩
  | cons _ ih =>
    obtain ⟨hmade, hleft⟩ := ih (h.2 _ (hJ _ List.mem_cons_self)) fun y hy => hJ y (List.mem_cons_of_mem _ hy)
    refine ⟨fun y hy => ?_, hleft⟩
    rcases List.mem_cons.1 hy with rfl | hy
    · exact h.1
    · exact hmade y hy

/-- **Answers that depend on what was called before**: while no call in `φ` was made, the
next one is answered as `J` allows, so none is made at all. -/
theorem causal {p q : Prog Ans ε α} {tr : List (Event Ans ε)} (h : Under J φ Q p) (ht : Trace p tr q)
    (hJ : ∀ before y after, tr = before ++ y :: after → (∀ z ∈ before, ¬ φ z.1) → J y) :
    (∀ y ∈ tr, ¬ φ y.1) ∧ Under J φ Q q := by
  induction ht with
  | nil => exact ⟨fun y hy => absurd hy List.not_mem_nil, h⟩
  | @cons e k r tr q _ ih =>
    have hfirst : J ⟨e, r⟩ := hJ [] _ tr rfl fun z hz => absurd hz List.not_mem_nil
    obtain ⟨hmade, hleft⟩ := ih (h.2 r hfirst) fun before y after heq hbefore => by
      refine hJ (⟨e, r⟩ :: before) y after (congrArg _ heq) fun z hz => ?_
      rcases List.mem_cons.1 hz with rfl | hz
      · exact h.1
      · exact hbefore z hz
    refine ⟨fun y hy => ?_, hleft⟩
    rcases List.mem_cons.1 hy with rfl | hy
    · exact h.1
    · exact hmade y hy

theorem sound {p : Prog Ans ε α} {tr : List (Event Ans ε)} {r : Except ε α} (h : Under J φ Q p)
    (ht : Trace p tr (ret r)) (hJ : ∀ y ∈ tr, J y) : Q r := (h.left ht hJ).2

end Under

/-! ### Fixed answers -/

theorem answeredCalls_handle (g : (e : Eff) → Except ε (Ans e)) (p : Prog Ans ε α)
    (f : Except ε α → Prog Ans ε β) : (p.handle f).answeredCalls g =
      p.answeredCalls g ++ (f (p.answered g)).answeredCalls g := by
  induction p with
  | ret r => rfl
  | call e k ih => exact congrArg (_ :: ·) (ih (g e))

theorem answered_tryCatch {g : (e : Eff) → Except ε (Ans e)} {p : Prog Ans ε α} {x : ε}
    {h : ε → Prog Ans ε α} (hp : p.answered g = .error x) :
    (tryCatch p h).answered g = (h x).answered g ∧
      (tryCatch p h).answeredCalls g = p.answeredCalls g ++ (h x).answeredCalls g := by
  rw [tryCatch_eq, answered_handle, answeredCalls_handle, hp]
  exact ⟨rfl, rfl⟩

theorem answered_bind_error {g : (e : Eff) → Except ε (Ans e)} {p : Prog Ans ε α} {x : ε}
    {f : α → Prog Ans ε β} (h : p.answered g = .error x) : (p >>= f).answered g = .error x := by
  rw [bind_eq, answered_handle, h]
  rfl

theorem answeredCalls_bind_error {g : (e : Eff) → Except ε (Ans e)} {p : Prog Ans ε α} {x : ε}
    {f : α → Prog Ans ε β} (h : p.answered g = .error x) :
    (p >>= f).answeredCalls g = p.answeredCalls g := by
  rw [bind_eq, answeredCalls_handle, h]
  exact List.append_nil _

theorem answeredCalls_bind {g : (e : Eff) → Except ε (Ans e)} {p : Prog Ans ε α} {a : α}
    {f : α → Prog Ans ε β} (h : p.answered g = .ok a) :
    (p >>= f).answeredCalls g = p.answeredCalls g ++ (f a).answeredCalls g := by
  rw [bind_eq, answeredCalls_handle, h]

end Prog
end Concurrency
