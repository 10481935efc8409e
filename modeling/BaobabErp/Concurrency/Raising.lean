/-
# What a program raises, and what of it comes from its calls

Among the calls of a program some are watched.  A program *passes on* what they raise when
no handler stands between: a watched call that raises ends the program with the same
exception, and the program ends with an unexpected exception only where a watched call
raised it.  It *shows* them when it handles what they raise and its result tells: with a
watched call that raised, the result is not good.
-/

import BaobabErp.Concurrency.Trace

namespace Concurrency
namespace Prog

variable {Eff : Type} {Ans : Eff → Type} {ε α β : Type} {φ : Eff → Prop} {V : ε → Prop}

/-- The other calls raise what is expected of them. -/
def Expected (φ : Eff → Prop) (V : ε → Prop) (tr : List (Event Ans ε)) : Prop :=
  ∀ y ∈ tr, ¬ φ y.1 → ∀ x, y.2 = .error x → V x

/-- **What a watched call raises is what the program ends with**, and nothing else
unexpected is. -/
def PassesOn (φ : Eff → Prop) (V : ε → Prop) (p : Prog Ans ε α) : Prop :=
  ∀ tr r, Trace p tr (ret r) → Expected φ V tr →
    (∀ y ∈ tr, φ y.1 → ∀ x, y.2 = .error x → r = .error x) ∧
    ∀ x, r = .error x → V x ∨ ∃ y ∈ tr, φ y.1 ∧ y.2 = .error x

namespace PassesOn

theorem ret {r : Except ε α} (hr : ∀ x, r = .error x → V x) : PassesOn φ V (ret r : Prog Ans ε α) := by
  intro tr r' h _
  obtain ⟨rfl, heq⟩ := Trace.of_ret h
  obtain rfl : r' = r := Prog.ret.inj heq
  exact ⟨fun y hy => absurd hy List.not_mem_nil, fun x hx => .inl (hr x hx)⟩

theorem pure (a : α) : PassesOn φ V (Pure.pure a : Prog Ans ε α) := .ret nofun

theorem throw {x : ε} (hx : V x) : PassesOn φ V (MonadExcept.throw x : Prog Ans ε α) :=
  .ret fun _ h => Except.error.inj h ▸ hx

/-- One call. -/
theorem perform (e : Eff) : PassesOn φ V (perform e : Prog Ans ε (Ans e)) := by
  intro tr r h hV
  obtain ⟨a, rest, rfl, hk⟩ := Trace.call_ret h
  obtain ⟨rfl, heq⟩ := Trace.of_ret hk
  obtain rfl : r = a := Prog.ret.inj heq
  constructor
  · intro y hy _ x hx
    rw [List.mem_singleton.1 hy] at hx
    exact hx
  · intro x hx
    by_cases he : φ e
    · exact .inr ⟨_, List.mem_singleton_self _, he, hx⟩
    · exact .inl (hV _ (List.mem_singleton_self _) he x hx)

theorem bind {p : Prog Ans ε α} {f : α → Prog Ans ε β} (hp : PassesOn φ V p)
    (hf : ∀ a, PassesOn φ V (f a)) : PassesOn φ V (p >>= f) := by
  intro tr r h hV
  rcases Trace.of_bind h with ⟨p', -, hne, heq⟩ | ⟨x, hb, heq⟩ | ⟨before, after, a, rfl, hb, ha⟩
  · cases p' with
    | ret r => exact absurd rfl (hne r)
    | call e k => cases heq
  · obtain rfl : r = .error x := Prog.ret.inj heq
    obtain ⟨hfinal, horigin⟩ := hp tr _ hb hV
    constructor
    · intro y hy he z hz
      exact congrArg Except.error (Except.error.inj (hfinal y hy he z hz))
    · intro z hz
      exact horigin z (congrArg Except.error (Except.error.inj hz))
  · obtain ⟨hfinal, -⟩ := hp before _ hb fun y hy => hV y (List.mem_append_left _ hy)
    obtain ⟨hfinal', horigin'⟩ := hf a after r ha fun y hy => hV y (List.mem_append_right _ hy)
    constructor
    · intro y hy he x hx
      rcases List.mem_append.1 hy with hy | hy
      · exact absurd (hfinal y hy he x hx) nofun
      · exact hfinal' y hy he x hx
    · intro x hx
      rcases horigin' x hx with hx | ⟨y, hy, hx⟩
      · exact .inl hx
      · exact .inr ⟨y, List.mem_append_right _ hy, hx⟩

/-- A handler around a block that makes no watched call. -/
theorem tryCatch {p : Prog Ans ε α} {h : ε → Prog Ans ε α} (hp : PassesOn φ V p)
    (hquiet : ¬ Calls φ p) (hh : ∀ x, V x → PassesOn φ V (h x)) :
    PassesOn φ V (MonadExcept.tryCatch p h) := by
  intro tr r ht hV
  rcases Trace.of_handle ht with ⟨p', -, hne, heq⟩ | ⟨before, after, s, rfl, hb, ha⟩
  · cases p' with
    | ret r => exact absurd rfl (hne r)
    | call e k => cases heq
  · obtain ⟨-, horigin⟩ := hp before s hb fun y hy => hV y (List.mem_append_left _ hy)
    have hnone : ∀ y ∈ before, ¬ φ y.1 := fun y hy he => hquiet (hb.calls_of_mem hy he)
    cases s with
    | ok a =>
      obtain ⟨rfl, heq⟩ := Trace.of_ret ha
      obtain rfl : r = .ok a := Prog.ret.inj heq
      rw [List.append_nil]
      exact ⟨fun y hy he => absurd he (hnone y hy), nofun⟩
    | error x =>
      have hx : V x := by
        rcases horigin x rfl with hx | ⟨y, hy, he, -⟩
        · exact hx
        · exact absurd he (hnone y hy)
      obtain ⟨hfinal', horigin'⟩ := hh x hx after r ha fun y hy => hV y (List.mem_append_right _ hy)
      constructor
      · intro y hy he z hz
        rcases List.mem_append.1 hy with hy | hy
        · exact absurd he (hnone y hy)
        · exact hfinal' y hy he z hz
      · intro z hz
        rcases horigin' z hz with hz | ⟨y, hy, hz⟩
        · exact .inl hz
        · exact .inr ⟨y, List.mem_append_right _ hy, hz⟩

end PassesOn

/-- A watched call raised. -/
def Failed (φ : Eff → Prop) (tr : List (Event Ans ε)) : Prop := ∃ y ∈ tr, φ y.1 ∧ ∃ x, y.2 = .error x

theorem failed_append {tr tr' : List (Event Ans ε)} :
    Failed φ (tr ++ tr') ↔ Failed φ tr ∨ Failed φ tr' := by
  constructor
  · rintro ⟨y, hy, h⟩
    rcases List.mem_append.1 hy with hy | hy
    · exact .inl ⟨y, hy, h⟩
    · exact .inr ⟨y, hy, h⟩
  · rintro (⟨y, hy, h⟩ | ⟨y, hy, h⟩)
    · exact ⟨y, List.mem_append_left _ hy, h⟩
    · exact ⟨y, List.mem_append_right _ hy, h⟩

/-- No watched call raised in a trace of a program that makes none. -/
theorem not_failed {p q : Prog Ans ε α} {tr : List (Event Ans ε)} (hp : ¬ Calls φ p)
    (h : Trace p tr q) : ¬ Failed φ tr := fun ⟨_, hy, he, _⟩ => hp (h.calls_of_mem hy he)

/-- **A program that shows what watched calls raise**: it raises what is expected, and a
result is good only where no watched call raised. -/
def Shows (φ : Eff → Prop) (V : ε → Prop) (good : α → Prop) (p : Prog Ans ε α) : Prop :=
  ∀ tr r, Trace p tr (ret r) → Expected φ V tr →
    (∀ x, r = .error x → V x) ∧ ∀ a, r = .ok a → Failed φ tr → ¬ good a

namespace Shows

variable {good : α → Prop} {good' : β → Prop}

/-- A program that makes no watched call has nothing to show. -/
theorem quiet {p : Prog Ans ε α} (hp : PassesOn φ V p) (hquiet : ¬ Calls φ p) : Shows φ V good p := by
  intro tr r h hV
  constructor
  · intro x hx
    rcases (hp tr r h hV).2 x hx with hx | ⟨y, hy, he, -⟩
    · exact hx
    · exact absurd (h.calls_of_mem hy he) hquiet
  · exact fun a _ hfailed => absurd hfailed (not_failed hquiet h)

/-- What comes after has to keep what is not good. -/
theorem bind {p : Prog Ans ε α} {f : α → Prog Ans ε β} (hp : Shows φ V good p)
    (hf : ∀ a, Shows φ V good' (f a))
    (hkeep : ∀ a, ¬ good a → ∀ tr b, Trace (f a) tr (ret (.ok b)) → ¬ good' b) :
    Shows φ V good' (p >>= f) := by
  intro tr r h hV
  rcases Trace.of_bind h with ⟨p', -, hne, heq⟩ | ⟨x, hb, heq⟩ | ⟨before, after, a, rfl, hb, ha⟩
  · cases p' with
    | ret r => exact absurd rfl (hne r)
    | call e k => cases heq
  · obtain rfl : r = .error x := Prog.ret.inj heq
    refine ⟨fun y hy => (hp tr _ hb hV).1 y (congrArg Except.error (Except.error.inj hy)), fun b hb' => ?_⟩
    cases hb'
  · have hbefore := hp before _ hb fun y hy => hV y (List.mem_append_left _ hy)
    have hafter := hf a after r ha fun y hy => hV y (List.mem_append_right _ hy)
    refine ⟨hafter.1, fun b hr hfailed => ?_⟩
    rcases failed_append.1 hfailed with hfailed | hfailed
    · exact hkeep a (hbefore.2 a rfl hfailed) after b (hr ▸ ha)
    · exact hafter.2 b hr hfailed

/-- After what makes no watched call. -/
theorem after {p : Prog Ans ε α} {f : α → Prog Ans ε β} (hp : PassesOn φ V p) (hquiet : ¬ Calls φ p)
    (hf : ∀ a, Shows φ V good' (f a)) : Shows φ V good' (p >>= f) := by
  have hshown : Shows φ V (fun _ => True) p := quiet hp hquiet
  exact hshown.bind hf fun _ h => absurd True.intro h

/-- **A handler that makes of every exception a result that is not good.** -/
theorem tryCatch {p : Prog Ans ε α} {b : α} (hp : PassesOn φ V p) (hb : ¬ good b) :
    Shows φ V good (MonadExcept.tryCatch p fun _ => Pure.pure b) := by
  intro tr r h hV
  rcases Trace.of_handle h with ⟨p', -, hne, heq⟩ | ⟨before, after, s, rfl, hbefore, ha⟩
  · cases p' with
    | ret r => exact absurd rfl (hne r)
    | call e k => cases heq
  · cases s with
    | ok a =>
      obtain ⟨rfl, heq⟩ := Trace.of_ret ha
      obtain rfl : r = .ok a := Prog.ret.inj heq
      rw [List.append_nil]
      refine ⟨nofun, fun a' _ ⟨y, hy, he, x, hx⟩ => ?_⟩
      rw [List.append_nil] at hV
      cases (hp before _ hbefore hV).1 y hy he x hx
    | error x =>
      obtain ⟨rfl, heq⟩ := Trace.of_ret ha
      obtain rfl : r = .ok b := Prog.ret.inj heq
      exact ⟨nofun, fun a ha' _ => Except.ok.inj ha' ▸ hb⟩

end Shows

end Prog
end Concurrency
