/-
# What a program has called so far

A `Trace` is the calls a program has made and how each was answered, in order.
The answers are not the program's choice, so a property of every trace is one
against every behaviour of what is called, exceptions and calls that never
return included: the call under way is the head of what is left.

`OnlyAfter` is what a guard is for: one kind of call is made at most once, last,
and after a trace that satisfies a condition.  Programs come by it in one way, a
part that never makes such a call (`¬ Calls φ p`) and then the call
(`OnlyAfter.bind`).
-/

import BaobabErp.Concurrency.Program

namespace Concurrency
namespace Prog

variable {Eff : Type} {Ans : Eff → Type} {ε α β : Type}

/-- **A call that was answered**, or raised. -/
abbrev Event (Ans : Eff → Type) (ε : Type) : Type := (e : Eff) × Except ε (Ans e)

/-- **From `p`, the calls `tr` were made and answered, and `q` is left.** -/
inductive Trace : Prog Ans ε α → List (Event Ans ε) → Prog Ans ε α → Prop
  | nil {p : Prog Ans ε α} : Trace p [] p
  | cons {e : Eff} {k : Except ε (Ans e) → Prog Ans ε α} {r : Except ε (Ans e)}
      {tr : List (Event Ans ε)} {q : Prog Ans ε α} :
      Trace (k r) tr q → Trace (call e k) (⟨e, r⟩ :: tr) q

variable {p q : Prog Ans ε α} {f : α → Prog Ans ε β} {φ : Eff → Prop} {tr : List (Event Ans ε)}
  {e : Eff} {r : Except ε α}

namespace Trace

theorem of_ret (h : Trace (ret r) tr q) : tr = [] ∧ q = ret r := by
  cases h
  exact ⟨rfl, rfl⟩

theorem calls (h : Trace p tr q) (hq : Calls φ q) : Calls φ p := by
  induction h with
  | nil => exact hq
  | cons _ ih => exact .later _ (ih hq)

/-- A call that was made is one the program can make. -/
theorem calls_of_mem (h : Trace p tr q) {x : Event Ans ε} (hx : x ∈ tr) (hφ : φ x.1) :
    Calls φ p := by
  induction h with
  | nil => cases hx
  | cons _ ih =>
    rcases List.mem_cons.1 hx with rfl | hx
    · exact .here hφ
    · exact .later _ (ih hx)

/-- **A trace of one program after another** is one of the first, or all of the
first and one of the second. -/
theorem of_handle {g : Except ε α → Prog Ans ε β} {q : Prog Ans ε β} (h : Trace (p.handle g) tr q) :
    (∃ p', Trace p tr p' ∧ (∀ r, p' ≠ ret r) ∧ q = p'.handle g) ∨
    ∃ before after r, tr = before ++ after ∧ Trace p before (ret r) ∧ Trace (g r) after q := by
  induction p generalizing tr with
  | ret r => exact .inr ⟨[], tr, r, rfl, .nil, h⟩
  | call e k ih =>
    generalize hp : (call e k).handle g = p' at h
    cases h with
    | nil => exact .inl ⟨call e k, .nil, nofun, hp.symm⟩
    | @cons e' k' r tr q h =>
      obtain ⟨rfl, hk⟩ := call.inj hp
      obtain rfl := eq_of_heq hk
      rcases ih r h with ⟨p', hp', hne, rfl⟩ | ⟨before, after, s, rfl, hb, ha⟩
      · exact .inl ⟨p', .cons hp', hne, rfl⟩
      · exact .inr ⟨⟨e, r⟩ :: before, after, s, rfl, .cons hb, ha⟩

/-- What a program that returned leaves to the next one, in a trace of both. -/
theorem of_bind {q : Prog Ans ε β} (h : Trace (p >>= f) tr q) :
    (∃ p', Trace p tr p' ∧ (∀ r, p' ≠ ret r) ∧ q = p' >>= f) ∨
    (∃ x, Trace p tr (ret (.error x)) ∧ q = ret (.error x)) ∨
    ∃ before after a, tr = before ++ after ∧ Trace p before (ret (.ok a)) ∧
      Trace (f a) after q := by
  rcases of_handle h with h | ⟨before, after, r, rfl, hb, ha⟩
  · exact .inl h
  · cases r with
    | error x =>
      obtain ⟨rfl, rfl⟩ := of_ret ha
      rw [List.append_nil]
      exact .inr (.inl ⟨x, hb, rfl⟩)
    | ok a => exact .inr (.inr ⟨before, after, a, rfl, hb, ha⟩)

/-- **A program that returned ran its first part, then its second.** -/
theorem bind_ok {b : β} (h : Trace (p >>= f) tr (ret (.ok b))) :
    ∃ before after a, tr = before ++ after ∧ Trace p before (ret (.ok a)) ∧
      Trace (f a) after (ret (.ok b)) := by
  rcases of_bind h with ⟨p', -, hne, heq⟩ | ⟨x, -, heq⟩ | h
  · cases p' with
    | ret r => exact absurd rfl (hne r)
    | call e k => cases heq
  · cases heq
  · exact h

/-- One call that returned. -/
theorem perform_ok {a : Ans e} (h : Trace (perform e : Prog Ans ε (Ans e)) tr (ret (.ok a))) :
    tr = [⟨e, .ok a⟩] := by
  unfold perform at h
  generalize hq : (ret (.ok a) : Prog Ans ε (Ans e)) = q at h
  cases h with
  | nil => cases hq
  | cons h =>
    obtain ⟨rfl, rfl⟩ := of_ret h
    cases hq
    rfl

/-- A block that returned did, or its handler did. -/
theorem tryCatch_ok {h : ε → Prog Ans ε α} {a : α}
    (ht : Trace (tryCatch p h) tr (ret (.ok a))) :
    Trace p tr (ret (.ok a)) ∨ ∃ before after x, tr = before ++ after ∧
      Trace p before (ret (.error x)) ∧ Trace (h x) after (ret (.ok a)) := by
  rcases of_handle ht with ⟨p', -, hne, heq⟩ | ⟨before, after, r, rfl, hb, ha⟩
  · cases p' with
    | ret r => exact absurd rfl (hne r)
    | call e k => cases heq
  · cases r with
    | error x => exact .inr ⟨before, after, x, rfl, hb, ha⟩
    | ok b =>
      obtain ⟨rfl, heq⟩ := of_ret ha
      rw [List.append_nil, heq]
      exact .inl hb

theorem pure_ok {a b : α} (h : Trace (ret (.ok a) : Prog Ans ε α) tr (ret (.ok b))) :
    tr = [] ∧ b = a := by
  obtain ⟨rfl, heq⟩ := of_ret h
  cases heq
  exact ⟨rfl, rfl⟩

/-- A trace stops at each of its calls. -/
theorem split {before after : List (Event Ans ε)} {x : Event Ans ε}
    (h : Trace p (before ++ x :: after) q) :
    ∃ k, Trace p before (call x.1 k) ∧ Trace (k x.2) after q := by
  induction before generalizing p with
  | nil =>
    cases h with
    | cons h => exact ⟨_, .nil, h⟩
  | cons y before ih =>
    cases h with
    | cons h =>
      obtain ⟨k, hb, ha⟩ := ih h
      exact ⟨k, .cons hb, ha⟩

/-- **A trace goes one way**: what follows a part of it is a trace of what the part left. -/
theorem rest {before after : List (Event Ans ε)} {q' : Prog Ans ε α} (h : Trace p (before ++ after) q)
    (hb : Trace p before q') : Trace q' after q := by
  induction hb with
  | nil => exact h
  | cons _ ih =>
    cases h with
    | cons h => exact ih h

/-- The first calls of a trace are one. -/
theorem upTo (h : Trace p tr q) (n : Nat) : ∃ q', Trace p (tr.take n) q' := by
  induction h generalizing n with
  | @nil p =>
    rw [List.take_nil]
    exact ⟨p, .nil⟩
  | cons _ ih =>
    cases n with
    | zero => exact ⟨_, .nil⟩
    | succ n =>
      obtain ⟨q', hq'⟩ := ih n
      exact ⟨q', .cons hq'⟩

/-- One trace after another. -/
theorem trans {tr' : List (Event Ans ε)} {q' : Prog Ans ε α} (h : Trace p tr q)
    (h' : Trace q tr' q') : Trace p (tr ++ tr') q' := by
  induction h with
  | nil => exact h'
  | cons _ ih => exact .cons (ih h')

/-- A trace of the first program is one of both. -/
theorem handle {g : Except ε α → Prog Ans ε β} (h : Trace p tr q) :
    Trace (p.handle g) tr (q.handle g) := by
  induction h with
  | nil => exact .nil
  | cons _ ih => exact .cons ih

/-- What a call that ended left. -/
theorem call_ret {k : Except ε (Ans e) → Prog Ans ε α} (h : Trace (call e k) tr (ret r)) :
    ∃ a rest, tr = ⟨e, a⟩ :: rest ∧ Trace (k a) rest (ret r) := by
  generalize hq : (ret r : Prog Ans ε α) = q at h
  cases h with
  | nil => cases hq
  | cons h => exact ⟨_, _, rfl, hq ▸ h⟩

variable (φ) in
/-- A call that only the first program makes is under way in it. -/
theorem call_of_handle {g : Except ε α → Prog Ans ε β} {k : Except ε (Ans e) → Prog Ans ε β}
    (h : Trace (p.handle g) tr (call e k)) (he : φ e) (hg : ∀ r, ¬ Calls φ (g r)) :
    ∃ k', Trace p tr (call e k') ∧ k = fun r => (k' r).handle g := by
  rcases of_handle h with ⟨p', hp', hne, heq⟩ | ⟨before, after, r, rfl, -, ha⟩
  · cases p' with
    | ret r => exact absurd rfl (hne r)
    | call e' k' =>
      obtain ⟨rfl, hk⟩ := call.inj heq
      exact ⟨k', hp', eq_of_heq hk⟩
  · exact absurd (ha.calls (.here he)) (hg r)

variable (φ) in
/-- A call that only the second program makes is under way in it. -/
theorem call_of_quiet {g : Except ε α → Prog Ans ε β} {k : Except ε (Ans e) → Prog Ans ε β}
    (h : Trace (p.handle g) tr (call e k)) (he : φ e) (hp : ¬ Calls φ p) :
    ∃ before after r, tr = before ++ after ∧ Trace p before (ret r) ∧
      Trace (g r) after (call e k) := by
  rcases of_handle h with ⟨p', hp', hne, heq⟩ | h
  · cases p' with
    | ret r => exact absurd rfl (hne r)
    | call e' k' =>
      obtain ⟨rfl, -⟩ := call.inj heq
      exact absurd (hp'.calls (.here he)) hp
  · exact h

end Trace

/-- The calls a program makes when nothing changes between them. -/
def answeredCalls (f : (e : Eff) → Except ε (Ans e)) : Prog Ans ε α → List (Event Ans ε)
  | ret _ => []
  | call e k => ⟨e, f e⟩ :: (k (f e)).answeredCalls f

theorem answered_of_mem {f : (e : Eff) → Except ε (Ans e)} {p : Prog Ans ε α} {y : Event Ans ε}
    (h : y ∈ p.answeredCalls f) : y.2 = f y.1 := by
  induction p with
  | ret r => cases h
  | call e k ih =>
    rcases List.mem_cons.1 h with rfl | h
    · rfl
    · exact ih (f e) h

theorem trace_answered (f : (e : Eff) → Except ε (Ans e)) (p : Prog Ans ε α) :
    Trace p (p.answeredCalls f) (ret (p.answered f)) := by
  induction p with
  | ret r => exact .nil
  | call e k ih => exact .cons (ih (f e))

/-- A call of two programs is one of the first or one of the second. -/
theorem Calls.of_handle {g : Except ε α → Prog Ans ε β} (h : Calls φ (p.handle g)) :
    Calls φ p ∨ ∃ r, Calls φ (g r) := by
  induction p with
  | ret r => exact .inr ⟨r, h⟩
  | call e k ih =>
    generalize hp : (call e k).handle g = p' at h
    cases h with
    | here hφ =>
      obtain ⟨rfl, -⟩ := call.inj hp
      exact .inl (.here hφ)
    | later r h =>
      obtain ⟨rfl, hk⟩ := call.inj hp
      obtain rfl := eq_of_heq hk
      rcases ih r h with h | h
      · exact .inl (.later r h)
      · exact .inr h

/-- Making no call of a kind is closed. -/
theorem closed_quiet : Closed fun α (p : Prog Ans ε α) => ¬ Calls φ p :=
  ⟨fun _ => not_calls_ret, fun hp hf h => h.of_handle.elim hp fun ⟨r, hr⟩ => hf r hr⟩

theorem quiet_perform (h : ¬ φ e) : ¬ Calls φ (perform e : Prog Ans ε (Ans e)) := by
  intro hc
  cases hc with
  | here hφ => exact h hφ
  | later r hc => exact not_calls_ret hc

/-! ### A call that comes last -/

/-- **`p` makes one call of the kind `φ`, `e`, at most once and last, and only after
a trace in `A`.**  It returns what that call answered, so where the call is not made
the program does not return. -/
structure OnlyAfter (φ : Eff → Bool) (e : Eff) (A : List (Event Ans ε) → Prop)
    (p : Prog Ans ε (Ans e)) : Prop where
  once : ∀ {tr q}, Trace p tr q → tr.countP (fun x => φ x.1) ≤ 1
  made : ∀ {before x after q}, Trace p (before ++ x :: after) q → φ x.1 = true →
    A before ∧ x.1 = e ∧ after = []
  underWay : ∀ {tr e' k}, Trace p tr (call e' k) → φ e' = true → A tr ∧ e' = e
  returned : ∀ {tr b}, Trace p tr (ret (.ok b)) → ∃ before, A before ∧ tr = before ++ [⟨e, .ok b⟩]

namespace OnlyAfter

variable {φ : Eff → Bool} {e : Eff} {A B : List (Event Ans ε) → Prop} {p : Prog Ans ε α}

theorem throw (x : ε) : OnlyAfter φ e A (throw x : Prog Ans ε (Ans e)) where
  once h := by
    obtain ⟨rfl, -⟩ := Trace.of_ret h
    exact Nat.zero_le 1
  made h _ := by
    have hnil := (Trace.of_ret h).1
    exact absurd hnil (List.append_ne_nil_of_right_ne_nil _ (List.cons_ne_nil _ _))
  underWay h _ := nomatch (Trace.of_ret h).2
  returned h := nomatch (Trace.of_ret h).2

theorem imp {p : Prog Ans ε (Ans e)} (h : OnlyAfter φ e A p) (hAB : ∀ tr, A tr → B tr) :
    OnlyAfter φ e B p where
  once := h.once
  made ht hx := ⟨hAB _ (h.made ht hx).1, (h.made ht hx).2⟩
  underWay ht hφ := ⟨hAB _ (h.underWay ht hφ).1, (h.underWay ht hφ).2⟩
  returned ht := by
    obtain ⟨before, hA, htr⟩ := h.returned ht
    exact ⟨before, hAB _ hA, htr⟩

/-- **What never makes the call, then the call.** -/
theorem bind (hp : ¬ Calls (fun e => φ e = true) p) (he : φ e = true)
    (hA : ∀ {tr a}, Trace p tr (ret (.ok a)) → A tr) :
    OnlyAfter φ e A (p >>= fun _ => perform e) := by
  have quiet : ∀ {tr q}, Trace p tr q → ∀ x ∈ tr, φ x.1 = false := by
    intro tr q h x hx
    cases hφ : φ x.1 with
    | false => rfl
    | true => exact absurd (h.calls_of_mem hx hφ) hp
  -- a trace is one of `p`, or all of `p` and at most the call
  have cases_of : ∀ {tr} {q : Prog Ans ε (Ans e)}, Trace (p >>= fun _ => perform e) tr q →
      ((∀ x ∈ tr, φ x.1 = false) ∧ (∀ b, q ≠ ret (.ok b)) ∧
        ∀ e' k, q = call e' k → φ e' = true → A tr ∧ e' = e) ∨
      ∃ before r, tr = before ++ [⟨e, r⟩] ∧ A before ∧ (∀ x ∈ before, φ x.1 = false) ∧
        q = ret r := by
    intro tr q h
    rcases Trace.of_bind h with ⟨p', hp', hne, rfl⟩ | ⟨x, hx, rfl⟩ | ⟨before, after, a, rfl, hb, ha⟩
    · cases p' with
      | ret r => exact absurd rfl (hne r)
      | call e' k =>
        refine .inl ⟨quiet hp', nofun, fun e'' k' hcall hφ => ?_⟩
        obtain ⟨rfl, -⟩ := call.inj hcall
        exact absurd (hp'.calls (.here hφ)) hp
    · exact .inl ⟨quiet hx, nofun, nofun⟩
    · have hAb : A before := hA hb
      unfold perform at ha
      generalize hcall : (call e ret : Prog Ans ε (Ans e)) = p' at ha
      cases ha with
      | nil =>
        subst hcall
        rw [List.append_nil]
        refine .inl ⟨quiet hb, nofun, fun e' k hq _ => ?_⟩
        exact ⟨hAb, (call.inj hq).1.symm⟩
      | cons ha =>
        obtain ⟨rfl, hk⟩ := call.inj hcall
        obtain rfl := eq_of_heq hk
        obtain ⟨rfl, rfl⟩ := Trace.of_ret ha
        exact .inr ⟨before, _, rfl, hAb, quiet hb, rfl⟩
  refine ⟨fun {tr q} h => ?_, fun {before x after q} h hx => ?_, fun {tr e' k} h hφ => ?_,
    fun {tr b} h => ?_⟩
  · rcases cases_of h with ⟨hq, -⟩ | ⟨before, r, rfl, -, hq, -⟩
    · rw [List.countP_eq_zero.2 fun x hx => by rw [hq x hx]; exact Bool.false_ne_true]
      exact Nat.zero_le 1
    · rw [List.countP_append,
        List.countP_eq_zero.2 fun x hx => by rw [hq x hx]; exact Bool.false_ne_true]
      simp only [List.countP_singleton, he, if_true, Nat.zero_add, Nat.le_refl]
  · rcases cases_of h with ⟨hq, -⟩ | ⟨before', r, heq, hA', hq, -⟩
    · rw [hq x (List.mem_append_right _ List.mem_cons_self)] at hx
      cases hx
    · -- the call of the kind is the last event, so the split is at the end
      rcases List.append_eq_append_iff.1 heq with ⟨mid, hmid, hcons⟩ | ⟨mid, hmid, hcons⟩
      · cases mid with
        | nil =>
          rw [List.append_nil] at hmid
          obtain ⟨rfl, rfl⟩ := List.cons.inj hcons
          exact ⟨hmid ▸ hA', rfl, rfl⟩
        | cons y mid =>
          obtain ⟨rfl, -⟩ := List.cons.inj hcons
          rw [hq x (hmid ▸ List.mem_append_right _ List.mem_cons_self)] at hx
          cases hx
      · cases mid with
        | nil =>
          rw [List.append_nil] at hmid
          obtain ⟨rfl, rfl⟩ := List.cons.inj hcons
          exact ⟨hmid ▸ hA', rfl, rfl⟩
        | cons y mid =>
          obtain ⟨-, htail⟩ := List.cons.inj hcons
          exact absurd htail.symm (List.append_ne_nil_of_right_ne_nil _ (List.cons_ne_nil _ _))
  · rcases cases_of h with ⟨-, -, hcall⟩ | ⟨before, r, -, -, -, hq⟩
    · exact hcall e' k rfl hφ
    · cases hq
  · rcases cases_of h with ⟨-, hret, -⟩ | ⟨before, r, rfl, hA', -, hq⟩
    · exact absurd rfl (hret b)
    · cases hq
      exact ⟨before, hA', rfl⟩

end OnlyAfter
end Prog
end Concurrency
