/-
# Rely and guarantee for the workers of a pool

A `Protocol` names an invariant of the shared state and, for every effect, what
a worker must know before it calls it (`Guard`).  A worker that only makes
guarded calls keeps the invariant; what it may assume while the others run is
everything that survives their guarded calls (`Assertion`).  A `Triple` says
that a program, started where its precondition holds, makes only guarded calls
and ends where its postcondition does, whatever the others do in between.

`Protocol.Verified` is one triple, about the program every worker is launched
with.  From it follow statements about every run of the pool: the invariant
holds in every state (`Verified.Sound.reaches`), every call made is a guarded
one (`Verified.Sound.guarded`), and what each guarded move keeps to, the whole
run keeps to (`Verified.Sound.relates`).  The proof of a property of all
interleavings is then the choice of `Inv` and `Guard`, one lemma that a guarded
call keeps `Inv`, and a walk through the program.
-/

import BaobabErp.Concurrency.Pool
import Mathlib.Logic.Relation

namespace Concurrency

/-- **An invariant and the calls that keep it.** -/
structure Protocol (M : Machine) where
  Inv : M.State → Prop
  Guard : M.Worker → M.Eff → M.State → Prop
  EnvOk : M.Env → M.State → Prop
  inv_exec : ∀ {w e c s r t}, Inv s → Guard w e s → M.exec w e c s = some (r, t) → Inv t
  inv_close : ∀ {w s}, Inv s → Inv (M.close w s)
  inv_env : ∀ {a s t}, Inv s → EnvOk a s → M.env a s = some t → Inv t

namespace Protocol

variable {M : Machine} (P : Protocol M) (w : M.Worker)

/-- **What can happen between two calls of `w`**: a guarded call of another
worker, another worker's end, or a permitted move of the environment. -/
inductive Other : M.State → M.State → Prop
  | exec {v e c s r t} : v ≠ w → P.Inv s → P.Guard v e s → M.exec v e c s = some (r, t) → Other s t
  | close {v s} : v ≠ w → P.Inv s → Other s (M.close v s)
  | env {a s t} : P.Inv s → P.EnvOk a s → M.env a s = some t → Other s t

/-- Any number of such moves. -/
abbrev Rely : M.State → M.State → Prop := Relation.ReflTransGen (P.Other w)

variable {P w}

theorem Other.inv_left {s t : M.State} (h : P.Other w s t) : P.Inv s := by
  cases h <;> assumption

theorem Other.inv_right {s t : M.State} (h : P.Other w s t) : P.Inv t := by
  cases h with
  | exec _ hi hg he => exact P.inv_exec hi hg he
  | close _ hi => exact P.inv_close hi
  | env hi ha he => exact P.inv_env hi ha he

variable (P w)

/-- **A property of the state that the other workers cannot undo.** -/
structure Assertion where
  holds : M.State → Prop
  stable : ∀ {s t}, P.Inv s → P.Inv t → P.Other w s t → holds s → holds t

variable {P w}

namespace Assertion

variable {A B : P.Assertion w}

theorem rely (A : P.Assertion w) {s t : M.State} (h : P.Rely w s t) (hA : A.holds s) :
    A.holds t := by
  induction h with
  | refl => exact hA
  | tail _ h ih => exact A.stable h.inv_left h.inv_right h ih

/-- A fact that does not speak of the state. -/
def const (p : Prop) : P.Assertion w := ⟨fun _ => p, fun _ _ _ h => h⟩

/-- Both. -/
def and (A B : P.Assertion w) : P.Assertion w :=
  ⟨fun s => A.holds s ∧ B.holds s,
    fun hs ht h hAB => ⟨A.stable hs ht h hAB.1, B.stable hs ht h hAB.2⟩⟩

/-- One of the two. -/
def or (A B : P.Assertion w) : P.Assertion w :=
  ⟨fun s => A.holds s ∨ B.holds s,
    fun hs ht h hAB => hAB.imp (A.stable hs ht h) (B.stable hs ht h)⟩

/-- For some value. -/
def ex {ι : Type} (A : ι → P.Assertion w) : P.Assertion w :=
  ⟨fun s => ∃ i, (A i).holds s, fun hs ht h ⟨i, hi⟩ => ⟨i, (A i).stable hs ht h hi⟩⟩

/-- An assertion of the normal outcome; a raised exception leaves `B`. -/
def ends {ε α : Type} (A : α → P.Assertion w) (B : P.Assertion w) : Except ε α → P.Assertion w
  | .ok a => A a
  | .error _ => B

@[simp] theorem holds_const {p : Prop} {s : M.State} : (const p : P.Assertion w).holds s ↔ p :=
  .rfl

@[simp] theorem holds_and {s : M.State} : (A.and B).holds s ↔ A.holds s ∧ B.holds s := .rfl

@[simp] theorem holds_or {s : M.State} : (A.or B).holds s ↔ A.holds s ∨ B.holds s := .rfl

@[simp] theorem holds_ex {ι : Type} {A : ι → P.Assertion w} {s : M.State} :
    (ex A).holds s ↔ ∃ i, (A i).holds s := .rfl

end Assertion

/-! ### Weakest preconditions and triples -/

variable {α β : Type}

variable (P w) in
/-- **The states from which `p` makes guarded calls only and ends in `Q`**,
with any moves of the others before every call and before the end. -/
def wp : Prog M.Ans M.Err α → (Except M.Err α → M.State → Prop) → M.State → Prop
  | .ret r, Q, s => ∀ t, P.Rely w s t → P.Inv t → Q r t
  | .call e k, Q, s => ∀ t, P.Rely w s t → P.Inv t → P.Guard w e t ∧
      ∀ c r u, M.exec w e c t = some (r, u) → wp (k r) Q u

theorem wp_rely {p : Prog M.Ans M.Err α} {Q : Except M.Err α → M.State → Prop} {s t : M.State}
    (h : P.Rely w s t) (hp : P.wp w p Q s) : P.wp w p Q t := by
  cases p with
  | ret r => exact fun u hu hi => hp u (h.trans hu) hi
  | call e k => exact fun u hu hi => hp u (h.trans hu) hi

theorem wp_mono {p : Prog M.Ans M.Err α} {Q R : Except M.Err α → M.State → Prop}
    (h : ∀ r s, P.Inv s → Q r s → R r s) {s : M.State} (hp : P.wp w p Q s) : P.wp w p R s := by
  induction p generalizing s with
  | ret r => exact fun t ht hi => h r t hi (hp t ht hi)
  | call e k ih =>
    intro t ht hi
    obtain ⟨hg, hk⟩ := hp t ht hi
    exact ⟨hg, fun c r u he => ih r (hk c r u he)⟩

theorem wp_handle {p : Prog M.Ans M.Err α} {f : Except M.Err α → Prog M.Ans M.Err β}
    {Q : Except M.Err β → M.State → Prop} {s : M.State} (hs : P.Inv s)
    (hp : P.wp w p (fun r => P.wp w (f r) Q) s) : P.wp w (p.handle f) Q s := by
  induction p generalizing s with
  | ret r => exact hp s .refl hs
  | call e k ih =>
    intro t ht hi
    obtain ⟨hg, hk⟩ := hp t ht hi
    exact ⟨hg, fun c r u he => ih r (P.inv_exec hi hg he) (hk c r u he)⟩

variable (P w) in
/-- **A triple**: from `A`, the program ends in `Q` of how it ended. -/
structure Triple (A : P.Assertion w) (p : Prog M.Ans M.Err α)
    (Q : Except M.Err α → P.Assertion w) : Prop where
  safe : ∀ s, P.Inv s → A.holds s → P.wp w p (fun r => (Q r).holds) s

section Rules

variable {A B : P.Assertion w} {Q R : Except M.Err α → P.Assertion w}
  {p : Prog M.Ans M.Err α}

theorem Triple.ret {r : Except M.Err α} (h : ∀ s, P.Inv s → A.holds s → (Q r).holds s) :
    P.Triple w A (.ret r) Q :=
  ⟨fun _ _ hA t ht hi => h t hi (A.rely ht hA)⟩

theorem Triple.pure {a : α} (h : ∀ s, P.Inv s → A.holds s → (Q (.ok a)).holds s) :
    P.Triple w A (pure a) Q :=
  .ret h

theorem Triple.throw {x : M.Err} (h : ∀ s, P.Inv s → A.holds s → (Q (.error x)).holds s) :
    P.Triple w A (throw x) Q :=
  .ret h

/-- **One call.** The others may move before it, so its guard and its effect are
shown in any state of `A`. -/
theorem Triple.perform {e : M.Eff} {Q : Except M.Err (M.Ans e) → P.Assertion w}
    (hg : ∀ s, P.Inv s → A.holds s → P.Guard w e s)
    (he : ∀ c s r t, P.Inv s → P.Inv t → A.holds s → P.Guard w e s →
      M.exec w e c s = some (r, t) → (Q r).holds t) :
    P.Triple w A (.perform e) Q := by
  refine ⟨fun s _ hA t ht hi => ?_⟩
  have hAt : A.holds t := A.rely ht hA
  refine ⟨hg t hi hAt, fun c r u hex v hv _ => (Q r).rely hv ?_⟩
  exact he c t r u hi (P.inv_exec hi (hg t hi hAt) hex) hAt (hg t hi hAt) hex

theorem Triple.conseq (h : P.Triple w A p Q) (hA : ∀ s, P.Inv s → B.holds s → A.holds s)
    (hQ : ∀ r s, P.Inv s → (Q r).holds s → (R r).holds s) : P.Triple w B p R :=
  ⟨fun s hs hB => wp_mono hQ (h.safe s hs (hA s hs hB))⟩

theorem Triple.pre (h : P.Triple w A p Q) (hA : ∀ s, P.Inv s → B.holds s → A.holds s) :
    P.Triple w B p Q :=
  h.conseq hA fun _ _ _ hq => hq

theorem Triple.post (h : P.Triple w A p Q)
    (hQ : ∀ r s, P.Inv s → (Q r).holds s → (R r).holds s) : P.Triple w A p R :=
  h.conseq (fun _ _ ha => ha) hQ

/-- A precondition that names a value is shown for every value. -/
theorem Triple.ex {ι : Type} {A : ι → P.Assertion w} (h : ∀ i, P.Triple w (A i) p Q) :
    P.Triple w (.ex A) p Q :=
  ⟨fun s hs ⟨i, hi⟩ => (h i).safe s hs hi⟩

theorem Triple.or (h : P.Triple w A p Q) (h' : P.Triple w B p Q) : P.Triple w (A.or B) p Q :=
  ⟨fun s hs hAB => hAB.elim (h.safe s hs) (h'.safe s hs)⟩

/-- A fact of the precondition may be used in the proof of the rest. -/
theorem Triple.given {φ : Prop} (h : φ → P.Triple w A p Q) :
    P.Triple w ((Assertion.const φ).and A) p Q :=
  ⟨fun s hs hA => (h hA.1).safe s hs hA.2⟩

theorem Triple.handle {Q : Except M.Err α → P.Assertion w} {R : Except M.Err β → P.Assertion w}
    {f : Except M.Err α → Prog M.Ans M.Err β} (hp : P.Triple w A p Q)
    (hf : ∀ r, P.Triple w (Q r) (f r) R) : P.Triple w A (p.handle f) R :=
  ⟨fun s hs hA => wp_handle hs (wp_mono (fun r t ht => (hf r).safe t ht) (hp.safe s hs hA))⟩

theorem Triple.bind {R : Except M.Err β → P.Assertion w} {f : α → Prog M.Ans M.Err β}
    (hp : P.Triple w A p Q) (hf : ∀ a, P.Triple w (Q (.ok a)) (f a) R)
    (hx : ∀ x s, P.Inv s → (Q (.error x)).holds s → (R (.error x)).holds s) :
    P.Triple w A (p >>= f) R :=
  hp.handle fun
    | .ok a => hf a
    | .error x => .ret (hx x)

/-- `bind` when a raised exception leaves what the second part leaves too. -/
theorem Triple.seq {C : P.Assertion w} {B : α → P.Assertion w} {R : β → P.Assertion w}
    {f : α → Prog M.Ans M.Err β} (hp : P.Triple w A p (.ends B C))
    (hf : ∀ a, P.Triple w (B a) (f a) (.ends R C)) : P.Triple w A (p >>= f) (.ends R C) :=
  hp.bind hf fun _ _ _ h => h

theorem Triple.tryCatch {h : M.Err → Prog M.Ans M.Err α} (hp : P.Triple w A p Q)
    (hok : ∀ a s, P.Inv s → (Q (.ok a)).holds s → (R (.ok a)).holds s)
    (hh : ∀ x, P.Triple w (Q (.error x)) (h x) R) : P.Triple w A (tryCatch p h) R :=
  hp.handle fun
    | .ok a => .ret (hok a)
    | .error x => hh x

theorem Triple.ensure {last : Prog M.Ans M.Err Unit} (hp : P.Triple w A p Q)
    (hl : ∀ r, P.Triple w (Q r) last (.ends (fun _ => R r) B))
    (hx : ∀ x s, P.Inv s → B.holds s → (R (.error x)).holds s) :
    P.Triple w A (p.ensure last) R :=
  hp.handle fun r => (hl r).handle fun
    | .ok _ => .ret fun _ _ h => h
    | .error x => .ret (hx x)

/-- `p` leaves `A` as it is, however it ends. -/
def Keeps (A : P.Assertion w) (α : Type) (p : Prog M.Ans M.Err α) : Prop :=
  P.Triple w A p fun _ => A

/-- **The frame rule.** Keeping `A` is closed: a program keeps what its parts keep. -/
theorem closed_keeps : Prog.Closed (Keeps A) :=
  ⟨fun _ => .ret fun _ _ h => h, fun hp hf => Triple.handle hp hf⟩

end Rules

/-! ### Every run of the pool -/

/-- What is known of worker `w` between two actions of the pool: it does not
run and has left nothing behind, or the rest of its program is safe to run. -/
def Safe (P : Protocol M) (idle : ∀ w, P.Assertion w) (p : M.Pool) (w : M.Worker) : Prop :=
  match p.running w with
  | none => (idle w).holds p.state
  | some m => P.wp w m (fun _ _ => True) p.state

theorem Safe.rely {idle : ∀ w, P.Assertion w} {s t : M.State}
    {f : M.Worker → Option (Prog M.Ans M.Err Unit)} {w : M.Worker} (h : P.Rely w s t)
    (hs : Safe P idle ⟨s, f⟩ w) : Safe P idle ⟨t, f⟩ w := by
  unfold Safe at hs ⊢
  dsimp only at hs ⊢
  split at hs
  · exact (idle w).rely h hs
  · exact wp_rely h hs

/-- **The programs of a machine are correct for a protocol**: a worker that does
not run satisfies `idle`, whatever ended it, and the program it is launched with
is safe from there. -/
structure Verified (P : Protocol M) (Ok : M.Action → M.Pool → Prop) where
  idle : ∀ w, P.Assertion w
  envOk : ∀ {a q}, Ok (.env a) q → P.EnvOk a q.state
  close : ∀ {w s}, P.Inv s → (idle w).holds (M.close w s)
  main : ∀ w l, P.Triple w (idle w) (M.main w l) fun _ => .const True

namespace Verified

variable {Ok : M.Action → M.Pool → Prop} (C : P.Verified Ok)

/-- The invariant holds and every worker is safe. -/
def Sound (p : M.Pool) : Prop := P.Inv p.state ∧ ∀ w, Safe P C.idle p w

variable {C}

theorem sound_idle {s : M.State} (hs : P.Inv s) (hidle : ∀ w, (C.idle w).holds s) :
    C.Sound (Machine.idle s) :=
  ⟨hs, hidle⟩

/-- **Every call of a run is a guarded one**, so each move of the shared state
is a guarded call, a worker's end or a permitted move of the environment. -/
theorem Sound.guarded {p : M.Pool} {w : M.Worker} {e : M.Eff}
    {k : Except M.Err (M.Ans e) → Prog M.Ans M.Err Unit} (h : C.Sound p)
    (hw : p.running w = some (.call e k)) : P.Guard w e p.state := by
  have hsw := h.2 w
  unfold Safe at hsw
  rw [hw] at hsw
  exact (hsw p.state .refl h.1).1

variable [DecidableEq M.Worker]

/-- **One action keeps the invariant and every worker's safety.** -/
theorem Sound.step {a : M.Action} {p q : M.Pool} (hp : C.Sound p) (hOk : Ok a p)
    (h : Machine.step a p = some q) : C.Sound q := by
  obtain ⟨hi, hsafe⟩ := id hp
  -- a worker other than the one that moved keeps its program and relies on the move
  have others : ∀ {w t m}, (∀ v, v ≠ w → P.Other v p.state t) → ∀ v, v ≠ w →
      Safe P C.idle ⟨t, Function.update p.running w m⟩ v := by
    intro w t m hother v hv
    have := Safe.rely (.single (hother v hv)) (hsafe v)
    unfold Safe at this ⊢
    dsimp only at this ⊢
    rwa [Function.update_of_ne hv]
  rcases Machine.step_cases h with ⟨w, l, rfl, hw, rfl⟩ | ⟨w, c, e, k, r, s, rfl, hw, he, rfl⟩ |
    ⟨w, m, rfl, hw, rfl⟩ | ⟨b, s, rfl, hb, rfl⟩
  · refine ⟨hi, fun v => ?_⟩
    have hv := hsafe v
    unfold Safe at hv ⊢
    dsimp only
    by_cases hvw : v = w
    · subst hvw
      rw [hw] at hv
      rw [Function.update_self]
      exact (C.main v l).safe _ hi hv
    · rwa [Function.update_of_ne hvw]
  · have hsw := hsafe w
    unfold Safe at hsw
    rw [hw] at hsw
    obtain ⟨hg, hk⟩ := hsw p.state .refl hi
    refine ⟨P.inv_exec hi hg he, fun v => ?_⟩
    by_cases hvw : v = w
    · subst hvw
      unfold Safe
      dsimp only
      rw [Function.update_self]
      exact hk c r s he
    · exact others (fun u hu => .exec hu.symm hi hg he) v hvw
  · refine ⟨P.inv_close hi, fun v => ?_⟩
    by_cases hvw : v = w
    · subst hvw
      unfold Safe
      dsimp only
      rw [Function.update_self]
      exact C.close hi
    · exact others (fun u hu => .close hu.symm hi) v hvw
  · have ha : P.EnvOk b p.state := C.envOk hOk
    refine ⟨P.inv_env hi ha hb, fun v => ?_⟩
    exact Safe.rely (s := p.state) (f := p.running) (.single (.env hi ha hb)) (hsafe v)

/-- **Soundness.** The invariant holds in every state a run reaches. -/
theorem Sound.reaches {p q : M.Pool} (hp : C.Sound p) (h : Machine.Reaches Ok p q) :
    C.Sound q :=
  h.invariant hp fun _ _ _ hOk hq hst => hq.step hOk hst

/-- **What every guarded move keeps to, a whole run keeps to.** `R` relates the
state before a part of a run to the state after it. -/
theorem Sound.relates {R : M.State → M.State → Prop} (hrefl : ∀ s, R s s)
    (htrans : ∀ {s t u}, R s t → R t u → R s u)
    (hexec : ∀ {w e c s r t}, P.Inv s → P.Guard w e s → M.exec w e c s = some (r, t) → R s t)
    (hclose : ∀ {w s}, P.Inv s → R s (M.close w s))
    (henv : ∀ {a s t}, P.Inv s → P.EnvOk a s → M.env a s = some t → R s t)
    {p q : M.Pool} (hp : C.Sound p) (h : Machine.Reaches Ok p q) : R p.state q.state := by
  induction h with
  | refl => exact hrefl _
  | @step q r a hpq hOk hst ih =>
    have hq : C.Sound q := hp.reaches hpq
    refine htrans ih ?_
    rcases Machine.step_cases hst with ⟨w, l, rfl, hw, rfl⟩ |
      ⟨w, c, e, k, r, s, rfl, hw, he, rfl⟩ | ⟨w, m, rfl, hw, rfl⟩ | ⟨b, s, rfl, hb, rfl⟩
    · exact hrefl _
    · exact hexec hq.1 (hq.guarded hw) he
    · exact hclose hq.1
    · exact henv hq.1 (C.envOk hOk) hb

end Verified

end Protocol

end Concurrency
