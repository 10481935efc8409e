/-
# Sessions of a database: statements, transactions, advisory locks

A `Store` with what else its sessions share: the advisory locks, of a session
(counted, kept until they are given back) and of a transaction (gone with it),
and the keys that ever had a row, which is what a statement that looks through a
table goes by (`scan`).

A statement is what it answers and the rows it writes, both read off the view of
its own transaction; it waits when another transaction holds one of the rows
(`free`), and `apply` makes its writes.
-/

import BaobabErp.Concurrency.Store
import Mathlib.Tactic.Tauto

set_option linter.unusedSectionVars false

namespace Concurrency

/-- A row a statement writes: its key and what is there afterwards. -/
abbrev Write {K : Type} (V : K → Type) : Type := (k : K) × Option (V k)

/-- **A database as its sessions see it.** -/
structure Database (T : Type) {K : Type} (V : K → Type) where
  store : Store T V
  /-- Every key that ever had a row. -/
  keys : List K
  /-- Who holds a session lock, and how often. -/
  session : Int → Option (T × Nat)
  /-- Whose transaction holds a lock. -/
  transaction : Int → Option T

namespace Database

variable {T K : Type} {V : K → Type} [DecidableEq T] [DecidableEq K]

/-- A database without rows, sessions and locks. -/
def empty : Database T V := ⟨.ofRows fun _ => none, [], fun _ => none, fun _ => none⟩

/-- The row at `k` as a statement of `t` reads it. -/
def view (d : Database T V) (t : T) (k : K) : Option (V k) := d.store.view t k

/-- No other transaction holds a row that is written. -/
def free (d : Database T V) (t : T) (ws : List (Write V)) : Bool :=
  ws.all fun x => d.store.free t x.1

def put (d : Database T V) (t : T) (x : Write V) : Database T V :=
  { d with
    store := d.store.put t x.1 x.2
    keys := if x.1 ∈ d.keys then d.keys else x.1 :: d.keys }

/-- The writes of one statement, in order. -/
def apply (d : Database T V) (t : T) (ws : List (Write V)) : Database T V :=
  ws.foldl (fun d x => d.put t x) d

/-- The keys of the rows `t` sees that satisfy `p`. -/
def scan (d : Database T V) (t : T) (p : K → Bool) : List K :=
  d.keys.filter fun k => p k && (d.view t k).isSome

/-- The transaction locks without those of `t`. -/
def dropLocks (d : Database T V) (t : T) (h : Int) : Option T :=
  if d.transaction h = some t then none else d.transaction h

def commit (d : Database T V) (t : T) : Database T V :=
  { d with store := d.store.commit t, transaction := d.dropLocks t }

def rollback (d : Database T V) (t : T) : Database T V :=
  { d with store := d.store.rollback t, transaction := d.dropLocks t }

/-- The end of a session: its transaction and its locks are gone. -/
def close (d : Database T V) (t : T) : Database T V :=
  { d.rollback t with
    session := fun h => match d.session h with
      | some (u, n) => if u = t then none else some (u, n)
      | none => none }

/-- No other session and no other session's transaction holds the lock. -/
def lockFree (d : Database T V) (t : T) (h : Int) : Bool :=
  (d.session h).all (fun p => decide (p.1 = t)) && (d.transaction h).all fun u => decide (u = t)

/-- The session takes a lock once more. -/
def acquire (d : Database T V) (t : T) (h : Int) : Database T V :=
  let n := match d.session h with
    | some (_, n) => n
    | none => 0
  { d with session := Function.update d.session h (some (t, n + 1)) }

/-- The session gives a lock back once. -/
def release (d : Database T V) (t : T) (h : Int) : Database T V :=
  match d.session h with
  | some (u, n) =>
    if u = t then
      { d with session := Function.update d.session h (if n ≤ 1 then none else some (u, n - 1)) }
    else d
  | none => d

/-- The transaction takes a lock until it ends. -/
def enter (d : Database T V) (t : T) (h : Int) : Database T V :=
  { d with transaction := Function.update d.transaction h (some t) }

/-- `t` holds the session lock. -/
def Locked (d : Database T V) (t : T) (h : Int) : Prop := ∃ n, d.session h = some (t, n)

/-- Rows with some writes made over them. -/
def overlay (rows : (k : K) → Option (V k)) (ws : List (Write V)) : (k : K) → Option (V k) :=
  ws.foldl (fun f x => Function.update f x.1 x.2) rows

section Lemmas

variable {d : Database T V} {t u : T} {k : K} {h : Int} {ws : List (Write V)} {x : Write V}

/-! ### Writes -/

theorem overlay_cons (rows : (k : K) → Option (V k)) (x : Write V) (ws : List (Write V)) :
    overlay rows (x :: ws) = overlay (Function.update rows x.1 x.2) ws := rfl

theorem overlay_of_not_mem {rows : (k : K) → Option (V k)} (hk : k ∉ ws.map Sigma.fst) :
    overlay rows ws k = rows k := by
  induction ws generalizing rows with
  | nil => rfl
  | cons x ws ih =>
    rw [List.map_cons, List.mem_cons, not_or] at hk
    rw [overlay_cons, ih hk.2, Function.update_of_ne hk.1]

theorem view_put : (d.put t x).view t = Function.update (d.view t) x.1 x.2 := by
  funext l
  by_cases hl : l = x.1
  · subst hl
    rw [Function.update_self]
    exact Store.view_put_self
  · rw [Function.update_of_ne hl]
    exact Store.view_put_of_ne hl

theorem view_apply : (d.apply t ws).view t = overlay (d.view t) ws := by
  induction ws generalizing d with
  | nil => rfl
  | cons x ws ih =>
    rw [overlay_cons, ← view_put]
    exact ih

theorem apply_cons : d.apply t (x :: ws) = (d.put t x).apply t ws := rfl

@[simp] theorem committed_apply : (d.apply t ws).store.committed = d.store.committed := by
  induction ws generalizing d with
  | nil => rfl
  | cons x ws ih => exact ih

@[simp] theorem session_apply : (d.apply t ws).session = d.session := by
  induction ws generalizing d with
  | nil => rfl
  | cons x ws ih => exact ih

@[simp] theorem transaction_apply : (d.apply t ws).transaction = d.transaction := by
  induction ws generalizing d with
  | nil => rfl
  | cons x ws ih => exact ih

theorem holds_apply_iff : (d.apply t ws).store.Holds t k ↔
    k ∈ ws.map Sigma.fst ∨ d.store.Holds t k := by
  induction ws generalizing d with
  | nil => simp only [List.map_nil, List.not_mem_nil, false_or]; exact .rfl
  | cons x ws ih =>
    rw [apply_cons, ih, List.map_cons, List.mem_cons]
    unfold put
    rw [Store.holds_put_iff]
    tauto

/-- What `t` has written is the last write of each key. -/
theorem pending_apply {v : Option (V k)} (hp : (d.apply t ws).store.pending k = some (t, v)) :
    (⟨k, v⟩ : Write V) ∈ ws ∨ d.store.pending k = some (t, v) := by
  induction ws generalizing d with
  | nil => exact .inr hp
  | cons x ws ih =>
    rw [apply_cons] at hp
    rcases ih hp with hmem | hput
    · exact .inl (List.mem_cons_of_mem _ hmem)
    · by_cases hk : k = x.1
      · subst hk
        rw [show (d.put t x).store.pending x.1 = some (t, x.2) from Store.pending_put_self] at hput
        obtain ⟨-, rfl⟩ := Prod.mk.inj (Option.some.inj hput)
        exact .inl List.mem_cons_self
      · rw [show (d.put t x).store.pending k = d.store.pending k from
          Store.pending_put_of_ne hk] at hput
        exact .inr hput

theorem free_cons (hf : d.free t (x :: ws) = true) :
    d.store.free t x.1 = true ∧ (d.put t x).free t ws = true := by
  simp only [free, List.all_cons, Bool.and_eq_true, List.all_eq_true] at hf ⊢
  refine ⟨hf.1, fun y hy => Store.free_iff.2 fun v hv => ?_⟩
  rcases Store.holds_put_iff.1 hv with ⟨-, rfl⟩ | ⟨-, hv⟩
  · rfl
  · exact Store.free_iff.1 (hf.2 y hy) v hv

/-- A statement leaves what another transaction holds. -/
theorem pending_apply_other {v : Option (V k)} (hu : u ≠ t) (hf : d.free t ws = true) :
    (d.apply t ws).store.pending k = some (u, v) ↔ d.store.pending k = some (u, v) := by
  induction ws generalizing d with
  | nil => exact .rfl
  | cons x ws ih =>
    obtain ⟨hx, hws⟩ := free_cons hf
    rw [apply_cons, ih hws]
    by_cases hk : k = x.1
    · subst hk
      rw [show (d.put t x).store.pending x.1 = some (t, x.2) from Store.pending_put_self]
      constructor
      · intro h
        exact absurd (congrArg Prod.fst (Option.some.inj h)).symm hu
      · intro h
        exact absurd (Store.free_iff.1 hx u ⟨v, h⟩) hu
    · rw [show (d.put t x).store.pending k = d.store.pending k from Store.pending_put_of_ne hk]

/-! ### What a session has -/

/-- **What `t` holds is the same**: its rows and its session locks. -/
structure Kept (t : T) (d d' : Database T V) : Prop where
  pending : ∀ k v, d.store.pending k = some (t, v) ↔ d'.store.pending k = some (t, v)
  session : ∀ h n, d.session h = some (t, n) ↔ d'.session h = some (t, n)

theorem Kept.refl : Kept t d d := ⟨fun _ _ => .rfl, fun _ _ => .rfl⟩

theorem Kept.holds {d' : Database T V} (hk : Kept t d d') :
    d.store.Holds t k ↔ d'.store.Holds t k :=
  ⟨fun ⟨v, hv⟩ => ⟨v, (hk.pending k v).1 hv⟩, fun ⟨v, hv⟩ => ⟨v, (hk.pending k v).2 hv⟩⟩

theorem Kept.clean {d' : Database T V} (hk : Kept t d d') (hc : d.store.Clean t) :
    d'.store.Clean t :=
  fun k hh => hc k (hk.holds.2 hh)

theorem Kept.locked {d' : Database T V} (hk : Kept t d d') : d.Locked t h ↔ d'.Locked t h :=
  ⟨fun ⟨n, hn⟩ => ⟨n, (hk.session h n).1 hn⟩, fun ⟨n, hn⟩ => ⟨n, (hk.session h n).2 hn⟩⟩

theorem pending_drop_other {v : Option (V k)} (hu : u ≠ t) :
    d.store.drop t k = some (u, v) ↔ d.store.pending k = some (u, v) := by
  rw [Store.drop_eq_some_iff]
  exact ⟨And.left, fun h => ⟨h, hu⟩⟩

theorem kept_apply (hu : u ≠ t) (hf : d.free t ws = true) : Kept u d (d.apply t ws) :=
  ⟨fun _ _ => (pending_apply_other hu hf).symm, fun _ _ => by rw [session_apply]⟩

theorem kept_commit (hu : u ≠ t) : Kept u d (d.commit t) :=
  ⟨fun _ _ => (pending_drop_other hu).symm, fun _ _ => .rfl⟩

theorem kept_rollback (hu : u ≠ t) : Kept u d (d.rollback t) :=
  ⟨fun _ _ => (pending_drop_other hu).symm, fun _ _ => .rfl⟩

theorem session_close {n : Nat} :
    (d.close t).session h = some (u, n) ↔ u ≠ t ∧ d.session h = some (u, n) := by
  unfold close
  dsimp only
  split
  · rename_i v m hv
    rw [hv]
    split_ifs with hvt
    · subst hvt
      simp only [Option.some.injEq, Prod.mk.injEq, false_iff, not_and]
      exact fun hne hvu => absurd hvu.symm hne
    · simp only [Option.some.injEq, Prod.mk.injEq]
      exact ⟨fun ⟨hvu, hm⟩ => ⟨hvu ▸ hvt, hvu, hm⟩, And.right⟩
  · rename_i hv
    rw [hv]
    simp only [reduceCtorEq, and_false]

theorem kept_close (hu : u ≠ t) : Kept u d (d.close t) :=
  ⟨fun _ _ => (pending_drop_other hu).symm,
    fun _ _ => ⟨fun h => session_close.2 ⟨hu, h⟩, fun h => (session_close.1 h).2⟩⟩

theorem lockFree_session {n : Nat} (hf : d.lockFree t h = true) (hs : d.session h = some (u, n)) :
    u = t := by
  rw [lockFree, Bool.and_eq_true, hs] at hf
  simpa using hf.1

theorem locked_acquire : (d.acquire t h).Locked t h := ⟨_, Function.update_self ..⟩

theorem kept_acquire (hu : u ≠ t) (hf : d.lockFree t h = true) : Kept u d (d.acquire t h) := by
  refine ⟨fun _ _ => .rfl, fun l n => ?_⟩
  unfold acquire
  dsimp only
  by_cases hl : l = h
  · subst hl
    rw [Function.update_self]
    constructor
    · intro hs
      exact absurd (lockFree_session hf hs) hu
    · intro hs
      exact absurd (congrArg Prod.fst (Option.some.inj hs)).symm hu
  · rw [Function.update_of_ne hl]

theorem release_cases : d.release t h = d ∨ ∃ n m, d.session h = some (t, n) ∧
    d.release t h = { d with session := Function.update d.session h m } ∧
      ∀ u l, m = some (u, l) → u = t := by
  unfold release
  split
  · rename_i u n hs
    by_cases hu : u = t
    · subst hu
      rw [if_pos rfl]
      refine .inr ⟨n, _, hs, rfl, fun v l hv => ?_⟩
      by_cases hn : n ≤ 1
      · rw [if_pos hn] at hv
        cases hv
      · rw [if_neg hn] at hv
        exact (congrArg Prod.fst (Option.some.inj hv)).symm
    · rw [if_neg hu]
      exact .inl rfl
  · exact .inl rfl

theorem kept_release (hu : u ≠ t) : Kept u d (d.release t h) := by
  rcases release_cases (d := d) (t := t) (h := h) with hr | ⟨n, m, hs, hr, hm⟩
  · rw [hr]
    exact .refl
  · rw [hr]
    refine ⟨fun _ _ => .rfl, fun l j => ?_⟩
    dsimp only
    by_cases hl : l = h
    · subst hl
      rw [Function.update_self, hs]
      constructor
      · intro h
        exact absurd (congrArg Prod.fst (Option.some.inj h)).symm hu
      · intro h
        exact absurd (hm _ _ h) hu
    · rw [Function.update_of_ne hl]

theorem locked_release {l : Int} (hl : l ≠ h) : (d.release t h).Locked u l ↔ d.Locked u l := by
  unfold Locked
  rcases release_cases (d := d) (t := t) (h := h) with hr | ⟨n, m, -, hr, -⟩
  · rw [hr]
  · rw [hr]
    dsimp only
    rw [Function.update_of_ne hl]

@[simp] theorem store_release : (d.release t h).store = d.store := by
  rcases release_cases (d := d) (t := t) (h := h) with hr | ⟨n, m, -, hr, -⟩
  · rw [hr]
  · rw [hr]

@[simp] theorem keys_release : (d.release t h).keys = d.keys := by
  rcases release_cases (d := d) (t := t) (h := h) with hr | ⟨n, m, -, hr, -⟩
  · rw [hr]
  · rw [hr]

/-! ### The keys of all rows -/

/-- Every row there is has its key among the keys. -/
def Indexed (d : Database T V) : Prop :=
  ∀ k, ((d.store.committed k).isSome = true ∨ ∃ t v, d.store.pending k = some (t, some v)) →
    k ∈ d.keys

theorem Indexed.empty : (empty : Database T V).Indexed := by
  rintro k (h | ⟨t, v, h⟩)
  · cases h
  · cases h

theorem Indexed.view (hd : d.Indexed) (hk : (d.view t k).isSome = true) : k ∈ d.keys := by
  unfold Database.view Store.view at hk
  split at hk
  · rename_i u v hp
    split_ifs at hk with hu
    · obtain ⟨r, rfl⟩ := Option.isSome_iff_exists.1 hk
      exact hd k (.inr ⟨u, r, hp⟩)
    · exact hd k (.inl hk)
  · exact hd k (.inl hk)

/-- **A scan finds every row.** -/
theorem mem_scan {p : K → Bool} (hd : d.Indexed) :
    k ∈ d.scan t p ↔ p k = true ∧ (d.view t k).isSome = true := by
  rw [scan, List.mem_filter, Bool.and_eq_true]
  exact ⟨And.right, fun h => ⟨hd.view h.2, h⟩⟩

theorem Indexed.put (hd : d.Indexed) : (d.put t x).Indexed := by
  intro k hk
  have hmem : k = x.1 ∨ k ∈ d.keys := by
    by_cases hkx : k = x.1
    · exact .inl hkx
    · rw [show (d.put t x).store.pending k = d.store.pending k from
        Store.pending_put_of_ne hkx] at hk
      exact .inr (hd k hk)
  unfold Database.put
  dsimp only
  split_ifs with hx
  · exact hmem.elim (fun h => h ▸ hx) id
  · exact List.mem_cons.2 hmem

theorem Indexed.apply (hd : d.Indexed) : (d.apply t ws).Indexed := by
  induction ws generalizing d with
  | nil => exact hd
  | cons x ws ih => exact ih hd.put

theorem Indexed.of_drop {d' : Database T V} (hd : d.Indexed) (hkeys : d'.keys = d.keys)
    (hc : ∀ k, (d'.store.committed k).isSome = true → k ∈ d.keys)
    (hp : d'.store.pending = d.store.drop t) : d'.Indexed := by
  rintro k (h | ⟨u, v, h⟩)
  · exact hkeys ▸ hc k h
  · rw [hp] at h
    exact hkeys ▸ hd k (.inr ⟨u, v, (Store.drop_eq_some_iff.1 h).1⟩)

theorem Indexed.commit (hd : d.Indexed) : (d.commit t).Indexed :=
  hd.of_drop rfl (fun _ h => hd.view h) rfl

theorem Indexed.rollback (hd : d.Indexed) : (d.rollback t).Indexed :=
  hd.of_drop rfl (fun k h => hd k (.inl h)) rfl

theorem Indexed.close (hd : d.Indexed) : (d.close t).Indexed :=
  hd.of_drop rfl (fun k h => hd k (.inl h)) rfl

theorem Indexed.release (hd : d.Indexed) : (d.release t h).Indexed := by
  intro k hk
  rw [store_release] at hk
  rw [keys_release]
  exact hd k hk

/-! ### One step of one session -/

/-- **What one call of `t` can do to the database.** -/
inductive Step (t : T) (d : Database T V) : Database T V → Prop
  | same : Step t d d
  | apply {ws : List (Write V)} : d.free t ws = true → Step t d (d.apply t ws)
  | commit : Step t d (d.commit t)
  | rollback : Step t d (d.rollback t)
  | acquire {h : Int} : d.lockFree t h = true → Step t d (d.acquire t h)
  | release {h : Int} : Step t d (d.release t h)
  | enter {h : Int} : Step t d (d.enter t h)

variable {d' : Database T V}

/-- **No session takes anything from another.** -/
theorem Step.kept (hs : Step t d d') (hu : u ≠ t) : Kept u d d' := by
  cases hs with
  | same => exact .refl
  | apply hf => exact kept_apply hu hf
  | commit => exact kept_commit hu
  | rollback => exact kept_rollback hu
  | acquire hf => exact kept_acquire hu hf
  | release => exact kept_release hu
  | enter => exact ⟨fun _ _ => .rfl, fun _ _ => .rfl⟩

theorem Step.indexed (hs : Step t d d') (hd : d.Indexed) : d'.Indexed := by
  cases hs with
  | same => exact hd
  | apply _ => exact hd.apply
  | commit => exact hd.commit
  | rollback => exact hd.rollback
  | acquire _ => exact hd
  | release => exact hd.release
  | enter => exact hd

/-- Committed rows change by a commit only. -/
theorem Step.committed (hs : Step t d d') :
    d'.store.committed = d.store.committed ∨ d' = d.commit t := by
  cases hs with
  | same => exact .inl rfl
  | apply _ => exact .inl committed_apply
  | commit => exact .inr rfl
  | rollback => exact .inl rfl
  | acquire _ => exact .inl rfl
  | release => exact .inl (by rw [store_release])
  | enter => exact .inl rfl

end Lemmas

end Database

end Concurrency
