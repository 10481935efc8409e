/-
# Runs in which only reads of records can fail

A program that runs alone, where every call but `getRecord` is carried out and each
`getRecord` is answered from a list: with an object, or by raising anything an engine
call may raise.  The list is the state's second part; a read takes its head.
-/

import BaobabErp.Platform.Alone

namespace BaobabErp

open Python Concurrency World

/-- What a read of a record came to. -/
abbrev Reply := Except Exc (List (String × Json))

/-- The replies before and after a call that was answered with `r`. -/
def Taken : (e : Eff) → Except Exc (Ans e) → List Reply → List Reply → Prop
  | .getRecord _ _ _, r, before, after => before = r :: after
  | _, _, before, after => after = before

def Eff.isRead : Eff → Bool
  | .getRecord _ _ _ => true
  | _ => false

/-- One call, which does not fail unless it is a read. -/
def Replied (D : Deployment) (w : Worker) (e : Eff) (s : World × List Reply)
    (r : Except Exc (Ans e)) (t : World × List Reply) : Prop :=
  Taken e r s.2 t.2 ∧ ∃ c, exec D w e c s.1 = some (r, t.1) ∧ (e.isRead = false → c.failure = none)

/-- **From `s.1`, with the replies `s.2`, the program ends with `x`** in `t.1`, and
leaves the replies `t.2`. -/
abbrev Heard (D : Deployment) (w : Worker) {α : Type} (p : Program α) (s : World × List Reply)
    (x : Except Exc α) (t : World × List Reply) : Prop :=
  Prog.Alone (Replied D w) p s x t

section

variable {D : Deployment} {w : Worker} {α β : Type} {s t : World × List Reply}

/-- Such a run is a run. -/
theorem Heard.ran {p : Program α} {x : Except Exc α} (h : Heard D w p s x t) :
    Ran D w p s.1 x t.1 :=
  h.map Prod.fst fun ⟨_, c, hc, _⟩ => ⟨c, hc⟩

/-- The reply of a call that is a read. -/
def replyOf : (e : Eff) → Except Exc (Ans e) → List Reply
  | .getRecord _ _ _, r => [r]
  | _, _ => []

/-- The run the choices lead to, with the replies of its reads. -/
def hear (D : Deployment) (w : Worker) : Program α → List Choice → World →
    Option (Except Exc α × World × List Reply)
  | .ret x, _, s => some (x, s, [])
  | .call _ _, [], _ => none
  | .call e k, c :: cs, s =>
    match exec D w e c s with
    | some (r, t) =>
      if e.isRead || c.failure.isNone then
        (hear D w (k r) cs t).map fun (x, u, replies) => (x, u, replyOf e r ++ replies)
      else none
    | none => none

theorem heard_of_hear {p : Program α} {cs : List Choice} {s t : World} {x : Except Exc α}
    {replies : List Reply} (rest : List Reply) (h : hear D w p cs s = some (x, t, replies)) :
    Heard D w p (s, replies ++ rest) x (t, rest) := by
  induction p generalizing cs s replies with
  | ret r =>
    obtain ⟨rfl, ht⟩ := Prod.mk.inj (Option.some.inj h)
    obtain ⟨rfl, rfl⟩ := Prod.mk.inj ht
    exact .ret
  | call e k ih =>
    cases cs with
    | nil => cases h
    | cons c cs =>
      unfold hear at h
      split at h
      · rename_i r u he
        split_ifs at h with hcalm
        obtain ⟨⟨x', u', taken⟩, hk, hend⟩ := Option.map_eq_some_iff.1 h
        obtain ⟨rfl, ht⟩ := Prod.mk.inj hend
        obtain ⟨rfl, rfl⟩ := Prod.mk.inj ht
        refine .call ⟨?_, c, he, fun hread => ?_⟩ (ih r hk)
        · cases e <;> rfl
        · rw [hread, Bool.false_or] at hcalm
          exact Option.isNone_iff_eq_none.1 hcalm
      · cases h

/-! ### Single calls -/

theorem heard_call {e : Eff} {x : Except Exc (Ans e)} (he : e.isRead = false)
    (h : Heard D w (.perform e) s x t) :
    t.2 = s.2 ∧ ∃ c, c.failure = none ∧ exec D w e c s.1 = some (x, t.1) := by
  obtain ⟨htaken, c, hc, hcalm⟩ := h.of_perform
  refine ⟨?_, c, hcalm he, hc⟩
  cases e <;> first | exact htaken | cases he

theorem heard_select {k : Key} {x : Except Exc (Option (Row k))}
    (h : Heard D w (Call.select k) s x t) :
    t.2 = s.2 ∧ x = .ok ((s.1.cell w k).map Cell.row) ∧ t.1 = s.1.seeRow w k := by
  obtain ⟨hreplies, c, hc, hexec⟩ := heard_call rfl h
  simp only [exec, hc] at hexec
  obtain ⟨hx, ht⟩ := Prod.mk.inj (Option.some.inj hexec)
  exact ⟨hreplies, hx.symm, ht.symm⟩

theorem heard_now {x : Except Exc Instant} (h : Heard D w Call.now s x t) :
    t = s ∧ ∃ now, x = .ok now := by
  obtain ⟨hreplies, c, -, hexec⟩ := heard_call rfl h
  obtain ⟨hx, ht⟩ := Prod.mk.inj (Option.some.inj hexec)
  exact ⟨Prod.ext ht.symm hreplies, c.now, hx.symm⟩

theorem heard_uuid4 {x : Except Exc String} (h : Heard D w Call.uuid4 s x t) :
    t = s ∧ ∃ id, x = .ok id := by
  obtain ⟨hreplies, c, -, hexec⟩ := heard_call rfl h
  obtain ⟨hx, ht⟩ := Prod.mk.inj (Option.some.inj hexec)
  exact ⟨Prod.ext ht.symm hreplies, c.random, hx.symm⟩

/-- A read ends as its reply says, and changes no row. -/
theorem heard_getRecord {σ : Session} {table : String} {id : Int}
    {x : Except Exc (List (String × Json))} (h : Heard D w (Call.getRecord σ table id) s x t) :
    s.2 = x :: t.2 ∧ t.1.store = s.1.store := by
  obtain ⟨htaken, c, hc, -⟩ := h.of_perform
  exact ⟨htaken, (exec_quiet rfl hc).1⟩

theorem heard_executeProcess {σ : Session} {id : Int} {parameters : List (String × Json)}
    {x : Except Exc (List (String × Json))}
    (h : Heard D w (Call.executeProcess σ id parameters) s x t) :
    t = s ∧ ∃ members, x = .ok members := by
  obtain ⟨hreplies, c, hc, hexec⟩ := heard_call rfl h
  simp only [exec, hc] at hexec
  obtain ⟨hx, ht⟩ := Prod.mk.inj (Option.some.inj hexec)
  exact ⟨Prod.ext ht.symm hreplies, c.members, hx.symm⟩

theorem heard_commit {x : Except Exc Unit} (h : Heard D w Call.commit s x t) :
    t.2 = s.2 ∧ x = .ok () ∧ t.1 = { s.1 with store := s.1.store.commit w } := by
  obtain ⟨hreplies, c, hc, hexec⟩ := heard_call rfl h
  simp only [exec, hc] at hexec
  obtain ⟨hx, ht⟩ := Prod.mk.inj (Option.some.inj hexec)
  exact ⟨hreplies, hx.symm, ht.symm⟩

/-- A run of a body that is rolled back where it raises. -/
theorem heard_orRollback {p : Program α} {x : Except Exc α}
    (h : Heard D w (Inbox.orRollback p) s x t) :
    (∃ a, x = .ok a ∧ Heard D w p s (.ok a) t) ∨
      ∃ z y u, x = .error y ∧ Heard D w p s (.error z) u ∧ t.1 = u.1.abort w := by
  unfold Inbox.orRollback at h
  rw [Prog.tryCatch_eq] at h
  obtain ⟨r, u, hp, hr⟩ := Prog.Alone.handle_iff.1 h
  cases r with
  | ok a =>
    obtain ⟨rfl, rfl⟩ := Prog.Alone.of_ret hr
    exact .inl ⟨a, rfl, hp⟩
  | error z =>
    refine .inr ?_
    rcases hr.of_bind with ⟨y, hback, rfl⟩ | ⟨_, v, hback, hthrow⟩
    · obtain ⟨-, c, -, hc⟩ := heard_call rfl hback
      exact ⟨z, y, u, rfl, hp, exec_rollback hc⟩
    · obtain ⟨-, c, -, hc⟩ := heard_call rfl hback
      obtain ⟨rfl, rfl⟩ := hthrow.of_throw
      exact ⟨z, z, u, rfl, hp, exec_rollback hc⟩

/-! ### What a statement leaves -/

/-- The rows at `k` and all others are as they were, for the session and for good. -/
structure Untouched (w : Worker) (k : Key) (s t : World) : Prop where
  committed : t.store.committed = s.store.committed
  cell : ∀ l, l ≠ k → (∀ i, l ≠ .index i) → t.cell w l = s.cell w l

theorem Untouched.of_store {k : Key} {s t : World} (h : t.store = s.store) : Untouched w k s t :=
  ⟨by rw [h], fun l _ _ => by unfold World.cell; rw [h]⟩

theorem Untouched.trans {k : Key} {s t u : World} (h : Untouched w k s t)
    (h' : Untouched w k t u) : Untouched w k s u :=
  ⟨h'.committed.trans h.committed, fun l hl hi => (h'.cell l hl hi).trans (h.cell l hl hi)⟩

theorem Untouched.of_touched {k : Key} {s t : World} (h : Touched w k s t) :
    Untouched w k s t := by
  refine ⟨h.committed, fun l hl hi => ?_⟩
  rcases h.pending l with hp | ⟨-, rfl | ⟨i, rfl⟩, -⟩
  · unfold World.cell Store.view
    rw [hp, h.committed]
  · exact absurd rfl hl
  · exact absurd rfl (hi i)

/-! ### Statements -/

theorem heard_selectForUpdate {k : Key} {x : Except Exc (Option (Row k))}
    (h : Heard D w (Call.selectForUpdate k) s x t) :
    t.2 = s.2 ∧ x = .ok ((s.1.cell w k).map Cell.row) ∧ Untouched w k s.1 t.1 ∧
      t.1.cell w k = s.1.cell w k := by
  obtain ⟨hreplies, c, hc, hexec⟩ := heard_call rfl h
  refine ⟨hreplies, ?_⟩
  rcases exec_selectForUpdate hexec with ⟨⟨z, rfl⟩, -⟩ | ⟨-, hx, htouched, hrow⟩
  · simp only [exec, hc] at hexec
    split_ifs at hexec
    split at hexec <;> cases hexec
  · refine ⟨hx, .of_touched htouched, ?_⟩
    rcases hrow with ⟨-, ht⟩ | ⟨cell, hcell, ht⟩
    · rw [ht]
    · rw [hcell]
      unfold World.cell
      rw [ht]
      exact Store.view_put_self

/-- An update of a row goes through, or the new row breaks a constraint. -/
theorem heard_update {k : Key} {set : Row k → Row k} {cell : Cell k} {x : Except Exc Nat}
    (hcell : s.1.cell w k = some cell) (h : Heard D w (Call.update k set) s x t) :
    t.2 = s.2 ∧ (Schema.check k (set cell.row) = false → ∃ z, x = .error z) ∧
      (Schema.check k (set cell.row) = true → (∃ n, x = .ok n) ∧ Untouched w k s.1 t.1 ∧
        ∃ new, t.1.cell w k = some new ∧ new.row = set cell.row) := by
  obtain ⟨hreplies, c, hc, hexec⟩ := heard_call rfl h
  refine ⟨hreplies, ?_⟩
  have hshape := exec_update hexec
  simp only [exec, hc, hcell, World.updateRow] at hexec
  split_ifs at hexec with hfree hcheck
  · obtain ⟨rfl, -⟩ := Prod.mk.inj (Option.some.inj hexec)
    refine ⟨fun hno => absurd (hcheck.symm.trans hno) (by decide), fun _ => ⟨⟨_, rfl⟩, ?_⟩⟩
    rcases hshape with ⟨⟨z, hz⟩, -⟩ | ⟨-, htouched, ⟨-, hnone, -⟩ | ⟨old, -, hold, hstore⟩⟩
    · cases hz
    · cases hnone.symm.trans hcell
    · obtain rfl := Option.some.inj (hcell.symm.trans hold)
      refine ⟨.of_touched htouched, ⟨set cell.row, s.1.creatorOf w k, s.1.current w⟩, ?_, rfl⟩
      unfold World.cell
      rw [hstore, Store.view_put_self]
  · obtain ⟨rfl, -⟩ := Prod.mk.inj (Option.some.inj hexec)
    exact ⟨fun _ => ⟨_, rfl⟩, fun hyes => absurd hyes hcheck⟩

/-- A new row goes in where there is none, or breaks a constraint. -/
theorem heard_insertNew {k : Key} {row : Row k} {x : Except Exc Bool}
    (hcell : s.1.cell w k = none) (h : Heard D w (Call.insertNew k row) s x t) :
    t.2 = s.2 ∧ (Schema.check k row = false → ∃ z, x = .error z) ∧
      (Schema.check k row = true → x = .ok true ∧ Untouched w k s.1 t.1) := by
  obtain ⟨hreplies, c, hc, hexec⟩ := heard_call rfl h
  refine ⟨hreplies, ?_⟩
  have hshape := exec_insertNew hexec
  simp only [exec, hc, hcell, Option.isSome_none, Bool.false_eq_true, if_false] at hexec
  split_ifs at hexec with hfree hcheck
  · obtain ⟨rfl, -⟩ := Prod.mk.inj (Option.some.inj hexec)
    refine ⟨fun hno => absurd (hcheck.symm.trans hno) (by decide), fun _ => ⟨rfl, ?_⟩⟩
    rcases hshape with ⟨⟨z, hz⟩, -⟩ | ⟨-, htouched, -⟩
    · cases hz
    · exact .of_touched htouched
  · obtain ⟨rfl, -⟩ := Prod.mk.inj (Option.some.inj hexec)
    exact ⟨fun _ => ⟨_, rfl⟩, fun hyes => absurd hyes hcheck⟩

/-- A row of a table without further indexes and references goes in exactly where there
is none. -/
theorem heard_insert {k : Key} {row : Defaults → Row k} {x : Except Exc (Row k)}
    (hplain : ∀ d, Schema.indexed k (row d) = [] ∧ Schema.check k (row d) = true ∧
      Schema.parent k (row d) = none)
    (h : Heard D w (Call.insert k row) s x t) :
    t.2 = s.2 ∧ (s.1.cell w k ≠ none → ∃ z, x = .error z) ∧
      (s.1.cell w k = none → ∃ d, x = .ok (row d) ∧ Untouched w k s.1 t.1 ∧
        ∃ cell, t.1.cell w k = some cell ∧ cell.row = row d) := by
  obtain ⟨hreplies, c, hc, hexec⟩ := heard_call rfl h
  refine ⟨hreplies, ?_⟩
  obtain ⟨hindexed, hcheck, hparent⟩ := hplain c.defaults
  have hshape := exec_insert hexec
  simp only [exec, hc, World.insertRow, hindexed, hcheck, hparent, List.any_nil, Bool.or_false,
    Option.any_none, Bool.not_true, Bool.false_eq_true, if_false] at hexec
  split_ifs at hexec with hfree hsome
  · obtain ⟨rfl, -⟩ := Prod.mk.inj (Option.some.inj hexec)
    refine ⟨fun _ => ⟨_, rfl⟩, fun hnone => ?_⟩
    rw [hnone] at hsome
    cases hsome
  · obtain ⟨rfl, ht⟩ := Prod.mk.inj (Option.some.inj hexec)
    refine ⟨fun hne => absurd (Option.not_isSome_iff_eq_none.1 hsome) hne, fun hnone => ?_⟩
    rcases hshape with ⟨⟨z, hz⟩, -⟩ | ⟨-, -, -, -, -, htouched⟩
    · cases hz
    · refine ⟨c.defaults, rfl, .of_touched htouched,
        ⟨row c.defaults, s.1.creatorOf w k, s.1.current w⟩, ?_, rfl⟩
      rw [← ht]
      unfold World.writeIndexed
      rw [hindexed]
      show (s.1.write w k (row c.defaults)).store.view w k = _
      rw [write_store, Store.view_put_self]

end

end BaobabErp
