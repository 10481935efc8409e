/-
# What a provisioning session knows between its calls

The assertions of `coordination` that the walks through the programs are made
of: what the transaction has written (`wrote`), a row of an operation that is
locked (`ownedRow`), a row that is held (`heldRow`), a fact that nothing takes
back (`known`), and the rules for the calls in terms of them.
-/

import BaobabErp.Provisioning.Coordination
import BaobabErp.Provisioning.Statements

namespace BaobabErp
namespace Provisioning

open Python Concurrency

/-! ### Facts -/

/-- **A fact of rows and engines that going forward keeps.** -/
structure Fact where
  holds : Rows → List NativeRecord → Prop
  mono : ∀ {rows rows' engine engine'}, Forward rows rows' → (∀ x ∈ engine, x ∈ engine') →
    holds rows engine → holds rows' engine'

namespace Fact

def top : Fact := ⟨fun _ _ => True, fun _ _ _ => trivial⟩

def and (M N : Fact) : Fact :=
  ⟨fun rows engine => M.holds rows engine ∧ N.holds rows engine,
    fun hf hg h => ⟨M.mono hf hg h.1, N.mono hf hg h.2⟩⟩

/-- A fact for every step of a list. -/
def all {α : Type} (xs : List α) (M : α → Fact) : Fact :=
  ⟨fun rows engine => ∀ x ∈ xs, (M x).holds rows engine,
    fun hf hg h x hx => (M x).mono hf hg (h x hx)⟩

/-- A row that is written once. -/
def row (k : Key) (hk : k.isPermanent = true) (v : Row k) : Fact :=
  ⟨fun rows _ => rows k = some v, fun hf _ h => hf.permanent k hk v h⟩

/-- The step is completed. -/
def completed (pid key : String) : Fact :=
  ⟨fun rows _ => (rows (.step pid key)).isSome = true, fun hf _ h => hf.step pid key h⟩

/-- The engine has the record. -/
def record (r : NativeRecord) : Fact :=
  ⟨fun _ engine => r ∈ engine, fun _ hg h => hg r h⟩

/-- The operation is there, with the plan of the blueprint. -/
def planned (D : ProvisioningDeployment) (pid : String) (b : Blueprint) : Fact :=
  ⟨fun rows _ => ∃ row : OperationRow, rows (.operation pid) = some row ∧ Planned D pid row b,
    fun hf _ ⟨row, hrow, hb⟩ => by
      obtain ⟨row', hrow', -, hstate, hdigest, hplan⟩ := hf.operation pid row hrow
      refine ⟨row', hrow', hb.moved ?_⟩
      unfold OperationRow.Moved OperationRow.core
      rw [hstate, hdigest, hplan]⟩

/-- The command of a key, with the fingerprint it was accepted with. -/
def commandOf (tenant key op fingerprint : String) : Fact :=
  ⟨fun rows _ => rows (.commandKey tenant key) = some op ∧ ∃ c : CommandRow,
      rows (.command op) = some c ∧ c.requestFingerprint = fingerprint,
    fun hf _ ⟨hkey, c, hc, hfp⟩ => by
      obtain ⟨d, hd, -, -, hfp', -⟩ := hf.command op c hc
      exact ⟨hf.permanent _ rfl _ hkey, d, hd, hfp'.trans hfp⟩⟩

end Fact

/-! ### What a transaction has written -/

namespace World

variable {s : World} {w : Worker} {k : Key} {ws ws' : List (Write Row)}

/-- The own version of each row that some statements wrote, over earlier ones. -/
def written (own : (k : Key) → Option (Option (Row k))) (ws : List (Write Row)) :
    (k : Key) → Option (Option (Row k)) :=
  ws.foldl (fun f x => Function.update f x.1 (some x.2)) own

/-- The transaction has made these writes. -/
def Wrote (s : World) (w : Worker) (ws : List (Write Row)) : Prop :=
  s.own w = written (fun _ => none) ws

theorem wrote_nil : s.Wrote w [] ↔ s.Clean w := .rfl

theorem own_put {d : Database Worker Row} {x : Write Row} (hd : s.db = d.put w x) :
    s.own w = Function.update
      (World.own { s with db := d } w) x.1 (some x.2) := by
  funext l
  unfold own
  rw [hd]
  by_cases hl : l = x.1
  · subst hl
    rw [Function.update_self,
      show (d.put w x).store.pending x.1 = some (w, x.2) from Store.pending_put_self]
    dsimp only
    rw [if_pos rfl]
  · rw [Function.update_of_ne hl,
      show (d.put w x).store.pending l = d.store.pending l from Store.pending_put_of_ne hl]

theorem own_write : (s.write w ws).own w = written (s.own w) ws := by
  have h : ∀ (ws : List (Write Row)) (d : Database Worker Row),
      World.own { s with db := d.apply w ws } w = written (World.own { s with db := d } w) ws := by
    intro ws
    induction ws with
    | nil => intro d; rfl
    | cons x ws ih =>
      intro d
      rw [Database.apply_cons, ih]
      unfold written
      rw [List.foldl_cons]
      congr 1
      exact own_put (s := { s with db := d.put w x }) rfl
  exact h ws s.db

theorem Wrote.write (h : s.Wrote w ws) : (s.write w ws').Wrote w (ws ++ ws') := by
  unfold Wrote at h ⊢
  rw [own_write, h]
  unfold written
  rw [List.foldl_append]

theorem written_of_not_mem {own : (k : Key) → Option (Option (Row k))}
    (hk : k ∉ ws.map Sigma.fst) : written own ws k = own k := by
  induction ws generalizing own with
  | nil => rfl
  | cons x ws ih =>
    rw [List.map_cons, List.mem_cons, not_or] at hk
    show written (Function.update own x.1 (some x.2)) ws k = _
    rw [ih hk.2, Function.update_of_ne hk.1]

theorem written_isSome {own : (k : Key) → Option (Option (Row k))} (hk : own k ≠ none) :
    written own ws k ≠ none := by
  induction ws generalizing own with
  | nil => exact hk
  | cons x ws ih =>
    show written (Function.update own x.1 (some x.2)) ws k ≠ none
    refine ih ?_
    by_cases hkx : k = x.1
    · subst hkx
      rw [Function.update_self]
      exact Option.some_ne_none _
    · rwa [Function.update_of_ne hkx]

theorem written_of_mem {own : (k : Key) → Option (Option (Row k))} (hk : k ∈ ws.map Sigma.fst) :
    written own ws k ≠ none := by
  induction ws generalizing own with
  | nil => cases hk
  | cons x ws ih =>
    rw [List.map_cons, List.mem_cons] at hk
    by_cases hmem : k ∈ ws.map Sigma.fst
    · exact ih hmem
    · obtain rfl := hk.resolve_right hmem
      show written (Function.update own x.1 (some x.2)) ws x.1 ≠ none
      refine written_isSome ?_
      rw [Function.update_self]
      exact Option.some_ne_none _

/-- The rows a transaction holds are those it wrote. -/
theorem Wrote.held (h : s.Wrote w ws) : s.own w k ≠ none ↔ k ∈ ws.map Sigma.fst := by
  unfold Wrote at h
  rw [h]
  constructor
  · intro hk
    by_contra hmem
    exact hk (written_of_not_mem hmem)
  · exact written_of_mem

theorem overlay_written {own : (k : Key) → Option (Option (Row k))} {rows : Rows} :
    (fun k => (written own ws k).getD (rows k)) =
      Database.overlay (fun k => (own k).getD (rows k)) ws := by
  induction ws generalizing own with
  | nil => rfl
  | cons x ws ih =>
    show (fun k => (written (Function.update own x.1 (some x.2)) ws k).getD (rows k)) = _
    rw [ih, Database.overlay_cons]
    congr 1
    funext k
    by_cases hk : k = x.1
    · subst hk
      rw [Function.update_self, Function.update_self]
      rfl
    · rw [Function.update_of_ne hk, Function.update_of_ne hk]

/-- What a transaction sees are its writes over the committed rows. -/
theorem Wrote.view (h : s.Wrote w ws) : s.view w = Database.overlay s.rows ws := by
  have hview : s.view w = fun k => (s.own w k).getD (s.rows k) := funext fun k => view_eq
  rw [hview, show s.own w = _ from h, overlay_written]
  rfl

theorem write_nil : s.write w [] = s := by
  unfold write
  rw [show (s.dirty w || !([] : List (Write Row)).isEmpty) = s.dirty w by simp,
    Function.update_eq_self]
  rfl

theorem clean_abort : (s.abort w).Clean w := by
  funext k
  cases h : (s.abort w).own w k with
  | none => rfl
  | some row =>
    rw [own_eq_some] at h
    exact absurd ⟨row, h⟩ (Store.clean_rollback k)

theorem clean_commit : (s.commit w).Clean w := by
  funext k
  cases h : (s.commit w).own w k with
  | none => rfl
  | some row =>
    rw [own_eq_some] at h
    exact absurd ⟨row, h⟩ (Store.clean_commit k)

theorem clean_close : (s.close w).Clean w := clean_abort (s := s)

@[simp] theorem locked_abort {h : Int} : (s.abort w).db.Locked w h ↔ s.db.Locked w h := .rfl

@[simp] theorem locked_commit {h : Int} : (s.commit w).db.Locked w h ↔ s.db.Locked w h := .rfl

@[simp] theorem locked_write {h : Int} : (s.write w ws).db.Locked w h ↔ s.db.Locked w h := by
  show (s.db.apply w ws).Locked w h ↔ _
  unfold Database.Locked
  rw [Database.session_apply]

@[simp] theorem rows_abort : (s.abort w).rows = s.rows := rfl

@[simp] theorem rows_write : (s.write w ws).rows = s.rows := Database.committed_apply

@[simp] theorem rows_commit : (s.commit w).rows = s.view w := rfl

end World

/-! ### Calls -/

section

variable {D : ProvisioningDeployment} {w : Worker} {A B : (coordination D).Assertion w}

/-- An assertion that holds of whatever the others leave. -/
def settled (A : World → Prop)
    (h : ∀ {s t}, Coordinated D s → Settled D w s t → A s → A t) : (coordination D).Assertion w :=
  ⟨A, fun hs _ ho hA => h hs (other_settled ho) hA⟩

/-- A statement: it raises and ends the transaction, or it makes its writes. -/
theorem mapping_triple {q : Query} {Q : q.Ans → (coordination D).Assertion w}
    (hg : ∀ s : World, Coordinated D s → A.holds s → Unmarked D → ClientsApart s.engine →
      MapsFreely w q s)
    (hx : ∀ s : World, Coordinated D s → A.holds s → B.holds (s.abort w))
    (hok : ∀ (s : World) d a ws, Coordinated D s → A.holds s →
      q.run (s.view w) (s.db.scan w) d = .ok (a, ws) → (Q a).holds (s.write w ws)) :
    (coordination D).Triple w A (Call.sql q) (.ends Q B) := by
  refine .perform hg fun c s r t hi _ hA _ he => ?_
  rcases exec_sql (D := D) he with ⟨x, rfl, rfl, -⟩ | ⟨a, ws, hq, -, rfl, rfl⟩
  · exact hx s hi hA
  · exact hok s _ a ws hi hA hq

/-- A statement that maps no tenant. -/
theorem sql_triple {q : Query} {Q : q.Ans → (coordination D).Assertion w}
    (hx : ∀ s : World, Coordinated D s → A.holds s → B.holds (s.abort w))
    (hok : ∀ (s : World) d a ws, Coordinated D s → A.holds s →
      q.run (s.view w) (s.db.scan w) d = .ok (a, ws) → (Q a).holds (s.write w ws))
    (hq : q.mapsTenant = false := by rfl) :
    (coordination D).Triple w A (Call.sql q) (.ends Q B) :=
  mapping_triple (fun _ _ _ _ _ => mapsFreely_of hq) hx hok

/-- A commit: it fails and ends the transaction, or everybody sees its rows. -/
theorem commit_triple {Q : Unit → (coordination D).Assertion w}
    (hg : ∀ s : World, Coordinated D s → A.holds s → Commits D w s)
    (hx : ∀ s : World, Coordinated D s → A.holds s → B.holds (s.abort w))
    (hok : ∀ s : World, Coordinated D s → Commits D w s → A.holds s → (Q ()).holds (s.commit w)) :
    (coordination D).Triple w A Call.commit (.ends Q B) := by
  refine .perform hg fun c s r t hi _ hA hgs he => ?_
  rcases exec_commit (D := D) he with ⟨f, rfl, rfl⟩ | ⟨rfl, rfl⟩
  · exact hx s hi hA
  · exact hok s hi hgs hA

theorem rollback_triple (h : ∀ s : World, Coordinated D s → A.holds s → B.holds (s.abort w)) :
    (coordination D).Triple w A Call.rollback fun _ => B := by
  refine .perform (fun _ _ _ => trivial) fun c s r t hi _ hA _ he => ?_
  obtain rfl := exec_rollback (D := D) he
  exact h s hi hA

theorem quiet_triple {e : Eff} (he : e.isQuiet = true) :
    (coordination D).Triple w A (Prog.perform e) fun _ => A := by
  refine .perform (fun s _ _ => ?_) fun c s r t _ _ hA _ hx => ?_
  · cases e with
    | commit => cases he
    | createRecord => cases he
    | answer => cases he
    | _ => trivial
  · obtain rfl := exec_quiet (D := D) he hx
    exact hA

theorem orRaise_triple {α : Type} {x : Except Exc α} {Q : α → (coordination D).Assertion w}
    (hok : ∀ a, x = .ok a → ∀ s : World, A.holds s → (Q a).holds s)
    (hx : ∀ e, x = .error e → ∀ s : World, A.holds s → B.holds s) :
    (coordination D).Triple w A (orRaise x) (.ends Q B) := by
  cases x with
  | ok a => exact .ret fun s _ => hok a rfl s
  | error e => exact .ret fun s _ => hx e rfl s

theorem orRaise_bind {α β : Type} {a : α} {f : α → Program β} : (orRaise (.ok a) >>= f) = f a := rfl

/-- What the invariant and the precondition say may be used in the proof of the rest. -/
theorem learn_triple {α : Type} {p : Program α} {Q : Except Exc α → (coordination D).Assertion w}
    {P : Prop} (h : ∀ s : World, Coordinated D s → A.holds s → P)
    (hp : P → (coordination D).Triple w A p Q) : (coordination D).Triple w A p Q :=
  ⟨fun s hs hA => (hp (h s hs hA)).safe s hs hA⟩

/-- Nothing is written, so a commit leaves everything. -/
theorem Commits.of_clean {s : World} (hs : Coordinated D s) (h : s.Clean w) : Commits D w s where
  ledger := by
    rw [h.view]
    exact hs.ledger
  forward := by
    rw [h.view]
    exact .refl _
  owned k pid _ hown := absurd (congrFun h k) hown
  projected pid row row' op le hr hr' hne _ := by
    rw [h.view] at hr'
    obtain rfl : row = row' := Option.some.inj (hr.symm.trans hr')
    exact absurd rfl hne

/-! ### At work on an operation -/

variable {pid : String} {mine : Rows} {ws ws' : List (Write Row)} {M : Fact} {s t : World}

/-- **A session at work on an operation.**  It holds the lock, `mine` are the
operation's rows and `ws` what its transaction has written. -/
structure Working (D : ProvisioningDeployment) (w : Worker) (pid : String) (mine : Rows)
    (ws : List (Write Row)) (M : Fact) (s : World) : Prop where
  locked : s.db.Locked w (lockOf D pid)
  found : (mine (.operation pid)).isSome = true
  mine : ∀ k, k.owner = some pid → s.rows k = mine k
  wrote : s.Wrote w ws
  known : M.holds s.rows s.engine

theorem Working.settled (hA : Working D w pid mine ws M s) (h : Settled D w s t) :
    Working D w pid mine ws M t where
  locked := h.same.kept.locked.1 hA.locked
  found := hA.found
  mine k hk := by
    rw [h.owned pid hA.locked (by rw [hA.mine _ rfl]; exact hA.found) k hk]
    exact hA.mine k hk
  wrote := by
    unfold World.Wrote
    rw [h.same.own]
    exact hA.wrote
  known := M.mono h.forward h.engine hA.known

def working (D : ProvisioningDeployment) (w : Worker) (pid : String) (mine : Rows)
    (ws : List (Write Row)) (M : Fact) : (coordination D).Assertion w :=
  Provisioning.settled (Working D w pid mine ws M) fun _ h hA => hA.settled h

theorem Working.abort (hA : Working D w pid mine ws M s) : Working D w pid mine [] M (s.abort w) :=
  ⟨hA.locked, hA.found, hA.mine, World.clean_abort, hA.known⟩

theorem Working.write (hA : Working D w pid mine ws M s) :
    Working D w pid mine (ws ++ ws') M (s.write w ws') where
  locked := World.locked_write.2 hA.locked
  found := hA.found
  mine k hk := by
    rw [World.rows_write]
    exact hA.mine k hk
  wrote := hA.wrote.write
  known := by
    rw [World.rows_write]
    exact hA.known

theorem Working.view (hA : Working D w pid mine ws M s) :
    s.view w = Database.overlay s.rows ws := hA.wrote.view

theorem overlay_congr {rows rows' : Rows} {k : Key} (h : rows k = rows' k) :
    Database.overlay rows ws k = Database.overlay rows' ws k := by
  induction ws generalizing rows rows' with
  | nil => exact h
  | cons x ws ih =>
    rw [Database.overlay_cons, Database.overlay_cons]
    refine ih ?_
    by_cases hk : k = x.1
    · subst hk
      rw [Function.update_self, Function.update_self]
    · rw [Function.update_of_ne hk, Function.update_of_ne hk, h]

/-- A row that is written as it is. -/
theorem update_same {rows : Rows} {k : Key} {v : Option (Row k)} (h : rows k = v) :
    Function.update rows k v = rows := by
  subst h
  exact Function.update_eq_self _ _

/-- What the session sees of the operation's rows. -/
theorem Working.view_mine (hA : Working D w pid mine ws M s) {k : Key} (hk : k.owner = some pid) :
    s.view w k = Database.overlay mine ws k := by
  rw [hA.view]
  exact overlay_congr (hA.mine k hk)

theorem Working.commit (hA : Working D w pid mine ws M s) (hg : Commits D w s)
    (hfound : (Database.overlay mine ws (.operation pid)).isSome = true) :
    Working D w pid (Database.overlay mine ws) [] M (s.commit w) where
  locked := hA.locked
  found := hfound
  mine _ hk := hA.view_mine hk
  wrote := World.clean_commit
  known := M.mono hg.forward (fun _ h => h) hA.known

/-- What a commit at work needs. -/
theorem Working.commits (hA : Working D w pid mine ws M s)
    (hkeys : ∀ k ∈ ws.map Sigma.fst, ∀ p, k.owner = some p → p = pid)
    (hledger : Ledger D (Database.overlay s.rows ws) s.engine)
    (hforward : Forward s.rows (Database.overlay s.rows ws))
    (hstatus : (∀ row row' : OperationRow, mine (.operation pid) = some row →
        Database.overlay mine ws (.operation pid) = some row' → row.status = row'.status) ∨
      ∃ op le, s.rows (.entityOwner pid) = some (op, le) ∧ Key.command op ∈ ws.map Sigma.fst) :
    Commits D w s where
  ledger := by
    rw [hA.view]
    exact hledger
  forward := by
    rw [hA.view]
    exact hforward
  owned k p hk hown := by
    obtain rfl := hkeys k (hA.wrote.held.1 hown) p hk
    exact .inl hA.locked
  projected p row row' op le hr hr' hne howner := by
    by_cases hp : p = pid
    · subst hp
      rw [hA.mine _ rfl] at hr
      rw [hA.view_mine rfl] at hr'
      rcases hstatus with hsame | ⟨op', le', howner', hmem⟩
      · exact absurd (hsame row row' hr hr') hne
      · obtain ⟨rfl, -⟩ := Prod.mk.inj (Option.some.inj (howner.symm.trans howner'))
        exact hA.wrote.held.2 hmem
    · rw [hA.view, Database.overlay_of_not_mem fun h => hp (hkeys _ h p rfl)] at hr'
      obtain rfl : row = row' := Option.some.inj (hr.symm.trans hr')
      exact absurd rfl hne

/-- The operation's rows are all that `mine` says. -/
theorem Working.congr {mine' : Rows} (hA : Working D w pid mine ws M s)
    (h : ∀ k, k.owner = some pid → mine' k = mine k) : Working D w pid mine' ws M s where
  locked := hA.locked
  found := by
    rw [h _ rfl]
    exact hA.found
  mine k hk := (hA.mine k hk).trans (h k hk).symm
  wrote := hA.wrote
  known := hA.known

theorem Working.of_known {N : Fact} (hA : Working D w pid mine ws M s)
    (h : N.holds s.rows s.engine) : Working D w pid mine ws N s :=
  ⟨hA.locked, hA.found, hA.mine, hA.wrote, h⟩

/-- A row that the session has written, and what everybody else reads there. -/
def heldRow (D : ProvisioningDeployment) (w : Worker) (k : Key) (v : Option (Row k)) :
    (coordination D).Assertion w :=
  settled (fun s => s.own w k ≠ none ∧ s.rows k = v) fun _ h ⟨hown, hv⟩ =>
    ⟨by rw [h.same.own]; exact hown, (h.held k hown).trans hv⟩

/-! ### Where a failure leaves a session -/

/-- The lock of an operation is held; what was written is open. -/
def astray (D : ProvisioningDeployment) (w : Worker) (pid : String) : (coordination D).Assertion w :=
  settled (fun s => s.db.Locked w (lockOf D pid) ∧ (s.rows (.operation pid)).isSome = true)
    fun _ h ⟨hl, hs⟩ => ⟨h.same.kept.locked.1 hl, by rw [h.owned pid hl hs _ rfl]; exact hs⟩

/-- The lock of an operation is held and nothing is written. -/
def stopped (D : ProvisioningDeployment) (w : Worker) (pid : String) : (coordination D).Assertion w :=
  settled (fun s => s.Clean w ∧ (astray D w pid).holds s) fun _ h ⟨hc, hl, hs⟩ =>
    ⟨by unfold World.Clean; rw [h.same.own]; exact hc, h.same.kept.locked.1 hl,
      by rw [h.owned pid hl hs _ rfl]; exact hs⟩

/-- Nothing is written. -/
def clean (D : ProvisioningDeployment) (w : Worker) : (coordination D).Assertion w :=
  settled (fun s => s.Clean w) fun _ h hc => by unfold World.Clean; rw [h.same.own]; exact hc

theorem Working.astray (hA : Working D w pid mine ws M s) : (astray D w pid).holds s :=
  ⟨hA.locked, by rw [hA.mine _ rfl]; exact hA.found⟩

theorem Working.stopped (hA : Working D w pid mine [] M s) : (stopped D w pid).holds s :=
  ⟨hA.wrote, hA.astray⟩

/-- A statement of a session at work. -/
theorem Working.sql {q : Query} {Q : q.Ans → (coordination D).Assertion w}
    (hB : ∀ s, (Provisioning.stopped D w pid).holds s → B.holds s)
    (hok : ∀ (s : World) d a ws', Coordinated D s → Working D w pid mine ws M s →
      q.run (s.view w) (s.db.scan w) d = .ok (a, ws') → (Q a).holds (s.write w ws'))
    (hq : q.mapsTenant = false := by rfl) :
    (coordination D).Triple w (working D w pid mine ws M) (Call.sql q) (.ends Q B) :=
  sql_triple (fun _ _ hA => hB _ (Working.abort hA).stopped)
    (fun s d a ws' hi hA => hok s d a ws' hi hA) hq

end

end Provisioning
end BaobabErp
