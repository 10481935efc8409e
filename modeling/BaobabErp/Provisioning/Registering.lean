/-
# Registering warehouses

The transaction that records a warehouse's identity writes rows that say nothing
of commands and operations (`Storing`), so what it commits leaves the ledger as it
was (`record_triple`).
-/

import BaobabErp.Provisioning.Applying

namespace BaobabErp
namespace Provisioning

open Python Concurrency

/-- A warehouse's rows belong to no operation. -/
theorem Key.owner_of_warehouse {k : Key} (h : k.isWarehouse = true) : k.owner = none := by
  cases k <;> first | rfl | cases h

/-! ### What the statements write -/

namespace Query

/-- The statements on a warehouse's rows, and those that write nothing. -/
def onWarehouse : Query → Bool
  | select _ => true
  | selectForUpdate k => k.isWarehouse
  | insert k _ => k.isWarehouse
  | insertNew k _ => k.isWarehouse
  | update k _ => k.isWarehouse
  | _ => false

theorem mapsTenant_warehouse {q : Query} (h : q.onWarehouse = true) : q.mapsTenant = false := by
  unfold mapsTenant
  split
  · cases h
  · rfl

variable {view : Rows} {k : Key} {ws : List (Write Row)}

theorem indexed_warehouse (hk : k.isWarehouse = true) (row : Row k) :
    ∀ e ∈ Schema.indexed k row, e.1.isWarehouse = true := by
  intro e he
  cases k with
  | warehouse id =>
    simp only [Schema.indexed, List.mem_cons, List.not_mem_nil, or_false] at he
    rcases he with rfl | rfl <;> rfl
  | warehouseOutcome => cases he
  | warehouseCode => cases he
  | warehouseNative => cases he
  | _ => cases hk

theorem insertRow_warehouse {row a : Row k} (hk : k.isWarehouse = true)
    (h : insertRow view k row = .ok (a, ws)) : ∀ x ∈ ws, x.1.isWarehouse = true := by
  obtain ⟨-, -, -, -, -, rfl⟩ := insertRow_ok h
  intro x hx
  rcases List.mem_cons.1 hx with rfl | hx
  · exact hk
  · obtain ⟨e, he, rfl⟩ := List.mem_map.1 hx
    exact indexed_warehouse hk row e he

theorem replaceRow_warehouse {old new a : Row k} (hk : k.isWarehouse = true)
    (h : replaceRow view k old new = .ok (a, ws)) : ∀ x ∈ ws, x.1.isWarehouse = true := by
  unfold replaceRow at h
  dsimp only at h
  split_ifs at h
  obtain ⟨-, rfl⟩ := Prod.mk.inj (Except.ok.inj h)
  intro x hx
  rw [List.mem_append, List.mem_cons] at hx
  rcases hx with (rfl | hx) | hx
  · exact hk
  · obtain ⟨e, he, rfl⟩ := List.mem_map.1 hx
    exact indexed_warehouse hk old e (List.mem_of_mem_filter he)
  · obtain ⟨e, he, rfl⟩ := List.mem_map.1 hx
    exact indexed_warehouse hk new e (List.mem_of_mem_filter he)

theorem run_warehouse {q : Query} {scan : (Key → Bool) → List Key} {d : Defaults} {a : q.Ans}
    (hq : q.onWarehouse = true) (h : q.run view scan d = .ok (a, ws)) :
    ∀ x ∈ ws, x.1.isWarehouse = true := by
  cases q with
  | select k =>
    obtain ⟨-, rfl⟩ := Prod.mk.inj (Except.ok.inj h)
    exact fun x hx => absurd hx List.not_mem_nil
  | selectForUpdate k =>
    obtain ⟨-, ⟨-, rfl⟩ | ⟨row, -, rfl⟩⟩ := selectForUpdate_ok h
    · exact fun x hx => absurd hx List.not_mem_nil
    · intro x hx
      obtain rfl := List.mem_singleton.1 hx
      exact hq
  | insert k row => exact insertRow_warehouse hq h
  | insertNew k row =>
    unfold run at h
    dsimp only at h
    split_ifs at h
    · obtain ⟨-, rfl⟩ := Prod.mk.inj (Except.ok.inj h)
      exact fun x hx => absurd hx List.not_mem_nil
    · split at h
      · rename_i hins
        obtain ⟨-, rfl⟩ := Prod.mk.inj (Except.ok.inj h)
        exact insertRow_warehouse hq hins
      · cases h
  | update k set =>
    unfold run at h
    dsimp only at h
    split at h
    · obtain ⟨-, rfl⟩ := Prod.mk.inj (Except.ok.inj h)
      exact fun x hx => absurd hx List.not_mem_nil
    · split at h
      · obtain ⟨-, rfl⟩ := Prod.mk.inj (Except.ok.inj h)
        exact fun x hx => absurd hx List.not_mem_nil
      · split at h
        · rename_i hrep
          obtain ⟨-, rfl⟩ := Prod.mk.inj (Except.ok.inj h)
          exact replaceRow_warehouse hq hrep
        · cases h
  | _ => cases hq

end Query

/-! ### The transaction -/

section

variable {D : ProvisioningDeployment} {w : Worker} {pid : String} {b : Blueprint} {mine : Rows}
  {s t : World}

/-- **A session that records a warehouse**: it has written rows of warehouses and
events of another type. -/
structure Storing (D : ProvisioningDeployment) (w : Worker) (pid : String) (mine : Rows) (s : World) :
    Prop where
  locked : s.db.Locked w (lockOf D pid)
  found : (mine (.operation pid)).isSome = true
  mine : ∀ k, k.owner = some pid → s.rows k = mine k
  keys : ∀ k, s.own w k ≠ none → k.isWarehouse = true ∨ ∃ id, k = .outbox id
  events : ∀ id, ∀ v : Option OutboxRow, s.own w (.outbox id) = some v →
    s.rows (.outbox id) = none ∧ ∃ o e, v = some o ∧ o.content = .event e ∧
      e.type ≠ CommandEvents.eventType

def storing (D : ProvisioningDeployment) (w : Worker) (pid : String) (mine : Rows) :
    (coordination D).Assertion w :=
  settled (Storing D w pid mine) fun _ h hA =>
    { locked := h.same.kept.locked.1 hA.locked
      found := hA.found
      mine := fun k hk => by
        rw [h.owned pid hA.locked (by rw [hA.mine _ rfl]; exact hA.found) k hk]
        exact hA.mine k hk
      keys := fun k hown => hA.keys k (by rwa [h.same.own] at hown)
      events := fun id v hv => by
        rw [h.same.own] at hv
        rw [h.held _ (by rw [hv]; exact Option.some_ne_none _)]
        exact hA.events id v hv }

theorem Storing.of_working (hA : Working D w pid mine [] .top s) : Storing D w pid mine s where
  locked := hA.locked
  found := hA.found
  mine := hA.mine
  keys k hown := absurd (congrFun (show s.own w = _ from hA.wrote) k) hown
  events id v hv := by
    rw [show s.own w = _ from hA.wrote] at hv
    cases hv

theorem Storing.astray (hA : Storing D w pid mine s) : (Provisioning.astray D w pid).holds s :=
  ⟨hA.locked, by rw [hA.mine _ rfl]; exact hA.found⟩

theorem Storing.abort (hA : Storing D w pid mine s) :
    (Provisioning.astray D w pid).holds (s.abort w) :=
  ⟨hA.locked, hA.astray.2⟩

/-- What is not a warehouse's and no event is as it was. -/
theorem Storing.view_eq (hA : Storing D w pid mine s) {k : Key} (hk : k.isWarehouse = false)
    (hout : ∀ id, k ≠ .outbox id) : s.view w k = s.rows k := by
  rw [World.view_eq]
  cases hown : s.own w k with
  | none => rfl
  | some row =>
    rcases hA.keys k (by rw [hown]; exact Option.some_ne_none _) with h | ⟨id, h⟩
    · rw [hk] at h
      cases h
    · exact absurd h (hout id)

/-- **What it sees says the same of commands and operations.** -/
theorem Storing.alike (hA : Storing D w pid mine s) : Alike s.rows (s.view w) where
  operation p row hr := ⟨row, (hA.view_eq rfl fun _ h => by cases h).trans hr, rfl⟩
  core p row hr := ⟨row, (hA.view_eq rfl fun _ h => by cases h).symm.trans hr, rfl⟩
  same k hk := by
    refine hA.view_eq ?_ ?_
    · cases k <;> first | rfl | cases hk
    · rintro id rfl
      cases hk
  outbox id o ho := by
    rw [World.view_eq]
    cases hown : s.own w (.outbox id) with
    | none => exact ho
    | some v =>
      rw [(hA.events id v hown).1] at ho
      cases ho
  fresh id o ho e he ht := by
    rw [World.view_eq] at ho
    cases hown : s.own w (.outbox id) with
    | none =>
      rw [hown] at ho
      exact ho
    | some v =>
      rw [hown] at ho
      obtain ⟨-, o', e', rfl, he', ht'⟩ := hA.events id v hown
      obtain rfl : o' = o := Option.some.inj ho
      rw [he'] at he
      obtain rfl := OutboxContent.event.inj he
      exact absurd ht ht'

theorem Storing.commits (hs : Coordinated D s) (hA : Storing D w pid mine s) : Commits D w s where
  ledger := hs.ledger.alike hA.alike
  forward := .of_alike hA.alike
  owned k p hk hown := by
    rcases hA.keys k hown with h | ⟨id, rfl⟩
    · rw [Key.owner_of_warehouse h] at hk
      cases hk
    · cases hk
  projected p row row' op le hr hr' hne _ := by
    have hsame := hA.view_eq (k := .operation p) rfl fun _ h => by cases h
    have heq : some row' = some row := hr'.symm.trans (hsame.trans hr)
    exact absurd (congrArg OperationRow.status (Option.some.inj heq)).symm hne

theorem Storing.write {ws : List (Write Row)} (hA : Storing D w pid mine s)
    (hws : ∀ x ∈ ws, x.1.isWarehouse = true) : Storing D w pid mine (s.write w ws) where
  locked := World.locked_write.2 hA.locked
  found := hA.found
  mine k hk := by
    rw [World.rows_write]
    exact hA.mine k hk
  keys k hown := by
    rw [World.own_write] at hown
    by_cases hmem : k ∈ ws.map Sigma.fst
    · obtain ⟨x, hx, rfl⟩ := List.mem_map.1 hmem
      exact .inl (hws x hx)
    · rw [World.written_of_not_mem hmem] at hown
      exact hA.keys k hown
  events id v hv := by
    rw [World.own_write, World.written_of_not_mem] at hv
    · rw [World.rows_write]
      exact hA.events id v hv
    · intro hmem
      obtain ⟨x, hx, hkey⟩ := List.mem_map.1 hmem
      have := hws x hx
      rw [hkey] at this
      cases this

theorem storing_sql {q : Query} (hq : q.onWarehouse = true) :
    (coordination D).Triple w (storing D w pid mine) (Call.sql q)
      (.ends (fun _ => storing D w pid mine) (astray D w pid)) :=
  sql_triple (fun _ _ hA => Storing.abort hA) (fun _ _ _ _ _ hA h =>
    Storing.write hA (Query.run_warehouse hq h)) (Query.mapsTenant_warehouse hq)

/-- An event of another type is recorded. -/
theorem recordEvent_storing {event : CloudEvent} (ht : event.type ≠ CommandEvents.eventType) :
    (coordination D).Triple w (storing D w pid mine) (recordEvent event)
      (.ends (fun _ => storing D w pid mine) (astray D w pid)) := by
  unfold recordEvent
  split
  · exact .throw fun _ _ hA => Storing.astray hA
  split_ifs
  · exact .throw fun _ _ hA => Storing.astray hA
  · exact .throw fun _ _ hA => Storing.astray hA
  refine .seq (sql_triple (fun _ _ hA => Storing.abort hA) fun s d a ws hs hA h => ?_) fun _ =>
    .pure fun _ _ hA => hA
  obtain ⟨-, hnone, -, -, -, rfl⟩ := Query.insertRow_ok h
  obtain ⟨hlocked, hfound, hmine, hkeys, hevents⟩ := hA
  refine ⟨World.locked_write.2 hlocked, hfound, fun k hk => ?_, fun k hown => ?_, fun id v hv => ?_⟩
  · rw [World.rows_write]
    exact hmine k hk
  · rw [World.own_write] at hown
    by_cases hk : k = .outbox event.id
    · exact .inr ⟨_, hk⟩
    · rw [World.written_of_not_mem (by simpa [Schema.indexed] using hk)] at hown
      exact hkeys k hown
  · rw [World.own_write] at hv
    rw [World.rows_write]
    by_cases hk : id = event.id
    · subst hk
      refine ⟨?_, outboxRow event d, event, ?_, rfl, ht⟩
      · -- the statement saw no event with this id, so the session had not written it
        rw [World.view_eq] at hnone
        cases hown : s.own w (.outbox event.id) with
        | none =>
          rw [hown] at hnone
          exact hnone
        | some u => exact (hevents _ u hown).1
      · have hself : World.written (s.own w) [⟨.outbox event.id, some (outboxRow event d)⟩]
            (.outbox event.id) = some (some (outboxRow event d)) := Function.update_self ..
        exact Option.some.inj (hv.symm.trans hself)
    · rw [World.written_of_not_mem (by simpa [Schema.indexed] using hk)] at hv
      exact hevents id v hv

theorem quiet_storing {e : Eff} (he : e.isQuiet = true) :
    (coordination D).Triple w (storing D w pid mine) (Prog.perform e)
      (.ends (fun _ => storing D w pid mine) (astray D w pid)) :=
  (quiet_triple he).post fun r _ _ h => by
    cases r with
    | ok a => exact h
    | error x => exact Storing.astray h

theorem lockTransaction_storing {text : String} {seed : Int} :
    (coordination D).Triple w (storing D w pid mine) (Call.lockTransaction text seed)
      (.ends (fun _ => storing D w pid mine) (astray D w pid)) := by
  refine .perform (fun _ _ _ => trivial) fun c s r t _ _ hA _ he => ?_
  rcases exec_lockTransaction (D := D) he with ⟨f, rfl, rfl⟩ | ⟨rfl, -, rfl⟩
  · exact Storing.abort hA
  · exact ⟨hA.locked, hA.found, hA.mine, hA.keys, hA.events⟩

/-! ### The walk through `record` -/

theorem findNative_storing {row : WarehouseRow} {byCode : Option String} :
    (coordination D).Triple w (storing D w pid mine) (WarehouseIdentity.findNative row byCode)
      (.ends (fun _ => storing D w pid mine) (astray D w pid)) := by
  unfold WarehouseIdentity.findNative
  refine .seq (storing_sql rfl) fun byNative => ?_
  cases byNative with
  | none =>
    cases byCode with
    | none => exact .pure fun _ _ hA => hA
    | some a => exact .pure fun _ _ hA => hA
  | some id =>
    refine .seq (storing_sql rfl) fun native => ?_
    dsimp only
    split_ifs
    · exact .throw fun _ _ hA => Storing.astray hA
    · cases byCode with
      | none => exact .pure fun _ _ hA => hA
      | some a =>
        dsimp only
        split_ifs
        · exact .throw fun _ _ hA => Storing.astray hA
        · exact .pure fun _ _ hA => hA

theorem find_storing {row : WarehouseRow} :
    (coordination D).Triple w (storing D w pid mine) (WarehouseIdentity.find row)
      (.ends (fun _ => storing D w pid mine) (astray D w pid)) := by
  rw [WarehouseIdentity.find_eq]
  refine .seq (storing_sql rfl) fun byCode => ?_
  cases byCode with
  | none => exact findNative_storing
  | some id => exact .seq (storing_sql rfl) fun _ => findNative_storing

theorem advance_storing {row : WarehouseRow} {id : String} :
    (coordination D).Triple w (storing D w pid mine) (WarehouseIdentity.advance D row id)
      (.ends (fun _ => storing D w pid mine) (astray D w pid)) := by
  have hmove : (coordination D).Triple w (storing D w pid mine)
      (do
        match ← Call.sql (.update (.warehouseOutcome row.tenantId id)
            (WarehouseIdentity.outcomeMoved D.runtime row)) with
        | some (moved : WarehouseOutcomeRow) => pure (some moved.revision)
        | none => pure none)
      (.ends (fun _ => storing D w pid mine) (astray D w pid)) := by
    refine .seq (storing_sql rfl) fun moved => ?_
    cases moved with
    | none => exact .pure fun _ _ hA => hA
    | some moved => exact .pure fun _ _ hA => hA
  unfold WarehouseIdentity.advance
  refine .seq (storing_sql rfl) fun document => ?_
  cases document with
  | some stored => exact hmove
  | none =>
    refine .seq (storing_sql rfl) fun inserted => ?_
    dsimp only
    split_ifs
    · exact .pure fun _ _ hA => hA
    · exact hmove

/-- The event of a warehouse is of its own type. -/
theorem changedEvent_type {H : Hashes} {row : WarehouseRow} {id timezone : String} {revision : Nat}
    {now : Instant} {event : CloudEvent}
    (h : WarehouseIdentity.changedEvent H row id timezone revision now = .ok event) :
    event.type ≠ CommandEvents.eventType := by
  unfold WarehouseIdentity.changedEvent at h
  dsimp only at h
  split at h
  · rename_i e he
    obtain rfl := Except.ok.inj h
    unfold CloudEvent.newEvent at he
    split at he
    · cases he
    · rw [CloudEvent.validate_eq he]
      show WarehouseIdentity.eventType ≠ _
      decide
  · cases h

theorem announce_storing {row : WarehouseRow} {now : Instant} {id : String} :
    (coordination D).Triple w (storing D w pid mine)
      (do
        match ← WarehouseIdentity.advance D row id, row.timezone with
        | some revision, some timezone => do
          let event ← orRaise (WarehouseIdentity.changedEvent D.hashes row id timezone revision now)
          recordEvent event
        | _, _ => pure ())
      (.ends (fun _ => storing D w pid mine) (astray D w pid)) := by
  refine .seq advance_storing fun revision => ?_
  split
  · refine .seq (B := fun event : CloudEvent => (Protocol.Assertion.const
      (event.type ≠ CommandEvents.eventType)).and (storing D w pid mine))
      (orRaise_triple (fun event hevent s hA => ⟨changedEvent_type hevent, hA⟩)
        fun _ _ _ hA => Storing.astray hA) fun event => .given fun ht => ?_
    exact recordEvent_storing ht
  · exact .pure fun _ _ hA => hA

theorem recordRow_storing {row : WarehouseRow} {now : Instant} :
    (coordination D).Triple w (storing D w pid mine) (WarehouseIdentity.recordRow D row now)
      (.ends (fun _ => storing D w pid mine) (astray D w pid)) := by
  unfold WarehouseIdentity.recordRow
  refine .seq lockTransaction_storing fun _ => .seq find_storing fun found => ?_
  cases found with
  | none =>
    exact .seq (quiet_storing rfl) fun _ => .seq (storing_sql rfl) fun _ => announce_storing
  | some id => exact .seq (storing_sql rfl) fun _ => announce_storing

/-- **`record`** leaves the operation as it was. -/
theorem record_triple {row : WarehouseRow} {now : Instant} :
    (coordination D).Triple w (working D w pid mine [] .top) (WarehouseIdentity.record D row now)
      (.ends (fun _ => working D w pid mine [] .top) (stopped D w pid)) := by
  unfold WarehouseIdentity.record
  refine .tryCatch (Q := .ends (fun _ => working D w pid mine [] .top) (astray D w pid)) ?_
    (fun _ _ _ hA => hA) fun x => ?_
  · refine .seq (recordRow_storing.pre fun _ _ hA => Storing.of_working hA) fun _ =>
      commit_triple (fun s hs hA => Storing.commits hs hA) (fun _ _ hA => Storing.abort hA)
        fun s _ _ hA => ?_
    obtain ⟨hlocked, hfound, hmine, -, -⟩ := id hA
    refine ⟨hlocked, hfound, fun k hk => ?_, World.clean_commit, trivial⟩
    rw [World.rows_commit, Storing.view_eq hA]
    · exact hmine k hk
    · cases k <;> first | rfl | cases hk
    · rintro id rfl
      cases hk
  · refine Protocol.Triple.bind (Q := fun _ => stopped D w pid)
      (rollback_triple fun s _ hA => ⟨World.clean_abort, hA⟩) (fun _ => .throw fun _ _ hA => hA)
      fun _ _ _ hA => hA

/-! ### Every warehouse of the plan -/

theorem textParam_triple {A : (coordination D).Assertion w} {B : (coordination D).Assertion w}
    {value : Json} (h : ∀ s : World, A.holds s → B.holds s) :
    (coordination D).Triple w A (textParam value) (.ends (fun _ => A) B) := by
  unfold textParam
  split
  · exact .pure fun _ _ hA => hA
  · exact .throw fun s _ hA => h s hA

theorem countryOf_triple {A : (coordination D).Assertion w} {B : (coordination D).Assertion w}
    {request : ErpProvisioningRequest} {market : Json} (h : ∀ s : World, A.holds s → B.holds s) :
    (coordination D).Triple w A (Execution.countryOf D request market) (.ends (fun _ => A) B) := by
  unfold Execution.countryOf
  split
  · exact .pure fun _ _ hA => hA
  · exact .throw fun s _ hA => h s hA

theorem registerWarehouse_triple (hb : IsOf D pid b mine) {step : ProvisioningStep} :
    (coordination D).Triple w (working D w pid mine [] .top)
      (Execution.registerWarehouse D b.request step)
      (.ends (fun _ => working D w pid mine [] .top) (stopped D w pid)) := by
  obtain ⟨row, hrow, hplanned⟩ := id hb
  unfold Execution.registerWarehouse
  rw [hplanned.provisioningId, textParam_bind]
  refine .seq (select_mine rfl) fun native => .given fun _ => ?_
  cases native with
  | none => exact .pure fun _ _ hA => hA
  | some nativeId =>
    have hstopped : ∀ s : World, (working D w pid mine [] .top).holds s →
        (stopped D w pid).holds s := fun _ hA => Working.stopped hA
    refine .seq (payloadItem_triple hstopped) fun code => .seq (payloadItem_triple hstopped)
      fun market => .seq (countryOf_triple hstopped) fun country => ?_
    have hrecord : ∀ timezone : Option String, (coordination D).Triple w
        (working D w pid mine [] .top) (do
          let now ← Call.now
          WarehouseIdentity.record D
            { tenantId := ← textParam b.request.tenantId
              legalEntityId := ← textParam b.request.legalEntityId
              code := ← textParam code, name := ← textParam code, country := ← textParam country
              timezone, status := "active"
              engineInstanceId := ← textParam b.request.engineInstanceId, nativeId } now)
        (.ends (fun _ => working D w pid mine [] .top) (stopped D w pid)) := by
      intro timezone
      refine .seq (quiet_working rfl) fun now => .seq (textParam_triple hstopped) fun _ =>
        .seq (textParam_triple hstopped) fun _ => .seq (textParam_triple hstopped) fun _ =>
        .seq (textParam_triple hstopped) fun _ => .seq (textParam_triple hstopped) fun _ =>
        .seq (textParam_triple hstopped) fun _ => record_triple
    dsimp only
    split
    · exact hrecord none
    · exact .seq (textParam_triple hstopped) fun timezone => hrecord (some timezone)

/-- **`_register_warehouses`** leaves the operation as it was. -/
theorem registerWarehouses_triple (hb : IsOf D pid b mine) : ∀ steps : List ProvisioningStep,
    (coordination D).Triple w (working D w pid mine [] .top)
      (Execution.registerWarehouses D b.request steps)
      (.ends (fun _ => working D w pid mine [] .top) (stopped D w pid))
  | [] => .pure fun _ _ hA => hA
  | step :: steps => by
    unfold Execution.registerWarehouses
    dsimp only
    split_ifs
    · exact .seq (registerWarehouse_triple hb) fun _ => registerWarehouses_triple hb steps
    · exact registerWarehouses_triple hb steps

end

end Provisioning
end BaobabErp
