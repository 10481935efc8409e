/-
# Accepting a command once

The session of one request from its arrival to its answer.  Until its commit it
has either written nothing (`untouched`) or exactly the rows of one new command
(`recording`), all of them under keys nobody had; whatever ends it early leaves
nothing behind (`asked`).
-/

import BaobabErp.Provisioning.PlannedEntities
import BaobabErp.Provisioning.Sessions

namespace BaobabErp
namespace Provisioning

open Python Concurrency

/-! ### The rows of a new command -/

/-- The kinds of rows that acceptance writes besides the event. -/
def Key.isAccepted : Key → Bool
  | .operation _ => true
  | .operationKey _ => true
  | .command _ => true
  | .commandKey _ _ => true
  | .commandEntity _ _ => true
  | .entityOwner _ => true
  | _ => false

/-- **What accepting a command has written so far**: the operations `pids`, the
command, and the links from its legal entities to their operations. -/
structure Written (D : ProvisioningDeployment) (pids : List String)
    (accepted : Option (String × CommandRow)) (links : List (String × String)) (new : Rows) :
    Prop where
  operation : ∀ pid, ∀ row : OperationRow, new (.operation pid) = some row →
    pid ∈ pids ∧ row.status = .planned ∧ ∃ b, Planned D pid row b
  operations : ∀ pid ∈ pids, (new (.operation pid)).isSome = true
  command : ∀ op, ∀ c : CommandRow, new (.command op) = some c ↔ accepted = some (op, c)
  key : ∀ tenant key op, new (.commandKey tenant key) = some op ↔
    ∃ c, accepted = some (op, c) ∧ c.tenantId = tenant ∧ c.idempotencyKey = key
  entity : ∀ op le pid, new (.commandEntity op le) = some pid ↔
    (∃ c, accepted = some (op, c)) ∧ (le, pid) ∈ links
  owner : ∀ op le pid, new (.entityOwner pid) = some (op, le) ↔
    (∃ c, accepted = some (op, c)) ∧ (le, pid) ∈ links
  linked : ∀ le pid, (le, pid) ∈ links → pid ∈ pids
  rest : ∀ k, k.isAccepted = false → new k = none

section

variable {D : ProvisioningDeployment} {pids : List String} {accepted : Option (String × CommandRow)}
  {links : List (String × String)} {new : Rows}

theorem Written.empty : Written D [] none [] fun _ => none where
  operation _ _ h := by cases h
  operations _ h := absurd h List.not_mem_nil
  command _ _ := ⟨(fun h => by cases h), (fun h => by cases h)⟩
  key _ _ _ := ⟨(fun h => by cases h), (fun ⟨_, h, _⟩ => by cases h)⟩
  entity _ _ _ := ⟨(fun h => by cases h), (fun ⟨_, h⟩ => absurd h List.not_mem_nil)⟩
  owner _ _ _ := ⟨(fun h => by cases h), (fun ⟨_, h⟩ => absurd h List.not_mem_nil)⟩
  linked _ _ h := absurd h List.not_mem_nil
  rest _ _ := rfl

/-- What an `INSERT` adds to some rows. -/
def Rows.inserted (new : Rows) (k : Key) (row : Row k) : Rows :=
  Database.overlay new (⟨k, some row⟩ :: (Schema.indexed k row).map fun e => ⟨e.1, some e.2⟩)

theorem Rows.inserted_of_ne {k l : Key} {row : Row k} (hk : l ≠ k)
    (hindex : ∀ e ∈ Schema.indexed k row, l ≠ e.1) : new.inserted k row l = new l := by
  unfold Rows.inserted
  rw [Database.overlay_of_not_mem]
  intro hmem
  rw [List.map_cons, List.mem_cons, List.map_map] at hmem
  rcases hmem with h | h
  · exact hk h
  · obtain ⟨e, he, rfl⟩ := List.mem_map.1 h
    exact hindex e he rfl

theorem Rows.inserted_self {k : Key} {row : Row k} (hindex : ∀ e ∈ Schema.indexed k row, k ≠ e.1) :
    new.inserted k row k = some row := by
  unfold Rows.inserted
  rw [Database.overlay_cons, Database.overlay_of_not_mem]
  · exact Function.update_self ..
  · intro hmem
    rw [List.map_map] at hmem
    obtain ⟨e, he, heq⟩ := List.mem_map.1 hmem
    exact hindex e he heq.symm

theorem Rows.inserted_index {k l : Key} {row : Row k} {x : Row l}
    (hindex : Schema.indexed k row = [⟨l, x⟩]) : new.inserted k row l = some x := by
  unfold Rows.inserted
  rw [hindex]
  exact Function.update_self ..

/-- An operation with the entry of its key. -/
theorem Written.withOperation {pid : String} {row : OperationRow} (h : Written D pids none [] new)
    (hstatus : row.status = .planned) (hb : ∃ b, Planned D pid row b) :
    Written D (pids ++ [pid]) none [] (new.inserted (.operation pid) row) := by
  have hne : ∀ k : Key, Query.isOperation k = false → (∀ key, k ≠ .operationKey key) →
      new.inserted (.operation pid) row k = new k := fun k hk hkey =>
    Rows.inserted_of_ne (by rintro rfl; cases hk) fun e he => by
      obtain rfl := List.mem_singleton.1 he
      exact hkey _
  have hother : ∀ p, p ≠ pid →
      new.inserted (.operation pid) row (.operation p) = new (.operation p) := fun p hp =>
    Rows.inserted_of_ne (fun h => hp (Key.operation.inj h)) fun e he => by
      obtain rfl := List.mem_singleton.1 he
      exact Key.noConfusion
  have hself : new.inserted (.operation pid) row (.operation pid) = some row :=
    Rows.inserted_self fun e he => by
      obtain rfl := List.mem_singleton.1 he
      exact Key.noConfusion
  refine ⟨fun p r hr => ?_, fun p hp => ?_, fun op c => ?_, fun tenant key op => ?_,
    fun op le p => ?_, fun op le p => ?_, fun _ _ hl => absurd hl List.not_mem_nil, fun k hk => ?_⟩
  · by_cases hp : p = pid
    · subst hp
      obtain rfl : row = r := Option.some.inj (hself.symm.trans hr)
      exact ⟨List.mem_append_right _ (List.mem_singleton.2 rfl), hstatus, hb⟩
    · rw [hother p hp] at hr
      obtain ⟨hmem, hr⟩ := h.operation p r hr
      exact ⟨List.mem_append_left _ hmem, hr⟩
  · by_cases hp' : p = pid
    · subst hp'
      rw [hself]
      rfl
    · rw [hother p hp']
      refine h.operations p ((List.mem_append.1 hp).resolve_right fun hmem => ?_)
      exact hp' (List.mem_singleton.1 hmem)
  · rw [hne _ rfl fun _ => Key.noConfusion]
    exact h.command op c
  · rw [hne _ rfl fun _ => Key.noConfusion]
    exact h.key tenant key op
  · rw [hne _ rfl fun _ => Key.noConfusion]
    exact h.entity op le p
  · rw [hne _ rfl fun _ => Key.noConfusion]
    exact h.owner op le p
  · rw [hne k (by cases k <;> first | rfl | cases hk) (by rintro key rfl; cases hk)]
    exact h.rest k hk

/-- The command with the entry of its key. -/
theorem Written.withCommand {op : String} {c : CommandRow} (h : Written D pids none [] new) :
    Written D pids (some (op, c)) [] (new.inserted (.command op) c) := by
  have hne : ∀ k : Key, (∀ o, k ≠ .command o) → (∀ tenant key, k ≠ .commandKey tenant key) →
      new.inserted (.command op) c k = new k := fun k hk hkey =>
    Rows.inserted_of_ne (hk _) fun e he => by
      obtain rfl := List.mem_singleton.1 he
      exact hkey _ _
  have hself : new.inserted (.command op) c (.command op) = some c :=
    Rows.inserted_self fun e he => by
      obtain rfl := List.mem_singleton.1 he
      exact Key.noConfusion
  have hkey : new.inserted (.command op) c (.commandKey c.tenantId c.idempotencyKey) = some op :=
    Rows.inserted_index rfl
  refine ⟨fun p r hr => ?_, fun p hp => ?_, fun o d => ?_, fun tenant key o => ?_,
    fun o le p => ?_, fun o le p => ?_, fun _ _ hl => absurd hl List.not_mem_nil, fun k hk => ?_⟩
  · rw [hne _ (fun _ => Key.noConfusion) fun _ _ => Key.noConfusion] at hr
    exact h.operation p r hr
  · rw [hne _ (fun _ => Key.noConfusion) fun _ _ => Key.noConfusion]
    exact h.operations p hp
  · by_cases ho : o = op
    · subst ho
      constructor
      · intro hd
        rw [show c = d from Option.some.inj (hself.symm.trans hd)]
      · intro hd
        obtain ⟨-, rfl⟩ := Prod.mk.inj (Option.some.inj hd)
        exact hself
    · have hsame : new.inserted (.command op) c (.command o) = new (.command o) :=
        Rows.inserted_of_ne (fun h => ho (Key.command.inj h)) fun e he => by
          obtain rfl := List.mem_singleton.1 he
          exact Key.noConfusion
      constructor
      · intro hd
        cases (h.command o d).1 (hsame.symm.trans hd)
      · intro hd
        exact absurd (Prod.mk.inj (Option.some.inj hd)).1.symm ho
  · by_cases hk : tenant = c.tenantId ∧ key = c.idempotencyKey
    · obtain ⟨rfl, rfl⟩ := hk
      constructor
      · intro ho
        obtain rfl : op = o := Option.some.inj (hkey.symm.trans ho)
        exact ⟨c, rfl, rfl, rfl⟩
      · rintro ⟨d, hd, -, -⟩
        obtain ⟨rfl, -⟩ := Prod.mk.inj (Option.some.inj hd)
        exact hkey
    · have hsame : new.inserted (.command op) c (.commandKey tenant key) =
          new (.commandKey tenant key) :=
        Rows.inserted_of_ne Key.noConfusion fun e he => by
          obtain rfl := List.mem_singleton.1 he
          intro h
          exact hk (Key.commandKey.inj h)
      constructor
      · intro ho
        obtain ⟨d, hd, -⟩ := (h.key tenant key o).1 (hsame.symm.trans ho)
        cases hd
      · rintro ⟨d, hd, ht, hk'⟩
        obtain ⟨-, rfl⟩ := Prod.mk.inj (Option.some.inj hd)
        exact absurd ⟨ht.symm, hk'.symm⟩ hk
  · rw [hne _ (fun _ => Key.noConfusion) fun _ _ => Key.noConfusion, h.entity o le p]
    exact ⟨fun h => absurd h.2 List.not_mem_nil, fun h => absurd h.2 List.not_mem_nil⟩
  · rw [hne _ (fun _ => Key.noConfusion) fun _ _ => Key.noConfusion, h.owner o le p]
    exact ⟨fun h => absurd h.2 List.not_mem_nil, fun h => absurd h.2 List.not_mem_nil⟩
  · rw [hne k (by rintro o rfl; cases hk) (by rintro tenant key rfl; cases hk)]
    exact h.rest k hk

/-- A link to an operation with the entry of the operation. -/
theorem Written.withEntity {op le pid : String} {c : CommandRow}
    (h : Written D pids (some (op, c)) links new) (hpid : pid ∈ pids)
    (hentity : new (.commandEntity op le) = none) (howner : new (.entityOwner pid) = none) :
    Written D pids (some (op, c)) (links ++ [(le, pid)]) (new.inserted (.commandEntity op le) pid) := by
  have hne : ∀ k : Key, (∀ o e, k ≠ .commandEntity o e) → (∀ p, k ≠ .entityOwner p) →
      new.inserted (.commandEntity op le) pid k = new k := fun k hk hkey =>
    Rows.inserted_of_ne (hk _ _) fun e he => by
      obtain rfl := List.mem_singleton.1 he
      exact hkey _
  have hself : new.inserted (.commandEntity op le) pid (.commandEntity op le) = some pid :=
    Rows.inserted_self fun e he => by
      obtain rfl := List.mem_singleton.1 he
      exact Key.noConfusion
  have hindex : new.inserted (.commandEntity op le) pid (.entityOwner pid) = some (op, le) :=
    Rows.inserted_index rfl
  -- the link is the only one of its legal entity and of its operation
  have hle : ∀ p, (le, p) ∉ links := fun p hmem => by
    rw [(h.entity op le p).2 ⟨⟨c, rfl⟩, hmem⟩] at hentity
    cases hentity
  have hp : ∀ e, (e, pid) ∉ links := fun e hmem => by
    rw [(h.owner op e pid).2 ⟨⟨c, rfl⟩, hmem⟩] at howner
    cases howner
  refine ⟨fun p r hr => ?_, fun p hp => ?_, fun o d => ?_, fun tenant key o => ?_,
    fun o e p => ?_, fun o e p => ?_, fun e p hl => ?_, fun k hk => ?_⟩
  · rw [hne _ (fun _ _ => Key.noConfusion) fun _ => Key.noConfusion] at hr
    exact h.operation p r hr
  · rw [hne _ (fun _ _ => Key.noConfusion) fun _ => Key.noConfusion]
    exact h.operations p hp
  · rw [hne _ (fun _ _ => Key.noConfusion) fun _ => Key.noConfusion]
    exact h.command o d
  · rw [hne _ (fun _ _ => Key.noConfusion) fun _ => Key.noConfusion]
    exact h.key tenant key o
  · by_cases he : o = op ∧ e = le
    · obtain ⟨rfl, rfl⟩ := he
      constructor
      · intro h'
        obtain rfl : pid = p := Option.some.inj (hself.symm.trans h')
        exact ⟨⟨c, rfl⟩, List.mem_append_right _ (List.mem_singleton.2 rfl)⟩
      · rintro ⟨-, hmem⟩
        rcases List.mem_append.1 hmem with hmem | hmem
        · exact absurd hmem (hle p)
        · obtain ⟨-, rfl⟩ := Prod.mk.inj (List.mem_singleton.1 hmem)
          exact hself
    · have hsame : new.inserted (.commandEntity op le) pid (.commandEntity o e) =
          new (.commandEntity o e) :=
        Rows.inserted_of_ne (fun h => he (Key.commandEntity.inj h)) fun x hx => by
          obtain rfl := List.mem_singleton.1 hx
          exact Key.noConfusion
      constructor
      · intro h'
        obtain ⟨hc, hmem⟩ := (h.entity o e p).1 (hsame.symm.trans h')
        exact ⟨hc, List.mem_append_left _ hmem⟩
      · rintro ⟨⟨d, hd⟩, hmem⟩
        rcases List.mem_append.1 hmem with hmem | hmem
        · exact hsame.trans ((h.entity o e p).2 ⟨⟨d, hd⟩, hmem⟩)
        · obtain ⟨rfl, -⟩ := Prod.mk.inj (List.mem_singleton.1 hmem)
          exact absurd ⟨(Prod.mk.inj (Option.some.inj hd)).1.symm, rfl⟩ he
  · by_cases hp' : p = pid
    · subst hp'
      constructor
      · intro h'
        obtain ⟨rfl, rfl⟩ : op = o ∧ le = e :=
          Prod.mk.inj (Option.some.inj (hindex.symm.trans h'))
        exact ⟨⟨c, rfl⟩, List.mem_append_right _ (List.mem_singleton.2 rfl)⟩
      · rintro ⟨⟨d, hd⟩, hmem⟩
        rcases List.mem_append.1 hmem with hmem | hmem
        · exact absurd hmem (hp e)
        · obtain ⟨rfl, -⟩ := Prod.mk.inj (List.mem_singleton.1 hmem)
          obtain ⟨rfl, -⟩ := Prod.mk.inj (Option.some.inj hd)
          exact hindex
    · have hsame : new.inserted (.commandEntity op le) pid (.entityOwner p) = new (.entityOwner p) :=
        Rows.inserted_of_ne Key.noConfusion fun x hx => by
          obtain rfl := List.mem_singleton.1 hx
          exact fun h => hp' (Key.entityOwner.inj h)
      constructor
      · intro h'
        obtain ⟨hc, hmem⟩ := (h.owner o e p).1 (hsame.symm.trans h')
        exact ⟨hc, List.mem_append_left _ hmem⟩
      · rintro ⟨hc, hmem⟩
        rcases List.mem_append.1 hmem with hmem | hmem
        · exact hsame.trans ((h.owner o e p).2 ⟨hc, hmem⟩)
        · exact absurd (Prod.mk.inj (List.mem_singleton.1 hmem)).2 hp'
  · rcases List.mem_append.1 hl with hl | hl
    · exact h.linked e p hl
    · obtain ⟨rfl, rfl⟩ := Prod.mk.inj (List.mem_singleton.1 hl)
      exact hpid
  · rw [hne k (by rintro o e rfl; cases hk) (by rintro p rfl; cases hk)]
    exact h.rest k hk

/-- **With its event, what was written is what accepting a command writes.** -/
theorem Written.accepts {op : String} {c : CommandRow} {o : OutboxRow} {rows : Rows}
    (h : Written D pids (some (op, c)) links new) (hall : ∀ pid ∈ pids, ∃ le, (le, pid) ∈ links)
    (hne : pids ≠ []) (hstate : c.state = .accepted ∧ c.failureCode = none ∧ c.revision = 1)
    (hvalid : (CommandEvents.provisioningChanged D.hashes op c).toOption.isSome = true)
    (hcontent : o.content = .event (CommandEvents.changed D.hashes op c))
    (hfresh : ∀ k v, new.inserted (.outbox (CommandEvents.eventId D.hashes op 1)) o k = some v →
      rows k = none) :
    Accepts D rows op c (new.inserted (.outbox (CommandEvents.eventId D.hashes op 1)) o) := by
  have hother : ∀ k : Key, (∀ id, k ≠ .outbox id) →
      new.inserted (.outbox (CommandEvents.eventId D.hashes op 1)) o k = new k := fun k hk =>
    Rows.inserted_of_ne (hk _) fun e he => absurd he List.not_mem_nil
  have hsome : ∀ pid, (new (.operation pid)).isSome = true → ∃ le, (le, pid) ∈ links := fun pid hs => by
    obtain ⟨row, hrow⟩ := Option.isSome_iff_exists.1 hs
    exact hall pid (h.operation pid row hrow).1
  refine
    { fresh := hfresh
      operation := fun pid row hr => ?_
      command := ?_
      onlyCommand := fun op' d hd => ?_
      key := fun tenant key op' => ?_
      entity := fun op' le pid => ?_
      owner := fun op' le pid he => ?_
      owned := fun pid hs => ?_
      entities := ?_
      event := ⟨o, Rows.inserted_self fun _ he => absurd he List.not_mem_nil, hcontent⟩
      onlyEvent := fun id o' ho' => ?_
      rest := fun k hk hop => ?_
      native := fun client org => ?_
      state := hstate
      valid := hvalid }
  · rw [hother _ fun _ => Key.noConfusion] at hr
    exact (h.operation pid row hr).2
  · rw [hother _ fun _ => Key.noConfusion]
    exact (h.command op c).2 rfl
  · rw [hother _ fun _ => Key.noConfusion] at hd
    exact (Prod.mk.inj (Option.some.inj ((h.command op' d).1 hd))).1.symm
  · rw [hother _ fun _ => Key.noConfusion, h.key tenant key op']
    constructor
    · rintro ⟨d, hd, ht, hk⟩
      obtain ⟨rfl, rfl⟩ := Prod.mk.inj (Option.some.inj hd)
      exact ⟨rfl, ht, hk⟩
    · rintro ⟨rfl, ht, hk⟩
      exact ⟨c, rfl, ht, hk⟩
  · rw [hother _ fun _ => Key.noConfusion, hother _ fun _ => Key.noConfusion]
    exact (h.entity op' le pid).trans (h.owner op' le pid).symm
  · rw [hother _ fun _ => Key.noConfusion] at he
    rw [hother _ fun _ => Key.noConfusion]
    obtain ⟨⟨d, hd⟩, hmem⟩ := (h.entity op' le pid).1 he
    exact ⟨(Prod.mk.inj (Option.some.inj hd)).1.symm, h.operations pid (h.linked le pid hmem)⟩
  · rw [hother _ fun _ => Key.noConfusion] at hs
    rw [hother _ fun _ => Key.noConfusion]
    obtain ⟨le, hmem⟩ := hsome pid hs
    rw [(h.owner op le pid).2 ⟨⟨c, rfl⟩, hmem⟩]
    rfl
  · obtain ⟨pid, hpid⟩ := List.exists_mem_of_ne_nil _ hne
    obtain ⟨le, hmem⟩ := hall pid hpid
    refine ⟨le, ?_⟩
    rw [hother _ fun _ => Key.noConfusion, (h.entity op le pid).2 ⟨⟨c, rfl⟩, hmem⟩]
    rfl
  · by_contra hid
    have hsame : new.inserted (.outbox (CommandEvents.eventId D.hashes op 1)) o (.outbox id) =
        new (.outbox id) :=
      Rows.inserted_of_ne (fun h => hid (Key.outbox.inj h)) fun e he => absurd he List.not_mem_nil
    cases (hsame.symm.trans ho').symm.trans (h.rest _ rfl)
  · rw [hother k (by rintro id rfl; cases hk)]
    refine h.rest k ?_
    cases k <;> simp_all [Key.isProvisioned, Key.isAccepted, Query.isOperation]
  · rw [hother _ fun _ => Key.noConfusion]
    exact h.rest _ rfl

end

/-! ### What a request's session knows -/

section

variable {D : ProvisioningDeployment} {w : Worker} {tenant key : String} {found : Option String}
  {new : Rows} {s t : World}

/-- **Nothing was committed since the request arrived**, and the key named `found`
then. -/
structure Asked (D : ProvisioningDeployment) (w : Worker) (tenant key : String)
    (found : Option String) (s : World) : Prop where
  wrote : s.wrote w = false
  arrived : s.arrived w = found
  keyed : ∀ op, found = some op → s.rows (.commandKey tenant key) = some op

theorem Asked.settled (hA : Asked D w tenant key found s) (h : Settled D w s t) :
    Asked D w tenant key found t :=
  ⟨h.same.wrote.trans hA.wrote, h.same.arrived.trans hA.arrived, fun op hop =>
    h.forward.permanent _ rfl _ (hA.keyed op hop)⟩

def asked (D : ProvisioningDeployment) (w : Worker) (tenant key : String) (found : Option String) :
    (coordination D).Assertion w :=
  settled (Asked D w tenant key found) fun _ h hA => hA.settled h

/-- **And nothing is written.** -/
structure Untouched (D : ProvisioningDeployment) (w : Worker) (tenant key : String)
    (found : Option String) (s : World) : Prop where
  asked : Asked D w tenant key found s
  clean : s.Clean w
  dirty : s.dirty w = false

def untouched (D : ProvisioningDeployment) (w : Worker) (tenant key : String)
    (found : Option String) : (coordination D).Assertion w :=
  settled (Untouched D w tenant key found) fun _ h hA =>
    ⟨hA.asked.settled h, by unfold World.Clean; rw [h.same.own]; exact hA.clean,
      h.same.dirty.trans hA.dirty⟩

theorem Asked.abort (hA : Asked D w tenant key found s) :
    Untouched D w tenant key found (s.abort w) :=
  ⟨⟨hA.wrote, hA.arrived, hA.keyed⟩, World.clean_abort, Function.update_self ..⟩

/-- **Exactly the rows `new` are written**, all of them under keys nobody has. -/
structure Recording (D : ProvisioningDeployment) (w : Worker) (tenant key : String)
    (found : Option String) (new : Rows) (s : World) : Prop where
  asked : Asked D w tenant key found s
  own : ∀ k, s.own w k = (new k).map some
  fresh : ∀ k v, new k = some v → s.rows k = none

theorem Recording.held (hA : Recording D w tenant key found new s) {k : Key} {v : Row k}
    (h : new k = some v) : s.own w k ≠ none := by
  rw [hA.own, h]
  exact Option.some_ne_none _

def recording (D : ProvisioningDeployment) (w : Worker) (tenant key : String)
    (found : Option String) (new : Rows) : (coordination D).Assertion w :=
  settled (Recording D w tenant key found new) fun _ h hA =>
    ⟨hA.asked.settled h, fun k => by rw [h.same.own]; exact hA.own k, fun k v hv =>
      (h.held k (hA.held hv)).trans (hA.fresh k v hv)⟩

theorem Untouched.recording (hA : Untouched D w tenant key found s) :
    Recording D w tenant key found (fun _ => none) s :=
  ⟨hA.asked, fun k => congrFun hA.clean k, fun _ _ h => by cases h⟩

/-- What the transaction sees. -/
theorem Recording.view (hA : Recording D w tenant key found new s) : s.view w = new.over s.rows := by
  funext k
  rw [World.view_eq, hA.own]
  unfold Rows.over
  cases new k <;> rfl

theorem written_map {own : (k : Key) → Option (Option (Row k))} {ws : List (Write Row)}
    (hown : ∀ k, own k = (new k).map some) (hws : ∀ x ∈ ws, x.2 ≠ none) :
    ∀ k, World.written own ws k = (Database.overlay new ws k).map some := by
  induction ws generalizing own new with
  | nil => exact hown
  | cons x ws ih =>
    obtain ⟨v, hv⟩ := Option.ne_none_iff_exists'.1 (hws x List.mem_cons_self)
    refine ih (fun k => ?_) fun y hy => hws y (List.mem_cons_of_mem _ hy)
    dsimp only
    by_cases hk : k = x.1
    · subst hk
      rw [Function.update_self, Function.update_self, hv]
      rfl
    · rw [Function.update_of_ne hk, Function.update_of_ne hk]
      exact hown k

/-- **An `INSERT` of a new row.** -/
theorem insert_recording {k : Key} {row : Defaults → Row k}
    (hk : (Query.insert k row).mapsTenant = false := by rfl) :
    (coordination D).Triple w (recording D w tenant key found new) (Call.sql (.insert k row))
      (.ends (fun a => .ex fun d => (Protocol.Assertion.const ((a = row d ∧ new k = none) ∧
          (∀ e ∈ Schema.indexed k a, new e.1 = none) ∧ Schema.check k a = true)).and
        (recording D w tenant key found (new.inserted k a))) (asked D w tenant key found)) := by
  refine sql_triple (fun s _ hA => (Asked.abort (Recording.asked hA)).asked)
    (fun s d a ws hs hA hq => ?_) hk
  obtain ⟨rfl, hnone, hindex, hcheck, -, rfl⟩ := Query.insertRow_ok hq
  have hsplit : ∀ k : Key, s.view w k = none → new k = none ∧ s.rows k = none := fun k hk => by
    rw [Recording.view hA] at hk
    unfold Rows.over at hk
    cases hn : new k with
    | some v =>
      rw [hn] at hk
      cases hk
    | none =>
      rw [hn] at hk
      exact ⟨rfl, hk⟩
  refine ⟨d, ⟨⟨rfl, (hsplit k hnone).1⟩, fun e he => (hsplit _ (hindex e he)).1, hcheck⟩, ?_⟩
  obtain ⟨⟨hwrote, harrived, hkeyed⟩, hown, hfresh⟩ := hA
  refine ⟨⟨hwrote, harrived, fun op hop => ?_⟩, fun l => ?_, fun l v hv => ?_⟩
  · rw [World.rows_write]
    exact hkeyed op hop
  · rw [World.own_write]
    refine written_map hown (fun x hx => ?_) l
    rcases List.mem_cons.1 hx with rfl | hx
    · exact Option.some_ne_none _
    · obtain ⟨e, -, rfl⟩ := List.mem_map.1 hx
      exact Option.some_ne_none _
  · rw [World.rows_write]
    by_cases hl : l = k
    · subst hl
      exact (hsplit l hnone).2
    · by_cases hmem : ∃ e ∈ Schema.indexed k (row d), l = e.1
      · obtain ⟨e, he, rfl⟩ := hmem
        exact (hsplit _ (hindex e he)).2
      · rw [Rows.inserted_of_ne hl fun e he h => hmem ⟨e, he, h⟩] at hv
        exact hfresh l v hv

end

end Provisioning
end BaobabErp
