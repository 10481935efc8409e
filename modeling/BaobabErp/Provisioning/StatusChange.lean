/-
# A status and the command it moves

`set_status` (`setStatus_triple`): the operation's row and its command's are
written in one transaction.  The command's row is locked before the statuses of
its operations are read, so they are still what they were when the transaction
commits (`Statuses.settled`), and the event of a revision is as well formed as
that of the first one (`changed_valid`).
-/

import BaobabErp.Provisioning.Sessions

namespace BaobabErp
namespace Provisioning

open Python Concurrency

/-- `uuid.uuid5` gives UUIDs. -/
def IsUuid5 (H : Hashes) : Prop := ∀ ns name, (uuidValue (H.uuid5 ns name)).isSome = true

/-! ### The event of a revision -/

/-- The parts of a state document, without its members. -/
theorem obj_of_changed {H : Hashes} {op : String} {d : CommandRow} :
    (CommandEvents.changed H op d).data.obj?.isSome = true := by
  unfold CommandEvents.changed CommandEvents.stateDocument
  rfl

theorem singleton_of_le {n : Nat} (h : n ≤ 9) :
    ∃ c, isAsciiDigit c = true ∧ toString n = String.singleton c := by
  have hall : ((List.range 10).all fun n => "0123456789".toList.any fun c =>
      isAsciiDigit c && toString n == String.singleton c) = true := by decide
  obtain ⟨c, -, hc⟩ :=
    List.any_eq_true.1 (List.all_eq_true.1 hall n (List.mem_range.2 (by omega)))
  rw [Bool.and_eq_true, beq_iff_eq] at hc
  exact ⟨c, hc⟩

/-- The keys of two revisions differ in their last digit. -/
theorem isKey_of_le {op : String} {m n : Nat} (hm : m ≤ 9) (hn : n ≤ 9)
    (h : CloudEvent.isIdempotencyKey (CommandEvents.idempotencyKey op m) = true) :
    CloudEvent.isIdempotencyKey (CommandEvents.idempotencyKey op n) = true := by
  obtain ⟨x, -, hx⟩ := singleton_of_le hm
  obtain ⟨y, hy, hy'⟩ := singleton_of_le hn
  unfold CommandEvents.idempotencyKey at h ⊢
  rw [hx] at h
  rw [hy']
  exact CloudEvent.isIdempotencyKey_digit hy h

/-- **The event of a later revision** is as well formed as that of the first. -/
theorem changed_valid {H : Hashes} {op : String} {c d : CommandRow} (huuid : IsUuid5 H)
    (htenant : d.tenantId = c.tenantId) (hfirst : c.revision = 1) (hrev : d.revision ≤ 9)
    (h : (CommandEvents.provisioningChanged H op c).toOption.isSome = true) :
    (CommandEvents.changed H op d).validate = .ok (CommandEvents.changed H op d) := by
  have hvalid : ((CommandEvents.changed H op c).validate).toOption.isSome = true := by
    unfold CommandEvents.provisioningChanged at h
    cases hv : (CommandEvents.changed H op c).validate with
    | ok e => rfl
    | error m =>
      rw [hv] at h
      cases h
  have hid : (uuidValue (CommandEvents.changed H op d).id).isSome = true :=
    huuid CommandEvents.namespaceUrl _
  have hkey : (CommandEvents.changed H op d).idempotencykey.all CloudEvent.isIdempotencyKey = true :=
    isKey_of_le (by omega) hrev (CloudEvent.key_of_valid hvalid)
  refine CloudEvent.validate_congr hvalid hid hkey obj_of_changed ?_
  unfold CommandEvents.changed
  rw [htenant]

/-- `record_event`, of an event that is well formed and that ERP produces. -/
theorem recordEvent_eq {event e : CloudEvent} (hvalid : event.validate = .ok e)
    (hproduced : (Registry.produced.lookup event.type).isNone = false)
    (hsource : event.source = Registry.erpSource)
    (hschema : some event.dataschema = Registry.dataschemaFor event.type) :
    recordEvent event = (do
      let _ ← Call.sql (.insert (.outbox event.id) (outboxRow event))
      pure ()) := by
  have hbne : (event.source != Registry.erpSource) = false := by
    rw [hsource]
    exact bne_self_eq_false _
  unfold recordEvent
  rw [hvalid]
  dsimp only
  rw [hproduced, hbne, if_neg (by decide), if_neg (not_not.2 hschema)]

/-- `_announce`, of an event that is well formed. -/
theorem announce_eq {D : ProvisioningDeployment} {op : String} {d : CommandRow}
    (h : (CommandEvents.changed D.hashes op d).validate =
      .ok (CommandEvents.changed D.hashes op d)) :
    CommandStore.announce D op d = (do
      let _ ← Call.sql (.insert (.outbox (CommandEvents.eventId D.hashes op d.revision))
        (outboxRow (CommandEvents.changed D.hashes op d)))
      pure ()) := by
  have hchanged : CommandEvents.provisioningChanged D.hashes op d =
      .ok (CommandEvents.changed D.hashes op d) := by
    unfold CommandEvents.provisioningChanged
    rw [h]
  have hproduced : (Registry.produced.lookup CommandEvents.eventType).isNone = false := by decide
  have hschema : some (Registry.erpSchema "provisioning-state") =
      Registry.dataschemaFor CommandEvents.eventType := by decide
  unfold CommandStore.announce
  rw [hchanged, orRaise_bind]
  exact recordEvent_eq h hproduced rfl hschema

/-! ### The statuses of a command -/

section

variable {D : ProvisioningDeployment} {w : Worker} {pid op le : String} {mine : Rows}
  {row row' : OperationRow} {c d : CommandRow} {seen : List ProvisioningStatus} {s t : World}

/-- **While a session holds the command's row, its operations keep their statuses.** -/
theorem Statuses.settled (hs : Coordinated D s) (h : Settled D w s t)
    (hheld : s.own w (.command op) ≠ none) (hc : s.rows (.command op) = some c)
    (hseen : Statuses (Function.update s.rows (.operation pid) (some row')) op seen) :
    Statuses (Function.update t.rows (.operation pid) (some row')) op seen := by
  have hentity : ∀ e, t.rows (.commandEntity op e) = s.rows (.commandEntity op e) :=
    h.forward.entities op (by rw [hc]; rfl)
  -- an operation of the command is there before and after, with one status
  have hsame : ∀ e p, s.rows (.commandEntity op e) = some p →
      ∃ r r' : OperationRow, s.rows (.operation p) = some r ∧ t.rows (.operation p) = some r' ∧
        r'.status = r.status := by
    intro e p he
    have howner := (hs.ledger.linked.owner op e p).1 he
    have hfound := hs.ledger.linked.owned p
    rw [howner] at hfound
    obtain ⟨r, hr⟩ := Option.isSome_iff_exists.1 hfound
    obtain ⟨r', hr', -⟩ := h.forward.operation p r hr
    exact ⟨r, r', hr, hr', h.projected op c hheld hc p e howner r r' hr hr'⟩
  intro status
  rw [hseen status]
  constructor
  · rintro ⟨e, p, r, he, hr, hst⟩
    rw [Function.update_of_ne (by simp)] at he
    by_cases hp : p = pid
    · subst hp
      rw [Function.update_self] at hr
      exact ⟨e, p, r, by rw [Function.update_of_ne (by simp), hentity, he],
        by rw [Function.update_self, hr], hst⟩
    · rw [Function.update_of_ne (fun h => hp (Key.operation.inj h))] at hr
      obtain ⟨r₁, r₂, hr₁, hr₂, hsame⟩ := hsame e p he
      obtain rfl : r = r₁ := Option.some.inj (hr.symm.trans hr₁)
      exact ⟨e, p, r₂, by rw [Function.update_of_ne (by simp), hentity, he],
        by rw [Function.update_of_ne (fun h => hp (Key.operation.inj h)), hr₂], hsame.trans hst⟩
  · rintro ⟨e, p, r, he, hr, hst⟩
    rw [Function.update_of_ne (by simp), hentity] at he
    by_cases hp : p = pid
    · subst hp
      rw [Function.update_self] at hr
      exact ⟨e, p, r, by rw [Function.update_of_ne (by simp), he],
        by rw [Function.update_self, hr], hst⟩
    · rw [Function.update_of_ne (fun h => hp (Key.operation.inj h))] at hr
      obtain ⟨r₁, r₂, hr₁, hr₂, hsame⟩ := hsame e p he
      obtain rfl : r = r₂ := Option.some.inj (hr.symm.trans hr₂)
      exact ⟨e, p, r₁, by rw [Function.update_of_ne (by simp), he],
        by rw [Function.update_of_ne (fun h => hp (Key.operation.inj h)), hr₁], hsame.symm.trans hst⟩

/-- The command's row is held, and `seen` are the statuses with the new one. -/
def seeing (D : ProvisioningDeployment) (w : Worker) (pid op : String) (c : CommandRow)
    (row' : OperationRow) (seen : List ProvisioningStatus) : (coordination D).Assertion w :=
  settled (fun s => (s.own w (.command op) ≠ none ∧ s.rows (.command op) = some c) ∧
      Statuses (Function.update s.rows (.operation pid) (some row')) op seen)
    fun hs h ⟨⟨hown, hc⟩, hseen⟩ => ⟨⟨by rw [h.same.own]; exact hown,
      (h.held _ hown).trans hc⟩, hseen.settled hs h hown hc⟩

/-- **A change of status that may be made.** -/
structure StatusChange (D : ProvisioningDeployment) (pid : String) (mine : Rows)
    (row row' : OperationRow) : Prop where
  found : mine (.operation pid) = some row
  moved : row.Moved row'
  key : row'.idempotencyKey = row.idempotencyKey
  executed : row'.status.executed
  forward : row.status.rank ≤ row'.status.rank
  finished : 2 ≤ row'.status.rank → row'.status.rank < 4 → ∀ b, Planned D pid row b →
    ∀ step ∈ b.plan.steps, (mine (.step pid step.key)).isSome = true

theorem exists_statuses (rows : Rows) (op : String) : ∃ seen, Statuses rows op seen := by
  classical
  let all : List ProvisioningStatus := [.requested, .validating, .planned, .applying, .reconciling,
    .suspended, .ready, .active, .failed]
  refine ⟨all.filter fun status => decide (HasStatus rows op status), fun status => ?_⟩
  rw [List.mem_filter, decide_eq_true_iff]
  exact ⟨And.right, fun h => ⟨by cases status <;> decide, h⟩⟩

/-- **The command's state goes forward with the change.** -/
theorem StatusChange.rank_le {rows : Rows} {state : CommandState} {code : Option String}
    {engine : List NativeRecord} (h : StatusChange D pid mine row row') (hl : Ledger D rows engine)
    (hrow : rows (.operation pid) = some row) (hc : rows (.command op) = some c)
    (hseen : Statuses (Function.update rows (.operation pid) (some row')) op seen)
    (hderived : Derived seen state code) : c.state.rank ≤ state.rank := by
  obtain ⟨before, hbefore⟩ := exists_statuses rows op
  have hold := hl.commanded.derived op c hc before hbefore
  refine hold.rank_mono hderived ?_ (fun status hst => ?_) fun status hst => ?_
  · obtain ⟨e, he⟩ := hl.linked.entity op (by rw [hc]; rfl)
    obtain ⟨p, hp⟩ := Option.isSome_iff_exists.1 he
    have hfound := hl.linked.owned p
    rw [(hl.linked.owner op e p).1 hp] at hfound
    obtain ⟨r, hr⟩ := Option.isSome_iff_exists.1 hfound
    exact List.ne_nil_of_mem ((hbefore r.status).2 ⟨e, p, r, hp, hr, rfl⟩)
  · obtain ⟨e, p, r, he, hr, rfl⟩ := (hbefore status).1 hst
    have he' : Function.update rows (.operation pid) (some row') (.commandEntity op e) = some p := by
      rw [Function.update_of_ne (by simp), he]
    by_cases hp : p = pid
    · subst hp
      obtain rfl : row = r := Option.some.inj (hrow.symm.trans hr)
      exact ⟨row'.status, (hseen _).2 ⟨e, p, row', he', Function.update_self .., rfl⟩, h.forward⟩
    · exact ⟨r.status, (hseen _).2 ⟨e, p, r, he', by
        rw [Function.update_of_ne (fun h => hp (Key.operation.inj h)), hr], rfl⟩, Nat.le_refl _⟩
  · obtain ⟨e, p, r, he, hr, rfl⟩ := (hseen status).1 hst
    rw [Function.update_of_ne (by simp)] at he
    by_cases hp : p = pid
    · subst hp
      rw [Function.update_self] at hr
      obtain rfl := Option.some.inj hr
      exact ⟨row.status, (hbefore _).2 ⟨e, p, row, he, hrow, rfl⟩, h.forward⟩
    · rw [Function.update_of_ne (fun h => hp (Key.operation.inj h))] at hr
      exact ⟨r.status, (hbefore _).2 ⟨e, p, r, he, hr, rfl⟩, Nat.le_refl _⟩

/-- **What `advance` makes of the command** is its next revision, whose event is well
formed. -/
theorem StatusChange.next {state : CommandState} {code : Option String} {now : Defaults}
    (huuid : IsUuid5 D.hashes) (h : StatusChange D pid mine row row') (hs : Coordinated D s)
    (hrow : s.rows (.operation pid) = some row) (hc : s.rows (.command op) = some c)
    (hseen : Statuses (Function.update s.rows (.operation pid) (some row')) op seen)
    (hderived : Derived seen state code) (hd : CommandStore.advanced state code now c = some d) :
    c.Next d ∧ Derived seen d.state d.failureCode ∧
      (CommandEvents.changed D.hashes op d).validate = .ok (CommandEvents.changed D.hashes op d) := by
  unfold CommandStore.advanced at hd
  split_ifs at hd with hcase
  obtain rfl := Option.some.inj hd
  obtain ⟨before, hbefore⟩ := exists_statuses s.rows op
  have hold := hs.ledger.commanded.derived op c hc before hbefore
  have hle := h.rank_le hs.ledger hrow hc hseen hderived
  have hlt : c.state.rank < state.rank := by
    refine Nat.lt_of_le_of_ne hle fun heq => ?_
    obtain rfl := hold.state_eq hderived heq
    exact hcase.2.elim (fun h => h rfl) fun h => h (hold.code_eq hderived)
  obtain ⟨hrev, y, hytenant, hyrev, hyvalid⟩ := hs.ledger.commanded.valid op c hc
  have hfour := hderived.rank_le
  refine ⟨⟨rfl, rfl, rfl, rfl, hlt⟩, hderived, changed_valid huuid hytenant.symm hyrev ?_ hyvalid⟩
  show c.revision + 1 ≤ 9
  omega

/-! ### The walk through `set_status` -/

/-- The command that owns the operation. -/
def Fact.owner (pid op le : String) : Fact := .row (.entityOwner pid) rfl (op, le)

/-- What is written when the command's row is locked. -/
def locked (pid op : String) (row' : OperationRow) (c : CommandRow) : List (Write Row) :=
  [⟨.operation pid, some row'⟩, ⟨.command op, some c⟩]

/-- What is written when the command's next revision was announced. -/
def announced (D : ProvisioningDeployment) (pid op : String) (row' : OperationRow)
    (c d : CommandRow) (o : OutboxRow) : List (Write Row) :=
  locked pid op row' c ++ [⟨.command op, some d⟩] ++
    [⟨.outbox (CommandEvents.eventId D.hashes op d.revision), some o⟩]

/-- **All that a commit needs**: the command is what its operations make of it, or
its next revision is, with its event. -/
def ready (D : ProvisioningDeployment) (w : Worker) (pid op le : String) (mine : Rows)
    (row' : OperationRow) (c : CommandRow) (seen : List ProvisioningStatus) :
    (coordination D).Assertion w :=
  ((Protocol.Assertion.const (Derived seen c.state c.failureCode)).and
    ((working D w pid mine (locked pid op row' c) (.owner pid op le)).and
      (seeing D w pid op c row' seen))).or
  (.ex fun d : CommandRow => .ex fun o : OutboxRow =>
    (Protocol.Assertion.const (c.Next d ∧ Derived seen d.state d.failureCode ∧
      o.content = .event (CommandEvents.changed D.hashes op d))).and
    ((working D w pid mine (announced D pid op row' c d o) (.owner pid op le)).and
      ((seeing D w pid op c row' seen).and
        (heldRow D w (.outbox (CommandEvents.eventId D.hashes op d.revision)) none))))

/-- The rows of an operation with another status. -/
theorem StatusChange.working {ws : List (Write Row)} {M : Fact}
    (hws : ∀ k, k.owner = some pid → Database.overlay mine (⟨.operation pid, some row'⟩ :: ws) k =
      Function.update mine (.operation pid) (some row') k)
    (hA : Working D w pid mine (⟨.operation pid, some row'⟩ :: ws) M s) (hg : Commits D w s) :
    Working D w pid (Function.update mine (.operation pid) (some row')) [] .top (s.commit w) := by
  have hfound : (Database.overlay mine (⟨.operation pid, some row'⟩ :: ws)
      (.operation pid)).isSome = true := by
    rw [hws _ rfl, Function.update_self]
    rfl
  exact ((hA.commit hg hfound).congr fun k hk => (hws k hk).symm).of_known trivial

theorem commit_ready (h : StatusChange D pid mine row row') :
    (coordination D).Triple w (ready D w pid op le mine row' c seen) Call.commit
      (.ends (fun _ => Provisioning.working D w pid
        (Function.update mine (.operation pid) (some row')) [] .top) (stopped D w pid)) := by
  have hrowOf : ∀ {s : World} {ws M}, Working D w pid mine ws M s →
      s.rows (.operation pid) = some row := fun hA => (hA.mine _ rfl).trans h.found
  have hfin : ∀ {s : World} {ws M}, Working D w pid mine ws M s → 2 ≤ row'.status.rank →
      row'.status.rank < 4 → ∀ b, Planned D pid row b → ∀ step ∈ b.plan.steps,
        (s.rows (.step pid step.key)).isSome = true := fun hA h₂ h₄ b hb step hs => by
    rw [hA.mine _ rfl]
    exact h.finished h₂ h₄ b hb step hs
  obtain ⟨-, hcore⟩ := Prod.mk.inj (show (row.status, row'.core.2) = (row.status, row.core.2) by
    rw [h.moved])
  obtain ⟨hstate, hcore⟩ := Prod.mk.inj hcore
  obtain ⟨hdigest, hplan⟩ := Prod.mk.inj hcore
  have hrowForward : row.Forward row' := ⟨h.forward, hstate, hdigest, hplan⟩
  refine .or ?_ (.ex fun d => .ex fun o => .given fun ⟨hnext, hderived, hcontent⟩ => ?_)
  · refine .given fun hderived => ?_
    refine commit_triple (fun s hs ⟨hA, ⟨⟨hown, hc⟩, hseen⟩⟩ => ?_)
      (fun s _ hA => (Working.abort hA.1).stopped)
      fun s _ hg hA => StatusChange.working (fun k hk => ?_) hA.1 hg
    · have hrows : Database.overlay s.rows (locked pid op row' c) =
          Function.update s.rows (.operation pid) (some row') := by
        refine update_same ?_
        rw [Function.update_of_ne (by simp)]
        exact hc
      refine Working.commits hA (fun k hk p hp => ?_) ?_ ?_ (.inr ⟨op, le, hA.known, by simp [locked]⟩)
      · simp only [locked, List.map_cons, List.map_nil, List.mem_cons, List.not_mem_nil,
          or_false] at hk
        rcases hk with rfl | rfl
        · exact (Option.some.inj hp).symm
        · cases hp
      · rw [hrows]
        exact hs.ledger.withStatus (hrowOf hA) h.moved h.executed (hfin hA) hA.known hc hseen hderived
      · rw [hrows]
        exact .withStatus (hrowOf hA) hrowForward
    · exact Function.update_of_ne (by rintro rfl; cases hk) _ _
  · refine commit_triple (fun s hs ⟨hA, ⟨⟨⟨hown, hc⟩, hseen⟩, _, hnone⟩⟩ => ?_)
      (fun s _ hA => (Working.abort hA.1).stopped)
      fun s _ hg hA => StatusChange.working (fun k hk => ?_) hA.1 hg
    · have hrows : Database.overlay s.rows (announced D pid op row' c d o) =
          Function.update (Function.update (Function.update s.rows (.operation pid) (some row'))
            (.command op) (some d)) (.outbox (CommandEvents.eventId D.hashes op d.revision))
            (some o) := by
        show Function.update (Function.update (Function.update _ _ _) _ _) _ _ = _
        rw [Function.update_idem]
      refine Working.commits hA (fun k hk p hp => ?_) ?_ ?_
        (.inr ⟨op, le, hA.known, by simp [announced, locked]⟩)
      · simp only [announced, locked, List.cons_append, List.nil_append, List.map_cons,
          List.map_nil, List.mem_cons, List.not_mem_nil, or_false] at hk
        rcases hk with rfl | rfl | rfl | rfl
        · exact (Option.some.inj hp).symm
        · cases hp
        · cases hp
        · cases hp
      · rw [hrows]
        exact hs.ledger.withRevision (hrowOf hA) h.moved h.executed (hfin hA) hA.known hc hseen
          hderived hnext hnone hcontent
      · rw [hrows]
        refine ((Forward.withStatus (hrowOf hA) hrowForward).trans (.withCommand ?_ hnext.forward)).trans
          (.of_none ?_ fun op' le' h => by cases h)
        · rw [Function.update_of_ne (by simp)]
          exact hc
        · rw [Function.update_of_ne (by simp), Function.update_of_ne (by simp)]
          exact hnone
    · show Function.update (Function.update (Function.update _ _ _) _ _) _ _ k = _
      rw [Function.update_of_ne (by rintro rfl; cases hk),
        Function.update_of_ne (by rintro rfl; cases hk),
        Function.update_of_ne (by rintro rfl; cases hk)]

/-- The event of the next revision is recorded. -/
theorem announce_ready (hvalid : (CommandEvents.changed D.hashes op d).validate =
      .ok (CommandEvents.changed D.hashes op d)) (hnext : c.Next d)
    (hderived : Derived seen d.state d.failureCode) :
    (coordination D).Triple w
      ((Provisioning.working D w pid mine (locked pid op row' c ++ [⟨.command op, some d⟩])
        (.owner pid op le)).and (seeing D w pid op c row' seen))
      (CommandStore.announce D op d)
      (.ends (fun _ => ready D w pid op le mine row' c seen) (stopped D w pid)) := by
  rw [announce_eq hvalid]
  refine .seq (B := fun _ => ready D w pid op le mine row' c seen)
    (sql_triple (fun s _ hA => (Working.abort hA.1).stopped)
      fun s now a ws hs ⟨hA, ⟨hown, hc⟩, hseen⟩ hq => ?_) fun _ => .pure fun _ _ h => h
  obtain ⟨-, hnone, -, -, -, rfl⟩ := Query.insertRow_ok hq
  refine .inr ⟨d, _, ⟨hnext, hderived, rfl⟩, hA.write, ⟨⟨?_, ?_⟩, ?_⟩, ?_, ?_⟩
  · rw [World.own_write]
    exact World.written_isSome hown
  · rwa [World.rows_write]
  · rwa [World.rows_write]
  · rw [World.own_write]
    exact World.written_of_mem List.mem_cons_self
  · rw [World.rows_write, ← hnone, hA.view, Database.overlay_of_not_mem]
    simp [locked]

/-- The command becomes what its operations make of it. -/
theorem advance_ready {state : CommandState} {code : Option String} (huuid : IsUuid5 D.hashes)
    (h : StatusChange D pid mine row row') (hderived : Derived seen state code) :
    (coordination D).Triple w
      ((Provisioning.working D w pid mine (locked pid op row' c) (.owner pid op le)).and
        (seeing D w pid op c row' seen))
      (CommandStore.advance D op state code)
      (.ends (fun _ => ready D w pid op le mine row' c seen) (stopped D w pid)) := by
  have hcode : ¬ ((state == .failed) != code.isSome) = true := by
    have := hderived.code
    cases hstate : state == .failed <;> cases hsome : code.isSome <;> simp_all
  unfold CommandStore.advance
  rw [if_neg hcode]
  refine .seq (B := fun (a : Option CommandRow) => match a with
    | none => ready D w pid op le mine row' c seen
    | some d => (Protocol.Assertion.const (c.Next d ∧ Derived seen d.state d.failureCode ∧
        (CommandEvents.changed D.hashes op d).validate =
          .ok (CommandEvents.changed D.hashes op d))).and
      ((Provisioning.working D w pid mine (locked pid op row' c ++ [⟨.command op, some d⟩])
        (.owner pid op le)).and (seeing D w pid op c row' seen)))
    (sql_triple (fun s _ hA => (Working.abort hA.1).stopped)
      fun s now a ws hs ⟨hA, ⟨hown, hc⟩, hseen⟩ hq => ?_) fun a => ?_
  · have hview : s.view w (.command op) = some c := by
      rw [hA.view]
      exact Function.update_self ..
    have hrow : s.rows (.operation pid) = some row := (hA.mine _ rfl).trans h.found
    obtain ⟨ha, hws⟩ := Query.update_ok hview (fun d hd => by
      unfold CommandStore.advanced at hd
      split_ifs at hd
      obtain rfl := Option.some.inj hd
      rfl) hq
    rcases hws with ⟨hset, rfl⟩ | ⟨d, hset, rfl⟩
    · rw [ha, hset, World.write_nil]
      refine .inl ⟨?_, hA, ⟨hown, hc⟩, hseen⟩
      obtain ⟨before, hbefore⟩ := exists_statuses s.rows op
      have hold := hs.ledger.commanded.derived op c hc before hbefore
      unfold CommandStore.advanced at hset
      split_ifs at hset with hcase
      rw [not_and_or, not_or, not_not, not_not, not_not] at hcase
      rcases hcase with hcancelled | ⟨hstate, hfc⟩
      · rw [hcancelled] at hold
        cases hold
      · rw [hstate, hfc]
        exact hderived
    · rw [ha, hset]
      refine ⟨h.next huuid hs hrow hc hseen hderived hset, hA.write, ⟨?_, ?_⟩, ?_⟩
      · rw [World.own_write]
        exact World.written_isSome hown
      · rwa [World.rows_write]
      · rwa [World.rows_write]
  · cases a with
    | none => exact .pure fun _ _ h => h
    | some d =>
      refine .given fun ⟨hnext, hder, hvalid⟩ => ?_
      exact .seq (announce_ready hvalid hnext hder) fun _ => .pure fun _ _ h => h

/-- **`set_status`**: the operation has the status and its command what follows. -/
theorem setStatus_triple {status : ProvisioningStatus} {error : Option String} {M : Fact}
    (huuid : IsUuid5 D.hashes)
    (h : StatusChange D pid mine row { row with status, lastError := error }) :
    (coordination D).Triple w (Provisioning.working D w pid mine [] M)
      (ProvisioningStore.setStatus D pid status error)
      (.ends (fun _ => Provisioning.working D w pid (Function.update mine (.operation pid)
        (some ({ row with status, lastError := error } : OperationRow))) [] .top)
        (stopped D w pid)) := by
  set row' : OperationRow := { row with status, lastError := error } with hrow'
  unfold ProvisioningStore.setStatus
  refine .seq (B := fun _ => Provisioning.working D w pid mine [⟨.operation pid, some row'⟩] .top)
    (sql_triple (fun s _ hA => (Working.abort hA).stopped) fun s now a ws hs hA hq => ?_) fun _ => ?_
  · have hview : s.view w (.operation pid) = some row := by
      rw [hA.view_mine rfl]
      exact h.found
    obtain ⟨-, hws⟩ := Query.update_ok hview (fun d hd => by
      obtain rfl := Option.some.inj hd
      rfl) hq
    rcases hws with ⟨hset, -⟩ | ⟨new, hset, rfl⟩
    · cases hset
    · obtain rfl : row' = new := Option.some.inj hset
      exact hA.write.of_known trivial
  refine .seq (B := fun _ => .ex fun op => .ex fun le => .ex fun c => .ex fun seen =>
    ready D w pid op le mine row' c seen) ?_ fun _ =>
      .ex fun op => .ex fun le => .ex fun c => .ex fun seen => commit_ready h
  unfold CommandStore.project
  refine .seq (B := fun a : Option (String × String) => .ex fun x : String × String =>
    (Protocol.Assertion.const (a = some x)).and
      (Provisioning.working D w pid mine [⟨.operation pid, some row'⟩] (.owner pid x.1 x.2)))
    (sql_triple (fun s _ hA => (Working.abort hA).stopped) fun s now a ws hs hA hq => ?_) fun a => ?_
  · obtain ⟨rfl, rfl⟩ := Prod.mk.inj (Except.ok.inj hq)
    have hfound := hs.ledger.linked.owned pid
    rw [hA.mine _ rfl, hA.found] at hfound
    obtain ⟨x, hx⟩ := Option.isSome_iff_exists.1 hfound.symm
    rw [World.write_nil]
    refine ⟨x, ?_, hA.of_known hx⟩
    rw [hA.view]
    exact hx
  refine .ex fun x => .given fun ha => ?_
  obtain ⟨op, le⟩ := x
  subst ha
  dsimp only
  -- the command's row is locked before the statuses are read
  refine .seq (B := fun _ => .ex fun c : CommandRow =>
    (Provisioning.working D w pid mine (locked pid op row' c) (.owner pid op le)).and
      (heldRow D w (.command op) (some c)))
    (sql_triple (fun s _ hA => (Working.abort hA).stopped) fun s now a ws hs hA hq => ?_) fun _ => ?_
  · have hentity := (hs.ledger.linked.owner op le pid).2 hA.known
    obtain ⟨c, hc⟩ := Option.isSome_iff_exists.1
      (hs.ledger.linked.command op le (by rw [hentity]; rfl))
    have hview : s.view w (.command op) = some c := by
      rw [hA.view, Database.overlay_of_not_mem (by simp)]
      exact hc
    obtain ⟨-, ⟨hnone, -⟩ | ⟨c', hc', rfl⟩⟩ := Query.selectForUpdate_ok hq
    · rw [hview] at hnone
      cases hnone
    · obtain rfl : c = c' := Option.some.inj (hview.symm.trans hc')
      refine ⟨c, hA.write, ?_, by rwa [World.rows_write]⟩
      rw [World.own_write]
      exact World.written_of_mem List.mem_cons_self
  refine .ex fun c => ?_
  refine .seq (B := fun seen => (Protocol.Assertion.const
      (seen ≠ [] ∧ ∀ status ∈ seen, status.executed)).and
    ((Provisioning.working D w pid mine (locked pid op row' c) (.owner pid op le)).and
      (seeing D w pid op c row' seen)))
    (sql_triple (fun s _ hA => (Working.abort hA.1).stopped)
      fun s now seen ws hs ⟨hA, hown, hc⟩ hq => ?_) fun seen => ?_
  · obtain ⟨rfl, hseen⟩ := Query.statuses_ok hs.indexed hq
    rw [World.write_nil]
    have hstatuses : Statuses (Function.update s.rows (.operation pid) (some row')) op seen := by
      intro status
      rw [hseen status, show s.db.view w = _ from hA.view]
      have hother : ∀ k, k ≠ .command op → Database.overlay s.rows (locked pid op row' c) k =
          Function.update s.rows (.operation pid) (some row') k :=
        fun k hk => Function.update_of_ne hk _ _
      exact hasStatus_congr (fun e => hother _ (by simp)) fun p => hother _ (by simp)
    have hrow : s.rows (.operation pid) = some row := (hA.mine _ rfl).trans h.found
    refine ⟨⟨?_, fun status hst => ?_⟩, hA, ⟨hown, hc⟩, hstatuses⟩
    · have hentity := (hs.ledger.linked.owner op le pid).2 hA.known
      exact List.ne_nil_of_mem ((hstatuses row'.status).2 ⟨le, pid, row', by
        rw [Function.update_of_ne (by simp), hentity], Function.update_self .., rfl⟩)
    · obtain ⟨e, p, r, -, hr, rfl⟩ := (hstatuses status).1 hst
      by_cases hp : p = pid
      · subst hp
        rw [Function.update_self] at hr
        obtain rfl := Option.some.inj hr
        exact h.executed
      · rw [Function.update_of_ne (fun h => hp (Key.operation.inj h))] at hr
        exact (hs.ledger.provisioned.planned p r hr).1
  refine .given fun ⟨hne, hexec⟩ => ?_
  obtain ⟨state, code, hderive, hderived⟩ := derive_derived hne hexec
  rw [hderive, orRaise_bind]
  exact (advance_ready huuid h hderived).post fun r s _ hr => by
    cases r with
    | ok a => exact ⟨op, le, c, seen, hr⟩
    | error x => exact hr

end

end Provisioning
end BaobabErp
