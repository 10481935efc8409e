/-
# What an announcement writes

An observed outcome advances the row of its document and, where that changed, records
the event of the new revision.  With nothing failing from outside, both statements are
settled by the rows the session sees: the row `advance` writes has to meet its
constraints (`Outcome.written`), the event its grammar (`Sendable`), and no event of that
id may be in the outbox.
-/

import BaobabErp.OrderToCash.FollowUpReads
import BaobabErp.OrderToCash.AnnouncedOrder

namespace BaobabErp

open Python Concurrency

section

variable {D : Deployment} {w : Worker} {s t : World × List Reply}

/-! ### Advancing an outcome -/

namespace Outcome

variable {tenantId status documentId : String} {type : DocumentType} {detail : Detail}
  {now : Instant}

/-- The row `advance` writes over the one it finds, where it writes one. -/
def written (row : Option OutcomeRow) (status : String) (detail : Detail) (now : Instant) :
    Option OutcomeRow :=
  match row with
  | none => some (firstRow status detail now)
  | some row => if moves row status detail then some (nextRow status detail now row) else none

/-- The constraints of the row. -/
def meets (row : OutcomeRow) : Bool :=
  1 ≤ row.revision && Schema.isInteger row.revision && row.detail.storable

theorem check_outcome (tenantId : String) (type : DocumentType) (documentId : String)
    (row : OutcomeRow) : Schema.check (.outcome tenantId type documentId) row = meets row := rfl

/-- The row of a document, as `w` sees it. -/
def found (w : Worker) (s : World) (tenantId : String) (type : DocumentType) (documentId : String) :
    Option OutcomeRow :=
  (s.cell w (.outcome tenantId type documentId)).map Cell.row

/-- How `advance` ends, by the row it writes. -/
structure Settled (w : Worker) (k : Key) (written : Option OutcomeRow) (x : Except Exc Advanced)
    (s t : World) : Prop where
  raised : ∀ row, written = some row → meets row = false → ∃ z, x = .error z
  answered : (∀ row, written = some row → meets row = true) → ∃ step, x = .ok step ∧ step.changed = written.isSome ∧
    (∀ row, written = some row → step.revision = row.revision) ∧ Untouched w k s t

theorem advanceLocked_heard {row : OutcomeRow} {x : Except Exc Advanced}
    (hrow : found w s.1 tenantId type documentId = some row)
    (h : Heard D w (advanceLocked tenantId type documentId status detail now row) s x t) :
    t.2 = s.2 ∧ Settled w (.outcome tenantId type documentId)
      (written (some row) status detail now) x s.1 t.1 := by
  obtain ⟨cell, hcell, rfl⟩ := Option.map_eq_some_iff.1 hrow
  unfold advanceLocked at h
  unfold written
  dsimp only
  by_cases hm : moves cell.row status detail = true
  · rw [if_pos hm] at h ⊢
    have hcheck := check_outcome tenantId type documentId (nextRow status detail now cell.row)
    rcases h.of_bind with ⟨z, hu, rfl⟩ | ⟨n, u, hu, hrest⟩
    · obtain ⟨ht, -, hyes⟩ := heard_update hcell hu
      refine ⟨ht, fun _ _ _ => ⟨z, rfl⟩, fun hall => ?_⟩
      obtain ⟨⟨n, hn⟩, -⟩ := hyes (hcheck.trans (hall _ rfl))
      cases hn
    · obtain ⟨hv, hno, hyes⟩ := heard_update hcell hu
      obtain ⟨rfl, rfl⟩ := hrest.of_pure
      refine ⟨hv, fun row hrow hbad => ?_, fun hall =>
        ⟨_, rfl, rfl, fun row hrow => by rw [← Option.some.inj hrow]; rfl,
          (hyes (hcheck.trans (hall _ rfl))).2.1⟩⟩
      obtain rfl := Option.some.inj hrow
      obtain ⟨z, hz⟩ := hno (hcheck.trans hbad)
      cases hz
  · rw [if_neg hm] at h ⊢
    obtain ⟨rfl, rfl⟩ := Prog.Alone.of_ret h
    exact ⟨rfl, nofun, fun _ => ⟨_, rfl, rfl, nofun, .of_store rfl⟩⟩

/-- **How `advance` ends.** -/
theorem advance_heard {x : Except Exc Advanced}
    (h : Heard D w (advance tenantId type documentId status detail now) s x t) :
    t.2 = s.2 ∧ Settled w (.outcome tenantId type documentId)
      (written (found w s.1 tenantId type documentId) status detail now) x s.1 t.1 := by
  unfold advance at h
  rcases h.of_bind with ⟨z, hl, -⟩ | ⟨row, u, hl, hrest⟩
  · obtain ⟨-, hx, -⟩ := heard_selectForUpdate hl
    cases hx
  obtain ⟨hu, hx, hsame, hcell⟩ := heard_selectForUpdate hl
  have hrow : row = found w s.1 tenantId type documentId := Except.ok.inj hx
  cases hf : found w s.1 tenantId type documentId with
  | some old =>
    rw [hrow, hf] at hrest
    have hfound : found w u.1 tenantId type documentId = some old := by
      unfold found
      rw [hcell]
      exact hf
    obtain ⟨ht, hraised, hanswered⟩ := advanceLocked_heard hfound hrest
    refine ⟨ht.trans hu, hraised, fun hall => ?_⟩
    obtain ⟨step, hstep, hchanged, hrevision, hafter⟩ := hanswered hall
    exact ⟨step, hstep, hchanged, hrevision, hsame.trans hafter⟩
  | none =>
    rw [hrow, hf] at hrest
    have hnone : u.1.cell w (.outcome tenantId type documentId) = none := by
      rw [hcell]
      exact Option.map_eq_none_iff.1 hf
    unfold written
    dsimp only at hrest ⊢
    rcases hrest.of_bind with ⟨z, hi, rfl⟩ | ⟨inserted, v, hi, hafter⟩
    · obtain ⟨ht, -, hyes⟩ := heard_insertNew hnone hi
      refine ⟨ht.trans hu, fun _ _ _ => ⟨z, rfl⟩, fun hall => ?_⟩
      cases (hyes ((check_outcome ..).trans (hall _ rfl))).1
    · obtain ⟨hv, hno, hyes⟩ := heard_insertNew hnone hi
      cases hm : meets (firstRow status detail now) with
      | false =>
        obtain ⟨z, hz⟩ := hno ((check_outcome ..).trans hm)
        cases hz
      | true =>
        obtain ⟨hx, hsame'⟩ := hyes ((check_outcome ..).trans hm)
        obtain rfl := Except.ok.inj hx
        rw [if_pos rfl] at hafter
        obtain ⟨rfl, rfl⟩ := hafter.of_pure
        refine ⟨hv.trans hu, fun row hrow hbad => ?_, fun _ =>
          ⟨_, rfl, rfl, fun row hrow => by rw [← Option.some.inj hrow]; rfl, hsame.trans hsame'⟩⟩
        obtain rfl := Option.some.inj hrow
        exact absurd (hm.symm.trans hbad) (by decide)

end Outcome

/-! ### Recording an event -/

namespace CloudEvent

/-- What the grammar asks of the parts of an outcome event that are not fixed. -/
def sendable (tenantId subject key : String) : Bool :=
  Identifiers.isTenantId tenantId && (1 ≤ subject.length && subject.length ≤ 255) &&
    isIdempotencyKey key

/-- A type with its registered schema. -/
structure Known (type schema : String) : Prop where
  produced : Registry.produced.lookup type = some schema
  type : (type.length ≤ 255 && isType type : Bool) = true
  schema : isAbsoluteUri schema 512 = true

section

variable {id type schema subject correlationId tenantId key : String}
  {members : List (String × Json)} {time : Instant}

/-- An event that was built is valid, of its type and from this service. -/
theorem newEvent_ok {event : CloudEvent} (hk : Known type schema)
    (h : newEvent id type subject correlationId (.obj members) (some tenantId) time (some key) =
      .ok event) :
    event.validate = .ok event ∧ event.id = id ∧ event.type = type ∧
      event.source = Registry.erpSource ∧ event.dataschema = schema := by
  unfold newEvent at h
  rw [hk.produced] at h
  obtain rfl := validate_eq h
  exact ⟨h, rfl, rfl, rfl, rfl⟩

/-- **An outcome event can be built exactly where its parts are sendable.** -/
theorem newEvent_iff (hk : Known type schema) (hid : (uuidValue id).isSome = true)
    (hcorrelation : (uuidValue correlationId).isSome = true) :
    (∃ event, newEvent id type subject correlationId (.obj members) (some tenantId) time
      (some key) = .ok event) ↔ sendable tenantId subject key = true := by
  have hsource : isAbsoluteUri Registry.erpSource 255 = true := by decide +kernel
  unfold newEvent sendable
  rw [hk.produced]
  simp only [Bool.and_eq_true (_ && _), Bool.and_eq_true (Identifiers.isTenantId tenantId)]
  constructor
  · rintro ⟨event, h⟩
    unfold validate at h
    obtain ⟨-, h⟩ := require_bind h
    obtain ⟨-, h⟩ := require_bind h
    obtain ⟨-, h⟩ := require_bind h
    obtain ⟨-, h⟩ := require_bind h
    obtain ⟨-, h⟩ := require_bind h
    obtain ⟨-, h⟩ := require_bind h
    obtain ⟨hsubject, h⟩ := require_bind h
    obtain ⟨-, h⟩ := require_bind h
    obtain ⟨-, h⟩ := require_bind h
    obtain ⟨htenant, h⟩ := require_bind h
    obtain ⟨hkey, -⟩ := require_bind h
    exact ⟨⟨htenant, hsubject⟩, hkey⟩
  · rintro ⟨⟨htenant, hsubject⟩, hkey⟩
    have hscope : (if (some tenantId).any (· != "") then "tenant" else "platform") = "tenant" := by
      rw [Option.any_some, bne_iff_ne.2 (Consequence.ne_empty_of_isTenantId htenant), if_pos rfl]
    rw [hscope]
    refine ⟨⟨id, type, Registry.erpSource, subject, time, schema, "tenant", correlationId,
      .obj members, some tenantId, none, some key, none, none⟩, ?_⟩
    unfold validate
    simp only [require, hid, hcorrelation, hk.type, hsource, hk.schema, hsubject, htenant, hkey,
      Option.all_none, Option.all_some, beq_self_eq_true, Bool.or_true, if_true, bind,
      Except.bind, pure, Except.pure, Json.obj?, Option.isSome_some]

end

end CloudEvent

/-- **A valid event of a registered type goes into the outbox exactly where no event of
its id is there.** -/
theorem recordEvent_heard {event : CloudEvent} {x : Except Exc Unit} {schema : String}
    (hvalid : event.validate = .ok event) (hk : CloudEvent.Known event.type schema)
    (hsource : event.source = Registry.erpSource) (hschema : event.dataschema = schema)
    (h : Heard D w (Outbox.recordEvent event) s x t) :
    t.2 = s.2 ∧ (s.1.cell w (.outbox event.id) ≠ none → ∃ z, x = .error z) ∧
      (s.1.cell w (.outbox event.id) = none → x = .ok () ∧
        Untouched w (.outbox event.id) s.1 t.1 ∧ t.1.cell w (.outbox event.id) ≠ none) := by
  have hregistered : some event.dataschema = Registry.dataschemaFor event.type := by
    unfold Registry.dataschemaFor
    rw [hk.produced, hschema]
    rfl
  unfold Outbox.recordEvent at h
  rw [hvalid] at h
  dsimp only at h
  have hproduced : ((Registry.produced.lookup event.type).isNone ||
      event.source != Registry.erpSource) = false := by
    rw [hk.produced, hsource, bne_self_eq_false]
    rfl
  rw [hproduced, if_neg (by decide), if_neg (not_not.2 hregistered)] at h
  rcases h.of_bind with ⟨z, hi, rfl⟩ | ⟨row, u, hi, hrest⟩
  · obtain ⟨ht, hno, hyes⟩ := heard_insert (fun _ => ⟨rfl, rfl, rfl⟩) hi
    refine ⟨ht, fun _ => ⟨z, rfl⟩, fun hnone => ?_⟩
    obtain ⟨d, hx, -⟩ := hyes hnone
    cases hx
  · obtain ⟨ht, hno, hyes⟩ := heard_insert (fun _ => ⟨rfl, rfl, rfl⟩) hi
    obtain ⟨rfl, rfl⟩ := hrest.of_pure
    refine ⟨ht, fun hsome => ?_, fun hnone => ?_⟩
    · obtain ⟨z, hz⟩ := hno hsome
      cases hz
    · obtain ⟨d, -, hsame, cell, hcell, -⟩ := hyes hnone
      exact ⟨rfl, hsame, by rw [hcell]; exact Option.some_ne_none cell⟩

/-! ### Announcing what was observed -/

namespace Outcome

/-- The revision `advance` hands out as changed, if any. -/
def nextRevision (row : Option OutcomeRow) (status : String) (detail : Detail) : Option Nat :=
  match row with
  | none => some 1
  | some row => if moves row status detail then some (row.revision + 1) else none

theorem written_revision (row : Option OutcomeRow) (status : String) (detail : Detail)
    (now : Instant) :
    (written row status detail now).map OutcomeRow.revision = nextRevision row status detail := by
  unfold written nextRevision
  cases row with
  | none => rfl
  | some row =>
    dsimp only
    split_ifs <;> rfl

/-- A row that is written meets its constraints where the revision and the facts can be
stored. -/
theorem meets_iff {row : Option OutcomeRow} {status : String} {detail : Detail} {now : Instant}
    {new : OutcomeRow} (h : written row status detail now = some new) :
    meets new = true ↔ Schema.isInteger new.revision = true ∧ detail.storable = true := by
  have hnew : 1 ≤ new.revision ∧ new.detail = detail := by
    unfold written at h
    cases row with
    | none =>
      obtain rfl := Option.some.inj h
      exact ⟨le_rfl, rfl⟩
    | some row =>
      dsimp only at h
      split_ifs at h
      obtain rfl := Option.some.inj h
      exact ⟨Nat.le_add_left 1 row.revision, rfl⟩
  unfold meets
  rw [decide_eq_true hnew.1, hnew.2, Bool.true_and, Bool.and_eq_true]

end Outcome

namespace OrderToCash

open Accounting

/-- **What an announcement leaves**: its own row, the event it sent if it sent one, and
all else as it was. -/
structure Announced (w : Worker) (own : Key) (sent : Option String) (s t : World) : Prop where
  committed : t.store.committed = s.store.committed
  cell : ∀ k, k ≠ own → (∀ i, k ≠ .index i) → (∀ id, sent = some id → k ≠ .outbox id) →
    t.cell w k = s.cell w k
  put : ∀ id, sent = some id → t.cell w (.outbox id) ≠ none

theorem Announced.of_untouched {own : Key} {s t : World} (h : Untouched w own s t) :
    Announced w own none s t :=
  ⟨h.committed, fun k hk hi _ => h.cell k hk hi, nofun⟩

theorem Announced.of_store {own : Key} {s t : World} (h : t.store = s.store) :
    Announced w own none s t :=
  .of_untouched (.of_store h)

/-- A row that was there stays, where the event was not. -/
theorem Announced.stays {own k : Key} {sent : Option String} {s t : World} {c : Cell k}
    (h : Announced w own sent s t) (hnew : ∀ id, sent = some id → s.cell w (.outbox id) = none)
    (hk : k ≠ own) (hi : ∀ i, k ≠ .index i) (hc : s.cell w k = some c) : t.cell w k = some c := by
  refine (h.cell k hk hi ?_).trans hc
  rintro id hid rfl
  rw [hnew id hid] at hc
  cases hc

/-- What a program comes to where `quiet` decides whether it raises. -/
structure Decides (quiet : Prop) (x : Except Exc Unit) (after : Prop) : Prop where
  returns : quiet → x = .ok () ∧ after
  raises : ¬ quiet → ∃ z, x = .error z

theorem Decides.of_true {quiet after : Prop} (h : quiet) (ha : after) :
    Decides quiet (.ok ()) after :=
  ⟨fun _ => ⟨rfl, ha⟩, fun hno => absurd h hno⟩

theorem Decides.of_false {quiet after : Prop} {z : Exc} (h : ¬ quiet) :
    Decides quiet (.error z) after :=
  ⟨fun hq => absurd hq h, fun _ => ⟨z, rfl⟩⟩

/-- What is announced of a revision: the id, the subject and the key of its event. -/
structure Notice where
  tenantId : String
  eventId : Nat → String
  subject : String
  key : Nat → String

/-- **A change can be recorded**: the revision and the facts can be stored, its event can
be sent, and the outbox has none of that id. -/
def Recordable (w : Worker) (s : World) (notice : Notice) (row : Option OutcomeRow) (status : String)
    (detail : Detail) : Prop :=
  ∀ revision, Outcome.nextRevision row status detail = some revision →
    Schema.isInteger revision = true ∧ detail.storable = true ∧
      CloudEvent.sendable notice.tenantId notice.subject (notice.key revision) = true ∧
      s.cell w (.outbox (notice.eventId revision)) = none

/-- The event a change is recorded with. -/
def Notice.sent (notice : Notice) (row : Option OutcomeRow) (status : String) (detail : Detail) :
    Option String :=
  (Outcome.nextRevision row status detail).map notice.eventId

/-- The end of an announcement: the outcome is advanced, and a change is recorded. -/
def announceChange (tenantId : String) (type : DocumentType) (documentId status : String)
    (detail : Detail) (event : Outcome.Advanced → Instant → Except String CloudEvent) :
    Program Unit := do
  let now ← Call.now
  let step ← Outcome.advance tenantId type documentId status detail now
  if step.changed then recordEvent (event step now)

/-- The events of a document are those of a notice. -/
structure Announces (schema : String) (notice : Notice)
    (event : Outcome.Advanced → Instant → Except String CloudEvent) : Prop where
  built : ∀ step now, (∃ e, event step now = .ok e) ↔
    CloudEvent.sendable notice.tenantId notice.subject (notice.key step.revision) = true
  valid : ∀ step now e, event step now = .ok e → e.validate = .ok e ∧
    CloudEvent.Known e.type schema ∧ e.source = Registry.erpSource ∧ e.dataschema = schema ∧
      e.id = notice.eventId step.revision

variable {tenantId documentId status schema : String} {type : DocumentType} {detail : Detail}
  {notice : Notice} {event : Outcome.Advanced → Instant → Except String CloudEvent}

/-- **An announcement ends well exactly where its change can be recorded.** -/
theorem announceChange_heard {x : Except Exc Unit} (ha : Announces schema notice event)
    (h : Heard D w (announceChange tenantId type documentId status detail event) s x t) :
    Decides (Recordable w s.1 notice (Outcome.found w s.1 tenantId type documentId) status detail)
      x (t.2 = s.2 ∧ Announced w (.outcome tenantId type documentId)
        (notice.sent (Outcome.found w s.1 tenantId type documentId) status detail) s.1 t.1) := by
  unfold announceChange at h
  rcases h.of_bind with ⟨z, hn, rfl⟩ | ⟨now, u, hn, h₁⟩
  · obtain ⟨-, _, hx⟩ := heard_now hn
    cases hx
  obtain ⟨rfl, -⟩ := heard_now hn
  unfold Notice.sent
  have hrevision := Outcome.written_revision
    (Outcome.found w u.1 tenantId type documentId) status detail now
  rcases h₁.of_bind with ⟨z, hadv, rfl⟩ | ⟨step, v, hadv, h₂⟩
  · -- the row could not be written
    have hsettled := (Outcome.advance_heard hadv).2
    refine .of_false fun hrec => ?_
    obtain ⟨step, hx, -⟩ := hsettled.answered fun row hrow => by
      rw [hrow, Option.map_some] at hrevision
      obtain ⟨hint, hstorable, -⟩ := hrec _ hrevision.symm
      exact (Outcome.meets_iff hrow).2 ⟨hint, hstorable⟩
    cases hx
  · obtain ⟨hreplies, hsettled⟩ := Outcome.advance_heard hadv
    rw [← hrevision]
    cases hw : Outcome.written (Outcome.found w u.1 tenantId type documentId) status detail now with
    | none =>
      rw [hw] at hsettled hrevision
      obtain ⟨step', hx, hchanged, -, hsame⟩ := hsettled.answered nofun
      obtain rfl := Except.ok.inj hx
      rw [hchanged] at h₂
      obtain ⟨rfl, rfl⟩ := Prog.Alone.of_ret h₂
      exact .of_true (fun revision hr => nomatch hrevision.trans hr) ⟨hreplies, .of_untouched hsame⟩
    | some row =>
      rw [hw] at hsettled hrevision
      have hmeets : Outcome.meets row = true := by
        by_contra hbad
        obtain ⟨z, hz⟩ := hsettled.raised row rfl (Bool.eq_false_iff.2 hbad)
        cases hz
      obtain ⟨step', hx, hchanged, hstep, hsame⟩ := hsettled.answered fun row' hr => by
        rw [← Option.some.inj hr]
        exact hmeets
      obtain rfl := Except.ok.inj hx
      rw [hchanged] at h₂
      have hone : Recordable w u.1 notice (Outcome.found w u.1 tenantId type documentId) status
          detail ↔ CloudEvent.sendable notice.tenantId notice.subject (notice.key row.revision) =
            true ∧ u.1.cell w (.outbox (notice.eventId row.revision)) = none := by
        obtain ⟨hint, hstorable⟩ := (Outcome.meets_iff hw).1 hmeets
        refine ⟨fun hrec => (hrec _ hrevision.symm).2.2, fun hrest revision hr => ?_⟩
        obtain rfl := Option.some.inj (hrevision.trans hr)
        exact ⟨hint, hstorable, hrest⟩
      rw [hone]
      have h₃ : Heard D w (recordEvent (event step now)) v x t := h₂
      have hsent := ha.built step now
      rw [hstep row rfl] at hsent
      unfold recordEvent at h₃
      cases he : event step now with
      | error message =>
        rw [he] at h₃ hsent
        obtain ⟨rfl, -⟩ := h₃.of_throw
        refine .of_false fun hok => ?_
        obtain ⟨e, hbuilt⟩ := hsent.2 hok.1
        cases hbuilt
      | ok e =>
        rw [he] at h₃ hsent
        obtain ⟨hvalid, hknown, hsource, hschema, hid⟩ := ha.valid step now e he
        obtain ⟨hreplies', hno, hyes⟩ := recordEvent_heard hvalid hknown hsource hschema h₃
        have hcell : v.1.cell w (.outbox e.id) = u.1.cell w (.outbox e.id) :=
          hsame.cell _ (fun h => by cases h) fun _ h => by cases h
        rw [hcell] at hno hyes
        rw [hstep row rfl] at hid
        rw [← hid]
        refine ⟨fun hok => ?_, fun hbad => hno fun hnone => hbad ⟨hsent.1 ⟨e, rfl⟩, hnone⟩⟩
        obtain ⟨hx, hafter, hput⟩ := hyes hok.2
        refine ⟨hx, hreplies'.trans hreplies, hafter.committed.trans hsame.committed,
          fun k hk hi hevent => ?_, fun id heq => ?_⟩
        · have hne : k ≠ .outbox e.id := hevent e.id (by rw [hid]; rfl)
          exact (hafter.cell k hne hi).trans (hsame.cell k hk hi)
        · obtain rfl : e.id = id := hid.trans (Option.some.inj heq)
          exact hput

/-! ### Payments and invoices -/

/-- What was observed, with `AccountingFactError` caught. -/
def observedOf {α : Type} (x : Except Exc α) (status : α → Option String) :
    Except Exc (Option (α × String)) :=
  match x with
  | .ok facts => .ok ((status facts).map fun status => (facts, status))
  | .error z => if z = factError then .ok none else .error z

theorem observed_heard {α : Type} {read : Program α} {status : α → Option String}
    {x : Except Exc (Option (α × String))} {y : Except Exc α} {left : World × List Reply → Prop}
    (hread : ∀ z u, Heard D w read s z u → z = y ∧ left u)
    (h : Heard D w (observed read status) s x t) : x = observedOf y status ∧ left t := by
  unfold observed at h
  rw [Prog.tryCatch_eq] at h
  obtain ⟨r, u, hbody, hcatch⟩ := Prog.Alone.handle_iff.1 h
  unfold observedOf
  rcases hbody.of_bind with ⟨z, hz, rfl⟩ | ⟨facts, v, hf, hrest⟩
  · obtain ⟨rfl, hstore⟩ := hread _ _ hz
    dsimp only at hcatch ⊢
    by_cases hz : z = factError
    · rw [if_pos hz] at hcatch ⊢
      obtain ⟨rfl, rfl⟩ := Prog.Alone.of_ret hcatch
      exact ⟨rfl, hstore⟩
    · rw [if_neg hz] at hcatch ⊢
      obtain ⟨rfl, rfl⟩ := Prog.Alone.of_ret hcatch
      exact ⟨rfl, hstore⟩
  · obtain ⟨rfl, hstore⟩ := hread _ _ hf
    dsimp only
    cases hs : status facts with
    | some st =>
      rw [hs] at hrest
      obtain ⟨rfl, rfl⟩ := hrest.of_pure
      obtain ⟨rfl, rfl⟩ := Prog.Alone.of_ret hcatch
      exact ⟨rfl, hstore⟩
    | none =>
      rw [hs] at hrest
      obtain ⟨rfl, rfl⟩ := hrest.of_throw
      dsimp only at hcatch
      rw [if_pos rfl] at hcatch
      obtain ⟨rfl, rfl⟩ := Prog.Alone.of_ret hcatch
      exact ⟨rfl, hstore⟩

variable {S : Service} {r : Request}

/-- The events of a payment. -/
def paymentNotice (S : Service) (r : Request) (paymentId : String) : Notice where
  tenantId := r.scope.tenantId
  eventId := Accounting.eventId S.platform.hashes "payment" r.scope.tenantId paymentId
  subject := "payment:" ++ paymentId
  key revision := "erp-payment-" ++ paymentId ++ "-r" ++ toString revision

/-- The events of an invoice, by its public id. -/
def invoiceNotice (S : Service) (r : Request) (publicId : String) : Notice where
  tenantId := r.scope.tenantId
  eventId := Accounting.eventId S.platform.hashes "invoice" r.scope.tenantId publicId
  subject := "invoice:" ++ publicId
  key revision := "erp-invoice-" ++ publicId ++ "-r" ++ toString revision

theorem payment_known :
    CloudEvent.Known paymentEvent (Registry.erpSchema "payment-outcome") := by
  refine ⟨?_, ?_, ?_⟩ <;> decide +kernel

theorem invoice_known :
    CloudEvent.Known invoiceEvent (Registry.erpSchema "invoice-outcome") := by
  refine ⟨?_, ?_, ?_⟩ <;> decide +kernel

theorem payment_announces
    (hH : ∀ ns name, (uuidValue (S.platform.hashes.uuid5 ns name)).isSome = true)
    (paymentId publicId : String) (invoiceId : Option String) (facts : PaymentFacts)
    (status : String) :
    Announces (Registry.erpSchema "payment-outcome") (paymentNotice S r paymentId) fun step now =>
      paymentAccountingEvent S.platform.hashes r.scope.tenantId r.scope.legalEntityId paymentId
        publicId invoiceId facts status step.revision now r.correlationId where
  built _ _ := CloudEvent.newEvent_iff payment_known (hH _ _)
    (Consequence.correlation_uuid hH _ _ _)
  valid step now e he := by
    obtain ⟨hvalid, hid, htype, hsource, hschema⟩ := CloudEvent.newEvent_ok payment_known he
    exact ⟨hvalid, by rw [htype]; exact payment_known, hsource, hschema, hid⟩

theorem invoice_announces
    (hH : ∀ ns name, (uuidValue (S.platform.hashes.uuid5 ns name)).isSome = true)
    (publicId orderId : String) (facts : InvoiceFacts) (status : String) :
    Announces (Registry.erpSchema "invoice-outcome") (invoiceNotice S r publicId) fun step now =>
      invoiceChangedEvent S.platform.hashes r.scope.tenantId r.scope.legalEntityId publicId orderId
        facts status step.firstSeenAt step.revision now r.correlationId where
  built _ _ := CloudEvent.newEvent_iff invoice_known (hH _ _)
    (Consequence.correlation_uuid hH _ _ _)
  valid step now e he := by
    obtain ⟨hvalid, hid, htype, hsource, hschema⟩ := CloudEvent.newEvent_ok invoice_known he
    exact ⟨hvalid, by rw [htype]; exact invoice_known, hsource, hschema, hid⟩

end OrderToCash

end

end BaobabErp
