/-
# Passes that overlap

Passes that run at one time share the table and nothing else: each reads the due records,
and marks them one by one by statements that do not look at the row.  **Delivered and
dead-lettered rows stay so as long as no pass reads a record that another one has in hand**
(`ended_rows_stay`); two passes that have the same record undo each other's marks.
-/

import BaobabErp.Outbox.Sequential

namespace BaobabErp
namespace Outbox
namespace Overlap

open Python

/-! ### The machine -/

/-- Where a pass stands. -/
inductive Stage
  /-- It has not read yet, or has ended. -/
  | idle
  /-- At the top of the loop, with those records to come. -/
  | turns (rest : List Record)
  /-- After a check and a delivery, before the statement that marks the row. -/
  | marking (one : Handling) (rest : List Record)

/-- The records a pass has in hand. -/
def Stage.hand : Stage → List String
  | idle => []
  | turns rest => rest.map (·.name)
  | marking one rest => one.record.name :: rest.map (·.name)

/-- **The table and the passes over it**, of which there may be any number. -/
structure State where
  table : Table
  stage : Nat → Stage

/-- What happens next, and in which pass. -/
inductive Action
  | recorded (r : Recording)
  | read (pass : Nat) (s : Selection)
  | handle (pass : Nat) (t : Turn)
  | mark (pass : Nat) (now : Instant)
  /-- The pass ends, or its process dies. -/
  | stop (pass : Nat)

namespace State

/-- The pass goes to another stage. -/
def setStage (w : State) (pass : Nat) (stage : Stage) : State :=
  { w with stage := Function.update w.stage pass stage }

/-- **One step**; `policy` says which policy each pass has. -/
def step (policy : Nat → RetryPolicy) (w : State) : Action → State
  | .recorded r => { w with table := w.table.recordEvent r }
  | .read p s =>
    match w.stage p with
    | .idle => w.setStage p (.turns (w.table.pending s))
    | _ => w
  | .handle p t =>
    match w.stage p with
    | .turns (r :: rest) => w.setStage p (.marking ((policy p).handle r t) rest)
    | _ => w
  | .mark p now =>
    match w.stage p with
    | .marking one rest =>
      { w with table := w.table.mark one.record.name now one.mark }.setStage p (.turns rest)
    | _ => w
  | .stop p => w.setStage p .idle

/-- A run. -/
def run (policy : Nat → RetryPolicy) (actions : List Action) (w : State) : State :=
  actions.foldl (step policy) w

end State

/-- **The condition on a step**: a pass reads no record that another pass has in hand. -/
def Exclusive (w : State) : Action → Prop
  | .read p s => ∀ r ∈ w.table.pending s, ∀ q, q ≠ p → r.name ∉ (w.stage q).hand
  | _ => True

/-- Every step of the run meets it. -/
def ExclusiveAlong (policy : Nat → RetryPolicy) : List Action → State → Prop
  | [], _ => True
  | a :: actions, w => Exclusive w a ∧ ExclusiveAlong policy actions (w.step policy a)

/-- **Ended rows stay**: what is delivered or dead-lettered is the same row later, and is in
no list of due records. -/
def EndedStay (w later : State) : Prop :=
  ∀ name row, w.table.row name = some row → row.status = .delivered ∨ row.status = .deadLetter →
    later.table.row name = some row ∧ ∀ s, name ∉ (later.table.pending s).map (·.name)

/-! ### What the condition keeps -/

/-- The row is there, and open. -/
def Open (t : Table) (name : String) : Prop :=
  ∃ row, t.row name = some row ∧ (row.status = .pending ∨ row.status = .retry)

/-- **No record is in two hands**, and what is in hand is open. -/
structure Apart (w : State) : Prop where
  once : ∀ p, (w.stage p).hand.Nodup
  apart : ∀ p q, p ≠ q → ∀ name ∈ (w.stage p).hand, name ∉ (w.stage q).hand
  opened : ∀ p, ∀ name ∈ (w.stage p).hand, Open w.table name

theorem Open.not_ended {t : Table} {name : String} (h : Open t name) {row : OutboxRow}
    (hrow : t.row name = some row) : ¬ (row.status = .delivered ∨ row.status = .deadLetter) := by
  obtain ⟨row', hrow', hopen⟩ := h
  obtain rfl := Option.some.inj (hrow.symm.trans hrow')
  rintro (hended | hended) <;> rw [hended] at hopen <;> simp at hopen

theorem open_of_mem_pending {t : Table} {s : Selection} {name : String}
    (h : name ∈ (t.pending s).map (·.name)) : Open t name := by
  obtain ⟨r, hr, rfl⟩ := List.mem_map.1 h
  obtain ⟨row, hrow, -, -, hopen⟩ := holds_of_mem_pending hr
  exact ⟨row, hrow, hopen⟩

theorem Open.recordEvent {t : Table} {name : String} (h : Open t name) (r : Recording) :
    Open (t.recordEvent r) name := by
  obtain ⟨row, hrow, hopen⟩ := h
  exact ⟨row, row_recordEvents hrow [r], hopen⟩

section Step

variable {policy : Nat → RetryPolicy} {w : State}

/-- A pass whose hand gets smaller. -/
theorem Apart.shrink (h : Apart w) {p : Nat} {stage : Stage} (hsub : stage.hand.Sublist (w.stage p).hand) :
    Apart (w.setStage p stage) := by
  have hhand : ∀ q, ((w.setStage p stage).stage q).hand.Sublist (w.stage q).hand := by
    intro q
    unfold State.setStage
    by_cases hq : q = p
    · subst hq
      dsimp only
      rw [Function.update_self]
      exact hsub
    · dsimp only
      rw [Function.update_of_ne hq]
  constructor
  · exact fun q => (hhand q).nodup (h.once q)
  · intro q q' hne name hname hname'
    exact h.apart q q' hne name ((hhand q).subset hname) ((hhand q').subset hname')
  · exact fun q name hname => h.opened q name ((hhand q).subset hname)

/-- A pass that reads what no other has in hand. -/
theorem Apart.read (h : Apart w) {p : Nat} {s : Selection} (hx : Exclusive w (.read p s)) :
    Apart (w.setStage p (.turns (w.table.pending s))) := by
  have hhand : ∀ q, ((w.setStage p (.turns (w.table.pending s))).stage q).hand =
      if q = p then (w.table.pending s).map (·.name) else (w.stage q).hand := by
    intro q
    unfold State.setStage
    by_cases hq : q = p
    · subst hq
      dsimp only
      rw [Function.update_self, if_pos rfl]
      rfl
    · dsimp only
      rw [Function.update_of_ne hq, if_neg hq]
  have hfree : ∀ q, q ≠ p → ∀ name ∈ (w.table.pending s).map (·.name), name ∉ (w.stage q).hand := by
    intro q hq name hname
    obtain ⟨r, hr, rfl⟩ := List.mem_map.1 hname
    exact hx r hr q hq
  constructor
  · intro q
    rw [hhand]
    split
    · exact pending_nodup _ _
    · exact h.once q
  · intro q q' hne name hname hname'
    rw [hhand] at hname hname'
    split_ifs at hname hname' with hq hq'
    · exact hne (hq.trans hq'.symm)
    · exact hfree q' hq' name hname hname'
    · exact hfree q hq name hname' hname
    · exact h.apart q q' hne name hname hname'
  · intro q name hname
    rw [hhand] at hname
    split_ifs at hname
    · exact open_of_mem_pending hname
    · exact h.opened q name hname

/-- A pass that marks the record it has in hand. -/
theorem Apart.mark (h : Apart w) {p : Nat} {one : Handling} {rest : List Record}
    (hstage : w.stage p = .marking one rest) (now : Instant) :
    Apart ({ w with table := w.table.mark one.record.name now one.mark }.setStage p (.turns rest)) := by
  have hmem : one.record.name ∈ (w.stage p).hand := by
    rw [hstage]
    exact List.mem_cons_self
  have hnodup := h.once p
  rw [hstage] at hnodup
  have hshrunk : Apart (w.setStage p (.turns rest)) := by
    refine h.shrink ?_
    rw [hstage]
    exact List.sublist_cons_self ..
  refine ⟨hshrunk.once, hshrunk.apart, fun q name hname => ?_⟩
  obtain ⟨row, hrow, hopen⟩ := hshrunk.opened q name hname
  have hne : name ≠ one.record.name := by
    rintro rfl
    unfold State.setStage at hname
    by_cases hq : q = p
    · subst hq
      dsimp only at hname
      rw [Function.update_self] at hname
      exact (List.nodup_cons.1 hnodup).1 hname
    · dsimp only at hname
      rw [Function.update_of_ne hq] at hname
      exact h.apart p q (Ne.symm hq) _ hmem hname
  refine ⟨row, ?_, hopen⟩
  change (w.table.mark one.record.name now one.mark).row name = some row
  rw [Table.row_mark, if_neg hne]
  exact hrow

/-- **Every step keeps the hands apart.** -/
theorem Apart.step (h : Apart w) {a : Action} (hx : Exclusive w a) : Apart (w.step policy a) := by
  cases a with
  | recorded r => exact ⟨h.once, h.apart, fun p name hname => (h.opened p name hname).recordEvent r⟩
  | read p s =>
    unfold State.step
    dsimp only
    cases w.stage p with
    | idle => exact h.read hx
    | turns rest => exact h
    | marking one rest => exact h
  | handle p t =>
    unfold State.step
    dsimp only
    cases hstage : w.stage p with
    | idle => exact h
    | marking one rest => exact h
    | turns rest =>
      cases rest with
      | nil => exact h
      | cons r rest =>
        refine h.shrink ?_
        have hhand : (Stage.marking ((policy p).handle r t) rest).hand = (w.stage p).hand := by
          rw [hstage]
          exact congrArg (fun one : Record => one.name :: rest.map (·.name))
            (turned_handle (policy p) r t).record
        rw [hhand]
  | mark p now =>
    unfold State.step
    dsimp only
    cases hstage : w.stage p with
    | idle => exact h
    | turns rest => exact h
    | marking one rest => exact h.mark hstage now
  | stop p =>
    refine h.shrink ?_
    exact List.nil_sublist _

/-- **A step leaves ended rows as they are**: what a pass marks is open. -/
theorem Apart.ended_step (h : Apart w) {name : String} {row : OutboxRow}
    (hrow : w.table.row name = some row) (hended : row.status = .delivered ∨ row.status = .deadLetter)
    (a : Action) : (w.step policy a).table.row name = some row := by
  cases a with
  | recorded r => exact row_recordEvents hrow [r]
  | stop p => exact hrow
  | read p s =>
    unfold State.step
    dsimp only
    split <;> exact hrow
  | handle p t =>
    unfold State.step
    dsimp only
    split <;> exact hrow
  | mark p now =>
    unfold State.step
    dsimp only
    split
    · next one rest hstage =>
      have hne : name ≠ one.record.name := by
        rintro rfl
        have hmem : one.record.name ∈ (w.stage p).hand := by
          rw [hstage]
          exact List.mem_cons_self
        exact (h.opened p _ hmem).not_ended hrow hended
      change (w.table.mark one.record.name now one.mark).row name = some row
      rw [Table.row_mark, if_neg hne]
      exact hrow
    · exact hrow

end Step

/-! ### Runs -/

section Run

variable {policy : Nat → RetryPolicy} {w : State}

theorem Apart.run (h : Apart w) {actions : List Action} (hx : ExclusiveAlong policy actions w) :
    Apart (w.run policy actions) := by
  induction actions generalizing w with
  | nil => exact h
  | cons a actions ih => exact ih (h.step hx.1) hx.2

theorem Apart.ended_run (h : Apart w) {actions : List Action}
    (hx : ExclusiveAlong policy actions w) : EndedStay w (w.run policy actions) := by
  intro name row hrow hended
  have hlater : (w.run policy actions).table.row name = some row := by
    induction actions generalizing w with
    | nil => exact hrow
    | cons a actions ih => exact ih (h.step hx.1) hx.2 (h.ended_step hrow hended a)
  refine ⟨hlater, fun s hmem => ?_⟩
  exact (open_of_mem_pending hmem).not_ended hlater hended

theorem exclusiveAlong_append {before later : List Action} :
    ExclusiveAlong policy (before ++ later) w ↔
      ExclusiveAlong policy before w ∧ ExclusiveAlong policy later (w.run policy before) := by
  induction before generalizing w with
  | nil => exact iff_of_eq (true_and _).symm
  | cons a before ih => exact (and_congr_right fun _ => ih).trans and_assoc.symm

/-- **Delivered and dead-lettered rows stay so** in every run of overlapping passes in which
no pass reads a record that another one has in hand. -/
theorem ended_rows_stay (policy : Nat → RetryPolicy) (t : Table) (before later : List Action)
    (hx : ExclusiveAlong policy (before ++ later) ⟨t, fun _ => .idle⟩) :
    EndedStay (State.run policy before ⟨t, fun _ => .idle⟩)
      (State.run policy (before ++ later) ⟨t, fun _ => .idle⟩) := by
  have hstart : Apart ⟨t, fun _ => .idle⟩ := by
    refine ⟨fun _ => List.nodup_nil, fun _ _ _ name hname => ?_, fun _ name hname => ?_⟩
    all_goals exact absurd hname List.not_mem_nil
  obtain ⟨hbefore, hlater⟩ := exclusiveAlong_append.1 hx
  have hrun : State.run policy (before ++ later) ⟨t, fun _ => .idle⟩ =
      State.run policy later (State.run policy before ⟨t, fun _ => .idle⟩) := List.foldl_append ..
  rw [hrun]
  exact (hstart.run hbefore).ended_run hlater

end Run

/-! ### Two runs -/

/-- One event, due. -/
def oneEvent : Table := Table.recordEvent ⟨[], List.nodup_nil⟩ ⟨"e", orderEvent, 0⟩

/-- Nothing is under way. -/
def atRest : State := ⟨oneEvent, fun _ => .idle⟩

/-- A delivery that ends so. -/
def delivery (d : Delivery) : Turn := ⟨seconds 1, d, seconds 1, seconds 1, []⟩

/-- A pass after a pass: the event is delivered, and stays delivered. -/
theorem ended_rows_stay_in_turn :
    EndedStay
      (State.run (fun _ => {}) [.read 0 { now := seconds 1 }, .handle 0 (delivery .accepted),
        .mark 0 (seconds 1)] atRest)
      (State.run (fun _ => {}) ([.read 0 { now := seconds 1 }, .handle 0 (delivery .accepted),
        .mark 0 (seconds 1)] ++ [.read 1 { now := seconds 2 }]) atRest) := by
  refine ended_rows_stay _ oneEvent _ _ ⟨?_, True.intro, True.intro, ?_, True.intro⟩
  · intro r _ q _
    exact List.not_mem_nil
  · intro r hr
    exact absurd hr List.not_mem_nil

/-- **Two passes with one record**: the first delivers the event, the second fails to and
marks it for a retry, so that a later pass reads it again. -/
theorem delivered_event_is_retried :
    ¬ EndedStay
      (State.run (fun _ => {}) [.read 0 { now := seconds 1 }, .read 1 { now := seconds 1 },
        .handle 0 (delivery .accepted), .mark 0 (seconds 1)] atRest)
      (State.run (fun _ => {}) ([.read 0 { now := seconds 1 }, .read 1 { now := seconds 1 },
        .handle 0 (delivery .accepted), .mark 0 (seconds 1)] ++
        [.handle 1 (delivery (.failed "timeout")), .mark 1 (seconds 1)]) atRest) := by
  intro h
  obtain ⟨-, hread⟩ := h "e" { oneEvent.row "e" |>.get (by decide) with
    status := .delivered, deliveredAt := some (seconds 1), nextAttemptAt := none } rfl (.inl rfl)
  exact hread { now := seconds 10 } (by decide)

end Overlap
end Outbox
end BaobabErp
