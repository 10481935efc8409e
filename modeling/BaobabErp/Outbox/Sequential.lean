/-
# Passes that run one after another

A row goes through a life of its own: it is recorded, and each pass that takes it adds one
handling and sets the row by it (`Life`).  Everything that is promised of a record is a
fact about its life; that every row of the table lives one is what the loop of
`dispatch_pending` keeps (`Kept.dispatchRecords`).
-/

import BaobabErp.Outbox.Dispatch

namespace BaobabErp
namespace Outbox

open Python

/-! ### Rows of the table -/

theorem Table.row_recordEvent (t : Table) (r : Recording) (name : String) :
    (t.recordEvent r).row name = t.row name ∨
      t.row name = none ∧ (t.recordEvent r).row name = some r.row := by
  unfold Table.recordEvent Table.row
  split
  · exact .inl rfl
  · dsimp only
    rw [List.lookup_append]
    cases h : t.rows.lookup name with
    | some row => exact .inl rfl
    | none =>
      rw [Option.none_or]
      by_cases hname : name = r.eventId
      · subst hname
        exact .inr ⟨rfl, List.lookup_cons_self⟩
      · refine .inl (List.lookup_eq_none_iff.2 fun p hp => ?_)
        rw [List.mem_singleton.1 hp]
        simpa using hname

theorem Table.row_mark (t : Table) (n : String) (now : Instant) (m : Mark) (name : String) :
    (t.mark n now m).row name =
      if name = n then (t.row name).map (m.update now) else t.row name := by
  unfold Table.mark Table.row
  dsimp only
  induction t.rows with
  | nil => simp
  | cons p rows ih =>
    by_cases hp : name = p.1
    · subst hp
      rw [List.map_cons, List.lookup_cons_self, List.lookup_cons_self]
      split <;> rfl
    · have hne : (name == p.1) = false := by simp [hp]
      rw [List.map_cons, List.lookup_cons, List.lookup_cons, hne]
      exact ih

/-- The table has the row of the record as the record has it, and the row is open. -/
def Holds (t : Table) (r : Record) : Prop :=
  ∃ row, t.row r.name = some row ∧ row.attempts = r.attempts ∧ row.createdAt = r.createdAt ∧
    (row.status = .pending ∨ row.status = .retry)

theorem Table.row_of_mem {t : Table} {name : String} {row : OutboxRow} (h : (name, row) ∈ t.rows) :
    t.row name = some row := by
  obtain ⟨before, after, hsplit⟩ := List.append_of_mem h
  refine List.lookup_eq_some_iff.2 ⟨before, after, hsplit, fun p hp => ?_⟩
  have hunique := t.unique
  rw [hsplit, List.map_append, List.map_cons] at hunique
  have hnot := (List.nodup_append.1 hunique).2.2 p.1 (List.mem_map_of_mem hp) name List.mem_cons_self
  simpa using hnot.symm

/-- What `pending` returns is in the table, and open. -/
theorem holds_of_mem_pending {t : Table} {s : Selection} {r : Record} (h : r ∈ t.pending s) :
    Holds t r := by
  have hdue := (List.mem_insertionSort _).1 (List.mem_of_mem_take h)
  obtain ⟨⟨name, row⟩, hmem, hr⟩ := List.mem_filterMap.1 hdue
  obtain ⟨e, hselects, rfl⟩ := Option.map_eq_some_iff.1 hr
  refine ⟨row, Table.row_of_mem hmem, rfl, rfl, ?_⟩
  unfold Selection.selects at hselects
  split at hselects
  · cases hselects
  · split_ifs at hselects with hopen
    exact hopen.1

/-- No record is returned twice. -/
theorem pending_nodup (t : Table) (s : Selection) : ((t.pending s).map (·.name)).Nodup := by
  have hsub : ∀ rows : List (String × OutboxRow), ((rows.filterMap fun p =>
      (s.selects p.2).map fun event => (⟨p.1, p.2.attempts, event, p.2.createdAt⟩ : Record)).map
        (·.name)).Sublist (rows.map Prod.fst) := by
    intro rows
    induction rows with
    | nil => exact .slnil
    | cons p rows ih =>
      obtain ⟨name, row⟩ := p
      rw [List.filterMap_cons, List.map_cons]
      dsimp only
      cases s.selects row with
      | none => exact ih.cons name
      | some e => exact ih.cons_cons name
  have hdue := (hsub t.rows).nodup t.unique
  exact ((List.take_sublist ..).map _).nodup
    ((((List.perm_insertionSort _ _).map _).nodup_iff).2 hdue)

/-! ### The life of a row -/

/-- The delivery call was made, and raised. -/
def Handling.failed (h : Handling) : Bool := h.delivery.any Delivery.raised

/-- **What a turn can do with a record.** -/
inductive Turned (policy : RetryPolicy) (r : Record) (t : Turn) : Handling → Prop
  | overdue (h : policy.overdue r t.checkedAt = true) (error : String) :
      Turned policy r t ⟨r, t.checkedAt, none, .deadLetter r.attempts error⟩
  | accepted (h : policy.overdue r t.checkedAt = false) :
      Turned policy r t ⟨r, t.checkedAt, some .accepted, .delivered⟩
  | refused (h : policy.overdue r t.checkedAt = false) (error : String) :
      Turned policy r t ⟨r, t.checkedAt, some (.refused error), .deadLetter (r.attempts + 1) error⟩
  | exhausted (h : policy.overdue r t.checkedAt = false) (error : String) :
      Turned policy r t ⟨r, t.checkedAt, some (.failed error), .deadLetter (r.attempts + 1) error⟩
  | retried (h : policy.overdue r t.checkedAt = false) (error : String)
      (hmore : policy.exhausted (r.attempts + 1) r.createdAt t.failedAt = false) (delaySeconds : Nat) :
      Turned policy r t
        ⟨r, t.checkedAt, some (.failed error), .retry (r.attempts + 1) error delaySeconds⟩

theorem turned_handle (policy : RetryPolicy) (r : Record) (t : Turn) :
    Turned policy r t (policy.handle r t) := by
  unfold RetryPolicy.handle
  split
  · next hoverdue => exact .overdue hoverdue _
  · next hoverdue =>
    have hnot := Bool.eq_false_iff.2 hoverdue
    cases t.delivery with
    | accepted => exact .accepted hnot
    | refused error => exact .refused hnot error
    | failed error =>
      unfold RetryPolicy.verdict
      dsimp only
      split
      · exact .exhausted hnot error
      · next hmore => exact .retried hnot error (Bool.eq_false_iff.2 hmore) _

/-- **A row and what was done with it**, from the recording on. -/
inductive Life (policy : RetryPolicy) : OutboxRow → List Handling → Prop
  | recorded (r : Recording) : Life policy r.row []
  | handled {row : OutboxRow} {hs : List Handling} (h : Life policy row hs)
      (hopen : row.status = .pending ∨ row.status = .retry) {r : Record}
      (hattempts : row.attempts = r.attempts) (hcreated : row.createdAt = r.createdAt) {t : Turn}
      {one : Handling} (hone : Turned policy r t one) :
      Life policy (one.mark.update t.markedAt row) (hs ++ [one])

@[simp] theorem Mark.update_status (m : Mark) (now : Instant) (row : OutboxRow) :
    (m.update now row).status = m.status := by cases m <;> rfl

@[simp] theorem Mark.update_createdAt (m : Mark) (now : Instant) (row : OutboxRow) :
    (m.update now row).createdAt = row.createdAt := by cases m <;> rfl

theorem Mark.status_ne_pending (m : Mark) : m.status ≠ .pending := by cases m <;> nofun

section Turned

variable {policy : RetryPolicy} {r : Record} {t : Turn} {one : Handling}

/-- A turn counts the delivery that raised, and nothing else. -/
theorem Turned.attempts (h : Turned policy r t one) {row : OutboxRow}
    (hattempts : row.attempts = r.attempts) (now : Instant) :
    (one.mark.update now row).attempts = row.attempts + if one.failed then 1 else 0 := by
  cases h with
  | overdue => exact hattempts.symm
  | accepted => rfl
  | refused | exhausted | retried => exact congrArg (· + 1) hattempts.symm

/-- A turn leaves a row open only after a failed delivery, and with attempts left. -/
theorem Turned.retry (h : Turned policy r t one) (hretry : one.mark.status = .retry) :
    one.failed = true ∧ ∀ max, policy.maxAttempts = some max → r.attempts + 1 < max := by
  cases h with
  | overdue | accepted | refused | exhausted => cases hretry
  | retried _ error hmore _ =>
    refine ⟨rfl, fun max hmax => ?_⟩
    unfold RetryPolicy.exhausted at hmore
    rw [hmax] at hmore
    simp at hmore
    omega

/-- Past the horizon, only what was never attempted is delivered. -/
theorem Turned.elapsed (h : Turned policy r t one) (hmade : one.delivery.isSome)
    (helapsed : policy.elapsed r.createdAt one.checkedAt = true) : r.attempts = 0 := by
  have hoverdue : policy.overdue r t.checkedAt = false := by
    cases h with
    | overdue => cases hmade
    | accepted h | refused h | exhausted h | retried h => exact h
  have hchecked : one.checkedAt = t.checkedAt := by cases h <;> rfl
  unfold RetryPolicy.overdue at hoverdue
  rw [← hchecked, helapsed, Bool.and_true] at hoverdue
  have hattempted := of_decide_eq_false hoverdue
  omega

end Turned

section Life

variable {policy : RetryPolicy} {row : OutboxRow} {hs : List Handling}

/-- The attempts are the deliveries that failed. -/
theorem Life.attempts (h : Life policy row hs) : row.attempts = hs.countP Handling.failed := by
  induction h with
  | recorded r => rfl
  | handled h hopen hattempts hcreated hone ih =>
    rw [hone.attempts hattempts, List.countP_append, ← ih, List.countP_singleton]

/-- The status is what was marked last. -/
theorem Life.status (h : Life policy row hs) :
    row.status = (hs.getLast?.map (·.mark.status)).getD .pending := by
  cases h with
  | recorded r => rfl
  | handled h hopen hattempts hcreated hone =>
    rw [Mark.update_status, List.getLast?_concat]
    rfl

/-- While a row is open, every handling was a failed delivery. -/
theorem Life.attempts_open (h : Life policy row hs) (hopen : row.status = .pending ∨ row.status = .retry) :
    row.attempts = hs.length := by
  induction h with
  | recorded r => rfl
  | handled h hbefore hattempts hcreated hone ih =>
    rw [Mark.update_status] at hopen
    obtain ⟨hfailed, -⟩ := hone.retry (hopen.resolve_left (Mark.status_ne_pending _))
    rw [hone.attempts hattempts, hfailed, ih hbefore, List.length_append]
    rfl

/-- While a row is open, it has attempts left. -/
theorem Life.lt_max (h : Life policy row hs) {max : Nat} (hmax : policy.maxAttempts = some max)
    (hpos : 1 ≤ max) (hopen : row.status = .pending ∨ row.status = .retry) : row.attempts < max := by
  cases h with
  | recorded r => exact hpos
  | handled h hbefore hattempts hcreated hone =>
    rw [Mark.update_status] at hopen
    obtain ⟨hfailed, hlt⟩ := hone.retry (hopen.resolve_left (Mark.status_ne_pending _))
    rw [hone.attempts hattempts, hfailed, hattempts]
    exact hlt max hmax

theorem Life.attempts_le (h : Life policy row hs) {max : Nat} (hmax : policy.maxAttempts = some max)
    (hpos : 1 ≤ max) : row.attempts ≤ max := by
  cases h with
  | recorded r => exact Nat.zero_le _
  | handled h hbefore hattempts hcreated hone =>
    have hlt := h.lt_max hmax hpos hbefore
    rw [hone.attempts hattempts]
    split <;> omega

/-- The last handling of a life, or one before it. -/
theorem mem_concat_split {hs before after : List Handling} {h₀ h : Handling}
    (hsplit : hs ++ [h₀] = before ++ h :: after) :
    (after = [] ∧ before = hs ∧ h = h₀) ∨ ∃ rest, after = rest ++ [h₀] ∧ hs = before ++ h :: rest := by
  rcases List.eq_nil_or_concat after with rfl | ⟨rest, last, rfl⟩
  · obtain ⟨rfl, hlast⟩ := List.append_inj' hsplit rfl
    exact .inl ⟨rfl, rfl, (List.cons.inj hlast).1.symm⟩
  · rw [List.concat_eq_append, ← List.cons_append, ← List.append_assoc] at hsplit
    obtain ⟨rfl, hlast⟩ := List.append_inj' hsplit rfl
    rw [(List.cons.inj hlast).1]
    exact .inr ⟨rest, List.concat_eq_append, rfl⟩

/-- Past the horizon, no delivery but the first. -/
theorem Life.first (h : Life policy row hs) {before after : List Handling} {one : Handling}
    (hsplit : hs = before ++ one :: after) (hmade : one.delivery.isSome)
    (helapsed : policy.elapsed row.createdAt one.checkedAt = true) : before = [] := by
  induction h generalizing after with
  | recorded r => exact absurd hsplit (by simp)
  | handled h hopen hattempts hcreated hone ih =>
    rw [Mark.update_createdAt] at helapsed
    rcases mem_concat_split hsplit with ⟨rfl, rfl, rfl⟩ | ⟨rest, -, hrest⟩
    · rw [hcreated] at helapsed
      have hnone := hone.elapsed hmade helapsed
      rw [← hattempts, h.attempts_open hopen] at hnone
      exact List.eq_nil_of_length_eq_zero hnone
    · exact ih hrest helapsed

/-- After a delivered or dead-lettered record is marked so, nothing is done with it. -/
theorem Life.over (h : Life policy row hs) {before after : List Handling} {one : Handling}
    (hsplit : hs = before ++ one :: after) (hended : one.mark.status ≠ .retry) : after = [] := by
  induction h generalizing after with
  | recorded r => exact absurd hsplit (by simp)
  | handled h hopen hattempts hcreated hone ih =>
    rcases mem_concat_split hsplit with ⟨rfl, -, -⟩ | ⟨rest, -, hrest⟩
    · rfl
    · obtain rfl := ih hrest
      have hstatus := h.status
      rw [hrest, List.getLast?_concat] at hstatus
      rcases hopen with hopen | hopen <;> rw [hopen] at hstatus
      · exact absurd hstatus.symm (Mark.status_ne_pending _)
      · exact absurd hstatus.symm hended

/-- A record whose deliveries all fail is given up in time. -/
theorem Life.givenUp (h : Life policy row hs) {max : Nat} (hmax : policy.maxAttempts = some max)
    (hpos : 1 ≤ max) (hfails : ∀ one ∈ hs, one.delivery ≠ some .accepted) (hlength : max ≤ hs.length) :
    row.status = .deadLetter := by
  have hopen : ¬ (row.status = .pending ∨ row.status = .retry) := by
    intro hopen
    have hlt := h.lt_max hmax hpos hopen
    rw [h.attempts_open hopen] at hlt
    omega
  cases h with
  | recorded r => exact absurd (.inl rfl) hopen
  | handled h hbefore hattempts hcreated hone =>
    rw [Mark.update_status] at hopen ⊢
    cases hone with
    | accepted => exact absurd rfl (hfails _ (List.mem_append_right _ List.mem_cons_self))
    | retried => exact absurd (.inr rfl) hopen
    | overdue | refused | exhausted => rfl

end Life

/-! ### The loop -/

/-- What was done with one record. -/
def handlingsOf (name : String) (hs : List Handling) : List Handling :=
  hs.filter (·.record.name = name)

/-- **Every row lives its life**, and nothing was done with what is not there. -/
structure Kept (policy : RetryPolicy) (t : Table) (hs : List Handling) : Prop where
  lives : ∀ name row, t.row name = some row → Life policy row (handlingsOf name hs)
  unknown : ∀ name, t.row name = none → handlingsOf name hs = []

section Loop

variable {policy : RetryPolicy} {t : Table} {hs : List Handling} {r : Record}

theorem Turned.record {turn : Turn} {one : Handling} (h : Turned policy r turn one) :
    one.record = r := by cases h <;> rfl

theorem Kept.recordEvent (h : Kept policy t hs) (x : Recording) : Kept policy (t.recordEvent x) hs := by
  constructor
  · intro name row hrow
    rcases t.row_recordEvent x name with hsame | ⟨hnone, hnew⟩
    · exact h.lives name row (hsame ▸ hrow)
    · obtain rfl := Option.some.inj (hnew.symm.trans hrow)
      rw [h.unknown name hnone]
      exact .recorded x
  · intro name hrow
    rcases t.row_recordEvent x name with hsame | ⟨hnone, -⟩
    · exact h.unknown name (hsame ▸ hrow)
    · exact h.unknown name hnone

theorem Holds.recordEvent (h : Holds t r) (x : Recording) : Holds (t.recordEvent x) r := by
  obtain ⟨row, hrow, hrest⟩ := h
  rcases t.row_recordEvent x r.name with hsame | ⟨hnone, -⟩
  · exact ⟨row, hsame.trans hrow, hrest⟩
  · rw [hnone] at hrow
    cases hrow

/-- Events that others record disturb neither. -/
theorem Kept.recordEvents (h : Kept policy t hs) (xs : List Recording) :
    Kept policy (xs.foldl Table.recordEvent t) hs := by
  induction xs generalizing t with
  | nil => exact h
  | cons x xs ih => exact ih (h.recordEvent x)

theorem Holds.recordEvents (h : Holds t r) (xs : List Recording) :
    Holds (xs.foldl Table.recordEvent t) r := by
  induction xs generalizing t with
  | nil => exact h
  | cons x xs ih => exact ih (h.recordEvent x)

theorem Holds.mark (h : Holds t r) {name : String} (hne : r.name ≠ name) (now : Instant) (m : Mark) :
    Holds (t.mark name now m) r := by
  obtain ⟨row, hrow, hrest⟩ := h
  exact ⟨row, by rw [Table.row_mark, if_neg hne, hrow], hrest⟩

/-- **One turn**: the row it took goes one handling further, the others stay. -/
theorem Kept.mark (h : Kept policy t hs) (hr : Holds t r) {turn : Turn} {one : Handling}
    (hone : Turned policy r turn one) :
    Kept policy (t.mark r.name turn.markedAt one.mark) (hs ++ [one]) := by
  have hof : ∀ name, handlingsOf name (hs ++ [one]) =
      if name = r.name then handlingsOf name hs ++ [one] else handlingsOf name hs := by
    intro name
    unfold handlingsOf
    rw [List.filter_append, List.filter_singleton, hone.record]
    by_cases hname : name = r.name
    · rw [if_pos hname, hname]
      simp
    · rw [if_neg hname]
      simp [Ne.symm hname]
  constructor
  · intro name row hrow
    rw [Table.row_mark] at hrow
    rw [hof]
    split_ifs at hrow ⊢ with hname
    · subst hname
      obtain ⟨before, hbefore, hattempts, hcreated, hopen⟩ := hr
      rw [hbefore] at hrow
      obtain rfl := Option.some.inj hrow
      exact .handled (h.lives _ before hbefore) hopen hattempts hcreated hone
    · exact h.lives name row hrow
  · intro name hrow
    rw [Table.row_mark] at hrow
    rw [hof]
    split_ifs at hrow ⊢ with hname
    · subst hname
      obtain ⟨before, hbefore, -⟩ := hr
      rw [hbefore] at hrow
      cases hrow
    · exact h.unknown name hrow

/-- **The loop keeps the lives of all rows.** -/
theorem Kept.dispatchRecords {turn : Nat → Turn} {n : Nat} {rs : List Record} {s : DispatchSummary}
    (h : Kept policy t hs) (hrs : ∀ r ∈ rs, Holds t r) (hnodup : (rs.map (·.name)).Nodup) :
    Kept policy (dispatchRecords policy turn n rs t s).1
      (hs ++ (dispatchRecords policy turn n rs t s).2.1) := by
  induction rs generalizing n t s hs with
  | nil =>
    rw [Outbox.dispatchRecords, List.append_nil]
    exact h
  | cons r rs ih =>
    rw [List.map_cons, List.nodup_cons] at hnodup
    obtain ⟨hfresh, hnodup⟩ := hnodup
    have hr := (hrs r List.mem_cons_self).recordEvents (turn n).recorded
    have hstep := (h.recordEvents (turn n).recorded).mark hr (turned_handle policy r (turn n))
    rw [Outbox.dispatchRecords]
    dsimp only
    rw [← List.singleton_append, ← List.append_assoc]
    refine ih hstep (fun r' hr' => ?_) hnodup
    have hne : r'.name ≠ r.name := fun heq => hfresh (heq ▸ List.mem_map_of_mem hr')
    exact ((hrs r' (List.mem_cons_of_mem r hr')).recordEvents _).mark hne _ _

theorem row_recordEvents {name : String} {row : OutboxRow} (hrow : t.row name = some row)
    (xs : List Recording) : (xs.foldl Table.recordEvent t).row name = some row := by
  induction xs generalizing t with
  | nil => exact hrow
  | cons x xs ih =>
    refine ih ?_
    rcases t.row_recordEvent x name with hsame | ⟨hnone, -⟩
    · exact hsame.trans hrow
    · rw [hnone] at hrow
      cases hrow

/-- The loop touches the rows of its records only. -/
theorem dispatchRecords_row {name : String} {row : OutboxRow} {turn : Nat → Turn} {n : Nat}
    {rs : List Record} {s : DispatchSummary} (hrow : t.row name = some row)
    (hnot : name ∉ rs.map (·.name)) :
    (dispatchRecords policy turn n rs t s).1.row name = some row := by
  induction rs generalizing n t s with
  | nil => exact hrow
  | cons r rs ih =>
    rw [List.map_cons, List.mem_cons, not_or] at hnot
    rw [Outbox.dispatchRecords]
    refine ih ?_ hnot.2
    rw [Table.row_mark, if_neg hnot.1]
    exact row_recordEvents hrow _

/-- Each record has its turn. -/
theorem dispatchRecords_records (turn : Nat → Turn) (n : Nat) (rs : List Record) (t : Table)
    (s : DispatchSummary) : (dispatchRecords policy turn n rs t s).2.1.map (·.record) = rs := by
  induction rs generalizing n t s with
  | nil => rfl
  | cons r rs ih =>
    rw [dispatchRecords]
    dsimp only
    rw [List.map_cons, ih, (turned_handle policy r (turn n)).record]

/-- The counts of a list of handlings. -/
def countsOf (hs : List Handling) : DispatchSummary where
  delivered := hs.countP (·.mark.status = .delivered)
  retried := hs.countP (·.mark.status = .retry)
  deadLettered := hs.countP (·.mark.status = .deadLetter)

theorem countsOf_cons (one : Handling) (hs : List Handling) :
    countsOf (one :: hs) = (countsOf hs).count one.mark := by
  unfold countsOf
  cases hmark : one.mark <;> simp [hmark, DispatchSummary.count, Mark.status]

/-- Two summaries taken together. -/
def DispatchSummary.plus (a b : DispatchSummary) : DispatchSummary :=
  ⟨a.delivered + b.delivered, a.retried + b.retried, a.deadLettered + b.deadLettered⟩

theorem DispatchSummary.count_plus (a b : DispatchSummary) (m : Mark) :
    (a.count m).plus b = a.plus (b.count m) := by
  unfold DispatchSummary.plus DispatchSummary.count
  cases m
  all_goals
    dsimp only
    congr 1
    omega

/-- Each turn is counted. -/
theorem dispatchRecords_summary (turn : Nat → Turn) (n : Nat) (rs : List Record) (t : Table)
    (s : DispatchSummary) :
    (dispatchRecords policy turn n rs t s).2.2 =
      s.plus (countsOf (dispatchRecords policy turn n rs t s).2.1) := by
  induction rs generalizing n t s with
  | nil => rfl
  | cons r rs ih =>
    rw [dispatchRecords]
    dsimp only
    rw [ih, countsOf_cons, DispatchSummary.count_plus]

/-- Each handling is in one count. -/
theorem countsOf_total (hs : List Handling) :
    (countsOf hs).delivered + (countsOf hs).retried + (countsOf hs).deadLettered = hs.length := by
  induction hs with
  | nil => rfl
  | cons one hs ih =>
    rw [countsOf_cons, List.length_cons]
    cases one.mark
    all_goals
      unfold DispatchSummary.count
      dsimp only
      omega

end Loop

/-! ### Runs -/

/-- What happens to an outbox: an event is recorded, or a pass runs. -/
inductive Event
  | recorded (r : Recording)
  | pass (s : Selection) (turn : Nat → Turn)

/-- **The outbox and its passes so far.** -/
structure World where
  table : Table
  passes : List Pass

namespace World

/-- Nothing is recorded yet. -/
def empty : World := ⟨⟨[], List.nodup_nil⟩, []⟩

/-- One event, under the policy. -/
def after (policy : RetryPolicy) (w : World) : Event → World
  | .recorded r => { w with table := w.table.recordEvent r }
  | .pass s turn =>
    let (table, pass) := dispatchPending policy s turn w.table
    ⟨table, w.passes ++ [pass]⟩

/-- A run of passes, one after another. -/
def run (policy : RetryPolicy) (events : List Event) (w : World) : World :=
  events.foldl (after policy) w

/-- All that was done with one record, in its order. -/
def history (w : World) (name : String) : List Handling :=
  handlingsOf name (w.passes.flatMap (·.handled))

/-- How many passes took the record. -/
def takings (w : World) (name : String) : Nat :=
  w.passes.countP fun p => name ∈ p.taken.map (·.name)

end World

/-- **What is promised of an outbox**, after any run. -/
structure Promised (policy : RetryPolicy) (w : World) : Prop where
  /-- A pass handles each record it takes once, and counts it. -/
  handled : ∀ p ∈ w.passes, (p.taken.map (·.name)).Nodup ∧ p.handled.map (·.record) = p.taken ∧
    p.summary = countsOf p.handled ∧
    p.summary.delivered + p.summary.retried + p.summary.deadLettered = p.taken.length
  /-- The row is as the last handling marked it. -/
  marked : ∀ name row, w.table.row name = some row →
    row.status = ((w.history name).getLast?.map (·.mark.status)).getD .pending
  /-- The attempts are the delivery calls that failed. -/
  attempts : ∀ name row, w.table.row name = some row →
    row.attempts = (w.history name).countP Handling.failed
  within : ∀ name row, w.table.row name = some row →
    ∀ max, policy.maxAttempts = some max → row.attempts ≤ max
  /-- No delivery past the horizon, but the first. -/
  horizon : ∀ name row, w.table.row name = some row → ∀ before one later,
    w.history name = before ++ one :: later → one.delivery.isSome →
      policy.elapsed row.createdAt one.checkedAt = true → before = []
  /-- What was delivered or dead-lettered is not handled again. -/
  settled : ∀ name row, w.table.row name = some row → ∀ before one later,
    w.history name = before ++ one :: later →
      one.mark.status = .delivered ∨ one.mark.status = .deadLetter → later = []
  /-- What always fails is given up in time. -/
  givenUp : ∀ name row, w.table.row name = some row → ∀ max, policy.maxAttempts = some max →
    (∀ one ∈ w.history name, one.delivery ≠ some .accepted) → max ≤ w.takings name →
      row.status = .deadLetter

section Run

variable {policy : RetryPolicy}

/-- What one pass did is in order, and it took none twice. -/
theorem dispatchPending_handled (s : Selection) (turn : Nat → Turn) (t : Table) :
    let p := (dispatchPending policy s turn t).2
    (p.taken.map (·.name)).Nodup ∧ p.handled.map (·.record) = p.taken ∧
      p.summary = countsOf p.handled ∧
      p.summary.delivered + p.summary.retried + p.summary.deadLettered = p.taken.length := by
  have hrecords : (dispatchPending policy s turn t).2.handled.map (·.record) =
      (dispatchPending policy s turn t).2.taken := dispatchRecords_records turn 0 (t.pending s) t {}
  have hsummary : (dispatchPending policy s turn t).2.summary =
      countsOf (dispatchPending policy s turn t).2.handled := by
    refine (dispatchRecords_summary turn 0 (t.pending s) t {}).trans ?_
    unfold DispatchSummary.plus
    simp only [Nat.zero_add]
    rfl
  refine ⟨pending_nodup t s, hrecords, hsummary, ?_⟩
  rw [hsummary, countsOf_total, ← congrArg List.length hrecords, List.length_map]

theorem Kept.dispatchPending {t : Table} {hs : List Handling} (h : Kept policy t hs) (s : Selection)
    (turn : Nat → Turn) :
    Kept policy (dispatchPending policy s turn t).1
      (hs ++ (Outbox.dispatchPending policy s turn t).2.handled) :=
  h.dispatchRecords (fun _ hr => holds_of_mem_pending hr) (pending_nodup t s)

/-- **The invariant of a run**: rows live their lives, and every pass was in order. -/
structure World.Sound (policy : RetryPolicy) (w : World) : Prop where
  kept : Kept policy w.table (w.passes.flatMap (·.handled))
  handled : ∀ p ∈ w.passes, (p.taken.map (·.name)).Nodup ∧ p.handled.map (·.record) = p.taken ∧
    p.summary = countsOf p.handled ∧
    p.summary.delivered + p.summary.retried + p.summary.deadLettered = p.taken.length

theorem World.Sound.empty : Sound policy World.empty := by
  refine ⟨⟨fun name row hrow => ?_, fun _ _ => rfl⟩, fun p hp => absurd hp List.not_mem_nil⟩
  have hnone : World.empty.table.row name = none := rfl
  rw [hnone] at hrow
  cases hrow

theorem World.Sound.after {w : World} (h : Sound policy w) (e : Event) :
    Sound policy (World.after policy w e) := by
  cases e with
  | recorded r => exact ⟨h.kept.recordEvent r, h.handled⟩
  | pass s turn =>
    constructor
    · unfold World.after
      dsimp only
      rw [List.flatMap_append, List.flatMap_singleton]
      exact h.kept.dispatchPending s turn
    · intro p hp
      rcases List.mem_append.1 hp with hp | hp
      · exact h.handled p hp
      · rw [List.mem_singleton.1 hp]
        exact dispatchPending_handled s turn w.table

theorem World.Sound.run {w : World} (h : Sound policy w) (events : List Event) :
    Sound policy (World.run policy events w) := by
  induction events generalizing w with
  | nil => exact h
  | cons e events ih => exact ih (h.after e)

/-- A record is handled once in each pass that takes it. -/
theorem World.Sound.takings {w : World} (h : Sound policy w) (name : String) :
    w.takings name = (w.history name).length := by
  have hpasses : ∀ passes : List Pass, (∀ p ∈ passes, (p.taken.map (·.name)).Nodup ∧
      p.handled.map (·.record) = p.taken) →
      passes.countP (fun p => name ∈ p.taken.map (·.name)) =
        (handlingsOf name (passes.flatMap (·.handled))).length := by
    intro passes hall
    induction passes with
    | nil => rfl
    | cons p passes ih =>
      obtain ⟨hnodup, hrecords⟩ := hall p List.mem_cons_self
      have hrest := ih fun q hq => hall q (List.mem_cons_of_mem p hq)
      have hone : (handlingsOf name p.handled).length = (p.taken.map (·.name)).count name := by
        rw [← hrecords, List.map_map, List.count, List.countP_map, handlingsOf,
          ← List.countP_eq_length_filter]
        rfl
      rw [List.flatMap_cons, handlingsOf, List.filter_append, List.length_append]
      rw [handlingsOf] at hrest hone
      rw [hone, ← hrest, List.countP_cons, Nat.add_comm, hnodup.count]
      simp
  exact hpasses w.passes fun p hp => ⟨(h.handled p hp).1, (h.handled p hp).2.1⟩

/-- A row that has ended stays as it is, whatever happens next. -/
theorem World.ended_after {w : World} {name : String} {row : OutboxRow}
    (hrow : w.table.row name = some row) (hended : row.status = .delivered ∨ row.status = .deadLetter)
    (e : Event) :
    (World.after policy w e).table.row name = some row ∧
      (World.after policy w e).history name = w.history name := by
  cases e with
  | recorded r =>
    refine ⟨?_, rfl⟩
    exact row_recordEvents hrow [r]
  | pass s turn =>
    have hnot : name ∉ (w.table.pending s).map (·.name) := by
      intro hmem
      obtain ⟨r, hr, rfl⟩ := List.mem_map.1 hmem
      obtain ⟨row', hrow', -, -, hopen⟩ := holds_of_mem_pending hr
      obtain rfl := Option.some.inj (hrow.symm.trans hrow')
      rcases hended with hended | hended <;> rw [hended] at hopen <;> simp at hopen
    refine ⟨dispatchRecords_row hrow hnot, ?_⟩
    have hnone : handlingsOf name (dispatchPending policy s turn w.table).2.handled = [] := by
      refine List.filter_eq_nil_iff.2 fun one hone hname => hnot ?_
      have hrecords := @dispatchRecords_records policy turn 0 (w.table.pending s) w.table {}
      rw [← hrecords, ← of_decide_eq_true hname]
      exact List.mem_map_of_mem (List.mem_map_of_mem hone)
    change handlingsOf name
      ((w.passes ++ [(dispatchPending policy s turn w.table).2]).flatMap Pass.handled) = _
    rw [List.flatMap_append, List.flatMap_singleton, handlingsOf, List.filter_append]
    rw [handlingsOf] at hnone
    rw [hnone, List.append_nil]
    rfl

theorem World.ended_run {w : World} {name : String} {row : OutboxRow}
    (hrow : w.table.row name = some row) (hended : row.status = .delivered ∨ row.status = .deadLetter)
    (events : List Event) :
    (World.run policy events w).table.row name = some row ∧
      (World.run policy events w).history name = w.history name := by
  induction events generalizing w with
  | nil => exact ⟨hrow, rfl⟩
  | cons e events ih =>
    obtain ⟨hstep, hhistory⟩ := @World.ended_after policy w name row hrow hended e
    obtain ⟨hlater, hsame⟩ := ih hstep
    exact ⟨hlater, hsame.trans hhistory⟩

/-- **Sequential dispatch keeps its promises**, from an outbox whose rows all began as
`record_event` leaves them; and what has ended is left as it is by every later run. -/
theorem sequential_dispatch (policy : RetryPolicy)
    (hpolicy : ∀ max, policy.maxAttempts = some max → 1 ≤ max) (events : List Event) :
    Promised policy (World.run policy events World.empty) ∧
    ∀ later name row, (World.run policy events World.empty).table.row name = some row →
      row.status = .delivered ∨ row.status = .deadLetter →
      (World.run policy (events ++ later) World.empty).table.row name = some row ∧
      (World.run policy (events ++ later) World.empty).history name =
        (World.run policy events World.empty).history name := by
  have hsound : World.Sound policy (World.run policy events World.empty) := World.Sound.empty.run events
  constructor
  · constructor
    case handled => exact hsound.handled
    case marked => exact fun name row hrow => (hsound.kept.lives name row hrow).status
    case attempts => exact fun name row hrow => (hsound.kept.lives name row hrow).attempts
    case within =>
      intro name row hrow max hmax
      exact (hsound.kept.lives name row hrow).attempts_le hmax (hpolicy max hmax)
    case horizon =>
      intro name row hrow before one later hsplit hmade helapsed
      exact (hsound.kept.lives name row hrow).first hsplit hmade helapsed
    case settled =>
      intro name row hrow before one later hsplit hended
      refine (hsound.kept.lives name row hrow).over hsplit fun hretry => ?_
      rcases hended with hended | hended <;> rw [hretry] at hended <;> cases hended
    case givenUp =>
      intro name row hrow max hmax hfails htaken
      rw [hsound.takings] at htaken
      exact (hsound.kept.lives name row hrow).givenUp hmax (hpolicy max hmax) hfails htaken
  · intro later name row hrow hended
    have hrun : World.run policy (events ++ later) World.empty =
        World.run policy later (World.run policy events World.empty) := List.foldl_append ..
    rw [hrun]
    exact World.ended_run hrow hended later

end Run

/-- An event of an order. -/
def orderEvent : CloudEvent where
  id := "6f1c1d9e-7d0f-4c43-9a55-0c3b8f6f1a2b"
  type := "com.baobab-platform.erp.order-consequence.changed"
  source := "urn:baobab:erp"
  subject := "order-1"
  time := 0
  dataschema := "urn:baobab:schema:order-consequence"
  baobabscope := "tenant"
  correlationid := "6f1c1d9e-7d0f-4c43-9a55-0c3b8f6f1a2c"
  data := .obj []

/-- The destination is down, at that time. -/
def outage (at_ : Instant) : Nat → Turn := fun _ => ⟨at_, .failed "timeout", at_, at_, []⟩

/-- Two attempts, both in an outage. -/
theorem sequential_dispatch_outage :
    let w := World.run ⟨some 2, none⟩ [.recorded ⟨"e", orderEvent, 0⟩,
      .pass { now := seconds 1 } (outage (seconds 1)),
      .pass { now := seconds 5 } (outage (seconds 5))] World.empty
    Promised ⟨some 2, none⟩ w ∧ (w.table.row "e").map (·.status) = some .deadLetter := by
  refine ⟨(sequential_dispatch ⟨some 2, none⟩ ?_ _).1, by decide⟩
  rintro max ⟨⟩
  decide

end Outbox
end BaobabErp
