/-
# Rows the outbox announces

A `Subject` is a row with a revision, and the events about it: their type, tenant
and subject, and the id the event of each revision has.  `announcing` is the protocol
under which the outbox announces exactly the revisions of the row.  A session is in
step where it commits (`inStep`), and owes an event from its write of the row to
its insert of the event (`owes`); the triples say how the one leads to the other.
-/

import BaobabErp.Concurrency.Announced
import BaobabErp.Concurrency.Keeping
import BaobabErp.Platform.Endings
import BaobabErp.Platform.Machine
import BaobabErp.Outbox.RecordEvent

namespace BaobabErp

open Python Concurrency World
open Concurrency.Protocol (Keeps Returns closed_keeps)

/-- What an event is about. -/
structure Topic where
  type : String
  tenantId : String
  subject : String
deriving DecidableEq

/-- The event is about the topic. -/
def Topic.covers (topic : Topic) (e : CloudEvent) : Bool :=
  e.type == topic.type && e.tenantid == some topic.tenantId && e.subject == topic.subject

/-- A member of the data of an event. -/
def CloudEvent.member (e : CloudEvent) (name : String) : Json := Json.get (e.data.obj?.getD []) name

/-- The revision an event announces. -/
def CloudEvent.revision (e : CloudEvent) : Nat :=
  match e.member "revision" with
  | .int n => n.toNat
  | _ => 0

/-- What a row says about the topic: only an event in the outbox does. -/
def Topic.note (topic : Topic) : (k : Key) → Cell k → Option CloudEvent
  | .outbox _, c =>
    match (c.row : OutboxRow).content with
    | .event e => if topic.covers e then some e else none
    | .legacy _ => none
  | _, _ => none

/-- **A row whose revisions are announced.** -/
structure Subject where
  key : Key
  topic : Topic
  /-- The id of the event about a revision. -/
  eventId : Nat → String
  revision : Row key → Nat
  Describes : Row key → CloudEvent → Prop
  Sound : Row key → Prop
  Follows : Row key → Row key → Prop
  ours : (∃ tenant type id, key = .outcome tenant type id) ∨
    ∃ tenant order, key = .consequence tenant order
  refl : ∀ row, Follows row row
  trans : ∀ a b c, Follows a b → Follows b c → Follows a c

/-- No writer of its own has such a row: it is written by the commands and attempts. -/
def Key.IsOurs (k : Key) : Prop :=
  (∃ tenant type id, k = .outcome tenant type id) ∨ ∃ tenant order, k = .consequence tenant order

theorem Key.IsOurs.apart {k : Key} (h : k.IsOurs) :
    (∀ id, k ≠ .inbox id) ∧ (∀ i, k ≠ .index i) ∧ (∀ id, k ≠ .outbox id) ∧
      (∀ tenant le, k ≠ .tenantMapping tenant le) ∧
        ∀ ei le kind cid, k ≠ .masterData ei le kind cid := by
  rcases h with ⟨tenant, type, id, rfl⟩ | ⟨tenant, order, rfl⟩
  · refine ⟨?_, ?_, ?_, ?_, ?_⟩ <;> (intros; rintro ⟨⟩)
  · refine ⟨?_, ?_, ?_, ?_, ?_⟩ <;> (intros; rintro ⟨⟩)

theorem Topic.note_of_not_outbox {topic : Topic} {k : Key} (h : ∀ id, k ≠ .outbox id)
    (c : Cell k) : topic.note k c = none := by
  cases k with
  | outbox id => exact absurd rfl (h id)
  | _ => rfl

theorem Topic.note_event {topic : Topic} {id : String} {c : Cell (.outbox id)} {e : CloudEvent}
    (h : (c.row : OutboxRow).content = .event e) :
    topic.note (.outbox id) c = if topic.covers e then some e else none := by
  unfold Topic.note
  dsimp only
  rw [h]

theorem Topic.note_legacy {topic : Topic} {id : String} {c : Cell (.outbox id)} {envelope : EventEnvelope}
    (h : (c.row : OutboxRow).content = .legacy envelope) : topic.note (.outbox id) c = none := by
  unfold Topic.note
  dsimp only
  rw [h]

/-- The subject as a row of the store. -/
def Subject.announcing (S : Subject) : Announcing Cell where
  head := S.key
  revision c := S.revision c.row
  Note := CloudEvent
  note := S.topic.note
  number := CloudEvent.revision
  entry r := .outbox (S.eventId r)
  Describes c e := S.Describes c.row e
  Sound c := S.Sound c.row
  Follows a b := S.Follows a.row b.row
  apart c := Topic.note_of_not_outbox (Key.IsOurs.apart S.ours).2.2.1 c
  refl c := S.refl c.row
  trans a b c := S.trans a.row b.row c.row

section

variable {S : Subject} {σ τ : Store Worker Cell} {w : Worker} {k : Key}

/-- What matters of a subject is its row and the outbox. -/
theorem Subject.of_tracked (h : S.announcing.Tracked k) :
    k = S.key ∨ ∃ id, k = .outbox id := by
  rcases h with rfl | ⟨c, hc⟩
  · exact .inl rfl
  · right
    by_contra hk
    exact hc (Topic.note_of_not_outbox (fun id hid => hk ⟨id, hid⟩) c)

theorem Subject.tracked_apart (h : S.announcing.Tracked k) :
    (∀ id, k ≠ .inbox id) ∧ (∀ i, k ≠ .index i) ∧ (∀ tenant le, k ≠ .tenantMapping tenant le) ∧
      ∀ ei le kind cid, k ≠ .masterData ei le kind cid := by
  rcases S.of_tracked h with rfl | ⟨id, rfl⟩
  · obtain ⟨h₁, h₂, -, h₄, h₅⟩ := Key.IsOurs.apart S.ours
    exact ⟨h₁, h₂, h₄, h₅⟩
  · refine ⟨?_, ?_, ?_, ?_⟩ <;> (intros; rintro ⟨⟩)

theorem Agrees.tracked (h : Agrees σ τ) (hk : S.announcing.Tracked k) :
    τ.committed k = σ.committed k ∧ τ.pending k = σ.pending k :=
  h k (S.tracked_apart hk).1 (S.tracked_apart hk).2.1

theorem Agrees.kept (h : Agrees σ τ) (hs : Store.Kept S.announcing σ) :
    Store.Kept S.announcing τ :=
  hs.congr (fun _ hk => (h.tracked hk).1) fun _ hk => (h.tracked hk).2

theorem Agrees.view (h : Agrees σ τ) (hk : S.announcing.Tracked k) : τ.view w k = σ.view w k := by
  unfold Store.view
  rw [(h.tracked hk).1, (h.tracked hk).2]

theorem Agrees.notes (h : Agrees σ τ) (k : Key) :
    S.announcing.notes (τ.view w) k = S.announcing.notes (σ.view w) k := by
  by_cases hk : S.announcing.Tracked k
  · exact Announcing.notes_congr (h.view hk)
  · rw [Announcing.notes_of_not_tracked hk, Announcing.notes_of_not_tracked hk]

theorem Agrees.inStep (h : Agrees σ τ) (hs : S.announcing.InStep (σ.view w)) :
    S.announcing.InStep (τ.view w) :=
  hs.congr h.notes (h.view (.inl rfl))

theorem Agrees.owes {c : Cell S.key} (h : Agrees σ τ) (hs : S.announcing.Owes (σ.view w) c) :
    S.announcing.Owes (τ.view w) c :=
  hs.congr h.notes (h.view (.inl rfl))

theorem Agrees.holds (h : Agrees σ τ) (hs : σ.Holds w S.key) : τ.Holds w S.key := by
  obtain ⟨x, hx⟩ := hs
  exact ⟨x, (h.tracked (S := S) (.inl rfl)).2.trans hx⟩

end

/-! ### The protocol -/

section

variable {L : Type} (D : Deployment) (main : L → Program Unit) (S : Subject)

/-- The environment writes neither the row nor the outbox. -/
theorem kept_env {a : Env} {s t : World} (hs : Store.Kept S.announcing s.store)
    (h : env a s = some t) : Store.Kept S.announcing t.store := by
  have hsame : ∀ k, S.announcing.Tracked k →
      t.store.pending k = s.store.pending k ∧ t.store.committed k = s.store.committed k := by
    intro k hk
    obtain ⟨h₁, -, h₃, h₄⟩ := S.tracked_apart hk
    exact env_other h h₁ h₃ h₄
  exact hs.congr (fun k hk => (hsame k hk).2) fun k hk => (hsame k hk).1

/-- **The outbox announces exactly the revisions of the subject.** -/
def announcing : Protocol (platform D main) :=
  Protocol.keeping (fun s : World => Store.Kept S.announcing s.store)
    (fun w _ hs => hs.rollback w) fun _ _ _ hs h => kept_env S hs h

end

section

variable {L : Type} {D : Deployment} {main : L → Program Unit} {S : Subject} {w : Worker}

/-- **Nothing others do reaches a subject whose row a session holds.** -/
theorem other_steady {s t : (platform D main).State} (h : (announcing D main S).Other w s t)
    (ht : s.store.Holds w S.key) :
    t.store.view w S.key = s.store.view w S.key ∧
      ∀ k, S.announcing.notes (t.store.view w) k = S.announcing.notes (s.store.view w) k := by
  have hp : ∀ k x, t.store.pending k = some (w, x) ↔ s.store.pending k = some (w, x) :=
    (other_own h).held
  have hkept : Store.Kept S.announcing s.store := h.inv_left
  cases h with
  | @exec v _ _ _ _ _ hv _ _ he =>
    refine Store.Kept.steady hkept ht hp fun k hk => ?_
    obtain ⟨hinbox, hindex, -, -⟩ := S.tracked_apart hk
    exact ((exec_ends he).committed_at hinbox hindex).imp_right fun hc => ⟨v, hv, hc⟩
  | close _ _ => exact Store.Kept.steady hkept ht hp fun _ _ => .inl rfl
  | env _ _ he =>
    refine Store.Kept.steady hkept ht hp fun k hk => ?_
    obtain ⟨h₁, -, h₃, h₄⟩ := S.tracked_apart hk
    exact .inl (env_other he h₁ h₃ h₄).2

theorem other_holds {s t : (platform D main).State} (h : (announcing D main S).Other w s t) :
    t.store.Holds w S.key ↔ s.store.Holds w S.key :=
  (other_own h).holds S.key

/-- What the session sees is in step. -/
def inStep : (announcing D main S).Assertion w where
  holds s := S.announcing.InStep (s.store.view w)
  stable := by
    intro s t _ ht h hs
    by_cases hh : s.store.Holds w S.key
    · obtain ⟨hhead, hnotes⟩ := other_steady h hh
      exact Announcing.InStep.congr hs hnotes hhead
    · exact Store.Kept.inStep_view ht fun hh' => hh ((other_holds h).1 hh')

/-- The session holds the row, and what it sees is in step. -/
def holding (row : Row S.key) : (announcing D main S).Assertion w where
  holds s := s.store.Holds w S.key ∧ S.announcing.InStep (s.store.view w) ∧
    ∃ c : Cell S.key, s.store.view w S.key = some c ∧ c.row = row
  stable := by
    rintro s t _ _ h ⟨hh, hstep, c, hc, hrow⟩
    obtain ⟨hhead, hnotes⟩ := other_steady h hh
    exact ⟨(other_holds h).2 hh, hstep.congr hnotes hhead, c, hhead.trans hc, hrow⟩

/-- The session has written a revision of the row and has to announce it. -/
def owes (row : Row S.key) : (announcing D main S).Assertion w where
  holds s := s.store.Holds w S.key ∧
    ∃ c : Cell S.key, S.announcing.Owes (s.store.view w) c ∧ c.row = row
  stable := by
    rintro s t _ _ h ⟨hh, c, howes, hrow⟩
    obtain ⟨hhead, hnotes⟩ := other_steady h hh
    exact ⟨(other_holds h).2 hh, c, howes.congr hnotes hhead, hrow⟩

/-! ### Single calls -/

/-- Calls that write neither the row nor the outbox. -/
def Subject.Plain (S : Subject) (e : Eff) : Prop :=
  ∀ k, e.written = some k → k ≠ S.key ∧ ∀ id, k ≠ .outbox id

/-- What is left to see where the transaction is gone. -/
theorem inStep_of_clean {s : World} (hs : Store.Kept S.announcing s.store)
    (hc : s.store.Clean w) : S.announcing.InStep (s.store.view w) :=
  hs.inStep_view (hc S.key)

theorem agrees_inStep_rollback {s t : World} (hs : Store.Kept S.announcing s.store)
    (h : Agrees (s.store.rollback w) t.store) : S.announcing.InStep (t.store.view w) :=
  h.inStep ((hs.rollback w).inStep_view (Store.clean_rollback S.key))

/-- **A plain call keeps a session in step.** -/
theorem plain_keeps {e : Eff} (he : S.Plain e) :
    Keeps (inStep : (announcing D main S).Assertion w) _ (.perform e) := by
  have hends : ∀ {s t : World} {c : Choice}, Store.Kept S.announcing s.store →
      S.announcing.InStep (s.store.view w) → Ends w e c s t →
        Store.Kept S.announcing t.store ∧ S.announcing.InStep (t.store.view w) := by
    intro s t c hs hstep h
    cases h with
    | same h => exact ⟨h.kept hs, h.inStep hstep⟩
    | rolledBack h => exact ⟨h.kept (hs.rollback w), agrees_inStep_rollback hs h⟩
    | committed _ h =>
      have hk := hs.commit hstep
      exact ⟨h.kept hk, h.inStep (hk.inStep_view (Store.clean_commit S.key))⟩
    | wrote k d hw hf _ h =>
      obtain ⟨hkey, hout⟩ := he k hw
      have hnote : ∀ x : Cell k, S.announcing.note k x = none := Topic.note_of_not_outbox hout
      have hview : S.announcing.notes (s.store.view w) k = none := by
        cases hv : s.store.view w k with
        | none => exact Announcing.notes_of_none hv
        | some x => rw [Announcing.notes_eq hv, hnote]
      have hput := hs.put_other (x := some d) hf hkey (.inr ((hnote d).trans hview.symm))
      refine ⟨h.kept hput, h.inStep (hstep.congr (fun l => ?_) (Store.view_put_of_ne hkey.symm))⟩
      by_cases hl : l = k
      · subst hl
        rw [hview, Announcing.notes_eq Store.view_put_self, hnote]
      · exact Announcing.notes_congr (Store.view_put_of_ne hl)
  refine call_keeps (fun s hs hstep c r t hex => ?_) fun c s t r hs _ hstep hex => ?_
  · exact (hends hs hstep (exec_ends (D := D) hex)).1
  · exact (hends hs hstep (exec_ends (D := D) hex)).2

/-- **So does an insert into the outbox that says nothing of the subject.** -/
theorem insert_keeps {id : String} {row : Defaults → OutboxRow}
    (hrow : ∀ d cr wr, S.topic.note (.outbox id) ⟨row d, cr, wr⟩ = none) :
    Keeps (inStep : (announcing D main S).Assertion w) _ (Call.insert (.outbox id) row) := by
  have hkey : Key.outbox id ≠ S.key := fun h => (Key.IsOurs.apart S.ours).2.2.1 id h.symm
  have hends : ∀ {s t : World} {c : Choice}, Store.Kept S.announcing s.store →
      S.announcing.InStep (s.store.view w) → Ends w (.insert (.outbox id) row) c s t →
        Store.Kept S.announcing t.store ∧ S.announcing.InStep (t.store.view w) := by
    intro s t c hs hstep h
    cases h with
    | same h => exact ⟨h.kept hs, h.inStep hstep⟩
    | rolledBack h => exact ⟨h.kept (hs.rollback w), agrees_inStep_rollback hs h⟩
    | committed he _ => cases he
    | wrote k d hw hf hd h =>
      obtain rfl := Option.some.inj hw
      obtain ⟨hold, hsame, hd⟩ := hd
      have hview : S.announcing.notes (s.store.view w) (.outbox id) = none :=
        Announcing.notes_of_none hold
      have hnote : S.announcing.note (.outbox id) d = none := by
        have hrow' : d.row = row c.defaults := hd
        have hd' : d = ⟨row c.defaults, d.creator, d.writer⟩ := by
          rw [← hrow']
        rw [hd']
        exact hrow c.defaults d.creator d.writer
      have hput := hs.put_other (x := some d) hf hkey (.inr (hnote.trans hview.symm))
      refine ⟨h.kept hput, h.inStep (hstep.congr (fun l => ?_) (Store.view_put_of_ne hkey.symm))⟩
      by_cases hl : l = .outbox id
      · subst hl
        rw [hview, Announcing.notes_eq Store.view_put_self, hnote]
      · exact Announcing.notes_congr (Store.view_put_of_ne hl)
  refine call_keeps (fun s hs hstep c r t hex => ?_) fun c s t r hs _ hstep hex => ?_
  · exact (hends hs hstep (exec_ends (D := D) hex)).1
  · exact (hends hs hstep (exec_ends (D := D) hex)).2

/-! ### The calls that make a revision and announce it -/

/-- A write of the row that follows on what the session sees. -/
theorem kept_of_wrote {s t : World} {e : Eff} {c : Choice} (hs : Store.Kept S.announcing s.store)
    (he : e.written = some S.key) (hcommits : commits e = false)
    (hleaves : ∀ d : Cell S.key, e.Leaves c S.key (s.cell w S.key) d.row →
      S.Sound d.row ∧ ∀ old, s.cell w S.key = some old → S.Follows old.row d.row)
    (h : Ends w e c s t) : Store.Kept S.announcing t.store := by
  cases h with
  | same h => exact h.kept hs
  | rolledBack h => exact h.kept (hs.rollback w)
  | committed hc _ =>
    rw [hcommits] at hc
    cases hc
  | wrote k d hw hf hd h =>
    obtain rfl := Option.some.inj (he.symm.trans hw)
    obtain ⟨hsound, hfollows⟩ := hleaves d hd
    exact h.kept (hs.put_head hf hsound hfollows)

/-- What a session knows after it looked the row up. -/
def looked : Option (Row S.key) → (announcing D main S).Assertion w
  | none => inStep
  | some row => holding row

/-- **The row is locked.** -/
theorem lock_looked : (announcing D main S).Triple w inStep (Call.selectForUpdate S.key)
    (.ends looked (.const True)) := by
  refine call_triple (fun s hs _ c r t hex => ?_) fun c s t r hs _ hstep _ hex => ?_
  · refine kept_of_wrote (e := .selectForUpdate S.key) hs rfl rfl (fun d hd => ?_)
      (exec_ends (D := D) hex)
    obtain ⟨cell, hcell, hrow⟩ := hd
    rw [hrow]
    refine ⟨Store.Kept.view_sound hs hcell, fun old hold => ?_⟩
    obtain rfl := Option.some.inj (hcell.symm.trans hold)
    exact S.refl _
  · rcases exec_selectForUpdate hex with ⟨⟨x, rfl⟩, -⟩ | ⟨hf, rfl, -, ⟨hnone, rfl⟩ | ⟨cell, hcell, hst⟩⟩
    · exact trivial
    · rw [hnone]
      exact hstep
    · rw [hcell]
      have hview : ∀ k, t.store.view w k = s.store.view w k := by
        intro k
        rw [hst]
        by_cases hk : k = S.key
        · subst hk
          exact Store.view_put_self.trans hcell.symm
        · exact Store.view_put_of_ne hk
      refine ⟨?_, ?_, cell, (hview S.key).trans hcell, rfl⟩
      · rw [hst]
        exact Store.holds_put_self
      · exact Announcing.InStep.congr hstep (fun k => Announcing.notes_congr (hview k)) (hview S.key)

/-- Writing the row says nothing new of it. -/
theorem notes_put_head {σ : Store Worker Cell} {d : Cell S.key} (k : Key) :
    S.announcing.notes ((σ.put w S.key (some d)).view w) k = S.announcing.notes (σ.view w) k := by
  by_cases hk : k = S.key
  · subst hk
    exact (Announcing.notes_head (A := S.announcing)).trans
      (Announcing.notes_head (A := S.announcing)).symm
  · exact Announcing.notes_congr (Store.view_put_of_ne hk)

/-- **The next revision of a locked row.** -/
theorem update_owes {row : Row S.key} {set : Row S.key → Row S.key} (hsound : S.Sound (set row))
    (hfollows : S.Follows row (set row)) (hrev : S.revision (set row) = S.revision row + 1) :
    (announcing D main S).Triple w (holding row) (Call.update S.key set)
      (.ends (fun _ => owes (set row)) (.const True)) := by
  refine call_triple (fun s hs hA c r t hex => ?_) fun c s t r hs _ hA _ hex => ?_
  · obtain ⟨-, -, cell, hcell, rfl⟩ := hA
    refine kept_of_wrote (e := .update S.key set) hs rfl rfl (fun d hd => ?_) (exec_ends (D := D) hex)
    obtain ⟨old, hsame, hold, hrow⟩ := hd
    obtain rfl := Option.some.inj (hcell.symm.trans hold)
    have hrow' : d.row = set cell.row := hrow
    rw [hrow']
    refine ⟨hsound, fun old' hold' => ?_⟩
    obtain rfl := Option.some.inj (hcell.symm.trans hold')
    exact hfollows
  · obtain ⟨-, hstep, cell, hcell, rfl⟩ := hA
    rcases exec_update hex with ⟨⟨x, rfl⟩, -⟩ | ⟨-, -, ⟨-, hnone, -⟩ | ⟨old, rfl, hold, hst⟩⟩
    · exact trivial
    · cases hcell.symm.trans hnone
    · obtain rfl := Option.some.inj (hcell.symm.trans hold)
      show (owes (set cell.row)).holds t
      refine ⟨?_, ⟨set cell.row, s.creatorOf w S.key, s.current w⟩, ?_, rfl⟩
      · rw [hst]
        exact Store.holds_put_self
      · rw [hst]
        refine Announcing.InStep.revise hstep (fun k => notes_put_head k) Store.view_put_self ?_
        rw [Announcing.count_eq hcell]
        exact hrev

/-- What a session knows after it tried to insert the row. -/
def entered (row : Row S.key) : Bool → (announcing D main S).Assertion w
  | true => owes row
  | false => inStep

/-- **The first revision of the row.** -/
theorem insertNew_owes {row : Row S.key} (hsound : S.Sound row) (hrev : S.revision row = 1) :
    (announcing D main S).Triple w inStep (Call.insertNew S.key row)
      (.ends (entered row) (.const True)) := by
  refine call_triple (fun s hs _ c r t hex => ?_) fun c s t r hs _ hstep _ hex => ?_
  · refine kept_of_wrote (e := .insertNew S.key row) hs rfl rfl (fun d hd => ?_)
      (exec_ends (D := D) hex)
    obtain ⟨hnone, hsame, hrow⟩ := hd
    have hrow' : d.row = row := hrow
    rw [hrow']
    refine ⟨hsound, fun old hold => ?_⟩
    cases hnone.symm.trans hold
  · rcases exec_insertNew hex with ⟨⟨x, rfl⟩, -⟩ | ⟨-, -, ⟨rfl, -, rfl⟩ | ⟨rfl, hnone, rfl⟩⟩
    · exact trivial
    · exact hstep
    · show (owes row).holds _
      have hst : (s.write w S.key row).store =
          s.store.put w S.key (some ⟨row, s.creatorOf w S.key, s.current w⟩) := write_store
      have hcount : S.announcing.count (s.store.view w) = 0 := by
        unfold Announcing.count
        rw [show s.store.view w S.announcing.head = none from hnone, Option.elim_none]
      refine ⟨?_, ⟨row, s.creatorOf w S.key, s.current w⟩, ?_, rfl⟩
      · rw [hst]
        exact Store.holds_put_self
      · rw [hst]
        refine Announcing.InStep.revise hstep (fun k => notes_put_head k) Store.view_put_self ?_
        rw [hcount]
        exact hrev

/-- What an insert does, where it returns. -/
theorem insert_agrees {k : Key} {content : Defaults → Row k} {c : Choice} {s t : World} {a : Row k}
    (hk : ∀ i, k ≠ .index i) (h : exec D w (.insert k content) c s = some (.ok a, t)) :
    s.cell w k = none ∧ s.store.free w k = true ∧
      ∃ d : Cell k, d.row = content c.defaults ∧ Agrees (s.store.put w k (some d)) t.store := by
  rcases exec_insert h with ⟨⟨x, hx⟩, -⟩ | ⟨-, hnone, -, rfl, hf, ht⟩
  · cases hx
  · have hfree : s.store.free w k = true := by
      unfold World.unlocked at hf
      rw [Bool.and_eq_true] at hf
      exact hf.1
    exact ⟨hnone, hfree, _, rfl, ht.agrees_put (pending_writeIndexed hk)⟩

/-- **The first revision of a row that must be new.** -/
theorem insert_owes {row : Row S.key} (hsound : S.Sound row) (hrev : S.revision row = 1) :
    (announcing D main S).Triple w inStep (Call.insert S.key fun _ => row)
      (.ends (fun _ => owes row) (.const True)) := by
  refine call_triple (fun s hs _ c r t hex => ?_) fun c s t r hs _ hstep _ hex => ?_
  · refine kept_of_wrote (e := .insert S.key fun _ => row) hs rfl rfl (fun d hd => ?_)
      (exec_ends (D := D) hex)
    obtain ⟨hnone, hsame, hrow⟩ := hd
    have hrow' : d.row = row := hrow
    rw [hrow']
    refine ⟨hsound, fun old hold => ?_⟩
    cases hnone.symm.trans hold
  · cases r with
    | error x => exact trivial
    | ok a =>
      obtain ⟨hnone, -, d, hrow, h⟩ := insert_agrees (Key.IsOurs.apart S.ours).2.1 hex
      have hcount : S.announcing.count (s.store.view w) = 0 := by
        unfold Announcing.count
        rw [show s.store.view w S.announcing.head = none from hnone, Option.elim_none]
      refine ⟨h.holds Store.holds_put_self, d, h.owes ?_, hrow⟩
      refine Announcing.InStep.revise hstep (fun k => notes_put_head k) Store.view_put_self ?_
      rw [hcount]
      show S.revision d.row = 1
      rw [hrow]
      exact hrev

/-- What is read of the row while it is still to be announced. -/
theorem select_owes {row : Row S.key} :
    (announcing D main S).Triple w (owes row) (Call.select S.key)
      (.ends (fun found => (Protocol.Assertion.const (found = some row)).and (owes row)) (.const True)) := by
  refine call_triple (fun s hs _ c r t hex => ?_) fun c s t r hs _ hA _ hex => ?_
  · rcases exec_select (D := D) hex with ⟨-, rfl⟩ | ⟨-, rfl⟩
    · exact Store.Kept.rollback hs w
    · exact (Agrees.of_eq seeRow_store).kept hs
  · rcases exec_select hex with ⟨⟨x, rfl⟩, -⟩ | ⟨rfl, rfl⟩
    · exact trivial
    · obtain ⟨hh, cell, howes, rfl⟩ := hA
      have hsame : Agrees s.store (s.seeRow w S.key).store := .of_eq seeRow_store
      refine ⟨?_, hsame.holds hh, cell, hsame.owes howes, rfl⟩
      show (s.cell w S.key).map Cell.row = some cell.row
      rw [show s.cell w S.key = some cell from howes.head]
      rfl

/-- **The revision is announced.** -/
theorem insert_announces {row : Row S.key} {content : Defaults → OutboxRow} {e : CloudEvent}
    (hcontent : ∀ d, (content d).content = .event e) (hcovers : S.topic.covers e = true)
    (hid : e.id = S.eventId (S.revision row)) (hrev : e.revision = S.revision row)
    (hdescribes : S.Describes row e) :
    (announcing D main S).Triple w (owes row) (Call.insert (.outbox e.id) content)
      (.ends (fun _ => inStep) (.const True)) := by
  have hkey : Key.outbox e.id ≠ S.key := fun h => (Key.IsOurs.apart S.ours).2.2.1 e.id h.symm
  refine call_triple (fun s hs hA c r t hex => ?_) fun c s t r hs _ hA _ hex => ?_
  · cases exec_ends (D := D) (e := .insert (.outbox e.id) content) hex with
    | same h => exact h.kept hs
    | rolledBack h => exact h.kept (Store.Kept.rollback hs w)
    | committed he _ => cases he
    | wrote k d hw hf _ h =>
      obtain rfl := Option.some.inj hw
      exact h.kept (Store.Kept.put_other hs hf hkey (.inl hA.1))
  · cases r with
    | error x => exact trivial
    | ok a =>
      obtain ⟨hnone, -, d, hrow, h⟩ := insert_agrees (fun i hi => by cases hi) hex
      obtain ⟨-, cell, howes, rfl⟩ := hA
      have hentry : S.announcing.entry (S.announcing.revision cell) = .outbox e.id :=
        congrArg Key.outbox hid.symm
      have hnote : S.announcing.note (.outbox e.id) d = some e := by
        have hevent : (d.row : OutboxRow).content = .event e := by
          rw [hrow, hcontent]
        exact (Topic.note_event hevent).trans (if_pos hcovers)
      refine h.inStep (Announcing.Owes.announce howes ?_ ?_ ?_ (Store.view_put_of_ne hkey.symm) hrev
        hdescribes)
      · rw [hentry]
        exact Announcing.notes_of_none hnone
      · rw [hentry, Announcing.notes_eq Store.view_put_self]
        exact hnote
      · intro k hk
        rw [hentry] at hk
        exact Announcing.notes_congr (Store.view_put_of_ne hk)

/-! ### Recording events -/

/-- **The event of the revision goes into the outbox**, or the transaction fails. -/
theorem recordEvent_announces {row : Row S.key} {e : CloudEvent} (hcovers : S.topic.covers e = true)
    (hid : e.id = S.eventId (S.revision row)) (hrev : e.revision = S.revision row)
    (hdescribes : S.Describes row e) :
    (announcing D main S).Triple w (owes row) (Outbox.recordEvent e)
      (.ends (fun _ => inStep) (.const True)) := by
  unfold Outbox.recordEvent
  split
  · exact .throw fun _ _ _ => trivial
  · split_ifs
    · exact .throw fun _ _ _ => trivial
    · exact .throw fun _ _ _ => trivial
    · refine Protocol.Triple.bind (insert_announces (fun d => rfl) hcovers hid hrev hdescribes)
        (fun _ => .pure fun _ _ h => h) fun _ _ _ h => h

/-- An event about something else. -/
theorem recordEvent_keeps {e : CloudEvent} (h : S.topic.covers e = false) :
    Keeps (inStep : (announcing D main S).Assertion w) _ (Outbox.recordEvent e) := by
  have hΦ : Prog.Closed (Keeps (inStep : (announcing D main S).Assertion w)) := closed_keeps
  unfold Outbox.recordEvent
  split
  · exact hΦ.throw _
  · split_ifs
    · exact hΦ.throw _
    · exact hΦ.throw _
    · refine hΦ.bind (insert_keeps fun d cr wr => ?_) fun _ => hΦ.pure _
      show (if S.topic.covers e then some e else none) = none
      rw [h]
      rfl

/-- A legacy envelope. -/
theorem record_keeps {id : String} {envelope : EventEnvelope} :
    Keeps (inStep : (announcing D main S).Assertion w) _ (Outbox.record id envelope) := by
  have hΦ : Prog.Closed (Keeps (inStep : (announcing D main S).Assertion w)) := closed_keeps
  exact hΦ.bind (insert_keeps fun _ _ _ => rfl) fun _ => hΦ.pure _

end

/-! ### What is committed -/

/-- **A committed event about a topic.** -/
structure About (s : World) (topic : Topic) (id : String) (e : CloudEvent) : Prop where
  held : ∃ row : OutboxRow, (s.store.committed (.outbox id)).map Cell.row = some row ∧
    row.content = .event e
  type : e.type = topic.type
  tenant : e.tenantid = some topic.tenantId
  subject : e.subject = topic.subject

theorem Topic.covers_iff {topic : Topic} {e : CloudEvent} : topic.covers e = true ↔
    (e.type = topic.type ∧ e.tenantid = some topic.tenantId) ∧ e.subject = topic.subject := by
  unfold Topic.covers
  rw [Bool.and_eq_true, Bool.and_eq_true, beq_iff_eq, beq_iff_eq, beq_iff_eq]

section

variable {S : Subject} {s : World} {id : String} {e : CloudEvent}

theorem about_iff : About s S.topic id e ↔
    S.announcing.notes s.store.committed (.outbox id) = some e := by
  constructor
  · rintro ⟨⟨row, hrow, hcontent⟩, htype, htenant, hsubject⟩
    obtain ⟨c, hc, rfl⟩ := Option.map_eq_some_iff.1 hrow
    rw [Announcing.notes_eq hc]
    exact (Topic.note_event hcontent).trans
      (if_pos (Topic.covers_iff.2 ⟨⟨htype, htenant⟩, hsubject⟩))
  · intro h
    cases hc : s.store.committed (.outbox id) with
    | none =>
      rw [Announcing.notes_of_none hc] at h
      cases h
    | some c =>
      rw [Announcing.notes_eq hc] at h
      cases hcontent : (c.row : OutboxRow).content with
      | legacy envelope =>
        cases (Topic.note_legacy hcontent).symm.trans h
      | event e' =>
        obtain ⟨hcov, he⟩ := Option.ite_none_right_eq_some.1 ((Topic.note_event hcontent).symm.trans h)
        obtain rfl := Option.some.inj he
        obtain ⟨⟨htype, htenant⟩, hsubject⟩ := Topic.covers_iff.1 hcov
        exact ⟨⟨c.row, by rw [hc]; rfl, hcontent⟩, htype, htenant, hsubject⟩

theorem revision_eq_iff {r : Nat} (hr : 1 ≤ r) : e.revision = r ↔ e.member "revision" = .int r := by
  unfold CloudEvent.revision
  constructor
  · intro h
    split at h
    · rename_i n hn
      rw [hn]
      have hcast : n = (r : Int) := by omega
      rw [hcast]
    · omega
  · intro h
    rw [h]
    exact Int.toNat_natCast _

/-- **The events of the revisions `1, …, n`**: each revision has one event, at an id of
its own, and there is no other. -/
structure Told (S : Subject) (n : Nat) (s : World) : Prop where
  once : ∀ r, 1 ≤ r → r ≤ n → ∃ e, About s S.topic (S.eventId r) e ∧ e.member "revision" = .int r ∧
    ∀ id e', About s S.topic id e' → e'.member "revision" = .int r → id = S.eventId r ∧ e' = e
  only : ∀ id e, About s S.topic id e →
    ∃ r : Nat, 1 ≤ r ∧ r ≤ n ∧ id = S.eventId r ∧ e.member "revision" = .int r
  apart : ∀ r r', 1 ≤ r → r ≤ n → 1 ≤ r' → r' ≤ n → S.eventId r = S.eventId r' → r = r'

theorem told_of_kept (h : Store.Kept S.announcing s.store) :
    Told S (S.announcing.count s.store.committed) s := by
  have hup := h.inStep.upTo
  have hplaced : ∀ id e, About s S.topic id e → id = S.eventId e.revision ∧ 1 ≤ e.revision ∧
      e.revision ≤ S.announcing.count s.store.committed := by
    intro id e he
    obtain ⟨hk, hlow, hhigh⟩ := hup.placed _ e (about_iff.1 he)
    exact ⟨Key.outbox.inj hk, hlow, hhigh⟩
  have hpresent : ∀ r, 1 ≤ r → r ≤ S.announcing.count s.store.committed →
      ∃ e, About s S.topic (S.eventId r) e ∧ e.revision = r := by
    intro r hlow hhigh
    obtain ⟨e, he, hrev⟩ := hup.present r hlow hhigh
    exact ⟨e, about_iff.2 he, hrev⟩
  have hsame : ∀ {id e e'}, About s S.topic id e → About s S.topic id e' → e = e' := fun he he' =>
    Option.some.inj ((about_iff.1 he).symm.trans (about_iff.1 he'))
  refine ⟨fun r hlow hhigh => ?_, fun id e he => ?_, fun r r' hlow hhigh hlow' hhigh' heq => ?_⟩
  · obtain ⟨e, he, hrev⟩ := hpresent r hlow hhigh
    refine ⟨e, he, (revision_eq_iff hlow).1 hrev, fun id e' he' hrev' => ?_⟩
    have hid := (hplaced id e' he').1
    rw [(revision_eq_iff hlow).2 hrev'] at hid
    subst hid
    exact ⟨rfl, hsame he' he⟩
  · obtain ⟨hid, hlow, hhigh⟩ := hplaced id e he
    exact ⟨e.revision, hlow, hhigh, hid, (revision_eq_iff hlow).1 rfl⟩
  · obtain ⟨e, he, hrev⟩ := hpresent r hlow hhigh
    obtain ⟨e', he', hrev'⟩ := hpresent r' hlow' hhigh'
    rw [heq] at he
    rw [← hrev, ← hrev', hsame he he']

end

end BaobabErp
