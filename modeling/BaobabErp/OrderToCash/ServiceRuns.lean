/-
# The checks of a command, over any run

What a command checks before it reads or writes anything changes no state, whatever its
calls may do: the clearance, the company of the credentials, the form of an id.
-/

import BaobabErp.OrderToCash.Service
import BaobabErp.Inbox.Executors
import BaobabErp.Platform.Alone

namespace BaobabErp
namespace OrderToCash

open Python Concurrency
open OrderExecution (TenantScope permitted)

/-- The client writes under a marker: it has credentials and, in a protected runtime,
those of the marker's company. -/
def writesUnder (D : Service) (r : Request) (marker : Option TenantScope) : Bool :=
  r.client.any fun σ => !D.platform.protectedRuntime ||
    marker.any fun scope => Egress.companyBound scope (Egress.ofSession σ)

section

variable {State : Type} {step : (e : Eff) → State → Except Exc (Ans e) → State → Prop}
  {D : Service} {r : Request} {s t : State}

theorem deny_run {action reference : String} {x : Except Exc Unit}
    (h : Prog.Alone step (denyLegacyNativeAction D r action reference) s x t) :
    t = s ∧ (x = .ok () → permitted D.platform (r.permit.map permitOf) r.scope action reference) := by
  unfold denyLegacyNativeAction at h
  split at h
  · rename_i hp
    obtain ⟨rfl, rfl⟩ := h.of_pure
    exact ⟨rfl, fun _ => hp⟩
  · obtain ⟨rfl, rfl⟩ := h.of_throw
    exact ⟨rfl, nofun⟩

theorem denyPost_run {invoiceId : String} {x : Except Exc Unit}
    (h : Prog.Alone step (denyLegacyInvoicePost D r invoiceId) s x t) : t = s := by
  unfold denyLegacyInvoicePost at h
  split at h
  · exact h.of_pure.2
  · exact h.of_throw.2

theorem engine_run {x : Except Exc Session} (h : Prog.Alone step (engine r) s x t) :
    t = s ∧ ∀ σ, r.client = some σ → x = .ok σ := by
  unfold engine at h
  cases hc : r.client with
  | none =>
    rw [hc] at h
    exact ⟨h.of_throw.2, nofun⟩
  | some σ =>
    rw [hc] at h
    obtain ⟨rfl, rfl⟩ := h.of_pure
    exact ⟨rfl, fun τ hτ => by rw [Option.some.inj hτ]⟩

theorem writer_run {marker : Option TenantScope} {x : Except Exc Session}
    (h : Prog.Alone step (writer D r marker) s x t) :
    t = s ∧ ∀ σ, x = .ok σ → r.client = some σ ∧ writesUnder D r marker = true := by
  unfold writer at h
  rcases h.of_bind with ⟨z, he, rfl⟩ | ⟨σ, u, he, h₁⟩
  · exact ⟨(engine_run he).1, nofun⟩
  obtain ⟨rfl, hσ⟩ := engine_run he
  have hclient : r.client = some σ := by
    cases hc : r.client with
    | none =>
      unfold engine at he
      rw [hc] at he
      cases he.of_throw.1
    | some τ => rw [Except.ok.inj (hσ τ hc)]
  split at h₁
  · rename_i hb
    obtain ⟨rfl, rfl⟩ := h₁.of_pure
    refine ⟨rfl, fun τ hτ => ⟨by rw [hclient, Except.ok.inj hτ], ?_⟩⟩
    unfold writesUnder
    rw [hclient]
    exact hb
  · obtain ⟨rfl, rfl⟩ := h₁.of_throw
    exact ⟨rfl, nofun⟩

theorem writer_ok {marker : Option TenantScope} (s : State) (hw : writesUnder D r marker = true) :
    ∃ σ, Prog.Alone step (writer D r marker) s (.ok σ) s := by
  unfold writesUnder at hw
  unfold writer engine
  cases hc : r.client with
  | none =>
    rw [hc] at hw
    cases hw
  | some σ =>
    rw [hc, Option.any_some] at hw
    refine ⟨σ, ?_⟩
    show Prog.Alone step (if _ then (pure σ : Program Session) else throw Exc.client) s (.ok σ) s
    rw [if_pos hw]
    exact .ret

theorem uuidParam_run {text : String} {x : Except Exc String}
    (h : Prog.Alone step (uuidParam text) s x t) :
    t = s ∧ (∀ id, x = .ok id → postgresUuid text = some id) ∧
      ∀ id, postgresUuid text = some id → x = .ok id := by
  unfold uuidParam at h
  split at h
  · rename_i id hid
    obtain ⟨rfl, rfl⟩ := h.of_pure
    exact ⟨rfl, fun _ hx => by rw [hid, Except.ok.inj hx],
      fun id' h' => by rw [Option.some.inj (hid.symm.trans h')]⟩
  · rename_i hnone
    obtain ⟨rfl, rfl⟩ := h.of_throw
    exact ⟨rfl, nofun, fun id h' => nomatch hnone.symm.trans h'⟩

end

/-! ### The calls of a command -/

section

variable {Φ : (α : Type) → Program α → Prop} (hΦ : Prog.Closed Φ) {D : Service} {r : Request}
include hΦ

theorem engine_closed : Φ _ (engine r) := by
  unfold engine
  split
  · exact hΦ.pure _
  · exact hΦ.throw _

theorem uuidParam_closed (text : String) : Φ _ (uuidParam text) := by
  unfold uuidParam
  split
  · exact hΦ.pure _
  · exact hΦ.throw _

theorem mappingOf_closed {tenantId type canonicalId : String}
    (hselect : ∀ id, Φ _ (Call.select (.entityMapping tenantId type id))) :
    Φ _ (mappingOf tenantId type canonicalId) :=
  hΦ.bind (uuidParam_closed hΦ _) hselect

theorem observed_closed {α : Type} {read : Program α} {status : α → Option String}
    (hread : Φ _ read) : Φ _ (observed read status) := by
  refine hΦ.tryCatch (hΦ.bind hread fun facts => ?_) fun x => ?_
  · split
    · exact hΦ.pure _
    · exact hΦ.throw _
  · split_ifs
    · exact hΦ.pure _
    · exact hΦ.throw _

theorem money_closed {R : Runtime} {σ : Session} {amount currencyRef : Json}
    (hread : ∀ n, Φ _ (Call.getRecord σ "C_Currency" n)) :
    Φ _ (Accounting.money R σ amount currencyRef) := by
  unfold Accounting.money
  split
  · exact hΦ.throw _
  · split_ifs
    · split
      · exact hΦ.throw _
      · refine hΦ.bind (hread _) fun currency => ?_
        split
        · exact hΦ.throw _
        · split
          · exact hΦ.throw _
          · exact hΦ.throw _
          · exact hΦ.pure _
    · exact hΦ.throw _

theorem readPayment_closed {R : Runtime} {σ : Session} {n : Int}
    (hread : ∀ table n, Φ _ (Call.getRecord σ table n)) : Φ _ (Accounting.readPayment R σ n) :=
  hΦ.bind (hread _ _) fun _ => hΦ.bind (money_closed hΦ (hread _)) fun _ => hΦ.pure _

theorem readInvoice_closed {R : Runtime} {σ : Session} {n : Int}
    (hread : ∀ table n, Φ _ (Call.getRecord σ table n)) : Φ _ (Accounting.readInvoice R σ n) := by
  refine hΦ.bind (hread _ _) fun record => ?_
  split
  · exact hΦ.throw _
  · exact hΦ.bind (money_closed hΦ (hread _)) fun _ => hΦ.pure _

/-! A property of every call that commits nothing is one of the announcements. -/

variable (hcall : ∀ e : Eff, commits e = false → Φ _ (.perform e))
include hcall

theorem advanced_closed {tenantId documentId status : String} {type : DocumentType}
    {detail : Detail} {event : Python.Instant → Outcome.Advanced → Except String CloudEvent} :
    Φ _ (Call.now >>= fun now => Outcome.advance tenantId type documentId status detail now >>=
      fun step => if step.changed then recordEvent (event now step) else pure ()) := by
  refine hΦ.bind (hcall .now rfl) fun now => hΦ.bind (Outcome.advance_closed hΦ
    (hcall (.selectForUpdate _) rfl) (fun _ => hcall (.insertNew _ _) rfl) fun _ =>
    hcall (.update _ _) rfl) fun step => ?_
  split_ifs
  · unfold recordEvent
    split
    · refine Outbox.recordEvent_closed hΦ fun e he _ => hcall e ?_
      cases e <;> first | rfl | cases he
    · exact hΦ.throw _
  · exact hΦ.pure _

theorem announcePayment_closed {paymentId : String} {nativeId : Int}
    {invoiceId : Option String} {requested : Bool} :
    Φ _ (announcePayment D r paymentId nativeId invoiceId requested) := by
  refine hΦ.bind (hΦ.bind (mappingOf_closed hΦ fun _ => hcall (.select _) rfl) fun _ =>
    hΦ.pure _) fun publicId => ?_
  split
  · exact hΦ.pure _
  · refine hΦ.bind (engine_closed hΦ) fun σ => hΦ.bind (observed_closed hΦ
      (readPayment_closed hΦ fun _ _ => hcall (.getRecord _ _ _) rfl)) fun seen => ?_
    split
    · exact hΦ.pure _
    · exact advanced_closed hΦ hcall

theorem announceInvoice_closed {invoiceId : String} {nativeId : Int} {allocated : Bool} :
    Φ _ (announceInvoice D r invoiceId nativeId allocated) := by
  refine hΦ.bind (hcall (.select (.consequenceDocument _ _ _)) rfl) fun order =>
    hΦ.bind (hΦ.bind (mappingOf_closed hΦ fun _ => hcall (.select _) rfl) fun _ => hΦ.pure _) fun publicId => ?_
  split
  · refine hΦ.bind (engine_closed hΦ) fun σ => hΦ.bind (observed_closed hΦ
      (readInvoice_closed hΦ fun _ _ => hcall (.getRecord _ _ _) rfl)) fun seen => ?_
    split
    · exact hΦ.pure _
    · exact advanced_closed hΦ hcall
  · exact hΦ.pure _

end

end OrderToCash
end BaobabErp
