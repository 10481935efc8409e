/-
# What a provisioning pass raises of its own

An `IdempiereApiError` comes from the engine and from nowhere else: neither the reading of
the stored operation, nor the checks of the request, nor a statement of the database raises
one (`candid_stepsPhase`).
-/

import BaobabErp.Concurrency.Raising
import BaobabErp.Provisioning.PassPhases

namespace BaobabErp
namespace Provisioning

open Python Concurrency Execution

/-- The exception is no `IdempiereApiError`. -/
def NotApi (x : Exc) : Prop := ∀ status, x ≠ .api status

/-- A computation that raises none. -/
def NoApi {α : Type} (r : Except Exc α) : Prop := ∀ x, r = .error x → NotApi x

namespace NoApi

variable {α β : Type}

theorem ok (a : α) : NoApi (.ok a : Except Exc α) := nofun

theorem error {x : Exc} (hx : NotApi x) : NoApi (.error x : Except Exc α) :=
  fun _ h => Except.error.inj h ▸ hx

theorem raised (r : Raises α) : NoApi (raised r) := by
  unfold Provisioning.raised
  split
  · exact .ok _
  · exact .error nofun
  · exact .error nofun

theorem bind {r : Except Exc α} {f : α → Except Exc β} (hr : NoApi r) (hf : ∀ a, NoApi (f a)) :
    NoApi (r >>= f) := by
  cases r with
  | ok a => exact hf a
  | error x => exact .error (hr x rfl)

theorem mapM {f : α → Except Exc β} (hf : ∀ a, NoApi (f a)) (xs : List α) : NoApi (xs.mapM f) := by
  induction xs with
  | nil =>
    rw [List.mapM_nil]
    exact .ok _
  | cons x xs ih =>
    rw [List.mapM_cons]
    exact .bind (hf x) fun _ => .bind ih fun _ => .ok _

theorem ite {c : Prop} [Decidable c] {r s : Except Exc α} (hr : NoApi r) (hs : NoApi s) :
    NoApi (if c then r else s) := by
  split
  · exact hr
  · exact hs

end NoApi

/-! ### The request and its plan -/

section Request

variable (R : Runtime)

theorem noApi_textCheck (code : String) (value : Json) : NoApi (textCheck code value) := by
  unfold textCheck
  split
  · exact .ok _
  · exact .error nofun

theorem noApi_join (sep : String) (xs : List Json) : NoApi (join sep xs) := by
  unfold join
  split
  · exact .ok _
  · exact .error nofun

theorem noApi_allM {p : Json → Except Exc Bool} (hp : ∀ x, NoApi (p x)) (xs : List Json) :
    NoApi (allM p xs) := by
  induction xs with
  | nil => exact .ok _
  | cons x xs ih =>
    refine .bind (hp x) fun b => ?_
    cases b
    · exact .ok _
    · exact ih

theorem noApi_isCurrencyCode (x : Json) : NoApi (isCurrencyCode R x) := by
  unfold isCurrencyCode
  split
  · exact .ok _
  · split
    · exact .error nofun
    · exact .ok _
  · split
    · exact .error nofun
    · exact .ok _
  · exact .error nofun

theorem noApi_localisationValid (x : Json) : NoApi (localisationValid R x) := by
  unfold localisationValid
  split
  · split
    · exact .ok _
    · exact .error nofun
  · exact .ok _

theorem noApi_warehouseCodeValid (x : Json) : NoApi (warehouseCodeValid x) := by
  unfold warehouseCodeValid
  split
  · exact .ok _
  · exact .error nofun

theorem noApi_marketChecks (seen : List Json) (m : MarketConfiguration) :
    NoApi (marketChecks R seen m) := by
  unfold marketChecks
  refine .ite (.bind (.error nofun) fun _ => ?_) ?_
  all_goals
    refine .bind (.raised _) fun unknown => .ite (.bind (.ok _) fun _ => ?_)
      (.bind (noApi_join _ _) fun _ => ?_)
  all_goals
    refine .bind (noApi_localisationValid R _) fun _ => .ite (.bind (.ok _) fun _ => ?_)
      (.bind (noApi_allM (noApi_isCurrencyCode R) _) fun _ => ?_)
  all_goals
    refine .bind (noApi_join _ _) fun _ => .ite (.bind (.ok _) fun _ => ?_)
      (.bind (noApi_allM noApi_warehouseCodeValid _) fun _ => ?_)
  all_goals exact .bind (noApi_join _ _) fun _ => .ok _

theorem noApi_allMarketChecks (ms : List MarketConfiguration) :
    ∀ seen, NoApi (allMarketChecks R seen ms) := by
  induction ms with
  | nil => exact fun _ => .ok _
  | cons m ms ih =>
    exact fun seen => .bind (noApi_marketChecks R seen m) fun _ => .bind (ih _) fun _ => .ok _

theorem noApi_capabilityCheck (requested : List Json) : NoApi (capabilityCheck R requested) := by
  unfold capabilityCheck
  refine .bind (.raised _) fun unsupported => .ite (.bind (.ok _) fun _ => .ok _) (.ite ?_ ?_)
  · exact .bind (.ok _) fun _ => .ok _
  · exact .bind (noApi_join _ _) fun _ => .ok _

theorem noApi_validateRequest (r : ErpProvisioningRequest) : NoApi (validateRequest R r) :=
  .bind (.mapM (fun _ => noApi_textCheck _ _) _) fun _ =>
    .bind (.mapM (fun _ => noApi_textCheck _ _) _) fun _ =>
      .bind (noApi_capabilityCheck R _) fun _ => .bind (noApi_allMarketChecks R _ _) fun _ => .ok _

theorem noApi_setDocument (xs : List Json) : NoApi (setDocument R xs) :=
  .bind (.raised _) fun _ => .ok _

theorem noApi_desiredStateDigest (H : Hashes) (r : ErpProvisioningRequest) :
    NoApi (desiredStateDigest H R r) := by
  refine .bind (.bind ?_ fun _ => .ok _) fun _ => .ok _
  exact .bind (.mapM (fun m => .bind (noApi_setDocument R _) fun _ => .ok _) _) fun _ =>
    .bind (noApi_setDocument R _) fun _ => .ok _

theorem noApi_verifiedRequest (H : Hashes) (state : Json) (digest : Option String) :
    NoApi (verifiedRequest H R state digest) := by
  refine .bind ?_ fun request => ?_
  · unfold requestFromState
    split
    · exact .ok _
    · exact .error nofun
    · exact .error nofun
  · split
    · exact .error nofun
    · exact .bind (noApi_desiredStateDigest R H request) fun _ => .ite (.ok _) (.error nofun)

theorem noApi_marketSteps (pre : String) (m : MarketConfiguration) : NoApi (marketSteps R pre m) := by
  refine .bind (.raised _) fun _ => .bind (.mapM (fun code => .bind ?_ fun _ => .ok _) _) fun _ => .ok _
  exact .ite (.ok _) (.error nofun)

theorem noApi_buildPlan (H : Hashes) (r : ErpProvisioningRequest) : NoApi (buildPlan H R r) := by
  refine .bind ?_ fun _ => .bind (noApi_desiredStateDigest R H r) fun _ => .bind (.raised _) fun _ =>
    .bind (.mapM (noApi_marketSteps R _) _) fun _ => .ok _
  exact .bind (noApi_validateRequest R r) fun _ => .ite (.ok _) (.error nofun)

theorem noApi_storedStep (row : Json) : NoApi (storedStep row) := by
  refine .bind (.raised _) fun key => .bind (.raised _) fun kind => .bind ?_ fun _ =>
    .bind (.raised _) fun _ => .bind (.raised _) fun payload => ?_
  · unfold StepKind.ofJson
    split
    · split
      · exact .ok _
      · exact .error nofun
    · exact .error nofun
  · split
    · exact .ok _
    · exact .ok _

theorem noApi_approvedSteps (H : Hashes) (r : ErpProvisioningRequest) (rows : List Json) :
    NoApi (approvedSteps H R r rows) := by
  refine .bind (.mapM noApi_storedStep _) fun stored => .bind (noApi_buildPlan R H r) fun plan => ?_
  split
  · exact .ite (.ok _) (.error nofun)
  · exact .error nofun

end Request

theorem noApi_enrichStep (processes : Option NativeProvisioningProcesses) (step : ProvisioningStep) :
    NoApi (enrichStep processes step) := by
  unfold enrichStep
  refine .ite (.ok _) ?_
  split
  · exact .error nofun
  · unfold NativeProvisioningProcesses.enrich
    split
    · exact .ok _
    · split
      · exact .error nofun
      · refine .ite (.error nofun) ?_
        split
        · exact .error nofun
        · exact .ok _
    · exact .ok _

theorem noApi_prepare (D : ProvisioningDeployment) (state : Json) (digest : Option String)
    (plan : List Json) : NoApi (prepare D state digest plan) := by
  refine .bind (noApi_verifiedRequest _ _ _ _) fun request =>
    .bind (noApi_approvedSteps _ _ _ _) fun steps => .bind (.ite (.ok _) (.error nofun)) fun session => ?_
  split
  · exact .error nofun
  · exact .bind (.mapM (noApi_enrichStep _) _) fun _ => .ok _

/-! ### The programs of a pass -/

/-- The calls of the engine. -/
def Eff.OfEngine : Eff → Prop
  | .query .. => True
  | .getRecord .. => True
  | .createRecord .. => True
  | .executeProcess .. => True
  | _ => False

/-- What a step of a plan does, besides reading: a call of the engine, a native id, its mark. -/
def Eff.OfStep : Eff → Prop
  | .sql (.upsert (.step _ _) _ _) => True
  | .sql (.upsert (.nativeMapping _ _) _ _) => True
  | e => e.OfEngine

theorem Eff.OfEngine.ofStep {e : Eff} (h : e.OfEngine) : e.OfStep := by
  cases e with
  | sql q => exact h.elim
  | _ => exact h

/-- A program of a pass: what the engine raises ends it, and no `IdempiereApiError` comes from
elsewhere. -/
abbrev Candid {α : Type} (p : Program α) : Prop := Prog.PassesOn Eff.OfEngine NotApi p

section Programs

open Prog

variable (D : ProvisioningDeployment)

theorem candid_orRaise {α : Type} {r : Except Exc α} (hr : NoApi r) : Candid (orRaise r) := by
  cases r with
  | ok a => exact .pure a
  | error x => exact .throw (hr x rfl)

theorem candid_textParam (value : Json) : Candid (textParam value) := by
  unfold textParam
  split
  · exact .pure _
  · exact .throw nofun

theorem candid_payloadItem (step : ProvisioningStep) (name : String) : Candid (payloadItem step name) := by
  unfold payloadItem
  split
  · exact .pure _
  · exact .throw fun _ h => by cases h

theorem candid_putNativeId (pid key : String) (id : Int) : Candid (NativeMappings.putNativeId pid key id) :=
  .bind (.perform _) fun _ => .perform _

/-- A program of the database alone that leaves the steps as they are, and raises no
`IdempiereApiError`. -/
structure Local {α : Type} (p : Program α) : Prop where
  leaves : ¬ Calls Eff.OfStep p
  candid : Candid p

namespace Local

variable {α β : Type}

theorem quiet {p : Program α} (h : Local p) : ¬ Calls Eff.OfEngine p :=
  fun hcalls => h.leaves (hcalls.imp fun _ he => he.ofStep)

theorem pure (a : α) : Local (Pure.pure a : Program α) := ⟨closed_quiet.pure a, .pure a⟩

theorem throw {x : Exc} (hx : NotApi x) : Local (MonadExcept.throw x : Program α) :=
  ⟨closed_quiet.throw x, .throw hx⟩

theorem perform {e : Eff} (he : ¬ e.OfStep) : Local (Prog.perform e : Program (Ans e)) :=
  ⟨quiet_perform he, .perform e⟩

theorem bind {p : Program α} {f : α → Program β} (hp : Local p) (hf : ∀ a, Local (f a)) :
    Local (p >>= f) :=
  ⟨closed_quiet.bind hp.leaves fun a => (hf a).leaves, .bind hp.candid fun a => (hf a).candid⟩

theorem ite {c : Prop} [Decidable c] {p q : Program α} (hp : Local p) (hq : Local q) :
    Local (if c then p else q) := by
  split
  · exact hp
  · exact hq

theorem orRaise {r : Except Exc α} (hr : NoApi r) : Local (orRaise r) := by
  cases r with
  | ok a => exact .pure a
  | error x => exact .throw (hr x rfl)

end Local

theorem local_recordEvent (event : CloudEvent) : Local (recordEvent event) := by
  unfold recordEvent
  split
  · exact .throw nofun
  · split
    · exact .throw nofun
    · split
      · exact .throw nofun
      · exact .bind (.perform fun h => h) fun _ => .pure _

theorem local_advanced (op : String) (state : CommandState) (code : Option String) :
    Local (do
      match ← Call.sql (.update (.command op) (CommandStore.advanced state code)) with
      | none => pure none
      | some (row : CommandRow) => do
        CommandStore.announce D op row
        pure (some row)) := by
  refine .bind (.perform fun h => h) fun row => ?_
  split
  · exact .pure _
  · refine .bind (.bind (.orRaise ?_) fun _ => local_recordEvent _) fun _ => .pure _
    unfold CommandEvents.provisioningChanged
    split
    · exact .ok _
    · exact .error fun _ h => by cases h

theorem local_advance (op : String) (state : CommandState) (code : Option String) :
    Local (CommandStore.advance D op state code) := by
  unfold CommandStore.advance
  split
  · exact .bind (.throw fun _ h => by cases h) fun _ => local_advanced D op state code
  · exact local_advanced D op state code

theorem local_setStatus (pid : String) (status : ProvisioningStatus) (error : Option String) :
    Local (ProvisioningStore.setStatus D pid status error) := by
  refine .bind (.perform fun h => h) fun _ => .bind ?_ fun _ => .perform fun h => h
  unfold CommandStore.project
  refine .bind (.perform fun h => h) fun owner => ?_
  split
  · exact .pure _
  · refine .bind (.perform fun h => h) fun _ => .bind (.perform fun h => h) fun _ =>
      .bind (.orRaise ?_) fun _ => local_advance D _ _ _
    unfold derive
    exact .ite (.error nofun) (.ite (.ok _) (.ite (.ok _) (.ite (.ok _) (.ite (.ok _)
      (.ite (.ok _) (.ite (.ok _) (.ok _)))))))

theorem candid_createOnce (σ : Session) (request : ErpProvisioningRequest) (step : ProvisioningStep)
    (table : String) (fields : List (String × Json)) :
    Candid (IdempiereAdapter.createOnce σ request step table fields) := by
  refine .bind (candid_textParam _) fun pid => .bind (.perform _) fun found => ?_
  split
  · exact .bind (.perform _) fun _ => .pure _
  · refine .bind (candid_orRaise (.ite (.error nofun) (.ok _))) fun marker => .bind ?_ fun adopted => ?_
    · refine .bind (.perform _) fun ids => ?_
      split
      · exact .pure _
      · exact .pure _
      · exact .throw nofun
    · split
      · exact .bind (candid_putNativeId _ _ _) fun _ => .pure _
      · exact .bind (.perform _) fun _ => .bind (candid_putNativeId _ _ _) fun _ => .pure _

theorem candid_safeValue (value : Json) : Candid (orRaise (IdempiereAdapter.safeValue value)) := by
  refine candid_orRaise ?_
  unfold IdempiereAdapter.safeValue
  split
  · exact .ok _
  · exact .error nofun

theorem candid_markApplied (request : ErpProvisioningRequest) (step : ProvisioningStep) :
    Candid (IdempiereAdapter.markApplied request step) :=
  .bind (candid_textParam _) fun _ => candid_putNativeId _ _ _

theorem candid_configure (σ : Session) (request : ErpProvisioningRequest) (step : ProvisioningStep) :
    Candid (IdempiereAdapter.configure D σ request step) := by
  have hrun : ∀ value : Json, Candid (do
      let process ← orRaise (raised (value.toInt D.runtime))
      let result ← Call.executeProcess σ process step.payload
      IdempiereAdapter.markApplied request step
      pure (Json.obj [("process_id", .int process), ("result", result)])) := fun value =>
    .bind (candid_orRaise (.raised _)) fun _ => .bind (.perform _) fun _ =>
      .bind (candid_markApplied _ _) fun _ => .pure _
  unfold IdempiereAdapter.configure
  dsimp only
  split
  · exact .bind (.throw nofun) fun _ => hrun _
  · exact hrun _

theorem candid_insertMapping (tenant entity : String) (row : TenantMappingRow) :
    Candid (tryCatch
      (do
        let _ ← Call.sql (.insert (.tenantMapping tenant entity) fun _ => row)
        pure ())
      fun
        | .uniqueViolation => throw .mappingConflict
        | x => throw x) := by
  refine .tryCatch (.bind (.perform _) fun _ => .pure _) ?_ fun x hx => ?_
  · exact closed_quiet.bind (quiet_perform id) fun _ => closed_quiet.pure _
  · split
    · exact .throw fun _ h => by cases h
    · exact .throw hx

theorem candid_createMapping (tenant entity : String) (adClientId adOrgId : Int)
    (engineInstance : String) : Candid (createMapping tenant entity adClientId adOrgId engineInstance) := by
  refine .bind (.perform _) fun existing => ?_
  split
  · split
    · exact .bind (.throw fun _ h => by cases h) fun _ => candid_insertMapping _ _ _
    · exact candid_insertMapping _ _ _
  · split
    · exact .throw fun _ h => by cases h
    · exact .pure _

theorem candid_persistMapping (request : ErpProvisioningRequest) (step : ProvisioningStep) :
    Candid (IdempiereAdapter.persistMapping request step) := by
  refine .bind (candid_markApplied _ _) fun _ => .bind (candid_textParam _) fun pid =>
    .bind (.perform _) fun client => ?_
  split
  · exact .throw nofun
  · next adClientId =>
    split
    · next engineInstance hinstance =>
      have hmapping : Candid (do
          let tenant ← textParam (← payloadItem step "tenant_id")
          let entity ← textParam (← payloadItem step "legal_entity_id")
          createMapping tenant entity adClientId 0 engineInstance
          pure (Json.obj [("canonical", .obj step.payload), ("persisted", .bool true),
            ("tenant_mapping", .obj [("ad_client_id", .int adClientId), ("ad_org_id", .int 0),
              ("engine_instance_id", .str engineInstance)])])) :=
        .bind (candid_payloadItem _ _) fun _ => .bind (candid_textParam _) fun _ =>
          .bind (candid_payloadItem _ _) fun _ => .bind (candid_textParam _) fun _ =>
            .bind (candid_createMapping _ _ _ _ _) fun _ => .pure _
      split
      · exact .bind (.throw nofun) fun _ => hmapping
      · exact hmapping
    · exact .throw nofun

theorem candid_apply (σ : Session) (request : ErpProvisioningRequest) (step : ProvisioningStep) :
    Candid (IdempiereAdapter.apply D σ request step) := by
  unfold IdempiereAdapter.apply
  split
  · exact .bind (candid_safeValue _) fun _ => .bind (candid_createOnce _ _ _ _ _) fun _ =>
      .bind (candid_textParam _) fun _ => .bind (candid_putNativeId _ _ _) fun _ => .pure _
  · exact .bind (candid_safeValue _) fun _ => .bind (candid_createOnce _ _ _ _ _) fun _ => .pure _
  · exact candid_configure D σ request step
  · exact candid_configure D σ request step
  · exact .bind (candid_payloadItem _ _) fun _ => .bind (candid_createOnce _ _ _ _ _) fun _ => .pure _
  · exact candid_persistMapping request step

theorem candid_applySteps (σ : Session) (request : ErpProvisioningRequest) (pid : String)
    (steps : List ProvisioningStep) : Candid (applySteps D σ request pid steps) := by
  induction steps with
  | nil => exact .pure _
  | cons step steps ih =>
    exact .bind (candid_apply D σ request step) fun _ =>
      .bind (.bind (.perform _) fun _ => .perform _) fun _ => ih

/-! ### The warehouses -/

theorem local_findNative (row : WarehouseRow) (byCode : Option String) :
    Local (WarehouseIdentity.findNative row byCode) := by
  refine .bind (.perform fun h => h) fun byNative => ?_
  extract_lets answer checked
  have hanswer : ∀ u, Local (answer u) := by
    intro _
    unfold answer
    split
    · exact .ite (.throw fun _ h => by cases h) (.pure _)
    · exact .pure _
    · exact .pure _
  have hchecked : ∀ native, Local (checked native) := fun native =>
    .ite (.bind (.throw fun _ h => by cases h) fun _ => hanswer ()) (hanswer ())
  cases byNative with
  | some id => exact .bind (.perform fun h => h) hchecked
  | none => exact .bind (.pure _) hchecked

theorem local_find (row : WarehouseRow) : Local (WarehouseIdentity.find row) := by
  rw [WarehouseIdentity.find_eq]
  refine .bind (.perform fun h => h) fun byCode => ?_
  extract_lets jp
  have hjp : ∀ u, Local (jp u) := fun _ => local_findNative row byCode
  split
  · exact .bind (.perform fun h => h) fun _ => hjp ()
  · exact hjp ()

theorem local_warehouseAdvance (row : WarehouseRow) (id : String) :
    Local (WarehouseIdentity.advance D row id) := by
  refine .bind (.perform fun h => h) fun found => ?_
  extract_lets jp
  have hjp : ∀ inserted, Local (jp inserted) := by
    intro inserted
    refine .ite (.pure _) (.bind (.perform fun h => h) fun moved => ?_)
    split
    · exact .pure _
    · exact .pure _
  split
  · exact .bind (.pure _) fun inserted => hjp inserted
  · exact .bind (.perform fun h => h) fun inserted => hjp inserted

theorem local_recordRow (row : WarehouseRow) (now : Instant) :
    Local (WarehouseIdentity.recordRow D row now) := by
  refine .bind (.perform fun h => h) fun _ => .bind (local_find row) fun found => ?_
  extract_lets jp
  have hjp : ∀ id, Local (jp id) := by
    intro id
    refine .bind (local_warehouseAdvance D row id) fun moved => ?_
    split
    · refine .bind (.orRaise ?_) fun event => local_recordEvent event
      unfold WarehouseIdentity.changedEvent
      dsimp only
      split
      · exact .ok _
      · exact .error nofun
    · exact .pure _
  split
  · exact .bind (.perform fun h => h) fun _ => .bind (.perform fun h => h) fun _ => .bind (.pure _) fun id => hjp id
  · exact .bind (.perform fun h => h) fun _ => .bind (.pure _) fun id => hjp id

theorem candid_warehouseRecord (row : WarehouseRow) (now : Instant) :
    Candid (WarehouseIdentity.record D row now) := by
  have hbody : Local (do WarehouseIdentity.recordRow D row now; Call.commit) :=
    .bind (local_recordRow D row now) fun _ => .perform fun h => h
  exact .tryCatch hbody.candid hbody.quiet fun x hx => .bind (.perform _) fun _ => .throw hx

theorem candid_registerWarehouse (request : ErpProvisioningRequest) (step : ProvisioningStep) :
    Candid (registerWarehouse D request step) := by
  refine .bind (candid_textParam _) fun pid => .bind (.perform _) fun found => ?_
  split
  · exact .pure _
  · refine .bind (candid_payloadItem _ _) fun code => .bind (candid_payloadItem _ _) fun market =>
      .bind ?_ fun country => ?_
    · unfold countryOf
      split
      · exact .pure _
      · exact .throw nofun
    · extract_lets jp
      have hjp : ∀ timezone, Candid (jp timezone) := fun timezone =>
        .bind (.perform _) fun _ => .bind (candid_textParam _) fun _ => .bind (candid_textParam _) fun _ =>
          .bind (candid_textParam _) fun _ => .bind (candid_textParam _) fun _ =>
            .bind (candid_textParam _) fun _ => .bind (candid_textParam _) fun _ =>
              candid_warehouseRecord D _ _
      split
      · exact .bind (.pure _) fun timezone => hjp timezone
      · exact .bind (candid_textParam _) fun _ => .bind (.pure _) fun timezone => hjp timezone

theorem candid_registerWarehouses (request : ErpProvisioningRequest) (steps : List ProvisioningStep) :
    Candid (registerWarehouses D request steps) := by
  induction steps with
  | nil => exact .pure _
  | cons step steps ih =>
    unfold registerWarehouses
    split
    · exact .bind (candid_registerWarehouse D request step) fun _ => ih
    · exact ih

/-- **What a step's engine call raises ends the first phase**, and no `IdempiereApiError` comes
from elsewhere. -/
theorem candid_stepsPhase (operation : LoadedOperation) : Candid (stepsPhase D operation) := by
  have hlast : Candid (do
      if operation.status != .reconciling then
        ProvisioningStore.setStatus D operation.provisioningId .reconciling none) := by
    split
    · exact (local_setStatus D _ _ _).candid
    · exact .pure _
  refine .bind (candid_orRaise (noApi_prepare D _ _ _)) fun prepared => .bind ?_ fun _ => .pure _
  refine .bind (.perform _) fun done => ?_
  have hsteps : ∀ steps, Candid (do
      applySteps D prepared.2.1 prepared.1 operation.provisioningId steps
      registerWarehouses D prepared.1 prepared.2.2
      if operation.status != .reconciling then
        ProvisioningStore.setStatus D operation.provisioningId .reconciling none) := fun steps =>
    .bind (candid_applySteps D _ _ _ steps) fun _ => .bind (candid_registerWarehouses D _ _) fun _ => hlast
  dsimp only
  split
  · exact .bind ((local_setStatus D _ _ _).candid) fun _ => hsteps _
  · exact hsteps _

end Programs

end Provisioning
end BaobabErp
