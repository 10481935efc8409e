/-
# What the adapter refuses of a planned step

Where the engine accepts every request and every statement returns, the adapter refuses a
step of an accepted plan for its key alone (`Applicable.refused`): the marker of a record may
have more than 255 characters, or a control character, which the client sends in no filter.
-/

import BaobabErp.Concurrency.Answers
import BaobabErp.Integration.Filter
import BaobabErp.Provisioning.NativeIds

namespace BaobabErp
namespace Provisioning

open Python Concurrency Prog

/-! ### Answers -/

/-- The condition by which a record is looked for. -/
def described (text : String) : List RestQuery.Eq := [⟨"Description", .str text⟩]

/-- **The engine accepts every request.**  A filter that the client does not send is refused
by the client. -/
def Served : Event Ans Exc → Prop
  | ⟨.query _ _ text, r⟩ =>
    if (RestQuery.buildFilter (described text)).toBool then ∃ ids, r = .ok ids
    else r = .error (.value "ValueError")
  | ⟨.getRecord _ _ _, r⟩ => ∃ record, r = .ok record
  | ⟨.createRecord _ _ _, r⟩ => ∃ id, r = .ok id
  | ⟨.executeProcess _ _ _, r⟩ => ∃ result, r = .ok result
  | _ => True

/-- The client's record is not known. -/
def NoClient : Event Ans Exc → Prop
  | ⟨.sql (.select (.nativeMapping _ key)), r⟩ => key = IdempiereAdapter.clientAliasKey ∧ r = .ok none
  | _ => False

/-- **Nothing is wrong with the answer**: the engine accepted the request, or the statement
returned; and the client's record is known. -/
def Smooth (y : Event Ans Exc) : Prop :=
  Served y ∧ (∀ q, y.1 = .sql q ∨ y.1 = .commit → ∃ a, y.2 = .ok a) ∧ ¬ NoClient y

/-- Two records were found for one step, or the tenant has another mapping. -/
def IsConflict (x : Exc) : Prop := x = .duplicateNativeRecords ∨ x = .mappingConflict

/-! ### A step's marker -/

/-- **The record of the step can be looked for**: its marker is not too long, and the client
sends it in a filter. -/
def findable (step : ProvisioningStep) : Bool :=
  match IdempiereAdapter.marker step with
  | .ok marker => (RestQuery.buildFilter (described marker)).toBool
  | .error _ => false

theorem findable_iff {step : ProvisioningStep} : findable step = true ↔ ∃ marker,
    IdempiereAdapter.marker step = .ok marker ∧ (RestQuery.buildFilter (described marker)).toBool = true := by
  unfold findable
  cases IdempiereAdapter.marker step with
  | ok marker => simp
  | error x => simp

/-- A marker depends on the key. -/
theorem findable_congr {s t : ProvisioningStep} (h : s.key = t.key) : findable s = findable t := by
  unfold findable IdempiereAdapter.marker
  rw [h]

/-! ### Applying a step -/

/-- What a step of a plan has in its payload, after it got its process id. -/
def Applicable (b : Blueprint) (step : ProvisioningStep) : Prop :=
  match step.kind with
  | .createClient => True
  | .createOrganisation => False
  | .createWarehouse => ∃ code, step.payload.lookup "warehouse_code" = some code
  | .persistMapping => step = mappingStep (stepPrefix b.request b.plan.desiredStateDigest) b.request
  | _ => ∃ process : Int, Json.get step.payload "process_id" = .int process

/-- A step that makes a record can be looked for. -/
def Admitted (step : ProvisioningStep) : Prop :=
  (IdempiereAdapter.table step.kind).isSome = true → findable step = true

/-- Nothing is raised but a conflict. -/
abbrev OnlyConflicts {α : Type} (r : Except Exc α) : Prop := ∀ x, r = .error x → IsConflict x

/-- A program that, when nothing is wrong with its answers, raises nothing but a conflict. -/
abbrev Calm {α : Type} (p : Program α) : Prop := Under Smooth (fun _ => False) OnlyConflicts p

section Calm

variable {α β : Type}

theorem Calm.bind {p : Program α} {f : α → Program β} (hp : Calm p) (hf : ∀ a, Calm (f a)) :
    Calm (p >>= f) := by
  refine Under.bind (hp.mono fun r hr => ?_) fun a (_ : True) => hf a
  exact ⟨fun _ _ => True.intro, fun x hx y hy => Except.error.inj hy ▸ hr x hx⟩

theorem Calm.pure (a : α) : Calm (Pure.pure a : Program α) := nofun

/-- What returned `a` goes on with it. -/
theorem Calm.next {a : α} {f : α → Program β} (h : Calm (f a)) : Calm ((Pure.pure a : Program α) >>= f) := h

theorem calm_perform {e : Eff} (h : ∀ r : Except Exc (Ans e), Smooth ⟨e, r⟩ → ∃ a, r = .ok a) :
    Calm (perform e : Program (Ans e)) := by
  refine Under.perform id ?_
  intro r hr x hx
  obtain ⟨a, ha⟩ := h r hr
  cases ha.symm.trans hx

/-- A statement returns. -/
theorem calm_sql (q : Query) : Calm (Call.sql q) := calm_perform fun _ hr => hr.2.1 q (.inl rfl)

theorem calm_commit : Calm Call.commit := calm_perform fun _ hr => hr.2.1 (.due 0) (.inr rfl)

theorem calm_putNativeId (pid key : String) (id : Int) : Calm (NativeMappings.putNativeId pid key id) :=
  .bind (calm_sql _) fun _ => calm_commit

theorem calm_getRecord (σ : Session) (table : String) (id : Int) : Calm (Call.getRecord σ table id) :=
  calm_perform fun _ hr => hr.1

theorem calm_createRecord (σ : Session) (table : String) (fields : List (String × Json)) :
    Calm (Call.createRecord σ table fields) := calm_perform fun _ hr => hr.1

theorem calm_executeProcess (σ : Session) (process : Int) (parameters : List (String × Json)) :
    Calm (Call.executeProcess σ process parameters) := calm_perform fun _ hr => hr.1

/-- A marker that can be looked for is. -/
theorem calm_findMarked (σ : Session) (table marker : String)
    (h : (RestQuery.buildFilter (described marker)).toBool = true) :
    Calm (IdempiereAdapter.findMarked σ table marker) := by
  have hquery : Calm (Call.query σ table marker) := by
    refine calm_perform fun r hr => ?_
    have hserved : if (RestQuery.buildFilter (described marker)).toBool then ∃ ids, r = .ok ids
        else r = .error (.value "ValueError") := hr.1
    rwa [if_pos h] at hserved
  refine .bind hquery fun ids => ?_
  split
  · exact Calm.pure _
  · exact Calm.pure _
  · exact fun x hx => .inl (Except.error.inj hx).symm

theorem Calm.orRaise {r : Except Exc α} (h : ∃ a, r = .ok a) : Calm (orRaise r) := by
  obtain ⟨a, rfl⟩ := h
  exact .pure a

theorem calm_textParam {value : Json} (h : IsText value) : Calm (textParam value) := by
  obtain ⟨text, rfl⟩ := h
  exact .pure text

theorem calm_createOnce {request : ErpProvisioningRequest} (hpid : IsText request.provisioningId)
    (σ : Session) {step : ProvisioningStep} (table : String) (fields : List (String × Json))
    (h : findable step = true) : Calm (IdempiereAdapter.createOnce σ request step table fields) := by
  obtain ⟨marker, hmarker, hfilter⟩ := findable_iff.1 h
  refine .bind (calm_textParam hpid) fun pid => .bind (calm_sql _) fun found => ?_
  split
  · exact .bind (calm_getRecord _ _ _) fun _ => .pure _
  · rw [hmarker, orRaise_bind]
    refine .bind (calm_findMarked σ table marker hfilter) fun adopted => ?_
    split
    · exact .bind (calm_putNativeId _ _ _) fun _ => .pure _
    · exact .bind (calm_createRecord _ _ _) fun _ => .bind (calm_putNativeId _ _ _) fun _ => .pure _

theorem calm_markApplied {request : ErpProvisioningRequest} (hpid : IsText request.provisioningId)
    (step : ProvisioningStep) : Calm (IdempiereAdapter.markApplied request step) :=
  .bind (calm_textParam hpid) fun _ => calm_putNativeId _ _ _

theorem calm_safeValue {value : Json} (h : IsText value) :
    Calm (Provisioning.orRaise (IdempiereAdapter.safeValue value)) := by
  obtain ⟨text, rfl⟩ := h
  exact .pure _

theorem calm_configure (D : ProvisioningDeployment) {request : ErpProvisioningRequest}
    (hpid : IsText request.provisioningId) (σ : Session) {step : ProvisioningStep} {process : Int}
    (h : Json.get step.payload "process_id" = .int process) :
    Calm (IdempiereAdapter.configure D σ request step) := by
  unfold IdempiereAdapter.configure
  rw [h]
  exact Calm.bind (.pure process) fun _ => .bind (calm_executeProcess σ _ step.payload) fun _ =>
    .bind (calm_markApplied hpid step) fun _ => .pure _

theorem calm_createMapping {tenant entity : String} {adClientId adOrgId : Int} {engineInstance : String}
    (h : strip engineInstance ≠ "") :
    Calm (createMapping tenant entity adClientId adOrgId engineInstance) := by
  refine .bind (calm_sql _) fun existing => ?_
  split
  · rw [if_neg h]
    refine Under.tryCatch ((Calm.bind (calm_sql _) fun _ => .pure ()).mono fun r hr => ?_)
    refine ⟨nofun, fun x hx => ?_⟩
    rcases hr x hx with rfl | rfl
    · exact fun y hy => .inl (Except.error.inj hy).symm
    · exact fun y hy => .inr (Except.error.inj hy).symm
  · split
    · exact fun x hx => .inr (Except.error.inj hx).symm
    · exact Calm.pure _

theorem calm_persistMapping {b : Blueprint} (htyped : b.request.Typed)
    (hengine : ∀ text, b.request.engineInstanceId = .str text → strip text ≠ "") (pre : String) :
    Calm (IdempiereAdapter.persistMapping b.request (mappingStep pre b.request)) := by
  obtain ⟨hpid, -, ⟨tenant, htenant⟩, ⟨entity, hentity⟩, -, -, -, ⟨text, htext⟩, -⟩ := htyped
  refine .bind (calm_markApplied hpid _) fun _ => .bind (calm_textParam hpid) fun pid => ?_
  refine Under.perform_bind id (fun client hclient => ?_) fun x hx => ?_
  · cases client with
    | none => exact absurd ⟨rfl, rfl⟩ hclient.2.2
    | some adClientId =>
      have hget : Json.get (mappingStep pre b.request).payload "engine_instance_id" = .str text := by
        rw [← htext]
        rfl
      dsimp only
      rw [hget]
      dsimp only
      rw [if_neg (hengine text htext)]
      have htenantItem : payloadItem (mappingStep pre b.request) "tenant_id" = pure b.request.tenantId := rfl
      have hentityItem : payloadItem (mappingStep pre b.request) "legal_entity_id" =
        pure b.request.legalEntityId := rfl
      rw [htenantItem]
      refine Calm.next (Calm.bind (calm_textParam ⟨tenant, htenant⟩) fun _ => ?_)
      rw [hentityItem]
      exact Calm.next (Calm.bind (calm_textParam ⟨entity, hentity⟩) fun _ =>
        .bind (calm_createMapping (hengine text htext)) fun _ => .pure _)
  · obtain ⟨a, ha⟩ := hx.2.1 _ (.inl rfl)
    cases ha

/-- **What the adapter refuses of a step of a plan**: nothing, when its record can be looked
for. -/
theorem Applicable.calm {D : ProvisioningDeployment} {b : Blueprint} (htyped : b.request.Typed)
    (hengine : ∀ text, b.request.engineInstanceId = .str text → strip text ≠ "") (σ : Session)
    {step : ProvisioningStep} (h : Applicable b step) (hadmitted : Admitted step) :
    Calm (IdempiereAdapter.apply D σ b.request step) := by
  obtain ⟨hpid, -, -, hentity, -⟩ := id htyped
  unfold Applicable at h
  unfold Admitted at hadmitted
  unfold IdempiereAdapter.apply
  split at h
  · next hkind =>
    rw [hkind] at hadmitted ⊢
    exact .bind (calm_safeValue hentity) fun _ =>
      .bind (calm_createOnce hpid σ _ _ (hadmitted rfl)) fun _ => .bind (calm_textParam hpid) fun _ =>
        .bind (calm_putNativeId _ _ _) fun _ => .pure _
  · cases h
  · next hkind =>
    rw [hkind] at hadmitted ⊢
    obtain ⟨code, hcode⟩ := h
    have hitem : payloadItem step "warehouse_code" = pure code := by
      unfold payloadItem
      rw [hcode]
    dsimp only
    unfold IdempiereAdapter.createWarehouse
    rw [hitem]
    exact Calm.next (Calm.bind (calm_createOnce hpid σ _ _ (hadmitted rfl)) fun _ => .pure _)
  · next hkind =>
    rw [hkind, h]
    exact calm_persistMapping htyped hengine _
  · next hclient horganisation hwarehouse hmapping =>
    obtain ⟨process, hprocess⟩ := h
    split
    · next hkind => exact absurd hkind hclient
    · next hkind => exact absurd hkind horganisation
    · exact calm_configure D hpid σ hprocess
    · exact calm_configure D hpid σ hprocess
    · next hkind => exact absurd hkind hwarehouse
    · next hkind => exact absurd hkind hmapping

end Calm

/-! ### The steps of a plan -/

variable {D : ProvisioningDeployment} {pid : String} {row : OperationRow} {b : Blueprint}

/-- A warehouse's step names its code. -/
theorem warehouse_code {H : Hashes} {R : Runtime} {r : ErpProvisioningRequest} {plan : ProvisioningPlan}
    (h : buildPlan H R r = .ok plan) {step : ProvisioningStep} (hs : step ∈ plan.steps)
    (hk : step.kind = .createWarehouse) : ∃ code, step.payload.lookup "warehouse_code" = some code := by
  obtain ⟨-, markets, steps, -, hsteps, hplan⟩ := buildPlan_cases h
  rw [hplan, List.mem_append, List.mem_append, List.mem_singleton] at hs
  rcases hs with (hs | hs) | rfl
  · unfold firstSteps at hs
    simp only [List.mem_cons, List.not_mem_nil, or_false] at hs
    rcases hs with rfl | rfl <;> cases hk
  · obtain ⟨ss, hss, hs⟩ := List.mem_flatten.1 hs
    obtain ⟨m, -, hmarket⟩ := mem_of_mapM hsteps ss hss
    obtain ⟨warehouses, -, hmarket⟩ := bind_eq_ok hmarket
    obtain ⟨wsteps, hwsteps, hmarket⟩ := bind_eq_ok hmarket
    obtain rfl := Except.ok.inj hmarket
    rcases List.mem_cons.1 hs with rfl | hs
    · cases hk
    · obtain ⟨code, -, hstep⟩ := mem_of_mapM hwsteps step hs
      obtain ⟨zone, -, hstep⟩ := bind_eq_ok hstep
      obtain rfl := Except.ok.inj hstep
      exact ⟨code, rfl⟩
  · cases hk

/-- What is required of a request holds. -/
theorem ready_of_valid {R : Runtime} {r : ErpProvisioningRequest} {checks : List ReadinessCheck}
    (h : requireValidRequest R r = .ok checks) :
    validateRequest R r = .ok checks ∧ ∀ check ∈ checks, check.ready = true := by
  obtain ⟨all, hall, hready⟩ := bind_eq_ok h
  dsimp only at hready
  split at hready
  · next hnone =>
    obtain rfl := Except.ok.inj hready
    refine ⟨hall, fun check hcheck => ?_⟩
    by_contra hne
    have hmem : check ∈ all.filter fun c => !c.ready := List.mem_filter.2 ⟨hcheck, by simpa using hne⟩
    rw [List.isEmpty_iff.1 hnone] at hmem
    cases hmem
  · cases hready

/-- The request of a plan names its engine. -/
theorem engine_named {H : Hashes} {R : Runtime} {r : ErpProvisioningRequest} {plan : ProvisioningPlan}
    (h : buildPlan H R r = .ok plan) {text : String} (htext : r.engineInstanceId = .str text) :
    strip text ≠ "" := by
  obtain ⟨checks, hchecks, -⟩ := bind_eq_ok h
  obtain ⟨hvalidate, hready⟩ := ready_of_valid hchecks
  obtain ⟨required, hrequired, hrest⟩ := bind_eq_ok hvalidate
  obtain ⟨check, hcheck, heq⟩ :=
    mem_of_mapM_left hrequired ("engine_instance_id", r.engineInstanceId) (by simp)
  obtain ⟨accounting, -, hrest⟩ := bind_eq_ok hrest
  obtain ⟨capabilities, -, hrest⟩ := bind_eq_ok hrest
  obtain ⟨markets, -, hrest⟩ := bind_eq_ok hrest
  obtain rfl := Except.ok.inj hrest
  have hvalid := hready check (List.mem_append_left _ hcheck)
  rw [htext] at heq
  obtain rfl := Except.ok.inj heq
  simp only [Bool.and_eq_true, bne_iff_ne] at hvalid
  exact hvalid.1

/-- A step that configures gets its process id. -/
theorem process_of_enriched {processes : Option NativeProvisioningProcesses} {step run : ProvisioningStep}
    (h : enrichStep processes step = .ok run)
    (hk : step.kind = .configureAccounting ∨ step.kind = .configureLocalisation) :
    ∃ process : Int, Json.get run.payload "process_id" = .int process := by
  have hprocess : ∀ process : Int,
      Json.get (step.withProcess process).payload "process_id" = .int process := by
    intro process
    unfold ProvisioningStep.withProcess Json.get
    rw [Json.lookup_insertMember]
    rfl
  unfold enrichStep at h
  rw [if_neg (by rcases hk with hk | hk <;> rw [hk] <;> decide)] at h
  cases processes with
  | none => cases h
  | some p =>
    unfold NativeProvisioningProcesses.enrich at h
    dsimp only at h
    rcases hk with hk | hk
    · rw [hk] at h
      obtain rfl := Except.ok.inj h
      exact ⟨_, hprocess _⟩
    · rw [hk] at h
      dsimp only at h
      split at h
      · cases h
      · split at h
        · cases h
        · split at h
          · cases h
          · obtain rfl := Except.ok.inj h
            exact ⟨_, hprocess _⟩

/-- **Every step that a pass runs has what the adapter reads of it.** -/
theorem Planned.applicable (h : Planned D pid row b) {runnable : List ProvisioningStep}
    (hrun : b.plan.steps.mapM (enrichStep D.processes) = .ok runnable) :
    ∀ step ∈ runnable, Applicable b step := by
  intro step hstep
  obtain ⟨s, hs, he⟩ := mem_of_mapM hrun step hstep
  have hkind := enrichStep_kind he
  unfold Applicable
  cases hk : step.kind with
  | createClient => exact True.intro
  | createOrganisation => exact h.not_organisation hs (hkind.symm.trans hk)
  | configureAccounting => exact process_of_enriched he (.inl (hkind.symm.trans hk))
  | configureLocalisation => exact process_of_enriched he (.inr (hkind.symm.trans hk))
  | createWarehouse =>
    have hs' : step = s := by
      unfold enrichStep at he
      rw [if_pos (by rw [← hkind, hk]; decide)] at he
      exact (Except.ok.inj he).symm
    rw [hs']
    exact warehouse_code h.plan hs (hkind.symm.trans hk)
  | persistMapping =>
    obtain rfl := enrichStep_mapping he (hkind.symm.trans hk)
    rcases steps_cases h.plan hs with rfl | ⟨-, -, hkinds⟩ | rfl
    · cases hk
    · rw [hk] at hkinds
      rcases hkinds with hkinds | hkinds | hkinds <;> cases hkinds
    · rfl

/-- A market has no step that writes the tenant mapping. -/
theorem market_kinds {R : Runtime} {pre : String} {m : MarketConfiguration} {steps : List ProvisioningStep}
    (h : marketSteps R pre m = .ok steps) : ∀ step ∈ steps, step.kind ≠ .persistMapping := by
  obtain ⟨warehouses, -, h⟩ := bind_eq_ok h
  obtain ⟨wsteps, hwsteps, h⟩ := bind_eq_ok h
  obtain rfl := Except.ok.inj h
  intro step hs
  rcases List.mem_cons.1 hs with rfl | hs
  · exact StepKind.noConfusion
  · obtain ⟨code, -, hstep⟩ := mem_of_mapM hwsteps step hs
    obtain ⟨zone, -, hstep⟩ := bind_eq_ok hstep
    obtain rfl := Except.ok.inj hstep
    exact StepKind.noConfusion

/-- **The steps a pass runs**: the client's comes first, and the tenant mapping's last. -/
theorem Planned.runnable_parts (h : Planned D pid row b) {runnable : List ProvisioningStep}
    (hrun : b.plan.steps.mapM (enrichStep D.processes) = .ok runnable) :
    ∃ client rest mapping, runnable = client :: rest ++ [mapping] ∧ client.kind = .createClient ∧
      client.key = stepPrefix b.request b.plan.desiredStateDigest ++ ":client" ∧
      mapping.kind = .persistMapping ∧ ∀ step ∈ client :: rest, step.kind ≠ .persistMapping := by
  obtain ⟨-, markets, steps, -, hsteps, hplan⟩ := buildPlan_cases h.plan
  rw [hplan, List.mapM_append] at hrun
  obtain ⟨before, hbefore, hrun⟩ := bind_eq_ok hrun
  obtain ⟨last, hlast, hrun⟩ := bind_eq_ok hrun
  obtain rfl := Except.ok.inj hrun
  have hkinds : ∀ step ∈ before, step.kind ≠ .persistMapping := by
    intro step hstep
    obtain ⟨s, hs, he⟩ := mem_of_mapM hbefore step hstep
    rw [enrichStep_kind he]
    rcases List.mem_append.1 hs with hs | hs
    · unfold firstSteps at hs
      simp only [List.mem_cons, List.not_mem_nil, or_false] at hs
      rcases hs with rfl | rfl <;> exact StepKind.noConfusion
    · obtain ⟨ss, hss, hs⟩ := List.mem_flatten.1 hs
      obtain ⟨m, -, hmarket⟩ := mem_of_mapM hsteps ss hss
      exact market_kinds hmarket s hs
  obtain ⟨mapping, hmapping, hlast⟩ := bind_eq_ok hlast
  obtain rfl := Except.ok.inj hlast
  unfold firstSteps at hbefore
  rw [List.cons_append, List.mapM_cons] at hbefore
  obtain ⟨client, hclient, hbefore⟩ := bind_eq_ok hbefore
  obtain ⟨rest, -, hbefore⟩ := bind_eq_ok hbefore
  obtain rfl := Except.ok.inj hbefore
  exact ⟨client, rest, mapping, rfl, enrichStep_kind hclient, enrichStep_key hclient,
    enrichStep_kind hmapping, hkinds⟩

end Provisioning
end BaobabErp
