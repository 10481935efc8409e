/-
# The steps of an accepted operation

What an operation was accepted from is settled by its row (`Planned.agree`), and
the steps a pass prepares are those of its plan (`Planned.prepared`).  A step is
known by its key: it names the kind (`kind_of_key`) and makes the marker one of
the operation's own (`markerOf_key`).
-/

import BaobabErp.Provisioning.Coordination

namespace BaobabErp
namespace Provisioning

open Python Concurrency

variable {D : ProvisioningDeployment} {pid : String} {row : OperationRow} {b b' : Blueprint}

/-! ### One blueprint -/

theorem readRequest_desiredState {R : Runtime} {r : ErpProvisioningRequest} {state : Json}
    (hr : r.Typed) (h : desiredState R r = .ok state) : readRequest R state = .ok r := by
  obtain ⟨state', h', hread⟩ := requestFromState_desiredState (R := R) hr
  obtain rfl : state = state' := Except.ok.inj (h.symm.trans h')
  unfold requestFromState at hread
  split at hread
  · rename_i s hs
    rw [hs, ← Except.ok.inj hread]
  · cases hread
  · cases hread

/-- **A row was accepted from one request**, so from one plan, tenant, legal entity
and engine. -/
theorem Planned.agree (h : Planned D pid row b) (h' : Planned D pid row b') :
    b'.request = b.request ∧ b'.plan = b.plan ∧ b'.assignment.tenantId = b.assignment.tenantId ∧
      b'.assignment.legalEntityId = b.assignment.legalEntityId ∧
      b'.assignment.engineInstanceId = b.assignment.engineInstanceId := by
  have hreq : b'.request = b.request :=
    Except.ok.inj ((readRequest_desiredState h'.typed h'.state).symm.trans
      (readRequest_desiredState h.typed h.state))
  have hplan := h'.plan
  have htenant := h'.tenant
  have hentity := h'.legalEntity
  have hengine := h'.engine
  rw [hreq, h.plan] at hplan
  rw [hreq, h.tenant] at htenant
  rw [hreq, h.legalEntity] at hentity
  rw [hreq, h.engine] at hengine
  exact ⟨hreq, (Except.ok.inj hplan).symm, (Json.str.inj htenant).symm, (Json.str.inj hentity).symm,
    (Json.str.inj hengine).symm⟩

/-! ### Keys -/

/-- What follows the first part of a step's key. -/
def tagOf : StepKind → String
  | .createClient => ":client"
  | .createOrganisation => ":organisation"
  | .configureAccounting => ":accounting"
  | .configureLocalisation => ":market:"
  | .createWarehouse => ":warehouse:"
  | .persistMapping => ":mapping"

theorem tagOf_inj {k l : StepKind} (h : (tagOf k).toList <+: (tagOf l).toList) : k = l := by
  have hall : ∀ k ∈ StepKind.all, ∀ l ∈ StepKind.all,
      (tagOf k).toList.isPrefixOf (tagOf l).toList = true → k = l := by decide
  exact hall k (by cases k <;> decide) l (by cases l <;> decide) (List.isPrefixOf_iff_prefix.2 h)

/-- **The steps of a plan**: the client's, those of accounting, of the markets and of
their warehouses, and the one that writes the tenant mapping. -/
theorem steps_cases {H : Hashes} {R : Runtime} {r : ErpProvisioningRequest}
    {plan : ProvisioningPlan} (h : buildPlan H R r = .ok plan) {step : ProvisioningStep}
    (hs : step ∈ plan.steps) :
    step = ⟨stepPrefix r plan.desiredStateDigest ++ ":client", .createClient,
        [("Name", r.legalName)]⟩ ∨
      (∃ rest, step.key = stepPrefix r plan.desiredStateDigest ++ tagOf step.kind ++ rest ∧
        (step.kind = .configureAccounting ∨ step.kind = .configureLocalisation ∨
          step.kind = .createWarehouse)) ∨
      step = mappingStep (stepPrefix r plan.desiredStateDigest) r := by
  obtain ⟨-, markets, steps, -, hsteps, hplan⟩ := buildPlan_cases h
  rw [hplan, List.mem_append, List.mem_append, List.mem_singleton] at hs
  rcases hs with (hs | hs) | rfl
  · unfold firstSteps at hs
    simp only [List.mem_cons, List.not_mem_nil, or_false] at hs
    rcases hs with rfl | rfl
    · exact .inl rfl
    · exact .inr (.inl ⟨"", (String.append_empty).symm, .inl rfl⟩)
  · obtain ⟨ss, hss, hs⟩ := List.mem_flatten.1 hs
    obtain ⟨m, -, hmarket⟩ := mem_of_mapM hsteps ss hss
    obtain ⟨warehouses, -, hmarket⟩ := bind_eq_ok hmarket
    obtain ⟨wsteps, hwsteps, hmarket⟩ := bind_eq_ok hmarket
    obtain rfl := Except.ok.inj hmarket
    rcases List.mem_cons.1 hs with rfl | hs
    · exact .inr (.inl ⟨_, rfl, .inr (.inl rfl)⟩)
    · obtain ⟨code, -, hstep⟩ := mem_of_mapM hwsteps step hs
      obtain ⟨zone, -, hstep⟩ := bind_eq_ok hstep
      obtain rfl := Except.ok.inj hstep
      refine .inr (.inl ⟨OrderExecution.textOf m.marketId ++ ":" ++ OrderExecution.textOf code, ?_,
        .inr (.inr rfl)⟩)
      simp only [tagOf, String.append_assoc]
  · exact .inr (.inr rfl)

/-- **The key of a step** begins with the operation's id and names the step's kind. -/
theorem key_of_mem {H : Hashes} {R : Runtime} {r : ErpProvisioningRequest} {plan : ProvisioningPlan}
    (h : buildPlan H R r = .ok plan) {step : ProvisioningStep} (hs : step ∈ plan.steps) :
    ∃ rest, step.key = stepPrefix r plan.desiredStateDigest ++ tagOf step.kind ++ rest := by
  rcases steps_cases h hs with rfl | ⟨rest, hkey, -⟩ | rfl
  · exact ⟨"", (String.append_empty).symm⟩
  · exact ⟨rest, hkey⟩
  · exact ⟨"", (String.append_empty).symm⟩

/-- **Steps with one key are of one kind.** -/
theorem kind_of_key {H : Hashes} {R : Runtime} {r : ErpProvisioningRequest} {plan : ProvisioningPlan}
    (h : buildPlan H R r = .ok plan) {s t : ProvisioningStep} (hs : s ∈ plan.steps)
    (ht : t ∈ plan.steps) (hkey : s.key = t.key) : s.kind = t.kind := by
  obtain ⟨u, hu⟩ := key_of_mem h hs
  obtain ⟨v, hv⟩ := key_of_mem h ht
  rw [hu, hv] at hkey
  have hlist := congrArg String.toList hkey
  simp only [String.toList_append, List.append_assoc] at hlist
  have htail := List.append_cancel_left hlist
  rcases List.prefix_or_prefix_of_prefix (htail ▸ List.prefix_append _ u.toList)
    (List.prefix_append (tagOf t.kind).toList v.toList) with hp | hp
  · exact tagOf_inj hp
  · exact (tagOf_inj hp).symm

/-- **The marker of a step is one of the operation's.** -/
theorem Planned.markerOf (h : Planned D pid row b) {step : ProvisioningStep}
    (hs : step ∈ b.plan.steps) : MarkerOf pid (IdempiereAdapter.markerPrefix ++ step.key) := by
  obtain ⟨rest, hkey⟩ := key_of_mem h.plan hs
  rw [hkey]
  unfold stepPrefix MarkerOf
  rw [h.provisioningId]
  simp only [OrderExecution.textOf, String.toList_append, List.append_assoc]
  exact List.prefix_append_right_inj _ |>.2 (List.prefix_append_right_inj _ |>.2
    (List.prefix_append _ _))

theorem kind_value_colon (k : StepKind) : ':' ∉ k.value.toList := by cases k <;> decide

/-- The resource key of a step names its kind and its key. -/
theorem resourceKey_inj {s t : ProvisioningStep}
    (h : IdempiereAdapter.resourceKey s = IdempiereAdapter.resourceKey t) :
    s.kind = t.kind ∧ s.key = t.key := by
  have hlist := congrArg String.toList h
  unfold IdempiereAdapter.resourceKey at hlist
  simp only [String.toList_append, List.append_assoc] at hlist
  obtain ⟨hkind, hkey⟩ := CustomerProjection.append_colon_inj (kind_value_colon _)
    (kind_value_colon _) hlist
  refine ⟨?_, String.toList_inj.1 hkey⟩
  have hvalue := String.toList_inj.1 hkind
  have := StepKind.ofJson_value s.kind
  rw [hvalue, StepKind.ofJson_value] at this
  exact (Except.ok.inj this).symm

theorem resourceKey_ne_alias (s : ProvisioningStep) :
    IdempiereAdapter.resourceKey s ≠ IdempiereAdapter.clientAliasKey := by
  intro h
  have hlist := congrArg String.toList h
  unfold IdempiereAdapter.resourceKey IdempiereAdapter.clientAliasKey at hlist
  simp only [String.toList_append, List.append_assoc] at hlist
  have halias : "AD_Client:primary".toList = "AD_Client".toList ++ ':' :: "primary".toList := by
    decide
  rw [halias] at hlist
  obtain ⟨hkind, -⟩ := CustomerProjection.append_colon_inj (kind_value_colon _) (by decide) hlist
  revert hkind
  cases s.kind <;> decide

/-- The step that writes the tenant mapping, and what it names. -/
theorem Planned.mappingStep (h : Planned D pid row b) {step : ProvisioningStep}
    (hs : step ∈ b.plan.steps) (hk : step.kind = .persistMapping) :
    step.payload = [("tenant_id", .str b.assignment.tenantId),
      ("legal_entity_id", .str b.assignment.legalEntityId),
      ("engine_instance_id", .str b.assignment.engineInstanceId),
      ("plan_digest", b.request.planDigest)] := by
  rcases steps_cases h.plan hs with rfl | ⟨-, -, hkind⟩ | rfl
  · cases hk
  · rw [hk] at hkind
    rcases hkind with hkind | hkind | hkind <;> cases hkind
  · unfold Provisioning.mappingStep
    rw [h.tenant, h.legalEntity, h.engine]

/-- The client's step, the only one of its kind. -/
theorem Planned.client_eq (h : Planned D pid row b) {step : ProvisioningStep}
    (hs : step ∈ b.plan.steps) (hk : step.kind = .createClient) :
    step = ⟨stepPrefix b.request b.plan.desiredStateDigest ++ ":client", .createClient,
      [("Name", b.request.legalName)]⟩ := by
  rcases steps_cases h.plan hs with hstep | ⟨-, -, hkind⟩ | rfl
  · exact hstep
  · rw [hk] at hkind
    rcases hkind with hkind | hkind | hkind <;> cases hkind
  · cases hk

theorem Planned.not_organisation (h : Planned D pid row b) {step : ProvisioningStep}
    (hs : step ∈ b.plan.steps) : step.kind ≠ .createOrganisation := by
  rcases steps_cases h.plan hs with rfl | ⟨-, -, hkind⟩ | rfl
  · exact StepKind.noConfusion
  · rcases hkind with hkind | hkind | hkind <;> rw [hkind] <;> exact StepKind.noConfusion
  · exact StepKind.noConfusion

theorem Planned.client_mem (h : Planned D pid row b) :
    ∃ step ∈ b.plan.steps, step.kind = .createClient := by
  obtain ⟨-, markets, steps, -, -, hplan⟩ := buildPlan_cases h.plan
  refine ⟨⟨stepPrefix b.request b.plan.desiredStateDigest ++ ":client", .createClient,
    [("Name", b.request.legalName)]⟩, ?_, rfl⟩
  rw [hplan]
  exact List.mem_append_left _ (List.mem_append_left _ List.mem_cons_self)

theorem Planned.mapping_mem (h : Planned D pid row b) :
    ∃ step ∈ b.plan.steps, step.kind = .persistMapping := by
  obtain ⟨-, markets, steps, -, -, hplan⟩ := buildPlan_cases h.plan
  refine ⟨Provisioning.mappingStep (stepPrefix b.request b.plan.desiredStateDigest) b.request, ?_, rfl⟩
  rw [hplan]
  exact List.mem_append_right _ (List.mem_singleton.2 rfl)

/-! ### The client of an operation -/

/-- The native id of a step that makes a record is that of a record with its marker. -/
theorem Placed.marked {rows : Rows} {engine : List NativeRecord} {status : ProvisioningStatus}
    (h : Placed D pid b status rows engine) {step : ProvisioningStep} (hstep : step ∈ b.plan.steps) {table : String}
    (ht : IdempiereAdapter.table step.kind = some table) {id : Int}
    (hid : rows (.nativeMapping pid (IdempiereAdapter.resourceKey step)) = some id) :
    ∃ σ, D.credentials b.assignment.engineInstanceId = some σ ∧
      IsMarked engine σ.baseUrl table step id := by
  have hbound := h.created step hstep id hid
  unfold Bound at hbound
  rwa [ht] at hbound

/-- The client of an operation has a marker of the operation. -/
theorem Provisioned.client {rows : Rows} {engine : List NativeRecord}
    (h : Provisioned D rows engine) (hrow : rows (.operation pid) = some row)
    (hb : Planned D pid row b) {id : Int}
    (halias : rows (.nativeMapping pid IdempiereAdapter.clientAliasKey) = some id) :
    ∃ baseUrl m, MarkerOf pid m ∧ (⟨baseUrl, "AD_Client", id, some m⟩ : NativeRecord) ∈ engine := by
  have hplaced := h.placed pid row b hrow hb
  obtain ⟨client, hclient, hkind⟩ := hb.client_mem
  have htable : IdempiereAdapter.table client.kind = some "AD_Client" := by
    rw [hkind]
    rfl
  obtain ⟨σ, -, hmarked⟩ := hplaced.marked hclient htable (hplaced.primary id halias client hclient hkind)
  exact ⟨σ.baseUrl, _, hb.markerOf hclient, hmarked⟩

/-- **One client, one operation**, where clients of different installations differ. -/
theorem Coordinated.one_operation {s : World} {pid' : String} {row' : OperationRow} {id : Int}
    (hs : Coordinated D s) (hapart : ClientsApart s.engine)
    (hrow : s.rows (.operation pid) = some row) (hb : Planned D pid row b)
    (hrow' : s.rows (.operation pid') = some row') (hb' : Planned D pid' row' b')
    (halias : s.rows (.nativeMapping pid IdempiereAdapter.clientAliasKey) = some id)
    (halias' : s.rows (.nativeMapping pid' IdempiereAdapter.clientAliasKey) = some id) :
    pid' = pid := by
  obtain ⟨base, m, hm, hx⟩ := hs.ledger.provisioned.client hrow hb halias
  obtain ⟨base', n, hn, hy⟩ := hs.ledger.provisioned.client hrow' hb' halias'
  have hbase : base = base' :=
    hapart _ hx _ hy rfl rfl m n rfl rfl hm.isMarker hn.isMarker rfl
  have hsame := hs.distinct _ hx _ hy (by simp [NativeRecord.sameIdentity, hbase])
  obtain rfl : m = n := Option.some.inj (congrArg NativeRecord.description hsame)
  exact hn.unique hb'.colon hb.colon hm

/-! ### What a pass prepares -/

/-- **A pass over the operation of a blueprint**: the engine's session and the
steps with their process ids. -/
structure Prepared (D : ProvisioningDeployment) (b : Blueprint) (σ : Session)
    (runnable : List ProvisioningStep) : Prop where
  session : D.credentials b.assignment.engineInstanceId = some σ
  planned : ∀ step ∈ runnable, ∃ s ∈ b.plan.steps, step.key = s.key ∧ step.kind = s.kind ∧
    (s.kind = .persistMapping → step = s)
  covers : ∀ s ∈ b.plan.steps, ∃ step ∈ runnable, step.key = s.key ∧ step.kind = s.kind

theorem mem_of_mapM_left {ε α β : Type} {f : α → Except ε β} {xs : List α} {ys : List β}
    (h : xs.mapM f = .ok ys) : ∀ x ∈ xs, ∃ y ∈ ys, f x = .ok y := by
  induction xs generalizing ys with
  | nil => exact fun x hx => absurd hx List.not_mem_nil
  | cons a xs ih =>
    rw [List.mapM_cons] at h
    obtain ⟨y, hy, h⟩ := bind_eq_ok h
    obtain ⟨zs, hzs, h⟩ := bind_eq_ok h
    obtain rfl := Except.ok.inj h
    intro x hx
    rcases List.mem_cons.1 hx with rfl | hx
    · exact ⟨y, List.mem_cons_self, hy⟩
    · obtain ⟨z, hz, hxz⟩ := ih hzs x hx
      exact ⟨z, List.mem_cons_of_mem _ hz, hxz⟩

theorem enrichStep_mapping {processes : Option NativeProvisioningProcesses}
    {step run : ProvisioningStep} (h : enrichStep processes step = .ok run)
    (hk : step.kind = .persistMapping) : run = step := by
  unfold enrichStep at h
  rw [if_pos (by rw [hk]; decide)] at h
  exact (Except.ok.inj h).symm

/-- What a pass prepares: the steps of the plan, in order, each with its process id. -/
theorem Planned.enriched (h : Planned D pid row b) {rows : List Json} {r : ErpProvisioningRequest}
    {σ : Session} {runnable : List ProvisioningStep}
    (hrows : Execution.planRows D.runtime row.plan = .ok rows)
    (hp : Execution.prepare D row.desiredState row.desiredStateDigest rows = .ok (r, σ, runnable)) :
    r = b.request ∧ Execution.engineFor D b.request.engineInstanceId = .ok (some σ) ∧
      b.plan.steps.mapM (enrichStep D.processes) = .ok runnable := by
  obtain ⟨hverified, steps, hsteps, hengine, hrun⟩ := prepare_cases hp
  obtain ⟨hread, -⟩ := verifiedRequest_cases hverified
  obtain rfl : r = b.request :=
    Except.ok.inj (hread.symm.trans (readRequest_desiredState h.typed h.state))
  rw [h.steps, planRows_planDocument h.plan] at hrows
  obtain rfl := Except.ok.inj hrows
  rw [approvedSteps_stepRows h.typed h.plan] at hsteps
  obtain rfl := Except.ok.inj hsteps
  exact ⟨rfl, hengine, hrun⟩

/-- **A prepared pass runs the plan of its operation.** -/
theorem Planned.prepared (h : Planned D pid row b) {rows : List Json} {r : ErpProvisioningRequest}
    {σ : Session} {runnable : List ProvisioningStep}
    (hrows : Execution.planRows D.runtime row.plan = .ok rows)
    (hp : Execution.prepare D row.desiredState row.desiredStateDigest rows = .ok (r, σ, runnable)) :
    r = b.request ∧ Prepared D b σ runnable := by
  obtain ⟨rfl, hengine, hrun⟩ := h.enriched hrows hp
  refine ⟨rfl, ?_, fun step hstep => ?_, fun s hs => ?_⟩
  · rw [h.engine] at hengine
    exact Except.ok.inj hengine
  · obtain ⟨s, hs, he⟩ := mem_of_mapM hrun step hstep
    exact ⟨s, hs, enrichStep_key he, enrichStep_kind he, enrichStep_mapping he⟩
  · obtain ⟨step, hstep, he⟩ := mem_of_mapM_left hrun s hs
    exact ⟨step, hstep, enrichStep_key he, enrichStep_kind he⟩

end Provisioning
end BaobabErp
