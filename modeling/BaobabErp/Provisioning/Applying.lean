/-
# Applying a plan

What a step leaves when it has run (`applied`), one lemma for each kind of step,
and the loop over the steps (`applySteps_triple`): every step of the plan is
recorded as completed with what it left.
-/

import BaobabErp.Provisioning.NativeIds

namespace BaobabErp
namespace Provisioning

open Python Concurrency

section

variable {D : ProvisioningDeployment} {w : Worker} {pid : String} {b : Blueprint}
  {mine mine' : Rows} {ws : List (Write Row)} {M : Fact} {s : World} {σ : Session}
  {step planned : ProvisioningStep}

/-- The tenant mapping of an operation whose primary client has the id. -/
def mappingOf (b : Blueprint) (id : Int) : TenantMappingRow :=
  ⟨id, 0, some b.assignment.engineInstanceId⟩

/-- The mapping is there, and its row is locked. -/
def confirming (D : ProvisioningDeployment) (w : Worker) (pid : String) (b : Blueprint)
    (mine : Rows) (id : Int) : (coordination D).Assertion w :=
  (working D w pid mine
    [⟨.tenantMapping b.assignment.tenantId b.assignment.legalEntityId, some (mappingOf b id)⟩]
    (.row (.tenantMapping b.assignment.tenantId b.assignment.legalEntityId) rfl (mappingOf b id))).and
    (.const True)

/-- The row of the mapping and that of its unique index are new. -/
def unmapped (D : ProvisioningDeployment) (w : Worker) (b : Blueprint) (id : Int) :
    (coordination D).Assertion w :=
  (heldRow D w (.tenantMapping b.assignment.tenantId b.assignment.legalEntityId) none).and
    (heldRow D w (.tenantNative id 0) none)

/-- The mapping is written, and there was none. -/
def mapping (D : ProvisioningDeployment) (w : Worker) (pid : String) (b : Blueprint)
    (mine : Rows) (id : Int) : (coordination D).Assertion w :=
  (working D w pid mine
    [⟨.tenantMapping b.assignment.tenantId b.assignment.legalEntityId, some (mappingOf b id)⟩,
      ⟨.tenantNative id 0, some (b.assignment.tenantId, b.assignment.legalEntityId)⟩] .top).and
    (unmapped D w b id)

/-- **What a step has left** before it is recorded. -/
def applied (D : ProvisioningDeployment) (w : Worker) (pid : String) (b : Blueprint) (mine : Rows)
    (planned : ProvisioningStep) (result : Json) : (coordination D).Assertion w :=
  .ex fun mine' => (Protocol.Assertion.const (Grown pid mine mine')).and
    (((Protocol.Assertion.const (Done pid b mine' planned ⟨"completed", result⟩ ∧
        planned.kind ≠ .persistMapping)).and (working D w pid mine' [] .top)).or
      (.ex fun id : Int => (Protocol.Assertion.const (planned.kind = .persistMapping ∧
          mine' (.nativeMapping pid IdempiereAdapter.clientAliasKey) = some id)).and
        ((confirming D w pid b mine' id).or (mapping D w pid b mine' id))))

/-! ### The kinds of steps -/

/-- A step without a table is marked with 1. -/
theorem markApplied_triple (hb : IsOf D pid b mine) (hs : planned ∈ b.plan.steps)
    (hkey : step.key = planned.key) (hkind : step.kind = planned.kind)
    (ht : IdempiereAdapter.table planned.kind = none) :
    (coordination D).Triple w (working D w pid mine [] .top)
      (IdempiereAdapter.markApplied b.request step)
      (.ends (fun _ => .ex fun mine' => (Protocol.Assertion.const (Grown pid mine mine')).and
        (working D w pid mine' [] .top)) (stopped D w pid)) := by
  obtain ⟨row, hrow, hplanned⟩ := id hb
  have hresource : IdempiereAdapter.resourceKey step = IdempiereAdapter.resourceKey planned := by
    unfold IdempiereAdapter.resourceKey
    rw [hkey, hkind]
  -- what is there already is 1
  refine learn_triple (P := mine (.nativeMapping pid (IdempiereAdapter.resourceKey planned)) = none ∨
    mine (.nativeMapping pid (IdempiereAdapter.resourceKey planned)) = some (1 : Int))
    (fun s hi hA => ?_) fun hfit => ?_
  · rw [← Working.mine hA _ rfl]
    cases hid : s.rows (.nativeMapping pid (IdempiereAdapter.resourceKey planned)) with
    | none => exact .inl rfl
    | some id =>
      have hplaced := hi.ledger.provisioned.placed pid row b
        ((Working.mine hA _ rfl).trans hrow) hplanned
      have hbound := hplaced.created planned hs id hid
      unfold Bound at hbound
      rw [ht] at hbound
      exact .inr (congrArg some hbound)
  · unfold IdempiereAdapter.markApplied
    rw [hplanned.provisioningId, textParam_bind, hresource]
    refine (putNativeId_triple hb hfit (fun rows engine _ step' hstep' hkey' => ?_)
      fun halias => absurd halias (resourceKey_ne_alias planned)).post fun r s _ h => ?_
    · unfold Bound
      rw [(resourceKey_inj hkey').1, ht]
    · cases r with
      | ok a => exact ⟨_, .withNative hfit, h⟩
      | error x => exact h

theorem createClient_triple (hb : IsOf D pid b mine)
    (hσ : D.credentials b.assignment.engineInstanceId = some σ) (hs : planned ∈ b.plan.steps)
    (hkey : step.key = planned.key) (hkind : step.kind = planned.kind)
    (hk : planned.kind = .createClient) :
    (coordination D).Triple w (working D w pid mine [] .top)
      (IdempiereAdapter.createClient σ b.request step)
      (.ends (fun result => applied D w pid b mine planned result) (stopped D w pid)) := by
  obtain ⟨row, hrow, hplanned⟩ := id hb
  unfold IdempiereAdapter.createClient
  refine .seq (B := fun _ => working D w pid mine [] .top)
    (orRaise_triple (fun _ _ _ hA => hA) fun _ _ _ hA => Working.stopped hA) fun value => ?_
  refine .seq (createOnce_triple hb hσ hs hkey hkind (by rw [hk]; rfl)) fun x => .ex fun mine' =>
    .given fun ⟨hgrown, hnative, hresult⟩ => ?_
  obtain ⟨id, result⟩ := x
  have hb' := hgrown.isOf hb
  dsimp only
  rw [hplanned.provisioningId, textParam_bind]
  -- an alias that is there is the id of this step
  refine learn_triple (P := mine' (.nativeMapping pid IdempiereAdapter.clientAliasKey) = none ∨
    mine' (.nativeMapping pid IdempiereAdapter.clientAliasKey) = some id)
    (fun s hi hA => ?_) fun hfit => ?_
  · rw [← Working.mine hA _ rfl]
    cases hid : s.rows (.nativeMapping pid IdempiereAdapter.clientAliasKey) with
    | none => exact .inl rfl
    | some old =>
      have hplaced := hi.ledger.provisioned.placed pid row b
        ((Working.mine hA _ rfl).trans (hgrown.operation.trans hrow)) hplanned
      have hold := hplaced.primary old hid planned hs hk
      rw [Working.mine hA _ rfl] at hold
      exact .inr (hold.symm.trans hnative)
  · refine .seq (putNativeId_triple hb' hfit
      (fun rows engine _ step' hstep' hkey' => absurd hkey' (resourceKey_ne_alias step'))
      fun _ step' hstep' hk' => ?_) fun _ => .pure fun s _ hA => ?_
    · rw [hplanned.client_eq hstep' hk', ← hplanned.client_eq hs hk]
      exact hnative
    · refine ⟨_, hgrown.trans (.withNative hfit), .inl ⟨⟨?_, by rw [hk]; decide⟩, hA⟩⟩
      unfold Done
      rw [hk]
      exact ⟨id, (Grown.withNative hfit).native _ id hnative, Function.update_self .., hresult⟩

/-- A step without a tenant mapping has left what the operation's rows say. -/
theorem applied_of_done {result : Json} (hgrown : Grown pid mine mine')
    (hdone : Done pid b mine' planned ⟨"completed", result⟩) (hk : planned.kind ≠ .persistMapping)
    (hA : (working D w pid mine' [] .top).holds s) : (applied D w pid b mine planned result).holds s :=
  ⟨mine', hgrown, .inl ⟨⟨hdone, hk⟩, hA⟩⟩

theorem createWarehouse_triple (hb : IsOf D pid b mine)
    (hσ : D.credentials b.assignment.engineInstanceId = some σ) (hs : planned ∈ b.plan.steps)
    (hkey : step.key = planned.key) (hkind : step.kind = planned.kind)
    (hk : planned.kind = .createWarehouse) :
    (coordination D).Triple w (working D w pid mine [] .top)
      (IdempiereAdapter.createWarehouse σ b.request step)
      (.ends (fun result => applied D w pid b mine planned result) (stopped D w pid)) := by
  unfold IdempiereAdapter.createWarehouse
  refine .seq (payloadItem_triple fun _ hA => Working.stopped hA) fun code => ?_
  refine .seq (createOnce_triple hb hσ hs hkey hkind (by rw [hk]; rfl)) fun x => .ex fun mine' =>
    .given fun ⟨hgrown, hnative, hresult⟩ => .pure fun s _ hA => ?_
  refine applied_of_done hgrown ?_ (by rw [hk]; decide) hA
  unfold Done
  rw [hk]
  intro table ht
  obtain rfl := Option.some.inj ht
  exact ⟨x.1, hnative, hresult⟩

theorem configure_triple (hb : IsOf D pid b mine) (hs : planned ∈ b.plan.steps)
    (hkey : step.key = planned.key) (hkind : step.kind = planned.kind)
    (hk : planned.kind = .configureAccounting ∨ planned.kind = .configureLocalisation) :
    (coordination D).Triple w (working D w pid mine [] .top)
      (IdempiereAdapter.configure D σ b.request step)
      (.ends (fun result => applied D w pid b mine planned result) (stopped D w pid)) := by
  have ht : IdempiereAdapter.table planned.kind = none := by
    rcases hk with hk | hk <;> rw [hk] <;> rfl
  unfold IdempiereAdapter.configure
  dsimp only
  split
  · exact .throw fun _ _ hA => Working.stopped hA
  refine .seq (B := fun _ => working D w pid mine [] .top)
    (orRaise_triple (fun _ _ _ hA => hA) fun _ _ _ hA => Working.stopped hA) fun process => ?_
  refine .seq (quiet_working rfl) fun result => ?_
  refine .seq (markApplied_triple hb hs hkey hkind ht) fun _ => .ex fun mine' =>
    .given fun hgrown => .pure fun s _ hA => ?_
  refine applied_of_done hgrown ?_ (by rcases hk with hk | hk <;> rw [hk] <;> decide) hA
  unfold Done
  rcases hk with hk | hk
  · rw [hk]
    intro table ht
    cases ht
  · rw [hk]
    intro table ht
    cases ht

/-- The client of the operation is mapped for no other tenant or legal entity. -/
theorem Working.mapsFreely (hb : IsOf D pid b mine) {id : Int}
    (halias : mine (.nativeMapping pid IdempiereAdapter.clientAliasKey) = some id)
    (hs : Coordinated D s) (hA : Working D w pid mine [] M s) (hapart : ClientsApart s.engine) :
    MapsFreely w (.insert (.tenantMapping b.assignment.tenantId b.assignment.legalEntityId)
      fun _ => (⟨id, 0, some b.assignment.engineInstanceId⟩ : TenantMappingRow)) s := by
  intro d tenant' entity' hview
  rw [Working.view hA] at hview
  obtain ⟨m, hm, hclient, -⟩ := hs.ledger.linked.tenantNative id 0 tenant' entity' hview
  obtain ⟨pid', row', b', hrow', hb', htenant, hentity, halias', -⟩ :=
    hs.ledger.provisioned.mapped tenant' entity' m hm
  obtain ⟨row, hrow, hplanned⟩ := hb
  rw [← hA.mine _ rfl] at hrow halias
  rw [hclient] at halias'
  obtain rfl := hs.one_operation hapart hrow hplanned hrow' hb' halias halias'
  obtain rfl : row' = row := Option.some.inj (hrow'.symm.trans hrow)
  obtain ⟨-, -, ht, he, -⟩ := hplanned.agree hb'
  exact ⟨htenant.symm.trans ht, hentity.symm.trans he⟩

/-- **`create_mapping`**: the mapping is confirmed, or it is the first. -/
theorem createMapping_triple {id : Int} (hb : IsOf D pid b mine)
    (halias : mine (.nativeMapping pid IdempiereAdapter.clientAliasKey) = some id) :
    (coordination D).Triple w (working D w pid mine [] .top)
      (createMapping b.assignment.tenantId b.assignment.legalEntityId id 0
        b.assignment.engineInstanceId)
      (.ends (fun _ => (confirming D w pid b mine id).or (mapping D w pid b mine id))
        (astray D w pid)) := by
  unfold createMapping
  refine .seq (B := fun a : Option TenantMappingRow => match a with
    | none => working D w pid mine [] .top
    | some m => working D w pid mine
      [⟨.tenantMapping b.assignment.tenantId b.assignment.legalEntityId, some m⟩]
      (.row (.tenantMapping b.assignment.tenantId b.assignment.legalEntityId) rfl m))
    (sql_triple (fun s _ hA => (Working.abort hA).astray) fun s now a ws hs hA hq => ?_) fun a => ?_
  · obtain ⟨rfl, ⟨hnone, rfl⟩ | ⟨m, hm, rfl⟩⟩ := Query.selectForUpdate_ok hq
    · rw [hnone, World.write_nil]
      exact hA
    · rw [hm]
      rw [Working.view hA] at hm
      exact Working.write (Working.of_known hA hm)
  · cases a with
    | none =>
      dsimp only
      split
      · exact .throw fun _ _ hA => Working.astray hA
      refine .tryCatch (Q := .ends (fun _ => mapping D w pid b mine id) (stopped D w pid))
        (.seq (B := fun _ => mapping D w pid b mine id) (mapping_triple
          (fun s hs hA _ hapart => Working.mapsFreely hb halias hs hA hapart) (fun s _ hA => (Working.abort hA).stopped) fun s now a ws hs hA hq => ?_)
          fun _ => .pure fun _ _ hA => hA) (fun _ _ _ hA => .inr hA) fun x => ?_
      · obtain ⟨-, hnone, hindex, -, -, rfl⟩ := Query.insertRow_ok hq
        have hnative := hindex _ List.mem_cons_self
        rw [Working.view hA] at hnone hnative
        refine ⟨Working.write hA, ⟨?_, by rwa [World.rows_write]⟩, ?_, by rwa [World.rows_write]⟩
        · rw [World.own_write]
          exact World.written_of_mem List.mem_cons_self
        · rw [World.own_write]
          exact World.written_of_mem (List.mem_cons_of_mem _ List.mem_cons_self)
      · have hthrow : ∀ y : Exc, (coordination D).Triple w (stopped D w pid)
            (throw y : Program Unit) (.ends (fun _ =>
              (confirming D w pid b mine id).or (mapping D w pid b mine id)) (astray D w pid)) :=
          fun y => .throw fun _ _ hA => hA.2
        cases x with
        | _ => exact hthrow _
    | some m =>
      dsimp only
      split
      · exact .throw fun _ _ hA => Working.astray hA
      · rename_i heq
        rw [not_not] at heq
        subst heq
        exact .pure fun _ _ hA => .inl ⟨hA, trivial⟩

theorem persistMapping_triple (hb : IsOf D pid b mine) (hs : planned ∈ b.plan.steps)
    (hk : planned.kind = .persistMapping) :
    (coordination D).Triple w (working D w pid mine [] .top)
      (IdempiereAdapter.persistMapping b.request planned)
      (.ends (fun result => applied D w pid b mine planned result) (astray D w pid)) := by
  obtain ⟨row, hrow, hplanned⟩ := id hb
  have hpayload := hplanned.mappingStep hs hk
  have hastray : ∀ {α : Type} {A : (coordination D).Assertion w} {p : Program α}
      {Q : α → (coordination D).Assertion w},
      (coordination D).Triple w A p (.ends Q (stopped D w pid)) →
        (coordination D).Triple w A p (.ends Q (astray D w pid)) := fun h => h.post fun r s _ hr => by
    cases r with
    | ok a => exact hr
    | error x => exact hr.2
  unfold IdempiereAdapter.persistMapping
  refine .seq (hastray (markApplied_triple hb hs rfl rfl (by rw [hk]; rfl))) fun _ =>
    .ex fun mine' => .given fun hgrown => ?_
  rw [hplanned.provisioningId, textParam_bind]
  refine .seq (hastray (select_mine rfl)) fun a => .given fun ha => ?_
  cases a with
  | none => exact .throw fun _ _ hA => Working.astray hA
  | some id =>
    have hengine : Json.get planned.payload "engine_instance_id" =
        .str b.assignment.engineInstanceId := by
      rw [hpayload]
      rfl
    have htenant : payloadItem planned "tenant_id" = pure (.str b.assignment.tenantId) := by
      unfold payloadItem
      rw [hpayload]
      rfl
    have hentity : payloadItem planned "legal_entity_id" =
        pure (.str b.assignment.legalEntityId) := by
      unfold payloadItem
      rw [hpayload]
      rfl
    dsimp only
    rw [hengine]
    dsimp only
    split
    · exact .throw fun _ _ hA => Working.astray hA
    rw [htenant, hentity]
    show (coordination D).Triple w _ (createMapping _ _ _ _ _ >>= _) _
    refine .seq (createMapping_triple (hgrown.isOf hb) ha.symm) fun _ => .pure fun s _ hA => ?_
    exact ⟨mine', hgrown, .inr ⟨id, ⟨hk, ha.symm⟩, hA⟩⟩

/-! ### The loop over the steps -/

theorem astray_of_stopped {α : Type} {A : (coordination D).Assertion w} {p : Program α}
    {Q : α → (coordination D).Assertion w} (h : (coordination D).Triple w A p (.ends Q (stopped D w pid))) :
    (coordination D).Triple w A p (.ends Q (astray D w pid)) :=
  h.post fun r s _ hr => by
    cases r with
    | ok a => exact hr
    | error x => exact hr.2

/-- **`apply`**, whatever the kind. -/
theorem apply_triple {runnable : List ProvisioningStep} (hb : IsOf D pid b mine)
    (hprepared : Prepared D b σ runnable) (hs : planned ∈ b.plan.steps)
    (hkey : step.key = planned.key) (hkind : step.kind = planned.kind)
    (hsame : planned.kind = .persistMapping → step = planned) :
    (coordination D).Triple w (working D w pid mine [] .top)
      (IdempiereAdapter.apply D σ b.request step)
      (.ends (fun result => applied D w pid b mine planned result) (astray D w pid)) := by
  obtain ⟨row, hrow, hplanned⟩ := id hb
  unfold IdempiereAdapter.apply
  rw [hkind]
  cases hk : planned.kind with
  | createClient =>
    exact astray_of_stopped (createClient_triple hb hprepared.session hs hkey hkind hk)
  | createOrganisation => exact absurd hk (hplanned.not_organisation hs)
  | configureAccounting =>
    exact astray_of_stopped (configure_triple hb hs hkey hkind (.inl hk))
  | configureLocalisation =>
    exact astray_of_stopped (configure_triple hb hs hkey hkind (.inr hk))
  | createWarehouse =>
    exact astray_of_stopped (createWarehouse_triple hb hprepared.session hs hkey hkind hk)
  | persistMapping =>
    obtain rfl := hsame hk
    exact persistMapping_triple hb hs hk

/-- What is recorded of a step is what it left. -/
theorem markApplied_step {result : Json} (hb : IsOf D pid b mine) (hs : planned ∈ b.plan.steps) :
    (coordination D).Triple w (applied D w pid b mine planned result)
      (ProvisioningStore.markStep pid planned.key "completed" result)
      (.ends (fun _ => .ex fun mine' => (Protocol.Assertion.const (Grown pid mine mine' ∧
          (mine' (.step pid planned.key)).isSome = true)).and (working D w pid mine' [] .top))
        (astray D w pid)) := by
  obtain ⟨row, hrow, hplanned⟩ := id hb
  -- the steps with this key are of this kind
  have hkind : ∀ step ∈ b.plan.steps, step.key = planned.key → step.kind = planned.kind :=
    fun step hstep hkey => kind_of_key hplanned.plan hstep hs hkey
  have hresource : ∀ step ∈ b.plan.steps, step.key = planned.key →
      IdempiereAdapter.resourceKey step = IdempiereAdapter.resourceKey planned :=
    fun step hstep hkey => by
      unfold IdempiereAdapter.resourceKey
      rw [hkey, hkind step hstep hkey]
  have hfinish : ∀ {mine'} {M : Fact} {s : World}, Grown pid mine mine' →
      (working D w pid (Function.update mine' (.step pid planned.key)
        (some (⟨"completed", result⟩ : StepRow))) [] M).holds s →
      (Protocol.Assertion.ex fun mine' => (Protocol.Assertion.const (Grown pid mine mine' ∧
        (mine' (.step pid planned.key)).isSome = true)).and
          (working D w pid mine' [] .top)).holds s := by
    intro mine' M s hgrown hA
    refine ⟨_, ⟨hgrown.trans .withStep, ?_⟩, Working.of_known hA trivial⟩
    rw [Function.update_self]
    rfl
  refine .ex fun mine' => .given fun hgrown => ?_
  have hb' := hgrown.isOf hb
  refine .or (.given fun ⟨hdone, hk⟩ => ?_) (.ex fun id => .given fun ⟨hk, halias⟩ => .or ?_ ?_)
  · refine ((markStep_triple [] (.const True) hb' (fun _ _ h => h) (fun k hk => by cases hk)
      fun s ws' hi hA _ => ⟨hi.ledger, .refl _, fun step hstep hkey => ?_⟩).pre
        fun s _ hA => ⟨hA, trivial⟩).post fun r s _ hr => by
      cases r with
      | ok a => exact hfinish hgrown hr
      | error x => exact hr.2
    unfold Done at hdone ⊢
    rw [hkind step hstep hkey, hresource step hstep hkey]
    revert hdone hk
    cases planned.kind with
    | createClient =>
      rintro ⟨id, h₁, h₂, h₃⟩ -
      exact ⟨id, (hA.mine _ rfl).trans h₁, (hA.mine _ rfl).trans h₂, h₃⟩
    | persistMapping => exact fun _ hk => absurd rfl hk
    | _ =>
      intro hdone _ table ht
      obtain ⟨id, h₁, h₂⟩ := hdone table ht
      exact ⟨id, (hA.mine _ rfl).trans h₁, h₂⟩
  · refine (markStep_triple _ (.const True) hb' (fun _ _ h => h) (fun k hk => ?_)
      fun s ws' hi hA _ => ?_).post fun r s _ hr => by
      cases r with
      | ok a => exact hfinish hgrown hr
      | error x => exact hr.2
    · obtain rfl := List.mem_singleton.1 hk
      rfl
    · have hsame : Database.overlay s.rows [⟨.tenantMapping b.assignment.tenantId
          b.assignment.legalEntityId, some (mappingOf b id)⟩] = s.rows := update_same hA.known
      rw [hsame]
      refine ⟨hi.ledger, .refl _, fun step hstep hkey => ?_⟩
      unfold Done
      rw [hkind step hstep hkey, hk]
      exact ⟨id, (hA.mine _ rfl).trans halias, hA.known⟩
  · refine (markStep_triple _ (unmapped D w b id) hb'
      (fun s ws' ⟨⟨hown, hnone⟩, hown', hnone'⟩ => ?_) (fun k hk => ?_)
      fun s ws' hi hA ⟨⟨_, hnone⟩, _, hnone'⟩ => ?_).post fun r s _ hr => by
      cases r with
      | ok a => exact hfinish hgrown hr
      | error x => exact hr.2
    · refine ⟨⟨?_, by rwa [World.rows_write]⟩, ?_, by rwa [World.rows_write]⟩
      · rw [World.own_write]
        exact World.written_isSome hown
      · rw [World.own_write]
        exact World.written_isSome hown'
    · simp only [List.map_cons, List.map_nil, List.mem_cons, List.not_mem_nil, or_false] at hk
      rcases hk with rfl | rfl
      · rfl
      · rfl
    · have hrow' : s.rows (.operation pid) = some row :=
        (hA.mine _ rfl).trans (hgrown.operation.trans hrow)
      refine ⟨hi.ledger.withMapping (m := mappingOf b id) hnone ⟨row, b, hrow', hplanned, rfl, rfl,
        (hA.mine _ rfl).trans halias, rfl, rfl⟩, ?_, fun step hstep hkey => ?_⟩
      · refine (Forward.of_none hnone fun _ _ h => by cases h).trans
          (.of_none ?_ fun _ _ h => by cases h)
        rw [Function.update_of_ne (by simp)]
        exact hnone'
      · unfold Done
        rw [hkind step hstep hkey, hk]
        refine ⟨id, ?_, ?_⟩
        · rw [Database.overlay_of_not_mem (by simp)]
          exact (hA.mine _ rfl).trans halias
        · rw [Database.overlay_cons, Database.overlay_of_not_mem (by simp), Function.update_self]
          rfl

/-- **Every step that is applied is recorded.** -/
theorem applySteps_triple {runnable : List ProvisioningStep} (hprepared : Prepared D b σ runnable) :
    ∀ (steps : List ProvisioningStep) (mine : Rows), (∀ step ∈ steps, step ∈ runnable) →
      IsOf D pid b mine →
      (coordination D).Triple w (working D w pid mine [] .top)
        (Execution.applySteps D σ b.request pid steps)
        (.ends (fun _ => .ex fun mine' => (Protocol.Assertion.const (Grown pid mine mine' ∧
            ∀ step ∈ steps, (mine' (.step pid step.key)).isSome = true)).and
          (working D w pid mine' [] .top)) (astray D w pid))
  | [], mine, _, _ => .pure fun s _ hA => ⟨mine, ⟨.refl, fun _ h => absurd h List.not_mem_nil⟩, hA⟩
  | step :: steps, mine, hsub, hb => by
    obtain ⟨planned, hs, hkey, hkind, hsame⟩ := hprepared.planned step (hsub step List.mem_cons_self)
    unfold Execution.applySteps
    refine .seq (apply_triple hb hprepared hs hkey hkind hsame) fun result => ?_
    rw [hkey]
    refine .seq (markApplied_step hb hs) fun _ => .ex fun mine₁ => .given fun hmarked => ?_
    obtain ⟨hgrown, hdone⟩ := hmarked
    refine (applySteps_triple hprepared steps mine₁ (fun x hx => hsub x (List.mem_cons_of_mem _ hx))
      (hgrown.isOf hb)).post fun r s _ hr => ?_
    cases r with
    | ok a =>
      obtain ⟨mine₂, ⟨hgrown', hrest⟩, hA⟩ := hr
      refine ⟨mine₂, ⟨hgrown.trans hgrown', fun x hx => ?_⟩, hA⟩
      rcases List.mem_cons.1 hx with rfl | hx
      · rw [hkey]
        exact hgrown'.step _ hdone
      · exact hrest x hx
    | error x => exact hr

/-! ### The checks -/

/-- **A check changes nothing.** -/
theorem check_triple (hb : IsOf D pid b mine) :
    (coordination D).Triple w (working D w pid mine [] .top) (IdempiereAdapter.check D σ b.request step)
      (.ends (fun _ => working D w pid mine [] .top) (stopped D w pid)) := by
  obtain ⟨row, hrow, hplanned⟩ := id hb
  unfold IdempiereAdapter.check
  dsimp only
  rw [hplanned.provisioningId, textParam_bind]
  refine .seq (select_mine rfl) fun native => .given fun _ => ?_
  split
  · exact .pure fun _ _ hA => hA
  · cases native with
    | none => exact .pure fun _ _ hA => hA
    | some id =>
      refine .tryCatch (Q := fun _ => working D w pid mine [] .top) ?_ (fun _ _ _ hA => hA) fun x =>
        .pure fun _ _ hA => hA
      exact (quiet_triple rfl).bind (fun record => .pure fun _ _ hA => hA) fun _ _ _ hA => hA

theorem checkSteps_triple (hb : IsOf D pid b mine) : ∀ steps : List ProvisioningStep,
    (coordination D).Triple w (working D w pid mine [] .top)
      (Execution.checkSteps D σ b.request steps)
      (.ends (fun _ => working D w pid mine [] .top) (stopped D w pid))
  | [] => .pure fun _ _ hA => hA
  | _ :: steps => .seq (check_triple hb) fun _ => .seq (checkSteps_triple hb steps) fun _ =>
      .pure fun _ _ hA => hA

end

end Provisioning
end BaobabErp
