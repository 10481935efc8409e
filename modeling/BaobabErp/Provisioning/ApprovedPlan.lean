/-
# Only what was approved runs

A request with the declared types is read back from its stored document, with
its stored digest, as it was, and the plan built from it is the stored one
(`reads_back`).  Conversely a pass that comes as far as a call of the engine has
proven the stored digest of the request it read, and its steps equal the plan of
that request; Python's `==` holds `True`, `1` and `1.0` equal, so the payloads are
the plan's own documents exactly where the stored ones spell their numbers as the
plan does (`only_approved_runs`).
-/

import BaobabErp.Provisioning.AcceptOperation
import BaobabErp.Provisioning.CanonicalState
import BaobabErp.Provisioning.Execution

namespace BaobabErp
namespace Provisioning

open Python Concurrency

/-! ### The stored plan reads back -/

theorem lookup_of_mem {ms : List (String × Json)} (hk : (ms.map Prod.fst).Nodup)
    {m : String × Json} (hm : m ∈ ms) : ms.lookup m.1 = some m.2 := by
  induction ms with
  | nil => exact absurd hm List.not_mem_nil
  | cons n ms ih =>
    obtain ⟨name, value⟩ := n
    rw [List.map_cons, List.nodup_cons] at hk
    rw [List.lookup_cons]
    rcases List.mem_cons.1 hm with rfl | hm
    · rw [beq_self_eq_true]
    · have hne : m.1 ≠ name := fun h => hk.1 (List.mem_map.2 ⟨m, hm, h⟩)
      rw [beq_eq_false_iff_ne.2 hne]
      exact ih hk.2 hm

/-- A text or an integer: what the payloads of a plan are made of. -/
def IsScalar (j : Json) : Prop := IsText j ∨ ∃ n, j = .int n

theorem IsText.isScalar {j : Json} (h : IsText j) : IsScalar j := .inl h

theorem IsScalar.equal_self {j : Json} (R : Runtime) (h : IsScalar j) : Json.equal R j j = true := by
  rcases h with ⟨s, rfl⟩ | ⟨n, rfl⟩
  · rw [Json.equal, beq_self_eq_true]
  · simp [Json.equal, Json.number?, Json.compareNumbers]

/-- A payload of texts and integers equals itself. -/
theorem equal_self_obj (R : Runtime) {ms : List (String × Json)} (hk : (ms.map Prod.fst).Nodup)
    (hv : ∀ m ∈ ms, IsScalar m.2) : Json.equal R (.obj ms) (.obj ms) = true := by
  have hall : ∀ ns : List (String × Json), (∀ m ∈ ns, m ∈ ms) → Json.equalMembers R ns ms = true := by
    intro ns hns
    induction ns with
    | nil => rw [Json.equalMembers]
    | cons n ns ih =>
      obtain ⟨name, value⟩ := n
      have hmem : (name, value) ∈ ms := hns _ List.mem_cons_self
      rw [Json.equalMembers, Bool.and_eq_true,
        show ms.lookup name = some value from lookup_of_mem hk hmem]
      exact ⟨(hv _ hmem).equal_self R, ih fun m hm => hns m (List.mem_cons_of_mem _ hm)⟩
  rw [Json.equal, Bool.and_eq_true, beq_self_eq_true]
  exact ⟨rfl, hall ms fun _ h => h⟩

/-- What every step of a plan is. -/
def IsPlanned (step : ProvisioningStep) : Prop :=
  (step.payload.map Prod.fst).Nodup ∧ ∀ m ∈ step.payload, IsScalar m.2

theorem IsPlanned.sameStep (R : Runtime) {step : ProvisioningStep} (h : IsPlanned step) :
    Execution.sameStep R step step = true := by
  simp only [Execution.sameStep, beq_self_eq_true, Bool.true_and]
  exact equal_self_obj R h.1 h.2

theorem sortedBy_mem {α : Type} {R : Runtime} {key : α → Json} {xs ys : List α} {y : α}
    (h : raised (Json.sortedBy R key xs) = .ok ys) (hy : y ∈ ys) : y ∈ xs :=
  (sortedBy_perm (raised_eq_ok h)).mem_iff.1 hy

theorem firstSteps_planned {pre : String} {r : ErpProvisioningRequest} (hr : r.Typed) :
    ∀ s ∈ firstSteps pre r, IsPlanned s := by
  obtain ⟨-, -, -, -, hname, -, -, -, -, -, -, ⟨h₁, h₂, h₃, h₄, h₅, -⟩, -, -⟩ := hr
  intro s hs
  unfold firstSteps at hs
  simp only [List.mem_cons, List.not_mem_nil, or_false] at hs
  rcases hs with rfl | rfl
  · refine ⟨(by decide : ["Name"].Nodup), fun m hm => ?_⟩
    obtain rfl := List.mem_singleton.1 hm
    exact hname.isScalar
  · refine ⟨(by decide : ["functional_currency", "accounting_schema", "chart_of_accounts_template",
      "fiscal_year_start_month", "tax_profile", "costing_method"].Nodup), fun m hm => ?_⟩
    simp only [List.mem_cons, List.not_mem_nil, or_false] at hm
    rcases hm with rfl | rfl | rfl | rfl | rfl | rfl
    · exact h₁.isScalar
    · exact h₃.isScalar
    · exact h₂.isScalar
    · exact .inr ⟨_, rfl⟩
    · exact h₄.isScalar
    · exact h₅.isScalar

theorem timezoneOf_text {R : Runtime} {m : MarketConfiguration} {code zone : Json} (hm : m.Typed)
    (h : m.timezoneOf R code = .ok zone) : IsText zone ∨ zone = .null := by
  obtain ⟨-, -, -, -, -, -, hzones⟩ := hm
  unfold MarketConfiguration.timezoneOf at h
  split at h
  · obtain rfl := Except.ok.inj h
    cases hf : m.warehouseTimezones.reverse.find? fun p => p.1.equal R code with
    | none => exact .inr rfl
    | some p => exact .inl (hzones p (List.mem_reverse.1 (List.mem_of_find?_eq_some hf))).2
  · cases h

theorem warehouseStep_planned {R : Runtime} {pre : String} {m : MarketConfiguration}
    {warehouse : Json} {s : ProvisioningStep} (hm : m.Typed) (hw : IsText warehouse)
    (h : warehouseStep R pre m warehouse = .ok s) : IsPlanned s := by
  have hid : IsText m.marketId := hm.1
  obtain ⟨zone, hzone, h⟩ := bind_eq_ok h
  obtain rfl := Except.ok.inj h
  by_cases ht : zone.truthy R = true
  · simp only [ht, if_true, List.cons_append, List.nil_append]
    refine ⟨(by decide : ["market_id", "warehouse_code", "timezone"].Nodup), fun p hp => ?_⟩
    simp only [List.mem_cons, List.not_mem_nil, or_false] at hp
    rcases hp with rfl | rfl | rfl
    · exact hid.isScalar
    · exact hw.isScalar
    · rcases timezoneOf_text hm hzone with hz | rfl
      · exact hz.isScalar
      · cases ht
  · simp only [ht, Bool.false_eq_true, if_false, List.append_nil]
    refine ⟨(by decide : ["market_id", "warehouse_code"].Nodup), fun p hp => ?_⟩
    simp only [List.mem_cons, List.not_mem_nil, or_false] at hp
    rcases hp with rfl | rfl
    · exact hid.isScalar
    · exact hw.isScalar

theorem marketSteps_planned {R : Runtime} {pre : String} {m : MarketConfiguration}
    {ss : List ProvisioningStep} (hm : m.Typed) (h : marketSteps R pre m = .ok ss) :
    ∀ s ∈ ss, IsPlanned s := by
  obtain ⟨warehouses, hwarehouses, h⟩ := bind_eq_ok h
  obtain ⟨steps, hsteps, h⟩ := bind_eq_ok h
  obtain rfl := Except.ok.inj h
  obtain ⟨hid, hcountry, -, -, hprofile, hcodes, -⟩ := id hm
  intro s hs
  rcases List.mem_cons.1 hs with rfl | hs
  · refine ⟨(by decide : ["market_id", "country_code", "profile"].Nodup), fun p hp => ?_⟩
    simp only [List.mem_cons, List.not_mem_nil, or_false] at hp
    rcases hp with rfl | rfl | rfl
    · exact hid.isScalar
    · exact hcountry.isScalar
    · exact hprofile.isScalar
  · obtain ⟨warehouse, hw, hstep⟩ := mem_of_mapM hsteps s hs
    exact warehouseStep_planned hm (hcodes warehouse (sortedBy_mem hwarehouses hw)) hstep

theorem mappingStep_planned {pre : String} {r : ErpProvisioningRequest} (hr : r.Typed) :
    IsPlanned (mappingStep pre r) := by
  obtain ⟨-, -, htenant, hentity, -, -, -, hengine, -, hdigest, -, -, -, -⟩ := hr
  refine ⟨(by decide : ["tenant_id", "legal_entity_id", "engine_instance_id",
    "plan_digest"].Nodup), fun p hp => ?_⟩
  simp only [mappingStep, List.mem_cons, List.not_mem_nil, or_false] at hp
  rcases hp with rfl | rfl | rfl | rfl
  · exact htenant.isScalar
  · exact hentity.isScalar
  · exact hengine.isScalar
  · exact hdigest.isScalar

/-- The parts of a plan. -/
theorem buildPlan_cases {H : Hashes} {R : Runtime} {r : ErpProvisioningRequest}
    {plan : ProvisioningPlan} (h : buildPlan H R r = .ok plan) :
    desiredStateDigest H R r = .ok plan.desiredStateDigest ∧
      ∃ markets : List MarketConfiguration, ∃ steps : List (List ProvisioningStep),
        raised (Json.sortedBy R MarketConfiguration.marketId r.markets) = .ok markets ∧
        markets.mapM (marketSteps R (stepPrefix r plan.desiredStateDigest)) = .ok steps ∧
        plan.steps = firstSteps (stepPrefix r plan.desiredStateDigest) r ++ steps.flatten ++
          [mappingStep (stepPrefix r plan.desiredStateDigest) r] := by
  obtain ⟨checks, -, h⟩ := bind_eq_ok h
  obtain ⟨digest, hdigest, h⟩ := bind_eq_ok h
  obtain ⟨markets, hmarkets, h⟩ := bind_eq_ok h
  obtain ⟨steps, hsteps, h⟩ := bind_eq_ok h
  obtain rfl := Except.ok.inj h
  exact ⟨hdigest, markets, steps, hmarkets, hsteps, rfl⟩

theorem buildPlan_planned {H : Hashes} {R : Runtime} {r : ErpProvisioningRequest}
    {plan : ProvisioningPlan} (hr : r.Typed) (h : buildPlan H R r = .ok plan) :
    ∀ s ∈ plan.steps, IsPlanned s := by
  obtain ⟨-, markets, steps, hmarkets, hsteps, hplan⟩ := buildPlan_cases h
  intro s hs
  rw [hplan, List.mem_append, List.mem_append, List.mem_singleton] at hs
  rcases hs with (hs | hs) | rfl
  · exact firstSteps_planned hr s hs
  · obtain ⟨ss, hss, hs⟩ := List.mem_flatten.1 hs
    obtain ⟨m, hm, hmarket⟩ := mem_of_mapM hsteps ss hss
    obtain ⟨-, -, -, -, -, -, -, -, -, -, -, -, htyped, -⟩ := hr
    exact marketSteps_planned (htyped m (sortedBy_mem hmarkets hm)) hmarket s hs
  · exact mappingStep_planned hr

/-- The rows a plan is stored as. -/
def stepRow (s : ProvisioningStep) : Json :=
  .obj [("key", .str s.key), ("kind", .str s.kind.value), ("payload", .obj s.payload)]

theorem storedStep_stepRow (s : ProvisioningStep) :
    Execution.storedStep (stepRow s) = .ok (some s) := by
  unfold Execution.storedStep stepRow
  simp only [Json.subscript, List.lookup_cons, String.reduceBEq, raised, StepKind.ofJson_value,
    Json.dict, bind, Except.bind, pure, Except.pure]

theorem mapM_storedStep (steps : List ProvisioningStep) :
    (steps.map stepRow).mapM Execution.storedStep = .ok (steps.map some) := by
  induction steps with
  | nil => rfl
  | cons s steps ih =>
    rw [List.map_cons, List.mapM_cons, storedStep_stepRow, ih]
    rfl

theorem mapM_id_some (steps : List ProvisioningStep) :
    (steps.map some).mapM (id : Option ProvisioningStep → Option ProvisioningStep) = some steps := by
  induction steps with
  | nil => rfl
  | cons s steps ih =>
    rw [List.map_cons, List.mapM_cons, ih]
    rfl

theorem sameSteps_self (R : Runtime) {steps : List ProvisioningStep}
    (h : ∀ s ∈ steps, IsPlanned s) : Execution.sameSteps R steps steps = true := by
  induction steps with
  | nil => rfl
  | cons s steps ih =>
    rw [Execution.sameSteps, Bool.and_eq_true]
    exact ⟨(h s List.mem_cons_self).sameStep R, ih fun t ht => h t (List.mem_cons_of_mem _ ht)⟩

/-- The stored plan of a request is its plan. -/
theorem approvedSteps_stepRows {H : Hashes} {R : Runtime} {r : ErpProvisioningRequest}
    {plan : ProvisioningPlan} (hr : r.Typed) (h : buildPlan H R r = .ok plan) :
    Execution.approvedSteps H R r (plan.steps.map stepRow) = .ok plan.steps := by
  unfold Execution.approvedSteps
  rw [mapM_storedStep, h]
  simp only [bind, Except.bind, mapM_id_some]
  rw [if_pos (sameSteps_self R (buildPlan_planned hr h))]
  rfl

theorem planRows_planDocument {H : Hashes} {R : Runtime} {r : ErpProvisioningRequest}
    {plan : ProvisioningPlan} (h : buildPlan H R r = .ok plan) :
    Execution.planRows R (AcceptOperation.planDocument plan.steps) =
      .ok (plan.steps.map stepRow) := by
  obtain ⟨-, markets, steps, -, -, hplan⟩ := buildPlan_cases h
  have hne : (plan.steps.map stepRow).isEmpty = false := by
    rw [hplan]
    rfl
  show (if !(plan.steps.map stepRow).isEmpty then _ else _) = _
  rw [hne]
  rfl

theorem sortedBy_texts {α : Type} (R : Runtime) (key : α → Json) {xs : List α}
    (h : ∀ x ∈ xs, IsText (key x)) : ∃ ys, Json.sortedBy R key xs = .ok ys := by
  have hall : (xs.all fun x => (key x).str?.isSome) = true := by
    rw [List.all_eq_true]
    intro x hx
    obtain ⟨s, hs⟩ := h x hx
    rw [hs]
    rfl
  unfold Json.sortedBy
  split_ifs
  · exact ⟨_, rfl⟩
  · exact ⟨_, rfl⟩

theorem mapM_ok {α β : Type} {f : α → Except Exc β} (xs : List α) (h : ∀ x ∈ xs, ∃ y, f x = .ok y) :
    ∃ ys, xs.mapM f = .ok ys := by
  induction xs with
  | nil => exact ⟨[], rfl⟩
  | cons x xs ih =>
    obtain ⟨y, hy⟩ := h x List.mem_cons_self
    obtain ⟨ys, hys⟩ := ih fun z hz => h z (List.mem_cons_of_mem _ hz)
    exact ⟨y :: ys, by rw [List.mapM_cons, hy, hys]; rfl⟩

theorem marketSteps_ok {R : Runtime} {pre : String} {m : MarketConfiguration} (hm : m.Typed) :
    ∃ ss, marketSteps R pre m = .ok ss := by
  obtain ⟨-, -, -, -, -, hcodes, hzones⟩ := hm
  obtain ⟨warehouses, hw⟩ := sortedBy_texts R id hcodes
  have hhash : (m.warehouseTimezones.all fun p => p.1.hashable) = true := by
    rw [List.all_eq_true]
    intro p hp
    obtain ⟨⟨s, hs⟩, -⟩ := hzones p hp
    rw [hs]
    rfl
  obtain ⟨steps, hsteps⟩ := mapM_ok warehouses (f := warehouseStep R pre m) fun code _ => by
    unfold warehouseStep MarketConfiguration.timezoneOf
    rw [if_pos hhash]
    exact ⟨_, rfl⟩
  unfold marketSteps
  rw [hw]
  simp only [raised, bind, Except.bind, hsteps]
  exact ⟨_, rfl⟩

/-- A valid request has a plan. -/
theorem buildPlan_of_valid {H : Hashes} {R : Runtime} {r : ErpProvisioningRequest}
    {checks : List ReadinessCheck} (hr : r.Typed) (hvalid : requireValidRequest R r = .ok checks) :
    ∃ plan, buildPlan H R r = .ok plan := by
  obtain ⟨state, hstate, -⟩ := requestFromState_desiredState (R := R) hr
  obtain ⟨-, -, -, -, -, -, -, -, -, -, -, -, hmarkets, -⟩ := hr
  obtain ⟨markets, hm⟩ := sortedBy_texts R MarketConfiguration.marketId
    fun m hm => (hmarkets m hm).1
  obtain ⟨steps, hsteps⟩ := mapM_ok markets
    (f := marketSteps R (stepPrefix r (H.sha256 state.dumps))) fun m hmem => marketSteps_ok (hmarkets m
      (sortedBy_mem (show raised (Json.sortedBy R _ r.markets) = .ok markets by rw [hm]; rfl) hmem))
  unfold buildPlan desiredStateDigest desiredStateJson
  rw [hvalid, hstate, hm]
  simp only [raised, bind, Except.bind, pure, Except.pure, hsteps]
  exact ⟨_, rfl⟩

/-- **What was accepted reads back**: the document gives the request, the digest
verifies it, and its plan is the stored one. -/
theorem reads_back {H : Hashes} {R : Runtime} {r : ErpProvisioningRequest} {plan : ProvisioningPlan}
    (hdigest : plan.desiredStateDigest ≠ "") (hr : r.Typed) (h : buildPlan H R r = .ok plan) :
    ∃ state, desiredState R r = .ok state ∧
      verifiedRequest H R state (some plan.desiredStateDigest) = .ok r ∧
      Execution.planRows R (AcceptOperation.planDocument plan.steps) =
        .ok (plan.steps.map stepRow) ∧
      Execution.approvedSteps H R r (plan.steps.map stepRow) = .ok plan.steps := by
  obtain ⟨state, hstate, hread⟩ := requestFromState_desiredState (R := R) hr
  refine ⟨state, hstate, ?_, planRows_planDocument h, approvedSteps_stepRows hr h⟩
  unfold verifiedRequest
  rw [hread]
  have hfilter : (some plan.desiredStateDigest).filter (· != "") = some plan.desiredStateDigest := by
    rw [Option.filter_some, if_pos (by simpa using hdigest)]
  rw [hfilter]
  have hcase := (buildPlan_cases h).1
  simp only [bind, Except.bind, hcase, if_true]
  rfl

/-! ### What a pass runs -/

/-- The calls that reach the engine. -/
def IsEngine : Eff → Prop
  | .query _ _ _ => True
  | .getRecord _ _ _ => True
  | .createRecord _ _ _ => True
  | .executeProcess _ _ _ => True
  | _ => False

theorem verifiedRequest_cases {H : Hashes} {R : Runtime} {state : Json} {digest : Option String}
    {r : ErpProvisioningRequest} (h : verifiedRequest H R state digest = .ok r) :
    readRequest R state = .ok r ∧ ∃ d, digest = some d ∧ desiredStateDigest H R r = .ok d := by
  obtain ⟨request, hread, h⟩ := bind_eq_ok h
  have hread' : readRequest R state = .ok request := by
    unfold requestFromState at hread
    split at hread
    · rename_i s hs
      rw [hs, ← Except.ok.inj hread]
    · cases hread
    · cases hread
  split at h
  · cases h
  · rename_i accepted hfilter
    obtain ⟨d, hd, h⟩ := bind_eq_ok h
    split_ifs at h with heq
    obtain rfl := Except.ok.inj h
    subst heq
    exact ⟨hread', d, (Option.filter_eq_some_iff.1 hfilter).1, hd⟩

theorem mapM_id_eq_some {xs : List (Option ProvisioningStep)} {steps : List ProvisioningStep}
    (h : xs.mapM (id : Option ProvisioningStep → Option ProvisioningStep) = some steps) :
    xs = steps.map some := by
  induction xs generalizing steps with
  | nil =>
    obtain rfl := Option.some.inj h
    rfl
  | cons x xs ih =>
    rw [List.mapM_cons] at h
    cases x with
    | none => cases h
    | some s =>
      cases hxs : xs.mapM (id : Option ProvisioningStep → Option ProvisioningStep) with
      | none =>
        rw [hxs] at h
        cases h
      | some ss =>
        rw [hxs] at h
        obtain rfl := Option.some.inj h
        rw [List.map_cons, ih hxs]

theorem approvedSteps_cases {H : Hashes} {R : Runtime} {r : ErpProvisioningRequest}
    {rows : List Json} {steps : List ProvisioningStep}
    (h : Execution.approvedSteps H R r rows = .ok steps) :
    rows.mapM Execution.storedStep = .ok (steps.map some) ∧
      ∃ plan, buildPlan H R r = .ok plan ∧ Execution.sameSteps R steps plan.steps = true := by
  obtain ⟨stored, hstored, h⟩ := bind_eq_ok h
  obtain ⟨plan, hplan, h⟩ := bind_eq_ok h
  split at h
  · rename_i steps' hsteps
    split_ifs at h with hsame
    obtain rfl := Except.ok.inj h
    rw [← mapM_id_eq_some hsteps]
    exact ⟨hstored, plan, hplan, hsame⟩
  · cases h

/-- What `prepare` has proven when it answers. -/
theorem prepare_cases {D : ProvisioningDeployment} {state : Json} {digest : Option String}
    {rows : List Json} {r : ErpProvisioningRequest} {σ : Session} {runnable : List ProvisioningStep}
    (h : Execution.prepare D state digest rows = .ok (r, σ, runnable)) :
    verifiedRequest D.hashes D.runtime state digest = .ok r ∧
      ∃ steps, Execution.approvedSteps D.hashes D.runtime r rows = .ok steps ∧
        Execution.engineFor D r.engineInstanceId = .ok (some σ) ∧
        steps.mapM (enrichStep D.processes) = .ok runnable := by
  obtain ⟨request, hrequest, h⟩ := bind_eq_ok h
  obtain ⟨steps, hsteps, h⟩ := bind_eq_ok h
  obtain ⟨engine, hengine, h⟩ := bind_eq_ok h
  split at h
  · cases h
  · rename_i τ
    obtain ⟨run, hrun, h⟩ := bind_eq_ok h
    obtain ⟨rfl, hpair⟩ := Prod.mk.inj (Except.ok.inj h)
    obtain ⟨rfl, rfl⟩ := Prod.mk.inj hpair
    exact ⟨hrequest, steps, hsteps, hengine, hrun⟩

/-- **A pass that calls the engine is prepared.** -/
theorem prepared_of_calls {D : ProvisioningDeployment} {op : Execution.LoadedOperation}
    (h : Prog.Calls IsEngine (Execution.runOperation D op)) :
    ∃ r σ runnable, Execution.prepare D op.state op.digest op.plan = .ok (r, σ, runnable) := by
  cases hp : Execution.prepare D op.state op.digest op.plan with
  | ok x => exact ⟨x.1, x.2.1, x.2.2, rfl⟩
  | error x =>
    refine absurd h ?_
    unfold Execution.runOperation
    rw [hp]
    exact Prog.not_calls_ret

theorem isText_of_textCheck {code : String} {value : Json} {check : ReadinessCheck}
    (h : textCheck code value = .ok check) : IsText value := by
  unfold textCheck at h
  split at h
  · exact ⟨_, rfl⟩
  · cases h

theorem mem_mapM_ok {α β : Type} {f : α → Except Exc β} {xs : List α} {ys : List β}
    (h : xs.mapM f = .ok ys) {x : α} (hx : x ∈ xs) : ∃ y, f x = .ok y := by
  induction xs generalizing ys with
  | nil => cases hx
  | cons a xs ih =>
    rw [List.mapM_cons] at h
    obtain ⟨y, hy, h⟩ := bind_eq_ok h
    obtain ⟨zs, hzs, -⟩ := bind_eq_ok h
    rcases List.mem_cons.1 hx with rfl | hx
    · exact ⟨y, hy⟩
    · exact ih hzs hx

theorem texts_of_valid {R : Runtime} {r : ErpProvisioningRequest} {checks : List ReadinessCheck}
    (h : requireValidRequest R r = .ok checks) : IsText r.provisioningId ∧ IsText r.legalEntityId := by
  obtain ⟨checks, h, -⟩ := bind_eq_ok h
  obtain ⟨required, hrequired, -⟩ := bind_eq_ok h
  obtain ⟨_, hpid⟩ := mem_mapM_ok hrequired (x := ("provisioning_id", r.provisioningId))
    List.mem_cons_self
  obtain ⟨_, hentity⟩ := mem_mapM_ok hrequired (x := ("legal_entity_id", r.legalEntityId)) (by simp)
  exact ⟨isText_of_textCheck hpid, isText_of_textCheck hentity⟩

/-- **A prepared pass can call the engine**: it may find the client's id recorded
and read that record. -/
theorem calls_of_prepared {D : ProvisioningDeployment} {op : Execution.LoadedOperation}
    {r : ErpProvisioningRequest} {σ : Session} {runnable : List ProvisioningStep}
    (h : Execution.prepare D op.state op.digest op.plan = .ok (r, σ, runnable)) :
    Prog.Calls IsEngine (Execution.runOperation D op) := by
  obtain ⟨-, steps, hsteps, -, hrun⟩ := prepare_cases h
  obtain ⟨-, plan, hplan, hsame⟩ := approvedSteps_cases hsteps
  obtain ⟨-, markets, rest, -, -, heq⟩ := buildPlan_cases hplan
  obtain ⟨checks, hvalid, -⟩ := bind_eq_ok hplan
  obtain ⟨⟨pid, hpid⟩, ⟨entity, hentity⟩⟩ := texts_of_valid hvalid
  -- the first step is the one that creates the client
  obtain ⟨step, ss, rfl, hkind⟩ : ∃ step ss, steps = step :: ss ∧ step.kind = .createClient := by
    rw [heq] at hsame
    cases steps with
    | nil => cases hsame
    | cons step ss =>
      refine ⟨step, ss, rfl, ?_⟩
      simp only [firstSteps, List.cons_append, Execution.sameSteps, Execution.sameStep,
        Bool.and_eq_true, beq_iff_eq] at hsame
      exact hsame.1.1.2
  obtain ⟨run, runs, rfl, hrunkind⟩ : ∃ run runs, runnable = run :: runs ∧ run.kind = .createClient := by
    rw [List.mapM_cons] at hrun
    obtain ⟨run, hr, hrun⟩ := bind_eq_ok hrun
    obtain ⟨runs, -, hrun⟩ := bind_eq_ok hrun
    obtain rfl := Except.ok.inj hrun
    exact ⟨run, runs, rfl, (enrichStep_kind hr).trans hkind⟩
  -- nothing is completed, and the client's id is known: it is read from the engine
  have happly : ∀ {k : Unit → Program Execution.Outcome}, Prog.Calls IsEngine
      (Execution.applySteps D σ r op.provisioningId (run :: runs) >>= k) := by
    intro k
    rw [Execution.applySteps, IdempiereAdapter.apply, hrunkind]
    unfold IdempiereAdapter.createClient IdempiereAdapter.createOnce
    rw [hentity, hpid]
    exact .later (.ok (some (0 : Int) : Option (Row (.nativeMapping _ _)))) (.here trivial)
  unfold Execution.runOperation
  rw [h]
  refine Prog.Calls.later (.ok []) ?_
  simp only [Prog.handle, List.contains_nil, Bool.not_false, List.filter_true, List.isEmpty_cons,
    Bool.true_and]
  by_cases hs : (op.status != .applying) = true
  · rw [if_pos hs]
    -- the operation has no command to project its status into
    refine .later (.ok none) ?_
    refine .later (.ok (none : Option (Row (.entityOwner op.provisioningId)))) ?_
    exact .later (.ok ()) happly
  · rw [if_neg hs]
    exact happly

/-- One step is the other: its key, its kind and the documents of its payload. -/
def ProvisioningStep.SameAs (step other : ProvisioningStep) : Prop :=
  step.key = other.key ∧ step.kind = other.kind ∧
    Json.identical (.obj step.payload) (.obj other.payload) = true

/-- The payload has its numbers in the form the other has them in. -/
def ProvisioningStep.SpelledAs (step other : ProvisioningStep) : Prop :=
  Json.spelledAlike (.obj step.payload) (.obj other.payload) = true

/-- **What the pass runs**: with the stored digest as the request's own, the
stored steps, each enriched with its process id; `same` relates them to the steps
of the request's plan. -/
def Runs (D : ProvisioningDeployment) (op : Execution.LoadedOperation)
    (same : List ProvisioningStep → List ProvisioningStep → Prop) : Prop :=
  ∃ r σ steps plan runnable, Execution.prepare D op.state op.digest op.plan = .ok (r, σ, runnable) ∧
    op.plan.mapM Execution.storedStep = .ok (steps.map some) ∧
    steps.mapM (enrichStep D.processes) = .ok runnable ∧
    (∃ d, op.digest = some d ∧ desiredStateDigest D.hashes D.runtime r = .ok d) ∧
    buildPlan D.hashes D.runtime r = .ok plan ∧ same steps plan.steps

/-- The steps are those of the plan. -/
abbrev SamePlan : List ProvisioningStep → List ProvisioningStep → Prop :=
  List.Forall₂ ProvisioningStep.SameAs

/-- The steps equal those of the plan, as Python compares them. -/
abbrev EqualPlan (R : Runtime) (steps plan : List ProvisioningStep) : Prop :=
  Execution.sameSteps R steps plan = true

/-- **The stored payloads spell their numbers as the plan of the stored state
does**: no `true` or `4.0` where that has an integer. -/
def SpelledAsPlanned (D : ProvisioningDeployment) (op : Execution.LoadedOperation) : Prop :=
  ∀ r plan steps, readRequest D.runtime op.state = .ok r →
    buildPlan D.hashes D.runtime r = .ok plan →
    op.plan.mapM Execution.storedStep = .ok (steps.map some) →
    List.Forall₂ ProvisioningStep.SpelledAs steps plan.steps

/-- A pass that calls the engine runs steps equal to the plan's. -/
theorem runs_equal {D : ProvisioningDeployment} {op : Execution.LoadedOperation}
    (h : Prog.Calls IsEngine (Execution.runOperation D op)) :
    Runs D op (EqualPlan D.runtime) := by
  obtain ⟨r, σ, runnable, hp⟩ := prepared_of_calls h
  obtain ⟨hverified, steps, hsteps, -, hrun⟩ := prepare_cases hp
  obtain ⟨hstored, plan, hplan, hsame⟩ := approvedSteps_cases hsteps
  obtain ⟨-, hdigest⟩ := verifiedRequest_cases hverified
  exact ⟨r, σ, steps, plan, runnable, hp, hstored, hrun, hdigest, hplan, hsame⟩

theorem samePlan_of_equal {R : Runtime} {steps plan : List ProvisioningStep}
    (h : EqualPlan R steps plan) (hs : List.Forall₂ ProvisioningStep.SpelledAs steps plan) :
    SamePlan steps plan := by
  induction hs with
  | nil => exact .nil
  | @cons s t ss ts hst _ ih =>
    rw [EqualPlan, Execution.sameSteps, Bool.and_eq_true] at h
    obtain ⟨hstep, hrest⟩ := h
    rw [Execution.sameStep, Bool.and_eq_true, Bool.and_eq_true, beq_iff_eq, beq_iff_eq] at hstep
    obtain ⟨⟨hkey, hkind⟩, hpayload⟩ := hstep
    exact .cons ⟨hkey, hkind, Json.identical_of_equal hpayload hst⟩ (ih hrest)

/-- **The exact condition**: a pass that calls the engine runs the plan itself
where, and only where, the stored payloads are spelled as it is. -/
theorem runs_same_iff {D : ProvisioningDeployment} {op : Execution.LoadedOperation}
    (h : Prog.Calls IsEngine (Execution.runOperation D op)) :
    Runs D op SamePlan ↔ SpelledAsPlanned D op := by
  constructor
  · rintro ⟨r, σ, steps, plan, runnable, hp, hstored, -, -, hplan, hsame⟩ r' plan' steps' hr' hplan'
      hstored'
    obtain ⟨hread, -⟩ := verifiedRequest_cases (prepare_cases hp).1
    obtain rfl := Except.ok.inj (hread.symm.trans hr')
    obtain rfl := Except.ok.inj (hplan.symm.trans hplan')
    obtain rfl : steps = steps' := by
      have := Except.ok.inj (hstored.symm.trans hstored')
      exact List.map_injective_iff.2 (Option.some_injective _) this
    exact hsame.imp fun _ _ hst => Json.spelledAlike_of_identical hst.2.2
  · intro hspelled
    obtain ⟨r, σ, steps, plan, runnable, hp, hstored, hrun, hdigest, hplan, hequal⟩ := runs_equal h
    obtain ⟨hread, -⟩ := verifiedRequest_cases (prepare_cases hp).1
    exact ⟨r, σ, steps, plan, runnable, hp, hstored, hrun, hdigest, hplan,
      samePlan_of_equal hequal (hspelled r plan steps hread hplan hstored)⟩

/-- **An edited state runs only when it reads as the approved request**, up to
collisions of the hash. -/
theorem reads_as_approved {D : ProvisioningDeployment} {op : Execution.LoadedOperation}
    {r : ErpProvisioningRequest} {d : String} (hr : r.Typed) (hstate : Json.Loaded op.state)
    (hd : desiredStateDigest D.hashes D.runtime r = .ok d) (hop : op.digest = some d)
    (h : Prog.Calls IsEngine (Execution.runOperation D op)) :
    readRequest D.runtime op.state = .ok r ∨
      ∃ s t, s ≠ t ∧ D.hashes.sha256 s = D.hashes.sha256 t := by
  obtain ⟨r', σ, runnable, hp⟩ := prepared_of_calls h
  obtain ⟨hread, d', hop', hd'⟩ := verifiedRequest_cases (prepare_cases hp).1
  obtain rfl : d = d' := Option.some.inj (hop.symm.trans hop')
  obtain ⟨text, htext, hsha⟩ := bind_eq_ok hd
  obtain ⟨text', htext', hsha'⟩ := bind_eq_ok hd'
  by_cases heq : text = text'
  · subst heq
    rw [desiredStateJson_injective hr hstate hread htext htext'] at hread
    exact .inl hread
  · exact .inr ⟨text, text', heq, (Except.ok.inj hsha).trans (Except.ok.inj hsha').symm⟩

/-- **Only what was approved runs, where numbers are spelled as approved.** -/
theorem only_approved_runs (D : ProvisioningDeployment) (hsha : ∀ t, D.hashes.sha256 t ≠ "") :
    (∀ r checks, r.Typed → requireValidRequest D.runtime r = .ok checks →
      ∃ plan state, buildPlan D.hashes D.runtime r = .ok plan ∧
        desiredState D.runtime r = .ok state ∧
        verifiedRequest D.hashes D.runtime state (some plan.desiredStateDigest) = .ok r ∧
        Execution.planRows D.runtime (AcceptOperation.planDocument plan.steps) =
          .ok (plan.steps.map stepRow) ∧
        Execution.approvedSteps D.hashes D.runtime r (plan.steps.map stepRow) = .ok plan.steps) ∧
    (∀ op, Prog.Calls IsEngine (Execution.runOperation D op) →
      Runs D op (EqualPlan D.runtime) ∧ (Runs D op SamePlan ↔ SpelledAsPlanned D op)) ∧
    ∀ op r d, r.Typed → Json.Loaded op.state →
      desiredStateDigest D.hashes D.runtime r = .ok d → op.digest = some d →
      Prog.Calls IsEngine (Execution.runOperation D op) →
      readRequest D.runtime op.state = .ok r ∨
        ∃ s t, s ≠ t ∧ D.hashes.sha256 s = D.hashes.sha256 t := by
  refine ⟨fun r checks hr hvalid => ?_, fun op h => ⟨runs_equal h, runs_same_iff h⟩,
    fun op r d hr hstate hd hop h => reads_as_approved hr hstate hd hop h⟩
  obtain ⟨plan, hplan⟩ := buildPlan_of_valid (H := D.hashes) hr hvalid
  obtain ⟨text, -, hdigest⟩ := bind_eq_ok (buildPlan_cases hplan).1
  have hne : plan.desiredStateDigest ≠ "" := by
    rw [← Except.ok.inj hdigest]
    exact hsha text
  obtain ⟨state, hstate, hverified, hrows, hsteps⟩ := reads_back hne hr hplan
  exact ⟨plan, state, hplan, hstate, hverified, hrows, hsteps⟩

/-! ### A request of one market -/

def keMarket : MarketConfiguration :=
  { marketId := .str "KE", countryCode := .str "KE", participationCapabilities := [.str "selling"]
    currencies := [.str "KES"], localisationProfile := .str "KE-2026"
    warehouseCodes := [.str "NBO-1"], warehouseTimezones := [] }

def keAccounting : AccountingConfiguration :=
  { functionalCurrency := .str "KES", fiscalYearStartMonth := 1
    chartOfAccountsTemplate := .str "coa-ke", accountingSchema := .str "ifrs"
    taxProfile := .str "vat-ke", costingMethod := .str "average", approvedBy := .str "finance"
    approvedAt := ⟨⟨2026, 1, 1, by decide⟩, 0, 0, 0, 0, some 0, DateTime.midnight_valid⟩ }

def keRequest : ErpProvisioningRequest :=
  { provisioningId := .str "tp_acme.NABK.v1", idempotencyKey := .str "erp-provision-tp_acme-NABK-v1"
    tenantId := .str "tn_acme", legalEntityId := .str "NABK", legalName := .str "Acme Kenya"
    registrationIdentifier := .str "NABK", jurisdictionCode := .str "KE"
    engineInstanceId := .str "engine-1", isolationRequirement := .str "schema_per_tenant"
    planDigest := .str "sha256:plan", targetEnvironment := .str "production"
    effectiveDate := ⟨2026, 1, 1, by decide⟩, accounting := keAccounting, markets := [keMarket]
    requestedCapabilities := [.str "finance.order-consequence.process"] }


/-- The canonical text of the request has this SHA-256; no other text is hashed. -/
def keDigest : String := "9cbcc84b25f6d4c69b5aa0d85b51165bed36dd446ad1aa576de9b97598add9c2"

/-- A deployment with one engine. -/
def keDeployment : ProvisioningDeployment where
  hashes := ⟨fun _ name => name, fun _ => keDigest, fun _ => 0⟩
  lockHash _ seed := seed
  runtime := ⟨fun _ => none, fun _ _ => .lt, fun s => s.toList.all Char.isUpper, id⟩
  credentials _ := some ⟨"https://engine", "erp", 0, 0, 0⟩
  processes := some ⟨101, [("KE", 102)]⟩
  dependencies := none
  issues _ _ _ := true
  foreign _ := false
  approves _ := true

/-- The stored plan of the request, with `month` as its accounting step's month. -/
def kePlan (month : Json) : List Json :=
  let step (name kind : String) (payload : List (String × Json)) : Json :=
    .obj [("key", .str ("tp_acme.NABK.v1:" ++ String.ofList (keDigest.toList.take 12) ++ ":" ++ name)),
      ("kind", .str kind), ("payload", .obj payload)]
  [step "client" "create_client" [("Name", .str "Acme Kenya")],
    step "accounting" "configure_accounting"
      [("functional_currency", .str "KES"), ("accounting_schema", .str "ifrs"),
        ("chart_of_accounts_template", .str "coa-ke"), ("fiscal_year_start_month", month),
        ("tax_profile", .str "vat-ke"), ("costing_method", .str "average")],
    step "market:KE" "configure_localisation"
      [("market_id", .str "KE"), ("country_code", .str "KE"), ("profile", .str "KE-2026")],
    step "warehouse:KE:NBO-1" "create_warehouse"
      [("market_id", .str "KE"), ("warehouse_code", .str "NBO-1")],
    step "mapping" "persist_mapping"
      [("tenant_id", .str "tn_acme"), ("legal_entity_id", .str "NABK"),
        ("engine_instance_id", .str "engine-1"), ("plan_digest", .str "sha256:plan")]]

/-- The accepted operation, with that plan. -/
def keOperation (month : Json) : Execution.LoadedOperation :=
  { provisioningId := "tp_acme.NABK.v1"
    state := match desiredState keDeployment.runtime keRequest with
      | .ok state => state
      | .error _ => .null
    digest := some keDigest, plan := kePlan month, status := .planned, attempts := 1, createdAt := 0 }

/-- Whether a pass over the operation comes to the engine. -/
def isPrepared (op : Execution.LoadedOperation) : Bool :=
  match Execution.prepare keDeployment op.state op.digest op.plan with
  | .ok _ => true
  | .error _ => false

theorem calls_of_isPrepared {op : Execution.LoadedOperation} (h : isPrepared op = true) :
    Prog.Calls IsEngine (Execution.runOperation keDeployment op) := by
  unfold isPrepared at h
  split at h
  · rename_i x hx
    exact calls_of_prepared hx
  · cases h

/-- Whether the stored payloads are spelled as planned. -/
def isSpelled (op : Execution.LoadedOperation) : Bool :=
  match readRequest keDeployment.runtime op.state with
  | .error _ => true
  | .ok r =>
    match buildPlan keDeployment.hashes keDeployment.runtime r,
        op.plan.mapM Execution.storedStep with
    | .ok plan, .ok stored => (stored.zip plan.steps).all fun p => p.1.all fun s =>
        Json.spelledAlike (.obj s.payload) (.obj p.2.payload)
    | _, _ => true

theorem isSpelled_of_runs {op : Execution.LoadedOperation}
    (hcalls : Prog.Calls IsEngine (Execution.runOperation keDeployment op))
    (h : Runs keDeployment op SamePlan) : isSpelled op = true := by
  obtain ⟨r, σ, steps, plan, runnable, hp, hstored, -, -, hplan, -⟩ := id h
  obtain ⟨hread, -⟩ := verifiedRequest_cases (prepare_cases hp).1
  have hspelled := (runs_same_iff hcalls).1 h r plan steps hread hplan hstored
  unfold isSpelled
  rw [hread]
  simp only [hplan, hstored]
  clear hplan hstored
  generalize plan.steps = planned at hspelled ⊢
  induction hspelled with
  | nil => rfl
  | @cons s t ss ts hst _ ih =>
    rw [List.map_cons, List.zip_cons_cons, List.all_cons, ih]
    simpa [ProvisioningStep.SpelledAs] using hst

/-- The month of the stored accounting step edited to `true`: the pass calls the
engine with steps that are not the plan's. -/
theorem edited_step_runs :
    Prog.Calls IsEngine (Execution.runOperation keDeployment (keOperation (.bool true))) ∧
      ¬ Runs keDeployment (keOperation (.bool true)) SamePlan := by
  have hprepared : isPrepared (keOperation (.bool true)) = true := by decide +kernel
  have hcalls := calls_of_isPrepared hprepared
  have hspelled : isSpelled (keOperation (.bool true)) = false := by decide +kernel
  refine ⟨hcalls, fun h => ?_⟩
  rw [isSpelled_of_runs hcalls h] at hspelled
  cases hspelled

/-- The plan as it was stored runs. -/
theorem only_approved_runs_unedited :
    Runs keDeployment (keOperation (.int 1)) (EqualPlan keDeployment.runtime) ∧
      (Runs keDeployment (keOperation (.int 1)) SamePlan ↔
        SpelledAsPlanned keDeployment (keOperation (.int 1))) :=
  (only_approved_runs keDeployment fun _ => (by decide : keDigest ≠ "")).2.1 (keOperation (.int 1))
    (calls_of_isPrepared (by decide +kernel))

end Provisioning
end BaobabErp
