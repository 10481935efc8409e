/-
# Lasting provisioning

What an accepted operation leaves lasts, in every state that any interleaving of
workers, with any crashes and failed calls, reaches. A tenant mapping rests on an
approved assignment and on the client its operation has in the engine, and stays
(`mappings_backed`); a pass over a stored operation, however late, prepares the plan
that was accepted and never refuses it for drift (`stored_plans_prepare`).
-/

import BaobabErp.Provisioning.CreatedOnce

namespace BaobabErp
namespace Provisioning

open Python Concurrency Execution

section

variable {D : ProvisioningDeployment} {rows : Rows} {engine : List NativeRecord} {pid : String}
  {row row' : OperationRow} {b : Blueprint}

/-- An operation that went forward is the plan it was. -/
theorem Planned.forward (hb : Planned D pid row b) (h : row.Forward row') : Planned D pid row' b := by
  obtain ⟨-, hstate, hdigest, hplan⟩ := h
  exact
    { hb with state := hstate ▸ hb.state, digest := hdigest ▸ hb.digest, steps := hplan ▸ hb.steps }

/-! ### Mappings -/

/-- **What a tenant mapping rests on**: an approved assignment of the tenant and its legal
entity to the engine, whose operation has the client, and the record of the client in the
engine, with the operation's marker. -/
structure Backed (D : ProvisioningDeployment) (s : World) (tenant legalEntity : String)
    (m : TenantMappingRow) (pid : String) (b : Blueprint) : Prop where
  approved : D.approves b.assignment = true
  planned : ∃ row : OperationRow, s.rows (.operation pid) = some row ∧ Planned D pid row b
  tenant : b.assignment.tenantId = tenant
  legalEntity : b.assignment.legalEntityId = legalEntity
  engine : m.engineInstanceId = some b.assignment.engineInstanceId
  org : m.adOrgId = 0
  primary : s.rows (.nativeMapping pid IdempiereAdapter.clientAliasKey) = some m.adClientId
  client : ∃ step ∈ b.plan.steps, step.kind = .createClient ∧ ∃ σ,
    D.credentials b.assignment.engineInstanceId = some σ ∧
      IsMarked s.engine σ.baseUrl "AD_Client" step m.adClientId

/-- A mapping of the committed rows is backed. -/
theorem Coordinated.backed {s : World} (hs : Coordinated D s) {tenant legalEntity : String}
    {m : TenantMappingRow} (hm : s.rows (.tenantMapping tenant legalEntity) = some m) :
    ∃ pid b, Backed D s tenant legalEntity m pid b := by
  obtain ⟨pid, row, b, hrow, hb, htenant, hentity, halias, horg, hengine⟩ :=
    hs.ledger.provisioned.mapped tenant legalEntity m hm
  have hplaced : Placed D pid b row.status s.rows s.engine :=
    hs.ledger.provisioned.placed pid row b hrow hb
  obtain ⟨client, hclient, hkind⟩ := hb.client_mem
  have htable : IdempiereAdapter.table client.kind = some "AD_Client" := by
    rw [hkind]
    rfl
  have hmarked := hplaced.marked hclient htable (hplaced.primary _ halias client hclient hkind)
  exact ⟨pid, b, hb.approved, ⟨row, hrow, hb⟩, htenant, hentity, hengine, horg, halias, client, hclient,
    hkind, hmarked⟩

/-- **Every tenant mapping rests on an approved assignment, and stays.** In every state that
any interleaving of workers and requests reaches, a mapping names the client that the
operation of an approved assignment of its tenant and legal entity has in the engine; no
later state has another mapping in its place, and the same operation still backs it. -/
theorem mappings_backed (D : ProvisioningDeployment) (huuid : IsUuid5 D.hashes)
    {p q : (provisioning D).Pool} (hp : Reached p) (hq : Machine.Reaches (anySchedule D) p q)
    (tenant legalEntity : String) :
    ∀ m : TenantMappingRow, p.state.rows (.tenantMapping tenant legalEntity) = some m →
      q.state.rows (.tenantMapping tenant legalEntity) = some m ∧
        ∃ pid b, Backed D p.state tenant legalEntity m pid b ∧
          Backed D q.state tenant legalEntity m pid b := by
  intro m hm
  have hforward : Forward p.state.rows q.state.rows := hp.forward huuid hq
  refine ⟨hforward.permanent (.tenantMapping tenant legalEntity) rfl m hm, ?_⟩
  obtain ⟨pid, b, h⟩ := (Reached.sound huuid hp).1.backed hm
  refine ⟨pid, b, h, ?_⟩
  obtain ⟨row, hrow, hb⟩ := h.planned
  obtain ⟨row', hrow', hrows⟩ := hforward.operation pid row hrow
  obtain ⟨client, hclient, hkind, σ, hσ, hmarked⟩ := h.client
  exact
    { h with
      planned := ⟨row', hrow', hb.forward hrows⟩
      primary := hforward.permanent (.nativeMapping pid _) rfl _ h.primary
      client := ⟨client, hclient, hkind, σ, hσ, hp.engine_grows huuid hq _ hmarked⟩ }

/-- A worker that takes up one operation, at the next microsecond. -/
def acmeWorker (calls : Nat) : List (provisioning acmeDeployment).Action :=
  .launch "w" (.worker 1) ::
    List.replicate calls (.call "w" { acmeAnswers with now := acmeAnswers.now + 1 }) ++ [.stop "w"]

/-- A worker that dies right after the accepted operation's mapping is committed. -/
theorem acme_mapped : ∃ (p : (provisioning acmeDeployment).Pool) (m : TenantMappingRow), Reached p ∧
    p.state.rows (.tenantMapping "tn_acme" "NABK") = some m := by
  have hrun : (Machine.run (acmeSession (.request acmePost) 15 ++ acmeWorker 50)
      (Machine.idle World.empty)).map
        (fun p => (p.state.rows (.tenantMapping "tn_acme" "NABK")).isSome) = some true := by
    decide +kernel
  obtain ⟨p, hp, hend⟩ := Option.map_eq_some_iff.1 hrun
  obtain ⟨m, hm⟩ := Option.isSome_iff_exists.1 hend
  exact ⟨p, m, Machine.reaches_of_run (fun _ _ _ => trivial) hp, hm⟩

/-- The mapping of that tenant. -/
theorem mappings_backed_acme : ∃ (p : (provisioning acmeDeployment).Pool) (m : TenantMappingRow),
    p.state.rows (.tenantMapping "tn_acme" "NABK") = some m ∧
      ∃ pid b, Backed acmeDeployment p.state "tn_acme" "NABK" m pid b := by
  obtain ⟨p, m, hp, hm⟩ := acme_mapped
  obtain ⟨-, pid, b, hbacked, -⟩ :=
    mappings_backed acmeDeployment acmeHashes_isUuid5 hp .refl "tn_acme" "NABK" m hm
  exact ⟨p, m, hm, pid, b, hbacked⟩

/-! ### Stored plans -/

/-- What a pass prepares of a blueprint: the configuration alone decides it. -/
def Blueprint.prepared (D : ProvisioningDeployment) (b : Blueprint) :
    Except Exc (ErpProvisioningRequest × Session × List ProvisioningStep) :=
  match D.credentials b.assignment.engineInstanceId with
  | none => .error .engineUnconfigured
  | some σ => (b.plan.steps.mapM (enrichStep D.processes)).map fun runnable => (b.request, σ, runnable)

theorem Planned.digest_ne_empty (hb : Planned D pid row b) (hsha : ∀ text, D.hashes.sha256 text ≠ "") :
    b.plan.desiredStateDigest ≠ "" := by
  obtain ⟨hdigest, -⟩ := buildPlan_cases hb.plan
  obtain ⟨text, -, hdigest⟩ := bind_eq_ok hdigest
  rw [← Except.ok.inj hdigest]
  exact hsha text

/-- **The stored documents of an operation are its blueprint**: they are read, verified and
found to be the plan. -/
theorem Planned.prepare_eq (hb : Planned D pid row b) (hsha : ∀ text, D.hashes.sha256 text ≠ "") :
    ∃ steps, planRows D.runtime row.plan = .ok steps ∧
      prepare D row.desiredState row.desiredStateDigest steps = b.prepared D := by
  obtain ⟨state, hstate, hverified, hrows, hsteps⟩ :=
    reads_back (hb.digest_ne_empty hsha) hb.typed hb.plan
  obtain rfl := Except.ok.inj (hstate.symm.trans hb.state)
  refine ⟨b.plan.steps.map stepRow, hb.steps ▸ hrows, ?_⟩
  have hengine : engineFor D b.request.engineInstanceId =
      .ok (D.credentials b.assignment.engineInstanceId) := by
    rw [hb.engine]
    rfl
  unfold prepare Blueprint.prepared
  rw [hb.digest, hverified]
  simp only [bind, Except.bind, hsteps, hengine]
  cases D.credentials b.assignment.engineInstanceId with
  | none => rfl
  | some σ =>
    dsimp only
    cases b.plan.steps.mapM (enrichStep D.processes) with
    | error x => rfl
    | ok runnable => rfl

/-- **What was approved can be run for good.** Whatever happens between the acceptance of an
operation and a pass over it, however late, its row is there with the documents it was
accepted with, and the pass prepares the request and the plan of its assignment: it is
never refused for drift, and only a missing session or process id stops it. -/
theorem stored_plans_prepare (D : ProvisioningDeployment) (huuid : IsUuid5 D.hashes)
    (hsha : ∀ text, D.hashes.sha256 text ≠ "") {p q : (provisioning D).Pool} (hp : Reached p)
    (hq : Machine.Reaches (anySchedule D) p q) (pid : String) :
    ∀ row : OperationRow, p.state.rows (.operation pid) = some row →
      ∃ (row' : OperationRow) (b : Blueprint), q.state.rows (.operation pid) = some row' ∧
        row.Forward row' ∧ Planned D pid row b ∧ Planned D pid row' b ∧
        ∃ steps, planRows D.runtime row'.plan = .ok steps ∧
          prepare D row'.desiredState row'.desiredStateDigest steps = b.prepared D := by
  intro row hrow
  obtain ⟨-, b, hb⟩ := (Reached.sound huuid hp).1.ledger.provisioned.planned pid row hrow
  obtain ⟨row', hrow', hforward⟩ := (hp.forward huuid hq).operation pid row hrow
  have hb' : Planned D pid row' b := hb.forward hforward
  exact ⟨row', b, hrow', hforward, hb, hb', hb'.prepare_eq hsha⟩

/-- The operation of a request, as it is accepted. -/
theorem stored_plans_prepare_acme : ∃ (p : (provisioning acmeDeployment).Pool) (row : OperationRow)
    (b : Blueprint), p.state.rows (.operation "tp_acme.NABK.v1") = some row ∧
      Planned acmeDeployment "tp_acme.NABK.v1" row b ∧
      ∃ steps, planRows acmeDeployment.runtime row.plan = .ok steps ∧
        prepare acmeDeployment row.desiredState row.desiredStateDigest steps =
          b.prepared acmeDeployment := by
  obtain ⟨p, hp, -, hoperation, -⟩ := acme_accepted
  obtain ⟨row, hrow⟩ := Option.isSome_iff_exists.1 hoperation
  have hdigest : acmeHashes.sha256 "" ≠ "" := by decide +kernel
  have hsha : ∀ text, acmeHashes.sha256 text ≠ "" := fun _ => hdigest
  obtain ⟨row', b, hrow', -, -, hb, hsteps⟩ :=
    stored_plans_prepare acmeDeployment acmeHashes_isUuid5 hsha hp .refl _ row hrow
  obtain rfl := Option.some.inj (hrow.symm.trans hrow')
  exact ⟨p, row, b, hrow, hb, hsteps⟩

end
end Provisioning
end BaobabErp
