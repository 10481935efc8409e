/-
# The process ids a plan runs

`modules/provisioning/native_processes.py`: a process id is deployment
configuration, so the planner leaves it out and the executor adds it to a step
just before it runs.
-/

import BaobabErp.Provisioning.Request

namespace BaobabErp
namespace Provisioning

open Python

/-- `NativeProvisioningProcesses`. -/
structure NativeProvisioningProcesses where
  accountingProcessId : Int
  localisationProcessIds : List (String × Int)

/-- The step with its process id. -/
def ProvisioningStep.withProcess (step : ProvisioningStep) (process : Int) : ProvisioningStep :=
  { step with payload := Json.insertMember step.payload "process_id" (.int process) }

/-- `NativeProvisioningProcesses.enrich`. -/
def NativeProvisioningProcesses.enrich (p : NativeProvisioningProcesses) (step : ProvisioningStep) :
    Except Exc ProvisioningStep :=
  match step.kind with
  | .configureAccounting => .ok (step.withProcess p.accountingProcessId)
  | .configureLocalisation =>
    match step.payload.lookup "country_code" with
    | none => .error (.other "KeyError")
    | some country =>
      if !country.hashable then .error (.other "TypeError")
      else match country.str?.bind fun s => p.localisationProcessIds.lookup s with
        | none => .error .processUnconfigured
        | some process => .ok (step.withProcess process)
  | _ => .ok step

/-- `enrich_step`. -/
def enrichStep (processes : Option NativeProvisioningProcesses) (step : ProvisioningStep) :
    Except Exc ProvisioningStep :=
  if step.kind ≠ .configureAccounting ∧ step.kind ≠ .configureLocalisation then .ok step
  else match processes with
    | none => .error .processUnconfigured
    | some p => p.enrich step

/-- **A step is only enriched with its process id.** -/
theorem enrichStep_eq {processes : Option NativeProvisioningProcesses} {step run : ProvisioningStep}
    (h : enrichStep processes step = .ok run) :
    run = step ∨ ∃ process, run = step.withProcess process := by
  unfold enrichStep at h
  split_ifs at h with hk
  · exact .inl (Except.ok.inj h).symm
  · cases processes with
    | none => cases h
    | some p =>
      simp only [NativeProvisioningProcesses.enrich] at h
      split at h
      · exact .inr ⟨_, (Except.ok.inj h).symm⟩
      · split at h
        · cases h
        · split_ifs at h
          split at h
          · cases h
          · exact .inr ⟨_, (Except.ok.inj h).symm⟩
      · exact .inl (Except.ok.inj h).symm

theorem enrichStep_key {processes : Option NativeProvisioningProcesses} {step run : ProvisioningStep}
    (h : enrichStep processes step = .ok run) : run.key = step.key := by
  rcases enrichStep_eq h with rfl | ⟨_, rfl⟩ <;> rfl

theorem enrichStep_kind {processes : Option NativeProvisioningProcesses} {step run : ProvisioningStep}
    (h : enrichStep processes step = .ok run) : run.kind = step.kind := by
  rcases enrichStep_eq h with rfl | ⟨_, rfl⟩ <;> rfl

end Provisioning
end BaobabErp
