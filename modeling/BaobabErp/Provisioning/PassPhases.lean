/-
# The two phases of a pass

A pass of `ProvisioningExecutor` prepares, applies its steps and registers its warehouses;
then it checks what is there.  What goes wrong in the first phase ends the pass; what a
readiness check finds wrong is a check that fails.
-/

import BaobabErp.Provisioning.Execution
import BaobabErp.Concurrency.Trace

namespace BaobabErp
namespace Provisioning

open Python Concurrency

namespace Execution

variable (D : ProvisioningDeployment)

/-- The first phase after the preparation: the steps and the warehouses. -/
def stepsOf (operation : LoadedOperation) (request : ErpProvisioningRequest) (σ : Session)
    (runnable : List ProvisioningStep) : Program Unit := do
  let done ← ProvisioningStore.completedSteps operation.provisioningId
  let pending := runnable.filter fun step => !done.contains step.key
  if !pending.isEmpty && operation.status != .applying then
    ProvisioningStore.setStatus D operation.provisioningId .applying none
  applySteps D σ request operation.provisioningId pending
  registerWarehouses D request runnable
  if operation.status != .reconciling then
    ProvisioningStore.setStatus D operation.provisioningId .reconciling none

/-- The second phase: the readiness checks. -/
def checksOf (operation : LoadedOperation) (request : ErpProvisioningRequest) (σ : Session)
    (runnable : List ProvisioningStep) : Program Outcome := do
  let own ← orRaise (validateRequest D.runtime request)
  let checks ← checkSteps D σ request runnable
  if (own ++ checks).all ReadinessCheck.ready then
    ProvisioningStore.setStatus D operation.provisioningId .ready none
    pure { status := .ready, code := "READY" }
  else
    pure { status := .retry, code := "NOT_READY", detail := failingText (own ++ checks) }

/-- The first phase of a pass. -/
def stepsPhase (operation : LoadedOperation) :
    Program (ErpProvisioningRequest × Session × List ProvisioningStep) := do
  let prepared ← orRaise (prepare D operation.state operation.digest operation.plan)
  stepsOf D operation prepared.1 prepared.2.1 prepared.2.2
  pure prepared

theorem runPrepared_eq (operation : LoadedOperation) (request : ErpProvisioningRequest) (σ : Session)
    (runnable : List ProvisioningStep) : runPrepared D operation request σ runnable =
      (stepsOf D operation request σ runnable >>= fun _ => checksOf D operation request σ runnable) := by
  unfold runPrepared stepsOf
  rw [Prog.bind_bind]
  refine congrArg (ProvisioningStore.completedSteps operation.provisioningId >>= ·) (funext fun done => ?_)
  dsimp only
  split
  · split
    · simp only [Prog.bind_bind]
      rfl
    · simp only [Prog.bind_bind]
      rfl
  · split
    · simp only [Prog.bind_bind]
      rfl
    · simp only [Prog.bind_bind]
      rfl

/-- **A pass is its steps, then its checks.** -/
theorem runOperation_eq (operation : LoadedOperation) : runOperation D operation =
    (stepsPhase D operation >>= fun prepared =>
      checksOf D operation prepared.1 prepared.2.1 prepared.2.2) := by
  unfold runOperation stepsPhase
  rw [Prog.bind_bind]
  refine congrArg (orRaise _ >>= ·) (funext fun prepared => ?_)
  rw [Prog.bind_bind]
  exact runPrepared_eq D operation prepared.1 prepared.2.1 prepared.2.2

end Execution

end Provisioning
end BaobabErp
