import SdarRuntime.Deployments.Store

/-!
The lifecycle manager: an operation is handed to the process manager once for an idempotency key.
One that runs out of time, or whose run is cancelled, has failed as far as its caller knows, while
the process manager may carry it out all the same, at once or later.
-/

namespace SdarRuntime

namespace Deployments

open Program

structure RuntimeInfrastructureOperationContext where
  operationId : String
  correlationId : String
  idempotencyKey : String

namespace RuntimeLifecycleManager

def cancelled : Failure := .other (some "RUNTIME_LIFECYCLE_CANCELLED") false

def errorCodes : List String :=
  ["RUNTIME_LIFECYCLE_TIMEOUT", "RUNTIME_LIFECYCLE_CANCELLED", "RUNTIME_LIFECYCLE_PROCESS_ERRORED",
    "RUNTIME_LIFECYCLE_OPERATION_FAILED"]

def processManagerCodes : List String :=
  ["PM2_PROCESS_NAME_FORBIDDEN", "PM2_RUNTIME_RELEASE_INVALID", "PM2_BOOTSTRAP_INVALID",
    "PM2_RECOVERY_POLICY_INVALID", "PM2_CONNECTION_FAILED", "PM2_PROCESS_NOT_FOUND",
    "PM2_OPERATION_FAILED"]

def mapError (failure : Failure) (aborted : Bool) : Failure :=
  match failure with
  | .other (some code) retryable =>
    if code ∈ errorCodes then failure
    else if aborted then cancelled
    else if code ∈ processManagerCodes then
      .other (some "RUNTIME_LIFECYCLE_OPERATION_FAILED") retryable
    else .other (some "RUNTIME_LIFECYCLE_OPERATION_FAILED") true
  | _ =>
    if aborted then cancelled else .other (some "RUNTIME_LIFECYCLE_OPERATION_FAILED") true

/-- The operation goes to the process manager, which has carried it out where the wait for it ends
well. -/
def boundedOperation (operation : ProcessOperation) : DeploymentProgram Unit := do
  exec (.issue operation)
  ask (.awaitOperation operation)
  exec (.settle operation)

def run (action : RuntimeLifecycleAction) (target : RuntimeInfrastructureInstanceTarget)
    (context : RuntimeInfrastructureOperationContext) : DeploymentProgram Unit := do
  if ← ask .aborted then .fail cancelled
  else
    let idempotencyKey := action.text ++ ":" ++ context.idempotencyKey
    if ← exec (.findCompleted idempotencyKey) then return
    else
      ask (.audit ("runtime_process." ++ action.text))
      ask (.audit ("runtime_process." ++ action.text ++ "_started"))
      attempt (do
        boundedOperation { action := action, processName := target.processName }
        ask (.audit ("runtime_process." ++ action.text))
        exec (.complete idempotencyKey)
        ask (.audit ("runtime_process." ++ action.text ++ "_succeeded")))
        fun failure => do
          let mapped := mapError failure (← ask .aborted)
          let _ ← caught (ask (.audit ("runtime_process." ++ action.text)))
          let _ ← caught (ask (.audit ("runtime_process." ++ action.text ++ "_failed")))
          .fail mapped

end RuntimeLifecycleManager

structure RuntimeReconcileInstance where
  target : RuntimeInfrastructureInstanceTarget
  effectiveConfig : EffectiveConfig

namespace PostgresRuntimeReconcileStore

def requireDeployment (providerId deploymentId : String) : DeploymentProgram RuntimeDeployment := do
  match ← PostgresRuntimeDeploymentRepository.get providerId deploymentId with
  | some deployment => return deployment
  | none => .fail .error

/-- The status the caller expects is compared with a row read here, and the row saved only if it is
still that one. -/
def transition (providerId deploymentId : String) (target expectedStatus : RuntimeDeploymentStatus)
    (expectedObservedRevision : Nat) : DeploymentProgram RuntimeDeployment := do
  let deployment ← requireDeployment providerId deploymentId
  let moved ← ofExcept
    (deployment.transition target expectedStatus expectedObservedRevision)
  let _ ← PostgresRuntimeDeploymentRepository.save moved deployment.desiredRevision
    expectedObservedRevision
  return moved

def fail (providerId deploymentId : String) (expectedStatus : RuntimeDeploymentStatus)
    (expectedObservedRevision : Nat) : DeploymentProgram Unit := do
  let _ ← transition providerId deploymentId .failed expectedStatus expectedObservedRevision
  ask (.audit "runtime_deployment.reconcile_failed")

/-- The published configuration, with the adapter's endpoint where the deployment names one. -/
def overlay (deployment : RuntimeDeployment) (content : EffectiveConfig) : EffectiveConfig :=
  fun name =>
    if name = "ADAPTER_ENDPOINT" then
      (deployment.adapterEndpoint.map ConfigurationValue.text).or (content name)
    else content name

def ensureInstance (deployment : RuntimeDeployment) (ordinal : Nat) :
    DeploymentProgram RuntimeReconcileInstance := do
  if deployment.runtimeAuthority = .directContainer then .fail .error
  else
    let process ← exec
      (.allocate deployment.providerId deployment.deploymentId ordinal)
    let content ← ask (.publishedConfiguration deployment)
    return {
      target :=
        { providerId := deployment.providerId
          deploymentId := deployment.deploymentId
          instanceId := process.instanceId
          processName := process.pm2Name }
      effectiveConfig := overlay deployment content }

def getDirectInstance (deployment : RuntimeDeployment) :
    DeploymentProgram RuntimeReconcileDirectInstance := do
  if deployment.runtimeAuthority ≠ .directContainer then .fail .error
  else ask (.directInstance deployment)

def ensureInstances (deployment : RuntimeDeployment) (first : Nat) :
    Nat → DeploymentProgram (List RuntimeInfrastructureInstanceTarget)
  | 0 => return []
  | count + 1 => do
    let ensured ← ensureInstance deployment first
    let others ← ensureInstances deployment (first + 1) count
    return ensured.target :: others

def listInstances (providerId deploymentId : String) :
    DeploymentProgram (List RuntimeInfrastructureInstanceTarget) := do
  let deployment ← requireDeployment providerId deploymentId
  if deployment.runtimeAuthority = .directContainer then
    let direct ← getDirectInstance deployment
    return [direct.target]
  else
    let processes ← exec (.listByDeployment providerId deploymentId)
    ensureInstances deployment 0 processes.length

end PostgresRuntimeReconcileStore

end Deployments

end SdarRuntime
