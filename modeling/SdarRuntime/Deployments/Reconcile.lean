import SdarRuntime.Deployments.DatabasePreparation
import SdarRuntime.Deployments.Lifecycle

/-!
The reconciler of a deployment: one loop for a deployment the platform manages, one for a container
that runs elsewhere. Each turn of a loop does what the status calls for and either goes on with the
aggregate it got back or ends the run.
-/

namespace SdarRuntime

namespace Deployments

open Program PostgresRuntimeReconcileStore

structure RuntimeDeploymentReconcileInput where
  providerId : String
  deploymentId : String
  context : RuntimeInfrastructureOperationContext

structure RuntimeDeploymentReconcileResult where
  deployment : RuntimeDeployment
  progressed : Bool
  orphanProcessNames : List String

inductive Turn where
  | proceed (deployment : RuntimeDeployment)
  | finish (deployment : RuntimeDeployment) (progressed : Bool)

def checkpoint : DeploymentProgram Unit := do
  if ← ask .aborted then .fail .aborted

def cancellable {α : Type} (operation : DeploymentProgram α) : DeploymentProgram α := do
  checkpoint
  let result ← operation
  checkpoint
  return result

def stepContext (context : RuntimeInfrastructureOperationContext) (step : String)
    (revision : Nat) : RuntimeInfrastructureOperationContext :=
  { context with
    idempotencyKey := context.idempotencyKey ++ ":" ++ step ++ ":" ++ toString revision }

def isHealthy (result : RuntimeReconcileHealthResult) : Bool :=
  result.processState = .online && result.live && result.ready

def isRegistered (instance' : RuntimeReconcileDirectInstance) : Bool :=
  instance'.registrationState = .registered && instance'.registrationFresh

def canFail (status : RuntimeDeploymentStatus) : Bool := status ≠ .failed ∧ status ≠ .stopped

def requireAdapterEndpoint (effectiveConfig : EffectiveConfig) : Except Failure String :=
  match effectiveConfig "ADAPTER_ENDPOINT" with
  | some (.text endpoint) => if endpoint.isEmpty then .error .error else .ok endpoint
  | _ => .error .error

def requireAdapterTlsConfiguration (effectiveConfig : EffectiveConfig) :
    Except Failure RuntimeReconcileAdapterTlsConfiguration :=
  let mode := (effectiveConfig "ADAPTER_TLS_MODE").getD (.text "disabled")
  if mode = .text "disabled" then .ok .disabled
  else
    match mode, effectiveConfig "ADAPTER_TLS_CA_PATH", effectiveConfig "ADAPTER_TLS_CERT_PATH",
        effectiveConfig "ADAPTER_TLS_KEY_PATH" with
    | .text "required", some (.text caPath), some (.text certPath), some (.text keyPath) =>
      if caPath.isEmpty ∨ certPath.isEmpty ∨ keyPath.isEmpty then .error .error
      else .ok (.required caPath certPath keyPath)
    | _, _, _, _ => .error .error

namespace RuntimeDeploymentReconciler

def operationFailed : Failure := .reconcile "RUNTIME_RECONCILE_OPERATION_FAILED" true

def stepLimit : Failure := .reconcile "RUNTIME_RECONCILE_STEP_LIMIT" true

def requireDeployment (input : RuntimeDeploymentReconcileInput) :
    DeploymentProgram RuntimeDeployment := do
  match ← cancellable
      (PostgresRuntimeDeploymentRepository.get input.providerId input.deploymentId) with
  | some deployment => return deployment
  | none => .fail (.reconcile "RUNTIME_RECONCILE_DEPLOYMENT_NOT_FOUND" false)

def transition (deployment : RuntimeDeployment) (target : RuntimeDeploymentStatus)
    (input : RuntimeDeploymentReconcileInput) : DeploymentProgram RuntimeDeployment :=
  cancellable (PostgresRuntimeReconcileStore.transition input.providerId input.deploymentId target
    deployment.status deployment.observedRevision)

def fail (deployment : RuntimeDeployment) (input : RuntimeDeploymentReconcileInput) :
    DeploymentProgram Unit :=
  cancellable (PostgresRuntimeReconcileStore.fail input.providerId input.deploymentId
    deployment.status deployment.observedRevision)

/-- Processes of the deployment that none of its instances accounts for. -/
def detectOrphans (input : RuntimeDeploymentReconcileInput) : DeploymentProgram (List String) := do
  let (known, observed) ← cancellable do
    let known ← listInstances input.providerId input.deploymentId
    let observed ← ask .inventory
    return (known, observed)
  let orphans := ((observed.filter fun process =>
      process.deploymentId = input.deploymentId ∧
        process.processName ∉ known.map RuntimeInfrastructureInstanceTarget.processName).map
      ProcessObservation.processName).mergeSort fun left right => decide (left ≤ right)
  if orphans ≠ [] then
    cancellable (ask (.recordOrphans orphans))
  return orphans

inductive ProviderIdentityOutcome where
  | verified
  | unavailable
  | mismatch (deployment : RuntimeDeployment)

def verifyProviderIdentity (deployment : RuntimeDeployment)
    (target : RuntimeInfrastructureInstanceTarget) (adapterEndpoint : String)
    (adapterTls : RuntimeReconcileAdapterTlsConfiguration)
    (input : RuntimeDeploymentReconcileInput) : DeploymentProgram ProviderIdentityOutcome := do
  match ← cancellable (ask
      (.verify input.providerId target adapterEndpoint adapterTls)) with
  | .verified => return .verified
  | .unavailable => return .unavailable
  | .mismatch =>
    fail deployment input
    return .mismatch (← requireDeployment input)

def reconcileProviderIdentity (deployment : RuntimeDeployment)
    (instance' : RuntimeReconcileInstance) (input : RuntimeDeploymentReconcileInput) :
    DeploymentProgram ProviderIdentityOutcome := do
  let adapterEndpoint ← ofExcept (requireAdapterEndpoint instance'.effectiveConfig)
  let adapterTls ← ofExcept (requireAdapterTlsConfiguration instance'.effectiveConfig)
  verifyProviderIdentity deployment instance'.target adapterEndpoint adapterTls input

def reconcileDirectProviderIdentity (deployment : RuntimeDeployment)
    (instance' : RuntimeReconcileDirectInstance) (input : RuntimeDeploymentReconcileInput) :
    DeploymentProgram ProviderIdentityOutcome :=
  match deployment.adapterEndpoint with
  | none => .fail .error
  | some adapterEndpoint =>
    verifyProviderIdentity deployment instance'.target adapterEndpoint .disabled input

def requireDirectInstance (deployment : RuntimeDeployment) :
    DeploymentProgram RuntimeReconcileDirectInstance :=
  cancellable (getDirectInstance deployment)

def stopInstances (deployment : RuntimeDeployment) (input : RuntimeDeploymentReconcileInput) :
    List RuntimeInfrastructureInstanceTarget → DeploymentProgram Unit
  | [] => return
  | target :: others => do
    cancellable (RuntimeLifecycleManager.run .stop target
      (stepContext input.context "stop" deployment.observedRevision))
    stopInstances deployment input others

def reconcileStopped (deployment : RuntimeDeployment) (input : RuntimeDeploymentReconcileInput) :
    DeploymentProgram RuntimeDeployment := do
  if deployment.status = .stopped then return deployment
  else if deployment.status = .requested ∨ deployment.status = .failed then
    transition deployment .stopped input
  else
    let deployment ←
      if deployment.status ≠ .draining then transition deployment .draining input
      else pure deployment
    if deployment.runtimeAuthority = .directContainer then
      transition deployment .stopped input
    else
      let instances ← cancellable
        (listInstances input.providerId input.deploymentId)
      stopInstances deployment input instances
      transition deployment .stopped input

/-- What identity and health come to where the process is expected to run already. -/
def degrade (deployment : RuntimeDeployment) (progressed : Bool)
    (input : RuntimeDeploymentReconcileInput) : DeploymentProgram Turn := do
  if deployment.status = .active then
    return .finish (← transition deployment .degraded input) true
  else return .finish deployment progressed

/-- One turn for a deployment the platform manages, wanted running. -/
def reconcileManaged (deployment : RuntimeDeployment) (progressed : Bool)
    (input : RuntimeDeploymentReconcileInput) : DeploymentProgram Turn :=
  match deployment.status with
  | .requested | .databaseProvisioning | .migrating | .failed => do
    let _ ← cancellable (RuntimeDatabasePreparationJob.execute
      { providerId := input.providerId
        deploymentId := input.deploymentId })
    return .proceed (← requireDeployment input)
  | .configPreparing => do
    let _ ← cancellable (ensureInstance deployment 0)
    return .proceed (← transition deployment .starting input)
  | .starting => do
    let ensured ← cancellable (ensureInstance deployment 0)
    match ← reconcileProviderIdentity deployment ensured input with
    | .mismatch failed => return .finish failed true
    | .unavailable => return .finish deployment progressed
    | .verified =>
      cancellable (RuntimeLifecycleManager.run .start ensured.target
        (stepContext input.context "start" deployment.observedRevision))
      return .proceed (← transition deployment .healthChecking input)
  | .healthChecking => do
    let ensured ← cancellable (ensureInstance deployment 0)
    match ← reconcileProviderIdentity deployment ensured input with
    | .mismatch failed => return .finish failed true
    | .unavailable => return .finish (← transition deployment .degraded input) true
    | .verified =>
      let result ← cancellable (ask (.probe ensured.target))
      cancellable (ask (.recordHealth ensured.target result))
      let target := if isHealthy result then .discovering else .degraded
      return .finish (← transition deployment target input) true
  | .active | .degraded => do
    let ensured ← cancellable (ensureInstance deployment 0)
    cancellable (RuntimeLifecycleManager.run .start ensured.target
      (stepContext input.context "start" deployment.observedRevision))
    let result ← cancellable (ask (.probe ensured.target))
    cancellable (ask (.recordHealth ensured.target result))
    if isHealthy result = false then degrade deployment progressed input
    else
      match ← reconcileProviderIdentity deployment ensured input with
      | .mismatch failed => return .finish failed true
      | .unavailable => degrade deployment progressed input
      | .verified =>
        if deployment.status = .degraded then
          return .finish (← transition deployment .discovering input) true
        else return .finish deployment progressed
  | .discovering => do
    let ensured ← cancellable (ensureInstance deployment 0)
    match ← reconcileProviderIdentity deployment ensured input with
    | .mismatch failed => return .finish failed true
    | .unavailable => return .finish (← transition deployment .degraded input) true
    | .verified => return .finish deployment progressed
  | .stopped => do
    return .proceed (← transition deployment .requested input)
  | .draining => return .finish deployment progressed

def reconcileDirect (deployment : RuntimeDeployment) (progressed : Bool)
    (input : RuntimeDeploymentReconcileInput) : DeploymentProgram Turn :=
  match deployment.status with
  | .requested => do
    let _ ← requireDirectInstance deployment
    return .proceed (← transition deployment .configPreparing input)
  | .configPreparing => do
    let _ ← requireDirectInstance deployment
    return .proceed (← transition deployment .starting input)
  | .starting => do
    let direct ← requireDirectInstance deployment
    if isRegistered direct = false then return .finish deployment progressed
    else return .proceed (← transition deployment .healthChecking input)
  | .healthChecking => do
    let direct ← requireDirectInstance deployment
    if isRegistered direct = false then
      return .finish (← transition deployment .degraded input) true
    else
      match ← reconcileDirectProviderIdentity deployment direct input with
      | .mismatch failed => return .finish failed true
      | .unavailable => return .finish (← transition deployment .degraded input) true
      | .verified =>
        let result ← cancellable (ask (.externalProbe direct.controlEndpoint))
        cancellable (ask (.recordHealth direct.target result))
        let target := if isHealthy result then .discovering else .degraded
        return .finish (← transition deployment target input) true
  | .active | .degraded => do
    let direct ← requireDirectInstance deployment
    if isRegistered direct = false then degrade deployment progressed input
    else
      let result ← cancellable (ask (.externalProbe direct.controlEndpoint))
      cancellable (ask (.recordHealth direct.target result))
      if isHealthy result = false then degrade deployment progressed input
      else
        match ← reconcileDirectProviderIdentity deployment direct input with
        | .mismatch failed => return .finish failed true
        | .unavailable => degrade deployment progressed input
        | .verified =>
          if deployment.status = .degraded then
            return .finish (← transition deployment .discovering input) true
          else return .finish deployment progressed
  | .discovering => do
    let direct ← requireDirectInstance deployment
    if isRegistered direct = false then
      return .finish (← transition deployment .degraded input) true
    else
      match ← reconcileDirectProviderIdentity deployment direct input with
      | .mismatch failed => return .finish failed true
      | .unavailable => return .finish (← transition deployment .degraded input) true
      | .verified => return .finish deployment progressed
  | .failed => do
    return .proceed (← transition deployment .requested input)
  | .stopped | .draining => return .finish deployment progressed
  | .databaseProvisioning | .migrating => .fail .error

/-- The loop of either authority; `steps` turns are left. -/
def reconcileLoop (authority : RuntimeDeploymentAuthority)
    (input : RuntimeDeploymentReconcileInput) (orphans : List String) :
    Nat → RuntimeDeployment → Bool → DeploymentProgram RuntimeDeploymentReconcileResult
  | 0, _, _ => .fail stepLimit
  | steps + 1, deployment, progressed => do
    checkpoint
    if authority = .directContainer ∧ deployment.runtimeAuthority ≠ .directContainer then
      .fail .error
    else if deployment.desiredState ≠ .running then
      let result ← reconcileStopped deployment input
      return {
        deployment := result
        progressed := progressed || result.status ≠ deployment.status
        orphanProcessNames := orphans }
    else
      let turn :=
        match authority with
        | .platformManaged => reconcileManaged deployment progressed input
        | .directContainer => reconcileDirect deployment progressed input
      match ← turn with
      | .proceed next => reconcileLoop authority input orphans steps next true
      | .finish last progressed =>
        return {
          deployment := last
          progressed := progressed
          orphanProcessNames := orphans }

/-- The failure a run reports; the deployment fails with it where it can. -/
def mapAndRecordFailure (failure : Failure) (input : RuntimeDeploymentReconcileInput) :
    DeploymentProgram Failure := do
  let mapped :=
    match failure with
    | .reconcile _ _ => failure
    | _ => operationFailed
  if ← ask .aborted then return mapped
  else
    let current ← attempt
      (cancellable (PostgresRuntimeDeploymentRepository.get input.providerId input.deploymentId))
      fun _ => do
        checkpoint
        return none
    match current with
    | none => return mapped
    | some current =>
      if canFail current.status then
        attempt (fail current input) fun _ => checkpoint
        return mapped
      else return mapped

def reconcileWith (authority : RuntimeDeploymentAuthority) (deployment : RuntimeDeployment)
    (orphans : List String) (input : RuntimeDeploymentReconcileInput) :
    DeploymentProgram RuntimeDeploymentReconcileResult :=
  attempt (reconcileLoop authority input orphans 12 deployment false) fun failure => do
    .fail (← mapAndRecordFailure failure input)

def reconcile (input : RuntimeDeploymentReconcileInput) :
    DeploymentProgram RuntimeDeploymentReconcileResult := do
  checkpoint
  let deployment ← requireDeployment input
  if deployment.runtimeAuthority = .directContainer then
    reconcileWith .directContainer deployment [] input
  else
    let orphans ← attempt (detectOrphans input) fun _ => .fail operationFailed
    reconcileWith .platformManaged deployment orphans input

end RuntimeDeploymentReconciler

end Deployments

end SdarRuntime
