import Mathlib.Data.List.Basic

/-!
The aggregate of a Runtime deployment: its status with the transitions it admits, its desired
state, and the revision of each. A change is computed on a copy in memory; whether it is saved is
for the repository.
-/

namespace SdarRuntime

namespace Deployments

inductive RuntimeDeploymentDesiredState where
  | running
  | stopped
  | draining
  deriving DecidableEq

inductive RuntimeDeploymentAuthority where
  | platformManaged
  | directContainer
  deriving DecidableEq

inductive RuntimeDeploymentStatus where
  | requested
  | databaseProvisioning
  | migrating
  | configPreparing
  | starting
  | healthChecking
  | discovering
  | active
  | stopped
  | draining
  | degraded
  | failed
  deriving DecidableEq

/-- What a run may fail with: errors of its own, and those of other code with the `code` and
`retryable` they carry, if any. -/
inductive Failure where
  | aborted
  | reconcile (code : String) (retryable : Bool)
  | preparation (code : String) (retryable : Bool)
  | publication (code : String)
  | other (code : Option String) (retryable : Bool)
  deriving DecidableEq

namespace Failure

def stateConflict : Failure := .other (some "RUNTIME_DEPLOYMENT_STATE_CONFLICT") false

def revisionConflict : Failure := .other (some "RUNTIME_DEPLOYMENT_REVISION_CONFLICT") false

def invalidTransition : Failure := .other (some "INVALID_RUNTIME_DEPLOYMENT_TRANSITION") false

def concurrencyConflict : Failure := .other (some "OPTIMISTIC_CONCURRENCY_CONFLICT") false

def error : Failure := .other none false

end Failure

structure RuntimeDeployment where
  deploymentId : String
  providerId : String
  environment : String
  runtimeAuthority : RuntimeDeploymentAuthority
  databaseProfileId : Option String
  adapterEndpoint : Option String
  desiredState : RuntimeDeploymentDesiredState
  desiredReplicas : Nat
  status : RuntimeDeploymentStatus
  desiredRevision : Nat
  observedRevision : Nat
  deriving DecidableEq

/-- What each authority is asked for: a direct container names the endpoint of its adapter. -/
inductive RuntimeDeploymentTarget where
  | platformManaged (databaseProfileId : String) (adapterEndpoint : Option String)
  | directContainer (adapterEndpoint : String)
  deriving DecidableEq

def RuntimeDeploymentTarget.adapterEndpoint : RuntimeDeploymentTarget → Option String
  | .platformManaged _ adapterEndpoint => adapterEndpoint
  | .directContainer adapterEndpoint => some adapterEndpoint

structure RuntimeDeploymentSpec where
  deploymentId : String
  providerId : String
  environment : String
  target : RuntimeDeploymentTarget
  /-- An endpoint that is given is not blank. -/
  endpoint : target.adapterEndpoint ≠ some ""

/-- A deployment as it is created: wanted running, with one replica. -/
def requestRuntimeDeployment (spec : RuntimeDeploymentSpec) : RuntimeDeployment :=
  { deploymentId := spec.deploymentId
    providerId := spec.providerId
    environment := spec.environment
    runtimeAuthority :=
      match spec.target with
      | .platformManaged _ _ => .platformManaged
      | .directContainer _ => .directContainer
    databaseProfileId :=
      match spec.target with
      | .platformManaged databaseProfileId _ => some databaseProfileId
      | .directContainer _ => none
    adapterEndpoint := spec.target.adapterEndpoint
    desiredState := .running
    desiredReplicas := 1
    status := .requested
    desiredRevision := 0
    observedRevision := 0 }

def allowedTransitions (current : RuntimeDeploymentStatus)
    (authority : RuntimeDeploymentAuthority) : List RuntimeDeploymentStatus :=
  match current with
  | .requested =>
    match authority with
    | .directContainer => [.configPreparing, .draining, .stopped, .failed]
    | .platformManaged => [.databaseProvisioning, .draining, .stopped, .failed]
  | .databaseProvisioning => [.migrating, .draining, .failed]
  | .migrating => [.configPreparing, .draining, .failed]
  | .configPreparing => [.starting, .draining, .failed]
  | .starting => [.healthChecking, .draining, .failed]
  | .healthChecking => [.discovering, .degraded, .draining, .failed]
  | .discovering => [.active, .degraded, .draining, .failed]
  | .active => [.degraded, .draining, .failed]
  | .stopped => [.configPreparing, .requested]
  | .draining => [.stopped, .failed]
  | .degraded => [.discovering, .draining, .failed]
  | .failed => [.requested, .stopped]

namespace RuntimeDeployment

def assertIdempotentTransition (deployment : RuntimeDeployment)
    (expectedStatus : RuntimeDeploymentStatus) (expectedRevision : Nat) : Except Failure Unit :=
  if expectedStatus = deployment.status ∧ expectedRevision = deployment.observedRevision then .ok ()
  else if expectedRevision + 1 = deployment.observedRevision ∧
      deployment.status ∈ allowedTransitions expectedStatus deployment.runtimeAuthority then .ok ()
  else if expectedStatus ≠ deployment.status then .error .stateConflict
  else if expectedRevision ≠ deployment.observedRevision then .error .revisionConflict
  else .ok ()

/-- The copy in memory after the transition; unchanged where the target is its status already. -/
def transition (deployment : RuntimeDeployment) (target expectedStatus : RuntimeDeploymentStatus)
    (expectedRevision : Nat) : Except Failure RuntimeDeployment := do
  if target = deployment.status then
    deployment.assertIdempotentTransition expectedStatus expectedRevision
    return deployment
  else if expectedStatus ≠ deployment.status then .error .stateConflict
  else if expectedRevision ≠ deployment.observedRevision then .error .revisionConflict
  else if target ∉ allowedTransitions deployment.status deployment.runtimeAuthority then
    .error .invalidTransition
  else
    return { deployment with
      status := target
      observedRevision := deployment.observedRevision + 1 }

/-- The copy in memory with another desired state, or `none` where it is unchanged. -/
def changeDesiredState (deployment : RuntimeDeployment)
    (desiredState : RuntimeDeploymentDesiredState) (desiredReplicas expectedRevision : Nat) :
    Except Failure (Option RuntimeDeployment) :=
  if desiredState = deployment.desiredState ∧ desiredReplicas = deployment.desiredReplicas then
    if expectedRevision ≠ deployment.desiredRevision ∧
        expectedRevision + 1 ≠ deployment.desiredRevision then .error .revisionConflict
    else .ok none
  else if expectedRevision ≠ deployment.desiredRevision then .error .revisionConflict
  else .ok (some { deployment with
    desiredState := desiredState
    desiredReplicas := desiredReplicas
    desiredRevision := deployment.desiredRevision + 1 })

/-- A transition leaves the copy as it is, or moves it one revision on to a status allowed. -/
theorem transition_ok {deployment moved : RuntimeDeployment}
    {target expectedStatus : RuntimeDeploymentStatus} {expectedRevision : Nat}
    (accepted : deployment.transition target expectedStatus expectedRevision = .ok moved) :
    (target = deployment.status ∧ moved = deployment ∧
      (expectedRevision = deployment.observedRevision ∨
        expectedRevision + 1 = deployment.observedRevision)) ∨
    (target ≠ deployment.status ∧ expectedStatus = deployment.status ∧
      expectedRevision = deployment.observedRevision ∧
      target ∈ allowedTransitions deployment.status deployment.runtimeAuthority ∧
      moved = { deployment with
        status := target
        observedRevision := deployment.observedRevision + 1 }) := by
  unfold transition at accepted
  by_cases same : target = deployment.status
  · rw [if_pos same] at accepted
    left
    unfold assertIdempotentTransition at accepted
    split at accepted
    next agrees =>
      cases accepted
      exact ⟨same, rfl, .inl agrees.2⟩
    next =>
      split at accepted
      next once =>
        cases accepted
        exact ⟨same, rfl, .inr once.1⟩
      next =>
        split at accepted
        · cases accepted
        · split at accepted
          · cases accepted
          next =>
            rename_i agrees _ status revision
            exact absurd ⟨not_not.mp status, not_not.mp revision⟩ agrees
  · rw [if_neg same] at accepted
    right
    split at accepted
    · cases accepted
    next status =>
      split at accepted
      · cases accepted
      next revision =>
        split at accepted
        · cases accepted
        next allowed =>
          cases accepted
          exact ⟨same, not_not.mp status, not_not.mp revision, not_not.mp allowed, rfl⟩

theorem changeDesiredState_ok {deployment changed : RuntimeDeployment}
    {desiredState : RuntimeDeploymentDesiredState} {desiredReplicas expectedRevision : Nat}
    (accepted : deployment.changeDesiredState desiredState desiredReplicas expectedRevision =
      .ok (some changed)) :
    changed = { deployment with
      desiredState := desiredState
      desiredReplicas := desiredReplicas
      desiredRevision := deployment.desiredRevision + 1 } := by
  unfold changeDesiredState at accepted
  split at accepted
  · split at accepted
    · cases accepted
    · cases accepted
  · split at accepted
    · cases accepted
    · cases accepted
      rfl

end RuntimeDeployment

end Deployments

end SdarRuntime
