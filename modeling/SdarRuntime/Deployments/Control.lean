import SdarRuntime.Deployments.Reconcile

/-!
Everything that moves a deployment: commands that change what is wanted, runs of the reconciler
with the publication that follows them, and operations the process manager carries out after
their callers have gone. They run side by side, and any of them may end at any point.
-/

namespace SdarRuntime

namespace Deployments

open PostgresRuntimeReconcileStore Program

inductive RuntimeDeploymentCommandType where
  | start
  | stop
  | restart
  | scale (desiredReplicas : Option Nat)
  | reconcile
  deriving DecidableEq

structure RuntimeDeploymentCommandInput where
  providerId : String
  deploymentId : String
  command : RuntimeDeploymentCommandType
  expectedDesiredRevision : Nat

namespace RuntimeDeploymentApplicationService

def unavailable (code : String) : Failure := .other (some code) false

/-- The state and the replicas a command asks for; `none` where it asks for neither. -/
def commandDesiredState (command : RuntimeDeploymentCommandType) :
    Except Failure (Option (RuntimeDeploymentDesiredState × Nat)) :=
  match command with
  | .start => .ok (some (.running, 1))
  | .stop => .ok (some (.draining, 0))
  | .scale none => .error (unavailable "RUNTIME_DEPLOYMENT_REPLICA_COUNT_UNSUPPORTED")
  | .scale (some replicas) =>
    if replicas > 1 then .error (unavailable "RUNTIME_DEPLOYMENT_REPLICA_COUNT_UNSUPPORTED")
    else if replicas = 0 then .ok (some (.draining, 0))
    else .ok (some (.running, 1))
  | .restart | .reconcile => .ok none

/-- The row is written once, in the transaction's last statement on it. -/
def command (input : RuntimeDeploymentCommandInput) : DeploymentProgram RuntimeDeployment := do
  match ← PostgresRuntimeDeploymentRepository.get input.providerId input.deploymentId with
  | none => .fail (unavailable "RUNTIME_DEPLOYMENT_NOT_FOUND")
  | some before =>
    if before.runtimeAuthority = .directContainer ∧ input.command ≠ .reconcile then
      .fail (unavailable "RUNTIME_DEPLOYMENT_COMMAND_UNSUPPORTED")
    else
      match ← ofExcept (commandDesiredState input.command) with
      | none =>
        if input.expectedDesiredRevision ≠ before.desiredRevision then
          .fail (unavailable "RUNTIME_DEPLOYMENT_REVISION_CONFLICT")
        else return before
      | some (state, replicas) =>
        match ← ofExcept
            (before.changeDesiredState state replicas input.expectedDesiredRevision) with
        | some changed =>
          let _ ← PostgresRuntimeDeploymentRepository.save changed before.desiredRevision
            before.observedRevision
          return changed
        | none =>
          if input.expectedDesiredRevision ≠ before.desiredRevision then
            .fail (unavailable "RUNTIME_DEPLOYMENT_REVISION_CONFLICT")
          else return before

end RuntimeDeploymentApplicationService

namespace CatalogRegistryPublicationPhase

def runtimeControlTarget (deployment : RuntimeDeployment) :
    DeploymentProgram RuntimeInfrastructureInstanceTarget := do
  if deployment.runtimeAuthority = .directContainer then
    return (← getDirectInstance deployment).target
  else return (← ensureInstance deployment 0).target

def recordCatalogState (deployment : RuntimeDeployment) (state : CatalogState) :
    DeploymentProgram Unit := do
  if deployment.runtimeAuthority ≠ .directContainer then
    let _ ← ensureInstance deployment 0
  ask (.recordCatalogState state)

def resolve (deployment : RuntimeDeployment) : DeploymentProgram Unit := do
  let target ← runtimeControlTarget deployment
  ask (.resolveEndpoint target.instanceId)

def failed {α : Type} (deployment : RuntimeDeployment) (reasonCode : String) :
    DeploymentProgram α := do
  fail deployment.providerId deployment.deploymentId
    deployment.status deployment.observedRevision
  let _ ← requireDeployment deployment.providerId
    deployment.deploymentId
  .fail (.publication reasonCode)

def recordInvalidCatalog (deployment : RuntimeDeployment) : DeploymentProgram Unit := do
  let _ ← caught (recordCatalogState deployment .invalid)

def activate (deployment : RuntimeDeployment) : DeploymentProgram RuntimeDeployment :=
  transition deployment.providerId deployment.deploymentId .active
    deployment.status deployment.observedRevision

def close (deployment : RuntimeDeployment) : DeploymentProgram RuntimeDeployment := do
  if deployment.status ≠ .discovering then .fail .error
  else
    attempt (recordCatalogState deployment .pending)
      fun _ => failed deployment "CATALOG_STATE_COMMIT_FAILED"
    attempt (resolve deployment)
      fun _ => failed deployment "CATALOG_ENDPOINT_RESOLUTION_FAILED"
    attempt (ask .discoverCatalog) fun _ => do
      recordInvalidCatalog deployment
      failed deployment "CATALOG_DISCOVERY_FAILED"
    attempt (ask .publishCatalog) fun _ => do
      recordInvalidCatalog deployment
      failed deployment "CATALOG_COMMIT_FAILED"
    attempt (recordCatalogState deployment .valid)
      fun _ => failed deployment "CATALOG_STATE_COMMIT_FAILED"
    attempt (ask .projectProviders)
      fun _ => failed deployment "REGISTRY_PROJECTION_FAILED"
    attempt (ask .publishRegistry)
      fun _ => failed deployment "REGISTRY_COMMIT_FAILED"
    activate deployment

end CatalogRegistryPublicationPhase

namespace CatalogRegistryReconcileDecorator

def reconcile (input : RuntimeDeploymentReconcileInput) :
    DeploymentProgram RuntimeDeploymentReconcileResult := do
  let result ← RuntimeDeploymentReconciler.reconcile input
  if result.deployment.status ≠ .discovering then return result
  else
    let active ← CatalogRegistryPublicationPhase.close result.deployment
    return { result with
      deployment := active
      progressed := true }

end CatalogRegistryReconcileDecorator

inductive DeploymentEntry : Type 1 where
  | command (input : RuntimeDeploymentCommandInput)
  | reconcile (input : RuntimeDeploymentReconcileInput)
  /-- The process manager carries out an operation whose caller may have gone. -/
  | carryOut (operation : ProcessOperation)

def DeploymentEntry.program : DeploymentEntry → DeploymentProgram Unit
  | .command input => do
    let _ ← RuntimeDeploymentApplicationService.command input
  | .reconcile input => do
    let _ ← CatalogRegistryReconcileDecorator.reconcile input
  | .carryOut operation => exec (.settle operation)

abbrev DeploymentSystem := System DeploymentOp DeploymentCall Failure DeploymentStore Unit

abbrev DeploymentLabel := Label DeploymentEntry Failure Unit Reading

/-- The tables as creating a deployment leaves them, with nothing running. -/
def created (spec : RuntimeDeploymentSpec) : DeploymentSystem :=
  System.initial
    { deployment := requestRuntimeDeployment spec
      processes := []
      checkpoint := none
      completed := []
      inFlight := []
      running := [] }

def run (names : InstanceNames) (spec : RuntimeDeploymentSpec) (labels : List DeploymentLabel) :
    DeploymentSystem :=
  System.run (machine names) DeploymentEntry.program (created spec) labels

end Deployments

end SdarRuntime
