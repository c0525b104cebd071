import SdarRuntime.Library.Program
import SdarRuntime.Deployments.Model

/-!
What the control plane keeps about one deployment, and what its programs may do to it: statements
on the tables, each atomic, operations handed to the process manager, and calls to everything
else, whose answers are readings of the world outside.
-/

namespace SdarRuntime

namespace Deployments

inductive RuntimeLifecycleAction where
  | start
  | stop
  deriving DecidableEq

def RuntimeLifecycleAction.text : RuntimeLifecycleAction → String
  | .start => "start"
  | .stop => "stop"

structure ProcessOperation where
  action : RuntimeLifecycleAction
  processName : String
  deriving DecidableEq

structure RuntimeProcess where
  instanceId : String
  pm2Name : String
  deriving DecidableEq

/-- How the names of a deployment's processes are derived: a digest, and the readable part of a
provider's name. -/
structure InstanceNames where
  digest : String → String
  slug : String → String

def deriveRuntimeInstanceIdentity (names : InstanceNames) (providerId deploymentId : String)
    (ordinal : Nat) : RuntimeProcess :=
  { instanceId := "runtime-" ++ names.digest deploymentId ++ "-" ++ toString ordinal
    pm2Name := "sdar-runtime-" ++ names.slug providerId ++ "-" ++
      names.digest (providerId ++ "\u0000" ++ deploymentId) ++ "-" ++ toString ordinal }

inductive RuntimeDatabasePreparationStep where
  | runtimeSecret
  | role
  | database
  | grant
  | verify
  | migration
  deriving DecidableEq

structure RuntimeDatabasePreparationCheckpoint where
  completedSteps : List RuntimeDatabasePreparationStep
  revision : Nat
  lastErrorCode : Option String
  deriving DecidableEq

/-- The rows of one deployment, with what the process manager has in flight and what it runs. -/
structure DeploymentStore where
  deployment : RuntimeDeployment
  processes : List RuntimeProcess
  /-- The newest row of the preparation's checkpoint log. -/
  checkpoint : Option RuntimeDatabasePreparationCheckpoint
  /-- Idempotency keys of the lifecycle operations recorded as completed. -/
  completed : List String
  inFlight : List ProcessOperation
  running : List String

/-- Statements on the tables, and what reaches the process manager. -/
inductive DeploymentOp : Type → Type where
  | get (providerId deploymentId : String) : DeploymentOp (Option RuntimeDeployment)
  | save (value : RuntimeDeployment) (expectedDesiredRevision expectedObservedRevision : Nat) :
      DeploymentOp Bool
  | allocate (providerId deploymentId : String) (ordinal : Nat) : DeploymentOp RuntimeProcess
  | listByDeployment (providerId deploymentId : String) : DeploymentOp (List RuntimeProcess)
  | getCheckpoint : DeploymentOp (Option RuntimeDatabasePreparationCheckpoint)
  | insertCheckpoint (checkpoint : RuntimeDatabasePreparationCheckpoint)
      (expectedRevision : Nat) : DeploymentOp Bool
  | findCompleted (idempotencyKey : String) : DeploymentOp Bool
  | complete (idempotencyKey : String) : DeploymentOp Unit
  | issue (operation : ProcessOperation) : DeploymentOp Unit
  | settle (operation : ProcessOperation) : DeploymentOp Unit

namespace DeploymentStore

def Names (store : DeploymentStore) (providerId deploymentId : String) : Prop :=
  store.deployment.providerId = providerId ∧ store.deployment.deploymentId = deploymentId

instance (store : DeploymentStore) (providerId deploymentId : String) :
    Decidable (store.Names providerId deploymentId) :=
  inferInstanceAs (Decidable (_ ∧ _))

def Matches (store : DeploymentStore) (value : RuntimeDeployment)
    (expectedDesiredRevision expectedObservedRevision : Nat) : Prop :=
  store.Names value.providerId value.deploymentId ∧
    store.deployment.desiredRevision = expectedDesiredRevision ∧
    store.deployment.observedRevision = expectedObservedRevision

instance (store : DeploymentStore) (value : RuntimeDeployment)
    (expectedDesiredRevision expectedObservedRevision : Nat) :
    Decidable (store.Matches value expectedDesiredRevision expectedObservedRevision) :=
  inferInstanceAs (Decidable (_ ∧ _))

def update (store : DeploymentStore) (value : RuntimeDeployment) : DeploymentStore :=
  { store with
    deployment := { store.deployment with
      desiredState := value.desiredState
      desiredReplicas := value.desiredReplicas
      status := value.status
      desiredRevision := value.desiredRevision
      observedRevision := value.observedRevision } }

def allocate (names : InstanceNames) (store : DeploymentStore)
    (providerId deploymentId : String) (ordinal : Nat) :
    Except Failure RuntimeProcess × DeploymentStore :=
  let identity := deriveRuntimeInstanceIdentity names providerId deploymentId ordinal
  if store.Names providerId deploymentId then
    match store.processes.find? fun process => process.instanceId = identity.instanceId with
    | some replay =>
      (if replay.pm2Name = identity.pm2Name then .ok replay else .error .error, store)
    | none => (.ok identity, { store with processes := store.processes ++ [identity] })
  else (.error .error, store)

/-- The operation takes effect: from now on the process runs, or no longer does. -/
def carryOut (store : DeploymentStore) (operation : ProcessOperation) : DeploymentStore :=
  { store with
    inFlight := store.inFlight.erase operation
    running :=
      match operation.action with
      | .start =>
        if operation.processName ∈ store.running then store.running
        else operation.processName :: store.running
      | .stop => store.running.filter fun name => name ≠ operation.processName }

end DeploymentStore

structure RuntimeInfrastructureInstanceTarget where
  providerId : String
  deploymentId : String
  instanceId : String
  processName : String
  deriving DecidableEq

structure ProcessObservation where
  deploymentId : String
  processName : String
  deriving DecidableEq

inductive ProcessState where
  | missing
  | starting
  | online
  | stopping
  | stopped
  | errored
  deriving DecidableEq

structure RuntimeReconcileHealthResult where
  processState : ProcessState
  live : Bool
  ready : Bool
  deriving DecidableEq

inductive ProviderIdentityVerification where
  | verified
  | unavailable
  | mismatch
  deriving DecidableEq

inductive ConfigurationValue where
  | text (value : String)
  | number (value : String)
  | flag (value : Bool)
  deriving DecidableEq

abbrev EffectiveConfig := String → Option ConfigurationValue

inductive RuntimeReconcileAdapterTlsConfiguration where
  | disabled
  | required (caPath certPath keyPath : String)
  deriving DecidableEq

inductive RuntimeRegistrationState where
  | unregistered
  | registered
  | identityMismatch
  deriving DecidableEq

structure RuntimeReconcileDirectInstance where
  target : RuntimeInfrastructureInstanceTarget
  controlEndpoint : String
  registrationState : RuntimeRegistrationState
  registrationFresh : Bool
  deriving DecidableEq

structure DatabaseProfile where
  profileId : String
  clusterRef : String
  databaseMode : String
  runtimeSecretRef : String
  deriving DecidableEq

inductive CatalogState where
  | pending
  | valid
  | invalid
  deriving DecidableEq

inductive DeploymentCall : Type → Type where
  /-- Whether the run's signal is aborted. -/
  | aborted : DeploymentCall Bool
  | inventory : DeploymentCall (List ProcessObservation)
  | recordOrphans (processNames : List String) : DeploymentCall Unit
  | publishedConfiguration (deployment : RuntimeDeployment) : DeploymentCall EffectiveConfig
  | directInstance (deployment : RuntimeDeployment) :
      DeploymentCall RuntimeReconcileDirectInstance
  | verify (expectedProviderId : String) (target : RuntimeInfrastructureInstanceTarget)
      (adapterEndpoint : String) (adapterTls : RuntimeReconcileAdapterTlsConfiguration) :
      DeploymentCall ProviderIdentityVerification
  | probe (target : RuntimeInfrastructureInstanceTarget) :
      DeploymentCall RuntimeReconcileHealthResult
  | externalProbe (controlEndpoint : String) : DeploymentCall RuntimeReconcileHealthResult
  | recordHealth (target : RuntimeInfrastructureInstanceTarget)
      (result : RuntimeReconcileHealthResult) : DeploymentCall Unit
  | databaseProfile (deployment : RuntimeDeployment) : DeploymentCall (Option DatabaseProfile)
  | ensureRuntimeCredential (secretRef : String) : DeploymentCall String
  | provision (step : RuntimeDatabasePreparationStep) (profile : DatabaseProfile) :
      DeploymentCall Unit
  | migrate (migrationSet : String) : DeploymentCall Unit
  | audit (action : String) : DeploymentCall Unit
  | awaitOperation (operation : ProcessOperation) : DeploymentCall Unit
  | recordCatalogState (state : CatalogState) : DeploymentCall Unit
  | resolveEndpoint (instanceId : String) : DeploymentCall Unit
  | discoverCatalog : DeploymentCall Unit
  | publishCatalog : DeploymentCall Unit
  | projectProviders : DeploymentCall Unit
  | publishRegistry : DeploymentCall Unit

/-- What the world outside is like when a call is answered; every call but the look at the signal
may also fail. -/
structure Reading where
  failure : Option Failure
  aborted : Bool
  inventory : List ProcessObservation
  configuration : EffectiveConfig
  directInstance : RuntimeReconcileDirectInstance
  verification : ProviderIdentityVerification
  health : RuntimeReconcileHealthResult
  profile : Option DatabaseProfile
  secretRef : String

namespace Reading

def answer (reading : Reading) : {β : Type} → DeploymentCall β → β
  | _, .aborted => reading.aborted
  | _, .inventory => reading.inventory
  | _, .publishedConfiguration _ => reading.configuration
  | _, .directInstance _ => reading.directInstance
  | _, .verify _ _ _ _ => reading.verification
  | _, .probe _ => reading.health
  | _, .externalProbe _ => reading.health
  | _, .databaseProfile _ => reading.profile
  | _, .ensureRuntimeCredential _ => reading.secretRef
  | _, .recordOrphans _ | _, .recordHealth _ _ | _, .provision _ _ | _, .migrate _
  | _, .audit _ | _, .awaitOperation _ | _, .recordCatalogState _ | _, .resolveEndpoint _
  | _, .discoverCatalog | _, .publishCatalog | _, .projectProviders | _, .publishRegistry => ()

def accept (reading : Reading) : {β : Type} → DeploymentCall β → Except Failure β
  | _, .aborted => .ok reading.aborted
  | _, call =>
    match reading.failure with
    | some failure => .error failure
    | none => .ok (reading.answer call)

end Reading

def execute (names : InstanceNames) :
    {β : Type} → DeploymentOp β → DeploymentStore → Except Failure β × DeploymentStore
  | _, .get providerId deploymentId, store =>
    (.ok (if store.Names providerId deploymentId then some store.deployment else none), store)
  | _, .save value expectedDesiredRevision expectedObservedRevision, store =>
    if store.Matches value expectedDesiredRevision expectedObservedRevision then
      (.ok true, store.update value)
    else (.ok false, store)
  | _, .allocate providerId deploymentId ordinal, store =>
    store.allocate names providerId deploymentId ordinal
  | _, .listByDeployment providerId deploymentId, store =>
    (.ok (if store.Names providerId deploymentId then store.processes else []), store)
  | _, .getCheckpoint, store => (.ok store.checkpoint, store)
  | _, .insertCheckpoint checkpoint expectedRevision, store =>
    -- An older expectation finds a later row in the log.
    if ∀ newest ∈ store.checkpoint, newest.revision ≤ expectedRevision then
      (.ok true, { store with checkpoint := some checkpoint })
    else (.ok false, store)
  | _, .findCompleted idempotencyKey, store =>
    (.ok (decide (idempotencyKey ∈ store.completed)), store)
  | _, .complete idempotencyKey, store =>
    (.ok (), { store with completed := idempotencyKey :: store.completed })
  | _, .issue operation, store =>
    (.ok (), { store with inFlight := operation :: store.inFlight })
  | _, .settle operation, store =>
    (.ok (), if operation ∈ store.inFlight then store.carryOut operation else store)

def machine (names : InstanceNames) :
    Machine DeploymentOp DeploymentCall Failure DeploymentStore Unit Reading where
  exec := fun effect _ store => execute names effect store
  accept := fun call reading => some (reading.accept call)

abbrev DeploymentProgram := Program DeploymentOp DeploymentCall Failure

def caught {α : Type} (program : DeploymentProgram α) : DeploymentProgram (Except Failure α) :=
  Program.attempt (do return .ok (← program)) fun failure => return .error failure

namespace PostgresRuntimeDeploymentRepository

def get (providerId deploymentId : String) : DeploymentProgram (Option RuntimeDeployment) :=
  Program.exec (.get providerId deploymentId)

/-- Whether the row was written: it is not where it is already what would be written. -/
def save (value : RuntimeDeployment) (expectedDesiredRevision expectedObservedRevision : Nat) :
    DeploymentProgram Bool := do
  if ← Program.exec (.save value expectedDesiredRevision expectedObservedRevision) then
    return true
  let current ← get value.providerId value.deploymentId
  if current = some value then return false
  else .fail .concurrencyConflict

end PostgresRuntimeDeploymentRepository

end Deployments

end SdarRuntime
