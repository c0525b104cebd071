import SdarRuntime.Deployments.Store

/-!
The job that prepares the database of a platform-managed deployment. It works on one aggregate in
memory, which a transition changes before it is saved: where saving fails, the aggregate keeps the
change, and recording the failure starts from it.
-/

namespace SdarRuntime

namespace Deployments

structure RuntimeDatabasePreparationInput where
  providerId : String
  deploymentId : String

namespace RuntimeDatabasePreparationJob

def preparationError (code : String) (retryable : Bool) : Failure := .preparation code retryable

def sanitizeCode (code : String) : String :=
  let sanitized := code.toUpper.toList.map fun char =>
    if char.isUpper ∨ char.isDigit ∨ char = '_' then char else '_'
  if sanitized.isEmpty then "UNKNOWN_FAILURE" else String.ofList (sanitized.take 96)

def mapPreparationError (failure : Failure) : Failure :=
  match failure with
  | .preparation _ _ => failure
  | .other (some code) retryable =>
    preparationError ("RUNTIME_DATABASE_" ++ sanitizeCode code) retryable
  | _ => preparationError "RUNTIME_DATABASE_SECRET_FAILED" true

def errorCode : Failure → Option String
  | .preparation code _ => some code
  | _ => none

def saveCheckpoint (checkpoint : RuntimeDatabasePreparationCheckpoint) (expectedRevision : Nat) :
    DeploymentProgram Unit := do
  if checkpoint.revision ≠ expectedRevision + 1 then .fail .error
  else if ← Program.exec (.insertCheckpoint checkpoint expectedRevision) then return
  else
    let replay ← Program.exec .getCheckpoint
    if replay.map RuntimeDatabasePreparationCheckpoint.revision ≠ some checkpoint.revision then
      .fail .error

def initialCheckpoint : RuntimeDatabasePreparationCheckpoint :=
  { completedSteps := []
    revision := 0
    lastErrorCode := none }

def requireDeployment (input : RuntimeDatabasePreparationInput) :
    DeploymentProgram RuntimeDeployment := do
  match ← PostgresRuntimeDeploymentRepository.get input.providerId input.deploymentId with
  | some deployment => return deployment
  | none => .fail (preparationError "RUNTIME_DATABASE_DEPLOYMENT_NOT_FOUND" false)

def requireProfile (snapshot : RuntimeDeployment) : DeploymentProgram DatabaseProfile := do
  match ← Program.ask (.databaseProfile snapshot) with
  | none => .fail (preparationError "RUNTIME_DATABASE_PROFILE_NOT_FOUND" false)
  | some profile =>
    if some profile.profileId ≠ snapshot.databaseProfileId then
      .fail (preparationError "RUNTIME_DATABASE_PROFILE_MISMATCH" false)
    else return profile

def runStep (checkpoint : RuntimeDatabasePreparationCheckpoint)
    (step : RuntimeDatabasePreparationStep) (action : DeploymentProgram Unit) :
    DeploymentProgram RuntimeDatabasePreparationCheckpoint := do
  if step ∈ checkpoint.completedSteps then return checkpoint
  else
    action
    let updated : RuntimeDatabasePreparationCheckpoint :=
      { completedSteps := checkpoint.completedSteps ++ [step]
        revision := checkpoint.revision + 1
        lastErrorCode := none }
    saveCheckpoint updated checkpoint.revision
    return updated

/-- The aggregate as the step leaves it in memory, and how the step ended. -/
def transition (deployment : RuntimeDeployment) (status : RuntimeDeploymentStatus) :
    DeploymentProgram (RuntimeDeployment × Except Failure Unit) :=
  match deployment.transition status deployment.status deployment.observedRevision with
  | .error failure => return (deployment, .error failure)
  | .ok moved => do
    match ← caught (PostgresRuntimeDeploymentRepository.save moved deployment.desiredRevision
        deployment.observedRevision) with
    | .error failure => return (moved, .error failure)
    | .ok true => return (moved, .ok ())
    | .ok false =>
      return (moved, .error (preparationError "RUNTIME_DATABASE_STATE_CONFLICT" true))

def prepareState (deployment : RuntimeDeployment) :
    DeploymentProgram (RuntimeDeployment × Except Failure Unit) := do
  let (deployment, requested) ←
    if deployment.status = .failed then transition deployment .requested
    else pure (deployment, .ok ())
  match requested with
  | .error failure => return (deployment, .error failure)
  | .ok () =>
    if deployment.status = .requested then transition deployment .databaseProvisioning
    else if deployment.status ≠ .databaseProvisioning ∧ deployment.status ≠ .migrating then
      return (deployment, .error (preparationError "RUNTIME_DATABASE_STATE_CONFLICT" false))
    else return (deployment, .ok ())

def isShared (profile : DatabaseProfile) : Bool := "gowm-shared:".isPrefixOf profile.clusterRef

/-- Everything before the migration: the profile, and the checkpoint after its steps. -/
def provision (deployment : RuntimeDeployment) :
    DeploymentProgram (DatabaseProfile × RuntimeDatabasePreparationCheckpoint) := do
  Program.ask (.audit "runtime_database_preparation.started")
  let profile ← requireProfile deployment
  if isShared profile ∧ profile.databaseMode ≠ "preexisting" then
    .fail (preparationError "RUNTIME_DATABASE_PROFILE_MISMATCH" false)
  else
    let checkpoint := (← Program.exec .getCheckpoint).getD initialCheckpoint
    let checkpoint ← runStep checkpoint .runtimeSecret do
      let secretRef ← Program.ask (.ensureRuntimeCredential profile.runtimeSecretRef)
      if secretRef ≠ profile.runtimeSecretRef then
        .fail (preparationError "RUNTIME_DATABASE_PROFILE_MISMATCH" false)
    if isShared profile then return (profile, checkpoint)
    else
      let checkpoint ← runStep checkpoint .role (Program.ask (.provision .role profile))
      let checkpoint ← runStep checkpoint .database (Program.ask (.provision .database profile))
      let checkpoint ← runStep checkpoint .grant (Program.ask (.provision .grant profile))
      let checkpoint ← runStep checkpoint .verify (Program.ask (.provision .verify profile))
      return (profile, checkpoint)

def migrate (profile : DatabaseProfile) (checkpoint : RuntimeDatabasePreparationCheckpoint) :
    DeploymentProgram Unit := do
  let _ ← runStep checkpoint .migration
    (Program.ask (.migrate (if isShared profile then "gowm-shared-verify" else "runtime")))

/-- The body of the job, with the aggregate that its failure is recorded on. -/
def prepare (deployment : RuntimeDeployment) :
    DeploymentProgram (RuntimeDeployment × Except Failure Unit) := do
  let (deployment, prepared) ← prepareState deployment
  match prepared with
  | .error failure => return (deployment, .error failure)
  | .ok () =>
    match ← caught (provision deployment) with
    | .error failure => return (deployment, .error failure)
    | .ok (profile, checkpoint) =>
      let (deployment, migrating) ← transition deployment .migrating
      match migrating with
      | .error failure => return (deployment, .error failure)
      | .ok () =>
        match ← caught (migrate profile checkpoint) with
        | .error failure => return (deployment, .error failure)
        | .ok () =>
          let (deployment, done) ← transition deployment .configPreparing
          match done with
          | .error failure => return (deployment, .error failure)
          | .ok () =>
            let audited ← caught
              (Program.ask (.audit "runtime_database_preparation.completed"))
            return (deployment, audited)

def recordFailure (deployment : RuntimeDeployment) (failure : Failure) :
    DeploymentProgram Unit := do
  if deployment.status = .requested ∨ deployment.status = .databaseProvisioning ∨
      deployment.status = .migrating then
    let _ ← transition deployment .failed
  let checkpoint ← Program.attempt (Program.exec .getCheckpoint) fun _ => return none
  let checkpoint := checkpoint.getD initialCheckpoint
  let _ ← caught (saveCheckpoint
    { checkpoint with
      revision := checkpoint.revision + 1
      lastErrorCode := errorCode failure }
    checkpoint.revision)
  let _ ← caught (Program.ask (.audit "runtime_database_preparation.failed"))

def execute (input : RuntimeDatabasePreparationInput) : DeploymentProgram RuntimeDeployment := do
  let deployment ← requireDeployment input
  if deployment.status = .configPreparing then return deployment
  else
    let (deployment, prepared) ← prepare deployment
    match prepared with
    | .ok () => return deployment
    | .error failure =>
      recordFailure deployment (mapPreparationError failure)
      .fail (mapPreparationError failure)

end RuntimeDatabasePreparationJob

end Deployments

end SdarRuntime
