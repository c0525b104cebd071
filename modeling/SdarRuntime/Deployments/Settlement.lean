import SdarRuntime.Deployments.Convergence
import SdarRuntime.Deployments.SupervisedRuns

/-!
What holds of a deployment in every state a run comes to: when the reconciler still brings it where
it is wanted, and when a deployment recorded as stopped has nothing left running.
-/

namespace SdarRuntime

namespace Deployments

variable {names : InstanceNames} {spec : RuntimeDeploymentSpec}

theorem RuntimeDeployment.Of.sound {deployment : RuntimeDeployment} (ofSpec : deployment.Of spec) :
    deployment.Sound where
  endpoint := by
    rw [ofSpec.endpoint]
    exact spec.endpoint
  managed := by
    intro managed
    have authority := ofSpec.authority.symm.trans managed
    rw [ofSpec.profile]
    unfold requestRuntimeDeployment at authority ⊢
    cases target : spec.target with
    | platformManaged databaseProfileId adapterEndpoint => exact ⟨databaseProfileId, rfl⟩
    | directContainer adapterEndpoint =>
      rw [target] at authority
      cases authority
  direct := by
    intro isDirect
    have authority := ofSpec.authority.symm.trans isDirect
    refine ⟨?_, ofSpec.direct isDirect⟩
    rw [ofSpec.endpoint]
    unfold requestRuntimeDeployment at authority
    cases target : spec.target with
    | platformManaged databaseProfileId adapterEndpoint =>
      rw [target] at authority
      cases authority
    | directContainer adapterEndpoint => exact ⟨adapterEndpoint, rfl⟩

theorem Supervised.sound {spared : Prop} {store : DeploymentStore}
    (supervised : Supervised names spec spared store) : store.Sound names where
  deployment := supervised.row.sound
  instances := by
    have first : store.identity names = firstInstance names spec := by
      rw [DeploymentStore.identity, firstInstance, supervised.row.providerId,
        supervised.row.deploymentId]
    rw [first]
    exact supervised.instances

theorem sound_run (names : InstanceNames) (spec : RuntimeDeploymentSpec)
    (labels : List DeploymentLabel) : (run names spec labels).store.Sound names := by
  have supervised : Supervised names spec False (run names spec labels).store := by
    apply supervised_run
    apply System.throughout_always
    intro system label executed _ impossible
    exact impossible.elim
  exact supervised.sound

/-- A statement that saves no row that drains while it is wanted running. -/
def LeavesFree : {β : Type} → DeploymentOp β → DeploymentStore → Prop
  | _, .save value expectedDesiredRevision expectedObservedRevision, store =>
    store.Matches value expectedDesiredRevision expectedObservedRevision → ¬value.Stuck
  | _, _, _ => True

instance decidableLeavesFree {β : Type} (effect : DeploymentOp β) (store : DeploymentStore) :
    Decidable (LeavesFree effect store) :=
  match effect with
  | .save _ _ _ => inferInstanceAs (Decidable (_ → ¬(_ ∧ _)))
  | .get _ _ | .allocate _ _ _ | .listByDeployment _ _ | .getCheckpoint | .insertCheckpoint _ _
  | .findCompleted _ | .complete _ | .issue _ | .settle _ => .isTrue trivial

theorem free_after {executed : Executed DeploymentOp Unit} {store : DeploymentStore}
    (free : ¬store.deployment.Stuck) (leaves : LeavesFree executed.effect store) :
    ¬(executed.after (machine names) store).deployment.Stuck := by
  obtain ⟨effect, clock⟩ := executed
  change ¬(execute names effect store).2.deployment.Stuck
  cases effect with
  | save value expectedDesiredRevision expectedObservedRevision =>
    simp only [execute]
    split
    · rename_i isRow
      exact leaves isRow
    · exact free
  | allocate providerId deploymentId ordinal =>
    simp only [execute, DeploymentStore.allocate]
    split
    · split
      · exact free
      · exact free
    · exact free
  | insertCheckpoint checkpoint expectedRevision =>
    simp only [execute]
    split
    · exact free
    · exact free
  | settle operation =>
    simp only [execute]
    split
    · exact free
    · exact free
  | get providerId deploymentId => exact free
  | listByDeployment providerId deploymentId => exact free
  | getCheckpoint => exact free
  | findCompleted key => exact free
  | complete key => exact free
  | issue operation => exact free

theorem free_run {labels : List DeploymentLabel}
    (leaves : System.Throughout (machine names) DeploymentEntry.program
      (System.OnCommit fun executed store => LeavesFree executed.effect store) (created spec)
      labels) :
    ¬(run names spec labels).store.deployment.Stuck := by
  apply System.run_induction (P := fun system => ¬system.store.deployment.Stuck) ?_ ?_ labels leaves
  · intro system label free condition
    rw [System.step_store]
    cases commits : system.executes label with
    | none => exact free
    | some executed => exact free_after free (condition executed commits)
  · intro stuck
    cases stuck.1

/-- In every state a run comes to, further calls bring the deployment where it is wanted exactly
where it does not drain while it is wanted running; and it never does where no save leaves it so. -/
theorem reconcile_converges (names : InstanceNames) (spec : RuntimeDeploymentSpec)
    (labels : List DeploymentLabel) :
    (Converges names (run names spec labels).store ↔
        ¬(run names spec labels).store.deployment.Stuck) ∧
      (System.Throughout (machine names) DeploymentEntry.program
          (System.OnCommit fun executed store => LeavesFree executed.effect store) (created spec)
          labels →
        Converges names (run names spec labels).store) := by
  have converges := converges_iff_free (sound_run names spec labels)
  exact ⟨converges, fun leaves => converges.mpr (free_run leaves)⟩


def sampleNames : InstanceNames :=
  { digest := fun _ => "0"
    slug := fun _ => "provider" }

def sampleSpec : RuntimeDeploymentSpec :=
  { deploymentId := "deployment"
    providerId := "provider"
    environment := "test"
    target := .platformManaged "profile" none
    endpoint := by decide }

def sampleReading : Reading :=
  { failure := none
    aborted := false
    inventory := []
    configuration := fun name =>
      if name = "ADAPTER_ENDPOINT" then some (.text "endpoint") else none
    directInstance :=
      { target :=
          { providerId := "provider"
            deploymentId := "deployment"
            instanceId := "instance"
            processName := "process" }
        controlEndpoint := "endpoint"
        registrationState := .registered
        registrationFresh := true }
    verification := .verified
    health :=
      { processState := .online
        live := true
        ready := true }
    profile := some
      { profileId := "profile"
        clusterRef := "cluster"
        databaseMode := "preexisting"
        runtimeSecretRef := "secret" }
    secretRef := "secret" }

def sampleSteps (thread count : Nat) (reading : Reading) : List DeploymentLabel :=
  (List.replicate count [.perform thread (), .send thread, .answer thread reading]).flatten

def sampleReconcile : DeploymentEntry :=
  .reconcile
    { providerId := "provider"
      deploymentId := "deployment"
      context :=
        { operationId := "operation"
          correlationId := "correlation"
          idempotencyKey := "key" } }

def sampleCommand (command : RuntimeDeploymentCommandType) (expectedDesiredRevision : Nat) :
    DeploymentEntry :=
  .command
    { providerId := "provider"
      deploymentId := "deployment"
      command := command
      expectedDesiredRevision := expectedDesiredRevision }

/-- A run ends while the deployment drains, and then it is wanted running again. -/
def strandedRun : List DeploymentLabel :=
  [.spawn sampleReconcile] ++ sampleSteps 0 12 sampleReading ++
  [.crash 0, .spawn (sampleCommand .stop 0)] ++ sampleSteps 1 3 sampleReading ++
  [.spawn sampleReconcile] ++ sampleSteps 2 12 sampleReading ++
  [.crash 2, .spawn (sampleCommand .start 1)] ++ sampleSteps 3 3 sampleReading

theorem stuck_strandedRun :
    (run sampleNames sampleSpec strandedRun).store.deployment.Stuck := by
  decide +kernel

theorem not_converges_strandedRun :
    ¬Converges sampleNames (run sampleNames sampleSpec strandedRun).store := by
  intro converges
  exact (converges_iff_free (sound_run sampleNames sampleSpec strandedRun)).mp converges
    stuck_strandedRun

theorem converges_while_starting :
    Converges sampleNames (run sampleNames sampleSpec
      ([.spawn sampleReconcile] ++ sampleSteps 0 12 sampleReading)).store :=
  (reconcile_converges sampleNames sampleSpec
    ([.spawn sampleReconcile] ++ sampleSteps 0 12 sampleReading)).2 (by decide +kernel)

/-- A deployment recorded as stopped has nothing running, in every run that never records it from
elsewhere than a drain while something runs, and never brings a process up while it drains or is
stopped. -/
theorem stopped_leaves_nothing (names : InstanceNames) (spec : RuntimeDeploymentSpec)
    (labels : List DeploymentLabel)
    (spares : System.Throughout (machine names) DeploymentEntry.program
      (System.OnCommit Spares) (created spec) labels)
    (isStopped : (run names spec labels).store.deployment.status = .stopped) :
    (run names spec labels).store.running = [] := by
  have supervised : Supervised names spec True (run names spec labels).store := by
    apply supervised_run
    apply System.throughout_mono spares
    intro system label condition executed commits _
    exact condition executed commits
  exact supervised.stopped trivial isStopped

def stoppedRun : List DeploymentLabel :=
  [.spawn sampleReconcile] ++ sampleSteps 0 50 sampleReading ++
  [.crash 0, .spawn (sampleCommand .stop 0)] ++ sampleSteps 1 3 sampleReading ++
  [.spawn sampleReconcile] ++ sampleSteps 2 45 sampleReading

theorem nothing_runs_after_stoppedRun :
    (run sampleNames sampleSpec stoppedRun).store.running = [] :=
  stopped_leaves_nothing sampleNames sampleSpec stoppedRun (by decide +kernel) (by decide +kernel)

/-- The process comes up with another identity than expected: the deployment fails, and the stop
finds it failed. -/
def leftRunning : List DeploymentLabel :=
  [.spawn sampleReconcile] ++ sampleSteps 0 44 sampleReading ++
  sampleSteps 0 15 { sampleReading with verification := .mismatch } ++
  [.crash 0, .spawn (sampleCommand .stop 0)] ++ sampleSteps 1 3 sampleReading ++
  [.spawn sampleReconcile] ++ sampleSteps 2 15 sampleReading

theorem process_runs_though_stopped :
    (run sampleNames sampleSpec leftRunning).store.deployment.status = .stopped ∧
      (run sampleNames sampleSpec leftRunning).store.running ≠ [] := by
  decide +kernel

end Deployments

end SdarRuntime
