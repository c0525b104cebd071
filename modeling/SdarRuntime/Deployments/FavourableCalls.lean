import SdarRuntime.Library.Alone
import SdarRuntime.Deployments.Control

/-!
A call of the reconciler that nothing disturbs: every port succeeds, no command arrives and no
other run moves the deployment. Then each step of a run does what it is for.
-/

namespace SdarRuntime

namespace Deployments

open Program PostgresRuntimeReconcileStore RuntimeDatabasePreparationJob

structure RuntimeDeployment.Sound (deployment : RuntimeDeployment) : Prop where
  endpoint : deployment.adapterEndpoint ≠ some ""
  managed : deployment.runtimeAuthority = .platformManaged →
    ∃ profileId, deployment.databaseProfileId = some profileId
  /-- A container elsewhere is never asked to stop and has no database of its own. -/
  direct : deployment.runtimeAuthority = .directContainer →
    (∃ endpoint, deployment.adapterEndpoint = some endpoint) ∧
      deployment.desiredState = .running ∧
      deployment.status ∉ [.databaseProvisioning, .migrating, .stopped, .draining]

def DeploymentStore.identity (names : InstanceNames) (store : DeploymentStore) : RuntimeProcess :=
  deriveRuntimeInstanceIdentity names store.deployment.providerId store.deployment.deploymentId 0

structure DeploymentStore.Sound (names : InstanceNames) (store : DeploymentStore) : Prop where
  deployment : store.deployment.Sound
  instances : store.processes = [] ∨ store.processes = [store.identity names]

def Favourable : {β : Type} → DeploymentCall β → β → Prop
  | _, .aborted, aborted => aborted = false
  | _, .publishedConfiguration deployment, content =>
    deployment.adapterEndpoint ≠ some "" →
      (∃ endpoint, requireAdapterEndpoint
        (overlay deployment content) = .ok endpoint) ∧
      ∃ adapterTls, requireAdapterTlsConfiguration
        (overlay deployment content) = .ok adapterTls
  | _, .directInstance _, direct => isRegistered direct = true
  | _, .verify _ _ _ _, verification => verification = .verified
  | _, .probe _, result => isHealthy result = true
  | _, .externalProbe _, result => isHealthy result = true
  | _, .databaseProfile deployment, answer =>
    ∀ profileId, deployment.databaseProfileId = some profileId →
      ∃ profile, answer = some profile ∧ profile.profileId = profileId ∧
        (isShared profile = true →
          profile.databaseMode = "preexisting")
  | _, .ensureRuntimeCredential secretRef, answer => answer = secretRef
  | _, _, _ => True

theorem exists_favourable {β : Type} (call : DeploymentCall β) :
    ∃ value, Favourable call value := by
  cases call with
  | aborted => exact ⟨false, rfl⟩
  | publishedConfiguration deployment =>
    refine ⟨fun name => if name = "ADAPTER_ENDPOINT" then some (.text "endpoint") else none, ?_⟩
    intro named
    constructor
    · cases given : deployment.adapterEndpoint with
      | none =>
        refine ⟨"endpoint", ?_⟩
        simp [requireAdapterEndpoint, overlay, given]
      | some endpoint =>
        refine ⟨endpoint, ?_⟩
        have filled : endpoint.isEmpty = false := by
          apply Bool.eq_false_iff.mpr
          intro isEmpty
          apply named
          rw [given, String.isEmpty_iff.mp isEmpty]
        simp [requireAdapterEndpoint, overlay, given, filled]
    · exact ⟨.disabled, by
        simp [requireAdapterTlsConfiguration, overlay]⟩
  | directInstance deployment =>
    exact ⟨{ target := ⟨"", "", "", ""⟩
             controlEndpoint := ""
             registrationState := .registered
             registrationFresh := true }, rfl⟩
  | verify expectedProviderId target adapterEndpoint adapterTls => exact ⟨.verified, rfl⟩
  | probe target => exact ⟨⟨.online, true, true⟩, rfl⟩
  | externalProbe controlEndpoint => exact ⟨⟨.online, true, true⟩, rfl⟩
  | databaseProfile deployment =>
    cases given : deployment.databaseProfileId with
    | none =>
      refine ⟨none, ?_⟩
      intro profileId isSome
      rw [given] at isSome
      cases isSome
    | some profileId =>
      refine ⟨some ⟨profileId, "", "preexisting", ""⟩, ?_⟩
      intro other isSome
      rw [given] at isSome
      cases isSome
      exact ⟨_, rfl, rfl, fun shared => rfl⟩
  | ensureRuntimeCredential secretRef => exact ⟨secretRef, rfl⟩
  | inventory => exact ⟨[], trivial⟩
  | recordOrphans processNames => exact ⟨(), trivial⟩
  | recordHealth target result => exact ⟨(), trivial⟩
  | provision step profile => exact ⟨(), trivial⟩
  | migrate migrationSet => exact ⟨(), trivial⟩
  | audit action => exact ⟨(), trivial⟩
  | awaitOperation operation => exact ⟨(), trivial⟩
  | recordCatalogState state => exact ⟨(), trivial⟩
  | resolveEndpoint instanceId => exact ⟨(), trivial⟩
  | discoverCatalog => exact ⟨(), trivial⟩
  | publishCatalog => exact ⟨(), trivial⟩
  | projectProviders => exact ⟨(), trivial⟩
  | publishRegistry => exact ⟨(), trivial⟩

/-- The program, undisturbed from the store, ends with a value and in `Post`. -/
abbrev Undisturbed {α : Type} (names : InstanceNames) (program : DeploymentProgram α)
    (Post : α → DeploymentStore → Prop) (store : DeploymentStore) : Prop :=
  program.Succeeds (machine names) Favourable Post store


variable {names : InstanceNames} {store : DeploymentStore}

variable {α : Type}

theorem undisturbed_ask (call : DeploymentCall α) :
    Undisturbed names (ask call)
      (fun value after => Favourable call value ∧ after = store) store :=
  succeeds_ask fun _ good => ⟨good, rfl⟩

variable {value : α} {after : DeploymentStore}

theorem undisturbed_exec {effect : DeploymentOp α}
    (answers : execute names effect store = (.ok value, after)) :
    Undisturbed names (exec effect)
      (fun given later => given = value ∧ later = after) store := by
  apply succeeds_exec
  intro clock
  change ∃ given, (execute names effect store).1 = .ok given ∧
    given = value ∧ (execute names effect store).2 = after
  rw [answers]
  exact ⟨value, rfl, rfl, rfl⟩

theorem undisturbed_ofExcept {result : Except Failure α} (isOk : result = .ok value) :
    Undisturbed names (ofExcept result)
      (fun given after => given = value ∧ after = store) store :=
  succeeds_ofExcept isOk ⟨rfl, rfl⟩

theorem undisturbed_checkpoint :
    Undisturbed names checkpoint (fun _ after => after = store) store := by
  refine succeeds_bind (undisturbed_ask .aborted) ?_
  intro aborted after given
  rw [show aborted = false from given.1, given.2]
  exact rfl

variable {Post : α → DeploymentStore → Prop}

theorem undisturbed_cancellable {operation : DeploymentProgram α}
    (succeeds : Undisturbed names operation Post store) :
    Undisturbed names (cancellable operation) Post store := by
  refine succeeds_bind undisturbed_checkpoint ?_
  intro _ before same
  rw [same]
  refine succeeds_bind succeeds ?_
  intro value after post
  refine succeeds_bind undisturbed_checkpoint ?_
  intro _ later unchanged
  rw [unchanged]
  exact post

theorem undisturbed_caught {program : DeploymentProgram α}
    (succeeds : Undisturbed names program Post store) :
    Undisturbed names (caught program)
      (fun result after => ∃ value, result = .ok value ∧ Post value after) store := by
  apply succeeds_attempt
  refine succeeds_bind succeeds ?_
  intro value after post
  exact ⟨value, rfl, post⟩

variable {providerId deploymentId : String}

theorem undisturbed_get (named : store.Names providerId deploymentId) :
    Undisturbed names (PostgresRuntimeDeploymentRepository.get providerId deploymentId)
      (fun found after => found = some store.deployment ∧ after = store) store := by
  apply undisturbed_exec
  simp only [execute, if_pos named]

theorem undisturbed_save {value : RuntimeDeployment} {desiredRevision observedRevision : Nat}
    (isRow : store.Matches value desiredRevision observedRevision) :
    Undisturbed names
      (PostgresRuntimeDeploymentRepository.save value desiredRevision observedRevision)
      (fun saved after => saved = true ∧ after = store.update value) store := by
  have answers : execute names (.save value desiredRevision observedRevision) store =
      (.ok true, store.update value) := by
    simp only [execute, if_pos isRow]
  refine succeeds_bind (undisturbed_exec answers) ?_
  intro saved after given
  rw [given.1]
  exact ⟨rfl, given.2⟩

def RuntimeDeployment.moved (deployment : RuntimeDeployment) (status : RuntimeDeploymentStatus) :
    RuntimeDeployment :=
  { deployment with
    status := status
    observedRevision := deployment.observedRevision + 1 }

/-- The store with the deployment at another status, its rows otherwise as they were. -/
structure Reaches (names : InstanceNames) (store : DeploymentStore)
    (status : RuntimeDeploymentStatus) (after : DeploymentStore) : Prop where
  sound : after.Sound names
  status : after.deployment.status = status
  desired : after.deployment.desiredState = store.deployment.desiredState
  providerId : after.deployment.providerId = store.deployment.providerId
  deploymentId : after.deployment.deploymentId = store.deployment.deploymentId
  authority : after.deployment.runtimeAuthority = store.deployment.runtimeAuthority

def Keeps (names : InstanceNames) (store after : DeploymentStore) : Prop :=
  after.deployment = store.deployment ∧ after.Sound names

theorem Keeps.reaches (keeps : Keeps names store after) :
    Reaches names store store.deployment.status after := by
  obtain ⟨same, sound⟩ := keeps
  constructor
  · exact sound
  all_goals rw [same]

variable {middle after : DeploymentStore}

theorem Reaches.trans {first second : RuntimeDeploymentStatus}
    (one : Reaches names store first middle) (two : Reaches names middle second after) :
    Reaches names store second after where
  sound := two.sound
  status := two.status
  desired := two.desired.trans one.desired
  providerId := two.providerId.trans one.providerId
  deploymentId := two.deploymentId.trans one.deploymentId
  authority := two.authority.trans one.authority

def DeploymentStore.Admits (store : DeploymentStore) (status : RuntimeDeploymentStatus) : Prop :=
  store.deployment.runtimeAuthority = .directContainer →
    status ∉ [.databaseProvisioning, .migrating, .stopped, .draining]

variable {status : RuntimeDeploymentStatus}

theorem reaches_of_moved (sound : store.Sound names) (admits : store.Admits status) :
    Reaches names store status
      { store with deployment := store.deployment.moved status } where
  sound := {
    deployment := {
      endpoint := sound.deployment.endpoint
      managed := sound.deployment.managed
      direct := fun isDirect =>
        ⟨(sound.deployment.direct isDirect).1, (sound.deployment.direct isDirect).2.1,
          admits isDirect⟩ }
    instances := sound.instances }
  status := rfl
  desired := rfl
  providerId := rfl
  deploymentId := rfl
  authority := rfl

variable {deployment : RuntimeDeployment}

theorem transition_moved (other : status ≠ deployment.status)
    (allowed : status ∈ allowedTransitions deployment.status deployment.runtimeAuthority) :
    deployment.transition status deployment.status deployment.observedRevision =
      .ok (deployment.moved status) := by
  unfold RuntimeDeployment.transition
  rw [if_neg other, if_neg (not_not.mpr rfl), if_neg (not_not.mpr rfl),
    if_neg (not_not.mpr allowed)]
  rfl

theorem update_moved (status : RuntimeDeploymentStatus) :
    store.update (store.deployment.moved status) =
      { store with deployment := store.deployment.moved status } := rfl

theorem matches_moved (status : RuntimeDeploymentStatus) :
    store.Matches (store.deployment.moved status) store.deployment.desiredRevision
      store.deployment.observedRevision :=
  ⟨⟨rfl, rfl⟩, rfl, rfl⟩

theorem undisturbed_stored_transition (sound : store.Sound names)
    (named : store.Names providerId deploymentId) (other : status ≠ store.deployment.status)
    (allowed : status ∈
      allowedTransitions store.deployment.status store.deployment.runtimeAuthority)
    (admits : store.Admits status) :
    Undisturbed names
      (transition providerId deploymentId status
        store.deployment.status store.deployment.observedRevision)
      (fun moved after => moved = after.deployment ∧ Reaches names store status after) store := by
  have reads : Undisturbed names
      (requireDeployment providerId deploymentId)
      (fun found after => found = store.deployment ∧ after = store) store := by
    refine succeeds_bind (undisturbed_get named) ?_
    intro found after given
    rw [given.1]
    exact ⟨rfl, given.2⟩
  refine succeeds_bind reads ?_
  intro found before given
  rw [given.1, given.2]
  refine succeeds_bind (undisturbed_ofExcept (transition_moved other allowed)) ?_
  intro moved current computed
  rw [computed.1, computed.2]
  refine succeeds_bind (undisturbed_save (matches_moved status)) ?_
  intro saved after written
  rw [written.2, update_moved]
  exact ⟨rfl, reaches_of_moved sound admits⟩

variable {input : RuntimeDeploymentReconcileInput}

theorem undisturbed_transition (sound : store.Sound names)
    (named : store.Names input.providerId input.deploymentId)
    (other : status ≠ store.deployment.status) (allowed : status ∈
      allowedTransitions store.deployment.status store.deployment.runtimeAuthority)
    (admits : store.Admits status) :
    Undisturbed names (RuntimeDeploymentReconciler.transition store.deployment status input)
      (fun moved after => moved = after.deployment ∧ Reaches names store status after) store :=
  undisturbed_cancellable (undisturbed_stored_transition sound named other allowed admits)


theorem keeps_of_same (sound : store.Sound names) (deployment : after.deployment = store.deployment)
    (processes : after.processes = store.processes) : Keeps names store after := by
  refine ⟨deployment, ?_, ?_⟩
  · rw [deployment]
    exact sound.deployment
  · rw [processes, DeploymentStore.identity, deployment]
    exact sound.instances

theorem Keeps.trans (one : Keeps names store middle) (two : Keeps names middle after) :
    Keeps names store after :=
  ⟨two.1.trans one.1, two.2⟩

theorem allocate_first (sound : store.Sound names) :
    ∃ after, execute names
        (.allocate store.deployment.providerId store.deployment.deploymentId 0) store =
          (.ok (store.identity names), after) ∧ Keeps names store after := by
  have named : store.Names store.deployment.providerId store.deployment.deploymentId :=
    ⟨rfl, rfl⟩
  rcases sound.instances with none | one
  · refine ⟨{ store with processes := [store.identity names] }, ?_, ?_⟩
    · simp only [execute, DeploymentStore.allocate, if_pos named, none]
      rfl
    · exact ⟨rfl, sound.deployment, .inr rfl⟩
  · refine ⟨store, ?_, keeps_of_same sound rfl rfl⟩
    simp only [execute, DeploymentStore.allocate, if_pos named, one]
    simp [DeploymentStore.identity]

/-- The adapter can be reached as an instance's configuration says. -/
def Configured (effectiveConfig : EffectiveConfig) : Prop :=
  (∃ endpoint, requireAdapterEndpoint effectiveConfig = .ok endpoint) ∧
    ∃ adapterTls, requireAdapterTlsConfiguration effectiveConfig = .ok adapterTls

theorem undisturbed_ensureInstance (sound : store.Sound names)
    (managed : store.deployment.runtimeAuthority = .platformManaged) :
    Undisturbed names (ensureInstance store.deployment 0)
      (fun ensured after => Configured ensured.effectiveConfig ∧ Keeps names store after)
      store := by
  obtain ⟨allocated, answers, keeps⟩ := allocate_first sound
  unfold ensureInstance
  rw [if_neg (by rw [managed]; decide)]
  refine succeeds_bind (undisturbed_exec answers) ?_
  intro process before given
  rw [given.2]
  refine succeeds_bind (undisturbed_ask _) ?_
  intro content after published
  rw [published.2]
  exact ⟨published.1 sound.deployment.endpoint, keeps⟩

theorem undisturbed_listInstances (sound : store.Sound names)
    (managed : store.deployment.runtimeAuthority = .platformManaged)
    (named : store.Names providerId deploymentId) :
    Undisturbed names (listInstances providerId deploymentId)
      (fun _ after => Keeps names store after) store := by
  have reads : Undisturbed names
      (requireDeployment providerId deploymentId)
      (fun found after => found = store.deployment ∧ after = store) store := by
    refine succeeds_bind (undisturbed_get named) ?_
    intro found after given
    rw [given.1]
    exact ⟨rfl, given.2⟩
  refine succeeds_bind reads ?_
  intro deployment before given
  rw [given.1, given.2, if_neg (by rw [managed]; decide)]
  have lists : execute names (.listByDeployment providerId deploymentId) store =
      (.ok store.processes, store) := by
    simp only [execute, if_pos named]
  refine succeeds_bind (undisturbed_exec lists) ?_
  intro processes current listed
  rw [listed.1, listed.2]
  rcases sound.instances with none | one
  · rw [none]
    exact keeps_of_same sound rfl rfl
  · rw [one]
    refine succeeds_bind (undisturbed_ensureInstance sound managed) ?_
    intro ensured after keeps
    exact keeps.2

theorem undisturbed_boundedOperation {operation : ProcessOperation} (sound : store.Sound names) :
    Undisturbed names (RuntimeLifecycleManager.boundedOperation operation)
      (fun _ after => Keeps names store after) store := by
  refine succeeds_bind (undisturbed_exec rfl) ?_
  intro _ issued given
  rw [given.2]
  refine succeeds_bind (undisturbed_ask _) ?_
  intro _ awaited answered
  rw [answered.2]
  refine (undisturbed_exec rfl).mono ?_
  intro _ after settled
  rw [settled.2]
  split
  · exact keeps_of_same sound rfl rfl
  · exact keeps_of_same sound rfl rfl

theorem undisturbed_lifecycle {action : RuntimeLifecycleAction}
    {target : RuntimeInfrastructureInstanceTarget}
    {context : RuntimeInfrastructureOperationContext} (sound : store.Sound names) :
    Undisturbed names (RuntimeLifecycleManager.run action target context)
      (fun _ after => Keeps names store after) store := by
  refine succeeds_bind (undisturbed_ask .aborted) ?_
  intro aborted before given
  rw [show aborted = false from given.1, given.2]
  refine succeeds_bind (undisturbed_exec rfl) ?_
  intro found looked completed
  rw [completed.2]
  cases found with
  | true => exact keeps_of_same sound rfl rfl
  | false =>
    refine succeeds_bind (undisturbed_ask _) ?_
    intro _ persisted unchanged
    rw [unchanged.2]
    refine succeeds_bind (undisturbed_ask _) ?_
    intro _ audited same
    rw [same.2]
    apply succeeds_attempt
    refine succeeds_bind (undisturbed_boundedOperation sound) ?_
    intro _ operated keeps
    refine succeeds_bind (undisturbed_ask _) ?_
    intro _ succeeded still
    rw [still.2]
    refine succeeds_bind (undisturbed_exec rfl) ?_
    intro _ recorded done
    rw [done.2]
    refine (undisturbed_ask _).mono ?_
    intro _ after last
    rw [last.2]
    exact keeps.trans (keeps_of_same keeps.2 rfl rfl)

theorem undisturbed_stopInstances (targets : List RuntimeInfrastructureInstanceTarget)
    (sound : store.Sound names) :
    Undisturbed names (RuntimeDeploymentReconciler.stopInstances deployment input targets)
      (fun _ after => Keeps names store after) store := by
  induction targets generalizing store with
  | nil => exact keeps_of_same sound rfl rfl
  | cons target others ih =>
    refine succeeds_bind
      (undisturbed_cancellable (undisturbed_lifecycle sound)) ?_
    intro _ stopped keeps
    refine (ih keeps.2).mono ?_
    intro _ after later
    exact keeps.trans later


def Current (checkpoint : RuntimeDatabasePreparationCheckpoint) (after : DeploymentStore) : Prop :=
  ∀ newest ∈ after.checkpoint, newest.revision ≤ checkpoint.revision

variable {checkpoint : RuntimeDatabasePreparationCheckpoint}

theorem undisturbed_runStep {step : RuntimeDatabasePreparationStep}
    {action : DeploymentProgram Unit} (sound : store.Sound names)
    (current : Current checkpoint store)
    (acts : Undisturbed names action (fun _ after => after = store) store) :
    Undisturbed names (runStep checkpoint step action)
      (fun updated after => Current updated after ∧ Keeps names store after) store := by
  unfold runStep
  split
  · exact ⟨current, keeps_of_same sound rfl rfl⟩
  · refine succeeds_bind acts ?_
    intro _ acted same
    rw [same]
    have saves : Undisturbed names
        (saveCheckpoint
          { completedSteps := checkpoint.completedSteps ++ [step]
            revision := checkpoint.revision + 1
            lastErrorCode := none } checkpoint.revision)
        (fun _ after => after = { store with
          checkpoint := some
            { completedSteps := checkpoint.completedSteps ++ [step]
              revision := checkpoint.revision + 1
              lastErrorCode := none } }) store := by
      unfold saveCheckpoint
      rw [if_neg (not_not.mpr rfl)]
      refine succeeds_bind (undisturbed_exec (if_pos current)) ?_
      intro inserted after given
      rw [given.1]
      exact given.2
    refine succeeds_bind saves ?_
    intro _ after saved
    rw [saved]
    refine ⟨?_, keeps_of_same sound rfl rfl⟩
    intro newest isNewest
    cases isNewest
    exact Nat.le_refl _

variable {profileId : String}

theorem undisturbed_requireProfile (named : store.deployment.databaseProfileId = some profileId) :
    Undisturbed names (requireProfile store.deployment)
      (fun profile after =>
        (isShared profile = true →
          profile.databaseMode = "preexisting") ∧ after = store) store := by
  refine succeeds_bind (undisturbed_ask _) ?_
  intro answer after given
  obtain ⟨profile, found, isNamed, shared⟩ := given.1 profileId named
  rw [found, given.2]
  dsimp only
  rw [isNamed, if_neg (not_not.mpr named.symm)]
  exact ⟨shared, rfl⟩

theorem undisturbed_ask_unit {call : DeploymentCall Unit} :
    Undisturbed names (ask call) (fun _ after => after = store) store :=
  (undisturbed_ask call).mono fun _ _ given => given.2

theorem undisturbed_provision (sound : store.Sound names)
    (named : store.deployment.databaseProfileId = some profileId) :
    Undisturbed names (provision store.deployment)
      (fun prepared after => Current prepared.2 after ∧ Keeps names store after) store := by
  refine succeeds_bind undisturbed_ask_unit ?_
  intro _ audited same
  rw [same]
  refine succeeds_bind (undisturbed_requireProfile named) ?_
  intro profile before given
  rw [given.2, if_neg (fun mismatch => mismatch.2 (given.1 mismatch.1))]
  refine succeeds_bind (undisturbed_exec rfl) ?_
  intro found looked read
  rw [read.1, read.2]
  have current : Current
      (store.checkpoint.getD initialCheckpoint) store := by
    intro newest isNewest
    rw [show store.checkpoint = some newest from isNewest]
    exact Nat.le_refl _
  refine succeeds_bind (undisturbed_runStep sound current ?_) ?_
  · refine succeeds_bind (undisturbed_ask _) ?_
    intro secretRef after credential
    rw [show secretRef = profile.runtimeSecretRef from credential.1, if_neg (not_not.mpr rfl)]
    exact credential.2
  · intro secret first kept
    by_cases shared : isShared profile = true
    · rw [if_pos shared]
      exact kept
    · rw [if_neg shared]
      refine succeeds_bind
        (undisturbed_runStep kept.2.2 kept.1 undisturbed_ask_unit) ?_
      intro role second keptRole
      refine succeeds_bind
        (undisturbed_runStep keptRole.2.2 keptRole.1 undisturbed_ask_unit) ?_
      intro database third keptDatabase
      refine succeeds_bind
        (undisturbed_runStep keptDatabase.2.2 keptDatabase.1 undisturbed_ask_unit) ?_
      intro grant fourth keptGrant
      refine succeeds_bind
        (undisturbed_runStep keptGrant.2.2 keptGrant.1 undisturbed_ask_unit) ?_
      intro verify after keptVerify
      exact ⟨keptVerify.1,
        (((kept.2.trans keptRole.2).trans keptDatabase.2).trans keptGrant.2).trans keptVerify.2⟩

theorem undisturbed_migrate {profile : DatabaseProfile} (sound : store.Sound names)
    (current : Current checkpoint store) :
    Undisturbed names (migrate profile checkpoint)
      (fun _ after => Keeps names store after) store := by
  refine succeeds_bind (undisturbed_runStep sound current undisturbed_ask_unit) ?_
  intro _ after kept
  exact kept.2

/-- A transition of the job, to another status or to the one the row has already. -/
theorem undisturbed_job_transition (sound : store.Sound names) (allowed : status ∈
        allowedTransitions store.deployment.status store.deployment.runtimeAuthority ∨
      status = store.deployment.status) (admits : store.Admits status) :
    Undisturbed names (RuntimeDatabasePreparationJob.transition store.deployment status)
      (fun result after => result = (after.deployment, .ok ()) ∧
        Reaches names store status after ∧ after.checkpoint = store.checkpoint) store := by
  unfold RuntimeDatabasePreparationJob.transition
  by_cases same : status = store.deployment.status
  · have stays : store.deployment.transition status store.deployment.status
        store.deployment.observedRevision = .ok store.deployment := by
      unfold RuntimeDeployment.transition RuntimeDeployment.assertIdempotentTransition
      rw [if_pos same, if_pos ⟨rfl, rfl⟩]
      rfl
    have isRow : store.Matches store.deployment store.deployment.desiredRevision
        store.deployment.observedRevision := ⟨⟨rfl, rfl⟩, rfl, rfl⟩
    rw [stays]
    refine succeeds_bind (undisturbed_caught (undisturbed_save isRow)) ?_
    intro result after given
    obtain ⟨saved, isOk, isTrue, written⟩ := given
    rw [isOk, isTrue, written]
    exact ⟨rfl, same ▸ (keeps_of_same sound rfl rfl).reaches, rfl⟩
  · rw [transition_moved same (allowed.resolve_right same)]
    refine succeeds_bind (undisturbed_caught (undisturbed_save (matches_moved status))) ?_
    intro result after given
    obtain ⟨saved, isOk, isTrue, written⟩ := given
    rw [isOk, isTrue, written, update_moved]
    exact ⟨rfl, reaches_of_moved sound admits, rfl⟩

def Unprepared (status : RuntimeDeploymentStatus) : Prop :=
  status ∈ [.requested, .databaseProvisioning, .migrating, .failed]

instance : DecidablePred Unprepared := fun _ => inferInstanceAs (Decidable (_ ∈ _))

theorem admits_of_managed (managed : store.deployment.runtimeAuthority = .platformManaged) :
    store.Admits status := by
  intro isDirect
  rw [managed] at isDirect
  cases isDirect

theorem undisturbed_prepareState (sound : store.Sound names)
    (managed : store.deployment.runtimeAuthority = .platformManaged)
    (unprepared : Unprepared store.deployment.status) :
    Undisturbed names (prepareState store.deployment)
      (fun result after => result = (after.deployment, .ok ()) ∧
        (Reaches names store .databaseProvisioning after ∨
          Reaches names store .migrating after)) store := by
  have provisioning {middle : DeploymentStore} (reaches : Reaches names store .requested middle) :
      Undisturbed names
        (RuntimeDatabasePreparationJob.transition middle.deployment .databaseProvisioning)
        (fun result after => result = (after.deployment, .ok ()) ∧
          (Reaches names store .databaseProvisioning after ∨
            Reaches names store .migrating after)) middle := by
    have managedMiddle := reaches.authority.trans managed
    refine (undisturbed_job_transition reaches.sound (.inl ?_)
      (admits_of_managed managedMiddle)).mono ?_
    · rw [reaches.status, managedMiddle]
      decide
    · intro result after given
      exact ⟨given.1, .inl (reaches.trans given.2.1)⟩
  unfold prepareState
  by_cases failed : store.deployment.status = .failed
  · rw [if_pos failed]
    refine succeeds_bind (undisturbed_job_transition sound (.inl ?_)
      (admits_of_managed managed)) ?_
    · rw [failed]
      exact List.mem_cons_self
    · intro result middle given
      rw [given.1]
      dsimp only
      rw [if_pos given.2.1.status]
      exact provisioning given.2.1
  · rw [if_neg failed]
    change Undisturbed names (if store.deployment.status = .requested then _ else _) _ store
    by_cases requested : store.deployment.status = .requested
    · rw [if_pos requested]
      exact provisioning (requested ▸ (keeps_of_same sound rfl rfl).reaches)
    · have started : store.deployment.status = .databaseProvisioning ∨
          store.deployment.status = .migrating := by
        unfold Unprepared at unprepared
        simpa [requested, failed] using unprepared
      rw [if_neg requested, if_neg (by tauto)]
      refine ⟨rfl, ?_⟩
      have reaches : Reaches names store store.deployment.status store :=
        (keeps_of_same sound rfl rfl).reaches
      rcases started with isProvisioning | isMigrating
      · exact .inl (isProvisioning ▸ reaches)
      · exact .inr (isMigrating ▸ reaches)


theorem undisturbed_prepare (sound : store.Sound names)
    (managed : store.deployment.runtimeAuthority = .platformManaged)
    (unprepared : Unprepared store.deployment.status) :
    Undisturbed names (prepare store.deployment)
      (fun result after => result = (after.deployment, .ok ()) ∧
        Reaches names store .configPreparing after) store := by
  refine succeeds_bind (undisturbed_prepareState sound managed unprepared) ?_
  intro state prepared given
  rw [given.1]
  dsimp only
  have started : ∃ status, (status = .databaseProvisioning ∨ status = .migrating) ∧
      Reaches names store status prepared := by
    rcases given.2 with provisioning | migrating
    · exact ⟨_, .inl rfl, provisioning⟩
    · exact ⟨_, .inr rfl, migrating⟩
  obtain ⟨status, isEither, reaches⟩ := started
  have managedThen := reaches.authority.trans managed
  obtain ⟨profileId, named⟩ := reaches.sound.deployment.managed managedThen
  refine succeeds_bind (undisturbed_caught (undisturbed_provision reaches.sound named)) ?_
  intro provisioned ready outcome
  obtain ⟨⟨profile, checkpoint⟩, isOk, current, keeps⟩ := outcome
  rw [isOk]
  dsimp only
  rw [← keeps.1]
  have allowed : RuntimeDeploymentStatus.migrating ∈
        allowedTransitions ready.deployment.status ready.deployment.runtimeAuthority ∨
      RuntimeDeploymentStatus.migrating = ready.deployment.status := by
    rw [keeps.1, reaches.status]
    rcases isEither with isProvisioning | isMigrating
    · left
      rw [isProvisioning]
      exact List.mem_cons_self
    · exact .inr isMigrating.symm
  have managedNow : ready.deployment.runtimeAuthority = .platformManaged := by
    rw [keeps.1, managedThen]
  refine succeeds_bind
    (undisturbed_job_transition keeps.2 allowed (admits_of_managed managedNow)) ?_
  intro result migrating moved
  rw [moved.1]
  dsimp only
  refine succeeds_bind (undisturbed_caught
    (undisturbed_migrate moved.2.1.sound ?_)) ?_
  · unfold Current
    rw [moved.2.2]
    exact current
  · intro migrated done outcome
    obtain ⟨_, isOk', keepsMigrating⟩ := outcome
    rw [isOk']
    dsimp only
    rw [← keepsMigrating.1]
    have managedLast : done.deployment.runtimeAuthority = .platformManaged := by
      rw [keepsMigrating.1, moved.2.1.authority, managedNow]
    refine succeeds_bind
      (undisturbed_job_transition keepsMigrating.2 (.inl ?_) (admits_of_managed managedLast)) ?_
    · rw [keepsMigrating.1, moved.2.1.status]
      exact List.mem_cons_self
    · intro final last finished
      rw [finished.1]
      dsimp only
      refine succeeds_bind (undisturbed_caught undisturbed_ask_unit) ?_
      intro audited after same
      obtain ⟨_, isOk'', unchanged⟩ := same
      rw [isOk'', unchanged]
      exact ⟨rfl, (((reaches.trans keeps.reaches).trans moved.2.1).trans
        keepsMigrating.reaches).trans finished.2.1⟩

/-- The job takes a deployment from any of the statuses before its configuration to that one. -/
theorem undisturbed_execute {input : RuntimeDatabasePreparationInput} (sound : store.Sound names)
    (managed : store.deployment.runtimeAuthority = .platformManaged)
    (named : store.Names input.providerId input.deploymentId)
    (unprepared : Unprepared store.deployment.status) :
    Undisturbed names (RuntimeDatabasePreparationJob.execute input)
      (fun _ after => Reaches names store .configPreparing after) store := by
  have reads : Undisturbed names (RuntimeDatabasePreparationJob.requireDeployment input)
      (fun found after => found = store.deployment ∧ after = store) store := by
    refine succeeds_bind (undisturbed_get named) ?_
    intro found after given
    rw [given.1]
    exact ⟨rfl, given.2⟩
  refine succeeds_bind reads ?_
  intro deployment before given
  rw [given.1, given.2]
  have notYet : store.deployment.status ≠ .configPreparing := by
    intro prepared
    rw [prepared] at unprepared
    revert unprepared
    unfold Unprepared
    decide
  rw [if_neg notYet]
  refine succeeds_bind (undisturbed_prepare sound managed unprepared) ?_
  intro result after finished
  rw [finished.1]
  exact finished.2

end Deployments

end SdarRuntime
