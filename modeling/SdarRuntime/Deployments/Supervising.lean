import SdarRuntime.Deployments.Supervision

/-!
Every program of a deployment keeps the contract. The programs are gone through once, from the
statements on the row up to the runs of the reconciler and the commands.
-/

namespace SdarRuntime

namespace Deployments

open Program PostgresRuntimeReconcileStore RuntimeDatabasePreparationJob

variable {names : InstanceNames} {spec : RuntimeDeploymentSpec} {spared : Prop}
variable {α β : Type}

abbrev supervising (names : InstanceNames) (spec : RuntimeDeploymentSpec) (spared : Prop) :
    Logic DeploymentOp DeploymentCall Failure DeploymentStore :=
  (supervision names spec spared).logic (machine names) fun _ _ => trivial

abbrev Lasting (spared : Prop) (fact : DeploymentStore → Prop) : Prop :=
  ∀ store after, Meanwhile spared store after → fact store → fact after

theorem lasting_true : Lasting spared fun _ => True := fun _ _ _ _ => trivial

theorem lasting_at (copy : RuntimeDeployment) : Lasting spared copy.At :=
  fun _ _ meanwhile here => here.advances meanwhile.1

theorem lasting_leaves (revision : Nat) (left : List String) :
    Lasting spared (Leaves spared revision left) :=
  fun _ _ meanwhile leaves => leaves.meanwhile meanwhile

theorem lasting_allocated : Lasting spared (Allocated names spec) :=
  fun _ _ meanwhile allocated => allocated.advances meanwhile.1

theorem Lasting.and {first second : DeploymentStore → Prop} (one : Lasting spared first)
    (two : Lasting spared second) : Lasting spared fun store => first store ∧ second store :=
  fun store after meanwhile both =>
    ⟨one store after meanwhile both.1, two store after meanwhile both.2⟩

theorem lasting_pure (fact : Prop) : Lasting spared fun _ => fact := fun _ _ _ holds => holds

variable {program : DeploymentProgram α}

theorem holds_weaken {before stronger : DeploymentStore → Prop}
    {after weaker : α → DeploymentStore → Prop}
    (holds : (supervising names spec spared).Holds before program after)
    (implies : ∀ store, stronger store → before store)
    (gives : ∀ value store, after value store → weaker value store) :
    (supervising names spec spared).Holds stronger program weaker := by
  intro store given
  apply (holds store (implies store given)).mono
  intro result store' post value isOk
  exact gives value store' (post value isOk)

variable {before : DeploymentStore → Prop} {after : α → DeploymentStore → Prop}

theorem holds_given {fact : Prop}
    (holds : fact → (supervising names spec spared).Holds before program after) :
    (supervising names spec spared).Holds (fun store => fact ∧ before store) program after :=
  fun store given => holds given.1 store given.2

theorem holds_always (holds : (supervising names spec spared).Holds (fun _ => True) program after) :
    (supervising names spec spared).Holds before program after :=
  fun store _ => holds store trivial

theorem holds_pure {value : α} (gives : ∀ store, before store → after value store) :
    (supervising names spec spared).Holds before (pure value) after :=
  (supervising names spec spared).done gives

variable {failure : Failure}

theorem holds_fail :
    (supervising names spec spared).Holds before (.fail failure) after :=
  (supervising names spec spared).fail

variable {next : β → DeploymentProgram α}

theorem holds_bind {first : DeploymentProgram β} {middle : β → DeploymentStore → Prop}
    (firstHolds : (supervising names spec spared).Holds before first middle)
    (nextHolds : ∀ value, (supervising names spec spared).Holds (middle value) (next value) after) :
    (supervising names spec spared).Holds before (first >>= next) after :=
  (supervising names spec spared).bind firstHolds nextHolds

theorem holds_ofExcept {result : Except Failure β} (goesOn : ∀ value, result = .ok value →
      (supervising names spec spared).Holds before (next value) after) :
    (supervising names spec spared).Holds before (ofExcept result >>= next) after := by
  cases result with
  | error failure => exact holds_fail
  | ok value => exact goesOn value rfl

variable {call : DeploymentCall α}

theorem holds_ask (lasting : Lasting spared before) :
    (supervising names spec spared).Holds before (ask call) (fun _ => before) :=
  (supervising names spec spared).ask call lasting

theorem holds_exec {effect : DeploymentOp α} (lasting : Lasting spared before)
    (performs : ∀ store, before store → Supervised names spec spared store →
      Supervises names spec spared effect store ∧
        ∀ value, (execute names effect store).1 = .ok value →
          after value (execute names effect store).2) :
    (supervising names spec spared).Holds before (exec effect) after := by
  intro store given store' meanwhile supervised
  obtain ⟨supervises, answers⟩ := performs store' (lasting _ _ meanwhile given) supervised
  refine ⟨supervises, ?_, ?_⟩
  · intro clock
    change Contract.Sat _ _ (ofExcept (execute names effect store').1) _
      (execute names effect store').2
    cases answered : (execute names effect store').1 with
    | ok value =>
      intro other isOk
      cases isOk
      exact answers value answered
    | error failure =>
      intro other isOk
      cases isOk
  · intro clock failure
    refine ⟨?_, ?_⟩
    all_goals
      intro other isOk
      cases isOk

theorem holds_attempt {body : DeploymentProgram α} {handler : Failure → DeploymentProgram α}
    (bodyHolds : (supervising names spec spared).Holds before body after) (handlerHolds : ∀ failure,
      (supervising names spec spared).Holds (fun _ => True) (handler failure) after) :
    (supervising names spec spared).Holds before (body.attempt handler) after := by
  intro store given
  apply Contract.sat_attempt.mpr
  apply (bodyHolds store given).mono
  intro result store' post
  cases result with
  | ok value => exact post
  | error failure => exact handlerHolds failure store' trivial

theorem holds_caught (holds : (supervising names spec spared).Holds before program after) :
    (supervising names spec spared).Holds before (caught program)
      (fun result store => ∀ value, result = .ok value → after value store) := by
  apply holds_attempt
  · apply holds_bind holds
    intro value
    apply holds_pure
    intro store post other isOk
    cases isOk
    exact post
  · intro failure
    apply holds_pure
    intro store _ other isOk
    cases isOk

/-- Statements that leave the row, what is in flight and what runs as they are. -/
def Quiet : {β : Type} → DeploymentOp β → Prop
  | _, .get _ _ | _, .listByDeployment _ _ | _, .getCheckpoint | _, .insertCheckpoint _ _
  | _, .findCompleted _ => True
  | _, .allocate _ _ ordinal => ordinal = 0
  | _, .save _ _ _ | _, .complete _ | _, .issue _ | _, .settle _ => False

abbrev Calm (program : DeploymentProgram α) : Prop :=
  program.Calls Quiet fun _ => True

variable {effect : DeploymentOp β}

theorem Quiet.supervises (quiet : Quiet effect) (store : DeploymentStore) :
    Supervises names spec spared effect store := by
  cases effect with
  | get providerId deploymentId => exact trivial
  | listByDeployment providerId deploymentId => exact trivial
  | getCheckpoint => exact trivial
  | insertCheckpoint checkpoint expectedRevision => exact trivial
  | findCompleted key => exact trivial
  | allocate providerId deploymentId ordinal => exact quiet
  | save value desired observed => exact quiet.elim
  | complete key => exact quiet.elim
  | issue operation => exact quiet.elim
  | settle operation => exact quiet.elim

theorem Quiet.spares (quiet : Quiet effect) (store : DeploymentStore) :
    SparesStatement effect store := by
  cases effect with
  | save value desired observed => exact quiet.elim
  | settle operation => exact quiet.elim
  | _ => exact trivial

variable {fact : DeploymentStore → Prop}

theorem calm_sat (calm : Calm program) (lasting : Lasting spared fact) (store : DeploymentStore)
    (given : fact store) :
    (supervision names spec spared).Sat (machine names) program (fun _ => fact) store := by
  induction program generalizing store with
  | done value => exact given
  | fail failure => exact given
  | transact effect next ih =>
    intro store' meanwhile supervised
    have still := lasting _ _ meanwhile given
    have supervises : Supervises names spec spared effect store' := calm.1.supervises store'
    have moves (clock : Unit) := (supervision_keeps { effect := effect, clock := clock } store'
      supervised supervises (fun _ => calm.1.spares store')).2
    refine ⟨supervises, ?_, ?_⟩
    · intro clock
      exact ih _ (calm.2 _) _ (lasting _ _ (moves clock) still)
    · intro clock failure
      exact ⟨ih _ (calm.2 _) _ still, ih _ (calm.2 _) _ (lasting _ _ (moves clock) still)⟩
  | request call beat next ih =>
    intro store' meanwhile supervised
    have still := lasting _ _ meanwhile given
    refine ⟨trivial, ?_, ?_⟩
    · intro effect isBeat
      exact (calm.2.1 effect isBeat).supervises store'
    · intro result late
      exact ih _ _ (calm.2.2 _ _) _ still

theorem holds_calm (calm : Calm program) (lasting : Lasting spared fact) :
    (supervising names spec spared).Holds fact program (fun _ => fact) := by
  intro store given
  apply (calm_sat calm lasting store given).mono
  intro result store' still value isOk
  exact still

theorem calm_ask : Calm (ask call : DeploymentProgram α) :=
  calls_ask trivial

theorem calm_checkpoint : Calm checkpoint := by
  apply calls_bind calm_ask
  intro aborted
  exact calls_ite (fun _ => calls_fail _) (fun _ => calls_pure ())

variable {operation : DeploymentProgram α}

theorem calm_cancellable (calm : Calm operation) :
    Calm (cancellable operation) := by
  apply calls_bind calm_checkpoint
  intro _
  apply calls_bind calm
  intro value
  apply calls_bind calm_checkpoint
  intro _
  exact calls_pure value

theorem holds_checkpoint (lasting : Lasting spared fact) :
    (supervising names spec spared).Holds fact checkpoint (fun _ => fact) :=
  holds_calm calm_checkpoint lasting

theorem holds_cancellable (holds : (supervising names spec spared).Holds before operation after)
    (lasting : Lasting spared before) (lastingAfter : ∀ value, Lasting spared (after value)) :
    (supervising names spec spared).Holds before (cancellable operation) after := by
  apply holds_bind (holds_checkpoint lasting)
  intro _
  apply holds_bind holds
  intro value
  apply holds_bind (holds_checkpoint (lastingAfter value))
  intro _
  exact holds_pure fun _ post => post


variable {providerId deploymentId : String}

theorem holds_get (lasting : Lasting spared before) :
    (supervising names spec spared).Holds before
      (PostgresRuntimeDeploymentRepository.get providerId deploymentId)
      (fun found store => before store ∧ ∀ copy, found = some copy →
        copy.providerId = providerId ∧ copy.deploymentId = deploymentId ∧ copy.Of spec ∧
          copy.At store) := by
  apply holds_exec lasting
  intro store given supervised
  refine ⟨trivial, ?_⟩
  intro found isOk
  cases isOk
  refine ⟨given, ?_⟩
  intro copy isSome
  split at isSome
  · rename_i named
    cases isSome
    exact ⟨named.1, named.2, supervised.row, Nat.le_refl _, fun _ => rfl⟩
  · cases isSome

/-- What a save must know: the value is one of the deployment's, it follows the row it is saved
over, and it ends a drain only when nothing runs. -/
structure MaySave (spec : RuntimeDeploymentSpec) (spared : Prop) (value : RuntimeDeployment)
    (expectedObservedRevision : Nat) (store : DeploymentStore) : Prop where
  row : value.Of spec
  later : expectedObservedRevision ≤ value.observedRevision
  status : value.observedRevision = expectedObservedRevision →
    store.deployment.observedRevision = expectedObservedRevision →
      value.status = store.deployment.status
  drained : spared → value.status = .stopped →
    store.deployment.observedRevision = expectedObservedRevision →
      store.deployment.status = .draining → store.running = []

theorem holds_save {value : RuntimeDeployment}
    {expectedDesiredRevision expectedObservedRevision : Nat} (lasting : Lasting spared before)
    (may : ∀ store, before store → MaySave spec spared value expectedObservedRevision store) :
    (supervising names spec spared).Holds before
      (PostgresRuntimeDeploymentRepository.save value expectedDesiredRevision
        expectedObservedRevision)
      (fun _ => value.At) := by
  have saves : (supervising names spec spared).Holds before
      (exec (.save value expectedDesiredRevision expectedObservedRevision))
      (fun saved store => saved = true → value.At store) := by
    apply holds_exec lasting
    intro store given supervised
    have allowed := may store given
    refine ⟨?_, ?_⟩
    · intro isRow
      exact ⟨allowed.row, allowed.later, fun same => allowed.status same isRow.2.2,
        fun isSpared isStopped => allowed.drained isSpared isStopped isRow.2.2⟩
    · intro saved isOk isTrue
      simp only [execute] at isOk ⊢
      split
      · exact ⟨Nat.le_refl _, fun _ => rfl⟩
      · rename_i notRow
        rw [if_neg notRow] at isOk
        cases isOk
        cases isTrue
  apply holds_bind saves
  intro saved
  cases saved with
  | true => exact holds_pure fun _ post => post rfl
  | false =>
    have reads : (supervising names spec spared).Holds (fun _ => True)
        (PostgresRuntimeDeploymentRepository.get value.providerId value.deploymentId)
        (fun found store => found = some value → value.At store) :=
      holds_weaken (holds_get lasting_true) (fun _ given => given)
        (fun found store given isSome => (given.2 value isSome).2.2.2)
    apply holds_bind (holds_weaken reads (fun _ _ => trivial) (fun _ _ post => post))
    intro found
    by_cases same : found = some value
    · rw [if_pos same]
      exact holds_pure fun _ post => post same
    · rw [if_neg same]
      exact holds_fail

theorem holds_requireDeployment (lasting : Lasting spared before) :
    (supervising names spec spared).Holds before
      (requireDeployment providerId deploymentId)
      (fun found store =>
        (found.providerId = providerId ∧ found.deploymentId = deploymentId ∧ found.Of spec) ∧
          before store ∧ found.At store) := by
  apply holds_bind (holds_get lasting)
  intro found
  cases found with
  | none => exact holds_fail
  | some copy =>
    apply holds_pure
    intro store given
    obtain ⟨provider, deployment, ofSpec, here⟩ := given.2 copy rfl
    exact ⟨⟨provider, deployment, ofSpec⟩, given.1, here⟩

def Suits (spec : RuntimeDeploymentSpec) (target : RuntimeDeploymentStatus) : Prop :=
  (requestRuntimeDeployment spec).runtimeAuthority = .directContainer →
    target ≠ .stopped ∧ target ≠ .draining

variable {target : RuntimeDeploymentStatus}

theorem suits_of_going (notStopped : target ≠ .stopped) (notDraining : target ≠ .draining) :
    Suits spec target :=
  fun _ => ⟨notStopped, notDraining⟩

variable {expectedRevision : Nat}

theorem holds_stored_transition {target expectedStatus : RuntimeDeploymentStatus}
    (lasting : Lasting spared before) (suits : Suits spec target)
    (drained : target = .stopped → expectedStatus = .draining →
      ∀ store, before store → Leaves spared expectedRevision [] store) :
    (supervising names spec spared).Holds before
      (transition providerId deploymentId target expectedStatus
        expectedRevision)
      (fun moved store => (moved.Of spec ∧ moved.status = target) ∧ moved.At store) := by
  apply holds_bind (holds_requireDeployment lasting)
  intro found
  apply holds_given
  rintro ⟨-, -, ofSpec⟩
  cases accepted : found.transition target expectedStatus expectedRevision with
  | error failure => exact holds_fail
  | ok moved =>
    have movedOf : moved.Of spec := by
      apply ofSpec.moves accepted
      intro isDirect
      apply suits
      rw [← ofSpec.authority]
      exact isDirect
    have reached : moved.status = target := by
      rcases RuntimeDeployment.transition_ok accepted with ⟨same, isFound, -⟩ |
        ⟨-, -, -, -, isMoved⟩
      · rw [isFound, same]
      · rw [isMoved]
    have may : ∀ store, before store ∧ found.At store →
        MaySave spec spared moved expectedRevision store := by
      intro store given
      rcases RuntimeDeployment.transition_ok accepted with ⟨same, isFound, once⟩ |
        ⟨-, expected, revision, -, isMoved⟩
      · refine ⟨movedOf, ?_, ?_, ?_⟩
        · rw [isFound]
          omega
        · intro unchanged here
          rw [isFound] at unchanged ⊢
          exact (given.2.2 (here.trans unchanged.symm)).symm
        · intro _ isStopped here draining
          rw [isFound] at isStopped
          have reached := given.2.1
          have status := given.2.2 (by omega)
          rw [isStopped, draining] at status
          cases status
      · refine ⟨movedOf, ?_, ?_, ?_⟩
        · rw [isMoved, revision]
          exact Nat.le_succ _
        · intro unchanged
          rw [isMoved, revision] at unchanged
          exact absurd unchanged (Nat.succ_ne_self _)
        · intro isSpared isStopped here draining
          have status := given.2.2 (here.trans revision)
          rw [draining] at status
          have leaves := drained (reached.symm.trans isStopped) (expected.trans status.symm)
            store given.1
          apply List.eq_nil_iff_forall_not_mem.mpr
          intro name member
          exact absurd ((leaves.2 here).2 isSpared name member) List.not_mem_nil
    apply holds_bind (holds_save (lasting.and (lasting_at found)) may)
    intro _
    exact holds_pure fun store here => ⟨⟨movedOf, reached⟩, here⟩

theorem holds_stored_fail {expectedStatus : RuntimeDeploymentStatus}
    (lasting : Lasting spared before) :
    (supervising names spec spared).Holds before
      (fail providerId deploymentId expectedStatus expectedRevision)
      (fun _ _ => True) := by
  have moves : (supervising names spec spared).Holds before
      (transition providerId deploymentId .failed expectedStatus
        expectedRevision) (fun _ _ => True) := by
    refine holds_weaken (holds_stored_transition lasting ?_ ?_) (fun _ given => given)
      (fun _ _ _ => trivial)
    · exact suits_of_going (by decide) (by decide)
    · intro isStopped
      cases isStopped
  apply holds_bind moves
  intro moved
  exact holds_weaken (holds_ask lasting_true) (fun _ _ => trivial) (fun _ _ post => post)

variable {deployment : RuntimeDeployment}

theorem holds_transition {input : RuntimeDeploymentReconcileInput} (lasting : Lasting spared before)
    (suits : Suits spec target) (drained : target = .stopped → deployment.status = .draining →
      ∀ store, before store → Leaves spared deployment.observedRevision [] store) :
    (supervising names spec spared).Holds before
      (RuntimeDeploymentReconciler.transition deployment target input)
      (fun moved store => (moved.Of spec ∧ moved.status = target) ∧ moved.At store) :=
  holds_cancellable (holds_stored_transition lasting suits drained) lasting
    (fun moved => (lasting_pure _).and (lasting_at moved))


/-- A step of the job leaves a copy of the deployment, and one that succeeds leaves the row. -/
def LeavesCopy (spec : RuntimeDeploymentSpec)
    (result : RuntimeDeployment × Except Failure Unit) (store : DeploymentStore) : Prop :=
  result.1.Of spec ∧ (result.2 = .ok () → result.1.At store)

theorem holds_left (ofSpec : deployment.Of spec) :
    (supervising names spec spared).Holds before
      (pure (deployment, .error failure) : DeploymentProgram (RuntimeDeployment × Except Failure Unit))
      (LeavesCopy spec) := by
  apply holds_pure
  intro store _
  refine ⟨ofSpec, ?_⟩
  intro isOk
  cases isOk

theorem holds_job_transition {status : RuntimeDeploymentStatus} (lasting : Lasting spared before)
    (ofSpec : deployment.Of spec) (notStopped : status ≠ .stopped)
    (notDraining : status ≠ .draining)
    (here : status = deployment.status → ∀ store, before store → deployment.At store) :
    (supervising names spec spared).Holds before
      (RuntimeDatabasePreparationJob.transition deployment status) (LeavesCopy spec) := by
  unfold RuntimeDatabasePreparationJob.transition
  cases accepted : deployment.transition status deployment.status deployment.observedRevision with
  | error failure => exact holds_left ofSpec
  | ok moved =>
    have movedOf : moved.Of spec := ofSpec.moves accepted fun _ => ⟨notStopped, notDraining⟩
    have may : ∀ store, before store →
        MaySave spec spared moved deployment.observedRevision store := by
      intro store given
      rcases RuntimeDeployment.transition_ok accepted with ⟨same, isFound, -⟩ |
        ⟨-, -, -, -, isMoved⟩
      · refine ⟨movedOf, ?_, ?_, ?_⟩
        · exact Nat.le_of_eq (by rw [isFound])
        · intro _ revision
          rw [isFound]
          exact ((here same store given).2 revision).symm
        · intro _ isStopped
          rw [isFound, ← same] at isStopped
          exact absurd isStopped notStopped
      · refine ⟨movedOf, ?_, ?_, ?_⟩
        · rw [isMoved]
          exact Nat.le_succ _
        · intro unchanged
          rw [isMoved] at unchanged
          exact absurd unchanged (Nat.succ_ne_self _)
        · intro _ isStopped
          rw [isMoved] at isStopped
          exact absurd isStopped notStopped
    apply holds_bind (holds_caught (holds_save lasting may))
    intro result
    cases result with
    | error failure => exact holds_left movedOf
    | ok saved =>
      cases saved with
      | true => exact holds_pure fun store post => ⟨movedOf, fun _ => post true rfl⟩
      | false => exact holds_left movedOf

theorem holds_prepareState (ofSpec : deployment.Of spec) :
    (supervising names spec spared).Holds deployment.At
      (prepareState deployment) (LeavesCopy spec) := by
  have provisioning (found : RuntimeDeployment) (foundOf : found.Of spec) :
      (supervising names spec spared).Holds found.At
        (if found.status = .requested then
            RuntimeDatabasePreparationJob.transition found .databaseProvisioning
          else if found.status ≠ .databaseProvisioning ∧ found.status ≠ .migrating then
            return (found, .error
              (preparationError "RUNTIME_DATABASE_STATE_CONFLICT"
                false))
          else return (found, .ok ()))
        (LeavesCopy spec) := by
    split
    · exact holds_job_transition (lasting_at found) foundOf (by decide) (by decide)
        fun _ _ here => here
    · split
      · exact holds_left foundOf
      · exact holds_pure fun store here => ⟨foundOf, fun _ => here⟩
  unfold prepareState
  by_cases failed : deployment.status = .failed
  · rw [if_pos failed]
    apply holds_bind (holds_job_transition (lasting_at deployment) ofSpec (by decide) (by decide)
      fun _ _ here => here)
    intro result
    obtain ⟨found, requested⟩ := result
    apply holds_given
    intro foundOf
    cases requested with
    | error failure => exact holds_left foundOf
    | ok done =>
      exact holds_weaken (provisioning found foundOf) (fun _ here => here rfl)
        (fun _ _ post => post)
  · rw [if_neg failed]
    exact provisioning deployment ofSpec

variable {checkpoint : RuntimeDatabasePreparationCheckpoint}

theorem calm_insertCheckpoint :
    Calm (exec (.insertCheckpoint checkpoint expectedRevision)) :=
  calls_exec trivial

theorem calm_getCheckpoint : Calm (exec .getCheckpoint) :=
  calls_exec trivial

theorem calm_caught (calm : Calm program) :
    Calm (caught program) := by
  apply calls_attempt
  · apply calls_bind calm
    intro value
    exact calls_pure _
  · intro failure
    exact calls_pure _

theorem calm_saveCheckpoint :
    Calm (saveCheckpoint checkpoint expectedRevision) := by
  unfold saveCheckpoint
  apply calls_ite
  · intro _
    exact calls_fail _
  · intro _
    apply calls_bind calm_insertCheckpoint
    intro inserted
    apply calls_ite
    · intro _
      exact calls_pure ()
    · intro _
      apply calls_bind calm_getCheckpoint
      intro replay
      exact calls_ite (fun _ => calls_fail _) (fun _ => calls_pure ())

theorem calm_runStep {step : RuntimeDatabasePreparationStep} {action : DeploymentProgram Unit}
    (calm : Calm action) :
    Calm (runStep checkpoint step action) := by
  unfold runStep
  apply calls_ite
  · intro _
    exact calls_pure _
  · intro _
    apply calls_bind calm
    intro _
    apply calls_bind calm_saveCheckpoint
    intro _
    exact calls_pure _

theorem calm_provision :
    Calm (provision deployment) := by
  have profiled : Calm (requireProfile deployment) := by
    apply calls_bind calm_ask
    intro answer
    cases answer with
    | none => exact calls_fail _
    | some profile =>
      exact calls_ite (fun _ => calls_fail _) (fun _ => calls_pure _)
  apply calls_bind calm_ask
  intro _
  apply calls_bind profiled
  intro profile
  apply calls_ite
  · intro _
    exact calls_fail _
  · intro _
    apply calls_bind calm_getCheckpoint
    intro found
    refine calls_bind (calm_runStep ?_) ?_
    · apply calls_bind calm_ask
      intro secretRef
      exact calls_ite (fun _ => calls_fail _) (fun _ => calls_pure _)
    · intro checkpoint
      apply calls_ite
      · intro _
        exact calls_pure _
      · intro _
        apply calls_bind (calm_runStep calm_ask)
        intro role
        apply calls_bind (calm_runStep calm_ask)
        intro database
        apply calls_bind (calm_runStep calm_ask)
        intro grant
        apply calls_bind (calm_runStep calm_ask)
        intro verify
        exact calls_pure _

theorem calm_migrate {profile : DatabaseProfile} :
    Calm (migrate profile checkpoint) := by
  apply calls_bind (calm_runStep calm_ask)
  intro _
  exact calls_pure _

theorem holds_prepare (ofSpec : deployment.Of spec) :
    (supervising names spec spared).Holds deployment.At
      (prepare deployment)
      (fun result _ => result.1.Of spec) := by
  apply holds_bind (holds_prepareState ofSpec)
  intro result
  obtain ⟨found, prepared⟩ := result
  apply holds_given
  intro foundOf
  cases prepared with
  | error failure => exact holds_pure fun _ _ => foundOf
  | ok done =>
    refine holds_weaken ?_ (fun _ here => here rfl) (fun _ _ post => post)
    apply holds_bind (holds_calm (calm_caught calm_provision) (lasting_at found))
    intro provisioned
    cases provisioned with
    | error failure => exact holds_pure fun _ _ => foundOf
    | ok ready =>
      obtain ⟨profile, checkpoint⟩ := ready
      apply holds_bind (holds_job_transition (lasting_at found) foundOf (by decide) (by decide)
        fun _ _ here => here)
      intro result
      obtain ⟨migrated, migrating⟩ := result
      apply holds_given
      intro migratedOf
      cases migrating with
      | error failure => exact holds_pure fun _ _ => migratedOf
      | ok done =>
        refine holds_weaken ?_ (fun _ here => here rfl) (fun _ _ post => post)
        apply holds_bind (holds_calm (calm_caught calm_migrate) (lasting_at migrated))
        intro ran
        cases ran with
        | error failure => exact holds_pure fun _ _ => migratedOf
        | ok done =>
          apply holds_bind (holds_job_transition (lasting_at migrated) migratedOf
            (by decide) (by decide) fun _ _ here => here)
          intro result
          obtain ⟨configured, configuring⟩ := result
          apply holds_given
          intro configuredOf
          cases configuring with
          | error failure => exact holds_pure fun _ _ => configuredOf
          | ok done =>
            apply holds_always
            apply holds_bind (holds_calm (calm_caught calm_ask) lasting_true)
            intro audited
            exact holds_pure fun _ _ => configuredOf

theorem holds_recordFailure (ofSpec : deployment.Of spec) :
    (supervising names spec spared).Holds (fun _ => True)
      (recordFailure deployment failure) (fun _ _ => True) := by
  have records : Calm (do
      let checkpoint ← attempt (exec .getCheckpoint) fun _ => return none
      let checkpoint := checkpoint.getD initialCheckpoint
      let _ ← caught (saveCheckpoint
        { checkpoint with
          revision := checkpoint.revision + 1
          lastErrorCode := errorCode failure }
        checkpoint.revision)
      let _ ← caught (ask (.audit "runtime_database_preparation.failed"))
      : DeploymentProgram Unit) := by
    refine calls_bind (calls_attempt calm_getCheckpoint ?_) ?_
    · intro _
      exact calls_pure _
    · intro checkpoint
      apply calls_bind (calm_caught calm_saveCheckpoint)
      intro _
      apply calls_bind (calm_caught calm_ask)
      intro _
      exact calls_pure ()
  unfold recordFailure
  split
  · rename_i unprepared
    have moves : (supervising names spec spared).Holds (fun _ => True)
        (RuntimeDatabasePreparationJob.transition deployment .failed) (fun _ _ => True) := by
      refine holds_weaken (holds_job_transition lasting_true ofSpec (by decide) (by decide) ?_)
        (fun _ given => given) (fun _ _ _ => trivial)
      intro same
      rw [← same] at unprepared
      exact absurd unprepared (by decide)
    exact holds_bind moves fun _ => holds_calm records lasting_true
  · exact holds_calm records lasting_true

theorem holds_execute {input : RuntimeDatabasePreparationInput} :
    (supervising names spec spared).Holds (fun _ => True)
      (RuntimeDatabasePreparationJob.execute input) (fun _ _ => True) := by
  have reads : (supervising names spec spared).Holds (fun _ => True)
      (RuntimeDatabasePreparationJob.requireDeployment input)
      (fun found store => found.Of spec ∧ found.At store) := by
    apply holds_bind (holds_get lasting_true)
    intro found
    cases found with
    | none => exact holds_fail
    | some copy => exact holds_pure fun store given => (given.2 copy rfl).2.2
  apply holds_bind reads
  intro found
  apply holds_given
  intro ofSpec
  split
  · exact holds_pure fun _ _ => trivial
  · apply holds_bind (holds_prepare ofSpec)
    intro result
    obtain ⟨last, prepared⟩ := result
    refine holds_weaken (holds_given ?_) (fun _ resultOf => ⟨resultOf, trivial⟩)
      (fun _ _ post => post)
    intro resultOf
    cases prepared with
    | ok done => exact holds_pure fun _ _ => trivial
    | error failure =>
      apply holds_bind (holds_recordFailure resultOf)
      intro _
      exact holds_fail

end Deployments

end SdarRuntime
