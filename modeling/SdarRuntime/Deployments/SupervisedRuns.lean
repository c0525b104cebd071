import SdarRuntime.Deployments.Stopping

/-!
Runs of the reconciler, commands and everything else keep the contract, and so does every run of
the system.
-/

namespace SdarRuntime

namespace Deployments

open RuntimeDeploymentReconciler CatalogRegistryPublicationPhase Program PostgresRuntimeReconcileStore RuntimeDeploymentApplicationService

variable {names : InstanceNames} {spec : RuntimeDeploymentSpec} {spared : Prop}

variable {deployment : RuntimeDeployment} {target : RuntimeDeploymentStatus}
variable {input : RuntimeDeploymentReconcileInput}

theorem holds_moves (suits : Suits spec target)
    (elsewhere : target = .stopped → deployment.status ≠ .draining) :
    (supervising names spec spared).Holds deployment.At
      (transition deployment target input)
      (fun moved store => (moved.Of spec ∧ moved.status = target) ∧ moved.At store) :=
  holds_transition (lasting_at deployment) suits
    fun isStopped draining => absurd draining (elsewhere isStopped)

theorem holds_goes (notStopped : target ≠ .stopped) (notDraining : target ≠ .draining) :
    (supervising names spec spared).Holds deployment.At
      (transition deployment target input)
      (fun moved store => moved.Of spec ∧ moved.At store) :=
  holds_weaken
    (holds_moves (suits_of_going notStopped notDraining) fun isStopped => absurd isStopped notStopped)
    (fun _ here => here) (fun _ _ post => ⟨post.1.1, post.2⟩)

theorem holds_reconcileStopped (ofSpec : deployment.Of spec)
    (platform : (requestRuntimeDeployment spec).runtimeAuthority ≠ .directContainer) :
    (supervising names spec spared).Holds deployment.At
      (reconcileStopped deployment input) (fun _ _ => True) := by
  have suits (target : RuntimeDeploymentStatus) : Suits spec target :=
    fun isDirect => absurd isDirect platform
  -- From a drain on: what runs is stopped, and only then is the row moved.
  have drains (drained : RuntimeDeployment) (drainedOf : drained.Of spec)
      (draining : drained.status = .draining) :
      (supervising names spec spared).Holds drained.At
        (if drained.runtimeAuthority = .directContainer then
            transition drained .stopped input
          else do
            let instances ← cancellable
              (listInstances input.providerId input.deploymentId)
            stopInstances drained input instances
            transition drained .stopped input)
        (fun _ _ => True) := by
    split
    · rename_i isDirect
      exact absurd (drainedOf.authority.symm.trans isDirect) platform
    · apply holds_bind (holds_cancellable holds_listInstances (lasting_at drained) ?_)
      · intro targets
        apply holds_given
        intro few
        refine holds_weaken ?_ (fun _ given => (given.2 platform).2 draining) (fun _ _ post => post)
        apply holds_bind (holds_stopInstances few)
        intro _
        refine holds_weaken (holds_transition (lasting_leaves _ _) (suits .stopped) ?_)
          (fun _ leaves => leaves) (fun _ _ _ => trivial)
        exact fun _ _ _ leaves => leaves
      · intro targets store after meanwhile given
        exact ⟨given.1, given.2.1.advances meanwhile.1,
          fun isPlatform => lasting_listed _ _ _ _ meanwhile (given.2.2 isPlatform)⟩
  unfold reconcileStopped
  split
  · exact holds_pure fun _ _ => trivial
  · split
    · rename_i early
      refine holds_weaken (holds_moves (suits .stopped) ?_) (fun _ here => here)
        (fun _ _ _ => trivial)
      intro _ draining
      rw [draining] at early
      rcases early with impossible | impossible
      · cases impossible
      · cases impossible
    · by_cases draining : deployment.status = .draining
      · rw [if_neg (not_not.mpr draining)]
        exact drains deployment ofSpec draining
      · rw [if_pos draining]
        apply holds_bind (holds_moves (suits .draining) fun impossible => nomatch impossible)
        intro drained
        apply holds_given
        rintro ⟨drainedOf, isDraining⟩
        exact drains drained drainedOf isDraining

def Leads (spec : RuntimeDeploymentSpec) (turn : Turn) (store : DeploymentStore) : Prop :=
  ∀ next, turn = .proceed next → next.Of spec ∧ next.At store

variable {before : DeploymentStore → Prop} {progressed : Bool}

theorem holds_finish {last : RuntimeDeployment} :
    (supervising names spec spared).Holds before
      (pure (.finish last progressed) : DeploymentProgram Turn) (Leads spec) := by
  apply holds_pure
  intro _ _ next isProceed
  cases isProceed

theorem holds_proceeds (notStopped : target ≠ .stopped) (notDraining : target ≠ .draining) :
    (supervising names spec spared).Holds deployment.At
      (do
        return .proceed (← transition deployment target input))
      (Leads spec) := by
  apply holds_bind (holds_goes notStopped notDraining)
  intro moved
  apply holds_pure
  intro store post next isProceed
  cases isProceed
  exact post

theorem holds_ends (notStopped : target ≠ .stopped) (notDraining : target ≠ .draining) :
    (supervising names spec spared).Holds deployment.At
      (do
        return .finish (← transition deployment target input) progressed)
      (Leads spec) := by
  apply holds_bind (holds_goes notStopped notDraining)
  intro moved
  exact holds_finish

theorem holds_required (lasting : Lasting spared before) :
    (supervising names spec spared).Holds before
      (requireDeployment input)
      (fun found store => found.Of spec ∧ found.At store) := by
  have gets : (supervising names spec spared).Holds before
      (PostgresRuntimeDeploymentRepository.get input.providerId input.deploymentId)
      (fun found store => ∀ copy, found = some copy → copy.Of spec ∧ copy.At store) :=
    holds_weaken (holds_get lasting) (fun _ given => given)
      (fun _ _ given copy isSome => (given.2 copy isSome).2.2)
  have lastingFound (found : Option RuntimeDeployment) : Lasting spared fun store =>
      ∀ copy, found = some copy → copy.Of spec ∧ copy.At store :=
    fun _ _ meanwhile given copy isSome =>
      ⟨(given copy isSome).1, (given copy isSome).2.advances meanwhile.1⟩
  apply holds_bind (holds_cancellable gets lasting lastingFound)
  intro found
  cases found with
  | none => exact holds_fail
  | some copy => exact holds_pure fun store given => given copy rfl

theorem holds_failing (lasting : Lasting spared before) :
    (supervising names spec spared).Holds before
      (fail deployment input) (fun _ _ => True) :=
  holds_cancellable (holds_stored_fail lasting) lasting fun _ => lasting_true

variable {target : RuntimeInfrastructureInstanceTarget}

theorem holds_verifyProviderIdentity {adapterEndpoint : String}
    {adapterTls : RuntimeReconcileAdapterTlsConfiguration} (lasting : Lasting spared before) :
    (supervising names spec spared).Holds before
      (verifyProviderIdentity deployment target adapterEndpoint
        adapterTls input)
      (fun outcome store => (∀ failed, outcome ≠ .mismatch failed) → before store) := by
  apply holds_bind (holds_calm (calm_cancellable calm_ask) lasting)
  intro verification
  cases verification with
  | verified => exact holds_pure fun store given _ => given
  | unavailable => exact holds_pure fun store given _ => given
  | mismatch =>
    apply holds_bind (holds_failing lasting)
    intro _
    apply holds_bind (holds_required lasting_true)
    intro failed
    exact holds_pure fun store _ matches' => absurd rfl (matches' failed)

theorem holds_reconcileProviderIdentity {ensured : RuntimeReconcileInstance}
    (lasting : Lasting spared before) :
    (supervising names spec spared).Holds before
      (reconcileProviderIdentity deployment ensured input)
      (fun outcome store => (∀ failed, outcome ≠ .mismatch failed) → before store) := by
  unfold reconcileProviderIdentity
  cases requireAdapterEndpoint ensured.effectiveConfig with
  | error failure => exact holds_fail
  | ok adapterEndpoint =>
    cases requireAdapterTlsConfiguration ensured.effectiveConfig with
    | error failure => exact holds_fail
    | ok adapterTls => exact holds_verifyProviderIdentity lasting

theorem holds_reconcileDirectProviderIdentity {direct : RuntimeReconcileDirectInstance}
    (lasting : Lasting spared before) :
    (supervising names spec spared).Holds before
      (reconcileDirectProviderIdentity deployment direct input)
      (fun outcome store => (∀ failed, outcome ≠ .mismatch failed) → before store) := by
  unfold reconcileDirectProviderIdentity
  cases deployment.adapterEndpoint with
  | none => exact holds_fail
  | some adapterEndpoint => exact holds_verifyProviderIdentity lasting

variable {check : DeploymentProgram RuntimeDeploymentReconciler.ProviderIdentityOutcome}

/-- A turn that checks the identity: what it does where the identity is that of the provider, and
where it is not known. -/
theorem holds_identified {verified unavailable : DeploymentProgram Turn}
    (checks : (supervising names spec spared).Holds before check
      (fun outcome store => (∀ failed, outcome ≠ .mismatch failed) → before store))
    (goesOn : (supervising names spec spared).Holds before verified (Leads spec))
    (waits : (supervising names spec spared).Holds before unavailable (Leads spec)) :
    (supervising names spec spared).Holds before
      (do
        match ← check with
        | .mismatch failed => return .finish failed true
        | .unavailable => unavailable
        | .verified => verified)
      (Leads spec) := by
  apply holds_bind checks
  intro outcome
  cases outcome with
  | mismatch failed => exact holds_finish
  | unavailable =>
    exact holds_weaken waits (fun _ given => given fun _ impossible => nomatch impossible)
      (fun _ _ post => post)
  | verified =>
    exact holds_weaken goesOn (fun _ given => given fun _ impossible => nomatch impossible)
      (fun _ _ post => post)

theorem holds_degrade :
    (supervising names spec spared).Holds deployment.At
      (degrade deployment progressed input) (Leads spec) := by
  unfold degrade
  split
  · exact holds_ends (by decide) (by decide)
  · exact holds_finish

variable {probe : DeploymentProgram RuntimeReconcileHealthResult}
variable {record : RuntimeReconcileHealthResult → DeploymentProgram Unit}

/-- A look at the health of what should run, and at its identity where it is well. -/
theorem holds_watches {verified : DeploymentProgram Turn} (calmProbe : Calm probe)
    (calmRecord : ∀ result, Calm (record result))
    (checks : (supervising names spec spared).Holds deployment.At check
      (fun outcome store => (∀ failed, outcome ≠ .mismatch failed) → deployment.At store))
    (goesOn : (supervising names spec spared).Holds deployment.At verified (Leads spec)) :
    (supervising names spec spared).Holds deployment.At
      (do
        let result ← probe
        record result
        if isHealthy result = false then
          degrade deployment progressed input
        else
          match ← check with
          | .mismatch failed => return .finish failed true
          | .unavailable => degrade deployment progressed input
          | .verified => verified)
      (Leads spec) := by
  apply holds_bind (holds_calm calmProbe (lasting_at deployment))
  intro result
  apply holds_bind (holds_calm (calmRecord result) (lasting_at deployment))
  intro _
  split
  · exact holds_degrade
  · exact holds_identified checks goesOn holds_degrade

theorem holds_probes (calmProbe : Calm probe) (calmRecord : ∀ result, Calm (record result)) :
    (supervising names spec spared).Holds deployment.At
      (do
        let result ← probe
        record result
        let target := if isHealthy result then .discovering else .degraded
        return .finish (← transition deployment target input) true)
      (Leads spec) := by
  apply holds_bind (holds_calm calmProbe (lasting_at deployment))
  intro result
  apply holds_bind (holds_calm (calmRecord result) (lasting_at deployment))
  intro _
  cases isHealthy result
  · exact holds_ends (by decide) (by decide)
  · exact holds_ends (by decide) (by decide)

theorem holds_recovers :
    (supervising names spec spared).Holds deployment.At
      (if deployment.status = .degraded then do
          return .finish (← transition deployment .discovering input)
            true
        else return .finish deployment progressed)
      (Leads spec) := by
  split
  · exact holds_ends (by decide) (by decide)
  · exact holds_finish

variable {α : Type}

theorem calm_asked {call : DeploymentCall α} :
    Calm (cancellable (ask call) : DeploymentProgram α) :=
  calm_cancellable calm_ask

theorem holds_ensured :
    (supervising names spec spared).Holds deployment.At
      (cancellable (ensureInstance deployment 0))
      (fun ensured store => ensured.target.processName = (firstInstance names spec).pm2Name ∧
        deployment.At store ∧ Allocated names spec store) :=
  holds_cancellable (holds_ensureInstance (lasting_at deployment)) (lasting_at deployment)
    fun _ => (lasting_pure _).and ((lasting_at deployment).and lasting_allocated)

theorem lasting_allocatedAt (deployment : RuntimeDeployment) :
    Lasting spared fun store => deployment.At store ∧ Allocated names spec store :=
  (lasting_at deployment).and lasting_allocated

theorem holds_started {context : RuntimeInfrastructureOperationContext}
    (isFirst : target.processName = (firstInstance names spec).pm2Name) :
    (supervising names spec spared).Holds
      (fun store => deployment.At store ∧ Allocated names spec store)
      (cancellable (RuntimeLifecycleManager.run .start target context))
      (fun _ => deployment.At) :=
  holds_cancellable (holds_start isFirst) (lasting_allocatedAt deployment)
    fun _ => lasting_at deployment

theorem holds_reconcileManaged :
    (supervising names spec spared).Holds deployment.At
      (reconcileManaged deployment progressed input) (Leads spec) := by
  have prepares : (supervising names spec spared).Holds deployment.At
      (do
        let _ ← cancellable (RuntimeDatabasePreparationJob.execute
          { providerId := input.providerId
            deploymentId := input.deploymentId })
        return Turn.proceed (← requireDeployment input))
      (Leads spec) := by
    apply holds_always
    apply holds_bind (holds_cancellable holds_execute lasting_true fun _ => lasting_true)
    intro _
    apply holds_bind (holds_required lasting_true)
    intro found
    apply holds_pure
    intro store post next isProceed
    cases isProceed
    exact post
  have atOnly {store : DeploymentStore}
      (given : deployment.At store ∧ Allocated names spec store) : deployment.At store := given.1
  unfold reconcileManaged
  split
  case h_1 | h_2 | h_3 | h_4 => exact prepares
  case h_5 =>
    apply holds_bind holds_ensured
    intro ensured
    apply holds_given
    intro _
    exact holds_weaken (holds_proceeds (by decide) (by decide)) (fun _ given => given.1)
      (fun _ _ post => post)
  case h_6 =>
    apply holds_bind holds_ensured
    intro ensured
    apply holds_given
    intro isFirst
    apply holds_identified (holds_reconcileProviderIdentity (lasting_allocatedAt deployment))
    · apply holds_bind (holds_started isFirst)
      intro _
      exact holds_proceeds (by decide) (by decide)
    · exact holds_finish
  case h_7 =>
    apply holds_bind holds_ensured
    intro ensured
    apply holds_given
    intro _
    refine holds_weaken ?_ (fun _ => atOnly) (fun _ _ post => post)
    apply holds_identified (holds_reconcileProviderIdentity (lasting_at deployment))
    · exact holds_probes calm_asked fun _ => calm_asked
    · exact holds_ends (by decide) (by decide)
  case h_8 | h_9 =>
    apply holds_bind holds_ensured
    intro ensured
    apply holds_given
    intro isFirst
    apply holds_bind (holds_started isFirst)
    intro _
    exact holds_watches calm_asked (fun _ => calm_asked)
      (holds_reconcileProviderIdentity (lasting_at deployment)) holds_recovers
  case h_10 =>
    apply holds_bind holds_ensured
    intro ensured
    apply holds_given
    intro _
    refine holds_weaken ?_ (fun _ => atOnly) (fun _ _ post => post)
    apply holds_identified (holds_reconcileProviderIdentity (lasting_at deployment))
    · exact holds_finish
    · exact holds_ends (by decide) (by decide)
  case h_11 => exact holds_proceeds (by decide) (by decide)
  case h_12 => exact holds_finish

theorem holds_requireDirect :
    (supervising names spec spared).Holds deployment.At
      (requireDirectInstance deployment)
      (fun _ => deployment.At) :=
  holds_calm (calm_cancellable calm_getDirectInstance) (lasting_at deployment)

theorem holds_reconcileDirect :
    (supervising names spec spared).Holds deployment.At
      (reconcileDirect deployment progressed input) (Leads spec) := by
  unfold reconcileDirect
  split
  case h_1 | h_2 =>
    apply holds_bind holds_requireDirect
    intro _
    exact holds_proceeds (by decide) (by decide)
  case h_3 =>
    apply holds_bind holds_requireDirect
    intro direct
    split
    · exact holds_finish
    · exact holds_proceeds (by decide) (by decide)
  case h_4 =>
    apply holds_bind holds_requireDirect
    intro direct
    split
    · exact holds_ends (by decide) (by decide)
    · apply holds_identified (holds_reconcileDirectProviderIdentity (lasting_at deployment))
      · exact holds_probes calm_asked fun _ => calm_asked
      · exact holds_ends (by decide) (by decide)
  case h_5 | h_6 =>
    apply holds_bind holds_requireDirect
    intro direct
    by_cases away : isRegistered direct = false
    · rw [if_pos away]
      exact holds_degrade
    · rw [if_neg away]
      exact holds_watches calm_asked (fun _ => calm_asked)
        (holds_reconcileDirectProviderIdentity (lasting_at deployment)) holds_recovers
  case h_7 =>
    apply holds_bind holds_requireDirect
    intro direct
    split
    · exact holds_ends (by decide) (by decide)
    · apply holds_identified (holds_reconcileDirectProviderIdentity (lasting_at deployment))
      · exact holds_finish
      · exact holds_ends (by decide) (by decide)
  case h_8 => exact holds_proceeds (by decide) (by decide)
  case h_9 | h_10 => exact holds_finish
  case h_11 | h_12 => exact holds_fail


variable {authority : RuntimeDeploymentAuthority} {orphans : List String}

theorem holds_reconcileLoop (steps : Nat) (progressed : Bool) (ofSpec : deployment.Of spec) :
    (supervising names spec spared).Holds deployment.At
      (reconcileLoop authority input orphans steps deployment progressed)
      (fun _ _ => True) := by
  induction steps generalizing deployment progressed with
  | zero => exact holds_fail
  | succ steps ih =>
    unfold reconcileLoop
    apply holds_bind (holds_checkpoint (lasting_at deployment))
    intro _
    split
    · exact holds_fail
    · split
      · rename_i unwanted
        have platform : (requestRuntimeDeployment spec).runtimeAuthority ≠ .directContainer := by
          intro isDirect
          exact unwanted (ofSpec.direct (ofSpec.authority.trans isDirect)).1
        apply holds_bind (holds_reconcileStopped ofSpec platform)
        intro result
        exact holds_pure fun _ _ => trivial
      · refine holds_bind
          (?turns : (supervising names spec spared).Holds deployment.At _ (Leads spec)) ?_
        case turns =>
          cases authority with
          | platformManaged => exact holds_reconcileManaged
          | directContainer => exact holds_reconcileDirect
        intro turn
        cases turn with
        | finish last progressed => exact holds_pure fun _ _ => trivial
        | proceed next =>
          exact holds_weaken (holds_given fun nextOf => ih true nextOf)
            (fun _ leads => leads next rfl) (fun _ _ post => post)

theorem holds_mapAndRecordFailure {failure : Failure} :
    (supervising names spec spared).Holds (fun _ => True)
      (mapAndRecordFailure failure input) (fun _ _ => True) := by
  apply holds_bind (holds_ask lasting_true)
  intro aborted
  split
  · exact holds_pure fun _ _ => trivial
  · have reads : (supervising names spec spared).Holds (fun _ => True)
        (attempt (cancellable
            (PostgresRuntimeDeploymentRepository.get input.providerId input.deploymentId))
          fun _ => do
            checkpoint
            return none)
        (fun _ _ => True) := by
      apply holds_attempt
      · exact holds_cancellable
          (holds_weaken (holds_get lasting_true) (fun _ given => given) (fun _ _ _ => trivial))
          lasting_true fun _ => lasting_true
      · intro _
        apply holds_bind (holds_checkpoint lasting_true)
        intro _
        exact holds_pure fun _ _ => trivial
    apply holds_bind reads
    intro current
    cases current with
    | none => exact holds_pure fun _ _ => trivial
    | some current =>
      dsimp only
      by_cases can : canFail current.status = true
      · have fails : (supervising names spec spared).Holds (fun _ => True)
            (attempt (fail current input) fun _ => checkpoint)
            (fun _ _ => True) :=
          holds_attempt (holds_failing lasting_true) fun _ => holds_checkpoint lasting_true
        rw [if_pos can]
        apply holds_bind fails
        intro _
        exact holds_pure fun _ _ => trivial
      · rw [if_neg can]
        exact holds_pure fun _ _ => trivial

theorem holds_reconcileWith (ofSpec : deployment.Of spec) :
    (supervising names spec spared).Holds deployment.At
      (reconcileWith authority deployment orphans input)
      (fun _ _ => True) := by
  apply holds_attempt (holds_reconcileLoop 12 false ofSpec)
  intro failure
  apply holds_bind holds_mapAndRecordFailure
  intro _
  exact holds_fail

theorem holds_detectOrphans :
    (supervising names spec spared).Holds deployment.At
      (detectOrphans input) (fun _ => deployment.At) := by
  have lists : (supervising names spec spared).Holds deployment.At
      (do
        let known ← listInstances input.providerId input.deploymentId
        let observed ← ask .inventory
        return (known, observed))
      (fun _ => deployment.At) := by
    apply holds_bind
      (holds_weaken holds_listInstances (fun _ here => here) (fun _ _ given => given.2.1))
    intro known
    apply holds_bind (holds_ask (lasting_at deployment))
    intro observed
    exact holds_pure fun _ here => here
  apply holds_bind (holds_cancellable lists (lasting_at deployment) fun _ => lasting_at deployment)
  rintro ⟨known, observed⟩
  refine holds_calm ?_ (lasting_at deployment)
  apply calls_ite
  · intro _
    apply calls_bind calm_asked
    intro _
    exact calls_pure _
  · intro _
    exact calls_pure _

theorem holds_reconcile :
    (supervising names spec spared).Holds (fun _ => True)
      (reconcile input) (fun _ _ => True) := by
  apply holds_bind (holds_checkpoint lasting_true)
  intro _
  apply holds_bind (holds_required lasting_true)
  intro deployment
  apply holds_given
  intro ofSpec
  split
  · exact holds_reconcileWith ofSpec
  · apply holds_bind (holds_attempt holds_detectOrphans fun _ => holds_fail)
    intro orphans
    exact holds_reconcileWith ofSpec


theorem calm_ensureInstance :
    Calm (ensureInstance deployment 0) := by
  apply calls_ite
  · intro _
    exact calls_fail _
  · intro _
    have allocates : Calm (exec
        (.allocate deployment.providerId deployment.deploymentId 0)) := calls_exec rfl
    apply calls_bind allocates
    intro process
    apply calls_bind calm_ask
    intro content
    exact calls_pure _

theorem calm_recordCatalogState {state : CatalogState} :
    Calm (recordCatalogState deployment state) := by
  apply calls_ite
  · intro _
    apply calls_bind calm_ensureInstance
    intro _
    exact calm_ask
  · intro _
    exact calm_ask

theorem calm_resolve :
    Calm (resolve deployment) := by
  have targets : Calm (runtimeControlTarget deployment) := by
    apply calls_ite
    · intro _
      apply calls_bind calm_getDirectInstance
      intro _
      exact calls_pure _
    · intro _
      apply calls_bind calm_ensureInstance
      intro _
      exact calls_pure _
  apply calls_bind targets
  intro target
  exact calm_ask

variable {reasonCode : String}

theorem holds_failed {after : α → DeploymentStore → Prop} :
    (supervising names spec spared).Holds (fun _ => True)
      (failed deployment reasonCode) after := by
  apply holds_bind (holds_stored_fail lasting_true)
  intro _
  apply holds_bind (holds_requireDeployment lasting_true)
  intro _
  exact holds_fail

theorem holds_published {step : DeploymentProgram Unit} {next : Unit → DeploymentProgram α}
    {handler : Failure → DeploymentProgram Unit} (calm : Calm step)
    (fails : ∀ failure, handler failure =
        failed deployment reasonCode ∨
      handler failure = (do
        recordInvalidCatalog deployment
        failed deployment reasonCode))
    (goesOn : (supervising names spec spared).Holds (fun _ => True) (next ()) fun _ _ => True) :
    (supervising names spec spared).Holds (fun _ => True)
      (attempt step handler >>= next) fun _ _ => True := by
  have stepped : (supervising names spec spared).Holds (fun _ => True)
      (attempt step handler) (fun _ _ => True) := by
    apply holds_attempt (holds_calm calm lasting_true)
    intro failure
    rcases fails failure with same | same
    · rw [same]
      exact holds_failed
    · rw [same]
      apply holds_bind (holds_calm (calls_bind (calm_caught calm_recordCatalogState)
        fun _ => calls_pure ()) lasting_true)
      intro _
      exact holds_failed
  apply holds_bind stepped
  intro _
  exact goesOn

theorem holds_close :
    (supervising names spec spared).Holds (fun _ => True)
      (close deployment) (fun _ _ => True) := by
  unfold close
  split
  · exact holds_fail
  · apply holds_published calm_recordCatalogState fun _ => .inl rfl
    apply holds_published calm_resolve fun _ => .inl rfl
    apply holds_published calm_ask fun _ => .inr rfl
    apply holds_published calm_ask fun _ => .inr rfl
    apply holds_published calm_recordCatalogState fun _ => .inl rfl
    apply holds_published calm_ask fun _ => .inl rfl
    apply holds_published calm_ask fun _ => .inl rfl
    exact holds_weaken
      (holds_stored_transition lasting_true (suits_of_going (by decide) (by decide))
        fun impossible => nomatch impossible)
      (fun _ given => given) (fun _ _ _ => trivial)

theorem holds_decorated :
    (supervising names spec spared).Holds (fun _ => True)
      (CatalogRegistryReconcileDecorator.reconcile input) (fun _ _ => True) := by
  apply holds_bind holds_reconcile
  intro result
  split
  · exact holds_pure fun _ _ => trivial
  · apply holds_bind holds_close
    intro active
    exact holds_pure fun _ _ => trivial

variable {state : RuntimeDeploymentDesiredState}

theorem commandDesiredState_reconcile {command : RuntimeDeploymentCommandType} {replicas : Nat}
    (asks : commandDesiredState command =
      .ok (some (state, replicas))) : command ≠ .reconcile := by
  intro isReconcile
  rw [isReconcile] at asks
  cases asks

theorem maySave_changed {copy changed : RuntimeDeployment} {replicas expectedRevision : Nat}
    {store : DeploymentStore} (ofSpec : copy.Of spec)
    (platform : copy.runtimeAuthority ≠ .directContainer)
    (accepted : copy.changeDesiredState state replicas expectedRevision = .ok (some changed))
    (here : copy.At store) : MaySave spec spared changed copy.observedRevision store := by
  rw [RuntimeDeployment.changeDesiredState_ok accepted]
  refine ⟨?_, Nat.le_refl _, ?_, ?_⟩
  · exact { ofSpec with direct := fun isDirect => absurd isDirect platform }
  · intro _ same
    exact (here.2 same).symm
  · intro _ isStopped same draining
    rw [here.2 same] at draining
    exact absurd (draining.symm.trans isStopped) (by decide)

theorem holds_command {input : RuntimeDeploymentCommandInput} :
    (supervising names spec spared).Holds (fun _ => True)
      (command input) (fun _ _ => True) := by
  have unchanged (copy : RuntimeDeployment) : (supervising names spec spared).Holds copy.At
      (if input.expectedDesiredRevision ≠ copy.desiredRevision then
        .fail (unavailable
          "RUNTIME_DEPLOYMENT_REVISION_CONFLICT")
      else return copy)
      (fun _ _ => True) := by
    split
    · exact holds_fail
    · exact holds_pure fun _ _ => trivial
  apply holds_bind (holds_get lasting_true)
  intro found
  cases found with
  | none => exact holds_fail
  | some copy =>
    have copied (store : DeploymentStore) (given : True ∧ ∀ found, some copy = some found →
        found.providerId = input.providerId ∧ found.deploymentId = input.deploymentId ∧
          found.Of spec ∧ found.At store) : copy.Of spec ∧ copy.At store :=
      (given.2 copy rfl).2.2
    refine holds_weaken (holds_given ?_) copied (fun _ _ post => post)
    intro ofSpec
    dsimp only
    split
    · exact holds_fail
    · rename_i supported
      apply holds_ofExcept
      intro wanted asks
      cases wanted with
      | none => exact unchanged copy
      | some wanted =>
        obtain ⟨state, replicas⟩ := wanted
        apply holds_ofExcept
        intro result accepted
        cases result with
        | none => exact unchanged copy
        | some changed =>
          have platform : copy.runtimeAuthority ≠ .directContainer :=
            fun isDirect => supported ⟨isDirect, commandDesiredState_reconcile asks⟩
          apply holds_bind (holds_save (lasting_at copy)
            fun store here => maySave_changed ofSpec platform accepted here)
          intro _
          exact holds_pure fun _ _ => trivial

theorem holds_program (entry : DeploymentEntry) :
    (supervising names spec spared).Holds (fun _ => True) entry.program (fun _ _ => True) := by
  cases entry with
  | command input =>
    apply holds_bind holds_command
    intro _
    exact holds_pure fun _ _ => trivial
  | reconcile input =>
    apply holds_bind holds_decorated
    intro _
    exact holds_pure fun _ _ => trivial
  | carryOut operation =>
    apply holds_exec lasting_true
    intro store _ supervised
    exact ⟨trivial, fun _ _ => trivial⟩

theorem supervised_created : Supervised names spec spared (created spec).store where
  row := request_of spec
  instances := .inl rfl
  known := by
    intro name present
    rcases present with member | member
    · cases member
    · cases member
  completed := by
    intro _ key member
    cases member
  stopped := fun _ _ => rfl

theorem supervised_run (labels : List DeploymentLabel)
    (spares : System.Throughout (machine names) DeploymentEntry.program
      (System.OnCommit fun executed store => spared → Spares executed store) (created spec)
      labels) :
    Supervised names spec spared (run names spec labels).store := by
  have starts (entry : DeploymentEntry) (store : DeploymentStore)
      (_ : Supervised names spec spared store) :
      (supervision names spec spared).Sat (machine names) entry.program (fun _ _ => True) store :=
    (holds_program entry store trivial).mono fun _ _ _ => trivial
  have initial : System.Satisfies (supervision names spec spared) (machine names) (created spec) :=
    ⟨supervised_created, fun thread member => nomatch member⟩
  have satisfied := System.run_induction
    (P := System.Satisfies (supervision names spec spared) (machine names))
    (fun system label satisfies condition =>
      System.step_satisfies supervision_keeps starts system label satisfies condition)
    initial labels spares
  exact satisfied.invariant

end Deployments

end SdarRuntime
