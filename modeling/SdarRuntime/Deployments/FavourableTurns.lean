import SdarRuntime.Deployments.FavourableCalls

/-!
The turns of the loop of a run that nothing disturbs, for either authority: each brings a
deployment that is wanted running nearer to the end of the run, or is the last.
-/

namespace SdarRuntime

namespace Deployments

open RuntimeDeploymentReconciler Program

variable {names : InstanceNames} {store : DeploymentStore}

variable {input : RuntimeDeploymentReconcileInput}

theorem undisturbed_requireDeployment (named : store.Names input.providerId input.deploymentId) :
    Undisturbed names (requireDeployment input)
      (fun found after => found = store.deployment ∧ after = store) store := by
  refine succeeds_bind (undisturbed_cancellable (undisturbed_get named)) ?_
  intro found after given
  rw [given.1]
  exact ⟨rfl, given.2⟩

variable {deployment : RuntimeDeployment} {target : RuntimeInfrastructureInstanceTarget}

theorem undisturbed_verifyProviderIdentity {adapterEndpoint : String}
    {adapterTls : RuntimeReconcileAdapterTlsConfiguration} :
    Undisturbed names (verifyProviderIdentity deployment target
        adapterEndpoint adapterTls input)
      (fun outcome after => outcome = .verified ∧ after = store) store := by
  refine succeeds_bind (undisturbed_cancellable (undisturbed_ask _)) ?_
  intro verification after given
  rw [show verification = .verified from given.1, given.2]
  exact ⟨rfl, rfl⟩

variable {ensured : RuntimeReconcileInstance}

theorem undisturbed_reconcileProviderIdentity (configured : Configured ensured.effectiveConfig) :
    Undisturbed names
      (reconcileProviderIdentity deployment ensured input)
      (fun outcome after => outcome = .verified ∧ after = store) store := by
  obtain ⟨⟨endpoint, hasEndpoint⟩, adapterTls, hasTls⟩ := configured
  refine succeeds_bind (undisturbed_ofExcept hasEndpoint) ?_
  intro given first isGiven
  rw [isGiven.2]
  refine succeeds_bind (undisturbed_ofExcept hasTls) ?_
  intro other second isOther
  rw [isOther.2]
  exact undisturbed_verifyProviderIdentity

/-- How many turns a status is from one at which a run ends, wanted running. -/
def turnsFrom : RuntimeDeploymentStatus → Nat
  | .discovering | .active | .degraded | .healthChecking => 0
  | .starting => 1
  | .configPreparing => 2
  | .requested | .databaseProvisioning | .migrating => 3
  | .failed | .stopped => 4
  | .draining => 0

/-- What an undisturbed turn comes to: nearer to the end, or the end. -/
def Advanced (names : InstanceNames) (store : DeploymentStore) (turn : Turn)
    (after : DeploymentStore) : Prop :=
  (∃ status, Reaches names store status after) ∧
    match turn with
    | .proceed next =>
      next = after.deployment ∧
        turnsFrom next.status < turnsFrom store.deployment.status ∧ next.status ≠ .draining
    | .finish _ _ =>
      after.deployment.status = .discovering ∨ after.deployment.status = .active

variable {status : RuntimeDeploymentStatus} {after : DeploymentStore}

theorem advanced_of_reaches (reaches : Reaches names store status after)
    (nearer : turnsFrom status < turnsFrom store.deployment.status) (goesOn : status ≠ .draining) :
    Advanced names store (.proceed after.deployment) after := by
  refine ⟨⟨status, reaches⟩, rfl, ?_, ?_⟩
  · rw [reaches.status]
    exact nearer
  · rw [reaches.status]
    exact goesOn

theorem undisturbed_proceed (sound : store.Sound names)
    (named : store.Names input.providerId input.deploymentId) (allowed : status ∈
      allowedTransitions store.deployment.status store.deployment.runtimeAuthority)
    (admits : store.Admits status) (nearer : turnsFrom status < turnsFrom store.deployment.status)
    (goesOn : status ≠ .draining) :
    Undisturbed names
      (do
        let moved ← transition store.deployment status input
        return Turn.proceed moved)
      (Advanced names store) store := by
  have other : status ≠ store.deployment.status := by
    intro same
    rw [same] at nearer
    exact Nat.lt_irrefl _ nearer
  refine succeeds_bind (undisturbed_transition sound named other allowed admits) ?_
  intro moved after given
  rw [given.1]
  exact advanced_of_reaches given.2 nearer goesOn

theorem undisturbed_finish (sound : store.Sound names)
    (named : store.Names input.providerId input.deploymentId) (allowed : .discovering ∈
      allowedTransitions store.deployment.status store.deployment.runtimeAuthority)
    (other : .discovering ≠ store.deployment.status) :
    Undisturbed names
      (do
        let moved ← transition store.deployment .discovering input
        return Turn.finish moved true)
      (Advanced names store) store := by
  have admits : store.Admits .discovering := fun _ => by decide
  refine succeeds_bind (undisturbed_transition sound named other allowed admits) ?_
  intro moved after given
  exact ⟨⟨_, given.2⟩, .inl given.2.status⟩

variable {turn : Turn}

theorem Keeps.advanced {before after : DeploymentStore} (keeps : Keeps names before store)
    (advanced : Advanced names store turn after) :
    Advanced names before turn after := by
  obtain ⟨⟨status, reaches⟩, comes⟩ := advanced
  refine ⟨⟨status, keeps.reaches.trans reaches⟩, ?_⟩
  cases turn with
  | proceed next =>
    rw [← keeps.1]
    exact comes
  | finish last progressed => exact comes

theorem undisturbed_then {α : Type} {first : DeploymentProgram α}
    {rest : α → DeploymentProgram Turn} {Given : α → Prop}
    (keepsFirst : Undisturbed names first
      (fun value after => Given value ∧ Keeps names store after) store)
    (goesOn : ∀ value after, Given value → Keeps names store after →
      Undisturbed names (rest value) (Advanced names after) after) :
    Undisturbed names (first >>= rest) (Advanced names store) store := by
  refine succeeds_bind keepsFirst ?_
  intro value after given
  refine (goesOn value after given.1 given.2).mono ?_
  intro turn last advanced
  exact given.2.advanced advanced


theorem keeps_given {α : Type} {program : DeploymentProgram α} {Given : α → Prop}
    (sound : store.Sound names)
    (succeeds : Undisturbed names program (fun value after => Given value ∧ after = store) store) :
    Undisturbed names (cancellable program)
      (fun value after => Given value ∧ Keeps names store after) store := by
  refine (undisturbed_cancellable succeeds).mono ?_
  intro value after given
  refine ⟨given.1, ?_⟩
  rw [given.2]
  exact keeps_of_same sound rfl rfl

theorem undisturbed_ensured (sound : store.Sound names)
    (managed : store.deployment.runtimeAuthority = .platformManaged) :
    Undisturbed names
      (cancellable (PostgresRuntimeReconcileStore.ensureInstance store.deployment 0))
      (fun ensured after => Configured ensured.effectiveConfig ∧ Keeps names store after) store :=
  undisturbed_cancellable (undisturbed_ensureInstance sound managed)

theorem undisturbed_identity (sound : store.Sound names)
    (configured : Configured ensured.effectiveConfig) :
    Undisturbed names
      (reconcileProviderIdentity store.deployment ensured input)
      (fun outcome after => outcome = .verified ∧ Keeps names store after) store := by
  refine (undisturbed_reconcileProviderIdentity configured).mono ?_
  intro outcome after given
  refine ⟨given.1, ?_⟩
  rw [given.2]
  exact keeps_of_same sound rfl rfl

theorem undisturbed_started {context : RuntimeInfrastructureOperationContext}
    (sound : store.Sound names) :
    Undisturbed names (cancellable (RuntimeLifecycleManager.run .start target context))
      (fun _ after => True ∧ Keeps names store after) store :=
  undisturbed_cancellable
    ((undisturbed_lifecycle sound).mono fun _ _ keeps => ⟨trivial, keeps⟩)

theorem undisturbed_probed (sound : store.Sound names) :
    Undisturbed names (cancellable (ask (.probe target)))
      (fun result after => isHealthy result = true ∧ Keeps names store after) store :=
  keeps_given sound (undisturbed_ask (.probe target))

theorem undisturbed_recorded {result : RuntimeReconcileHealthResult} (sound : store.Sound names) :
    Undisturbed names (cancellable (ask (.recordHealth target result)))
      (fun _ after => True ∧ Keeps names store after) store :=
  keeps_given sound (undisturbed_ask_unit.mono fun _ _ same => ⟨trivial, same⟩)

theorem Keeps.managed (keeps : Keeps names store after)
    (managed : store.deployment.runtimeAuthority = .platformManaged) :
    after.deployment.runtimeAuthority = .platformManaged := by
  rw [keeps.1, managed]

theorem Keeps.named {providerId deploymentId : String} (keeps : Keeps names store after)
    (named : store.Names providerId deploymentId) :
    after.Names providerId deploymentId := by
  unfold DeploymentStore.Names
  rw [keeps.1]
  exact named

variable {progressed : Bool}

theorem finished_of_status {last : RuntimeDeployment} (keeps : Keeps names store after)
    (finishes : turn = .finish last progressed)
    (here : store.deployment.status = .discovering ∨ store.deployment.status = .active) :
    Advanced names store turn after := by
  rw [finishes]
  refine ⟨⟨_, keeps.reaches⟩, ?_⟩
  dsimp only
  rw [keeps.1]
  exact here

theorem undisturbed_prepared (sound : store.Sound names)
    (managed : store.deployment.runtimeAuthority = .platformManaged)
    (named : store.Names input.providerId input.deploymentId)
    (unprepared : Unprepared store.deployment.status) :
    Undisturbed names
      (reconcileManaged store.deployment progressed input)
      (Advanced names store) store := by
  have body : Undisturbed names
      (do
        let _ ← cancellable (RuntimeDatabasePreparationJob.execute
          { providerId := input.providerId
            deploymentId := input.deploymentId })
        let next ← requireDeployment input
        return Turn.proceed next)
      (Advanced names store) store := by
    refine succeeds_bind (undisturbed_cancellable
      (undisturbed_execute sound managed named unprepared)) ?_
    intro _ prepared reaches
    have namedThen : prepared.Names input.providerId input.deploymentId :=
      ⟨reaches.providerId.trans named.1, reaches.deploymentId.trans named.2⟩
    refine succeeds_bind (undisturbed_requireDeployment namedThen) ?_
    intro next after given
    rw [given.1, given.2]
    refine advanced_of_reaches reaches ?_ (by decide)
    unfold Unprepared at unprepared
    revert unprepared
    generalize store.deployment.status = status
    cases status <;> decide
  unfold reconcileManaged
  unfold Unprepared at unprepared
  cases status : store.deployment.status with
  | requested | databaseProvisioning | migrating | failed => exact body
  | _ =>
    rw [status] at unprepared
    exact absurd unprepared (by decide)


/-- The end of a turn that found its process healthy. -/
private def observedTurn (deployment : RuntimeDeployment) (progressed : Bool)
    (input : RuntimeDeploymentReconcileInput) :
    ProviderIdentityOutcome → DeploymentProgram Turn
  | .mismatch failed => return .finish failed true
  | .unavailable => degrade deployment progressed input
  | .verified =>
    if deployment.status = .degraded then do
      return .finish (← transition deployment .discovering input) true
    else return .finish deployment progressed

/-- A turn while the process runs, or should: the last of its run where all is well. -/
theorem undisturbed_observed (sound : store.Sound names)
    (managed : store.deployment.runtimeAuthority = .platformManaged)
    (named : store.Names input.providerId input.deploymentId)
    (here : store.deployment.status = .active ∨ store.deployment.status = .degraded) :
    Undisturbed names
      (reconcileManaged store.deployment progressed input)
      (Advanced names store) store := by
  have body : Undisturbed names
      (do
        let ensured ← cancellable
          (PostgresRuntimeReconcileStore.ensureInstance store.deployment 0)
        cancellable (RuntimeLifecycleManager.run .start ensured.target
          (stepContext input.context "start" store.deployment.observedRevision))
        let result ← cancellable (ask (.probe ensured.target))
        cancellable (ask (.recordHealth ensured.target result))
        if isHealthy result = false then
          degrade store.deployment progressed input
        else
          let outcome ← reconcileProviderIdentity store.deployment ensured input
          observedTurn store.deployment progressed input outcome)
      (Advanced names store) store := by
    refine undisturbed_then (undisturbed_ensured sound managed) ?_
    intro ensured allocated configured keeps
    refine undisturbed_then (undisturbed_started keeps.2) ?_
    intro _ started _ keepsStarted
    refine undisturbed_then (undisturbed_probed keepsStarted.2) ?_
    intro result probed healthy keepsProbed
    refine undisturbed_then (undisturbed_recorded keepsProbed.2) ?_
    intro _ recorded _ keepsRecorded
    have whole := ((keeps.trans keepsStarted).trans keepsProbed).trans keepsRecorded
    rw [if_neg (by rw [healthy]; decide), ← whole.1]
    refine undisturbed_then (undisturbed_identity whole.2 configured) ?_
    intro outcome verified isVerified keepsVerified
    rw [isVerified, ← keepsVerified.1]
    have known := whole.trans keepsVerified
    by_cases degraded : verified.deployment.status = .degraded
    · dsimp only [observedTurn]
      rw [if_pos degraded]
      refine undisturbed_finish known.2 (known.named named) ?_ ?_
      · rw [degraded]
        exact List.mem_cons_self
      · rw [degraded]
        decide
    · dsimp only [observedTurn]
      rw [if_neg degraded]
      refine finished_of_status (keeps_of_same known.2 rfl rfl) rfl (.inr ?_)
      rw [known.1] at degraded ⊢
      exact here.resolve_right degraded
  unfold reconcileManaged
  rcases here with isActive | isDegraded
  · have reduced := body
    unfold observedTurn at reduced
    rw [isActive] at reduced ⊢
    exact reduced
  · have reduced := body
    unfold observedTurn at reduced
    rw [isDegraded] at reduced ⊢
    exact reduced


theorem undisturbed_managed (sound : store.Sound names)
    (managed : store.deployment.runtimeAuthority = .platformManaged)
    (named : store.Names input.providerId input.deploymentId)
    (notDraining : store.deployment.status ≠ .draining) :
    Undisturbed names
      (reconcileManaged store.deployment progressed input)
      (Advanced names store) store := by
  have ensures := undisturbed_ensured sound managed
  cases status : store.deployment.status with
  | requested | databaseProvisioning | migrating | failed =>
    apply undisturbed_prepared sound managed named
    rw [status]
    decide
  | active => exact undisturbed_observed sound managed named (.inl status)
  | degraded => exact undisturbed_observed sound managed named (.inr status)
  | draining => exact absurd status notDraining
  | configPreparing =>
    unfold reconcileManaged
    rw [status]
    refine undisturbed_then ensures ?_
    intro ensured after configured keeps
    rw [← keeps.1] at status ⊢
    refine undisturbed_proceed keeps.2 (keeps.named named) ?_
      (admits_of_managed (keeps.managed managed)) ?_ (by decide)
    · rw [status]
      exact List.mem_cons_self
    · rw [status]
      decide
  | starting =>
    unfold reconcileManaged
    rw [status]
    refine undisturbed_then ensures ?_
    intro ensured allocated configured keeps
    rw [← keeps.1] at status ⊢
    refine undisturbed_then (undisturbed_identity keeps.2 configured) ?_
    intro outcome verified isVerified keepsVerified
    rw [isVerified]
    dsimp only
    refine undisturbed_then (undisturbed_started keepsVerified.2) ?_
    intro _ started _ keepsStarted
    have known := keepsVerified.trans keepsStarted
    rw [← known.1] at status ⊢
    refine undisturbed_proceed known.2 (known.named (keeps.named named)) ?_
      (admits_of_managed (known.managed (keeps.managed managed))) ?_ (by decide)
    · rw [status]
      exact List.mem_cons_self
    · rw [status]
      decide
  | healthChecking =>
    unfold reconcileManaged
    rw [status]
    refine undisturbed_then ensures ?_
    intro ensured allocated configured keeps
    rw [← keeps.1] at status ⊢
    refine undisturbed_then (undisturbed_identity keeps.2 configured) ?_
    intro outcome verified isVerified keepsVerified
    rw [isVerified]
    dsimp only
    refine undisturbed_then (undisturbed_probed keepsVerified.2) ?_
    intro result probed healthy keepsProbed
    refine undisturbed_then (undisturbed_recorded keepsProbed.2) ?_
    intro _ recorded _ keepsRecorded
    have known := (keepsVerified.trans keepsProbed).trans keepsRecorded
    rw [healthy]
    rw [← known.1] at status ⊢
    refine undisturbed_finish known.2 (known.named (keeps.named named)) ?_ ?_
    · rw [status]
      exact List.mem_cons_self
    · rw [status]
      decide
  | discovering =>
    unfold reconcileManaged
    rw [status]
    refine undisturbed_then ensures ?_
    intro ensured allocated configured keeps
    rw [← keeps.1]
    refine undisturbed_then (undisturbed_identity keeps.2 configured) ?_
    intro outcome verified isVerified keepsVerified
    rw [isVerified]
    refine finished_of_status (keeps_of_same keepsVerified.2 rfl rfl) rfl (.inl ?_)
    rw [keepsVerified.1, keeps.1, status]
  | stopped =>
    unfold reconcileManaged
    rw [status]
    refine undisturbed_proceed sound named ?_ (admits_of_managed managed) ?_ (by decide)
    · rw [status]
      exact List.mem_cons_of_mem _ List.mem_cons_self
    · rw [status]
      decide

theorem undisturbed_requireDirectInstance (sound : store.Sound names)
    (direct : store.deployment.runtimeAuthority = .directContainer) :
    Undisturbed names (requireDirectInstance store.deployment)
      (fun found after => isRegistered found = true ∧ Keeps names store after) store := by
  unfold requireDirectInstance
    PostgresRuntimeReconcileStore.getDirectInstance
  rw [if_neg (not_not.mpr direct)]
  exact keeps_given sound (undisturbed_ask (.directInstance store.deployment))

theorem undisturbed_direct_identity {found : RuntimeReconcileDirectInstance}
    (sound : store.Sound names) (direct : store.deployment.runtimeAuthority = .directContainer) :
    Undisturbed names
      (reconcileDirectProviderIdentity store.deployment found input)
      (fun outcome after => outcome = .verified ∧ Keeps names store after) store := by
  obtain ⟨endpoint, given⟩ := (sound.deployment.direct direct).1
  unfold reconcileDirectProviderIdentity
  rw [given]
  refine undisturbed_verifyProviderIdentity.mono ?_
  intro outcome after verified
  refine ⟨verified.1, ?_⟩
  rw [verified.2]
  exact keeps_of_same sound rfl rfl

theorem undisturbed_external {controlEndpoint : String} (sound : store.Sound names) :
    Undisturbed names (cancellable (ask (.externalProbe controlEndpoint)))
      (fun result after => isHealthy result = true ∧ Keeps names store after) store :=
  keeps_given sound (undisturbed_ask (.externalProbe controlEndpoint))

theorem Keeps.direct (keeps : Keeps names store after)
    (direct : store.deployment.runtimeAuthority = .directContainer) :
    after.deployment.runtimeAuthority = .directContainer := by
  rw [keeps.1, direct]

theorem undisturbed_direct_observed (sound : store.Sound names)
    (direct : store.deployment.runtimeAuthority = .directContainer)
    (named : store.Names input.providerId input.deploymentId)
    (here : store.deployment.status = .active ∨ store.deployment.status = .degraded) :
    Undisturbed names
      (reconcileDirect store.deployment progressed input)
      (Advanced names store) store := by
  have body : Undisturbed names
      (do
        let found ← requireDirectInstance store.deployment
        if isRegistered found = false then
          degrade store.deployment progressed input
        else
          let result ← cancellable (ask (.externalProbe found.controlEndpoint))
          cancellable (ask (.recordHealth found.target result))
          if isHealthy result = false then
            degrade store.deployment progressed input
          else
            let outcome ← reconcileDirectProviderIdentity store.deployment found input
            observedTurn store.deployment progressed input outcome)
      (Advanced names store) store := by
    refine undisturbed_then (undisturbed_requireDirectInstance sound direct) ?_
    intro found required registered keeps
    rw [if_neg (by rw [registered]; decide)]
    refine undisturbed_then (undisturbed_external keeps.2) ?_
    intro result probed healthy keepsProbed
    refine undisturbed_then (undisturbed_recorded keepsProbed.2) ?_
    intro _ recorded _ keepsRecorded
    have whole := (keeps.trans keepsProbed).trans keepsRecorded
    rw [if_neg (by rw [healthy]; decide), ← whole.1]
    refine undisturbed_then (undisturbed_direct_identity whole.2 (whole.direct direct)) ?_
    intro outcome verified isVerified keepsVerified
    rw [isVerified, ← keepsVerified.1]
    have known := whole.trans keepsVerified
    by_cases degraded : verified.deployment.status = .degraded
    · dsimp only [observedTurn]
      rw [if_pos degraded]
      refine undisturbed_finish known.2 (known.named named) ?_ ?_
      · rw [degraded]
        exact List.mem_cons_self
      · rw [degraded]
        decide
    · dsimp only [observedTurn]
      rw [if_neg degraded]
      refine finished_of_status (keeps_of_same known.2 rfl rfl) rfl (.inr ?_)
      rw [known.1] at degraded ⊢
      exact here.resolve_right degraded
  unfold reconcileDirect
  rcases here with isActive | isDegraded
  · have reduced := body
    unfold observedTurn at reduced
    rw [isActive] at reduced ⊢
    exact reduced
  · have reduced := body
    unfold observedTurn at reduced
    rw [isDegraded] at reduced ⊢
    exact reduced

theorem undisturbed_direct (sound : store.Sound names)
    (direct : store.deployment.runtimeAuthority = .directContainer)
    (named : store.Names input.providerId input.deploymentId) :
    Undisturbed names
      (reconcileDirect store.deployment progressed input)
      (Advanced names store) store := by
  have requires := undisturbed_requireDirectInstance sound direct
  have possible := (sound.deployment.direct direct).2.2
  cases status : store.deployment.status with
  | active => exact undisturbed_direct_observed sound direct named (.inl status)
  | degraded => exact undisturbed_direct_observed sound direct named (.inr status)
  | databaseProvisioning | migrating | stopped | draining =>
    rw [status] at possible
    exact absurd (by decide) possible
  | requested =>
    unfold reconcileDirect
    rw [status]
    refine undisturbed_then requires ?_
    intro found after registered keeps
    rw [← keeps.1] at status ⊢
    refine undisturbed_proceed keeps.2 (keeps.named named) ?_ (fun _ => by decide) ?_
      (by decide)
    · rw [status, keeps.direct direct]
      exact List.mem_cons_self
    · rw [status]
      decide
  | configPreparing =>
    unfold reconcileDirect
    rw [status]
    refine undisturbed_then requires ?_
    intro found after registered keeps
    rw [← keeps.1] at status ⊢
    refine undisturbed_proceed keeps.2 (keeps.named named) ?_ (fun _ => by decide) ?_
      (by decide)
    · rw [status]
      exact List.mem_cons_self
    · rw [status]
      decide
  | starting =>
    unfold reconcileDirect
    rw [status]
    refine undisturbed_then requires ?_
    intro found after registered keeps
    rw [if_neg (by rw [registered]; decide)]
    rw [← keeps.1] at status ⊢
    refine undisturbed_proceed keeps.2 (keeps.named named) ?_ (fun _ => by decide) ?_
      (by decide)
    · rw [status]
      exact List.mem_cons_self
    · rw [status]
      decide
  | healthChecking =>
    unfold reconcileDirect
    rw [status]
    refine undisturbed_then requires ?_
    intro found required registered keeps
    rw [if_neg (by rw [registered]; decide)]
    rw [← keeps.1] at status ⊢
    refine undisturbed_then (undisturbed_direct_identity keeps.2 (keeps.direct direct)) ?_
    intro outcome verified isVerified keepsVerified
    rw [isVerified]
    dsimp only
    refine undisturbed_then (undisturbed_external keepsVerified.2) ?_
    intro result probed healthy keepsProbed
    refine undisturbed_then (undisturbed_recorded keepsProbed.2) ?_
    intro _ recorded _ keepsRecorded
    have known := (keepsVerified.trans keepsProbed).trans keepsRecorded
    rw [healthy]
    rw [← known.1] at status ⊢
    refine undisturbed_finish known.2 (known.named (keeps.named named)) ?_ ?_
    · rw [status]
      exact List.mem_cons_self
    · rw [status]
      decide
  | discovering =>
    unfold reconcileDirect
    rw [status]
    refine undisturbed_then requires ?_
    intro found required registered keeps
    rw [if_neg (by rw [registered]; decide)]
    rw [← keeps.1]
    refine undisturbed_then (undisturbed_direct_identity keeps.2 (keeps.direct direct)) ?_
    intro outcome verified isVerified keepsVerified
    rw [isVerified]
    refine finished_of_status (keeps_of_same keepsVerified.2 rfl rfl) rfl (.inl ?_)
    rw [keepsVerified.1, keeps.1, status]
  | failed =>
    unfold reconcileDirect
    rw [status]
    refine undisturbed_proceed sound named ?_ (fun _ => by decide) ?_ (by decide)
    · rw [status]
      exact List.mem_cons_self
    · rw [status]
      decide

end Deployments

end SdarRuntime
