import SdarRuntime.Deployments.FavourableTurns

/-!
Whether further calls of the reconciler, undisturbed, bring a deployment to where it is wanted.
-/

namespace SdarRuntime

namespace Deployments

open RuntimeDeploymentReconciler Program

variable {names : InstanceNames} {store : DeploymentStore}

def RuntimeDeployment.Settled (deployment : RuntimeDeployment) : Prop :=
  if deployment.desiredState = .running then
    deployment.status = .discovering ∨ deployment.status = .active
  else deployment.status = .stopped

variable {input : RuntimeDeploymentReconcileInput}

theorem undisturbed_reconcileStopped (sound : store.Sound names)
    (named : store.Names input.providerId input.deploymentId)
    (unwanted : store.deployment.desiredState ≠ .running) :
    Undisturbed names (reconcileStopped store.deployment input)
      (fun _ after => Reaches names store .stopped after) store := by
  have managed : store.deployment.runtimeAuthority = .platformManaged := by
    cases authority : store.deployment.runtimeAuthority with
    | platformManaged => rfl
    | directContainer => exact absurd (sound.deployment.direct authority).2.1 unwanted
  have drained {middle : DeploymentStore} (reaches : Reaches names store .draining middle) :
      Undisturbed names
        (do
          if middle.deployment.runtimeAuthority = .directContainer then
            transition middle.deployment .stopped input
          else
            let instances ← cancellable (PostgresRuntimeReconcileStore.listInstances
              input.providerId input.deploymentId)
            stopInstances middle.deployment input instances
            transition middle.deployment .stopped input)
        (fun _ after => Reaches names store .stopped after) middle := by
    have managedThen := reaches.authority.trans managed
    have namedThen : middle.Names input.providerId input.deploymentId :=
      ⟨reaches.providerId.trans named.1, reaches.deploymentId.trans named.2⟩
    rw [if_neg (by rw [managedThen]; decide)]
    refine succeeds_bind (undisturbed_cancellable
      (undisturbed_listInstances reaches.sound managedThen namedThen)) ?_
    intro instances listed keeps
    rw [← keeps.1]
    refine succeeds_bind (undisturbed_stopInstances instances keeps.2) ?_
    intro _ stopped keepsStopped
    have known := keeps.trans keepsStopped
    rw [← keepsStopped.1]
    refine (undisturbed_transition known.2 (known.named namedThen) ?_ ?_
      (admits_of_managed (known.managed managedThen))).mono ?_
    · rw [known.1, reaches.status]
      decide
    · rw [known.1, reaches.status]
      exact List.mem_cons_self
    · intro moved after given
      exact (reaches.trans known.reaches).trans given.2
  unfold reconcileStopped
  by_cases isStopped : store.deployment.status = .stopped
  · rw [if_pos isStopped]
    exact isStopped ▸ (keeps_of_same sound rfl rfl).reaches
  rw [if_neg isStopped]
  by_cases atRest : store.deployment.status = .requested ∨ store.deployment.status = .failed
  · rw [if_pos atRest]
    refine (undisturbed_transition sound named (Ne.symm isStopped) ?_
      (admits_of_managed managed)).mono (fun _ _ given => given.2)
    rcases atRest with isRequested | isFailed
    · rw [isRequested, managed]
      decide
    · rw [isFailed]
      exact List.mem_cons_of_mem _ List.mem_cons_self
  rw [if_neg atRest]
  by_cases isDraining : store.deployment.status = .draining
  · rw [if_neg (not_not.mpr isDraining)]
    exact drained (isDraining ▸ (keeps_of_same sound rfl rfl).reaches)
  · rw [if_pos isDraining]
    refine succeeds_bind (undisturbed_transition sound named (Ne.symm isDraining) ?_
      (admits_of_managed managed)) ?_
    · rw [managed]
      revert isStopped atRest isDraining
      generalize store.deployment.status = status
      cases status <;> simp [allowedTransitions]
    · intro moved middle given
      rw [given.1]
      exact drained given.2

theorem undisturbed_loop {orphans : List String} (steps : Nat) {progressed : Bool}
    (sound : store.Sound names) (named : store.Names input.providerId input.deploymentId)
    (enough : turnsFrom store.deployment.status < steps)
    (goesOn : store.deployment.desiredState = .running → store.deployment.status ≠ .draining) :
    Undisturbed names
      (reconcileLoop store.deployment.runtimeAuthority input orphans
        steps store.deployment progressed)
      (fun _ after => after.Sound names ∧ after.deployment.Settled) store := by
  induction steps generalizing store progressed with
  | zero => exact absurd enough (Nat.not_lt_zero _)
  | succ steps ih =>
    unfold reconcileLoop
    refine succeeds_bind undisturbed_checkpoint ?_
    intro _ before same
    rw [same, if_neg (fun mismatch => mismatch.2 mismatch.1)]
    by_cases wanted : store.deployment.desiredState = .running
    · rw [if_neg (not_not.mpr wanted)]
      refine succeeds_bind (?turns : Undisturbed names _ (Advanced names store) store) ?_
      case turns =>
        cases authority : store.deployment.runtimeAuthority with
        | platformManaged => exact undisturbed_managed sound authority named (goesOn wanted)
        | directContainer => exact undisturbed_direct sound authority named
      intro turn after advanced
      obtain ⟨⟨status, reaches⟩, comes⟩ := advanced
      have wantedStill := reaches.desired.trans wanted
      cases turn with
      | finish last ended =>
        refine ⟨reaches.sound, ?_⟩
        unfold RuntimeDeployment.Settled
        rw [if_pos wantedStill]
        exact comes
      | proceed next =>
        obtain ⟨isRow, nearer, notDraining⟩ := comes
        rw [isRow] at nearer notDraining ⊢
        have remains := @ih after true reaches.sound
          ⟨reaches.providerId.trans named.1, reaches.deploymentId.trans named.2⟩
          (Nat.lt_of_lt_of_le nearer (Nat.le_of_lt_succ enough)) (fun _ => notDraining)
        rw [reaches.authority] at remains
        exact remains
    · rw [if_pos wanted]
      refine succeeds_bind (undisturbed_reconcileStopped sound named wanted) ?_
      intro result after reaches
      refine ⟨reaches.sound, ?_⟩
      unfold RuntimeDeployment.Settled
      rw [if_neg (by rw [reaches.desired]; exact wanted)]
      exact reaches.status


theorem undisturbed_detectOrphans (sound : store.Sound names)
    (managed : store.deployment.runtimeAuthority = .platformManaged)
    (named : store.Names input.providerId input.deploymentId) :
    Undisturbed names (detectOrphans input)
      (fun _ after => Keeps names store after) store := by
  have observes : Undisturbed names
      (do
        let known ← PostgresRuntimeReconcileStore.listInstances input.providerId
          input.deploymentId
        let observed ← ask .inventory
        return (known, observed))
      (fun _ after => Keeps names store after) store := by
    refine succeeds_bind (undisturbed_listInstances sound managed named) ?_
    intro known listed keeps
    refine succeeds_bind (undisturbed_ask _) ?_
    intro observed after given
    rw [given.2]
    exact keeps
  refine succeeds_bind (undisturbed_cancellable observes) ?_
  intro seen after keeps
  obtain ⟨known, observed⟩ := seen
  dsimp only
  split
  · refine succeeds_bind (undisturbed_cancellable undisturbed_ask_unit) ?_
    intro _ recorded same
    rw [same]
    exact keeps
  · exact keeps

theorem undisturbed_reconcile_of_loop
    {Post : RuntimeDeploymentReconcileResult → DeploymentStore → Prop} (sound : store.Sound names)
    (named : store.Names input.providerId input.deploymentId)
    (loops : ∀ orphans after, Keeps names store after →
      Undisturbed names
        (reconcileLoop after.deployment.runtimeAuthority input orphans
          12 after.deployment false) Post after) :
    Undisturbed names (reconcile input) Post store := by
  have keeps := keeps_of_same sound (rfl : store.deployment = store.deployment) rfl
  refine succeeds_bind undisturbed_checkpoint ?_
  intro _ before same
  rw [same]
  refine succeeds_bind (undisturbed_requireDeployment named) ?_
  intro deployment current given
  rw [given.1, given.2]
  cases authority : store.deployment.runtimeAuthority with
  | directContainer =>
    rw [if_pos rfl]
    apply succeeds_attempt
    have looped := loops [] store keeps
    rw [authority] at looped
    exact looped
  | platformManaged =>
    rw [if_neg (by decide)]
    refine succeeds_bind (succeeds_attempt
      (undisturbed_detectOrphans sound authority named)) ?_
    intro orphans after keepsOrphans
    apply succeeds_attempt
    have looped := loops orphans after keepsOrphans
    rw [keepsOrphans.managed authority, keepsOrphans.1] at looped
    exact looped

def RuntimeDeployment.Stuck (deployment : RuntimeDeployment) : Prop :=
  deployment.status = .draining ∧ deployment.desiredState = .running

instance (deployment : RuntimeDeployment) : Decidable deployment.Stuck :=
  inferInstanceAs (Decidable (_ ∧ _))

theorem undisturbed_reconcile (sound : store.Sound names)
    (named : store.Names input.providerId input.deploymentId) (free : ¬store.deployment.Stuck) :
    Undisturbed names (reconcile input)
      (fun _ after => after.Sound names ∧ after.deployment.Settled) store := by
  apply undisturbed_reconcile_of_loop sound named
  intro orphans after keeps
  have bound : turnsFrom after.deployment.status < 12 := by
    generalize after.deployment.status = status
    cases status <;> decide
  apply undisturbed_loop 12 keeps.2 (keeps.named named) bound
  intro wanted draining
  rw [keeps.1] at wanted draining
  exact free ⟨draining, wanted⟩

theorem undisturbed_reconcile_stuck (sound : store.Sound names)
    (named : store.Names input.providerId input.deploymentId) (stuck : store.deployment.Stuck) :
    Undisturbed names (reconcile input)
      (fun _ after => Keeps names store after) store := by
  have managed : store.deployment.runtimeAuthority = .platformManaged := by
    cases authority : store.deployment.runtimeAuthority with
    | platformManaged => rfl
    | directContainer =>
      have possible := (sound.deployment.direct authority).2.2
      rw [stuck.1] at possible
      exact absurd (by decide) possible
  apply undisturbed_reconcile_of_loop sound named
  intro orphans after keeps
  unfold reconcileLoop
  refine succeeds_bind undisturbed_checkpoint ?_
  intro _ before same
  have wanted : after.deployment.desiredState = .running := by
    rw [keeps.1]
    exact stuck.2
  rw [same, if_neg (fun mismatch => mismatch.2 mismatch.1), if_neg (not_not.mpr wanted),
    keeps.managed managed]
  unfold reconcileManaged
  rw [keeps.1, stuck.1]
  exact keeps

/-- A call of the reconciler in which every port succeeds and nothing else moves. -/
def Call (names : InstanceNames) (store after : DeploymentStore) : Prop :=
  ∃ input outcome, store.Names input.providerId input.deploymentId ∧
    Program.Alone (machine names) Favourable (reconcile input) store
      outcome after

def Calls (names : InstanceNames) : Nat → DeploymentStore → DeploymentStore → Prop
  | 0, store, after => after = store
  | count + 1, store, after => ∃ middle, Call names store middle ∧ Calls names count middle after

/-- From some number of further calls on, the deployment is where it is wanted. -/
def Converges (names : InstanceNames) (store : DeploymentStore) : Prop :=
  ∃ count, ∀ more, count ≤ more →
    (∃ after, Calls names more store after) ∧
      ∀ after, Calls names more store after → after.deployment.Settled

theorem exists_call (store : DeploymentStore) : ∃ after, Call names store after := by
  let input : RuntimeDeploymentReconcileInput :=
    { providerId := store.deployment.providerId
      deploymentId := store.deployment.deploymentId
      context := ⟨"", "", ""⟩ }
  obtain ⟨outcome, after, alone⟩ : ∃ outcome after, Program.Alone (machine names) Favourable
      (reconcile input) store outcome after :=
    exists_alone exists_favourable _ _
  exact ⟨after, input, outcome, ⟨rfl, rfl⟩, alone⟩

theorem exists_calls (count : Nat) (store : DeploymentStore) :
    ∃ after, Calls names count store after := by
  induction count generalizing store with
  | zero => exact ⟨store, rfl⟩
  | succ count ih =>
    obtain ⟨middle, call⟩ : ∃ middle, Call names store middle := exists_call store
    obtain ⟨after, calls⟩ := ih middle
    exact ⟨after, middle, call, calls⟩

variable {after : DeploymentStore}

theorem Call.settles (call : Call names store after) (sound : store.Sound names)
    (free : ¬store.deployment.Stuck) :
    after.Sound names ∧ after.deployment.Settled := by
  obtain ⟨input, outcome, named, alone⟩ := call
  obtain ⟨result, _, settled⟩ := (undisturbed_reconcile sound named free).outcome alone
  exact settled

theorem Call.stays (call : Call names store after) (sound : store.Sound names)
    (stuck : store.deployment.Stuck) : Keeps names store after := by
  obtain ⟨input, outcome, named, alone⟩ := call
  obtain ⟨result, _, keeps⟩ := (undisturbed_reconcile_stuck sound named stuck).outcome alone
  exact keeps

theorem RuntimeDeployment.Settled.free {deployment : RuntimeDeployment}
    (settled : deployment.Settled) : ¬deployment.Stuck := by
  intro stuck
  unfold RuntimeDeployment.Settled at settled
  rw [if_pos stuck.2, stuck.1] at settled
  rcases settled with impossible | impossible
  · cases impossible
  · cases impossible

variable {count : Nat}

theorem Calls.settle (calls : Calls names (count + 1) store after) (sound : store.Sound names)
    (free : ¬store.deployment.Stuck) : after.deployment.Settled := by
  induction count generalizing store with
  | zero =>
    obtain ⟨middle, call, same⟩ := calls
    rw [show after = middle from same]
    exact (call.settles sound free).2
  | succ count ih =>
    obtain ⟨middle, call, rest⟩ := calls
    have settles := call.settles sound free
    exact ih rest settles.1 settles.2.free

theorem Calls.stay (calls : Calls names count store after) (sound : store.Sound names)
    (stuck : store.deployment.Stuck) : Keeps names store after := by
  induction count generalizing store with
  | zero =>
    rw [show after = store from calls]
    exact keeps_of_same sound rfl rfl
  | succ count ih =>
    obtain ⟨middle, call, rest⟩ := calls
    have keeps := call.stays sound stuck
    have stuckStill : middle.deployment.Stuck := by
      rw [keeps.1]
      exact stuck
    exact keeps.trans (ih rest keeps.2 stuckStill)

theorem converges_iff_free (sound : store.Sound names) :
    Converges names store ↔ ¬store.deployment.Stuck := by
  constructor
  · intro converges stuck
    obtain ⟨count, reaches⟩ := converges
    obtain ⟨⟨after, calls⟩, settled⟩ := reaches count (Nat.le_refl _)
    have keeps := calls.stay sound stuck
    apply (settled after calls).free
    rw [keeps.1]
    exact stuck
  · intro free
    refine ⟨1, ?_⟩
    intro more enough
    refine ⟨exists_calls more store, ?_⟩
    intro after calls
    cases more with
    | zero => exact absurd enough (by decide)
    | succ count => exact calls.settle sound free

end Deployments

end SdarRuntime
