import SdarRuntime.Deployments.Supervising

/-!
Instances and what the lifecycle manager does to them: a start brings up no process but the one
allocated, and a stop recorded as done has left nothing running at its revision of the row.
-/

namespace SdarRuntime

namespace Deployments

open PostgresRuntimeReconcileStore

variable {names : InstanceNames} {spec : RuntimeDeploymentSpec} {spared : Prop}

def digitsAtEnd (text : String) : List Char :=
  text.toList.reverse.takeWhile Char.isDigit

theorem toList_revision (revision : Nat) :
    (toString revision).toList = Nat.toDigits 10 revision := by
  rw [Nat.toString_eq_ofList_toDigits, String.toList_ofList]

theorem digitsAtEnd_stopKey (idempotencyKey : String) (revision : Nat) :
    digitsAtEnd (stopKey idempotencyKey revision) = (Nat.toDigits 10 revision).reverse := by
  have digits : ∀ char ∈ (Nat.toDigits 10 revision).reverse, char.isDigit = true := by
    intro char member
    exact Nat.isDigit_of_mem_toDigits (by decide) (by decide) (List.mem_reverse.mp member)
  have colon : (":" : String).toList = [':'] := rfl
  rw [digitsAtEnd, stopKey]
  simp only [String.toList_append, colon, toList_revision, List.reverse_append, List.append_assoc]
  rw [List.takeWhile_append_of_pos digits]
  simp

theorem stopKey_revision {first second : String} {revision revision' : Nat}
    (same : stopKey first revision = stopKey second revision') : revision = revision' := by
  have digits : Nat.toDigits 10 revision = Nat.toDigits 10 revision' := by
    apply List.reverse_injective
    rw [← digitsAtEnd_stopKey first, same, digitsAtEnd_stopKey]
  calc
    revision = Nat.ofDigitChars 10 (Nat.toDigits 10 revision) 0 :=
      Nat.ofDigitChars_ten_toDigits.symm
    _ = revision' := by rw [digits, Nat.ofDigitChars_ten_toDigits]

theorem startKey_ne_stopKey (key idempotencyKey : String) (revision : Nat) :
    "start" ++ ":" ++ key ≠ stopKey idempotencyKey revision := by
  intro same
  have lists := congrArg String.toList same
  simp [stopKey] at lists

variable {deployment : RuntimeDeployment}

theorem holds_ensureInstance {before : DeploymentStore → Prop} (lasting : Lasting spared before) :
    (supervising names spec spared).Holds before
      (ensureInstance deployment 0)
      (fun ensured store => ensured.target.processName = (firstInstance names spec).pm2Name ∧
        before store ∧ Allocated names spec store) := by
  unfold ensureInstance
  split
  · exact holds_fail
  · have allocates : (supervising names spec spared).Holds before
        (Program.exec (.allocate deployment.providerId deployment.deploymentId 0))
        (fun process store => process.pm2Name = (firstInstance names spec).pm2Name ∧
          before store ∧ Allocated names spec store) := by
      apply holds_exec lasting
      intro store given supervised
      obtain ⟨-, meanwhile, answers⟩ :=
        supervised.allocate deployment.providerId deployment.deploymentId
      refine ⟨rfl, ?_⟩
      intro process isOk
      obtain ⟨named, allocated⟩ := answers process isOk
      exact ⟨named, lasting _ _ meanwhile given, allocated⟩
    apply holds_bind allocates
    intro process
    apply holds_given
    intro named
    apply holds_bind (holds_ask (lasting.and lasting_allocated))
    intro content
    exact holds_pure fun store given => ⟨named, given⟩

theorem calm_getDirectInstance :
    Calm (getDirectInstance deployment) :=
  Program.calls_ite (fun _ => Program.calls_fail _) (fun _ => calm_ask)

variable {store : DeploymentStore}

theorem names_of_instances (supervised : Supervised names spec spared store) (name : String)
    (member : name ∈ store.running) :
    name ∈ store.processes.map RuntimeProcess.pm2Name := by
  obtain ⟨allocated, isFirst⟩ := supervised.known name (.inl member)
  rw [show store.processes = [firstInstance names spec] from allocated, isFirst]
  exact List.mem_singleton.mpr rfl

/-- While the row drains as the copy has it, nothing runs but what the names tell. -/
def Listed (spared : Prop) (copy : RuntimeDeployment) (left : List String)
    (store : DeploymentStore) : Prop :=
  copy.At store ∧ (copy.status = .draining → Leaves spared copy.observedRevision left store)

theorem lasting_listed (copy : RuntimeDeployment) (left : List String) :
    Lasting spared (Listed spared copy left) :=
  fun _ _ meanwhile listed =>
    ⟨listed.1.advances meanwhile.1, fun draining => (listed.2 draining).meanwhile meanwhile⟩

variable {copy : RuntimeDeployment}

theorem holds_listByDeployment :
    (supervising names spec spared).Holds copy.At
      (Program.exec (.listByDeployment spec.providerId spec.deploymentId))
      (fun processes store =>
        (processes = [] ∨ processes = [firstInstance names spec]) ∧
          Listed spared copy (processes.map RuntimeProcess.pm2Name) store) := by
  apply holds_exec (lasting_at copy)
  intro store here supervised
  refine ⟨trivial, ?_⟩
  intro processes isOk
  cases isOk
  have named : store.Names spec.providerId spec.deploymentId :=
    ⟨supervised.row.providerId, supervised.row.deploymentId⟩
  rw [if_pos named]
  refine ⟨supervised.instances, here, ?_⟩
  intro draining
  refine ⟨here.1, ?_⟩
  intro same
  refine ⟨?_, ?_⟩
  · exact (here.2 same).trans draining
  · intro _ name member
    exact names_of_instances supervised name member

theorem holds_listInstances {providerId deploymentId : String} :
    (supervising names spec spared).Holds copy.At
      (listInstances providerId deploymentId)
      (fun targets store => targets.length ≤ 1 ∧ copy.At store ∧
        ((requestRuntimeDeployment spec).runtimeAuthority ≠ .directContainer →
          Listed spared copy
            (targets.map RuntimeInfrastructureInstanceTarget.processName) store)) := by
  apply holds_bind (holds_requireDeployment (lasting_at copy))
  intro found
  apply holds_given
  rintro ⟨provider, deployment, ofSpec⟩
  refine holds_weaken ?_ (fun _ given => given.1) (fun _ _ post => post)
  split
  · rename_i isDirect
    apply holds_bind (holds_calm calm_getDirectInstance (lasting_at copy))
    intro direct
    apply holds_pure
    intro store here
    refine ⟨Nat.le_refl _, here, ?_⟩
    intro platform
    exact absurd (ofSpec.authority.symm.trans isDirect) platform
  · rw [← provider, ← deployment, ofSpec.providerId, ofSpec.deploymentId]
    apply holds_bind holds_listByDeployment
    intro processes
    apply holds_given
    intro instances
    rcases instances with none | one
    · rw [none]
      exact holds_pure fun store listed => ⟨Nat.zero_le _, listed.1, fun _ => listed⟩
    · rw [one]
      apply holds_bind (holds_ensureInstance (lasting_listed copy _))
      intro ensured
      apply holds_given
      intro named
      refine holds_weaken ?_ (fun _ given => given.1) (fun _ _ post => post)
      apply holds_pure
      intro store listed
      refine ⟨Nat.le_refl _, listed.1, fun _ => ?_⟩
      rw [List.map_singleton, named]
      exact listed


variable {target : RuntimeInfrastructureInstanceTarget}
variable {context : RuntimeInfrastructureOperationContext}

/-- What an operation comes to: it was done before, or it is carried out and recorded. -/
theorem holds_run {before worked after : DeploymentStore → Prop} {action : RuntimeLifecycleAction}
    (lasting : Lasting spared before) (lastingWorked : Lasting spared worked)
    (lastingAfter : Lasting spared after) (finds : (supervising names spec spared).Holds before
      (Program.exec (.findCompleted (action.text ++ ":" ++ context.idempotencyKey)))
      (fun found store => before store ∧ (found = true → after store)))
    (works : (supervising names spec spared).Holds before
      (RuntimeLifecycleManager.boundedOperation
        { action := action, processName := target.processName })
      (fun _ => worked)) (completes : (supervising names spec spared).Holds worked
      (Program.exec (.complete (action.text ++ ":" ++ context.idempotencyKey)))
      (fun _ => after)) :
    (supervising names spec spared).Holds before
      (RuntimeLifecycleManager.run action target context) (fun _ => after) := by
  apply holds_bind (holds_ask lasting)
  intro aborted
  split
  · exact holds_fail
  · apply holds_bind finds
    intro found
    split
    · rename_i isFound
      exact holds_pure fun store given => given.2 isFound
    · refine holds_weaken ?_ (fun _ given => given.1) (fun _ _ post => post)
      apply holds_bind (holds_ask lasting)
      intro _
      apply holds_bind (holds_ask lasting)
      intro _
      apply holds_attempt
      · apply holds_bind works
        intro _
        apply holds_bind (holds_ask lastingWorked)
        intro _
        apply holds_bind completes
        intro _
        exact holds_ask lastingAfter
      · intro failure
        apply holds_bind (holds_ask lasting_true)
        intro aborted
        apply holds_bind (holds_calm (calm_caught calm_ask) lasting_true)
        intro _
        apply holds_bind (holds_calm (calm_caught calm_ask) lasting_true)
        intro _
        exact holds_fail

theorem At_of_same {store after : DeploymentStore} (here : copy.At store)
    (same : after.deployment = store.deployment) : copy.At after := by
  rw [RuntimeDeployment.At, same]
  exact here

theorem holds_start (isFirst : target.processName = (firstInstance names spec).pm2Name) :
    (supervising names spec spared).Holds
      (fun store => copy.At store ∧ Allocated names spec store)
      (RuntimeLifecycleManager.run .start target context) (fun _ => copy.At) := by
  have lasting : Lasting spared fun store => copy.At store ∧ Allocated names spec store :=
    (lasting_at copy).and lasting_allocated
  apply holds_run lasting (lasting_at copy) (lasting_at copy)
  · apply holds_exec lasting
    intro store given supervised
    refine ⟨trivial, ?_⟩
    intro found _
    exact ⟨given, fun _ => given.1⟩
  · have issues : (supervising names spec spared).Holds
        (fun store => copy.At store ∧ Allocated names spec store)
        (Program.exec (.issue { action := .start, processName := target.processName }))
        (fun _ => copy.At) := by
      apply holds_exec lasting
      intro store given supervised
      refine ⟨fun _ => ⟨given.2, isFirst⟩, ?_⟩
      intro _ _
      exact given.1
    apply holds_bind issues
    intro _
    apply holds_bind (holds_ask (lasting_at copy))
    intro _
    apply holds_exec (lasting_at copy)
    intro store here supervised
    refine ⟨trivial, ?_⟩
    intro _ _
    apply At_of_same here
    simp only [execute]
    split
    · rfl
    · rfl
  · apply holds_exec (lasting_at copy)
    intro store here supervised
    refine ⟨?_, fun _ _ => here⟩
    intro _ idempotencyKey revision isStop
    exact absurd isStop (startKey_ne_stopKey _ _ _)

/-- While the row drains at the revision, a stop of all that runs is in flight. -/
def Stopping (spared : Prop) (revision : Nat) (processName : String) (store : DeploymentStore) :
    Prop :=
  Leaves spared revision [processName] store ∧
    (spared → store.deployment.observedRevision = revision →
      { action := .stop, processName := processName } ∈ store.inFlight ∨
        processName ∉ store.running)

theorem lasting_stopping (revision : Nat) (processName : String) :
    Lasting spared (Stopping spared revision processName) := by
  intro store after meanwhile stopping
  refine ⟨stopping.1.meanwhile meanwhile, ?_⟩
  intro isSpared same
  have before : store.deployment.observedRevision = revision :=
    Nat.le_antisymm (same ▸ meanwhile.1.revision) stopping.1.1
  have drains := meanwhile.2 isSpared (same.trans before.symm) (stopping.1.2 before).1
  rcases stopping.2 isSpared before with inFlight | gone
  · exact drains.stops processName inFlight
  · exact .inr fun member => gone (drains.running processName member)

variable {revision : Nat} {processName : String}

theorem Leaves.none (leaves : Leaves spared revision [processName] store)
    (gone : spared → store.deployment.observedRevision = revision → processName ∉ store.running) :
    Leaves spared revision [] store := by
  refine ⟨leaves.1, ?_⟩
  intro same
  obtain ⟨draining, named⟩ := leaves.2 same
  refine ⟨draining, ?_⟩
  intro isSpared name member
  have isName : name = processName := List.mem_singleton.mp (named isSpared name member)
  exact absurd (isName ▸ member) (gone isSpared same)

theorem holds_settle_stop :
    (supervising names spec spared).Holds (Stopping spared revision processName)
      (Program.exec (.settle { action := .stop, processName := processName }))
      (fun _ => Leaves spared revision []) := by
  apply holds_exec (lasting_stopping revision processName)
  intro store stopping supervised
  refine ⟨trivial, ?_⟩
  intro _ _
  simp only [execute]
  split
  · have filtered : Leaves spared revision [processName]
        (store.carryOut { action := .stop, processName := processName }) := by
      refine ⟨stopping.1.1, ?_⟩
      intro same
      obtain ⟨draining, named⟩ := stopping.1.2 same
      refine ⟨draining, ?_⟩
      intro isSpared name member
      exact named isSpared name (List.mem_filter.mp member).1
    apply filtered.none
    intro _ _ member
    have kept := (List.mem_filter.mp member).2
    simp at kept
  · rename_i notInFlight
    apply stopping.1.none
    intro isSpared same
    rcases stopping.2 isSpared same with inFlight | gone
    · exact absurd inFlight notInFlight
    · exact gone

/-- A stop that succeeds at a revision has left nothing running there, and so has one that was
recorded before. -/
theorem holds_stop {idempotencyKey : String}
    (isKey : "stop" ++ ":" ++ context.idempotencyKey = stopKey idempotencyKey revision) :
    (supervising names spec spared).Holds (Leaves spared revision [target.processName])
      (RuntimeLifecycleManager.run .stop target context)
      (fun _ => Leaves spared revision []) := by
  have lasting : Lasting spared (Leaves spared revision [target.processName]) :=
    lasting_leaves revision [target.processName]
  apply holds_run lasting (lasting_leaves revision []) (lasting_leaves revision [])
  · apply holds_exec lasting
    intro store leaves supervised
    refine ⟨trivial, ?_⟩
    intro found isOk
    refine ⟨leaves, ?_⟩
    intro isFound
    have recorded : stopKey idempotencyKey revision ∈ store.completed := by
      cases isOk
      rw [← isKey]
      exact of_decide_eq_true isFound
    apply leaves.none
    intro isSpared same member
    have accounted := supervised.completed isSpared _ recorded idempotencyKey revision rfl
    exact absurd ((accounted.2 same).2 isSpared _ member) List.not_mem_nil
  · have issues : (supervising names spec spared).Holds
        (Leaves spared revision [target.processName])
        (Program.exec (.issue { action := .stop, processName := target.processName }))
        (fun _ => Stopping spared revision target.processName) := by
      apply holds_exec lasting
      intro store leaves supervised
      refine ⟨?_, ?_⟩
      · intro starts
        cases starts
      · intro _ _
        exact ⟨leaves, fun _ _ => .inl List.mem_cons_self⟩
    apply holds_bind issues
    intro _
    apply holds_bind (holds_ask (lasting_stopping revision target.processName))
    intro _
    exact holds_settle_stop
  · apply holds_exec (lasting_leaves revision [])
    intro store leaves supervised
    refine ⟨?_, fun _ _ => leaves⟩
    intro _ idempotencyKey' revision' isStop
    have revisions : revision = revision' := stopKey_revision (isKey.symm.trans isStop)
    rw [← revisions]
    exact leaves

theorem holds_stopInstances {input : RuntimeDeploymentReconcileInput}
    {targets : List RuntimeInfrastructureInstanceTarget} (few : targets.length ≤ 1) :
    (supervising names spec spared).Holds
      (Leaves spared deployment.observedRevision
        (targets.map RuntimeInfrastructureInstanceTarget.processName))
      (RuntimeDeploymentReconciler.stopInstances deployment input targets)
      (fun _ => Leaves spared deployment.observedRevision []) := by
  match targets, few with
  | [], _ => exact holds_pure fun _ leaves => leaves
  | [target], _ =>
    have stops : (supervising names spec spared).Holds
        (Leaves spared deployment.observedRevision [target.processName])
        (RuntimeLifecycleManager.run .stop target
          (stepContext input.context "stop" deployment.observedRevision))
        (fun _ => Leaves spared deployment.observedRevision []) :=
      holds_stop rfl
    apply holds_bind (holds_cancellable stops (lasting_leaves _ _) fun _ => lasting_leaves _ _)
    intro _
    exact holds_pure fun _ leaves => leaves

end Deployments

end SdarRuntime
