import Mathlib.Data.List.Basic
import SdarRuntime.Library.Logic
import SdarRuntime.Deployments.Control

/-!
What the programs of a deployment may count on from one another, and what each of their statements
must satisfy where it happens. A row's revision fixes its status, so a fact about a row at one
revision is lost only with that revision.

Some of it holds only in runs that are spared certain steps: `spared` stands for that.
-/

namespace SdarRuntime

namespace Deployments

structure RuntimeDeployment.Of (spec : RuntimeDeploymentSpec) (deployment : RuntimeDeployment) :
    Prop where
  providerId : deployment.providerId = spec.providerId
  deploymentId : deployment.deploymentId = spec.deploymentId
  authority : deployment.runtimeAuthority = (requestRuntimeDeployment spec).runtimeAuthority
  profile : deployment.databaseProfileId = (requestRuntimeDeployment spec).databaseProfileId
  endpoint : deployment.adapterEndpoint = spec.target.adapterEndpoint
  /-- A container elsewhere is never asked to stop and has no database of its own. -/
  direct : deployment.runtimeAuthority = .directContainer →
    deployment.desiredState = .running ∧
      deployment.status ∉ [.databaseProvisioning, .migrating, .stopped, .draining]

theorem request_of (spec : RuntimeDeploymentSpec) : (requestRuntimeDeployment spec).Of spec where
  providerId := rfl
  deploymentId := rfl
  authority := rfl
  profile := rfl
  endpoint := rfl
  direct := by
    intro _
    refine ⟨rfl, ?_⟩
    change RuntimeDeploymentStatus.requested ∉ _
    decide

theorem direct_statuses (status target : RuntimeDeploymentStatus)
    (possible : status ∉ [.databaseProvisioning, .migrating, .stopped, .draining])
    (allowed : target ∈ allowedTransitions status .directContainer)
    (notStopped : target ≠ .stopped) (notDraining : target ≠ .draining) :
    target ∉ [.databaseProvisioning, .migrating, .stopped, .draining] := by
  revert possible allowed notStopped notDraining
  cases status <;> cases target <;> decide

theorem RuntimeDeployment.Of.moves {spec : RuntimeDeploymentSpec} {deployment moved : RuntimeDeployment}
    {target expectedStatus : RuntimeDeploymentStatus} {expectedRevision : Nat}
    (ofSpec : deployment.Of spec)
    (accepted : deployment.transition target expectedStatus expectedRevision = .ok moved)
    (ends : deployment.runtimeAuthority = .directContainer →
      target ≠ .stopped ∧ target ≠ .draining) : moved.Of spec := by
  rcases RuntimeDeployment.transition_ok accepted with ⟨-, same, -⟩ | ⟨-, -, -, allowed, same⟩
  · rw [same]
    exact ofSpec
  · rw [same]
    refine { ofSpec with direct := ?_ }
    intro isDirect
    obtain ⟨notStopped, notDraining⟩ := ends isDirect
    obtain ⟨wanted, possible⟩ := ofSpec.direct isDirect
    refine ⟨wanted, ?_⟩
    rw [show deployment.runtimeAuthority = .directContainer from isDirect] at allowed
    exact direct_statuses _ _ possible allowed notStopped notDraining

def firstInstance (names : InstanceNames) (spec : RuntimeDeploymentSpec) : RuntimeProcess :=
  deriveRuntimeInstanceIdentity names spec.providerId spec.deploymentId 0

section Facts

variable (names : InstanceNames) (spec : RuntimeDeploymentSpec) (spared : Prop)

def RuntimeDeployment.At (copy : RuntimeDeployment) (store : DeploymentStore) : Prop :=
  copy.observedRevision ≤ store.deployment.observedRevision ∧
    (store.deployment.observedRevision = copy.observedRevision →
      store.deployment.status = copy.status)

/-- While the row drains at the revision, nothing runs but processes of the given names. -/
def Leaves (revision : Nat) (left : List String) (store : DeploymentStore) : Prop :=
  revision ≤ store.deployment.observedRevision ∧
    (store.deployment.observedRevision = revision →
      store.deployment.status = .draining ∧
        (spared → ∀ name ∈ store.running, name ∈ left))

def Allocated (store : DeploymentStore) : Prop :=
  store.processes = [firstInstance names spec]

def stopKey (idempotencyKey : String) (revision : Nat) : String :=
  "stop" ++ ":" ++ (idempotencyKey ++ ":" ++ "stop" ++ ":" ++ toString revision)

/-- What is recorded as stopped at a revision has left nothing running there. -/
def Accounts (key : String) (store : DeploymentStore) : Prop :=
  ∀ idempotencyKey revision, key = stopKey idempotencyKey revision →
    Leaves spared revision [] store

structure Supervised (store : DeploymentStore) : Prop where
  row : store.deployment.Of spec
  instances : store.processes = [] ∨ Allocated names spec store
  known : ∀ name, name ∈ store.running ∨ { action := .start, processName := name } ∈ store.inFlight →
    Allocated names spec store ∧ name = (firstInstance names spec).pm2Name
  completed : spared → ∀ key ∈ store.completed, Accounts spared key store
  stopped : spared → store.deployment.status = .stopped → store.running = []

end Facts

/-- The row keeps its revision and with it its status, or goes on to a later one. -/
structure Advances (store after : DeploymentStore) : Prop where
  revision : store.deployment.observedRevision ≤ after.deployment.observedRevision
  status : after.deployment.observedRevision = store.deployment.observedRevision →
    after.deployment.status = store.deployment.status
  processes : store.processes = [] ∨ after.processes = store.processes

/-- No process comes up, and a stop in flight stays so or is carried out. -/
structure Drains (store after : DeploymentStore) : Prop where
  running : ∀ name ∈ after.running, name ∈ store.running
  stops : ∀ name, { action := .stop, processName := name } ∈ store.inFlight →
    { action := .stop, processName := name } ∈ after.inFlight ∨ name ∉ after.running

def Meanwhile (spared : Prop) (store after : DeploymentStore) : Prop :=
  Advances store after ∧
    (spared → after.deployment.observedRevision = store.deployment.observedRevision →
      store.deployment.status = .draining → Drains store after)

theorem Advances.refl (store : DeploymentStore) : Advances store store :=
  ⟨Nat.le_refl _, fun _ => rfl, .inr rfl⟩

theorem Drains.refl (store : DeploymentStore) : Drains store store :=
  ⟨fun _ member => member, fun _ member => .inl member⟩

theorem meanwhile_refl (spared : Prop) (store : DeploymentStore) : Meanwhile spared store store :=
  ⟨.refl store, fun _ _ _ => .refl store⟩

theorem Advances.trans {first second third : DeploymentStore} (one : Advances first second)
    (two : Advances second third) : Advances first third where
  revision := Nat.le_trans one.revision two.revision
  status := by
    intro same
    have middle : second.deployment.observedRevision = first.deployment.observedRevision :=
      Nat.le_antisymm (same ▸ two.revision) one.revision
    rw [two.status (same.trans middle.symm), one.status middle]
  processes := by
    rcases one.processes with none | kept
    · exact .inl none
    · rcases two.processes with none | keptToo
      · left
        rw [← kept, none]
      · exact .inr (keptToo.trans kept)

theorem Drains.trans {first second third : DeploymentStore} (one : Drains first second)
    (two : Drains second third) : Drains first third where
  running := fun name member => one.running name (two.running name member)
  stops := by
    intro name inFlight
    rcases one.stops name inFlight with still | gone
    · exact two.stops name still
    · exact .inr fun member => gone (two.running name member)

theorem meanwhile_trans {spared : Prop} {first second third : DeploymentStore}
    (one : Meanwhile spared first second) (two : Meanwhile spared second third) :
    Meanwhile spared first third := by
  refine ⟨one.1.trans two.1, ?_⟩
  intro isSpared same draining
  have middle : second.deployment.observedRevision = first.deployment.observedRevision :=
    Nat.le_antisymm (same ▸ two.1.revision) one.1.revision
  have drainingStill : second.deployment.status = .draining := by
    rw [one.1.status middle, draining]
  exact (one.2 isSpared middle draining).trans
    (two.2 isSpared (same.trans middle.symm) drainingStill)

def Supervises (names : InstanceNames) (spec : RuntimeDeploymentSpec) (spared : Prop) :
    {β : Type} → DeploymentOp β → DeploymentStore → Prop
  | _, .save value expectedDesiredRevision expectedObservedRevision, store =>
    store.Matches value expectedDesiredRevision expectedObservedRevision →
      value.Of spec ∧ expectedObservedRevision ≤ value.observedRevision ∧
        (value.observedRevision = expectedObservedRevision →
          value.status = store.deployment.status) ∧
        (spared → value.status = .stopped → store.deployment.status = .draining →
          store.running = [])
  | _, .allocate _ _ ordinal, _ => ordinal = 0
  | _, .issue operation, store =>
    operation.action = .start →
      Allocated names spec store ∧
        operation.processName = (firstInstance names spec).pm2Name
  | _, .complete key, store => spared → Accounts spared key store
  | _, _, _ => True

def supervision (names : InstanceNames) (spec : RuntimeDeploymentSpec) (spared : Prop) :
    Contract DeploymentOp DeploymentCall DeploymentStore where
  Invariant := Supervised names spec spared
  Rely := Meanwhile spared
  rely_refl := meanwhile_refl spared
  rely_trans := meanwhile_trans
  Guarantee := Supervises names spec spared
  Asks := fun _ _ => True

/-- Statements a run is spared: one that records the deployment as stopped, other than from a
drain, while something runs, and one that brings a process up while the deployment drains or is
stopped. -/
def SparesStatement : {β : Type} → DeploymentOp β → DeploymentStore → Prop
  | _, .save value expectedDesiredRevision expectedObservedRevision, store =>
    store.Matches value expectedDesiredRevision expectedObservedRevision →
      value.status = .stopped →
        store.deployment.status = .stopped ∨ store.deployment.status = .draining ∨
          store.running = []
  | _, .settle operation, store =>
    operation ∈ store.inFlight → operation.action = .start →
      operation.processName ∈ store.running ∨
        (store.deployment.status ≠ .draining ∧ store.deployment.status ≠ .stopped)
  | _, _, _ => True

def Spares (executed : Executed DeploymentOp Unit) (store : DeploymentStore) : Prop :=
  SparesStatement executed.effect store

instance decidableSparesStatement {β : Type} (effect : DeploymentOp β) (store : DeploymentStore) :
    Decidable (SparesStatement effect store) :=
  match effect with
  | .save _ _ _ => inferInstanceAs (Decidable (_ → _ → _ ∨ _ ∨ _))
  | .settle _ => inferInstanceAs (Decidable (_ → _ → _ ∨ _ ∧ _))
  | .get _ _ | .allocate _ _ _ | .listByDeployment _ _ | .getCheckpoint | .insertCheckpoint _ _
  | .findCompleted _ | .complete _ | .issue _ => .isTrue trivial

instance decidableSpares (executed : Executed DeploymentOp Unit) (store : DeploymentStore) :
    Decidable (Spares executed store) :=
  inferInstanceAs (Decidable (SparesStatement executed.effect store))

section Keeps

variable {names : InstanceNames} {spec : RuntimeDeploymentSpec} {spared : Prop}
variable {store after : DeploymentStore}

theorem Leaves.meanwhile {revision : Nat} {left : List String}
    (leaves : Leaves spared revision left store) (meanwhile : Meanwhile spared store after) :
    Leaves spared revision left after := by
  refine ⟨Nat.le_trans leaves.1 meanwhile.1.revision, ?_⟩
  intro same
  have before : store.deployment.observedRevision = revision :=
    Nat.le_antisymm (same ▸ meanwhile.1.revision) leaves.1
  obtain ⟨draining, named⟩ := leaves.2 before
  refine ⟨?_, ?_⟩
  · rw [meanwhile.1.status (same.trans before.symm), draining]
  · intro isSpared name member
    have drains := meanwhile.2 isSpared (same.trans before.symm) draining
    exact named isSpared name (drains.running name member)

theorem RuntimeDeployment.At.advances {copy : RuntimeDeployment} (here : copy.At store)
    (advances : Advances store after) : copy.At after := by
  refine ⟨Nat.le_trans here.1 advances.revision, ?_⟩
  intro same
  have before : store.deployment.observedRevision = copy.observedRevision :=
    Nat.le_antisymm (same ▸ advances.revision) here.1
  rw [advances.status (same.trans before.symm), here.2 before]

theorem Allocated.advances (allocated : Allocated names spec store)
    (advances : Advances store after) : Allocated names spec after := by
  rcases advances.processes with none | kept
  · rw [Allocated, none] at allocated
    cases allocated
  · rw [Allocated, kept]
    exact allocated

theorem Supervised.identity (supervised : Supervised names spec spared store)
    {providerId deploymentId : String} (named : store.Names providerId deploymentId) :
    deriveRuntimeInstanceIdentity names providerId deploymentId 0 = firstInstance names spec := by
  rw [firstInstance, ← named.1, ← named.2, supervised.row.providerId,
    supervised.row.deploymentId]

theorem Supervised.of_row (supervised : Supervised names spec spared store)
    (row : after.deployment.Of spec) (processes : after.processes = store.processes) (inFlight : after.inFlight = store.inFlight)
    (running : after.running = store.running)
    (completed : spared → ∀ key ∈ after.completed, Accounts spared key after)
    (stopped : spared → after.deployment.status = .stopped → after.running = []) :
    Supervised names spec spared after where
  row := row
  instances := by
    rw [Allocated, processes]
    exact supervised.instances
  known := by
    intro name present
    rw [running, inFlight] at present
    rw [Allocated, processes]
    exact supervised.known name present
  completed := completed
  stopped := stopped

theorem Supervised.accounts (supervised : Supervised names spec spared store)
    (meanwhile : Meanwhile spared store after) (isSpared : spared) :
    ∀ key ∈ store.completed, Accounts spared key after :=
  fun key member idempotencyKey revision isStop =>
    (supervised.completed isSpared key member idempotencyKey revision isStop).meanwhile meanwhile

theorem Supervised.of_same (supervised : Supervised names spec spared store)
    (deployment : after.deployment = store.deployment) (processes : after.processes = store.processes)
    (inFlight : after.inFlight = store.inFlight) (running : after.running = store.running)
    (completed : after.completed = store.completed) :
    Supervised names spec spared after ∧ Meanwhile spared store after := by
  have meanwhile : Meanwhile spared store after := by
    refine ⟨⟨?_, ?_, .inr processes⟩, ?_⟩
    · exact Nat.le_of_eq (by rw [deployment])
    · intro _
      rw [deployment]
    · intro _ _ _
      refine ⟨?_, ?_⟩
      · intro name member
        rw [← running]
        exact member
      · intro name member
        rw [inFlight]
        exact .inl member
  refine ⟨supervised.of_row ?_ processes inFlight running ?_ ?_, meanwhile⟩
  · rw [deployment]
    exact supervised.row
  · intro isSpared
    rw [completed]
    exact supervised.accounts meanwhile isSpared
  · intro isSpared isStopped
    rw [deployment] at isStopped
    rw [running]
    exact supervised.stopped isSpared isStopped

theorem Supervised.save (supervised : Supervised names spec spared store)
    {value : RuntimeDeployment} {expectedDesiredRevision expectedObservedRevision : Nat}
    (isRow : store.Matches value expectedDesiredRevision expectedObservedRevision)
    (supervises : Supervises names spec spared
      (.save value expectedDesiredRevision expectedObservedRevision) store)
    (spares : spared → SparesStatement
      (.save value expectedDesiredRevision expectedObservedRevision) store) :
    Supervised names spec spared (store.update value) ∧
      Meanwhile spared store (store.update value) := by
  obtain ⟨ofSpec, later, sameStatus, drained⟩ := supervises isRow
  have here : store.deployment.observedRevision = expectedObservedRevision := isRow.2.2
  have meanwhile : Meanwhile spared store (store.update value) := by
    refine ⟨⟨?_, ?_, .inr rfl⟩, fun _ _ _ => ⟨fun _ member => member, fun _ member => .inl member⟩⟩
    · rw [here]
      exact later
    · intro same
      exact sameStatus (same.trans here)
  refine ⟨supervised.of_row ?_ rfl rfl rfl ?_ ?_, meanwhile⟩
  · refine { supervised.row with direct := ?_ }
    intro isDirect
    apply ofSpec.direct
    rw [ofSpec.authority, ← supervised.row.authority]
    exact isDirect
  · exact fun isSpared => supervised.accounts meanwhile isSpared
  · intro isSpared isStopped
    rcases spares isSpared isRow isStopped with already | draining | nothing
    · exact supervised.stopped isSpared already
    · exact drained isSpared isStopped draining
    · exact nothing

theorem Supervised.allocate (supervised : Supervised names spec spared store)
    (providerId deploymentId : String) :
    Supervised names spec spared
        (execute names (.allocate providerId deploymentId 0) store).2 ∧
      Meanwhile spared store (execute names (.allocate providerId deploymentId 0) store).2 ∧
      ∀ process, (execute names (.allocate providerId deploymentId 0) store).1 = .ok process →
        process.pm2Name = (firstInstance names spec).pm2Name ∧
          Allocated names spec (execute names (.allocate providerId deploymentId 0) store).2 := by
  have stays : Supervised names spec spared store ∧ Meanwhile spared store store :=
    supervised.of_same rfl rfl rfl rfl rfl
  simp only [execute, DeploymentStore.allocate]
  by_cases named : store.Names providerId deploymentId
  · rw [if_pos named, supervised.identity named]
    rcases supervised.instances with none | one
    · rw [none]
      refine ⟨?_, ?_, ?_⟩
      · refine { supervised with
          instances := .inr rfl
          known := ?_ }
        intro name present
        have impossible := (supervised.known name present).1
        rw [Allocated, none] at impossible
        cases impossible
      · exact ⟨⟨Nat.le_refl _, fun _ => rfl, .inl none⟩,
          fun _ _ _ => ⟨fun _ member => member, fun _ member => .inl member⟩⟩
      · intro process isOk
        cases isOk
        exact ⟨rfl, rfl⟩
    · rw [show store.processes = [firstInstance names spec] from one]
      simp only [List.find?_cons, decide_true, if_true]
      refine ⟨stays.1, stays.2, ?_⟩
      intro process isOk
      cases isOk
      exact ⟨rfl, one⟩
  · rw [if_neg named]
    refine ⟨stays.1, stays.2, ?_⟩
    intro process isOk
    cases isOk

theorem Supervised.settle (supervised : Supervised names spec spared store)
    {operation : ProcessOperation} (inFlight : operation ∈ store.inFlight)
    (spares : spared → operation.action = .start →
      operation.processName ∈ store.running ∨
        (store.deployment.status ≠ .draining ∧ store.deployment.status ≠ .stopped)) :
    Supervised names spec spared (store.carryOut operation) ∧
      Meanwhile spared store (store.carryOut operation) := by
  have runs : ∀ name ∈ (store.carryOut operation).running, name ∈ store.running ∨
      (operation.action = .start ∧ name = operation.processName) := by
    intro name member
    obtain ⟨action, processName⟩ := operation
    cases action with
    | start =>
      simp only [DeploymentStore.carryOut] at member
      split at member
      · exact .inl member
      · rcases List.mem_cons.mp member with isNew | old
        · exact .inr ⟨rfl, isNew⟩
        · exact .inl old
    | stop => exact .inl (List.mem_filter.mp member).1
  have nothingNew (isSpared : spared)
      (atRest : store.deployment.status = .draining ∨ store.deployment.status = .stopped) :
      ∀ name ∈ (store.carryOut operation).running, name ∈ store.running := by
    intro name member
    rcases runs name member with old | ⟨starts, isName⟩
    · exact old
    · rcases spares isSpared starts with already | ⟨notDraining, notStopped⟩
      · exact isName ▸ already
      · rcases atRest with draining | isStopped
        · exact absurd draining notDraining
        · exact absurd isStopped notStopped
  have meanwhile : Meanwhile spared store (store.carryOut operation) := by
    refine ⟨⟨Nat.le_refl _, fun _ => rfl, .inr rfl⟩, fun isSpared _ draining => ⟨?_, ?_⟩⟩
    · exact nothingNew isSpared (.inl draining)
    · intro name stopping
      by_cases isThis : { action := .stop, processName := name } = operation
      · right
        intro member
        rw [← isThis] at member
        have kept := (List.mem_filter.mp member).2
        simp at kept
      · left
        exact (List.mem_erase_of_ne isThis).mpr stopping
  refine ⟨?_, meanwhile⟩
  refine { supervised with
    known := ?_
    completed := fun isSpared => supervised.accounts meanwhile isSpared
    stopped := ?_ }
  · intro name present
    rcases present with member | starting
    · rcases runs name member with old | ⟨starts, isName⟩
      · exact supervised.known name (.inl old)
      · apply supervised.known name
        right
        obtain ⟨action, processName⟩ := operation
        cases starts
        cases isName
        exact inFlight
    · exact supervised.known name (.inr (List.mem_of_mem_erase starting))
  · intro isSpared isStopped
    have none : store.running = [] := supervised.stopped isSpared isStopped
    apply List.eq_nil_iff_forall_not_mem.mpr
    intro name member
    have impossible := nothingNew isSpared (.inr isStopped) name member
    rw [none] at impossible
    cases impossible

/-- Whatever a program does under the contract keeps the invariant and is what the others count on,
in a run that is spared. -/
theorem supervision_keeps (executed : Executed DeploymentOp Unit) (store : DeploymentStore)
    (supervised : Supervised names spec spared store)
    (supervises : Supervises names spec spared executed.effect store)
    (spares : spared → Spares executed store) :
    Supervised names spec spared (executed.after (machine names) store) ∧
      Meanwhile spared store (executed.after (machine names) store) := by
  obtain ⟨effect, clock⟩ := executed
  have stays : Supervised names spec spared store ∧ Meanwhile spared store store :=
    supervised.of_same rfl rfl rfl rfl rfl
  unfold Executed.after
  change Supervised names spec spared (execute names effect store).2 ∧
    Meanwhile spared store (execute names effect store).2
  cases effect with
  | get providerId deploymentId => exact stays
  | listByDeployment providerId deploymentId => exact stays
  | getCheckpoint => exact stays
  | findCompleted key => exact stays
  | save value expectedDesiredRevision expectedObservedRevision =>
    simp only [execute]
    by_cases isRow : store.Matches value expectedDesiredRevision expectedObservedRevision
    · rw [if_pos isRow]
      exact supervised.save isRow supervises spares
    · rw [if_neg isRow]
      exact stays
  | allocate providerId deploymentId ordinal =>
    rw [show ordinal = 0 from supervises]
    have allocates := supervised.allocate providerId deploymentId
    exact ⟨allocates.1, allocates.2.1⟩
  | insertCheckpoint checkpoint expectedRevision =>
    simp only [execute]
    split
    · exact supervised.of_same rfl rfl rfl rfl rfl
    · exact stays
  | complete key =>
    have meanwhile : Meanwhile spared store
        { store with completed := key :: store.completed } :=
      ⟨⟨Nat.le_refl _, fun _ => rfl, .inr rfl⟩,
        fun _ _ _ => ⟨fun _ member => member, fun _ member => .inl member⟩⟩
    refine ⟨supervised.of_row supervised.row rfl rfl rfl ?_ supervised.stopped, meanwhile⟩
    intro isSpared other member
    rcases List.mem_cons.mp member with isKey | old
    · rw [isKey]
      exact supervises isSpared
    · exact supervised.accounts meanwhile isSpared other old
  | issue operation =>
    refine ⟨{ supervised with known := ?_ },
      ⟨⟨Nat.le_refl _, fun _ => rfl, .inr rfl⟩, fun _ _ _ => ⟨?_, ?_⟩⟩⟩
    · intro name present
      rcases present with member | starting
      · exact supervised.known name (.inl member)
      · rcases List.mem_cons.mp starting with isThis | old
        · rw [← isThis] at supervises
          exact supervises rfl
        · exact supervised.known name (.inr old)
    · exact fun _ member => member
    · exact fun _ member => .inl (List.mem_cons_of_mem _ member)
  | settle operation =>
    simp only [execute]
    by_cases inFlight : operation ∈ store.inFlight
    · rw [if_pos inFlight]
      exact supervised.settle inFlight fun isSpared => spares isSpared inFlight
    · rw [if_neg inFlight]
      exact stays

end Keeps

end Deployments

end SdarRuntime
