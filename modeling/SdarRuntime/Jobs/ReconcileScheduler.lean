import SdarRuntime.Deployments.Control
import SdarRuntime.Jobs.LeaseFence

/-!
The scheduler of periodic reconciliation. A tick takes an advisory lock for its transaction,
inserts a job for each due deployment that has no pending or leased reconcile job, and commits.
Jobs that have failed are history to it, although the workers claim them again.
-/

namespace SdarRuntime

namespace Jobs

open Deployments (RuntimeDeploymentStatus RuntimeDeploymentCommandType)

open OrderedMap

def runtimeReconcileJobType : String := "runtime_deployment.reconcile"

inductive ReconcileIntent where
  | create
  | command (command : RuntimeDeploymentCommandType)

/-- What a reconcile job is for; a job of the scheduler has no intent. -/
structure ReconcilePayload where
  providerId : String
  deploymentId : String
  intent : Option ReconcileIntent

structure DeploymentRow where
  deploymentId : String
  providerId : String
  status : RuntimeDeploymentStatus
  updatedAt : Instant

structure ScheduleRuntimeReconcileJobs where
  limit : Int
  minimumAgeMs : Int

structure PeriodicJob where
  jobId : String
  providerId : String
  deploymentId : String
  insertedAt : Instant

/-- The tick whose transaction holds the advisory lock, with the rows it has inserted. -/
structure SchedulerTick where
  id : Nat
  input : ScheduleRuntimeReconcileJobs
  inserted : Option (List PeriodicJob)

/-- The table of jobs with the payloads of the reconcile jobs, the table of deployments, and the
tick under way. -/
structure ReconcileSystem where
  jobs : JobSystem
  payloads : OrderedMap String ReconcilePayload
  deployments : OrderedMap String DeploymentRow
  tick : Option SchedulerTick

/-- Deployments are written by other code; a command on one enqueues a job with its intent. -/
inductive ReconcileEvent where
  | job (event : Event)
  | deployment (row : DeploymentRow)
  | command (jobId providerId deploymentId : String) (intent : ReconcileIntent)
  | beginTick (id : Nat) (input : ScheduleRuntimeReconcileJobs)
  | enqueueCandidates (id : Nat) (uuid : String → String)
  | commitTick (id : Nat)
  | rollbackTick (id : Nat)

/-- The states in which a deployment is reconciled again and again. -/
def continuing (status : RuntimeDeploymentStatus) : Bool :=
  match status with
  | .requested => true
  | .databaseProvisioning => true
  | .migrating => true
  | .configPreparing => true
  | .starting => true
  | .healthChecking => true
  | .discovering => true
  | .active => true
  | .draining => true
  | .degraded => true
  | .stopped => false
  | .failed => false

def updatedEarlier (left right : DeploymentRow) : Bool :=
  decide (left.updatedAt < right.updatedAt) ||
    (decide (left.updatedAt = right.updatedAt) && decide (left.deploymentId ≤ right.deploymentId))

def pendingOrLeased (job : PmsJob) : Bool :=
  match job.status with
  | .pending => true
  | .leased _ _ _ => true
  | .succeeded => false
  | .failed => false

def withinBounds (input : ScheduleRuntimeReconcileJobs) : Bool :=
  decide (1 ≤ input.limit ∧ input.limit ≤ 500 ∧ 0 ≤ input.minimumAgeMs ∧
    input.minimumAgeMs ≤ 300000)

def periodicJob (now : Instant) (uuid : String → String) (row : DeploymentRow) : PeriodicJob := {
  jobId := "runtime-reconcile-periodic:" ++ uuid row.deploymentId
  providerId := row.providerId
  deploymentId := row.deploymentId
  insertedAt := now
}

namespace ReconcileSystem

def hasEffectiveJob (system : ReconcileSystem) (row : DeploymentRow) : Bool :=
  system.payloads.entries.any fun (jobId, payload) =>
    payload.providerId == row.providerId && payload.deploymentId == row.deploymentId &&
      match system.jobs.jobs.get? jobId with
      | none => false
      | some job => job.jobType == runtimeReconcileJobType && pendingOrLeased job

def due (system : ReconcileSystem) (minimumAgeMs : Int) (row : DeploymentRow) : Bool :=
  continuing row.status && decide (row.updatedAt ≤ system.jobs.now.addMilliseconds (-minimumAgeMs)) &&
    !system.hasEffectiveJob row

def tickCandidates (system : ReconcileSystem) (input : ScheduleRuntimeReconcileJobs) :
    List DeploymentRow :=
  ((system.deployments.values.filter (system.due input.minimumAgeMs)).mergeSort
    updatedEarlier).take input.limit.toNat

/-- The keys of the rows that are not committed yet: whoever inserts one waits for the tick. -/
def uncommitted (system : ReconcileSystem) : List String :=
  match system.tick.bind SchedulerTick.inserted with
  | none => []
  | some rows => rows.map PeriodicJob.jobId

def commitRow (system : ReconcileSystem) (row : PeriodicJob) : ReconcileSystem :=
  { system with
    jobs := { system.jobs with
      jobs := system.jobs.jobs.set row.jobId {
        jobId := row.jobId
        jobType := runtimeReconcileJobType
        status := .pending
        attempt := 0
        fencingToken := 0
        availableAt := row.insertedAt
        createdAt := row.insertedAt
      } }
    payloads := system.payloads.set row.jobId {
      providerId := row.providerId
      deploymentId := row.deploymentId
      intent := none
    } }

/-- The statement of a tick: a key that is taken makes it throw, and the tick rolls back. -/
def enqueueCandidates (system : ReconcileSystem) (tick : SchedulerTick)
    (uuid : String → String) : ReconcileSystem :=
  let rows := (system.tickCandidates tick.input).map (periodicJob system.jobs.now uuid)
  if (rows.map PeriodicJob.jobId).Nodup ∧
      ∀ jobId ∈ rows.map PeriodicJob.jobId, system.jobs.jobs.get? jobId = none then
    { system with tick := some { tick with inserted := some rows } }
  else { system with tick := none }

def onTick (system : ReconcileSystem) (id : Nat) (step : SchedulerTick → ReconcileSystem) :
    ReconcileSystem :=
  match system.tick with
  | none => system
  | some tick => if tick.id = id then step tick else system

def jobStep (system : ReconcileSystem) (event : Event) : ReconcileSystem :=
  match event with
  | .enqueue jobId _ _ =>
    if jobId ∈ system.uncommitted then system
    else { system with jobs := system.jobs.next event }
  | _ => { system with jobs := system.jobs.next event }

def next (system : ReconcileSystem) (event : ReconcileEvent) : ReconcileSystem :=
  match event with
  | .job event => system.jobStep event
  | .deployment row => { system with deployments := system.deployments.set row.deploymentId row }
  | .command jobId providerId deploymentId intent =>
    if jobId ∈ system.uncommitted ∨ (system.jobs.jobs.get? jobId).isSome then system
    else { system with
      jobs := system.jobs.enqueue jobId runtimeReconcileJobType none
      payloads := system.payloads.set jobId {
        providerId := providerId
        deploymentId := deploymentId
        intent := some intent
      } }
  | .beginTick id input =>
    if withinBounds input ∧ system.tick.isNone then
      { system with tick := some { id := id, input := input, inserted := none } }
    else system
  | .enqueueCandidates id uuid => system.onTick id fun tick =>
    if tick.inserted.isNone then system.enqueueCandidates tick uuid else system
  | .commitTick id => system.onTick id fun tick =>
    match tick.inserted with
    | none => system
    | some rows => { rows.foldl commitRow system with tick := none }
  | .rollbackTick id => system.onTick id fun _ => { system with tick := none }

def initial (now : Instant) : ReconcileSystem := {
  jobs := JobSystem.initial now
  payloads := empty
  deployments := empty
  tick := none
}

def statusIs (system : ReconcileSystem) (holds : JobStatus → Bool) (jobId : String) : Bool :=
  match system.jobs.jobs.get? jobId with
  | none => false
  | some job => holds job.status

def hasFailed (system : ReconcileSystem) (jobId : String) : Bool :=
  system.statusIs (fun status => status == .failed) jobId

/-- The periodic jobs of a deployment that are pending, leased, or failed and waiting for their
retry. -/
def unfinishedPeriodicJobs (system : ReconcileSystem) (providerId deploymentId : String) :
    List String :=
  (system.payloads.entries.filter fun (jobId, payload) =>
    payload.providerId == providerId && payload.deploymentId == deploymentId &&
      payload.intent.isNone && system.statusIs (fun status => status != .succeeded) jobId).map
    Prod.fst

def run (now : Instant) (events : List ReconcileEvent) : ReconcileSystem :=
  Histories.after next (initial now) events

def everFailed (now : Instant) (events : List ReconcileEvent) (jobId : String) : Bool :=
  events.inits.any fun earlier => (run now earlier).hasFailed jobId

end ReconcileSystem

namespace JobSystem

def Named (system : JobSystem) : Prop :=
  ∀ jobId job, system.jobs.get? jobId = some job → job.jobId = jobId

/-- Where a row of the later table comes from: a row of the same type, or an enqueued job. -/
structure RowsFrom (before later : JobSystem) (enqueued : String → Prop) : Prop where
  named : later.Named
  kept : ∀ jobId job, before.jobs.get? jobId = some job →
    ∃ row, later.jobs.get? jobId = some row ∧ row.jobType = job.jobType ∧
      (job.status = .succeeded → row.status = .succeeded)
  added : ∀ jobId, before.jobs.get? jobId = none → ¬ enqueued jobId →
    later.jobs.get? jobId = none

theorem Named.same_rows {before later : JobSystem} (named : before.Named)
    (same : later.jobs = before.jobs) (enqueued : String → Prop) :
    RowsFrom before later enqueued := by
  constructor
  · intro jobId job found
    rw [same] at found
    exact named jobId job found
  · intro jobId job found
    refine ⟨job, ?_, rfl, id⟩
    rw [same]
    exact found
  · intro jobId absent _
    rw [same]
    exact absent

theorem Named.enqueue {system : JobSystem} (named : system.Named) (jobId jobType : String)
    (availableAt : Option Instant) :
    RowsFrom system (system.enqueue jobId jobType availableAt) (fun other => other = jobId) := by
  unfold JobSystem.enqueue
  split
  · exact named.same_rows rfl _
  · rename_i absent
    constructor
    · intro other row found
      rw [get?_set] at found
      split at found
      · rename_i isNew
        cases found
        exact isNew.symm
      · exact named other row found
    · intro other job found
      have different : other ≠ jobId := by
        intro isNew
        rw [← isNew, found] at absent
        exact absent rfl
      refine ⟨job, ?_, rfl, id⟩
      rw [get?_set_ne _ _ different]
      exact found
    · intro other unknown different
      rw [get?_set_ne _ _ different]
      exact unknown

theorem Named.claim {system : JobSystem} (named : system.Named) (input : ClaimJobs)
    (locked : String → Bool) (token : String → String) (enqueued : String → Prop) :
    RowsFrom system (system.claim input locked token) enqueued := by
  unfold JobSystem.claim
  split
  · exact named.same_rows rfl _
  · split
    · exact named.same_rows rfl _
    · have takes := candidates_take named locked input
      have claims := takes.claims token input
      generalize candidates system.now locked input system.jobs = jobs at takes claims ⊢
      generalize jobs.foldl (JobSystem.grant token input) system = later at claims ⊢
      constructor
      · intro jobId row found
        by_cases taken : jobId ∈ jobs.map PmsJob.jobId
        · obtain ⟨job, member, sameId⟩ := List.mem_map.mp taken
          rw [← sameId, (claims.taken job member).1] at found
          cases found
          exact sameId
        · rw [(claims.kept jobId taken).1] at found
          exact named jobId row found
      · intro jobId job found
        by_cases taken : jobId ∈ jobs.map PmsJob.jobId
        · obtain ⟨row, member, sameId⟩ := List.mem_map.mp taken
          obtain ⟨isRow, notDone, _⟩ := takes.takeable row member
          rw [sameId, found] at isRow
          cases isRow
          refine ⟨claimedJob system.now token input job, ?_, rfl, fun done => absurd done notDone⟩
          rw [← sameId]
          exact (claims.taken job member).1
        · exact ⟨job, by rw [(claims.kept jobId taken).1, found], rfl, id⟩
      · intro jobId absent _
        by_cases taken : jobId ∈ jobs.map PmsJob.jobId
        · obtain ⟨row, member, sameId⟩ := List.mem_map.mp taken
          obtain ⟨isRow, _⟩ := takes.takeable row member
          rw [sameId, absent] at isRow
          cases isRow
        · rw [(claims.kept jobId taken).1, absent]

theorem updatedJob_type {now : Instant} {statement : LeaseStatement} {job updated : PmsJob}
    (executed : updatedJob now statement job = some updated) :
    updated.jobType = job.jobType := by
  unfold updatedJob at executed
  split at executed
  · split at executed
    · cases executed
      rfl
    · cases executed
  · cases executed
    rfl
  · cases executed
    rfl
  · cases executed
    rfl
  · cases executed

theorem Named.operate {system later : JobSystem} (named : system.Named)
    {identity : LeaseIdentity} {statement : LeaseStatement}
    (executed : system.operate identity statement = .ok later) (enqueued : String → Prop) :
    RowsFrom system later enqueued := by
  obtain ⟨job, updated, found, owned, changed, same⟩ := operate_ok executed
  have sameId := (updatedJob_cases changed).1
  obtain ⟨⟨expiresAt, status⟩, _⟩ := owns_iff.mp owned
  subst same
  constructor
  · intro jobId row rowFound
    rw [get?_set] at rowFound
    split at rowFound
    · rename_i isJob
      cases rowFound
      rw [sameId, isJob]
      exact named _ job found
    · exact named jobId row rowFound
  · intro jobId row rowFound
    by_cases isJob : jobId = identity.jobId
    · subst isJob
      rw [found] at rowFound
      cases rowFound
      refine ⟨updated, get?_set_self _ _ _, updatedJob_type changed, ?_⟩
      intro done
      rw [status] at done
      cases done
    · refine ⟨row, ?_, rfl, id⟩
      rw [get?_set_ne _ _ isJob]
      exact rowFound
  · intro jobId absent _
    have different : jobId ≠ identity.jobId := by
      intro isJob
      rw [isJob, found] at absent
      cases absent
    rw [get?_set_ne _ _ different]
    exact absent

def enqueues (event : Event) (jobId : String) : Prop :=
  ∃ jobType availableAt, event = .enqueue jobId jobType availableAt

theorem Named.next {system : JobSystem} (named : system.Named) (event : Event) :
    RowsFrom system (system.next event) (enqueues event) := by
  have onExecution (id : Nat) (step : Execution → JobSystem)
      (each : ∀ execution, RowsFrom system (step execution) (enqueues event)) :
      RowsFrom system (system.onExecution id step) (enqueues event) := by
    unfold JobSystem.onExecution
    split
    · apply named.same_rows
      rfl
    · exact each _
  cases event with
  | tick microseconds =>
    apply named.same_rows
    rfl
  | enqueue jobId jobType availableAt =>
    have rows := named.enqueue jobId jobType availableAt
    constructor
    · exact rows.named
    · exact rows.kept
    · intro other absent different
      apply rows.added other absent
      intro isNew
      exact different ⟨jobType, availableAt, by rw [isNew]⟩
  | claim input locked token => exact named.claim input locked token _
  | operate identity statement =>
    simp only [JobSystem.next]
    cases executed : system.operate identity statement with
    | ok after => exact named.operate executed _
    | error failure => exact named.same_rows rfl _
  | start id identity leaseDurationMs retryDelayMs handlerPresent workerStopped =>
    simp only [JobSystem.next]
    split
    · apply named.same_rows
      rfl
    · apply named.same_rows
      rfl
  | renewalExecutes id arrives =>
    apply onExecution
    intro execution
    unfold renewalExecutes
    split
    · split
      · rename_i after executed
        split at executed
        · have rows := named.operate executed (enqueues (.renewalExecutes id arrives))
          exact ⟨rows.named, rows.kept, rows.added⟩
        · cases executed
      · apply named.same_rows
        rfl
    · apply named.same_rows
      rfl
  | reportExecutes id clientClock =>
    apply onExecution
    intro execution
    unfold reportExecutes
    split
    · split
      · rename_i after executed
        have rows := named.operate executed (enqueues (.reportExecutes id clientClock))
        exact ⟨rows.named, rows.kept, rows.added⟩
      · apply named.same_rows
        rfl
    · apply named.same_rows
      rfl
  | workerStops | sendRenewal | renewalAnswered | renewalStops | handlerSettles | report
  | reportAnswered | crash =>
    apply onExecution
    intro execution
    apply named.same_rows
    rfl

end JobSystem

namespace ReconcileSystem

/-- An unfinished periodic job of the deployment that is not among the failed ones. -/
structure Open (failed : String → Prop) (system : ReconcileSystem)
    (jobId providerId deploymentId : String) : Prop where
  periodic : ∃ payload, system.payloads.get? jobId = some payload ∧
    payload.providerId = providerId ∧ payload.deploymentId = deploymentId ∧
      payload.intent = none
  unfinished : ∃ job, system.jobs.jobs.get? jobId = some job ∧ job.status ≠ .succeeded
  unfailed : ¬ failed jobId

/-- The failed jobs that are known include those whose row is failed now. -/
def Records (failed : String → Prop) (system : ReconcileSystem) : Prop :=
  ∀ jobId job, system.jobs.jobs.get? jobId = some job → job.status = .failed → failed jobId

/-- While a tick has rows that are not committed, no open job competes with them. -/
structure Guarded (failed : String → Prop) (system : ReconcileSystem) : Prop where
  named : system.jobs.Named
  keyed : ∀ deploymentId row, system.deployments.get? deploymentId = some row →
    row.deploymentId = deploymentId
  typed : ∀ jobId payload, system.payloads.get? jobId = some payload →
    ∃ job, system.jobs.jobs.get? jobId = some job ∧ job.jobType = runtimeReconcileJobType
  one : ∀ first second providerId deploymentId, Open failed system first providerId deploymentId →
    Open failed system second providerId deploymentId → first = second
  apart : ∀ tick rows, system.tick = some tick → tick.inserted = some rows →
    (rows.map PeriodicJob.deploymentId).Nodup ∧
      ∀ row ∈ rows, ∀ jobId, ¬ Open failed system jobId row.providerId row.deploymentId

theorem initial_guarded (now : Instant) (failed : String → Prop) :
    Guarded failed (initial now) := by
  constructor
  · intro jobId job found
    cases found
  · intro deploymentId row found
    cases found
  · intro jobId payload found
    cases found
  · intro first second providerId deploymentId isOpen
    obtain ⟨payload, found, _⟩ := isOpen.periodic
    cases found
  · intro tick rows found
    cases found

section Steps

variable {failed later : String → Prop} {system : ReconcileSystem}

/-- Where every open job was open before, no tick is further than it was, and what else is asked
for still holds, the guard is kept. -/
theorem Guarded.narrows {after : ReconcileSystem} (guarded : Guarded failed system)
    (named : after.jobs.Named)
    (keyed : ∀ deploymentId row, after.deployments.get? deploymentId = some row →
      row.deploymentId = deploymentId)
    (typed : ∀ jobId payload, after.payloads.get? jobId = some payload →
      ∃ job, after.jobs.jobs.get? jobId = some job ∧ job.jobType = runtimeReconcileJobType)
    (wasOpen : ∀ jobId providerId deploymentId, Open later after jobId providerId deploymentId →
      Open failed system jobId providerId deploymentId)
    (ticks : ∀ tick rows, after.tick = some tick → tick.inserted = some rows →
      system.tick = some tick) : Guarded later after := by
  constructor
  · exact named
  · exact keyed
  · exact typed
  · intro first second providerId deploymentId firstOpen secondOpen
    exact guarded.one first second providerId deploymentId (wasOpen _ _ _ firstOpen)
      (wasOpen _ _ _ secondOpen)
  · intro tick rows isTick inserted
    obtain ⟨distinct, none⟩ := guarded.apart tick rows (ticks tick rows isTick inserted) inserted
    refine ⟨distinct, ?_⟩
    intro row member jobId isOpen
    exact none row member jobId (wasOpen _ _ _ isOpen)

/-- A step of the table of jobs that adds no row with the key of a reconcile job. -/
theorem Guarded.job_rows (guarded : Guarded failed system) {jobs : JobSystem}
    {enqueued : String → Prop} (rows : system.jobs.RowsFrom jobs enqueued)
    (grows : ∀ jobId, failed jobId → later jobId) :
    Guarded later { system with jobs := jobs } := by
  apply guarded.narrows
  · exact rows.named
  · exact guarded.keyed
  · intro jobId payload found
    obtain ⟨job, jobFound, isReconcile⟩ := guarded.typed jobId payload found
    obtain ⟨row, rowFound, sameType, _⟩ := rows.kept jobId job jobFound
    exact ⟨row, rowFound, sameType.trans isReconcile⟩
  · intro jobId providerId deploymentId isOpen
    obtain ⟨payload, found, same⟩ := isOpen.periodic
    obtain ⟨job, jobFound, _⟩ := guarded.typed jobId payload found
    obtain ⟨row, rowFound, _, doneStays⟩ := rows.kept jobId job jobFound
    obtain ⟨other, otherFound, notDone⟩ := isOpen.unfinished
    rw [rowFound] at otherFound
    cases otherFound
    exact {
      periodic := ⟨payload, found, same⟩
      unfinished := ⟨job, jobFound, fun done => notDone (doneStays done)⟩
      unfailed := fun isFailed => isOpen.unfailed (grows jobId isFailed)
    }
  · intro tick inserted isTick _
    exact isTick

theorem Guarded.of_same (guarded : Guarded failed system)
    (grows : ∀ jobId, failed jobId → later jobId) : Guarded later system :=
  guarded.job_rows (guarded.named.same_rows rfl fun _ => False) grows

theorem Guarded.jobStep (guarded : Guarded failed system) (event : Event)
    (grows : ∀ jobId, failed jobId → later jobId) :
    Guarded later (system.jobStep event) := by
  have step := guarded.job_rows (guarded.named.next event) grows
  cases event with
  | enqueue jobId jobType availableAt =>
    simp only [ReconcileSystem.jobStep]
    split
    · exact guarded.of_same grows
    · exact step
  | _ => exact step

theorem Guarded.without_rows (guarded : Guarded failed system) {tick : Option SchedulerTick}
    (without : ∀ holder, tick = some holder → holder.inserted = none)
    (grows : ∀ jobId, failed jobId → later jobId) :
    Guarded later { system with tick := tick } := by
  have same := guarded.of_same grows
  constructor
  · exact same.named
  · exact same.keyed
  · exact same.typed
  · intro first second providerId deploymentId firstOpen secondOpen
    exact same.one first second providerId deploymentId
      ⟨firstOpen.periodic, firstOpen.unfinished, firstOpen.unfailed⟩
      ⟨secondOpen.periodic, secondOpen.unfinished, secondOpen.unfailed⟩
  · intro holder rows isTick inserted
    rw [without holder isTick] at inserted
    cases inserted

theorem Guarded.command (guarded : Guarded failed system) {jobId : String}
    (fresh : system.jobs.jobs.get? jobId = none) (providerId deploymentId : String)
    (intent : ReconcileIntent) (grows : ∀ jobId, failed jobId → later jobId) :
    Guarded later { system with
      jobs := system.jobs.enqueue jobId runtimeReconcileJobType none
      payloads := system.payloads.set jobId {
        providerId := providerId
        deploymentId := deploymentId
        intent := some intent
      } } := by
  have rows := guarded.named.enqueue jobId runtimeReconcileJobType none
  apply guarded.narrows
  · exact rows.named
  · exact guarded.keyed
  · intro other payload found
    simp only at found ⊢
    by_cases isNew : other = jobId
    · subst isNew
      unfold JobSystem.enqueue
      rw [if_neg (by simp [fresh])]
      exact ⟨_, get?_set_self _ _ _, rfl⟩
    · rw [get?_set_ne _ _ isNew] at found
      obtain ⟨job, jobFound, isReconcile⟩ := guarded.typed other payload found
      obtain ⟨row, rowFound, sameType, _⟩ := rows.kept other job jobFound
      exact ⟨row, rowFound, sameType.trans isReconcile⟩
  · intro other provider deployment isOpen
    obtain ⟨payload, found, sameProvider, sameDeployment, noIntent⟩ := isOpen.periodic
    simp only at found
    by_cases isNew : other = jobId
    · rw [isNew, get?_set_self] at found
      cases found
      cases noIntent
    · rw [get?_set_ne _ _ isNew] at found
      obtain ⟨job, jobFound, _⟩ := guarded.typed other payload found
      obtain ⟨row, rowFound, _, doneStays⟩ := rows.kept other job jobFound
      obtain ⟨open_, openFound, notDone⟩ := isOpen.unfinished
      simp only [rowFound, Option.some.injEq] at openFound
      subst openFound
      exact {
        periodic := ⟨payload, found, sameProvider, sameDeployment, noIntent⟩
        unfinished := ⟨job, jobFound, fun done => notDone (doneStays done)⟩
        unfailed := fun isFailed => isOpen.unfailed (grows other isFailed)
      }
  · intro tick inserted isTick _
    exact isTick

/-- A candidate of a tick has no open job: such a job would be pending or leased. -/
theorem Guarded.candidate (guarded : Guarded failed system) (records : Records failed system)
    {input : ScheduleRuntimeReconcileJobs} {row : DeploymentRow}
    (member : row ∈ system.tickCandidates input) (jobId : String) :
    ¬ Open failed system jobId row.providerId row.deploymentId := by
  intro isOpen
  have sorted := List.mergeSort_perm
    (system.deployments.values.filter (system.due input.minimumAgeMs)) updatedEarlier
  have isDue := (List.mem_filter.mp (sorted.mem_iff.mp (List.mem_of_mem_take member))).2
  have unclaimed : system.hasEffectiveJob row = false := by
    simp only [due, Bool.and_eq_true, Bool.not_eq_true'] at isDue
    exact isDue.2
  obtain ⟨payload, found, sameProvider, sameDeployment, _⟩ := isOpen.periodic
  obtain ⟨job, jobFound, notDone⟩ := isOpen.unfinished
  obtain ⟨other, otherFound, isReconcile⟩ := guarded.typed jobId payload found
  rw [jobFound] at otherFound
  cases otherFound
  have effective : pendingOrLeased job = true := by
    unfold pendingOrLeased
    cases status : job.status with
    | pending => rfl
    | leased owner token expiresAt => rfl
    | succeeded => exact absurd status notDone
    | failed => exact absurd (records jobId job jobFound status) isOpen.unfailed
  have claimed : system.hasEffectiveJob row = true := by
    apply List.any_eq_true.mpr
    refine ⟨(jobId, payload), mem_entries.mpr found, ?_⟩
    simp only [jobFound, sameProvider, sameDeployment, isReconcile, effective, beq_self_eq_true,
      Bool.and_self]
  rw [claimed] at unclaimed
  cases unclaimed

theorem Guarded.candidates_distinct (guarded : Guarded failed system)
    (input : ScheduleRuntimeReconcileJobs) :
    ((system.tickCandidates input).map DeploymentRow.deploymentId).Nodup := by
  have sameIds : system.deployments.values.map DeploymentRow.deploymentId =
      system.deployments.keys := by
    simp only [OrderedMap.values, OrderedMap.keys, List.map_map]
    apply List.map_congr_left
    rintro ⟨key, row⟩ member
    exact guarded.keyed key row (mem_entries.mp member)
  have sorted := List.mergeSort_perm
    (system.deployments.values.filter (system.due input.minimumAgeMs)) updatedEarlier
  apply List.Nodup.sublist ((List.take_sublist _ _).map DeploymentRow.deploymentId)
  rw [(sorted.map DeploymentRow.deploymentId).nodup_iff]
  apply List.Nodup.sublist (List.filter_sublist.map DeploymentRow.deploymentId)
  rw [sameIds]
  exact system.deployments.distinct

theorem Guarded.enqueueCandidates (guarded : Guarded failed system)
    (records : Records failed system) (tick : SchedulerTick) (uuid : String → String)
    (grows : ∀ jobId, failed jobId → later jobId) :
    Guarded later (system.enqueueCandidates tick uuid) := by
  unfold ReconcileSystem.enqueueCandidates
  dsimp only
  split
  · have same := guarded.of_same grows
    constructor
    · exact same.named
    · exact same.keyed
    · exact same.typed
    · intro first second providerId deploymentId firstOpen secondOpen
      exact same.one first second providerId deploymentId
        ⟨firstOpen.periodic, firstOpen.unfinished, firstOpen.unfailed⟩
        ⟨secondOpen.periodic, secondOpen.unfinished, secondOpen.unfailed⟩
    · intro holder rows isTick inserted
      cases isTick
      cases inserted
      constructor
      · simp only [List.map_map]
        exact guarded.candidates_distinct tick.input
      · intro row member jobId isOpen
        obtain ⟨deployment, isCandidate, isRow⟩ := List.mem_map.mp member
        subst isRow
        apply guarded.candidate records isCandidate jobId
        exact {
          periodic := isOpen.periodic
          unfinished := isOpen.unfinished
          unfailed := fun isFailed => isOpen.unfailed (grows jobId isFailed)
        }
  · apply guarded.without_rows _ grows
    intro holder absent
    cases absent

theorem commitRows_cases (system : ReconcileSystem) (rows : List PeriodicJob) (jobId : String) :
    (∃ row ∈ rows, row.jobId = jobId ∧
        (rows.foldl commitRow system).payloads.get? jobId = some {
          providerId := row.providerId
          deploymentId := row.deploymentId
          intent := none } ∧
        ∃ job, (rows.foldl commitRow system).jobs.jobs.get? jobId = some job ∧
          job.jobId = jobId ∧ job.jobType = runtimeReconcileJobType) ∨
      (rows.foldl commitRow system).payloads.get? jobId = system.payloads.get? jobId ∧
        (rows.foldl commitRow system).jobs.jobs.get? jobId = system.jobs.jobs.get? jobId := by
  induction rows generalizing system with
  | nil => exact Or.inr ⟨rfl, rfl⟩
  | cons row rest ih =>
    rcases ih (commitRow system row) with ⟨other, member, same⟩ | ⟨payload, job⟩
    · exact Or.inl ⟨other, List.mem_cons_of_mem _ member, same⟩
    · by_cases isRow : jobId = row.jobId
      · subst isRow
        left
        refine ⟨row, List.mem_cons_self, rfl, ?_, ?_⟩
        · rw [List.foldl_cons, payload]
          exact get?_set_self _ _ _
        · rw [List.foldl_cons, job]
          exact ⟨_, get?_set_self _ _ _, rfl, rfl⟩
      · right
        rw [List.foldl_cons, payload, job]
        exact ⟨get?_set_ne _ _ isRow, get?_set_ne _ _ isRow⟩

theorem commitRows_deployments (system : ReconcileSystem) (rows : List PeriodicJob) :
    (rows.foldl commitRow system).deployments = system.deployments := by
  induction rows generalizing system with
  | nil => rfl
  | cons row rest ih => exact ih (commitRow system row)

theorem open_after_commit {rows : List PeriodicJob} {jobId providerId deploymentId : String}
    (grows : ∀ jobId, failed jobId → later jobId)
    (isOpen : Open later { rows.foldl commitRow system with tick := none } jobId providerId
      deploymentId) :
    (∃ row ∈ rows, row.jobId = jobId ∧ row.providerId = providerId ∧
        row.deploymentId = deploymentId) ∨
      Open failed system jobId providerId deploymentId := by
  obtain ⟨payload, found, sameProvider, sameDeployment, noIntent⟩ := isOpen.periodic
  obtain ⟨job, jobFound, notDone⟩ := isOpen.unfinished
  simp only at found jobFound
  rcases commitRows_cases system rows jobId with
    ⟨row, member, sameId, isPayload, _⟩ | ⟨samePayload, sameJob⟩
  · rw [isPayload] at found
    cases found
    exact Or.inl ⟨row, member, sameId, sameProvider, sameDeployment⟩
  · rw [samePayload] at found
    rw [sameJob] at jobFound
    exact Or.inr {
      periodic := ⟨payload, found, sameProvider, sameDeployment, noIntent⟩
      unfinished := ⟨job, jobFound, notDone⟩
      unfailed := fun isFailed => isOpen.unfailed (grows jobId isFailed)
    }

theorem Guarded.commit (guarded : Guarded failed system) {tick : SchedulerTick}
    {rows : List PeriodicJob} (isTick : system.tick = some tick)
    (inserted : tick.inserted = some rows) (grows : ∀ jobId, failed jobId → later jobId) :
    Guarded later { rows.foldl commitRow system with tick := none } := by
  obtain ⟨distinct, alone⟩ := guarded.apart tick rows isTick inserted
  constructor
  · intro jobId job found
    rcases commitRows_cases system rows jobId with
      ⟨row, _, _, _, other, otherFound, sameId, _⟩ | ⟨_, sameJob⟩
    · simp only [otherFound, Option.some.injEq] at found
      subst found
      exact sameId
    · simp only [sameJob] at found
      exact guarded.named jobId job found
  · intro deploymentId row found
    simp only [commitRows_deployments] at found
    exact guarded.keyed deploymentId row found
  · intro jobId payload found
    rcases commitRows_cases system rows jobId with
      ⟨row, _, _, _, job, jobFound, _, isReconcile⟩ | ⟨samePayload, sameJob⟩
    · exact ⟨job, jobFound, isReconcile⟩
    · simp only [samePayload] at found
      obtain ⟨job, jobFound, isReconcile⟩ := guarded.typed jobId payload found
      exact ⟨job, sameJob.trans jobFound, isReconcile⟩
  · intro first second providerId deploymentId firstOpen secondOpen
    rcases open_after_commit grows firstOpen with
      ⟨row, member, isFirst, sameProvider, sameDeployment⟩ | firstBefore
    · rcases open_after_commit grows secondOpen with
        ⟨other, otherMember, isSecond, _, otherDeployment⟩ | secondBefore
      · have same : row = other := List.inj_on_of_nodup_map distinct member otherMember
          (sameDeployment.trans otherDeployment.symm)
        rw [← isFirst, ← isSecond, same]
      · subst sameProvider sameDeployment
        exact absurd secondBefore (alone row member second)
    · rcases open_after_commit grows secondOpen with
        ⟨other, otherMember, isSecond, sameProvider, sameDeployment⟩ | secondBefore
      · subst sameProvider sameDeployment
        exact absurd firstBefore (alone other otherMember first)
      · exact guarded.one first second providerId deploymentId firstBefore secondBefore
  · intro holder others absent
    cases absent

theorem Guarded.onTick (guarded : Guarded failed system) (id : Nat)
    {step : SchedulerTick → ReconcileSystem} (grows : ∀ jobId, failed jobId → later jobId)
    (each : ∀ tick, system.tick = some tick → Guarded later (step tick)) :
    Guarded later (system.onTick id step) := by
  unfold ReconcileSystem.onTick
  split
  · exact guarded.of_same grows
  · rename_i tick isTick
    split
    · exact each tick isTick
    · exact guarded.of_same grows

theorem Guarded.next (guarded : Guarded failed system) (records : Records failed system)
    (event : ReconcileEvent) (grows : ∀ jobId, failed jobId → later jobId) :
    Guarded later (system.next event) := by
  cases event with
  | job event => exact guarded.jobStep event grows
  | deployment row =>
    have same := guarded.of_same grows
    apply same.narrows
    · exact same.named
    · intro deploymentId other found
      change (system.deployments.set row.deploymentId row).get? deploymentId = some other at found
      rw [get?_set] at found
      split at found
      · rename_i isRow
        cases found
        exact isRow.symm
      · exact same.keyed deploymentId other found
    · exact same.typed
    · intro jobId providerId deploymentId isOpen
      exact ⟨isOpen.periodic, isOpen.unfinished, isOpen.unfailed⟩
    · intro tick rows isTick _
      exact isTick
  | command jobId providerId deploymentId intent =>
    simp only [ReconcileSystem.next]
    split
    · exact guarded.of_same grows
    · rename_i free
      simp only [not_or, Bool.not_eq_true, Option.isSome_eq_false_iff,
        Option.isNone_iff_eq_none] at free
      exact guarded.command free.2 providerId deploymentId intent grows
  | beginTick id input =>
    simp only [ReconcileSystem.next]
    split
    · apply guarded.without_rows _ grows
      intro holder isHolder
      cases isHolder
      rfl
    · exact guarded.of_same grows
  | enqueueCandidates id uuid =>
    apply guarded.onTick id grows
    intro tick isTick
    split
    · exact guarded.enqueueCandidates records tick uuid grows
    · exact guarded.of_same grows
  | commitTick id =>
    apply guarded.onTick id grows
    intro tick isTick
    simp only
    split
    · exact guarded.of_same grows
    · rename_i rows inserted
      exact guarded.commit isTick inserted grows
  | rollbackTick id =>
    apply guarded.onTick id grows
    intro tick isTick
    apply guarded.without_rows _ grows
    intro holder absent
    cases absent

end Steps

theorem everFailed_of_earlier {now : Instant} {events : List ReconcileEvent}
    (event : ReconcileEvent) {jobId : String} (failed : everFailed now events jobId = true) :
    everFailed now (events ++ [event]) jobId = true := by
  obtain ⟨earlier, member, hasFailed⟩ := List.any_eq_true.mp failed
  apply List.any_eq_true.mpr
  refine ⟨earlier, ?_, hasFailed⟩
  rw [List.mem_inits] at member ⊢
  exact member.trans (List.prefix_append events [event])

theorem everFailed_records (now : Instant) (events : List ReconcileEvent) :
    Records (fun jobId => everFailed now events jobId = true) (run now events) := by
  intro jobId job found isFailed
  apply List.any_eq_true.mpr
  refine ⟨events, (List.mem_inits _ _).mpr (List.prefix_refl events), ?_⟩
  simp only [hasFailed, statusIs, found, isFailed, beq_self_eq_true]

theorem run_guarded (now : Instant) (events : List ReconcileEvent) :
    Guarded (fun jobId => everFailed now events jobId = true) (run now events) := by
  induction events using List.reverseRecOn with
  | nil => exact initial_guarded now _
  | append_singleton earlier event ih =>
    have step := ih.next (everFailed_records now earlier) event
      (fun _ failed => everFailed_of_earlier event failed)
    unfold run at step ⊢
    rw [Histories.after_concat]
    exact step

/-- At any time at most one periodic job of a deployment is unfinished without having failed. -/
theorem one_unfailed_periodic_job (now : Instant) (events : List ReconcileEvent)
    (providerId deploymentId : String) :
    (((run now events).unfinishedPeriodicJobs providerId deploymentId).filter
      fun jobId => !everFailed now events jobId).length ≤ 1 := by
  have guarded := run_guarded now events
  generalize run now events = system at guarded ⊢
  have isOpen : ∀ jobId ∈ (system.unfinishedPeriodicJobs providerId deploymentId).filter
      (fun jobId => !everFailed now events jobId),
      Open (fun jobId => everFailed now events jobId = true) system jobId providerId
        deploymentId := by
    intro jobId member
    obtain ⟨isUnfinished, unfailed⟩ := List.mem_filter.mp member
    obtain ⟨⟨key, payload⟩, kept, isKey⟩ := List.mem_map.mp isUnfinished
    simp only at isKey
    subst isKey
    obtain ⟨isEntry, isPeriodic⟩ := List.mem_filter.mp kept
    simp only [Bool.and_eq_true, beq_iff_eq, Option.isNone_iff_eq_none] at isPeriodic
    obtain ⟨⟨⟨sameProvider, sameDeployment⟩, noIntent⟩, unfinished⟩ := isPeriodic
    constructor
    · exact ⟨payload, mem_entries.mp isEntry, sameProvider, sameDeployment, noIntent⟩
    · unfold statusIs at unfinished
      split at unfinished
      · cases unfinished
      · rename_i job found
        exact ⟨job, found, by simpa using unfinished⟩
    · simpa using unfailed
  have distinct : ((system.unfinishedPeriodicJobs providerId deploymentId).filter
      fun jobId => !everFailed now events jobId).Nodup :=
    (system.payloads.distinct.sublist (List.filter_sublist.map Prod.fst)).filter _
  generalize (system.unfinishedPeriodicJobs providerId deploymentId).filter
    (fun jobId => !everFailed now events jobId) = jobs at isOpen distinct ⊢
  rcases jobs with _ | ⟨first, _ | ⟨second, rest⟩⟩
  · exact Nat.zero_le 1
  · exact Nat.le_refl 1
  · have same : first = second := guarded.one first second providerId deploymentId
      (isOpen first (by simp)) (isOpen second (by simp))
    simp [same] at distinct

/-- A reconcile fails, the next tick enqueues a second job, and the workers lease them both. -/
theorem failed_job_beside_next :
    let scheduled : ScheduleRuntimeReconcileJobs := {
      limit := 10
      minimumAgeMs := 0
    }
    let claim : ClaimJobs := {
      owner := "worker"
      jobTypes := [runtimeReconcileJobType]
      limit := 10
      leaseDurationMs := 30000
    }
    let claimed (uuid : String) (fencingToken : Nat) : LeaseIdentity := {
      jobId := "runtime-reconcile-periodic:" ++ uuid
      owner := "worker"
      token := "lease"
      fencingToken := fencingToken
    }
    let tick (uuid : String) : List ReconcileEvent :=
      [.beginTick 0 scheduled, .enqueueCandidates 0 (fun _ => uuid), .commitTick 0]
    let failing : List ReconcileEvent :=
      .deployment {
          deploymentId := "deployment"
          providerId := "provider"
          status := .active
          updatedAt := 0 } ::
        tick "first" ++ [.job (.claim claim (fun _ => false) (fun _ => "lease")),
          .job (.operate (claimed "first" 1) (.fail 5000000))]
    (ReconcileSystem.run 0 (failing ++ tick "second")).unfinishedPeriodicJobs "provider"
        "deployment" = ["runtime-reconcile-periodic:first", "runtime-reconcile-periodic:second"] ∧
      (ReconcileSystem.run 0 (failing ++ tick "second" ++ [
          .job (.claim claim (fun _ => false) (fun _ => "lease")), .job (.tick 5000000),
          .job (.claim claim (fun _ => false) (fun _ => "lease"))])).jobs.jobs.values.map
        (fun job => (job.status, job.attempt)) =
          [(.leased "worker" "lease" 35000000, 2), (.leased "worker" "lease" 30000000, 1)] := by
  decide +kernel

end ReconcileSystem

end Jobs

end SdarRuntime
