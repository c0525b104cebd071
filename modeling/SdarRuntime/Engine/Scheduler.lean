import SdarRuntime.Adapter.Gateway
import SdarRuntime.Engine.StopTransition

/-!
The durable scheduler and its watchdog, for one task: a tick claims the starts that are due or
uncertain, asks the adapter, and records the answer or puts the start off.
-/

namespace SdarRuntime

open Program (exec ofExcept)

structure DurableScheduler where
  workerId : String
  claimLeaseMs : Nat := 30000
  /-- The option that takes the place of every lease. -/
  leaseMilliseconds : Option Nat := none

/-- The columns of a scheduled task that its start is asked for with. -/
structure ScheduledColumns where
  arguments : Json
  timing : TaskExecutionTiming
  reservationRef : Option String

inductive StartDecision where
  | started
  | missed
  | deferred
  | stopRequested
  | claimLost
  deriving DecidableEq, Repr

def startWindowClosed (task : TaskRecord) (now : Instant) : Bool :=
  task.latestStartAt.any fun latest => decide (latest ≤ now)

def startResponseLate (task : TaskRecord) (responseAt : Instant) : Bool :=
  task.latestStartAt.any fun latest => decide (latest < responseAt)

def hexDigit (char : Char) : Nat :=
  if '0' ≤ char ∧ char ≤ '9' then char.toNat - '0'.toNat
  else if 'a' ≤ char ∧ char ≤ 'f' then char.toNat - 'a'.toNat + 10
  else if 'A' ≤ char ∧ char ≤ 'F' then char.toNat - 'A'.toNat + 10
  else 0

def retryJitter (taskId : String) : Nat :=
  ((taskId.toList.drop (taskId.length - 2)).foldl (fun value char => 16 * value + hexDigit char) 0)
    % 101

/-- A claim before the first attempt would wait for half of the first delay. -/
def retryBackoff (invocationAttempt : Nat) : Nat :=
  match invocationAttempt with
  | 0 => 125
  | attempt + 1 => min 5000 (250 * 2 ^ min attempt 5)

def retryAt (task : TaskRecord) (now : Instant) : Instant :=
  let candidate := now.addMilliseconds
    (retryBackoff task.invocationAttempt + retryJitter task.taskId : Nat)
  match task.latestStartAt with
  | some latest => if latest < candidate then latest else candidate
  | none => candidate

def retryDelay (attempt : Nat) : Nat := min 30000 (250 * 2 ^ min (attempt - 1) 7)

/-- Renew the lease, run the request under a heartbeat, and renew once more. -/
def withLeaseHeartbeat {β : Type} (renew : RepositoryCall Unit) (action : GatewayCall β) :
    Action β := do
  exec renew
  let value ← Program.request action (some renew) fun result late =>
    match result, late with
    | .error failure, _ => .fail failure
    | .ok _, some failure => .fail failure
    | .ok value, none => .done value
  exec renew
  pure value

def requiredClaimOwner (task : TaskRecord) (missing : String) : Action String :=
  match task.scheduleClaimOwner with
  | some owner => pure owner
  | none => .fail (Failure.error missing)

/-- The scheduler reads the input requests of a snapshot itself, in their older form only. -/
def scheduledInputRequest (input : AdapterInputRequest) : NewInputRequest :=
  { key := input.key
    description := input.description
    schema := input.inputSchema
    required := input.required
    requestJson := .obj [
      ("method", .str "elicitation/create"),
      ("params", .obj [
        ("mode", .str "form"),
        ("message", .str input.description),
        ("requestedSchema", input.inputSchema)])] }

def acceptStart (deployment : Deployment) (task : TaskRecord) (owner : String)
    (operation : ValidatedOperation) (externalExecutionId : String)
    (snapshot : ExecutionSnapshot) (completedAt : Instant) : Action Unit := do
  if snapshot.externalExecutionId ≠ externalExecutionId then
    .fail (Failure.error "ADAPTER_START_IDENTITY_MISMATCH")
  else
    ofExcept (validateAdapterSnapshotIdentity snapshot
      { expectedTaskIdentity task operation.name with
        externalExecutionId := some externalExecutionId })
    let _ ← exec (.acceptScheduled
      { claimOwner := owner
        externalExecutionId := externalExecutionId
        adapterRevision := snapshot.revision
        transition := validatedSnapshotTransition deployment.env completedAt operation snapshot
        inputRequests := snapshot.inputRequests.map scheduledInputRequest
        startWindowMissedAt := if startResponseLate task completedAt then some completedAt else none
        actualStartedAt := if snapshotHasStarted snapshot.state then some completedAt else none })
    pure ()

def acceptedDecision (task : TaskRecord) (completedAt : Instant) : StartDecision :=
  if startResponseLate task completedAt then .stopRequested else .started

def settleUncertainStart (deployment : Deployment) (task : TaskRecord) (owner : String)
    (operation : ValidatedOperation) (response : ReconcileExecutionResponse)
    (completedAt : Instant) : Action StartDecision := do
  if response.status = "TRANSIENT_UNAVAILABLE" then
    exec (.markScheduleResponseUncertain owner (retryAt task completedAt)
      (orElse response.message "Scheduled start reconciliation is temporarily unavailable."))
    pure .deferred
  else if response.status = "CONFLICT" then
    let _ ← exec (.completeScheduledRejection owner completedAt
      (orElse response.reasonCode "ADAPTER_RECONCILE_CONFLICT")
      (orElse response.message "Adapter reported a conflicting scheduled start identity.") false)
    pure .missed
  else
    match response.status, response.snapshot with
    | "NOT_FOUND", _ | _, none =>
      if startWindowClosed task completedAt then
        let _ ← exec (.completeStartWindowMissed completedAt owner)
        pure .missed
      else
        exec (.releaseScheduleRetry owner (retryAt task completedAt)
          "Prior start attempt was definitively absent; retry scheduled.")
        pure .deferred
    | _, some snapshot =>
      acceptStart deployment task owner operation
        (orElse response.externalExecutionId snapshot.externalExecutionId) snapshot completedAt
      pure (acceptedDecision task completedAt)

def noteIdentityConflict (failure : Failure) : Action Unit :=
  if isIdentityError failure then exec (.recordIdentityConflict failure.message) else pure ()

def DurableScheduler.renewal (scheduler : DurableScheduler) (owner : String) :
    RepositoryCall Unit :=
  .renewScheduleClaim owner (scheduler.leaseMilliseconds.getD 30000)

/-- A failure puts the reconciliation off, counted from where it began. -/
def reconcileUncertainStart (deployment : Deployment) (scheduler : DurableScheduler)
    (task : TaskRecord) : Action StartDecision := do
  let owner ← requiredClaimOwner task "SCHEDULED_TASK_CLAIM_OWNER_MISSING"
  let now ← exec .clockNow
  exec (scheduler.renewal owner)
  Program.attempt (do
    let operation ← exec (.loadOperationSnapshot task.operationSnapshotId)
    let response ← withLeaseHeartbeat (scheduler.renewal owner)
      (.reconcileExecution task.taskId operation.name task.argumentHash task.executionOptions)
    let completedAt ← exec .clockNow
    settleUncertainStart deployment task owner operation response completedAt)
    fun failure => do
      noteIdentityConflict failure
      exec (.markScheduleResponseUncertain owner (retryAt task now) failure.message)
      pure .deferred

def settleScheduledStart (deployment : Deployment) (task : TaskRecord) (owner : String)
    (operation : ValidatedOperation) (response : StartOperationResponse)
    (completedAt : Instant) : Action StartDecision := do
  if response.rejected.isSome ∨ response.result = "rejected" then
    if response.rejected.any RejectedStart.retryable then
      if startWindowClosed task completedAt then
        let _ ← exec (.completeStartWindowMissed completedAt owner)
        pure .missed
      else
        exec (.releaseScheduleRetry owner (retryAt task completedAt)
          (orElse (response.rejected.elim "" RejectedStart.message)
            "Retryable scheduled start rejection."))
        pure .deferred
    else
      let _ ← exec (.completeScheduledRejection owner completedAt
        (response.rejected.elim "ADMISSION_REJECTED" RejectedStart.reasonCode)
        (response.rejected.elim "Scheduled execution was rejected." RejectedStart.message) false)
      pure .missed
  else match response.accepted with
    | none => .fail (Failure.error "ADAPTER_START_RESPONSE_MISSING_RESULT")
    | some accepted =>
      acceptStart deployment task owner operation accepted.externalExecutionId
        accepted.initialSnapshot completedAt
      pure (acceptedDecision task completedAt)

def scheduledStartRequest (columns : ScheduledColumns) (task : TaskRecord) :
    GatewayCall StartOperationResponse :=
  .startOperation task.operationName columns.arguments
    { taskId := task.taskId
      argumentHash := task.argumentHash
      execution := { task.executionOptions with externalExecutionId := none }
      timing := columns.timing
      reservationRef := columns.reservationRef
      invocationAttempt := some task.invocationAttempt }

/-- Dispatch a claimed start, unless its window has closed meanwhile. -/
def startClaimedTask (deployment : Deployment) (scheduler : DurableScheduler)
    (columns : ScheduledColumns) (task : TaskRecord) : Action StartDecision := do
  let owner ← requiredClaimOwner task "SCHEDULED_TASK_CLAIM_OWNER_MISSING"
  let now ← exec .clockNow
  exec (scheduler.renewal owner)
  if startWindowClosed task now then
    let _ ← exec (.completeStartWindowMissed now owner)
    pure .missed
  else
    let loaded ← (do
      let operation ← exec (.loadOperationSnapshot task.operationSnapshotId)
      pure (some operation) : Action _).attempt fun _ => pure none
    match loaded with
    | none =>
      exec (.releaseScheduleRetry owner (retryAt task now)
        "Operation snapshot resolution is temporarily unavailable.")
      pure .deferred
    | some operation =>
      Program.attempt (do
        let response ← withLeaseHeartbeat (scheduler.renewal owner)
          (scheduledStartRequest columns task)
        let completedAt ← exec .clockNow
        settleScheduledStart deployment task owner operation response completedAt)
        fun failure => do
          let failedAt ← exec .clockNow
          noteIdentityConflict failure
          exec (.markScheduleResponseUncertain owner (retryAt task failedAt) failure.message)
          pure .deferred

def watchdogHasStarted (state : String) : Bool :=
  ["RUNNING", "PAUSED", "RESUMING", "SUCCEEDED", "BUSINESS_FAILED", "PARTIALLY_COMPLETED",
    "TECHNICAL_FAILED"].contains state

def settleConfirmation (deployment : Deployment) (task : TaskRecord) (owner : String)
    (operation : ValidatedOperation) (response : ReconcileExecutionResponse)
    (completedAt : Instant) : Action StartDecision := do
  let stop : Action StartDecision := do
    let _ ← exec (.stopUnconfirmedBoundExecution owner completedAt)
    pure .stopRequested
  if response.status = "TRANSIENT_UNAVAILABLE" then
    exec (.deferStartConfirmation owner
      (completedAt.addMilliseconds (retryDelay task.startConfirmationAttempts))
      (orElse response.message "Start confirmation is temporarily unavailable."))
    pure .deferred
  else match response.status, response.snapshot with
    | "FOUND", some snapshot =>
      ofExcept (validateAdapterSnapshotIdentity snapshot
        (expectedTaskIdentity task operation.name))
      if watchdogHasStarted snapshot.state then
        let _ ← exec (.confirmBoundExecutionStarted owner snapshot.revision
          (validatedSnapshotTransition deployment.env completedAt operation snapshot)
          completedAt)
        pure .started
      else stop
    | _, _ => stop

/-- A lost claim ends the confirmation; another failure puts it off. -/
def confirmStart (deployment : Deployment) (scheduler : DurableScheduler) (task : TaskRecord) :
    Action StartDecision := do
  let owner ← requiredClaimOwner task "START_CONFIRMATION_CLAIM_OWNER_MISSING"
  let renew := RepositoryCall.renewStartConfirmationClaim owner
    (scheduler.leaseMilliseconds.getD 30000)
  Program.attempt (do
    let operation ← exec (.loadOperationSnapshot task.operationSnapshotId)
    let response ← withLeaseHeartbeat renew
      (.reconcileExecution task.taskId operation.name task.argumentHash task.executionOptions)
    let completedAt ← exec .clockNow
    settleConfirmation deployment task owner operation response completedAt)
    fun failure =>
      if failure.message = "START_CONFIRMATION_CLAIM_LOST" then pure .claimLost
      else do
        let deferredAt ← exec .clockNow
        exec (.deferStartConfirmation owner
          (deferredAt.addMilliseconds (retryDelay task.startConfirmationAttempts))
          failure.message)
        pure .deferred

def forClaimed (claimed : Option TaskRecord) (body : TaskRecord → Action StartDecision) :
    Action Unit :=
  match claimed with
  | none => pure ()
  | some task => do
    let _ ← body task
    pure ()

def watchdogTick (deployment : Deployment) (scheduler : DurableScheduler) : Action Unit := do
  let now ← exec .clockNow
  let claimed ← exec (.claimBoundStartConfirmations now (scheduler.workerId ++ ":start-watchdog")
    (scheduler.leaseMilliseconds.getD 30000))
  forClaimed claimed (confirmStart deployment scheduler)

def schedulerTick (deployment : Deployment) (scheduler : DurableScheduler)
    (columns : ScheduledColumns) : Action Unit := do
  let leaseMilliseconds := scheduler.leaseMilliseconds.getD scheduler.claimLeaseMs
  let now ← exec .clockNow
  watchdogTick deployment scheduler
  let _ ← exec (.completeDueStartWindowMisses now)
  let uncertain ← exec (.claimExpiredScheduledStarts now scheduler.workerId leaseMilliseconds)
  forClaimed uncertain (reconcileUncertainStart deployment scheduler)
  let due ← exec (.claimDueScheduled now scheduler.workerId leaseMilliseconds)
  forClaimed due (startClaimedTask deployment scheduler columns)
  let deadlinesAt ← exec .clockNow
  let _ ← exec (.claimExpiredDeadlines deadlinesAt)
  pure ()

end SdarRuntime
