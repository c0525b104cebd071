import SdarRuntime.Persistence.TransitionTask

/-!
Scheduled starts, start confirmation and deadlines. A scan that serves a batch is
given here for one task; a task the scan does not pick answers `none`.
-/

namespace SdarRuntime

open Transaction (read update abort when)

def isDue (row : TaskRecord) (now : Instant) : Bool :=
  row.externalExecutionId == none && row.internalState == .scheduled &&
    row.notBefore.any (fun notBefore => decide (notBefore ≤ now)) &&
    (row.nextStartAttemptAt.or row.notBefore).any (fun attemptAt => decide (attemptAt ≤ now)) &&
    row.latestStartAt.any (fun latest => decide (now < latest))

def claimDueScheduled (now : Instant) (ownerId : String) (leaseMilliseconds : Nat) :
    Tx (Option TaskRecord) := do
  let tables ← read
  match tables.task.filter fun row => isDue row now with
  | none => pure none
  | some row =>
    let attempt := row.invocationAttempt + 1
    let applied ← transitionTask
      { expectedVersion := some row.version
        update :=
          { internalState := some .starting
            statusMessage := some (some "Claimed for scheduled start.")
            scheduleClaimOwner := some (some ownerId)
            scheduleClaimUntil := some (some (now.addMilliseconds leaseMilliseconds))
            invocationAttempt := some attempt
            nextStartAttemptAt := some none }
        observation :=
          { type := "task.start_attempt"
            occurredAt := now
            reasonCode := some "START_ATTEMPT_CLAIMED"
            message := "Claimed for scheduled start."
            substate := row.substate
            source := .runtime
            payload := [("invocationAttempt", .num (toString attempt))] }
        eventKey := .startAttempt attempt }
    pure (some applied.row)

/-- The terminal update of a start window missed before any execution. -/
def missedUpdate (completedAt : Instant) : TaskTransitionUpdate :=
  { internalState := some .terminalCompleted
    mcpStatus := some .completed
    substate := some none
    statusMessage := some (some "Start window was missed before execution began.")
    result := some (some (startWindowMissedResult completedAt))
    error := some none
    scheduleClaimOwner := some none
    scheduleClaimUntil := some none
    nextStartAttemptAt := some none }

def missedObservation (completedAt : Instant) : TransitionObservation :=
  { type := "task.completed"
    occurredAt := completedAt
    reasonCode := some "START_WINDOW_MISSED"
    message := "Start window was missed before execution began."
    substate := none
    source := .runtime }

def hasMissedWindow (row : TaskRecord) (now : Instant) : Bool :=
  row.internalState == .scheduled && row.externalExecutionId == none &&
    row.latestStartAt.any (fun latest => decide (latest ≤ now))

def completeDueStartWindowMisses (now : Instant) : Tx Nat := do
  let tables ← read
  match tables.task.filter fun row => hasMissedWindow row now with
  | none => pure 0
  | some _ =>
    let _ ← transitionTask
      { update := missedUpdate now
        observation := missedObservation now
        eventKey := .startWindowMissed }
    pure 1

def startClaimExpired (row : TaskRecord) (now : Instant) : Bool :=
  row.externalExecutionId == none && row.internalState == .starting &&
    row.scheduleClaimUntil.any (fun claimUntil => decide (claimUntil ≤ now))

def claimExpiredScheduledStarts (now : Instant) (ownerId : String) (leaseMilliseconds : Nat) :
    Tx (Option TaskRecord) := do
  let tables ← read
  match tables.task.filter fun row => startClaimExpired row now with
  | none => pure none
  | some row =>
    let applied ← transitionTask
      { expectedVersion := some row.version
        update :=
          { scheduleClaimOwner := some (some ownerId)
            scheduleClaimUntil := some (some (now.addMilliseconds leaseMilliseconds))
            statusMessage := some (some "Reconciling an uncertain scheduled start.") }
        observation :=
          { type := "task.recovery"
            occurredAt := now
            reasonCode := some "START_RECONCILE_CLAIMED"
            message := "Reconciling an uncertain scheduled start."
            substate := row.substate
            source := .runtime
            payload := [("invocationAttempt", .num (toString row.invocationAttempt))] }
        eventKey := .startReconcile row.invocationAttempt
          (row.scheduleClaimUntil.elim "none" Instant.toISOString) }
    pure (some applied.row)

def lockClaimed (state : InternalTaskState) (claimOwner : String) (lost : String) :
    Tx TaskRecord := do
  let tables ← read
  match tables.task with
  | some row =>
    if row.internalState = state ∧ row.scheduleClaimOwner = some claimOwner then pure row
    else abort (Failure.error lost)
  | none => abort (Failure.error lost)

def renewScheduleClaim (clocks : Clocks) (claimOwner : String) (leaseMilliseconds : Nat) :
    Tx Unit := do
  let _ ← lockClaimed .starting claimOwner "SCHEDULED_TASK_CLAIM_LOST"
  updateTaskRow fun row => { row with
    scheduleClaimUntil := some (clocks.database.addMilliseconds leaseMilliseconds)
    updatedAt := clocks.database }

structure AcceptScheduledInput where
  claimOwner : String
  externalExecutionId : String
  adapterRevision : Nat
  transition : SnapshotTransition
  inputRequests : List NewInputRequest
  startWindowMissedAt : Option Instant
  actualStartedAt : Option Instant

def acceptScheduled (env : Environment) (clocks : Clocks) (input : AcceptScheduledInput) :
    Tx TaskRecord := do
  let row ← lockClaimed .starting input.claimOwner "SCHEDULED_TASK_CLAIM_LOST"
  let _ ← transitionTask
    { expectedVersion := some row.version
      update :=
        { input.transition.update with
          externalExecutionId := some (some input.externalExecutionId)
          adapterRevision := some input.adapterRevision
          actualStartedAt := some (row.actualStartedAt.or input.actualStartedAt)
          scheduleClaimOwner := some none
          scheduleClaimUntil := some none }
      observation :=
        { type := stableObservationType input.transition
          occurredAt := clocks.runtime
          reasonCode := reasonCodeFromTransition input.transition
          message := input.transition.statusMessage
          substate := input.transition.substate
          source := .adapter
          adapterRevision := some input.adapterRevision }
      eventKey := .adapter input.adapterRevision }
  stopMissedWindow env clocks input.startWindowMissedAt
  upsertInputRequests input.inputRequests
  updateAdmission fun row => { row with state := .published }
  lockTask

def releaseScheduleRetry (clocks : Clocks) (claimOwner : String) (nextAttemptAt : Instant)
    (message : String) : Tx Unit := do
  let row ← lockClaimed .starting claimOwner "SCHEDULED_TASK_CLAIM_LOST"
  let _ ← transitionTask
    { expectedVersion := some row.version
      update :=
        { internalState := some .scheduled
          substate := some (some "scheduled")
          statusMessage := some (some message)
          scheduleClaimOwner := some none
          scheduleClaimUntil := some none
          nextStartAttemptAt := some (some nextAttemptAt) }
      observation :=
        { type := "task.start_retry"
          occurredAt := clocks.runtime
          reasonCode := some "START_RETRY_SCHEDULED"
          message := message
          substate := some "scheduled"
          source := .runtime
          payload := [
            ("invocationAttempt", .num (toString row.invocationAttempt)),
            ("nextStartAttemptAt", .str nextAttemptAt.toISOString)] }
      eventKey := .startRetry row.invocationAttempt }

def markScheduleResponseUncertain (clocks : Clocks) (claimOwner : String)
    (reconcileAt : Instant) (message : String) : Tx Unit := do
  let row ← lockClaimed .starting claimOwner "SCHEDULED_TASK_CLAIM_LOST"
  let _ ← transitionTask
    { expectedVersion := some row.version
      update :=
        { statusMessage := some (some message)
          scheduleClaimOwner := some none
          scheduleClaimUntil := some (some reconcileAt) }
      observation :=
        { type := "task.start_uncertain"
          occurredAt := clocks.runtime
          reasonCode := some "START_RESPONSE_UNCERTAIN"
          message := message
          substate := row.substate
          source := .runtime
          payload := [
            ("invocationAttempt", .num (toString row.invocationAttempt)),
            ("reconcileAt", .str reconcileAt.toISOString)] }
      eventKey := .startUncertain row.invocationAttempt reconcileAt.toISOString }

def deferScheduleReconcile (clocks : Clocks) (claimOwner : String) (reconcileAt : Instant)
    (message : String) : Tx Unit :=
  markScheduleResponseUncertain clocks claimOwner reconcileAt message

def completeStartWindowMissed (completedAt : Instant) (claimOwner : String) :
    Tx TaskRecord := do
  let row ← lockClaimed .starting claimOwner "SCHEDULED_TASK_NOT_COMPLETED"
  if row.externalExecutionId ≠ none then abort (Failure.error "SCHEDULED_TASK_NOT_COMPLETED")
  else
    let applied ← transitionTask
      { expectedVersion := some row.version
        update := missedUpdate completedAt
        observation := missedObservation completedAt
        eventKey := .startWindowMissed }
    pure applied.row

def completeScheduledRejection (claimOwner : String) (completedAt : Instant)
    (reasonCode message : String) (retryable : Bool) : Tx TaskRecord := do
  let row ← lockClaimed .starting claimOwner "SCHEDULED_REJECTION_NOT_COMPLETED"
  let applied ← transitionTask
    { expectedVersion := some row.version
      update :=
        { internalState := some .terminalCompleted
          mcpStatus := some .completed
          substate := some none
          statusMessage := some (some message)
          result := some (some (admissionRejectedResult completedAt reasonCode message retryable))
          error := some none
          scheduleClaimOwner := some none
          scheduleClaimUntil := some none
          nextStartAttemptAt := some none }
      observation :=
        { type := "task.completed"
          occurredAt := completedAt
          reasonCode := some reasonCode
          message := message
          substate := none
          source := .runtime }
      eventKey := .admissionRejected row.invocationAttempt }
  pure applied.row

def awaitsConfirmation (row : TaskRecord) (now : Instant) : Bool :=
  !isTerminalState row.internalState && row.actualStartedAt == none &&
    (row.startConfirmationDeadline.or row.latestStartAt).any
      (fun confirmAt => decide (confirmAt ≤ now)) &&
    row.externalExecutionId.isSome && row.stopReason == none &&
    (row.scheduleClaimOwner == none ||
      row.scheduleClaimUntil.any fun claimUntil => decide (claimUntil ≤ now))

def claimBoundStartConfirmations (now : Instant) (ownerId : String) (leaseMilliseconds : Nat) :
    Tx (Option TaskRecord) := do
  let tables ← read
  match tables.task.filter fun row => awaitsConfirmation row now with
  | none => pure none
  | some row =>
    let attempt := row.startConfirmationAttempts + 1
    let applied ← transitionTask
      { expectedVersion := some row.version
        update :=
          { internalState := some .waitingStartConfirmation
            mcpStatus := some .working
            statusMessage := some (some "Reconciling bound execution start confirmation.")
            startConfirmationDeadline :=
              some (row.startConfirmationDeadline.or row.latestStartAt)
            startConfirmationAttempts := some attempt
            scheduleClaimOwner := some (some ownerId)
            scheduleClaimUntil := some (some (now.addMilliseconds leaseMilliseconds)) }
        observation :=
          { type := "task.start_confirmation"
            occurredAt := now
            reasonCode := some "START_CONFIRMATION_CLAIMED"
            message := "Reconciling bound execution start confirmation."
            substate := row.substate
            source := .runtime
            payload := [("attempt", .num (toString attempt))] }
        eventKey := .startConfirmation attempt }
    pure (some applied.row)

def renewStartConfirmationClaim (clocks : Clocks) (claimOwner : String)
    (leaseMilliseconds : Nat) : Tx Unit := do
  let _ ← lockClaimed .waitingStartConfirmation claimOwner "START_CONFIRMATION_CLAIM_LOST"
  updateTaskRow fun row => { row with
    scheduleClaimUntil := some (clocks.database.addMilliseconds leaseMilliseconds)
    updatedAt := clocks.database }

def deferStartConfirmation (clocks : Clocks) (claimOwner : String) (retryAt : Instant)
    (message : String) : Tx Unit := do
  let _ ← lockClaimed .waitingStartConfirmation claimOwner "START_CONFIRMATION_CLAIM_LOST"
  updateTaskRow fun row => { row with
    scheduleClaimOwner := none
    scheduleClaimUntil := some retryAt
    statusMessage := some message
    updatedAt := clocks.database
    runtimeUpdatedAt := clocks.database
    runtimeRevision := row.runtimeRevision + 1 }

/-- The revision is raised to the recorded one, so that an older snapshot is silent. -/
def confirmBoundExecutionStarted (claimOwner : String) (adapterRevision : Nat)
    (transition : SnapshotTransition) (confirmedAt : Instant) : Tx TaskRecord := do
  let row ← lockClaimed .waitingStartConfirmation claimOwner "START_CONFIRMATION_CLAIM_LOST"
  let applied ← transitionTask
    { expectedVersion := some row.version
      update :=
        { transition.update with
          adapterRevision := some (max adapterRevision row.adapterRevision)
          actualStartedAt := some (some confirmedAt)
          scheduleClaimOwner := some none
          scheduleClaimUntil := some none }
      observation :=
        { type := "task.started"
          occurredAt := confirmedAt
          reasonCode := some transition.statusMessage
          message := transition.statusMessage
          substate := transition.substate
          source := .adapter
          adapterRevision := some adapterRevision }
      eventKey := .startConfirmed adapterRevision }
  pure applied.row

def stopUnconfirmedBoundExecution (env : Environment) (clocks : Clocks) (claimOwner : String)
    (requestedAt : Instant) : Tx TaskRecord := do
  let _ ← lockClaimed .waitingStartConfirmation claimOwner "START_CONFIRMATION_CLAIM_LOST"
  persistStartWindowStop env clocks requestedAt
  lockTask

structure DeadlineStopRecord where
  task : TaskRecord
  commandSequence : Nat

def deadlineExpired (row : TaskRecord) (now : Instant) : Bool :=
  row.deadlineAt.any (fun deadlineAt => decide (deadlineAt ≤ now)) &&
    row.stopReason != some .deadlineReached && row.externalExecutionId.isSome &&
    !isTerminalState row.internalState

/-- The CANCEL of a deadline: a new one, or the active one made the deadline's. -/
def deadlineCommand (env : Environment) (clocks : Clocks) (now : Instant) (row : TaskRecord) :
    Option CommandRow → Tx Nat
  | none => do
    let sequence ← nextCommandSequence
    insertCommand (newCancelCommand sequence (cancelHash env .deadlineReached)
      .deadlineReached 100 row now clocks.database)
    pure sequence
  | some command => do
    let _ ← updateCommands (fun row => row.sequence == command.sequence)
      (fun row => { row with
        stopReason := some .deadlineReached
        priority := 100
        payload := cancelPayload .deadlineReached })
    pure command.sequence

/-- A task already stopping for its deadline is not scanned again. An active stop of
whatever reason becomes the deadline's. -/
def claimExpiredDeadlines (env : Environment) (clocks : Clocks) (now : Instant) :
    Tx (Option DeadlineStopRecord) := do
  let tables ← read
  match tables.task.filter fun row => deadlineExpired row now with
  | none => pure none
  | some row =>
    let active := newestCommand CommandRow.isActiveStop tables.commands
    let sequence ← deadlineCommand env clocks now row active
    let applied ← transitionTask
      { expectedVersion := some row.version
        update :=
          { internalState := some .stopping
            mcpStatus := some .working
            substate := some (some "stopping")
            statusMessage := some (some "Deadline reached; safe stop requested.")
            cancelRequested := some true
            stopReason := some (some .deadlineReached) }
        observation :=
          { type := "task.deadline_stop_requested"
            occurredAt := now
            reasonCode := some "DEADLINE_REACHED"
            message := "Deadline reached; safe stop requested."
            substate := some "stopping"
            source := .runtime
            payload := [("commandSequence", .num (toString sequence))] }
        eventKey := .deadlineStop sequence }
    when (active = none) do
      insertCommandFact sequence .created .pending 0
    pure (some { task := applied.row, commandSequence := sequence })

end SdarRuntime
