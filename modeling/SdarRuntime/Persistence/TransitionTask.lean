import SdarRuntime.Persistence.Tables

/-!
The transition kernel: the one way a task changes its state, with the observation and
the outbox event that go with it, and the statements several methods share.
-/

namespace SdarRuntime

open Transaction (read update abort when forEach)

/-- The columns a transition sets; an absent field keeps the column. -/
structure TaskTransitionUpdate where
  internalState : Option InternalTaskState := none
  mcpStatus : Option McpTaskStatus := none
  substate : Option (Option String) := none
  statusMessage : Option (Option String) := none
  result : Option (Option Json) := none
  error : Option (Option Json) := none
  adapterRevision : Option Nat := none
  externalExecutionId : Option (Option String) := none
  actualStartedAt : Option (Option Instant) := none
  cancelRequested : Option Bool := none
  stopReason : Option (Option StopReason) := none
  startStopRequestedAt : Option (Option Instant) := none
  startConfirmationDeadline : Option (Option Instant) := none
  startConfirmationAttempts : Option Nat := none
  scheduleClaimOwner : Option (Option String) := none
  scheduleClaimUntil : Option (Option Instant) := none
  nextStartAttemptAt : Option (Option Instant) := none
  invocationAttempt : Option Nat := none
  recoveryAttempts : Option Nat := none
  nextRecoveryAt : Option Instant := none
  recoveryFailureCount : Option Nat := none
  lastReconciledAt : Option (Option Instant) := none

structure TransitionObservation where
  type : String
  occurredAt : Instant
  reasonCode : Option String := none
  message : String
  substate : Option String
  source : ObservationSource
  adapterRevision : Option Nat := none
  payload : List (String × Json) := []

structure TaskTransitionRequest where
  expectedVersion : Option Nat := none
  update : TaskTransitionUpdate
  observation : TransitionObservation
  eventKey : EventKey

def TaskTransitionUpdate.assign (change : TaskTransitionUpdate) (occurredAt : Instant)
    (row : TaskRecord) : TaskRecord :=
  { row with
    observationRevision := row.observationRevision + 1
    runtimeRevision := row.runtimeRevision + 1
    version := row.version + 1
    updatedAt := occurredAt
    runtimeUpdatedAt := occurredAt
    internalState := change.internalState.getD row.internalState
    mcpStatus := change.mcpStatus.getD row.mcpStatus
    substate := change.substate.getD row.substate
    statusMessage := change.statusMessage.getD row.statusMessage
    result := change.result.getD row.result
    error := change.error.getD row.error
    adapterRevision := change.adapterRevision.getD row.adapterRevision
    externalExecutionId := change.externalExecutionId.getD row.externalExecutionId
    actualStartedAt := change.actualStartedAt.getD row.actualStartedAt
    cancelRequested := change.cancelRequested.getD row.cancelRequested
    stopReason := change.stopReason.getD row.stopReason
    startStopRequestedAt := change.startStopRequestedAt.getD row.startStopRequestedAt
    startConfirmationDeadline :=
      change.startConfirmationDeadline.getD row.startConfirmationDeadline
    startConfirmationAttempts :=
      change.startConfirmationAttempts.getD row.startConfirmationAttempts
    scheduleClaimOwner := change.scheduleClaimOwner.getD row.scheduleClaimOwner
    scheduleClaimUntil := change.scheduleClaimUntil.getD row.scheduleClaimUntil
    nextStartAttemptAt := change.nextStartAttemptAt.getD row.nextStartAttemptAt
    invocationAttempt := change.invocationAttempt.getD row.invocationAttempt
    recoveryAttempts := change.recoveryAttempts.getD row.recoveryAttempts
    nextRecoveryAt := change.nextRecoveryAt.getD row.nextRecoveryAt
    recoveryFailureCount := change.recoveryFailureCount.getD row.recoveryFailureCount
    lastReconciledAt := change.lastReconciledAt.getD row.lastReconciledAt }

/-- The retention columns: a terminal task keeps its handle for its ttl, a day by default. -/
def retain (occurredAt : Instant) (row : TaskRecord) : TaskRecord :=
  if isTerminalState row.internalState then
    { row with
      terminalAt := some occurredAt
      handleExpiresAt :=
        some (occurredAt.addMilliseconds (row.ttlMs.elim 86400000 Int.ofNat)) }
  else match row.ttlMs with
    | some ttl => { row with handleExpiresAt := some (occurredAt.addMilliseconds ttl) }
    | none => row

def confirm (observation : TransitionObservation) (row : TaskRecord) : TaskRecord :=
  if observation.source = .adapter then
    { row with lastConfirmedAt := some observation.occurredAt }
  else row

def TaskTransitionRequest.row (request : TaskTransitionRequest) (existing : TaskRecord) :
    TaskRecord :=
  confirm request.observation
    (retain request.observation.occurredAt
      (request.update.assign request.observation.occurredAt existing))

def TransitionObservation.row (observation : TransitionObservation) (revision : Nat) :
    ObservationRow :=
  { revision := revision
    type := observation.type
    reasonCode := observation.reasonCode
    occurredAt := observation.occurredAt
    message := observation.message
    substate := observation.substate
    source := observation.source
    adapterRevision := observation.adapterRevision
    payload := .obj observation.payload }

/-- The answer of `transitionTask`: the row, and whether the transition was applied. -/
structure TransitionOutcome where
  row : TaskRecord
  applied : Bool

/-- Insert an observation; its revision is part of the primary key. -/
def insertTaskObservation (observation : ObservationRow) : Tx Unit := do
  let tables ← read
  if tables.observations.any fun other => other.revision == observation.revision then
    abort (Failure.uniqueViolation "task_observation_pkey")
  else
    update fun tables => { tables with observations := tables.observations ++ [observation] }

/-- The kernel. A known event key, a terminal row and a revision that is not newer are
silent; a version that is not the expected one aborts the whole transaction. -/
def transitionTask (request : TaskTransitionRequest) : Tx TransitionOutcome := do
  let existing ← lockTask
  let tables ← read
  if request.eventKey ∈ tables.outbox then
    return { row := existing, applied := false }
  else if isTerminalState existing.internalState then
    return { row := existing, applied := false }
  else if ∃ version ∈ request.expectedVersion, existing.version ≠ version then
    abort (Failure.error "TASK_VERSION_CONFLICT")
  else if ∃ revision ∈ request.update.adapterRevision, revision ≤ existing.adapterRevision then
    return { row := existing, applied := false }
  else
    let row := request.row existing
    update fun tables => { tables with task := some row }
    insertTaskObservation (request.observation.row row.observationRevision)
    update fun tables => { tables with outbox := tables.outbox ++ [request.eventKey] }
    return { row := row, applied := true }

/-- While a stop is requested a non-terminal snapshot does not change what the task shows. -/
def mergeStopState (existing : TaskRecord) (adapterTransition : SnapshotTransition) :
    SnapshotTransition :=
  if (existing.cancelRequested = false ∧ existing.stopReason = none) ∨
      adapterTransition.terminal then
    adapterTransition
  else
    { adapterTransition with
      internalState := existing.internalState
      mcpStatus := existing.mcpStatus
      substate := existing.substate
      statusMessage := existing.statusMessage.getD adapterTransition.statusMessage
      result := existing.result
      error := existing.error
      terminal := isTerminalState existing.internalState
      terminal_eq := rfl }

def transitionHasStarted (transition : SnapshotTransition) : Bool :=
  match transition.internalState with
  | .running | .paused | .resuming | .terminalCompleted | .terminalFailed => true
  | _ => false

def stableObservationType (transition : SnapshotTransition) : String :=
  match transition.internalState with
  | .terminalCompleted => "task.completed"
  | .terminalFailed => "task.failed"
  | .terminalCancelled => "task.cancelled"
  | _ => transition.observationType

def reasonCodeFromTransition (transition : SnapshotTransition) : Option String :=
  match transition.result.or transition.error with
  | none => none
  | some body =>
    match (body.field? "structuredContent").bind (Json.field? "reasonCode") with
    | some reason => reason.text?
    | none => ((body.field? "data").bind (Json.field? "reasonCode")).bind Json.text?

def SnapshotTransition.update (transition : SnapshotTransition) : TaskTransitionUpdate :=
  { internalState := some transition.internalState
    mcpStatus := some transition.mcpStatus
    substate := some transition.substate
    statusMessage := some (some transition.statusMessage)
    result := some transition.result
    error := some transition.error }

def startWindowMissedResult (completedAt : Instant) : Json :=
  .obj [
    ("content", textContent "Start window was missed before execution began."),
    ("isError", .bool true),
    ("structuredContent", .obj [
      ("outcome", .str "start_window_missed"),
      ("reasonCode", .str "START_WINDOW_MISSED"),
      ("retryable", .bool true),
      ("completedAt", .str completedAt.toISOString)])]

def admissionRejectedResult (completedAt : Instant) (reasonCode message : String)
    (retryable : Bool) : Json :=
  .obj [
    ("content", textContent message),
    ("isError", .bool true),
    ("structuredContent", .obj [
      ("outcome", .str "admission_rejected"),
      ("reasonCode", .str reasonCode),
      ("retryable", .bool retryable),
      ("completedAt", .str completedAt.toISOString)])]

def runtimeError (message reasonCode : String) : Json :=
  .obj [
    ("code", .num "-32603"),
    ("message", .str message),
    ("data", .obj [("reasonCode", .str reasonCode)])]

/-- Insert or re-describe the input requests; a request may not change its meaning. -/
def upsertInputRequest (input : NewInputRequest) : Tx Unit := do
  let tables ← read
  match tables.inputRequests.find? fun row => row.key == input.key with
  | none =>
    update fun tables => { tables with
      inputRequests := tables.inputRequests ++ [
        { key := input.key
          description := input.description
          schema := input.schema
          required := input.required
          requestJson := input.requestJson
          status := .open
          answerHash := none
          answer := none
          responseHash := none
          responseJson := none }] }
  | some row =>
    if row.schema.same input.schema ∧ row.required = input.required ∧
        row.requestJson.same input.requestJson then do
      let _ ← updateInputRequests (fun row => row.key == input.key)
        (fun row => { row with description := input.description })
      pure ()
    else abort (Failure.error "STABLE_INPUT_REQUEST_CONFLICT")

def upsertInputRequests (inputRequests : List NewInputRequest) : Tx Unit :=
  forEach inputRequests upsertInputRequest

/-- Move the assigned responses of a command; every way a command ends goes through here
or through its acknowledgement. -/
def settleAssignedInbox (sequence : Nat) (state : InboxState)
    (errorCode errorMessage : Option String) : Tx Unit := do
  let _ ← updateInbox
    (fun row => row.commandSequence == some sequence && row.state == .assigned)
    (fun row => { row with
      state := state
      lastErrorCode := errorCode
      lastErrorMessage := errorMessage })
  pure ()

def markAssignedInputResponsesIgnored (sequence : Nat) : Tx Unit :=
  settleAssignedInbox sequence .ignored (some "SUPERSEDED_BY_SAFE_STOP")
    (some "Safe stop superseded input response delivery.")

def supersedeOpenRequests (keys : List String) : Tx Unit := do
  let _ ← updateInputRequests (fun row => keys.contains row.key && row.status == .open)
    (fun row => { row with status := .superseded })
  pure ()

def CommandRow.settle (state : CommandState) (errorCode errorMessage : Option String)
    (row : CommandRow) : CommandRow :=
  { row with
    state := state
    claimOwner := none
    claimUntil := none
    lastErrorCode := errorCode
    lastErrorMessage := errorMessage }

/-- The hash of a cancellation in the persistence layer, its reason in lower case. -/
def cancelHash (env : Environment) : StopReason → String
  | .userRequested => env.sha256 "cancel:user_requested"
  | .deadlineReached => env.sha256 "cancel:deadline_reached"
  | .startWindowMissed => env.sha256 "cancel:start_window_missed"

def cancelPayload (reason : StopReason) : Json := .obj [("reason", .str reason.text)]

/-- A new CANCEL command; it remembers what the task showed before. -/
def newCancelCommand (sequence : Nat) (requestHash : String) (reason : StopReason)
    (priority : Nat) (previous : TaskRecord) (nextAttemptAt createdAt : Instant) : CommandRow :=
  { sequence := sequence
    commandType := .cancel
    requestHash := requestHash
    state := .pending
    payload := cancelPayload reason
    attemptCount := 0
    claimOwner := none
    claimUntil := none
    stopReason := some reason
    priority := priority
    adapterAck := none
    previousInternalState := some previous.internalState
    previousMcpStatus := some previous.mcpStatus
    previousSubstate := previous.substate
    previousStatusMessage := previous.statusMessage
    nextAttemptAt := nextAttemptAt
    createdAt := createdAt
    lastErrorCode := none
    lastErrorMessage := none }

def newCommand (sequence : Nat) (commandType : CommandType) (requestHash : String)
    (payload : Json) (createdAt : Instant) : CommandRow :=
  { sequence := sequence
    commandType := commandType
    requestHash := requestHash
    state := .pending
    payload := payload
    attemptCount := 0
    claimOwner := none
    claimUntil := none
    stopReason := none
    priority := 0
    adapterAck := none
    previousInternalState := none
    previousMcpStatus := none
    previousSubstate := none
    previousStatusMessage := none
    nextAttemptAt := createdAt
    createdAt := createdAt
    lastErrorCode := none
    lastErrorMessage := none }

/-- The CANCEL of a missed start window: a new one, or the active one. -/
def startWindowCommand (env : Environment) (clocks : Clocks) (requestedAt : Instant)
    (previous : TaskRecord) : Option CommandRow → Tx Nat
  | none => do
    let sequence ← nextCommandSequence
    insertCommand (newCancelCommand sequence (cancelHash env .startWindowMissed)
      .startWindowMissed 200 previous requestedAt clocks.database)
    pure sequence
  | some command => do
    when (command.stopReason = some .userRequested) do
      let _ ← updateCommands (fun row => row.sequence == command.sequence)
        (fun row => { row with
          stopReason := some .startWindowMissed
          priority := 200
          payload := cancelPayload .startWindowMissed })
      pure ()
    pure command.sequence

/-- Stop a bound execution whose start window has passed. An active stop is kept; only a
user's cancellation is promoted. -/
def persistStartWindowStop (env : Environment) (clocks : Clocks) (requestedAt : Instant) :
    Tx Unit := do
  let previous ← lockTask
  if isTerminalState previous.internalState then pure ()
  else if previous.externalExecutionId = none then
    abort (Failure.error "START_WINDOW_STOP_WITHOUT_EXECUTION")
  else
    let tables ← read
    let existing := newestCommand CommandRow.isActiveStop tables.commands
    let sequence ← startWindowCommand env clocks requestedAt previous existing
    let effectiveReason : StopReason :=
      if existing.bind CommandRow.stopReason = some .deadlineReached then .deadlineReached
      else .startWindowMissed
    let _ ← transitionTask
      { expectedVersion := some previous.version
        update :=
          { internalState := some .stopping
            mcpStatus := some .working
            substate := some (some "stopping")
            statusMessage := some (some "Start window missed; safe stop requested.")
            cancelRequested := some true
            stopReason := some (some effectiveReason)
            startStopRequestedAt :=
              if effectiveReason = .startWindowMissed then some (some requestedAt) else none
            scheduleClaimOwner := some none
            scheduleClaimUntil := some none
            nextStartAttemptAt := some none }
        observation :=
          { type := "task.start_window_violation"
            occurredAt := requestedAt
            reasonCode := some "START_WINDOW_MISSED"
            message := "Start window missed; safe stop requested."
            substate := some "stopping"
            source := .runtime
            payload := [("commandSequence", .num (toString sequence))] }
        eventKey := .startWindowStop sequence }
    when (existing = none) do
      insertCommandFact sequence .created .pending 0

def stopMissedWindow (env : Environment) (clocks : Clocks) : Option Instant → Tx Unit
  | some missedAt => persistStartWindowStop env clocks missedAt
  | none => pure ()

end SdarRuntime
