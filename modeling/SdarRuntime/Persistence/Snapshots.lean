import SdarRuntime.Persistence.TransitionTask

/-!
What a status read or a recovery writes, and what the cleaners write.
-/

namespace SdarRuntime

open Transaction (read update when forEach)

def exhaustTerminal (row : CommandRow) : CommandRow :=
  { row with
    state := .exhausted
    claimOwner := none
    claimUntil := none
    lastErrorCode := some "TASK_TERMINAL" }

/-- The update of a snapshot, with the stop of the task taken into account. -/
def snapshotUpdate (clocks : Clocks) (existing : TaskRecord) (adapterRevision : Nat)
    (transition : SnapshotTransition) : TaskTransitionUpdate :=
  { (mergeStopState existing transition).update with
    adapterRevision := some adapterRevision
    actualStartedAt :=
      if transitionHasStarted transition ∧ existing.actualStartedAt = none then
        some (some clocks.runtime)
      else none }

/-- A terminal task and an older snapshot are left alone; the same revision only confirms. -/
def applySnapshot (clocks : Clocks) (adapterRevision : Nat) (transition : SnapshotTransition)
    (inputRequests : List NewInputRequest) : Tx TaskRecord := do
  let existing ← lockTask
  if isTerminalState existing.internalState ∨ adapterRevision < existing.adapterRevision then
    pure existing
  else if adapterRevision = existing.adapterRevision then
    updateTaskRow fun row => { row with lastConfirmedAt := some clocks.runtime }
    lockTask
  else
    let applied ← transitionTask
      { expectedVersion := some existing.version
        update := snapshotUpdate clocks existing adapterRevision transition
        observation :=
          { type := stableObservationType transition
            occurredAt := clocks.runtime
            reasonCode := reasonCodeFromTransition transition
            message := transition.statusMessage
            substate := transition.substate
            source := .adapter
            adapterRevision := some adapterRevision }
        eventKey := .adapter adapterRevision }
    upsertInputRequests inputRequests
    when (transition.terminal = true) do
      let exhausted ← updateCommands (fun row => row.state.isDeliverable) exhaustTerminal
      forEach exhausted fun row =>
        insertCommandFact row.sequence .exhausted .exhausted row.attemptCount
    pure applied.row

def listTasksForRecovery (clocks : Clocks) : Tx (Option TaskRecord) := do
  let tables ← read
  return tables.task.filter fun row =>
    !isTerminalState row.internalState && row.internalState != .scheduled &&
      decide (row.nextRecoveryAt ≤ clocks.database)

def listAdmissionsForRecovery : Tx (Option AdmissionIntentRecord) := do
  let tables ← read
  return tables.admission.filter fun row => row.state == .pending || row.state == .uncertain

def noteRecovery (clocks : Clocks) : Tx Unit := do
  let row ← lockTask
  let attempt := row.recoveryAttempts + 1
  let _ ← transitionTask
    { expectedVersion := some row.version
      update :=
        { recoveryAttempts := some attempt
          lastReconciledAt := some (some clocks.runtime)
          nextRecoveryAt := some clocks.runtime
          recoveryFailureCount := some 0 }
      observation :=
        { type := "task.recovery"
          occurredAt := clocks.runtime
          reasonCode := some "RECONCILED"
          message := "Task reconciled with the Adapter."
          substate := row.substate
          source := .runtime
          payload := [("recoveryAttempt", .num (toString attempt))] }
      eventKey := .recovery attempt }
  pure ()

/-- The delay doubles up to five minutes, with a jitter that is fixed for each task. -/
def recoveryDelay (env : Environment) (row : TaskRecord) : Int :=
  min 300000 (1000 * 2 ^ min row.recoveryFailureCount 8) +
    Int.tmod (env.hashtext row.taskId + 2147483648) 251

def noteRecoveryFailure (env : Environment) (clocks : Clocks) (failedAt : Instant) : Tx Unit :=
  updateTaskRow fun row =>
    if isTerminalState row.internalState then row
    else { row with
      recoveryFailureCount := row.recoveryFailureCount + 1
      nextRecoveryAt := failedAt.addMilliseconds (recoveryDelay env row)
      updatedAt := clocks.database }

def recordIdentityConflict (env : Environment) (detail : String) : Tx Unit := do
  let _ ← lockTask
  insertOutbox (.identityConflict (env.sha256 detail))

def failRecoveryNotFound (clocks : Clocks) (message : String) : Tx TaskRecord := do
  let row ← lockTask
  if isTerminalState row.internalState then pure row
  else
    let attempt := row.recoveryAttempts + 1
    let applied ← transitionTask
      { expectedVersion := some row.version
        update :=
          { internalState := some .terminalFailed
            mcpStatus := some .failed
            substate := some none
            statusMessage := some (some message)
            result := some none
            error := some (some (runtimeError message "EXECUTION_NOT_FOUND"))
            recoveryAttempts := some attempt
            lastReconciledAt := some (some clocks.runtime) }
        observation :=
          { type := "task.failed"
            occurredAt := clocks.runtime
            reasonCode := some "EXECUTION_NOT_FOUND"
            message := message
            substate := none
            source := .runtime
            payload := [("recoveryAttempt", .num (toString attempt))] }
        eventKey := .recoveryFailed attempt }
    pure applied.row

def renewHandle (now : Instant) : Tx Unit :=
  updateTaskRow fun row =>
    match row.ttlMs with
    | some ttl =>
      if isTerminalState row.internalState = false ∧
          row.handleExpiresAt.all (fun expiresAt => decide (expiresAt ≤ now)) then
        { row with handleExpiresAt := some (now.addMilliseconds ttl) }
      else row
    | none => row

def expireHandle (now : Instant) : Tx Unit := do
  let tables ← read
  let due := fun row : TaskRecord =>
    isTerminalState row.internalState && row.expiredAt == none &&
      row.handleExpiresAt.any fun expiresAt => decide (expiresAt ≤ now)
  when (tables.task.any due) do
    updateTaskRow fun row => { row with expiredAt := some now }
    insertOutbox .expired

def cleanOutbox (published : List EventKey) : Tx Unit :=
  update fun tables => { tables with
    outbox := tables.outbox.filter fun key => key ∉ published }

end SdarRuntime
