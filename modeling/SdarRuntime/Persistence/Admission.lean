import SdarRuntime.Persistence.TransitionTask

/-!
Admission: the intent a call leaves before it reaches the adapter, and the publication
of the task it becomes.
-/

namespace SdarRuntime

open Transaction (read update abort when)

/-- `INSERT … ON CONFLICT (task_id) DO NOTHING`; the answer is whether a row was inserted. -/
def createAdmissionIntent (input : AdmissionIntentInput) : Tx Bool := do
  let tables ← read
  match tables.admission with
  | some _ => pure false
  | none => do
    update fun tables => { tables with admission := some { intent := input, state := .pending } }
    pure true

def getAdmission : Tx (Option AdmissionIntentRecord) := do
  let tables ← read
  return tables.admission

def getById : Tx (Option TaskRecord) := do
  let tables ← read
  return tables.task

/-- The first uncertainty is kept; the state is only left behind before a decision. -/
def markAdmissionUncertain (clocks : Clocks) (uncertaintyClass : String)
    (causalRefs : List String) : Tx Unit := do
  let tables ← read
  match tables.admission with
  | none => abort (Failure.error "ADMISSION_INTENT_NOT_FOUND")
  | some row =>
    if row.state ≠ .pending ∧ row.state ≠ .uncertain then pure ()
    else do
      updateAdmission fun row => { row with state := .uncertain }
      update fun tables => { tables with
        uncertainty := tables.uncertainty.or (some
          { uncertaintyClass := uncertaintyClass
            causalRefs := causalRefs
            occurredAt := clocks.runtime }) }

def recordReconciliationResult (status : String) (externalExecutionId : Option String)
    (identityValidated : Bool) (occurredAt : Instant) : Tx Unit := do
  let tables ← read
  match tables.admission with
  | none => abort (Failure.error "ADMISSION_INTENT_NOT_FOUND")
  | some _ =>
    update fun tables => { tables with
      reconciliationAudit := tables.reconciliationAudit ++ [
        { attempt := (tables.reconciliationAudit.map ReconciliationAudit.attempt).foldl max 0 + 1
          status := status
          externalExecutionId := externalExecutionId
          identityValidated := identityValidated
          occurredAt := occurredAt }] }

/-- Unlike `markAdmissionUncertain`, whatever the state is. -/
def recordRejection : Tx Unit :=
  updateAdmission fun row => { row with state := .rejected }

/-- Unlike `markAdmissionUncertain`, whatever the state is. -/
def completeAdmissionWithoutTask : Tx Unit :=
  updateAdmission fun row => { row with state := .published }

structure PublishTaskInput where
  intent : AdmissionIntentInput
  externalExecutionId : String
  transition : SnapshotTransition
  adapterRevision : Nat
  inputRequests : List NewInputRequest
  actualStartedAt : Option Instant
  startWindowMissedAt : Option Instant

/-- The row the publication inserts; the columns it leaves out have the table's defaults. -/
def newTask (input : AdmissionIntentInput) (now : Instant) : TaskRecord :=
  { taskId := input.taskId
    providerId := input.providerId
    operationName := input.operationName
    operationSnapshotId := input.operationSnapshotId
    authorizationContextHash := input.authorization.hash
    executionMode := input.authorization.executionMode
    simulationId := input.authorization.simulationId
    argumentHash := input.argumentHash
    externalExecutionId := none
    internalState := .scheduled
    mcpStatus := .working
    substate := none
    statusMessage := none
    result := none
    error := none
    adapterRevision := 0
    observationRevision := 1
    runtimeRevision := 1
    version := 0
    ttlMs := input.ttlMs
    handleExpiresAt := none
    terminalAt := none
    expiredAt := none
    lastConfirmedAt := none
    updatedAt := now
    runtimeUpdatedAt := now
    acceptedAt := input.anchors.acceptedAt
    notBefore := some input.anchors.notBefore
    latestStartAt := some input.anchors.latestStartAt
    actualStartedAt := none
    startStopRequestedAt := none
    startConfirmationDeadline := none
    startConfirmationAttempts := 0
    invocationAttempt := 0
    nextStartAttemptAt := none
    scheduleClaimOwner := none
    scheduleClaimUntil := none
    deadlineAt := input.anchors.deadlineAt
    cancelRequested := false
    stopReason := none
    recoveryAttempts := 0
    nextRecoveryAt := now
    recoveryFailureCount := 0
    lastReconciledAt := none
    nextCommandSequence := 0 }

def acceptedTask (input : PublishTaskInput) (now : Instant) : TaskRecord :=
  let terminal := isTerminalState input.transition.internalState
  { newTask input.intent now with
    externalExecutionId := some input.externalExecutionId
    internalState := input.transition.internalState
    mcpStatus := input.transition.mcpStatus
    substate := input.transition.substate
    statusMessage := some input.transition.statusMessage
    result := input.transition.result
    error := input.transition.error
    adapterRevision := input.adapterRevision
    actualStartedAt := input.actualStartedAt
    invocationAttempt := 1
    terminalAt := if terminal then some now else none
    handleExpiresAt :=
      if input.intent.ttlMs = none ∧ terminal = false then none
      else some (now.addMilliseconds (input.intent.ttlMs.elim 86400000 Int.ofNat))
    lastConfirmedAt := some now }

/-- A scheduled task, with its retention counted from the acceptance. -/
def scheduledTask (input : AdmissionIntentInput) (now : Instant) : TaskRecord :=
  { newTask input now with
    substate := some "scheduled"
    statusMessage := some "Waiting for scheduled start."
    nextStartAttemptAt := some input.anchors.notBefore
    handleExpiresAt := input.ttlMs.map fun ttl => input.anchors.acceptedAt.addMilliseconds ttl
    lastConfirmedAt := some input.anchors.acceptedAt }

def unescapePointer : List Char → List Char
  | '~' :: '1' :: rest => '/' :: unescapePointer rest
  | '~' :: '0' :: rest => '~' :: unescapePointer rest
  | char :: rest => char :: unescapePointer rest
  | [] => []

def resolvePath : Json → List (List Char) → Option Json
  | document, [] => some document
  | document, part :: rest =>
    let key := String.ofList (unescapePointer part)
    let child := match document with
      | .arr items =>
        ((List.range items.length).find? fun index => toString index = key).bind
          fun index => items[index]?
      | other => other.field? key
    child.bind fun value => resolvePath value rest

/-- The binding row is another table's; here it is the check that can stop a publication. -/
def materializeTaskResourceBinding (input : AdmissionIntentInput) : Tx Unit :=
  let invalid : Tx Unit := abort (Failure.error "BUSINESS_EVENT_RESOURCE_BINDING_INVALID")
  match input.resourceBinding with
  | none => pure ()
  | some binding =>
    if binding.mode ≠ "ARGUMENT_REFERENCE" then pure ()
    else match binding.resourceIdJsonPointer with
      | none => invalid
      | some pointer =>
        let resolved := match pointer.toList with
          | [] => some input.arguments
          | '/' :: path => resolvePath input.arguments (path.splitOn '/')
          | _ => none
        match resolved.bind Json.text? with
        | none => invalid
        | some resourceRef =>
          if 1 ≤ resourceRef.length ∧ resourceRef.length ≤ 512 ∧
              resourceRef.toList.all (fun char =>
                decide (0x21 ≤ char.toNat ∧ char.toNat ≤ 0x7E)) then
            pure ()
          else invalid

def acceptedIdentityConflict (existing : TaskRecord) (input : PublishTaskInput) : Bool :=
  existing.providerId != input.intent.providerId ||
    existing.operationName != input.intent.operationName ||
    existing.operationSnapshotId != input.intent.operationSnapshotId ||
    existing.authorizationContextHash != input.intent.authorization.hash ||
    existing.executionMode != input.intent.authorization.executionMode ||
    existing.simulationId != input.intent.authorization.simulationId ||
    existing.argumentHash != input.intent.argumentHash ||
    existing.externalExecutionId != some input.externalExecutionId

/-- Revision 1, inserted outside the kernel and only if it is not there. -/
def insertFirstObservation (observation : ObservationRow) : Tx Unit := do
  let tables ← read
  when (tables.observations.all fun other => other.revision != observation.revision) do
    update fun tables => { tables with observations := tables.observations ++ [observation] }

/-- The row of an accepted task, its binding and its first observation. -/
def insertAcceptedTask (clocks : Clocks) (input : PublishTaskInput) : Tx Unit := do
  update fun tables => { tables with task := some (acceptedTask input clocks.database) }
  materializeTaskResourceBinding input.intent
  insertFirstObservation
    { revision := 1
      type := stableObservationType input.transition
      reasonCode := reasonCodeFromTransition input.transition
      occurredAt := clocks.database
      message := input.transition.statusMessage
      substate := input.transition.substate
      source := .adapter
      adapterRevision := some input.adapterRevision
      payload := .obj [] }

/-- Publish what the adapter accepted. When the task row is already there the insert fails,
nothing of the transaction stays, and the committed row is the answer if it is the same
execution. -/
def publishAccepted (env : Environment) (clocks : Clocks) (input : PublishTaskInput) :
    Tx TaskRecord := do
  let tables ← read
  match tables.task with
  | some existing =>
    if acceptedIdentityConflict existing input then
      abort (Failure.error "TASK_ACCEPTED_IDENTITY_CONFLICT")
    else pure existing
  | none => do
    updateAdmission fun row => { row with state := .accepted }
    insertAcceptedTask clocks input
    stopMissedWindow env clocks input.startWindowMissedAt
    insertOutbox .created
    upsertInputRequests input.inputRequests
    updateAdmission fun row => { row with state := .published }
    lockTask

/-- The row of a scheduled task, its binding and its first observation. -/
def insertScheduledTask (clocks : Clocks) (input : AdmissionIntentInput) : Tx Unit := do
  update fun tables => { tables with task := some (scheduledTask input clocks.database) }
  materializeTaskResourceBinding input
  insertTaskObservation
    { revision := 1
      type := "task.scheduled"
      reasonCode := none
      occurredAt := input.anchors.acceptedAt
      message := "Waiting for scheduled start."
      substate := some "scheduled"
      source := .runtime
      adapterRevision := none
      payload := .obj [] }

def publishScheduled (clocks : Clocks) (input : AdmissionIntentInput) : Tx TaskRecord := do
  let tables ← read
  match tables.task with
  | some _ => abort (Failure.uniqueViolation "provider_task_pkey")
  | none => do
    insertScheduledTask clocks input
    insertOutbox .created
    updateAdmission fun row => { row with state := .published }
    lockTask

def authorizes (authorization : AuthorizationContext) (row : TaskRecord) : Bool :=
  row.authorizationContextHash == authorization.hash &&
    row.executionMode == authorization.executionMode &&
    row.simulationId == authorization.simulationId

def handleExpired (clocks : Clocks) (row : TaskRecord) : Bool :=
  row.expiredAt.isSome ||
    (isTerminalState row.internalState &&
      row.handleExpiresAt.any fun expiresAt => decide (expiresAt ≤ clocks.database))

/-- The row the caller may see; who may not see it is told that there is none. -/
def getAuthorizedRow (authorization : AuthorizationContext) : Tx TaskRecord := do
  let tables ← read
  match tables.task.filter (authorizes authorization) with
  | none => abort { kind := .taskNotFound, message := "TASK_NOT_FOUND" }
  | some row => pure row

def getAuthorized (clocks : Clocks) (authorization : AuthorizationContext) : Tx TaskRecord := do
  let row ← getAuthorizedRow authorization
  if handleExpired clocks row then abort { kind := .taskExpired, message := "TASK_EXPIRED" }
  else pure row

end SdarRuntime
