import SdarRuntime.Engine.CommandDispatcher
import SdarRuntime.Engine.StopTransition

/-!
The task engine: the admission of a call and its recovery, status reads and
reconciliation, and the requests for commands.
-/

namespace SdarRuntime

open Program (exec ask ofExcept)

/-- The arguments of `#executeOperation`. -/
structure OperationCall where
  operation : ValidatedOperation
  providerId : String
  arguments : Json
  authorization : AuthorizationContext
  ttlMs : Option Nat
  taskId : String
  recovering : Bool
  argumentHash : String
  timing : TaskExecutionTiming
  anchors : TimingAnchors
  reservationRef : Option String
  operationSnapshotId : Option String
  resourceBinding : Option ResourceBinding

inductive ToolInvocationResult where
  | result (value : Json)
  | task (task : TaskRecord)

def OperationCall.intent (call : OperationCall) (operationSnapshotId : String) :
    AdmissionIntentInput :=
  { taskId := call.taskId
    providerId := call.providerId
    operationName := call.operation.name
    operationSnapshotId := operationSnapshotId
    authorization := call.authorization
    arguments := call.arguments
    argumentHash := call.argumentHash
    anchors := call.anchors
    ttlMs := some (call.ttlMs.getD 259200000)
    timing := call.timing
    reservationRef := call.reservationRef
    resourceBinding := call.resourceBinding }

def OperationCall.identity (call : OperationCall) (externalExecutionId : Option String) :
    ExpectedExecutionIdentity :=
  { taskId := call.taskId
    externalExecutionId := externalExecutionId
    operationName := call.operation.name
    argumentHash := call.argumentHash
    authorizationContextHash := call.authorization.hash
    executionMode := call.authorization.executionMode
    simulationId := call.authorization.simulationId }

def OperationCall.startOperation (call : OperationCall) (invocationAttempt : Option Nat) :
    GatewayCall StartOperationResponse :=
  .startOperation call.operation.name call.arguments
    { taskId := call.taskId
      argumentHash := call.argumentHash
      execution := call.authorization.executionOptions
      timing := call.timing
      reservationRef := call.reservationRef
      invocationAttempt := invocationAttempt }

def validateStartResponseIdentity (call : OperationCall) (response : StartOperationResponse) :
    Except Failure Unit :=
  match response.accepted with
  | none => .ok ()
  | some accepted =>
    if accepted.externalExecutionId = "" ∨
        accepted.initialSnapshot.externalExecutionId ≠ accepted.externalExecutionId then
      .error (Failure.error "ADAPTER_START_IDENTITY_MISMATCH")
    else validateAdapterSnapshotIdentity accepted.initialSnapshot
      (call.identity (some accepted.externalExecutionId))

def rejectionResult (now : Instant) (rejected : Option RejectedStart) : Json :=
  admissionRejectedResult now (rejected.elim "ADMISSION_REJECTED" RejectedStart.reasonCode)
    (rejected.elim "Operation rejected." RejectedStart.message)
    (rejected.any RejectedStart.retryable)

def transitionReasonCode (transition : SnapshotTransition) : String :=
  (((transition.error.bind (Json.field? "data")).bind
    (Json.field? "reasonCode")).bind Json.text?).getD "TECHNICAL_EXECUTION_FAILED"

def executeSynchronous (deployment : Deployment) (call : OperationCall) :
    Action ToolInvocationResult := do
  let response ← ask (call.startOperation none)
  ofExcept (validateStartResponseIdentity call response)
  let now ← exec .clockNow
  match response.rejected, response.accepted with
  | some rejected, _ => pure (.result (rejectionResult now (some rejected)))
  | none, none => .fail (Failure.error "ADAPTER_START_RESPONSE_MISSING_RESULT")
  | none, some accepted => do
    let result ← ofExcept
      (synchronousResult deployment.env now call.operation accepted.initialSnapshot)
    pure (.result result)

def recordReconciliation (status : String) (externalExecutionId : Option String)
    (identityValidated : Bool) : Action Unit := do
  let now ← exec .clockNow
  exec (.recordReconciliationResult status externalExecutionId identityValidated now)

/-- The publication of a snapshot, with the start window measured when the answer came. -/
def OperationCall.publication (call : OperationCall) (intent : AdmissionIntentInput)
    (externalExecutionId : String) (snapshot : ExecutionSnapshot)
    (transition : SnapshotTransition) (inputRequests : List NewInputRequest)
    (respondedAt : Instant) : PublishTaskInput :=
  let actualStartedAt := if snapshotHasStarted snapshot.state then some respondedAt else none
  { intent := intent
    externalExecutionId := externalExecutionId
    transition := transition
    adapterRevision := snapshot.revision
    inputRequests := inputRequests
    actualStartedAt := actualStartedAt
    startWindowMissedAt :=
      if call.anchors.latestStartAt < actualStartedAt.getD respondedAt then some respondedAt
      else none }

def completeWithoutTask (transition : SnapshotTransition) : Action ToolInvocationResult := do
  if transition.mcpStatus = .failed then
    exec (.markAdmissionUncertain "unknown" [])
    .fail (Failure.technicalExecution (transitionReasonCode transition))
  else
    exec .completeAdmissionWithoutTask
    pure (.result ((transition.result.or transition.error).getD (.obj [])))

def publishReconciled (deployment : Deployment) (call : OperationCall)
    (intent : AdmissionIntentInput) (externalExecutionId : String)
    (snapshot : ExecutionSnapshot) : Action ToolInvocationResult := do
  ofExcept (validateAdapterSnapshotIdentity snapshot (call.identity (some externalExecutionId)))
  let respondedAt ← exec .clockNow
  let transition := validatedSnapshotTransition deployment.env respondedAt call.operation snapshot
  let inputRequests ← ofExcept (normalizeInputRequests snapshot)
  if call.operation.execution = .taskCapable ∧ transition.terminal = true then
    completeWithoutTask transition
  else
    let task ← exec (.publishAccepted
      (call.publication intent externalExecutionId snapshot transition inputRequests respondedAt))
    pure (.task task)

/-- What the adapter found of an earlier dispatch; `none` lets the call start the operation. -/
def settleReconciliation (deployment : Deployment) (call : OperationCall)
    (intent : AdmissionIntentInput) (admission : Option AdmissionIntentRecord)
    (reconciliation : ReconcileExecutionResponse) : Action (Option ToolInvocationResult) := do
  match reconciliation.status, reconciliation.snapshot with
  | "CONFLICT", _ =>
    recordReconciliation "conflict"
      (if reconciliation.externalExecutionId = "" then none
        else some reconciliation.externalExecutionId) false
    .fail (Failure.error "ADAPTER_RECONCILE_CONFLICT")
  | "FOUND", some snapshot =>
    let externalExecutionId :=
      orElse reconciliation.externalExecutionId snapshot.externalExecutionId
    match validateAdapterSnapshotIdentity snapshot
        (call.identity (some externalExecutionId)) with
    | .error failure =>
      recordReconciliation "conflict" (some externalExecutionId) false
      .fail failure
    | .ok () =>
      recordReconciliation "found" (some externalExecutionId) true
      let result ← publishReconciled deployment call intent externalExecutionId snapshot
      pure (some result)
  | "NOT_FOUND", _ =>
    recordReconciliation "not_found" none false
    if (admission.map AdmissionIntentRecord.state) = some .uncertain then
      .fail (Failure.error "ADAPTER_RECONCILE_NOT_FOUND_UNCERTAIN")
    else pure none
  | _, _ =>
    recordReconciliation "transient_unavailable" none false
    .fail (Failure.error "ADAPTER_RECONCILE_UNAVAILABLE")

/-- A call that is not the first one asks the adapter before it starts anything. -/
def reconcileAdmission (deployment : Deployment) (call : OperationCall)
    (intent : AdmissionIntentInput) : Action (Option ToolInvocationResult) := do
  let existing ← exec .getById
  match existing with
  | some task => pure (some (.task task))
  | none =>
    let admission ← exec .getAdmission
    let reconciliation ← (ask (.reconcileExecution call.taskId call.operation.name
        call.argumentHash call.authorization.executionOptions)).attempt fun failure => do
      recordReconciliation "transient_unavailable" none false
      .fail failure
    settleReconciliation deployment call intent admission reconciliation

/-- The answer to a start: a rejection, a defect of the answer, or a task to publish. -/
def settleStart (deployment : Deployment) (call : OperationCall)
    (intent : AdmissionIntentInput) (response : StartOperationResponse) :
    Action ToolInvocationResult := do
  if response.result = "rejected" ∨ response.rejected.isSome then
    let now ← exec .clockNow
    exec .recordRejection
    pure (.result (if call.anchors.latestStartAt < now then
        startWindowMissed now "Start response arrived after the start window." []
      else rejectionResult now response.rejected))
  else match response.accepted with
    | none =>
      exec (.markAdmissionUncertain "unknown" [])
      .fail (Failure.error "ADAPTER_START_RESPONSE_MISSING_RESULT")
    | some accepted =>
      match validateStartResponseIdentity call response with
      | .error failure =>
        exec (.markAdmissionUncertain "adapter_transport_ambiguous"
          ["adapter.startOperation:response", "runtime.validateStartResponseIdentity"])
        .fail failure
      | .ok () =>
        let respondedAt ← exec .clockNow
        let transition := validatedSnapshotTransition deployment.env respondedAt
          call.operation accepted.initialSnapshot
        let inputRequests ← ofExcept (normalizeInputRequests accepted.initialSnapshot)
        if call.operation.execution = .taskCapable ∧ transition.terminal = true then
          completeWithoutTask transition
        else
          let task ← (exec (.publishAccepted (call.publication intent
              accepted.externalExecutionId accepted.initialSnapshot transition inputRequests
              respondedAt))).attempt fun failure => do
            exec (.markAdmissionUncertain "runtime_crash_window"
              ["adapter.startOperation:accepted", "runtime.publishAccepted"])
            .fail failure
          pure (.task task)

def startAdmitted (deployment : Deployment) (call : OperationCall)
    (intent : AdmissionIntentInput) : Action ToolInvocationResult := do
  if call.timing.startMode = .scheduled then
    let task ← exec (.publishScheduled intent)
    pure (.task task)
  else
    let response ← (ask (call.startOperation (some 1))).attempt fun failure => do
      exec (match deployment.diagnosticResponseLossLeaseId failure with
        | some leaseId => .markAdmissionUncertain "response_lost_after_adapter_success"
            ["adapter.startOperation", "diagnosticFaultLease:" ++ leaseId]
        | none => .markAdmissionUncertain "adapter_transport_ambiguous"
            ["adapter.startOperation"])
      .fail failure
    settleStart deployment call intent response

def executeOperation (deployment : Deployment) (call : OperationCall) :
    Action ToolInvocationResult := do
  if call.operation.execution = .synchronous then executeSynchronous deployment call
  else match call.operationSnapshotId with
    | none => .fail (Failure.error "OPERATION_SNAPSHOT_NOT_FOUND")
    | some operationSnapshotId =>
      let intent := call.intent operationSnapshotId
      let inserted ← exec (.createAdmissionIntent intent)
      if inserted = false ∨ call.recovering then
        let settled ← reconcileAdmission deployment call intent
        match settled with
        | some result => pure result
        | none => startAdmitted deployment call intent
      else startAdmitted deployment call intent

def AdmissionIntentRecord.call (admission : AdmissionIntentRecord)
    (operation : ValidatedOperation) : OperationCall :=
  { operation := operation
    providerId := admission.intent.providerId
    arguments := admission.intent.arguments
    authorization := admission.intent.authorization
    ttlMs := admission.intent.ttlMs
    taskId := admission.intent.taskId
    recovering := true
    argumentHash := admission.intent.argumentHash
    timing := admission.intent.timing
    anchors := admission.intent.anchors
    reservationRef := admission.intent.reservationRef
    operationSnapshotId := some admission.intent.operationSnapshotId
    resourceBinding := admission.intent.resourceBinding }

def recoverAdmission (deployment : Deployment) (admission : AdmissionIntentRecord)
    (operation : ValidatedOperation) : Action ToolInvocationResult :=
  executeOperation deployment (admission.call operation)

def isTransientAdapterReadError (failure : Failure) : Bool :=
  match failure.kind with
  | .transport code => [1, 4, 8, 10, 14].contains code
  | _ => false

def validateTaskSnapshot (task : TaskRecord) (operationName : String)
    (snapshot : ExecutionSnapshot) : Action Unit :=
  (ofExcept (validateAdapterSnapshotIdentity snapshot
    (expectedTaskIdentity task operationName))).attempt fun failure => do
      exec (.recordIdentityConflict failure.message)
      .fail failure

/-- A snapshot as it is applied: its transition is derived from the row that was read before
the adapter was asked. -/
structure SnapshotReading (deployment : Deployment) where
  task : TaskRecord
  operation : ValidatedOperation
  snapshot : ExecutionSnapshot
  completedAt : Instant
  transition : SnapshotTransition
  inputRequests : List NewInputRequest
  transition_eq :
    stopTransition deployment.env task operation snapshot completedAt = .ok transition
  inputRequests_eq : normalizeInputRequests snapshot = .ok inputRequests

def SnapshotReading.apply {deployment : Deployment} (reading : SnapshotReading deployment) :
    RepositoryCall TaskRecord :=
  .applySnapshot reading.snapshot.revision reading.transition reading.inputRequests

def readSnapshot (deployment : Deployment) (task : TaskRecord)
    (operation : ValidatedOperation) (snapshot : ExecutionSnapshot) (completedAt : Instant) :
    Except Failure (SnapshotReading deployment) :=
  match derived : stopTransition deployment.env task operation snapshot completedAt with
  | .error failure => .error failure
  | .ok transition =>
    match normalized : normalizeInputRequests snapshot with
    | .error failure => .error failure
    | .ok inputRequests => .ok
        { task := task
          operation := operation
          snapshot := snapshot
          completedAt := completedAt
          transition := transition
          inputRequests := inputRequests
          transition_eq := derived
          inputRequests_eq := normalized }

def applyReading (deployment : Deployment) (task : TaskRecord) (operation : ValidatedOperation)
    (snapshot : ExecutionSnapshot) : Action TaskRecord := do
  let completedAt ← exec .clockNow
  let reading ← ofExcept (readSnapshot deployment task operation snapshot completedAt)
  exec reading.apply

/-- A transient error answers the row as it was read; the reconciliation it starts in the
background is a process of its own. -/
def getTask (deployment : Deployment) (authorization : AuthorizationContext) :
    Action TaskRecord := do
  let task ← exec (.getAuthorized authorization)
  let operation ← exec (.loadOperationSnapshot task.operationSnapshotId)
  if isTerminalState task.internalState ∨ task.internalState = .scheduled ∨
      task.internalState = .starting then
    pure task
  else match task.externalExecutionId with
    | none => pure task
    | some externalExecutionId =>
      let read : Action TaskRecord := do
        let snapshot ← ask (.getExecution task.taskId externalExecutionId
          authorization.executionOptions)
        validateTaskSnapshot task operation.name snapshot
        applyReading deployment task operation snapshot
      read.attempt fun failure =>
        if isTransientAdapterReadError failure then pure task else .fail failure

inductive ReconcileOutcome where
  | found
  | notFound
  | deferred
  deriving DecidableEq, Repr

def failReconciliation (task : TaskRecord) (status : String)
    (externalExecutionId : Option String) (message : String) : Action ReconcileOutcome := do
  recordReconciliation status (externalExecutionId.or task.externalExecutionId) false
  let _ ← exec (.failRecoveryNotFound message)
  pure .notFound

def applyReconciled (deployment : Deployment) (task : TaskRecord)
    (operation : ValidatedOperation) (snapshot : ExecutionSnapshot) :
    Action ReconcileOutcome := do
  (validateTaskSnapshot task operation.name snapshot).attempt fun failure => do
    recordReconciliation "conflict" (some snapshot.externalExecutionId) false
    .fail failure
  recordReconciliation "found" (some snapshot.externalExecutionId) true
  let _ ← applyReading deployment task operation snapshot
  exec .noteRecovery
  pure .found

def presentText (text : String) : Option String := if text = "" then none else some text

def reconcileTask (deployment : Deployment) (task : TaskRecord)
    (operation : ValidatedOperation) : Action ReconcileOutcome := do
  if task.internalState = .starting ∧ task.externalExecutionId = none then
    recordReconciliation "deferred" none false
    pure .deferred
  else
    let response ← (ask (.reconcileExecution task.taskId operation.name task.argumentHash
        task.executionOptions)).attempt fun failure => do
      recordReconciliation "transient_unavailable" task.externalExecutionId false
      .fail failure
    if response.status = "TRANSIENT_UNAVAILABLE" then
      recordReconciliation "transient_unavailable" task.externalExecutionId false
      pure .deferred
    else if response.status = "CONFLICT" then
      failReconciliation task "conflict" (presentText response.externalExecutionId)
        "Adapter reported a conflicting execution identity during recovery."
    else if response.status = "NOT_FOUND" then
      failReconciliation task "not_found" none "Adapter execution was not found during recovery."
    else match response.snapshot with
      | none =>
        failReconciliation task "not_found" none
          "Adapter execution was not found during recovery."
      | some snapshot =>
        if response.externalExecutionId ≠ snapshot.externalExecutionId then
          recordReconciliation "conflict"
            (some (orElse response.externalExecutionId snapshot.externalExecutionId)) false
          exec (.recordIdentityConflict "ADAPTER_RECONCILE_IDENTITY_MISMATCH")
          .fail (Failure.error "ADAPTER_RECONCILE_IDENTITY_MISMATCH")
        else applyReconciled deployment task operation snapshot

/-- The reconciliation a degraded read leaves behind, with the row that read had. -/
def degradedReconcile (deployment : Deployment) (authorization : AuthorizationContext) :
    Action ReconcileOutcome := do
  let task ← exec (.getAuthorized authorization)
  let operation ← exec (.loadOperationSnapshot task.operationSnapshotId)
  reconcileTask deployment task operation

def recoverListedAdmission (deployment : Deployment) : Action Unit := do
  let listed ← exec .listAdmissionsForRecovery
  match listed with
  | none => pure ()
  | some admission =>
    let operation ← exec (.loadOperationSnapshot admission.intent.operationSnapshotId)
    let _ ← recoverAdmission deployment admission operation
    pure ()

def recoverListedTask (deployment : Deployment) : Action Unit := do
  let listed ← exec .listTasksForRecovery
  match listed with
  | none => pure ()
  | some _ =>
    let noteFailure : Action Unit := do
      let now ← exec .clockNow
      exec (.noteRecoveryFailure now)
    let recover : Action Unit := do
      let found ← exec .getById
      match found.filter fun task => !isTerminalState task.internalState with
      | none => pure ()
      | some task =>
        let operation ← exec (.loadOperationSnapshot task.operationSnapshotId)
        let outcome ← reconcileTask deployment task operation
        if outcome = .deferred then noteFailure else pure ()
    recover.attempt fun _ => noteFailure.attempt fun _ => pure ()

def capabilityNotSupported (code : String) : Failure :=
  { kind := .capabilityNotSupported, message := code }

def userCancelHash (env : Environment) : String := env.sha256 "cancel:user_requested"

def cancelTask (deployment : Deployment) (authorization : AuthorizationContext) :
    Action Unit := do
  let task ← exec (.getAuthorized authorization)
  let operation ← exec (.loadOperationSnapshot task.operationSnapshotId)
  if isTerminalState task.internalState then pure ()
  else if operation.capabilities.cancel = false then
    .fail (capabilityNotSupported "CANCEL_NOT_SUPPORTED")
  else
    let command ← exec (.beginCancel (userCancelHash deployment.env))
    if command.commandType ≠ .cancel then
      .fail (Failure.error "CANCEL_COMMAND_NOT_PERSISTED")
    else pure ()

def cancelTaskCooperatively (deployment : Deployment) (authorization : AuthorizationContext) :
    Action Unit := do
  let task ← exec (.getAuthorized authorization)
  if isTerminalState task.internalState then pure ()
  else
    let operation ← exec (.loadOperationSnapshot task.operationSnapshotId)
    if operation.capabilities.cancel then
      let _ ← exec (.beginCancel (userCancelHash deployment.env))
      pure ()
    else
      let _ ← exec .recordCooperativeCancellationIntent
      pure ()

inductive CommandAnswer where
  | receipt (command : CommandResolution)
  | rejected (command : CommandResolution)
  | exhausted (command : CommandResolution)

def commandInProgress : Failure :=
  { kind := .commandInProgress, message := "COMMAND_IN_PROGRESS" }

def resolveExistingCommand (command : CommandResolution) : Except Failure CommandAnswer :=
  match command.state with
  | .pending | .claimed | .retryWait => .error commandInProgress
  | .acknowledged =>
    if command.commandType = .cancel then .error commandInProgress
    else .ok (.receipt command)
  | .rejected => .ok (.rejected command)
  | .exhausted => .ok (.exhausted command)

/-- A command that was there already is resolved; a new one has its receipt. -/
def answerCommand (command : CommandResolution) : Action CommandAnswer :=
  if command.disposition = .existing then ofExcept (resolveExistingCommand command)
  else pure (.receipt command)

/-- The hash of a request to pause or resume: it depends on nothing but the type. -/
def controlHash (env : Environment) (control : ControlType) : String :=
  env.sha256 control.commandType.text

def controlTask (deployment : Deployment) (control : ControlType)
    (authorization : AuthorizationContext) : Action CommandAnswer := do
  let task ← exec (.getAuthorized authorization)
  let operation ← exec (.loadOperationSnapshot task.operationSnapshotId)
  if operation.capabilities.pauseResume = false then
    .fail (capabilityNotSupported "PAUSE_RESUME_NOT_SUPPORTED")
  else
    let command ← exec (.beginCommand control.commandType (controlHash deployment.env control)
      (.obj []))
    answerCommand command

/-- One answer of `updateTask`, checked against the requests that were listed. -/
structure CheckedAnswer where
  key : String
  hash : String
  value : Json
  pending : Bool

/-- `validateAnswer` is the compiled schema of the request. -/
def checkAnswer (env : Environment) (validateAnswer : InputRequestRow → Json → Bool)
    (requests : List InputRequestRow) : String × Json → Except Failure CheckedAnswer
  | (key, value) =>
    let invalid := fun code => Except.error { kind := .invalidParams, message := code }
    let hash := commandHash env value
    match requests.find? fun request => request.key == key with
    | none => invalid "UNKNOWN_INPUT_REQUEST_KEY"
    | some request =>
      if request.status = .answered then
        if request.answerHash ≠ some hash then invalid "INPUT_ANSWER_CONFLICT"
        else .ok { key := key, hash := hash, value := value, pending := false }
      else if validateAnswer request value = false then invalid "INVALID_INPUT_ANSWER"
      else .ok { key := key, hash := hash, value := value, pending := true }

def answersHash (env : Environment) (answers : List CheckedAnswer) : String :=
  commandHash env (.arr ((answers.insertionSort fun left right =>
      env.localeLe left.key right.key = true).map fun answer => .obj [
    ("key", .str answer.key),
    ("hash", .str answer.hash),
    ("value", answer.value)]))

/-- The older way to answer: an UPDATE command at once, without the inbox. -/
def updateTask (deployment : Deployment) (validateAnswer : InputRequestRow → Json → Bool)
    (answers : List (String × Json)) (authorization : AuthorizationContext) :
    Action (Option CommandAnswer) := do
  let task ← exec (.getAuthorized authorization)
  let operation ← exec (.loadOperationSnapshot task.operationSnapshotId)
  if operation.capabilities.inputRequired = false then
    .fail (capabilityNotSupported "INPUT_NOT_SUPPORTED")
  else
    let requests ← exec .listInputRequests
    let checked ← ofExcept
      (answers.mapM (checkAnswer deployment.env validateAnswer requests))
    let requestHash := answersHash deployment.env checked
    let pending := checked.filter CheckedAnswer.pending
    if pending.isEmpty then
      let found ← exec (.findCommandByRequestHash .update requestHash)
      match found with
      | some command => do
        let answer ← ofExcept (resolveExistingCommand command)
        pure (some answer)
      | none => pure none
    else
      let command ← exec (.beginCommand .update requestHash (.obj [
        ("answers", .obj (pending.map fun answer => (answer.key, answer.value)))]))
      let answer ← answerCommand command
      pure (some answer)

/-- `validateLockedResponse` is the check of the responder and of the compiled schema. -/
def updateTaskInputResponses (validateLockedResponse : ValidateLockedInputResponse)
    (inputResponses : List (String × McpInputResponse))
    (authorization : AuthorizationContext) : Action Unit := do
  let task ← exec (.getAuthorized authorization)
  let operation ← exec (.loadOperationSnapshot task.operationSnapshotId)
  if operation.capabilities.inputRequired = false then
    .fail (capabilityNotSupported "INPUT_NOT_SUPPORTED")
  else
    let _ ← exec (.acceptMcpInputResponses authorization inputResponses validateLockedResponse)
    pure ()

/-- The part of `enqueueBusinessIntervention` after its checks, which change nothing. -/
def enqueueBusinessIntervention (commandId semanticHash : String) (payload : Json) :
    Action Unit := do
  let _ ← exec (.beginBusinessInterventionCommand commandId semanticHash payload)
  pure ()

end SdarRuntime
