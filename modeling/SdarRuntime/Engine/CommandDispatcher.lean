import SdarRuntime.Adapter.Gateway
import SdarRuntime.Engine.ResultContract

/-!
The durable command dispatcher: a tick claims a command, sends it to the adapter under a
heartbeat that renews the claim, and records the outcome.
-/

namespace SdarRuntime

open Program (exec ofExcept)

structure DurableCommandDispatcher where
  workerId : String
  maxSafeStopAttempts : Nat := 5
  leaseMilliseconds : Nat := 30000
  maxInputResponseAttempts : Nat := 8
  maxInterventionAttempts : Nat := 8

inductive DispatchOutcome where
  | acknowledged
  | retriable
  | rejected
  | exhausted
  | terminal
  deriving DecidableEq, Repr

inductive UpdateKind where
  | legacy
  | frozen
  deriving DecidableEq, Repr

structure UpdatePayload where
  kind : UpdateKind
  answers : List InputAnswer

def invalidUpdatePayload : Failure := Failure.error "INVALID_UPDATE_COMMAND_PAYLOAD"

def commandHash (env : Environment) (value : Json) : String := env.sha256 value.canonicalize

/-- A member that reads as something although nothing of that name was assigned. -/
def readMember (key : String) (members : List (String × Json)) : Option Json :=
  match Json.lookup key members with
  | some value => some value
  | none => if Json.inheritedNames.contains key then some (.obj []) else none

def parseVerifiedResponders : Option Json → Except Failure (List (String × Json))
  | none => .ok []
  | some (.obj responders) =>
    if responders.all fun member => isRuntimeBusinessResponder member.2 then .ok responders
    else .error invalidUpdatePayload
  | some _ => .error invalidUpdatePayload

/-- The response as it is sent and hashed: its action, and its content if it has one. -/
def normalizedResponse (members : List (String × Json)) : Json :=
  .obj (("action", (Json.lookup "action" members).getD .null) ::
    match Json.lookup "content" members with
    | some content => [("content", content)]
    | none => [])

def frozenAnswer (env : Environment) (responders : List (String × Json)) :
    String × Json → Except Failure InputAnswer
  | (key, .obj members) =>
    if ["accept", "decline", "cancel"].contains
        ((Json.lookup "action" members).elim "undefined" Json.asText) then
      .ok
        { key := key
          answerHash := commandHash env (normalizedResponse members)
          value := (Json.lookup "content" members).getD .null
          response := normalizedResponse members
          verifiedResponder := readMember key responders }
    else .error invalidUpdatePayload
  | _ => .error invalidUpdatePayload

def legacyAnswer (env : Environment) : String × Json → InputAnswer
  | (key, value) =>
    { key := key
      answerHash := commandHash env value
      value := value
      response := .obj [("action", .str "accept"), ("content", value)]
      verifiedResponder := none }

def parseUpdatePayload (env : Environment) (payload : Json) : Except Failure UpdatePayload :=
  match payload.field? "inputResponses" with
  | some (.obj inputResponses) => do
    let responders ← parseVerifiedResponders (payload.field? "verifiedResponders")
    if responders.any fun responder =>
        responder.1 ≠ "__proto__" ∧ (Json.lookup responder.1 inputResponses).isNone then
      .error invalidUpdatePayload
    else
      let answers ← inputResponses.mapM (frozenAnswer env responders)
      return { kind := .frozen, answers := answers }
  | some _ => .error invalidUpdatePayload
  | none =>
    if (payload.field? "verifiedResponders").isSome then .error invalidUpdatePayload
    else match payload.field? "answers" with
      | some (.obj answers) =>
        .ok { kind := .legacy, answers := answers.map (legacyAnswer env) }
      | _ => .error invalidUpdatePayload

/-- Renew the claim, run the request under a heartbeat, and renew once more. A renewal that
failed while the request was out is thrown after its answer. -/
def withClaimHeartbeat {β : Type} (dispatcher : DurableCommandDispatcher)
    (command : PendingCommandRecord) (operation : GatewayCall β) : Action β := do
  let renew := RepositoryCall.renewCommandClaim command dispatcher.leaseMilliseconds
  exec renew
  let value ← Program.request operation (some renew) fun result late =>
    match result, late with
    | .error failure, _ => .fail failure
    | .ok _, some failure => .fail failure
    | .ok value, none => .done value
  exec renew
  pure value

def retryDelayMs (command : PendingCommandRecord) : Nat :=
  min 30000 (250 * 2 ^ min (command.attemptCount - 1) 7)

def retry (command : PendingCommandRecord) (errorCode errorMessage : String) : Action Unit := do
  let now ← exec .clockNow
  exec (.retryClaimedCommand command (now.addMilliseconds (retryDelayMs command)) errorCode
    errorMessage)

/-- Supersede the claimed command if its task is stopping; a claim that is lost to the stop
is superseded already. -/
def trySupersedeClaimedCommandForSafeStop (command : PendingCommandRecord) : Action Bool := do
  let task ← exec .getById
  if task.any TaskRecord.isStopping then
    let supersede : Action Bool := do
      exec (.supersedeClaimedCommandForSafeStop command)
      pure true
    supersede.attempt fun failure =>
      if failure.message = "COMMAND_CLAIM_LOST" then pure true else .fail failure
  else pure false

def commandTarget (task : TaskRecord) (operationName : String)
    (command : PendingCommandRecord) : CommandTarget :=
  { taskId := task.taskId
    operationName := operationName
    argumentHash := task.argumentHash
    commandSequence := command.commandSequence }

/-- The ack of the command, once it is known to be of this execution. -/
def deliver (dispatcher : DurableCommandDispatcher) (command : PendingCommandRecord)
    (task : TaskRecord) (operationName : String) (request : GatewayCall CommandAck) :
    Action CommandAck := do
  let ack ← withClaimHeartbeat dispatcher command request
  ofExcept (validateCommandAckIdentity ack (expectedTaskIdentity task operationName)
    command.commandSequence)
  pure ack

def dispatchCancel (deployment : Deployment) (dispatcher : DurableCommandDispatcher)
    (command : PendingCommandRecord) (task : TaskRecord) (operation : ValidatedOperation) :
    Action DispatchOutcome := do
  let ack ← deliver dispatcher command task operation.name
    (.requestCancel (commandTarget task operation.name command)
      (command.stopReason.getD .userRequested) task.executionOptions)
  if ack.accepted then
    exec (.acknowledgeClaimedCommand command ack)
    pure .acknowledged
  else if isRetryableAck ack.reasonCode then
    retry command (orElse ack.reasonCode "ADAPTER_RETRYABLE_REJECTION")
      (orElse ack.message "Adapter retryable safe-stop rejection.")
    pure .retriable
  else if command.stopReason ≠ some .userRequested then
    let _ ← exec (.failSafeStopUnconfirmed command
      (orElse ack.message "Adapter permanently rejected the required safe stop."))
    pure .exhausted
  else
    let reconciled ← withClaimHeartbeat dispatcher command
      (.reconcileExecution task.taskId operation.name task.argumentHash task.executionOptions)
    match reconciled.status, reconciled.snapshot with
    | "FOUND", some snapshot =>
      if reconciled.externalExecutionId ≠ snapshot.externalExecutionId then
        .fail (Failure.error "ADAPTER_RECONCILE_IDENTITY_MISMATCH")
      else
        ofExcept (validateAdapterSnapshotIdentity snapshot
          (expectedTaskIdentity task operation.name))
        let now ← exec .clockNow
        let _ ← exec (.rejectUserCancel command snapshot.revision
          (validatedSnapshotTransition deployment.env now operation snapshot) ack)
        pure .rejected
    | _, _ =>
      retry command (orElse reconciled.reasonCode "RECONCILE_UNAVAILABLE")
        (orElse reconciled.message "Unable to reconcile rejected cancellation.")
      pure .retriable

def supersedeOrRetry (command : PendingCommandRecord) (ack : CommandAck)
    (message : String) : Action DispatchOutcome := do
  let superseded ← trySupersedeClaimedCommandForSafeStop command
  if superseded then pure .exhausted
  else
    retry command (orElse ack.reasonCode "ADAPTER_RETRYABLE_REJECTION")
      (orElse ack.message message)
    pure .retriable

def orSuperseded (command : PendingCommandRecord) (body : Action DispatchOutcome) :
    Action DispatchOutcome :=
  body.attempt fun failure => do
    let superseded ← trySupersedeClaimedCommandForSafeStop command
    if superseded then pure .exhausted else .fail failure

/-- `rejectClaimedPromotedInputIfPayloadMismatch`: a query, then a rejection of its own. -/
def rejectClaimedPromotedInputIfPayloadMismatch (command : PendingCommandRecord) :
    Action Bool := do
  if command.commandType ≠ .update then pure false
  else
    let assigned ← exec (.assignedInputs command.commandSequence)
    if assigned.isEmpty then pure false
    else if promotedInputMismatch command.payload assigned then
      exec (.rejectClaimedCommand command "INPUT_RESPONSE_COMMAND_INTEGRITY_INVALID"
        "Promoted input response differs from its durable inbox record.")
      pure true
    else pure false

def settleUpdate (command : PendingCommandRecord) (update : UpdatePayload)
    (ack : CommandAck) : Action DispatchOutcome := do
  if ack.accepted then
    let result ← exec (.acknowledgeUpdateAndCompleteInputAnswers command ack update.answers)
    pure (if result = .acknowledged then .acknowledged else .exhausted)
  else if isRetryableAck ack.reasonCode then
    supersedeOrRetry command ack "Adapter rejected update command."
  else if update.answers.any fun answer => answer.verifiedResponder.isSome then
    exec (.rejectClaimedCommand command ack.reasonCode
      (orElse ack.message "Business input response was rejected."))
    pure .rejected
  else
    let _ ← exec (.rejectInputResponseAndFailTask command ack.reasonCode
      (orElse ack.message "Adapter rejected update command."))
    pure .rejected

def dispatchUpdate (deployment : Deployment) (dispatcher : DurableCommandDispatcher)
    (command : PendingCommandRecord) (task : TaskRecord) (operationName : String) :
    Action DispatchOutcome := do
  match parseUpdatePayload deployment.env command.payload with
  | .error _ =>
    exec (.rejectClaimedCommand command "INVALID_UPDATE_COMMAND_PAYLOAD"
      "Persisted Update command payload is invalid.")
    pure .rejected
  | .ok update =>
    let mismatched ← rejectClaimedPromotedInputIfPayloadMismatch command
    if mismatched then pure .rejected
    else orSuperseded command do
      let target := commandTarget task operationName command
      let ack ← deliver dispatcher command task operationName
        (match update.kind with
          | .frozen => .updateMcpTaskExecution target update.answers task.executionOptions
          | .legacy => .updateExecution target update.answers task.executionOptions)
      settleUpdate command update ack

inductive ControlType where
  | pause
  | resume
  deriving DecidableEq, Repr

def ControlType.commandType : ControlType → CommandType
  | .pause => .pause
  | .resume => .resume

def dispatchPauseOrResume (dispatcher : DurableCommandDispatcher)
    (command : PendingCommandRecord) (task : TaskRecord) (operationName : String)
    (control : ControlType) : Action DispatchOutcome :=
  orSuperseded command do
    let target := commandTarget task operationName command
    let ack ← deliver dispatcher command task operationName
      (match control with
        | .pause => .pauseExecution target task.executionOptions
        | .resume => .resumeExecution target task.executionOptions)
    if ack.accepted then
      exec (.acknowledgeClaimedCommand command ack)
      pure .acknowledged
    else if isRetryableAck ack.reasonCode then
      supersedeOrRetry command ack "Adapter rejected pause/resume command."
    else
      exec (.rejectClaimedCommand command ack.reasonCode
        (orElse ack.message "Adapter rejected pause or resume command."))
      pure .rejected

def settleIntervention (dispatcher : DurableCommandDispatcher) (command : PendingCommandRecord)
    (ack : CommandAck) : Action DispatchOutcome := do
  if ack.accepted then
    exec (.acknowledgeClaimedCommand command ack)
    pure .acknowledged
  else if isRetryableAck ack.reasonCode then
    let superseded ← trySupersedeClaimedCommandForSafeStop command
    if superseded then pure .exhausted
    else if dispatcher.maxInterventionAttempts ≤ command.attemptCount then
      exec (.exhaustClaimedBusinessIntervention command
        (orElse ack.message "Intervention delivery state is unknown."))
      pure .exhausted
    else
      retry command (orElse ack.reasonCode "ADAPTER_RETRYABLE_REJECTION")
        (orElse ack.message "Adapter rejected intervention command temporarily.")
      pure .retriable
  else
    exec (.rejectClaimedCommand command (orElse ack.reasonCode "ADAPTER_REJECTED")
      (orElse ack.message "Adapter rejected intervention command."))
    pure .rejected

def dispatchIntervention (deployment : Deployment) (dispatcher : DurableCommandDispatcher)
    (command : PendingCommandRecord) (task : TaskRecord) (operationName : String) :
    Action DispatchOutcome := do
  let reject (code message : String) : Action DispatchOutcome := do
    exec (.rejectClaimedCommand command code message)
    pure .rejected
  let intervention := (command.payload.field? "command").getD .null
  let responder := (command.payload.field? "responder").getD .null
  match deployment.parseIntervention intervention with
  | none => reject "INTERVENTION_COMMAND_INVALID" "Persisted Intervention command is invalid."
  | some (taskId, commandId) =>
    if taskId ≠ task.taskId ∨
        (command.payload.field? "commandId").bind Json.text? ≠ some commandId then
      reject "INTERVENTION_COMMAND_BINDING_INVALID"
        "Persisted Intervention command identity does not match its Task command."
    else if deployment.isTrustedResponder responder = false then
      reject "RESPONDER_NOT_AUTHORIZED" "Persisted Intervention responder is not verified."
    else
      let ack ← deliver dispatcher command task operationName
        (.applyIntervention (commandTarget task operationName command) intervention responder
          task.executionOptions)
      settleIntervention dispatcher command ack

/-- The delivery of a command whose task is there and not terminal. -/
def dispatch (deployment : Deployment) (dispatcher : DurableCommandDispatcher)
    (command : PendingCommandRecord) (task : TaskRecord) : Action DispatchOutcome := do
  let operation ← exec (.loadOperationSnapshot task.operationSnapshotId)
  exec (.recordCommandStarted command)
  match command.commandType with
  | .cancel => do
    let _ ← exec .supersedeExpiredClaimedNormalCommandsForSafeStop
    dispatchCancel deployment dispatcher command task operation
  | .update => dispatchUpdate deployment dispatcher command task operation.name
  | .intervention => dispatchIntervention deployment dispatcher command task operation.name
  | .pause => dispatchPauseOrResume dispatcher command task operation.name .pause
  | .resume => dispatchPauseOrResume dispatcher command task operation.name .resume

/-- An intervention that was tried often enough is given up, any other command is retried. -/
def exhaustOrRetry (dispatcher : DurableCommandDispatcher) (command : PendingCommandRecord)
    (failure : Failure) : Action DispatchOutcome := do
  if command.commandType = .intervention ∧
      dispatcher.maxInterventionAttempts ≤ command.attemptCount then
    exec (.exhaustClaimedBusinessIntervention command failure.message)
    pure .exhausted
  else
    let now ← exec .clockNow
    exec (.retryClaimedCommand command (now.addMilliseconds (retryDelayMs command))
      "ADAPTER_TRANSIENT_ERROR" failure.message)
    pure .retriable

def recordDispatchFailure (dispatcher : DurableCommandDispatcher)
    (command : PendingCommandRecord) (task : TaskRecord) (failure : Failure) :
    Action DispatchOutcome := do
  if isIdentityError failure then
    exec (.recordIdentityConflict failure.message)
    exec (.rejectClaimedCommand command "ADAPTER_IDENTITY_MISMATCH" failure.message)
    pure .rejected
  else if command.commandType = .cancel ∧ command.stopReason ≠ some .userRequested ∧
      dispatcher.maxSafeStopAttempts ≤ command.attemptCount then
    let _ ← exec (.failSafeStopUnconfirmed command failure.message)
    pure .exhausted
  else if command.commandType = .update ∧
      dispatcher.maxInputResponseAttempts ≤ command.attemptCount then
    exec (.failInputResponseDelivery command failure.message)
    pure .exhausted
  else if command.commandType ≠ .cancel ∧ (task.cancelRequested ∨ task.stopReason ≠ none) then
    let superseded ← trySupersedeClaimedCommandForSafeStop command
    if superseded then pure .exhausted else exhaustOrRetry dispatcher command failure
  else exhaustOrRetry dispatcher command failure

def executeClaimed (deployment : Deployment) (dispatcher : DurableCommandDispatcher)
    (command : PendingCommandRecord) : Action DispatchOutcome := do
  exec (.renewCommandClaim command dispatcher.leaseMilliseconds)
  let inputSuperseded ← exec (.supersedeClaimedBusinessInputIfNoLongerCurrent command)
  if inputSuperseded then pure .exhausted
  else
    let interventionSuperseded ←
      exec (.supersedeClaimedBusinessInterventionIfNotRunning command)
    if interventionSuperseded then pure .exhausted
    else
      let found ← exec .getById
      match found.filter fun task => !isTerminalState task.internalState with
      | none =>
        exec (.rejectClaimedCommand command "TASK_TERMINAL"
          "Task transitioned to terminal while command was in progress.")
        pure .terminal
      | some task =>
        (dispatch deployment dispatcher command task).attempt
          (recordDispatchFailure dispatcher command task)

/-- One tick, as far as it concerns this task: whether the batches of the promotion and of the
claim have room for it is `promoted` and `selected`. -/
def tick (deployment : Deployment) (dispatcher : DurableCommandDispatcher)
    (promoted selected : Bool) : Action (Option DispatchOutcome) := do
  let now ← exec .clockNow
  if promoted then
    let _ ← exec .promotePendingInputResponses
  let command ← exec (.claimDueCommands now dispatcher.workerId dispatcher.leaseMilliseconds
    selected)
  match command with
  | none => pure none
  | some command => do
    let outcome ← executeClaimed deployment dispatcher command
    pure (some outcome)

end SdarRuntime
