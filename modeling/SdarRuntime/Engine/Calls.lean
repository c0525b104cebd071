import SdarRuntime.Engine.TaskEngine

/-!
Which calls each process makes of the repository, whatever it is answered: an attempt
records outcomes of the command it claimed only, an admission never touches a command, and
a status read applies only what it derived from the row it read.
-/

namespace SdarRuntime

open Program

/-- The calls of the attempt that claimed `copy`. -/
def RepositoryCall.OfAttempt (env : Environment) (copy : PendingCommandRecord) {β : Type}
    (call : RepositoryCall β) : Prop :=
  match call with
  | .clockNow | .getById | .loadOperationSnapshot _ | .recordIdentityConflict _
  | .supersedeExpiredClaimedNormalCommandsForSafeStop | .assignedInputs _ => True
  | .renewCommandClaim command _ | .retryClaimedCommand command _ _ _
  | .recordCommandStarted command | .rejectClaimedCommand command _ _
  | .supersedeClaimedCommandForSafeStop command
  | .supersedeClaimedBusinessInputIfNoLongerCurrent command
  | .supersedeClaimedBusinessInterventionIfNotRunning command
  | .exhaustClaimedBusinessIntervention command _ => command = copy
  | .acknowledgeClaimedCommand command _ => command = copy ∧ copy.commandType ≠ .update
  | .rejectInputResponseAndFailTask command _ _ | .failInputResponseDelivery command _ =>
    command = copy ∧ copy.commandType = .update
  | .acknowledgeUpdateAndCompleteInputAnswers command _ answers =>
    command = copy ∧ copy.commandType = .update ∧
      ∃ update, parseUpdatePayload env copy.payload = .ok update ∧ answers = update.answers
  | .rejectUserCancel command _ _ _ =>
    command = copy ∧ copy.commandType = .cancel ∧ copy.stopReason = some .userRequested
  | .failSafeStopUnconfirmed command _ => command = copy ∧ copy.commandType = .cancel
  | _ => False

/-- The requests of that attempt: its command, and what became of the execution. -/
def GatewayCall.OfAttempt (copy : PendingCommandRecord) {β : Type} (call : GatewayCall β) :
    Prop :=
  match call with
  | .requestCancel target _ _ | .updateExecution target _ _ | .updateMcpTaskExecution target _ _
  | .pauseExecution target _ | .resumeExecution target _ | .applyIntervention target _ _ _ =>
    target.commandSequence = copy.commandSequence
  | .reconcileExecution .. => True
  | .startOperation .. | .getExecution .. => False

section Attempt

variable (deployment : Deployment) (dispatcher : DurableCommandDispatcher)
variable (copy : PendingCommandRecord)

theorem withClaimHeartbeat_calls {β : Type} {operation : GatewayCall β}
    (asked : operation.OfAttempt copy) :
    (withClaimHeartbeat dispatcher copy operation).Calls (RepositoryCall.OfAttempt deployment.env copy)
      (GatewayCall.OfAttempt copy) := by
  refine calls_bind (calls_exec rfl) fun _ => calls_bind
    ⟨asked, fun _ isBeat => ?_, fun _ _ => ?_⟩ fun _ =>
      calls_bind (calls_exec rfl) fun _ => calls_pure _
  · cases isBeat
    exact rfl
  · dsimp only
    split
    · exact calls_fail _
    · exact calls_fail _
    · exact trivial

theorem retry_calls (errorCode errorMessage : String) :
    (retry copy errorCode errorMessage).Calls (RepositoryCall.OfAttempt deployment.env copy)
      (GatewayCall.OfAttempt copy) :=
  calls_bind (calls_exec trivial) fun _ => calls_exec rfl

theorem trySupersedeClaimedCommandForSafeStop_calls :
    (trySupersedeClaimedCommandForSafeStop copy).Calls (RepositoryCall.OfAttempt deployment.env copy)
      (GatewayCall.OfAttempt copy) := by
  refine calls_bind (calls_exec trivial) fun task => calls_ite (fun _ => ?_) fun _ => calls_pure _
  refine calls_attempt (calls_bind (calls_exec rfl) fun _ => calls_pure _) fun failure => ?_
  exact calls_ite (fun _ => calls_pure _) fun _ => calls_fail _

theorem deliver_calls (task : TaskRecord) (operationName : String)
    {request : GatewayCall CommandAck} (asked : request.OfAttempt copy) :
    (deliver dispatcher copy task operationName request).Calls
      (RepositoryCall.OfAttempt deployment.env copy)
      (GatewayCall.OfAttempt copy) :=
  calls_bind (withClaimHeartbeat_calls deployment dispatcher copy asked) fun _ =>
    calls_bind (calls_ofExcept _) fun _ => calls_pure _

theorem dispatchCancel_calls (task : TaskRecord) (operation : ValidatedOperation)
    (cancel : copy.commandType = .cancel) :
    (dispatchCancel deployment dispatcher copy task operation).Calls
      (RepositoryCall.OfAttempt deployment.env copy)
      (GatewayCall.OfAttempt copy) := by
  have retries (errorCode errorMessage : String) :
      (do retry copy errorCode errorMessage; pure DispatchOutcome.retriable : Action _).Calls
        (RepositoryCall.OfAttempt deployment.env copy)
      (GatewayCall.OfAttempt copy) :=
    calls_bind (retry_calls deployment copy _ _) fun _ => calls_pure _
  refine calls_bind (deliver_calls deployment dispatcher copy task _ rfl) fun ack => ?_
  refine calls_ite (fun _ => ?_) fun _ => ?_
  · exact calls_bind (calls_exec ⟨rfl, by simp [cancel]⟩) fun _ => calls_pure _
  refine calls_ite (fun _ => retries _ _) fun _ => ?_
  refine calls_ite (fun _ => ?_) fun requested => ?_
  · exact calls_bind (calls_exec ⟨rfl, cancel⟩) fun _ => calls_pure _
  refine calls_bind (withClaimHeartbeat_calls deployment dispatcher copy trivial) fun reconciled => ?_
  split
  · refine calls_ite (fun _ => calls_fail _) fun _ => ?_
    refine calls_bind (calls_ofExcept _) fun _ => calls_bind (calls_exec trivial) fun now => ?_
    exact calls_bind (calls_exec ⟨rfl, cancel, not_not.mp requested⟩) fun _ => calls_pure _
  · exact retries _ _

theorem supersedeOrRetry_calls (ack : CommandAck) (message : String) :
    (supersedeOrRetry copy ack message).Calls (RepositoryCall.OfAttempt deployment.env copy)
      (GatewayCall.OfAttempt copy) := by
  refine calls_bind (trySupersedeClaimedCommandForSafeStop_calls deployment copy) fun _ => ?_
  refine calls_ite (fun _ => calls_pure _) fun _ => ?_
  exact calls_bind (retry_calls deployment copy _ _) fun _ => calls_pure _

theorem orSuperseded_calls {body : Action DispatchOutcome}
    (bodyCalls : body.Calls (RepositoryCall.OfAttempt deployment.env copy)
      (GatewayCall.OfAttempt copy)) :
    (orSuperseded copy body).Calls (RepositoryCall.OfAttempt deployment.env copy)
      (GatewayCall.OfAttempt copy) := by
  refine calls_attempt bodyCalls fun failure => ?_
  refine calls_bind (trySupersedeClaimedCommandForSafeStop_calls deployment copy) fun _ => ?_
  exact calls_ite (fun _ => calls_pure _) fun _ => calls_fail _

theorem rejectClaimedPromotedInputIfPayloadMismatch_calls :
    (rejectClaimedPromotedInputIfPayloadMismatch copy).Calls
      (RepositoryCall.OfAttempt deployment.env copy)
      (GatewayCall.OfAttempt copy) := by
  refine calls_ite (fun _ => calls_pure _) fun _ => ?_
  refine calls_bind (calls_exec trivial) fun assigned => ?_
  refine calls_ite (fun _ => calls_pure _) fun _ => ?_
  refine calls_ite (fun _ => ?_) fun _ => calls_pure _
  exact calls_bind (calls_exec rfl) fun _ => calls_pure _

theorem settleUpdate_calls (update : UpdatePayload) (ack : CommandAck)
    (isUpdate : copy.commandType = .update)
    (parsed : parseUpdatePayload deployment.env copy.payload = .ok update) :
    (settleUpdate copy update ack).Calls (RepositoryCall.OfAttempt deployment.env copy)
      (GatewayCall.OfAttempt copy) := by
  refine calls_ite (fun _ => ?_) fun _ => ?_
  · exact calls_bind (calls_exec ⟨rfl, isUpdate, update, parsed, rfl⟩) fun _ => calls_pure _
  refine calls_ite (fun _ => supersedeOrRetry_calls deployment copy ack _) fun _ => ?_
  refine calls_ite (fun _ => ?_) fun _ => ?_
  · exact calls_bind (calls_exec rfl) fun _ => calls_pure _
  · exact calls_bind (calls_exec ⟨rfl, isUpdate⟩) fun _ => calls_pure _

theorem dispatchUpdate_calls (task : TaskRecord) (operationName : String)
    (isUpdate : copy.commandType = .update) :
    (dispatchUpdate deployment dispatcher copy task operationName).Calls
      (RepositoryCall.OfAttempt deployment.env copy)
      (GatewayCall.OfAttempt copy) := by
  unfold dispatchUpdate
  split
  · exact calls_bind (calls_exec rfl) fun _ => calls_pure _
  · rename_i update parsed
    refine calls_bind (rejectClaimedPromotedInputIfPayloadMismatch_calls deployment copy)
      fun mismatched => ?_
    refine calls_ite (fun _ => calls_pure _) fun _ => orSuperseded_calls deployment copy ?_
    refine calls_bind (deliver_calls deployment dispatcher copy task _ ?_) fun ack => ?_
    · cases update.kind with
      | legacy => exact rfl
      | frozen => exact rfl
    · exact settleUpdate_calls deployment copy update ack isUpdate parsed

theorem dispatchPauseOrResume_calls (task : TaskRecord) (operationName : String)
    (control : ControlType) (other : copy.commandType ≠ .update) :
    (dispatchPauseOrResume dispatcher copy task operationName control).Calls
      (RepositoryCall.OfAttempt deployment.env copy)
      (GatewayCall.OfAttempt copy) := by
  refine orSuperseded_calls deployment copy ?_
  refine calls_bind (deliver_calls deployment dispatcher copy task _ ?_) fun ack => ?_
  · cases control with
    | pause => exact rfl
    | resume => exact rfl
  refine calls_ite (fun _ => ?_) fun _ => ?_
  · exact calls_bind (calls_exec ⟨rfl, other⟩) fun _ => calls_pure _
  refine calls_ite (fun _ => supersedeOrRetry_calls deployment copy ack _) fun _ => ?_
  exact calls_bind (calls_exec rfl) fun _ => calls_pure _

theorem settleIntervention_calls (ack : CommandAck) (other : copy.commandType ≠ .update) :
    (settleIntervention dispatcher copy ack).Calls (RepositoryCall.OfAttempt deployment.env copy)
      (GatewayCall.OfAttempt copy) := by
  refine calls_ite (fun _ => ?_) fun _ => ?_
  · exact calls_bind (calls_exec ⟨rfl, other⟩) fun _ => calls_pure _
  refine calls_ite (fun _ => ?_) fun _ => ?_
  · refine calls_bind (trySupersedeClaimedCommandForSafeStop_calls deployment copy) fun _ => ?_
    refine calls_ite (fun _ => calls_pure _) fun _ => ?_
    refine calls_ite (fun _ => ?_) fun _ => ?_
    · exact calls_bind (calls_exec rfl) fun _ => calls_pure _
    · exact calls_bind (retry_calls deployment copy _ _) fun _ => calls_pure _
  · exact calls_bind (calls_exec rfl) fun _ => calls_pure _

theorem dispatchIntervention_calls (task : TaskRecord) (operationName : String)
    (other : copy.commandType ≠ .update) :
    (dispatchIntervention deployment dispatcher copy task operationName).Calls
      (RepositoryCall.OfAttempt deployment.env copy)
      (GatewayCall.OfAttempt copy) := by
  have rejects (code message : String) :
      (do exec (.rejectClaimedCommand copy code message)
          pure DispatchOutcome.rejected : Action _).Calls (RepositoryCall.OfAttempt deployment.env copy)
      (GatewayCall.OfAttempt copy) :=
    calls_bind (calls_exec rfl) fun _ => calls_pure _
  unfold dispatchIntervention
  dsimp only
  split
  · exact rejects _ _
  · refine calls_ite (fun _ => rejects _ _) fun _ => calls_ite (fun _ => rejects _ _) fun _ => ?_
    refine calls_bind (deliver_calls deployment dispatcher copy task _ rfl) fun ack => ?_
    exact settleIntervention_calls deployment dispatcher copy ack other

theorem dispatch_calls (task : TaskRecord) :
    (dispatch deployment dispatcher copy task).Calls (RepositoryCall.OfAttempt deployment.env copy)
      (GatewayCall.OfAttempt copy) := by
  refine calls_bind (calls_exec trivial) fun operation => ?_
  refine calls_bind (calls_exec rfl) fun _ => ?_
  cases commandType : copy.commandType with
  | cancel =>
    refine calls_bind (calls_exec trivial) fun _ => ?_
    exact dispatchCancel_calls deployment dispatcher copy task operation commandType
  | update => exact dispatchUpdate_calls deployment dispatcher copy task _ commandType
  | intervention =>
    exact dispatchIntervention_calls deployment dispatcher copy task _ (by simp [commandType])
  | pause =>
    exact dispatchPauseOrResume_calls deployment dispatcher copy task _ .pause
      (by simp [commandType])
  | resume =>
    exact dispatchPauseOrResume_calls deployment dispatcher copy task _ .resume
      (by simp [commandType])

theorem exhaustOrRetry_calls (failure : Failure) :
    (exhaustOrRetry dispatcher copy failure).Calls (RepositoryCall.OfAttempt deployment.env copy)
      (GatewayCall.OfAttempt copy) := by
  refine calls_ite (fun _ => ?_) fun _ => ?_
  · exact calls_bind (calls_exec rfl) fun _ => calls_pure _
  · exact calls_bind (calls_exec trivial) fun _ =>
      calls_bind (calls_exec rfl) fun _ => calls_pure _

theorem recordDispatchFailure_calls (task : TaskRecord) (failure : Failure) :
    (recordDispatchFailure dispatcher copy task failure).Calls
      (RepositoryCall.OfAttempt deployment.env copy)
      (GatewayCall.OfAttempt copy) := by
  refine calls_ite (fun _ => ?_) fun _ => ?_
  · exact calls_bind (calls_exec trivial) fun _ =>
      calls_bind (calls_exec rfl) fun _ => calls_pure _
  refine calls_ite (fun cancel => ?_) fun _ => ?_
  · exact calls_bind (calls_exec ⟨rfl, cancel.1⟩) fun _ => calls_pure _
  refine calls_ite (fun update => ?_) fun _ => ?_
  · exact calls_bind (calls_exec ⟨rfl, update.1⟩) fun _ => calls_pure _
  refine calls_ite (fun _ => ?_) fun _ => exhaustOrRetry_calls deployment dispatcher copy failure
  refine calls_bind (trySupersedeClaimedCommandForSafeStop_calls deployment copy) fun _ => ?_
  exact calls_ite (fun _ => calls_pure _) fun _ =>
    exhaustOrRetry_calls deployment dispatcher copy failure

theorem executeClaimed_calls :
    (executeClaimed deployment dispatcher copy).Calls (RepositoryCall.OfAttempt deployment.env copy)
      (GatewayCall.OfAttempt copy) := by
  refine calls_bind (calls_exec rfl) fun _ => ?_
  refine calls_bind (calls_exec rfl) fun inputSuperseded => ?_
  refine calls_ite (fun _ => calls_pure _) fun _ => ?_
  refine calls_bind (calls_exec rfl) fun interventionSuperseded => ?_
  refine calls_ite (fun _ => calls_pure _) fun _ => ?_
  refine calls_bind (calls_exec trivial) fun found => ?_
  split
  · exact calls_bind (calls_exec rfl) fun _ => calls_pure _
  · exact calls_attempt (dispatch_calls deployment dispatcher copy _)
      (recordDispatchFailure_calls deployment dispatcher copy _)

end Attempt

/-- The calls of the processes that hold no copy of a command: a snapshot is applied as it was
read, and a control is requested under its own hash. -/
def RepositoryCall.OfCaller (deployment : Deployment) {β : Type} (call : RepositoryCall β) :
    Prop :=
  match call with
  | .applySnapshot adapterRevision transition inputRequests =>
    ∃ reading : SnapshotReading deployment,
      reading.apply = .applySnapshot adapterRevision transition inputRequests
  | .beginCommand commandType requestHash payload =>
    commandType = .update ∨ ∃ control : ControlType, commandType = control.commandType ∧
      requestHash = controlHash deployment.env control ∧ payload = .obj []
  | .beginCancel requestHash => requestHash = userCancelHash deployment.env
  | .clockNow | .loadOperationSnapshot _ | .createAdmissionIntent _ | .getAdmission | .getById
  | .getAuthorized _ | .listAdmissionsForRecovery | .listTasksForRecovery
  | .markAdmissionUncertain _ _ | .recordReconciliationResult _ _ _ _ | .recordRejection
  | .completeAdmissionWithoutTask | .publishAccepted _ | .publishScheduled _
  | .recordCooperativeCancellationIntent | .beginBusinessInterventionCommand _ _ _
  | .findCommandByRequestHash _ _ | .acceptMcpInputResponses _ _ _ | .listInputRequests
  | .noteRecovery | .noteRecoveryFailure _ | .recordIdentityConflict _
  | .failRecoveryNotFound _ => True
  | _ => False

def GatewayCall.OfCaller {β : Type} (call : GatewayCall β) : Prop :=
  match call with
  | .startOperation .. | .reconcileExecution .. | .getExecution .. => True
  | _ => False

section Caller

variable (deployment : Deployment)

theorem recordReconciliation_calls (status : String) (externalExecutionId : Option String)
    (identityValidated : Bool) :
    (recordReconciliation status externalExecutionId identityValidated).Calls
      (RepositoryCall.OfCaller deployment) GatewayCall.OfCaller :=
  calls_bind (calls_exec trivial) fun _ => calls_exec trivial

theorem failing_calls {α : Type} {recorded : Action Unit} (failure : Failure)
    (recordedCalls : recorded.Calls (RepositoryCall.OfCaller deployment) GatewayCall.OfCaller) :
    (do recorded; .fail failure : Action α).Calls
      (RepositoryCall.OfCaller deployment) GatewayCall.OfCaller :=
  calls_bind recordedCalls fun _ => calls_fail failure

theorem completeWithoutTask_calls (transition : SnapshotTransition) :
    (completeWithoutTask transition).Calls
      (RepositoryCall.OfCaller deployment) GatewayCall.OfCaller := by
  refine calls_ite (fun _ => ?_) fun _ => ?_
  · exact failing_calls deployment _ (calls_exec trivial)
  · exact calls_bind (calls_exec trivial) fun _ => calls_pure _

theorem publishReconciled_calls (call : OperationCall) (intent : AdmissionIntentInput)
    (externalExecutionId : String) (snapshot : ExecutionSnapshot) :
    (publishReconciled deployment call intent externalExecutionId snapshot).Calls
      (RepositoryCall.OfCaller deployment) GatewayCall.OfCaller := by
  refine calls_bind (calls_ofExcept _) fun _ => calls_bind (calls_exec trivial) fun _ => ?_
  refine calls_bind (calls_ofExcept _) fun _ => ?_
  refine calls_ite (fun _ => completeWithoutTask_calls deployment _) fun _ => ?_
  exact calls_bind (calls_exec trivial) fun _ => calls_pure _

theorem settleReconciliation_calls (call : OperationCall) (intent : AdmissionIntentInput)
    (admission : Option AdmissionIntentRecord) (reconciliation : ReconcileExecutionResponse) :
    (settleReconciliation deployment call intent admission reconciliation).Calls
      (RepositoryCall.OfCaller deployment) GatewayCall.OfCaller := by
  have records := recordReconciliation_calls deployment
  unfold settleReconciliation
  split
  · exact failing_calls deployment _ (records _ _ _)
  · dsimp only
    split
    · exact failing_calls deployment _ (records _ _ _)
    · refine calls_bind (records _ _ _) fun _ => ?_
      exact calls_bind (publishReconciled_calls deployment call intent _ _) fun _ => calls_pure _
  · refine calls_bind (records _ _ _) fun _ => ?_
    exact calls_ite (fun _ => calls_fail _) fun _ => calls_pure _
  · exact failing_calls deployment _ (records _ _ _)

theorem reconcileAdmission_calls (call : OperationCall) (intent : AdmissionIntentInput) :
    (reconcileAdmission deployment call intent).Calls
      (RepositoryCall.OfCaller deployment) GatewayCall.OfCaller := by
  refine calls_bind (calls_exec trivial) fun existing => ?_
  split
  · exact calls_pure _
  · refine calls_bind (calls_exec trivial) fun admission => ?_
    refine calls_bind (calls_attempt (calls_ask trivial) fun failure => ?_) fun reconciliation => ?_
    · exact failing_calls deployment _ (recordReconciliation_calls deployment _ _ _)
    · exact settleReconciliation_calls deployment call intent admission reconciliation

theorem settleStart_calls (call : OperationCall) (intent : AdmissionIntentInput)
    (response : StartOperationResponse) :
    (settleStart deployment call intent response).Calls
      (RepositoryCall.OfCaller deployment) GatewayCall.OfCaller := by
  refine calls_ite (fun _ => ?_) fun _ => ?_
  · exact calls_bind (calls_exec trivial) fun _ =>
      calls_bind (calls_exec trivial) fun _ => calls_pure _
  · split
    · exact failing_calls deployment _ (calls_exec trivial)
    · split
      · exact failing_calls deployment _ (calls_exec trivial)
      · refine calls_bind (calls_exec trivial) fun _ => calls_bind (calls_ofExcept _) fun _ => ?_
        refine calls_ite (fun _ => completeWithoutTask_calls deployment _) fun _ => ?_
        refine calls_bind (calls_attempt (calls_exec trivial) fun failure => ?_) fun _ =>
          calls_pure _
        exact failing_calls deployment _ (calls_exec trivial)

theorem startAdmitted_calls (call : OperationCall) (intent : AdmissionIntentInput) :
    (startAdmitted deployment call intent).Calls
      (RepositoryCall.OfCaller deployment) GatewayCall.OfCaller := by
  refine calls_ite (fun _ => ?_) fun _ => ?_
  · exact calls_bind (calls_exec trivial) fun _ => calls_pure _
  · refine calls_bind (calls_attempt (calls_ask trivial) fun failure => ?_) fun response => ?_
    · refine failing_calls deployment _ (calls_exec ?_)
      split
      · trivial
      · trivial
    · exact settleStart_calls deployment call intent response

theorem executeOperation_calls (call : OperationCall) :
    (executeOperation deployment call).Calls
      (RepositoryCall.OfCaller deployment) GatewayCall.OfCaller := by
  refine calls_ite (fun _ => ?_) fun _ => ?_
  · refine calls_bind (calls_ask trivial) fun response => calls_bind (calls_ofExcept _) fun _ => ?_
    refine calls_bind (calls_exec trivial) fun now => ?_
    split
    · exact calls_pure _
    · exact calls_fail _
    · exact calls_bind (calls_ofExcept _) fun _ => calls_pure _
  · split
    · exact calls_fail _
    · refine calls_bind (calls_exec trivial) fun inserted => ?_
      refine calls_ite (fun _ => ?_) fun _ => startAdmitted_calls deployment call _
      refine calls_bind (reconcileAdmission_calls deployment call _) fun settled => ?_
      split
      · exact calls_pure _
      · exact startAdmitted_calls deployment call _

theorem recoverListedAdmission_calls :
    (recoverListedAdmission deployment).Calls
      (RepositoryCall.OfCaller deployment) GatewayCall.OfCaller := by
  refine calls_bind (calls_exec trivial) fun listed => ?_
  split
  · exact calls_pure _
  · exact calls_bind (calls_exec trivial) fun operation =>
      calls_bind (executeOperation_calls deployment _) fun _ => calls_pure _

theorem validateTaskSnapshot_calls (task : TaskRecord) (operationName : String)
    (snapshot : ExecutionSnapshot) :
    (validateTaskSnapshot task operationName snapshot).Calls
      (RepositoryCall.OfCaller deployment) GatewayCall.OfCaller :=
  calls_attempt (calls_ofExcept _) fun _ => failing_calls deployment _ (calls_exec trivial)

theorem applyReading_calls (task : TaskRecord) (operation : ValidatedOperation)
    (snapshot : ExecutionSnapshot) :
    (applyReading deployment task operation snapshot).Calls
      (RepositoryCall.OfCaller deployment) GatewayCall.OfCaller :=
  calls_bind (calls_exec trivial) fun _ => calls_bind (calls_ofExcept _) fun reading =>
    calls_exec ⟨reading, rfl⟩

theorem getTask_calls (authorization : AuthorizationContext) :
    (getTask deployment authorization).Calls
      (RepositoryCall.OfCaller deployment) GatewayCall.OfCaller := by
  refine calls_bind (calls_exec trivial) fun task => calls_bind (calls_exec trivial) fun _ => ?_
  refine calls_ite (fun _ => calls_pure _) fun _ => ?_
  split
  · exact calls_pure _
  · refine calls_attempt ?_ fun failure => calls_ite (fun _ => calls_pure _) fun _ => calls_fail _
    refine calls_bind (calls_ask trivial) fun snapshot => ?_
    exact calls_bind (validateTaskSnapshot_calls deployment task _ snapshot) fun _ =>
      applyReading_calls deployment task _ snapshot

theorem failReconciliation_calls (task : TaskRecord) (status : String)
    (externalExecutionId : Option String) (message : String) :
    (failReconciliation task status externalExecutionId message).Calls
      (RepositoryCall.OfCaller deployment) GatewayCall.OfCaller :=
  calls_bind (recordReconciliation_calls deployment _ _ _) fun _ =>
    calls_bind (calls_exec trivial) fun _ => calls_pure _

theorem applyReconciled_calls (task : TaskRecord) (operation : ValidatedOperation)
    (snapshot : ExecutionSnapshot) :
    (applyReconciled deployment task operation snapshot).Calls
      (RepositoryCall.OfCaller deployment) GatewayCall.OfCaller := by
  have records := recordReconciliation_calls deployment
  refine calls_bind (calls_attempt (validateTaskSnapshot_calls deployment task _ snapshot)
    fun failure => failing_calls deployment _ (records _ _ _)) fun _ => ?_
  refine calls_bind (records _ _ _) fun _ => ?_
  exact calls_bind (applyReading_calls deployment task operation snapshot) fun _ =>
    calls_bind (calls_exec trivial) fun _ => calls_pure _

theorem reconcileTask_calls (task : TaskRecord) (operation : ValidatedOperation) :
    (reconcileTask deployment task operation).Calls
      (RepositoryCall.OfCaller deployment) GatewayCall.OfCaller := by
  have records := recordReconciliation_calls deployment
  have fails := failReconciliation_calls deployment task
  refine calls_ite (fun _ => calls_bind (records _ _ _) fun _ => calls_pure _) fun _ => ?_
  refine calls_bind (calls_attempt (calls_ask trivial) fun failure =>
    failing_calls deployment _ (records _ _ _)) fun response => ?_
  refine calls_ite (fun _ => calls_bind (records _ _ _) fun _ => calls_pure _) fun _ => ?_
  refine calls_ite (fun _ => fails _ _ _) fun _ => ?_
  refine calls_ite (fun _ => fails _ _ _) fun _ => ?_
  split
  · exact fails _ _ _
  · refine calls_ite (fun _ => ?_) fun _ => applyReconciled_calls deployment task operation _
    exact calls_bind (records _ _ _) fun _ => failing_calls deployment _ (calls_exec trivial)

theorem degradedReconcile_calls (authorization : AuthorizationContext) :
    (degradedReconcile deployment authorization).Calls
      (RepositoryCall.OfCaller deployment) GatewayCall.OfCaller :=
  calls_bind (calls_exec trivial) fun task => calls_bind (calls_exec trivial) fun operation =>
    reconcileTask_calls deployment task operation

theorem recoverListedTask_calls :
    (recoverListedTask deployment).Calls
      (RepositoryCall.OfCaller deployment) GatewayCall.OfCaller := by
  have notes : (do
      let now ← exec .clockNow
      exec (.noteRecoveryFailure now) : Action Unit).Calls
        (RepositoryCall.OfCaller deployment) GatewayCall.OfCaller :=
    calls_bind (calls_exec trivial) fun _ => calls_exec trivial
  refine calls_bind (calls_exec trivial) fun listed => ?_
  split
  · exact calls_pure _
  · refine calls_attempt (calls_bind (calls_exec trivial) fun found => ?_) fun _ =>
      calls_attempt notes fun _ => calls_pure _
    split
    · exact calls_pure _
    · refine calls_bind (calls_exec trivial) fun operation => ?_
      exact calls_bind (reconcileTask_calls deployment _ operation) fun outcome =>
        calls_ite (fun _ => notes) fun _ => calls_pure _

theorem cancelTask_calls (authorization : AuthorizationContext) :
    (cancelTask deployment authorization).Calls
      (RepositoryCall.OfCaller deployment) GatewayCall.OfCaller := by
  refine calls_bind (calls_exec trivial) fun task => calls_bind (calls_exec trivial) fun _ => ?_
  refine calls_ite (fun _ => calls_pure _) fun _ => calls_ite (fun _ => calls_fail _) fun _ => ?_
  exact calls_bind (calls_exec rfl) fun command =>
    calls_ite (fun _ => calls_fail _) fun _ => calls_pure _

theorem cancelTaskCooperatively_calls (authorization : AuthorizationContext) :
    (cancelTaskCooperatively deployment authorization).Calls
      (RepositoryCall.OfCaller deployment) GatewayCall.OfCaller := by
  refine calls_bind (calls_exec trivial) fun task => calls_ite (fun _ => calls_pure _) fun _ => ?_
  refine calls_bind (calls_exec trivial) fun operation => calls_ite (fun _ => ?_) fun _ => ?_
  · exact calls_bind (calls_exec rfl) fun _ => calls_pure _
  · exact calls_bind (calls_exec trivial) fun _ => calls_pure _

theorem answerCommand_calls (command : CommandResolution) :
    (answerCommand command).Calls (RepositoryCall.OfCaller deployment) GatewayCall.OfCaller :=
  calls_ite (fun _ => calls_ofExcept _) fun _ => calls_pure _

theorem controlTask_calls (control : ControlType) (authorization : AuthorizationContext) :
    (controlTask deployment control authorization).Calls
      (RepositoryCall.OfCaller deployment) GatewayCall.OfCaller := by
  refine calls_bind (calls_exec trivial) fun task => calls_bind (calls_exec trivial) fun _ => ?_
  refine calls_ite (fun _ => calls_fail _) fun _ => ?_
  exact calls_bind (calls_exec (.inr ⟨control, rfl, rfl, rfl⟩)) fun command =>
    answerCommand_calls deployment command

theorem updateTask_calls (validateAnswer : InputRequestRow → Json → Bool)
    (answers : List (String × Json)) (authorization : AuthorizationContext) :
    (updateTask deployment validateAnswer answers authorization).Calls
      (RepositoryCall.OfCaller deployment) GatewayCall.OfCaller := by
  refine calls_bind (calls_exec trivial) fun task => calls_bind (calls_exec trivial) fun _ => ?_
  refine calls_ite (fun _ => calls_fail _) fun _ => ?_
  refine calls_bind (calls_exec trivial) fun requests => ?_
  refine calls_bind (calls_ofExcept _) fun checked => calls_ite (fun _ => ?_) fun _ => ?_
  · refine calls_bind (calls_exec trivial) fun found => ?_
    split
    · exact calls_bind (calls_ofExcept _) fun _ => calls_pure _
    · exact calls_pure _
  · exact calls_bind (calls_exec (.inl rfl)) fun command =>
      calls_bind (answerCommand_calls deployment command) fun _ => calls_pure _

theorem updateTaskInputResponses_calls (validateLockedResponse : ValidateLockedInputResponse)
    (inputResponses : List (String × McpInputResponse)) (authorization : AuthorizationContext) :
    (updateTaskInputResponses validateLockedResponse inputResponses authorization).Calls
      (RepositoryCall.OfCaller deployment) GatewayCall.OfCaller := by
  refine calls_bind (calls_exec trivial) fun task => calls_bind (calls_exec trivial) fun _ => ?_
  refine calls_ite (fun _ => calls_fail _) fun _ => ?_
  exact calls_bind (calls_exec trivial) fun _ => calls_pure _

theorem enqueueBusinessIntervention_calls (commandId semanticHash : String) (payload : Json) :
    (enqueueBusinessIntervention commandId semanticHash payload).Calls
      (RepositoryCall.OfCaller deployment) GatewayCall.OfCaller :=
  calls_bind (calls_exec trivial) fun _ => calls_pure _

end Caller

end SdarRuntime
