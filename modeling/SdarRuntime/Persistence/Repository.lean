import SdarRuntime.Library.Contract
import SdarRuntime.Persistence.Inputs
import SdarRuntime.Persistence.Scheduling
import SdarRuntime.Persistence.Snapshots

/-!
The methods of the repository as one type of calls, each with its answer, and what a call
does to the rows of the task.
-/

namespace SdarRuntime

/-- What a deployment adds to its platform: the snapshots of its operations, which are never
changed, and the schemas of an intervention and of its responder. -/
structure Deployment where
  env : Environment
  operationSnapshots : String → Except Failure ValidatedOperation
  /-- The task id and command id of a well-formed intervention. -/
  parseIntervention : Json → Option (String × String)
  isTrustedResponder : Json → Bool
  /-- The lease a diagnostic adapter attaches to a response it lost on purpose. -/
  diagnosticResponseLossLeaseId : Failure → Option String

inductive RepositoryCall : Type → Type where
  | clockNow : RepositoryCall Instant
  | loadOperationSnapshot (operationSnapshotId : String) : RepositoryCall ValidatedOperation
  | createAdmissionIntent (input : AdmissionIntentInput) : RepositoryCall Bool
  | getAdmission : RepositoryCall (Option AdmissionIntentRecord)
  | getById : RepositoryCall (Option TaskRecord)
  | getAuthorized (authorization : AuthorizationContext) : RepositoryCall TaskRecord
  | listAdmissionsForRecovery : RepositoryCall (Option AdmissionIntentRecord)
  | listTasksForRecovery : RepositoryCall (Option TaskRecord)
  | markAdmissionUncertain (uncertaintyClass : String) (causalRefs : List String) :
      RepositoryCall Unit
  | recordReconciliationResult (status : String) (externalExecutionId : Option String)
      (identityValidated : Bool) (occurredAt : Instant) : RepositoryCall Unit
  | recordRejection : RepositoryCall Unit
  | completeAdmissionWithoutTask : RepositoryCall Unit
  | publishAccepted (input : PublishTaskInput) : RepositoryCall TaskRecord
  | publishScheduled (input : AdmissionIntentInput) : RepositoryCall TaskRecord
  | claimDueCommands (now : Instant) (ownerId : String) (leaseMilliseconds : Nat)
      (selected : Bool) : RepositoryCall (Option PendingCommandRecord)
  | retryClaimedCommand (command : PendingCommandRecord) (nextAttemptAt : Instant)
      (errorCode errorMessage : String) : RepositoryCall Unit
  | recordCommandStarted (command : PendingCommandRecord) : RepositoryCall Unit
  | renewCommandClaim (command : PendingCommandRecord) (leaseMilliseconds : Nat) :
      RepositoryCall Unit
  | rejectClaimedCommand (command : PendingCommandRecord) (errorCode errorMessage : String) :
      RepositoryCall Unit
  | acknowledgeClaimedCommand (command : PendingCommandRecord) (ack : CommandAck) :
      RepositoryCall Unit
  | supersedeClaimedCommandForSafeStop (command : PendingCommandRecord) : RepositoryCall Unit
  | supersedeExpiredClaimedNormalCommandsForSafeStop : RepositoryCall Nat
  | supersedeClaimedBusinessInputIfNoLongerCurrent (command : PendingCommandRecord) :
      RepositoryCall Bool
  | supersedeClaimedBusinessInterventionIfNotRunning (command : PendingCommandRecord) :
      RepositoryCall Bool
  | exhaustClaimedBusinessIntervention (command : PendingCommandRecord) (message : String) :
      RepositoryCall Unit
  | assignedInputs (sequence : Nat) : RepositoryCall (List AssignedInput)
  | rejectInputResponseAndFailTask (command : PendingCommandRecord)
      (reasonCode message : String) : RepositoryCall InputRejection
  | failInputResponseDelivery (command : PendingCommandRecord) (message : String) :
      RepositoryCall Unit
  | acknowledgeUpdateAndCompleteInputAnswers (command : PendingCommandRecord)
      (ack : CommandAck) (answers : List InputAnswer) : RepositoryCall UpdateCompletion
  | rejectUserCancel (command : PendingCommandRecord) (adapterRevision : Nat)
      (transition : SnapshotTransition) (ack : CommandAck) : RepositoryCall TaskRecord
  | failSafeStopUnconfirmed (command : PendingCommandRecord) (message : String) :
      RepositoryCall TaskRecord
  | beginCancel (requestHash : String) : RepositoryCall CommandResolution
  | recordCooperativeCancellationIntent : RepositoryCall TaskRecord
  | beginCommand (commandType : CommandType) (requestHash : String) (payload : Json) :
      RepositoryCall CommandResolution
  | beginBusinessInterventionCommand (commandId semanticHash : String) (payload : Json) :
      RepositoryCall CommandResolution
  | findCommandByRequestHash (commandType : CommandType) (requestHash : String) :
      RepositoryCall (Option CommandResolution)
  | acceptMcpInputResponses (authorization : AuthorizationContext)
      (inputResponses : List (String × McpInputResponse))
      (validateLockedResponse : ValidateLockedInputResponse) :
      RepositoryCall (List (String × InputAcceptance))
  | promotePendingInputResponses : RepositoryCall Nat
  | listInputRequests : RepositoryCall (List InputRequestRow)
  | applySnapshot (adapterRevision : Nat) (transition : SnapshotTransition)
      (inputRequests : List NewInputRequest) : RepositoryCall TaskRecord
  | noteRecovery : RepositoryCall Unit
  | noteRecoveryFailure (failedAt : Instant) : RepositoryCall Unit
  | recordIdentityConflict (detail : String) : RepositoryCall Unit
  | failRecoveryNotFound (message : String) : RepositoryCall TaskRecord
  | claimDueScheduled (now : Instant) (ownerId : String) (leaseMilliseconds : Nat) :
      RepositoryCall (Option TaskRecord)
  | completeDueStartWindowMisses (now : Instant) : RepositoryCall Nat
  | claimExpiredScheduledStarts (now : Instant) (ownerId : String) (leaseMilliseconds : Nat) :
      RepositoryCall (Option TaskRecord)
  | renewScheduleClaim (claimOwner : String) (leaseMilliseconds : Nat) : RepositoryCall Unit
  | acceptScheduled (input : AcceptScheduledInput) : RepositoryCall TaskRecord
  | releaseScheduleRetry (claimOwner : String) (nextAttemptAt : Instant) (message : String) :
      RepositoryCall Unit
  | markScheduleResponseUncertain (claimOwner : String) (reconcileAt : Instant)
      (message : String) : RepositoryCall Unit
  | completeStartWindowMissed (completedAt : Instant) (claimOwner : String) :
      RepositoryCall TaskRecord
  | completeScheduledRejection (claimOwner : String) (completedAt : Instant)
      (reasonCode message : String) (retryable : Bool) : RepositoryCall TaskRecord
  | claimBoundStartConfirmations (now : Instant) (ownerId : String) (leaseMilliseconds : Nat) :
      RepositoryCall (Option TaskRecord)
  | renewStartConfirmationClaim (claimOwner : String) (leaseMilliseconds : Nat) :
      RepositoryCall Unit
  | deferStartConfirmation (claimOwner : String) (retryAt : Instant) (message : String) :
      RepositoryCall Unit
  | confirmBoundExecutionStarted (claimOwner : String) (adapterRevision : Nat)
      (transition : SnapshotTransition) (confirmedAt : Instant) : RepositoryCall TaskRecord
  | stopUnconfirmedBoundExecution (claimOwner : String) (requestedAt : Instant) :
      RepositoryCall TaskRecord
  | claimExpiredDeadlines (now : Instant) : RepositoryCall (Option DeadlineStopRecord)
  | renewHandle (now : Instant) : RepositoryCall Unit
  | expireHandle (now : Instant) : RepositoryCall Unit
  | cleanOutbox (published : List EventKey) : RepositoryCall Unit

open RepositoryCall in
def RepositoryCall.tx (deployment : Deployment) (clocks : Clocks) :
    {β : Type} → RepositoryCall β → Tx β
  | _, clockNow => pure clocks.runtime
  | _, loadOperationSnapshot operationSnapshotId =>
    match deployment.operationSnapshots operationSnapshotId with
    | .ok operation => pure operation
    | .error failure => Transaction.abort failure
  | _, createAdmissionIntent input => SdarRuntime.createAdmissionIntent input
  | _, getAdmission => SdarRuntime.getAdmission
  | _, getById => SdarRuntime.getById
  | _, getAuthorized authorization => SdarRuntime.getAuthorized clocks authorization
  | _, listAdmissionsForRecovery => SdarRuntime.listAdmissionsForRecovery
  | _, listTasksForRecovery => SdarRuntime.listTasksForRecovery clocks
  | _, markAdmissionUncertain uncertaintyClass causalRefs =>
    SdarRuntime.markAdmissionUncertain clocks uncertaintyClass causalRefs
  | _, recordReconciliationResult status externalExecutionId identityValidated occurredAt =>
    SdarRuntime.recordReconciliationResult status externalExecutionId identityValidated
      occurredAt
  | _, recordRejection => SdarRuntime.recordRejection
  | _, completeAdmissionWithoutTask => SdarRuntime.completeAdmissionWithoutTask
  | _, publishAccepted input => SdarRuntime.publishAccepted deployment.env clocks input
  | _, publishScheduled input => SdarRuntime.publishScheduled clocks input
  | _, claimDueCommands now ownerId leaseMilliseconds selected =>
    SdarRuntime.claimDueCommands clocks now ownerId leaseMilliseconds selected
  | _, retryClaimedCommand command nextAttemptAt errorCode errorMessage =>
    SdarRuntime.retryClaimedCommand command nextAttemptAt errorCode errorMessage
  | _, recordCommandStarted command => SdarRuntime.recordCommandStarted command
  | _, renewCommandClaim command leaseMilliseconds =>
    SdarRuntime.renewCommandClaim clocks command leaseMilliseconds
  | _, rejectClaimedCommand command errorCode errorMessage =>
    SdarRuntime.rejectClaimedCommand command errorCode errorMessage
  | _, acknowledgeClaimedCommand command ack =>
    SdarRuntime.acknowledgeClaimedCommand command ack
  | _, supersedeClaimedCommandForSafeStop command =>
    SdarRuntime.supersedeClaimedCommandForSafeStop clocks command
  | _, supersedeExpiredClaimedNormalCommandsForSafeStop =>
    SdarRuntime.supersedeExpiredClaimedNormalCommandsForSafeStop clocks
  | _, supersedeClaimedBusinessInputIfNoLongerCurrent command =>
    SdarRuntime.supersedeClaimedBusinessInputIfNoLongerCurrent clocks command
  | _, supersedeClaimedBusinessInterventionIfNotRunning command =>
    SdarRuntime.supersedeClaimedBusinessInterventionIfNotRunning command
  | _, exhaustClaimedBusinessIntervention command message =>
    SdarRuntime.exhaustClaimedBusinessIntervention command message
  | _, assignedInputs sequence => SdarRuntime.assignedInputs deployment.env sequence
  | _, rejectInputResponseAndFailTask command reasonCode message =>
    SdarRuntime.rejectInputResponseAndFailTask clocks command reasonCode message
  | _, failInputResponseDelivery command message =>
    SdarRuntime.failInputResponseDelivery clocks command message
  | _, acknowledgeUpdateAndCompleteInputAnswers command ack answers =>
    SdarRuntime.acknowledgeUpdateAndCompleteInputAnswers clocks command ack answers
  | _, rejectUserCancel command adapterRevision transition ack =>
    SdarRuntime.rejectUserCancel clocks command adapterRevision transition ack
  | _, failSafeStopUnconfirmed command message =>
    SdarRuntime.failSafeStopUnconfirmed clocks command message
  | _, beginCancel requestHash => SdarRuntime.beginCancel clocks requestHash
  | _, recordCooperativeCancellationIntent =>
    SdarRuntime.recordCooperativeCancellationIntent clocks
  | _, beginCommand commandType requestHash payload =>
    SdarRuntime.beginCommand clocks commandType requestHash payload
  | _, beginBusinessInterventionCommand commandId semanticHash payload =>
    SdarRuntime.beginBusinessInterventionCommand deployment.env clocks commandId semanticHash
      payload
  | _, findCommandByRequestHash commandType requestHash =>
    SdarRuntime.findCommandByRequestHash commandType requestHash
  | _, acceptMcpInputResponses authorization inputResponses validateLockedResponse =>
    SdarRuntime.acceptMcpInputResponses deployment.env clocks authorization inputResponses
      validateLockedResponse
  | _, promotePendingInputResponses =>
    SdarRuntime.promotePendingInputResponses deployment.env clocks
  | _, listInputRequests => do
    let tables ← Transaction.read
    return tables.inputRequests
  | _, applySnapshot adapterRevision transition inputRequests =>
    SdarRuntime.applySnapshot clocks adapterRevision transition inputRequests
  | _, noteRecovery => SdarRuntime.noteRecovery clocks
  | _, noteRecoveryFailure failedAt =>
    SdarRuntime.noteRecoveryFailure deployment.env clocks failedAt
  | _, recordIdentityConflict detail => SdarRuntime.recordIdentityConflict deployment.env detail
  | _, failRecoveryNotFound message => SdarRuntime.failRecoveryNotFound clocks message
  | _, claimDueScheduled now ownerId leaseMilliseconds =>
    SdarRuntime.claimDueScheduled now ownerId leaseMilliseconds
  | _, completeDueStartWindowMisses now => SdarRuntime.completeDueStartWindowMisses now
  | _, claimExpiredScheduledStarts now ownerId leaseMilliseconds =>
    SdarRuntime.claimExpiredScheduledStarts now ownerId leaseMilliseconds
  | _, renewScheduleClaim claimOwner leaseMilliseconds =>
    SdarRuntime.renewScheduleClaim clocks claimOwner leaseMilliseconds
  | _, acceptScheduled input => SdarRuntime.acceptScheduled deployment.env clocks input
  | _, releaseScheduleRetry claimOwner nextAttemptAt message =>
    SdarRuntime.releaseScheduleRetry clocks claimOwner nextAttemptAt message
  | _, markScheduleResponseUncertain claimOwner reconcileAt message =>
    SdarRuntime.markScheduleResponseUncertain clocks claimOwner reconcileAt message
  | _, completeStartWindowMissed completedAt claimOwner =>
    SdarRuntime.completeStartWindowMissed completedAt claimOwner
  | _, completeScheduledRejection claimOwner completedAt reasonCode message retryable =>
    SdarRuntime.completeScheduledRejection claimOwner completedAt reasonCode message retryable
  | _, claimBoundStartConfirmations now ownerId leaseMilliseconds =>
    SdarRuntime.claimBoundStartConfirmations now ownerId leaseMilliseconds
  | _, renewStartConfirmationClaim claimOwner leaseMilliseconds =>
    SdarRuntime.renewStartConfirmationClaim clocks claimOwner leaseMilliseconds
  | _, deferStartConfirmation claimOwner retryAt message =>
    SdarRuntime.deferStartConfirmation clocks claimOwner retryAt message
  | _, confirmBoundExecutionStarted claimOwner adapterRevision transition confirmedAt =>
    SdarRuntime.confirmBoundExecutionStarted claimOwner adapterRevision transition confirmedAt
  | _, stopUnconfirmedBoundExecution claimOwner requestedAt =>
    SdarRuntime.stopUnconfirmedBoundExecution deployment.env clocks claimOwner requestedAt
  | _, claimExpiredDeadlines now => SdarRuntime.claimExpiredDeadlines deployment.env clocks now
  | _, renewHandle now => SdarRuntime.renewHandle now
  | _, expireHandle now => SdarRuntime.expireHandle now
  | _, cleanOutbox published => SdarRuntime.cleanOutbox published

abbrev Invocation : Type 1 := Executed RepositoryCall Clocks

/-- Run a call: it commits with its answer, or fails and leaves the rows as they are. -/
def RepositoryCall.exec (deployment : Deployment) {β : Type} (call : RepositoryCall β)
    (clocks : Clocks) (tables : TaskTables) : Except Failure β × TaskTables :=
  (call.tx deployment clocks).commit tables

def history (deployment : Deployment) : List Invocation → TaskTables → TaskTables
  | [], tables => tables
  | invocation :: rest, tables =>
    history deployment rest
      (invocation.effect.exec deployment invocation.clock tables).2

theorem history_append (deployment : Deployment) (earlier later : List Invocation)
    (tables : TaskTables) :
    history deployment (earlier ++ later) tables =
      history deployment later (history deployment earlier tables) := by
  induction earlier generalizing tables with
  | nil => rfl
  | cons invocation rest ih => exact ih _

end SdarRuntime
