import SdarRuntime.Engine.TaskEngine

/-!
The runtime around one task: every process that works on its rows, in any number and any
order, with any answers from the adapter.
-/

namespace SdarRuntime

/-- The calls of the scheduler, the start watchdog and the cleaners. Each is a process of one
call, with whatever arguments. -/
def RepositoryCall.isBackground : {β : Type} → RepositoryCall β → Bool
  | _, .claimDueScheduled .. => true
  | _, .completeDueStartWindowMisses .. => true
  | _, .claimExpiredScheduledStarts .. => true
  | _, .renewScheduleClaim .. => true
  | _, .acceptScheduled .. => true
  | _, .releaseScheduleRetry .. => true
  | _, .markScheduleResponseUncertain .. => true
  | _, .completeStartWindowMissed .. => true
  | _, .completeScheduledRejection .. => true
  | _, .claimBoundStartConfirmations .. => true
  | _, .renewStartConfirmationClaim .. => true
  | _, .deferStartConfirmation .. => true
  | _, .confirmBoundExecutionStarted .. => true
  | _, .stopUnconfirmedBoundExecution .. => true
  | _, .claimExpiredDeadlines .. => true
  | _, .recordIdentityConflict .. => true
  | _, .renewHandle .. => true
  | _, .expireHandle .. => true
  | _, .cleanOutbox .. => true
  | _, _ => false

inductive Entry : Type 1 where
  | callOperation (call : OperationCall)
  | recoverAdmission
  | recoverTask
  | getTask (authorization : AuthorizationContext)
  | degradedReconcile (authorization : AuthorizationContext)
  | cancelTask (authorization : AuthorizationContext)
  | cancelTaskCooperatively (authorization : AuthorizationContext)
  | controlTask (control : ControlType) (authorization : AuthorizationContext)
  | updateTask (validateAnswer : InputRequestRow → Json → Bool)
      (answers : List (String × Json)) (authorization : AuthorizationContext)
  | updateTaskInputResponses (validateLockedResponse : ValidateLockedInputResponse)
      (inputResponses : List (String × McpInputResponse))
      (authorization : AuthorizationContext)
  | enqueueBusinessIntervention (commandId semanticHash : String) (payload : Json)
  | tick (dispatcher : DurableCommandDispatcher) (promoted selected : Bool)
  | background {β : Type} (call : RepositoryCall β) (isBackground : call.isBackground = true)

def discard {α : Type} (action : Action α) : Action Unit := action >>= fun _ => pure ()

def Entry.program (deployment : Deployment) : Entry → Action Unit
  | .callOperation call => discard (executeOperation deployment call)
  | .recoverAdmission => recoverListedAdmission deployment
  | .recoverTask => recoverListedTask deployment
  | .getTask authorization => discard (SdarRuntime.getTask deployment authorization)
  | .degradedReconcile authorization =>
    discard (SdarRuntime.degradedReconcile deployment authorization)
  | .cancelTask authorization => SdarRuntime.cancelTask deployment authorization
  | .cancelTaskCooperatively authorization =>
    SdarRuntime.cancelTaskCooperatively deployment authorization
  | .controlTask control authorization =>
    discard (SdarRuntime.controlTask deployment control authorization)
  | .updateTask validateAnswer answers authorization =>
    discard (SdarRuntime.updateTask deployment validateAnswer answers authorization)
  | .updateTaskInputResponses validateLockedResponse inputResponses authorization =>
    SdarRuntime.updateTaskInputResponses validateLockedResponse inputResponses authorization
  | .enqueueBusinessIntervention commandId semanticHash payload =>
    SdarRuntime.enqueueBusinessIntervention commandId semanticHash payload
  | .tick dispatcher promoted selected =>
    discard (SdarRuntime.tick deployment dispatcher promoted selected)
  | .background call _ => discard (Program.exec call)

abbrev Runtime : Type 1 := System RepositoryCall GatewayCall Failure TaskTables Unit

abbrev RuntimeLabel : Type 1 := Label Entry Failure Clocks Answer

namespace Runtime

variable (deployment : Deployment)

def initial : Runtime := System.initial TaskTables.empty

def step (runtime : Runtime) (label : RuntimeLabel) : Runtime :=
  System.step (machine deployment) (Entry.program deployment) runtime label

def run (runtime : Runtime) (labels : List RuntimeLabel) : Runtime :=
  System.run (machine deployment) (Entry.program deployment) runtime labels

def Throughout (Condition : Runtime → RuntimeLabel → Prop) (runtime : Runtime)
    (labels : List RuntimeLabel) : Prop :=
  System.Throughout (machine deployment) (Entry.program deployment) Condition runtime labels

instance (Condition : Runtime → RuntimeLabel → Prop)
    [∀ runtime label, Decidable (Condition runtime label)] (runtime : Runtime)
    (labels : List RuntimeLabel) :
    Decidable (Throughout deployment Condition runtime labels) :=
  System.decidableThroughout _ _ Condition runtime labels

end Runtime

end SdarRuntime
