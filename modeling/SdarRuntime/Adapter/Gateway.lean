import SdarRuntime.Persistence.Repository

/-!
The calls the runtime makes to an adapter, and the answers they wait for.
-/

namespace SdarRuntime

structure ExecutionOptions where
  authorizationContextHash : String
  executionMode : ExecutionMode
  simulationId : Option String
  externalExecutionId : Option String := none

structure StartOptions where
  taskId : String
  argumentHash : String
  execution : ExecutionOptions
  timing : TaskExecutionTiming
  reservationRef : Option String
  /-- Present on the start of a task, absent on a synchronous call. -/
  invocationAttempt : Option Nat

structure CommandTarget where
  taskId : String
  operationName : String
  argumentHash : String
  commandSequence : Nat

inductive GatewayCall : Type → Type where
  | startOperation (operationName : String) (arguments : Json) (options : StartOptions) :
      GatewayCall StartOperationResponse
  | reconcileExecution (taskId operationName argumentHash : String)
      (options : ExecutionOptions) : GatewayCall ReconcileExecutionResponse
  | getExecution (taskId externalExecutionId : String) (options : ExecutionOptions) :
      GatewayCall ExecutionSnapshot
  | requestCancel (target : CommandTarget) (reason : StopReason) (options : ExecutionOptions) :
      GatewayCall CommandAck
  | updateExecution (target : CommandTarget) (answers : List InputAnswer)
      (options : ExecutionOptions) : GatewayCall CommandAck
  | updateMcpTaskExecution (target : CommandTarget) (answers : List InputAnswer)
      (options : ExecutionOptions) : GatewayCall CommandAck
  | pauseExecution (target : CommandTarget) (options : ExecutionOptions) : GatewayCall CommandAck
  | resumeExecution (target : CommandTarget) (options : ExecutionOptions) :
      GatewayCall CommandAck
  | applyIntervention (target : CommandTarget) (command responder : Json)
      (options : ExecutionOptions) : GatewayCall CommandAck

/-- What can come back: an answer of some kind, or the error of the call. -/
inductive Answer where
  | failed (failure : Failure)
  | started (response : StartOperationResponse)
  | reconciled (response : ReconcileExecutionResponse)
  | snapshot (snapshot : ExecutionSnapshot)
  | acknowledged (ack : CommandAck)

/-- The answer as the call reads it; an answer of another kind is none. -/
def GatewayCall.accept : {β : Type} → GatewayCall β → Answer → Option (Except Failure β)
  | _, _, .failed failure => some (.error failure)
  | _, .startOperation .., .started response => some (.ok response)
  | _, .reconcileExecution .., .reconciled response => some (.ok response)
  | _, .getExecution .., .snapshot snapshot => some (.ok snapshot)
  | _, .requestCancel .., .acknowledged ack => some (.ok ack)
  | _, .updateExecution .., .acknowledged ack => some (.ok ack)
  | _, .updateMcpTaskExecution .., .acknowledged ack => some (.ok ack)
  | _, .pauseExecution .., .acknowledged ack => some (.ok ack)
  | _, .resumeExecution .., .acknowledged ack => some (.ok ack)
  | _, .applyIntervention .., .acknowledged ack => some (.ok ack)
  | _, _, _ => none

abbrev Action (α : Type) : Type 1 := Program RepositoryCall GatewayCall Failure α

def machine (deployment : Deployment) :
    Machine RepositoryCall GatewayCall Failure TaskTables Clocks Answer :=
  { exec := fun call clocks tables => call.exec deployment clocks tables
    accept := GatewayCall.accept }

def TaskRecord.executionOptions (task : TaskRecord) : ExecutionOptions :=
  { authorizationContextHash := task.authorizationContextHash
    executionMode := task.executionMode
    simulationId := task.simulationId
    externalExecutionId := task.externalExecutionId }

def AuthorizationContext.executionOptions (authorization : AuthorizationContext) :
    ExecutionOptions :=
  { authorizationContextHash := authorization.hash
    executionMode := authorization.executionMode
    simulationId := authorization.simulationId }

def expectedTaskIdentity (task : TaskRecord) (operationName : String) :
    ExpectedExecutionIdentity :=
  { taskId := task.taskId
    externalExecutionId := task.externalExecutionId
    operationName := operationName
    argumentHash := task.argumentHash
    authorizationContextHash := task.authorizationContextHash
    executionMode := task.executionMode
    simulationId := task.simulationId }

end SdarRuntime
