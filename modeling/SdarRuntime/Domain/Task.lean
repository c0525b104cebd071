import SdarRuntime.Library.Json
import SdarRuntime.Domain.Time

/-!
Task states, errors and the transition an adapter snapshot asks for.
-/

namespace SdarRuntime

/-- What the code takes from its platform: the SHA-256 digest in hexadecimal, whether
`Date.parse` reads a text, an ISO date-time with an offset, the order of `localeCompare`,
and the database's order of texts and its `hashtext`. -/
structure Environment where
  sha256 : String → String
  parsesAsDate : String → Bool
  parseOffsetDatetime : String → Option Instant
  localeLe : String → String → Bool
  collateLe : String → String → Bool
  hashtext : String → Int

/-- The class of an error; `plain` is a bare `Error`, `transport` one with a gRPC status. -/
inductive FailureKind where
  | plain
  | transport (code : Nat)
  | invalidParams
  | taskNotFound
  | taskExpired
  | capabilityNotSupported
  | adapterContract
  | adapterTransient
  | technicalExecution
  | businessTool
  | commandInProgress
  deriving DecidableEq, Repr

/-- A thrown error. The message of a runtime error is its reason code. -/
structure Failure where
  kind : FailureKind
  message : String
  deriving DecidableEq, Repr

namespace Failure

def error (message : String) : Failure := { kind := .plain, message := message }

def adapterContract (reasonCode : String) : Failure :=
  { kind := .adapterContract, message := reasonCode }

def adapterTransient : Failure :=
  { kind := .adapterTransient, message := "ADAPTER_TRANSIENT_UNAVAILABLE" }

def technicalExecution (reasonCode : String) : Failure :=
  { kind := .technicalExecution, message := reasonCode }

def uniqueViolation (constraint : String) : Failure :=
  error ("duplicate key value violates unique constraint \"" ++ constraint ++ "\"")

end Failure

inductive InternalTaskState where
  | scheduled
  | starting
  | waitingStartConfirmation
  | queued
  | running
  | paused
  | resuming
  | inputRequired
  | stopping
  | terminalCompleted
  | terminalFailed
  | terminalCancelled
  deriving DecidableEq, Repr

inductive McpTaskStatus where
  | working
  | inputRequired
  | completed
  | failed
  | cancelled
  deriving DecidableEq, Repr

inductive StopReason where
  | userRequested
  | deadlineReached
  | startWindowMissed
  deriving DecidableEq, Repr

def StopReason.text : StopReason → String
  | .userRequested => "USER_REQUESTED"
  | .deadlineReached => "DEADLINE_REACHED"
  | .startWindowMissed => "START_WINDOW_MISSED"

inductive ExecutionMode where
  | live
  | simulation
  | historicalReplay
  deriving DecidableEq, Repr

def ExecutionMode.text : ExecutionMode → String
  | .live => "live"
  | .simulation => "simulation"
  | .historicalReplay => "historical-replay"

def isTerminalState : InternalTaskState → Bool
  | .terminalCompleted | .terminalFailed | .terminalCancelled => true
  | _ => false

/-- A `provider_task` row. `nextCommandSequence` is the column the record type leaves out. -/
structure TaskRecord where
  taskId : String
  providerId : String
  operationName : String
  operationSnapshotId : String
  authorizationContextHash : String
  executionMode : ExecutionMode
  simulationId : Option String
  argumentHash : String
  externalExecutionId : Option String
  internalState : InternalTaskState
  mcpStatus : McpTaskStatus
  substate : Option String
  statusMessage : Option String
  result : Option Json
  error : Option Json
  adapterRevision : Nat
  observationRevision : Nat
  runtimeRevision : Nat
  version : Nat
  ttlMs : Option Nat
  handleExpiresAt : Option Instant
  terminalAt : Option Instant
  expiredAt : Option Instant
  lastConfirmedAt : Option Instant
  updatedAt : Instant
  runtimeUpdatedAt : Instant
  acceptedAt : Instant
  notBefore : Option Instant
  latestStartAt : Option Instant
  actualStartedAt : Option Instant
  startStopRequestedAt : Option Instant
  startConfirmationDeadline : Option Instant
  startConfirmationAttempts : Nat
  invocationAttempt : Nat
  nextStartAttemptAt : Option Instant
  scheduleClaimOwner : Option String
  scheduleClaimUntil : Option Instant
  deadlineAt : Option Instant
  cancelRequested : Bool
  stopReason : Option StopReason
  recoveryAttempts : Nat
  nextRecoveryAt : Instant
  recoveryFailureCount : Nat
  lastReconciledAt : Option Instant
  nextCommandSequence : Nat

/-- What a snapshot makes of the task. `terminal` always says what the state says. -/
structure SnapshotTransition where
  internalState : InternalTaskState
  mcpStatus : McpTaskStatus
  substate : Option String
  statusMessage : String
  result : Option Json
  error : Option Json
  terminal : Bool
  observationType : String
  terminal_eq : terminal = isTerminalState internalState := by rfl

structure AdapterSnapshotLike where
  state : String
  reasonCode : String
  message : String
  retryable : Bool
  result : Json

/-- A JavaScript `value || fallback` on strings. -/
def orElse (value fallback : String) : String :=
  if value = "" then fallback else value

def STANDARD_RESULT_FIELDS : List String := ["outcome", "reasonCode", "retryable", "completedAt"]

def sanitizeResultPayload (snapshot : AdapterSnapshotLike) : List (String × Json) :=
  match snapshot.result with
  | .obj payload => payload.filter fun member => !STANDARD_RESULT_FIELDS.contains member.1
  | .null => []
  | other => [("value", other)]

inductive BusinessOutcome where
  | success
  | businessFailure
  | partialCompletion
  deriving DecidableEq

def BusinessOutcome.text : BusinessOutcome → String
  | .success => "success"
  | .businessFailure => "business_failure"
  | .partialCompletion => "partial_completion"

def BusinessOutcome.upperText : BusinessOutcome → String
  | .success => "SUCCESS"
  | .businessFailure => "BUSINESS_FAILURE"
  | .partialCompletion => "PARTIAL_COMPLETION"

def textContent (text : String) : Json :=
  .arr [.obj [("type", .str "text"), ("text", .str text)]]

def businessResult (now : Instant) (snapshot : AdapterSnapshotLike) (outcome : BusinessOutcome)
    (isError : Bool) : Json :=
  let filtered := sanitizeResultPayload snapshot
  .obj [
    ("content", textContent (orElse snapshot.message outcome.text)),
    ("isError", .bool isError),
    ("structuredContent",
      if outcome = .success then .obj filtered
      else .obj (Json.spread [
        ("outcome", .str outcome.text),
        ("reasonCode", .str (orElse snapshot.reasonCode outcome.upperText)),
        ("retryable", .bool snapshot.retryable),
        ("completedAt", .str now.toISOString)] filtered))]

private def workingTransition (internalState : InternalTaskState)
    (working : isTerminalState internalState = false) (substate : String)
    (snapshot : AdapterSnapshotLike) (observationType : String) : SnapshotTransition :=
  { internalState := internalState
    mcpStatus := .working
    substate := some substate
    statusMessage := snapshot.message
    result := none
    error := none
    terminal := false
    observationType := observationType
    terminal_eq := working.symm }

private def terminalTransition (internalState : InternalTaskState)
    (ended : isTerminalState internalState = true) (mcpStatus : McpTaskStatus)
    (result error : Option Json) (snapshot : AdapterSnapshotLike) : SnapshotTransition :=
  { internalState := internalState
    mcpStatus := mcpStatus
    substate := none
    statusMessage := snapshot.message
    result := result
    error := error
    terminal := true
    observationType := "task.progress"
    terminal_eq := ended.symm }

/-- `now` is the instant stamped on a business result. -/
def mapAdapterSnapshot (now : Instant) (snapshot : AdapterSnapshotLike) :
    Except Failure SnapshotTransition :=
  match snapshot.state with
  | "ACCEPTED" => .ok (workingTransition .queued rfl "accepted" snapshot "task.accepted")
  | "SCHEDULED" => .ok (workingTransition .queued rfl "scheduled" snapshot "task.accepted")
  | "QUEUED" => .ok (workingTransition .queued rfl "queued" snapshot "task.accepted")
  | "RUNNING" => .ok (workingTransition .running rfl "running" snapshot "task.started")
  | "PAUSED" => .ok (workingTransition .paused rfl "paused" snapshot "task.paused")
  | "RESUMING" => .ok (workingTransition .resuming rfl "resuming" snapshot "task.resumed")
  | "STOPPING" => .ok (workingTransition .stopping rfl "stopping" snapshot "task.progress")
  | "WAITING_INPUT" => .ok
      { internalState := .inputRequired
        mcpStatus := .inputRequired
        substate := none
        statusMessage := snapshot.message
        result := none
        error := none
        terminal := false
        observationType := "task.progress" }
  | "SUCCEEDED" => .ok (terminalTransition .terminalCompleted rfl .completed
      (some (businessResult now snapshot .success false)) none snapshot)
  | "BUSINESS_FAILED" => .ok (terminalTransition .terminalCompleted rfl .completed
      (some (businessResult now snapshot .businessFailure true)) none snapshot)
  | "PARTIALLY_COMPLETED" => .ok (terminalTransition .terminalCompleted rfl .completed
      (some (businessResult now snapshot .partialCompletion true)) none snapshot)
  | "CANCELLED" => .ok (terminalTransition .terminalCancelled rfl .cancelled none none snapshot)
  | "TECHNICAL_FAILED" => .ok (terminalTransition .terminalFailed rfl .failed none
      (some (.obj [
        ("code", .num "-32603"),
        ("message", .str "Task execution failed."),
        ("data", .obj [
          ("reasonCode", .str (orElse snapshot.reasonCode "TECHNICAL_EXECUTION_FAILED")),
          ("retryable", .bool snapshot.retryable)])])) snapshot)
  | other => .error (Failure.error ("UNKNOWN_ADAPTER_STATE:" ++ other))

variable {snapshot : AdapterSnapshotLike}

theorem mapAdapterSnapshot_cancelled (now : Instant) (cancelled : snapshot.state = "CANCELLED") :
    ∃ transition, mapAdapterSnapshot now snapshot = .ok transition ∧
      transition.internalState = .terminalCancelled := by
  simp only [mapAdapterSnapshot, cancelled]
  exact ⟨_, rfl, rfl⟩

variable {now : Instant} {transition : SnapshotTransition}

theorem mapAdapterSnapshot_result (mapped : mapAdapterSnapshot now snapshot = .ok transition) :
    transition.result = none ∨
      ∃ outcome isError, transition.result = some (businessResult now snapshot outcome isError) := by
  unfold mapAdapterSnapshot at mapped
  split at mapped
  all_goals
    first
    | cases mapped
      exact Or.inl rfl
    | cases mapped
      exact Or.inr ⟨_, _, rfl⟩
    | cases mapped

theorem mapAdapterSnapshot_terminal (mapped : mapAdapterSnapshot now snapshot = .ok transition)
    (ended : snapshot.state ∈ ["SUCCEEDED", "BUSINESS_FAILED", "PARTIALLY_COMPLETED", "CANCELLED",
      "TECHNICAL_FAILED"]) : isTerminalState transition.internalState = true := by
  unfold mapAdapterSnapshot at mapped
  simp only [List.mem_cons, List.not_mem_nil, or_false] at ended
  rcases ended with state | state | state | state | state
  all_goals
    rw [state] at mapped
    cases mapped
    rfl

end SdarRuntime
