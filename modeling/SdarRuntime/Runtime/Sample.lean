import SdarRuntime.Runtime

/-!
A small deployment with one operation, and the pieces runs of it are put together from: the
processes around one task, and the answers an adapter gives them.
-/

namespace SdarRuntime.Sample

def environment : Environment :=
  { sha256 := fun text => text
    parsesAsDate := fun _ => false
    parseOffsetDatetime := fun _ => none
    localeLe := fun _ _ => true
    collateLe := fun _ _ => true
    hashtext := fun _ => 0 }

def operation : ValidatedOperation :=
  { name := "move"
    execution := .taskRequired
    capabilities :=
      { cancel := true
        pauseResume := true
        inputRequired := true }
    validateOutput := fun _ => .ok () }

def deployment : Deployment :=
  { env := environment
    operationSnapshots := fun _ => .ok operation
    parseIntervention := fun _ => none
    isTrustedResponder := fun _ => false
    diagnosticResponseLossLeaseId := fun _ => none }

def authorization : AuthorizationContext :=
  { hash := "a"
    executionMode := .live
    simulationId := none
    verifiedResponder := none }

def call : OperationCall :=
  { operation := operation
    providerId := "p"
    arguments := .obj []
    authorization := authorization
    ttlMs := none
    taskId := "t"
    recovering := false
    argumentHash := "h"
    timing :=
      { startMode := .immediate
        startToleranceMs := 0
        maxElapsedMs := none }
    anchors :=
      { acceptedAt := 0
        notBefore := 0
        latestStartAt := 5
        deadlineAt := some 10 }
    reservationRef := none
    operationSnapshotId := some "o"
    resourceBinding := none }

def context : AdapterExecutionContext :=
  { authorizationContextHash := "a"
    executionMode := "live"
    simulationId := "" }

def snapshot (state : String) (revision : Nat) : ExecutionSnapshot :=
  { taskId := "t"
    externalExecutionId := "e"
    state := state
    revision := revision
    reasonCode := ""
    message := ""
    retryable := false
    result := none
    inputRequests := []
    mcpInputRequests := []
    evidence := []
    operationName := "move"
    argumentHash := "h"
    executionContext := some context }

def started (state : String) (revision : Nat) : Answer :=
  .started
    { result := "accepted"
      accepted := some
        { externalExecutionId := "e"
          initialSnapshot := snapshot state revision }
      rejected := none }

def found (state : String) (revision : Nat) : Answer :=
  .reconciled
    { status := "FOUND"
      snapshot := some (snapshot state revision)
      externalExecutionId := "e"
      reasonCode := ""
      message := ""
      retryable := false }

def ack (accepted : Bool) (reasonCode : String) (sequence : Nat) : Answer :=
  .acknowledged
    { accepted := accepted
      reasonCode := reasonCode
      message := ""
      commandSequence := sequence
      identity := some
        { taskId := "t"
          externalExecutionId := "e"
          operationName := "move"
          argumentHash := "h"
          executionContext := some context
          commandSequence := sequence } }

def worker : DurableCommandDispatcher := { workerId := "w" }

def clocks (now : Instant) : Clocks :=
  { database := now
    runtime := now }

def perform (thread count : Nat) (now : Instant) : List RuntimeLabel :=
  List.replicate count (.perform thread (clocks now))

def exchange (thread : Nat) (answer : Answer) : List RuntimeLabel :=
  [.send thread, .answer thread answer]

/-- The first process calls the operation, and the adapter accepts it. -/
def published (state : String) (revision : Nat) : List RuntimeLabel :=
  .spawn (.callOperation call) :: perform 0 1 1 ++ exchange 0 (started state revision) ++
    perform 0 2 1

def run (labels : List RuntimeLabel) : Runtime := Runtime.run deployment Runtime.initial labels

end SdarRuntime.Sample
