import SdarRuntime.Adapter.Protocol
import SdarRuntime.Library.Transaction

/-!
The rows the runtime keeps for one task, and the statements its transactions are made
of. Every method of the repository works on the rows of one task or treats the tasks of
a batch one by one, so one task's rows are a store of their own.
-/

namespace SdarRuntime

inductive AdmissionState where
  | pending
  | accepted
  | rejected
  | published
  | uncertain
  deriving DecidableEq, Repr

structure AuthorizationContext where
  hash : String
  executionMode : ExecutionMode
  simulationId : Option String
  verifiedResponder : Option Json

inductive StartMode where
  | immediate
  | scheduled
  deriving DecidableEq, Repr

structure TaskExecutionTiming where
  startMode : StartMode
  startToleranceMs : Nat
  maxElapsedMs : Option Nat

structure TimingAnchors where
  acceptedAt : Instant
  notBefore : Instant
  latestStartAt : Instant
  deadlineAt : Option Instant

structure ResourceBinding where
  mode : String
  resourceIdJsonPointer : Option String

/-- What a call asks for, as admission records it. `resourceBinding` is the one its operation
snapshot declares. -/
structure AdmissionIntentInput where
  taskId : String
  providerId : String
  operationName : String
  operationSnapshotId : String
  authorization : AuthorizationContext
  arguments : Json
  argumentHash : String
  anchors : TimingAnchors
  ttlMs : Option Nat
  timing : TaskExecutionTiming
  reservationRef : Option String
  resourceBinding : Option ResourceBinding

structure AdmissionIntentRecord where
  intent : AdmissionIntentInput
  state : AdmissionState

/-- A start whose outcome is unknown; the table's check allows no other `redispatchAllowed`. -/
structure DispatchUncertainty where
  uncertaintyClass : String
  causalRefs : List String
  occurredAt : Instant
  redispatchAllowed : Bool := false
  redispatchAllowed_eq : redispatchAllowed = false := by rfl

structure ReconciliationAudit where
  attempt : Nat
  status : String
  externalExecutionId : Option String
  identityValidated : Bool
  occurredAt : Instant

inductive ObservationSource where
  | runtime
  | adapter
  deriving DecidableEq, Repr

structure ObservationRow where
  revision : Nat
  type : String
  reasonCode : Option String
  occurredAt : Instant
  message : String
  substate : Option String
  source : ObservationSource
  adapterRevision : Option Nat
  payload : Json

inductive CommandType where
  | cancel
  | update
  | pause
  | resume
  | intervention
  deriving DecidableEq, Repr

inductive CommandState where
  | pending
  | claimed
  | retryWait
  | acknowledged
  | rejected
  | exhausted
  deriving DecidableEq, Repr

structure CommandRow where
  sequence : Nat
  commandType : CommandType
  requestHash : String
  state : CommandState
  payload : Json
  attemptCount : Nat
  claimOwner : Option String
  claimUntil : Option Instant
  stopReason : Option StopReason
  priority : Nat
  adapterAck : Option CommandAck
  previousInternalState : Option InternalTaskState
  previousMcpStatus : Option McpTaskStatus
  previousSubstate : Option String
  previousStatusMessage : Option String
  nextAttemptAt : Instant
  createdAt : Instant
  lastErrorCode : Option String
  lastErrorMessage : Option String

inductive InputRequestStatus where
  | open
  | answered
  | superseded
  deriving DecidableEq, Repr

structure InputRequestRow where
  key : String
  description : String
  schema : Json
  required : Bool
  requestJson : Json
  status : InputRequestStatus
  answerHash : Option String
  answer : Option Json
  responseHash : Option String
  responseJson : Option Json

inductive InboxState where
  | pending
  | assigned
  | acknowledged
  | ignored
  | failed
  deriving DecidableEq, Repr

structure InboxRow where
  key : String
  responseHash : String
  responseJson : Json
  state : InboxState
  commandSequence : Option Nat
  acceptedAt : Instant
  lastErrorCode : Option String
  lastErrorMessage : Option String

inductive CommandEvent where
  | created
  | claimed
  | started
  | retryScheduled
  | rejected
  | exhausted
  | superseded
  | acknowledged
  | duplicate
  deriving DecidableEq, Repr

/-- The unique key of an outbox event, without the task id every key starts with. -/
inductive EventKey where
  | created
  | adapter (revision : Nat)
  | requested (sequence : Nat)
  | deadlineStop (sequence : Nat)
  | startWindowStop (sequence : Nat)
  | cancelRejected (sequence : Nat)
  | safeStopFailed (sequence : Nat)
  | inputRejected (sequence : Nat)
  | inputDeliveryExhausted (sequence : Nat)
  | inputAnswered (sequence : Nat)
  | inputResponse (acceptanceHash : String)
  | cancelIntent
  | recovery (attempt : Nat)
  | recoveryFailed (attempt : Nat)
  | startAttempt (attempt : Nat)
  | startReconcile (attempt : Nat) (previousLease : String)
  | startRetry (attempt : Nat)
  | startUncertain (attempt : Nat) (reconcileAt : String)
  | startWindowMissed
  | admissionRejected (attempt : Nat)
  | startConfirmation (attempt : Nat)
  | startConfirmed (revision : Nat)
  | identityConflict (digest : String)
  | expired
  | command (sequence : Nat) (event : CommandEvent) (state : CommandState) (attempt : Nat)
  deriving DecidableEq

structure TaskTables where
  admission : Option AdmissionIntentRecord
  uncertainty : Option DispatchUncertainty
  reconciliationAudit : List ReconciliationAudit
  task : Option TaskRecord
  observations : List ObservationRow
  outbox : List EventKey
  commands : List CommandRow
  inputRequests : List InputRequestRow
  inbox : List InboxRow

def TaskTables.empty : TaskTables :=
  { admission := none
    uncertainty := none
    reconciliationAudit := []
    task := none
    observations := []
    outbox := []
    commands := []
    inputRequests := []
    inbox := [] }

abbrev Tx (α : Type) : Type := Transaction TaskTables Failure α

open Transaction (read update abort)

/-- `SELECT … FOR UPDATE` of the task row, which must be there. -/
def lockTask : Tx TaskRecord := do
  let tables ← read
  match tables.task with
  | some row => pure row
  | none => abort (Failure.error "TASK_NOT_FOUND")

/-- An `UPDATE` of the task row outside the transition kernel. -/
def updateTaskRow (change : TaskRecord → TaskRecord) : Tx Unit :=
  update fun tables => { tables with task := tables.task.map change }

def changeWhere {α : Type} (matches' : α → Bool) (change : α → α) (rows : List α) : List α :=
  rows.map fun row => if matches' row then change row else row

/-- An `UPDATE` of commands; the answer is the rows it changed, as `RETURNING` gives them. -/
def updateCommands (matches' : CommandRow → Bool) (change : CommandRow → CommandRow) :
    Tx (List CommandRow) := do
  let tables ← read
  update fun tables => { tables with commands := changeWhere matches' change tables.commands }
  return (tables.commands.filter matches').map change

def updateInputRequests (matches' : InputRequestRow → Bool)
    (change : InputRequestRow → InputRequestRow) : Tx Nat := do
  let tables ← read
  update fun tables =>
    { tables with inputRequests := changeWhere matches' change tables.inputRequests }
  return (tables.inputRequests.filter matches').length

def updateInbox (matches' : InboxRow → Bool) (change : InboxRow → InboxRow) : Tx Nat := do
  let tables ← read
  update fun tables => { tables with inbox := changeWhere matches' change tables.inbox }
  return (tables.inbox.filter matches').length

def updateAdmission (change : AdmissionIntentRecord → AdmissionIntentRecord) : Tx Unit :=
  update fun tables => { tables with admission := tables.admission.map change }

/-- `ORDER BY command_sequence DESC LIMIT 1` of the matching rows. -/
def newestCommand (matches' : CommandRow → Bool) (commands : List CommandRow) :
    Option CommandRow :=
  commands.foldl (fun newest row =>
    if matches' row = false then newest
    else match newest with
      | none => some row
      | some other => if other.sequence ≤ row.sequence then some row else newest) none

/-- `ORDER BY command_sequence LIMIT 1` of the matching rows. -/
def oldestCommand (matches' : CommandRow → Bool) (commands : List CommandRow) :
    Option CommandRow :=
  commands.foldl (fun oldest row =>
    if matches' row = false then oldest
    else match oldest with
      | none => some row
      | some other => if other.sequence ≤ row.sequence then oldest else some row) none

/-- The states in which a command may still reach the adapter or wait for its effect. -/
def CommandState.isDeliverable : CommandState → Bool
  | .pending | .claimed | .retryWait => true
  | _ => false

/-- A stop that is still being driven: the predicate of the one-active-stop index. -/
def CommandRow.isActiveStop (row : CommandRow) : Bool :=
  row.commandType == .cancel && (row.state.isDeliverable || row.state == .acknowledged)

def CommandRow.isNormal (row : CommandRow) : Bool :=
  row.commandType != .cancel

/-- An attempt's claim: the command is claimed under the attempt's worker id. -/
def CommandRow.claimedBy (row : CommandRow) (sequence : Nat) (owner : Option String) : Bool :=
  row.sequence == sequence && row.state == .claimed && owner.isSome && row.claimOwner == owner

def CommandRow.interventionId (row : CommandRow) : Option String :=
  (row.payload.field? "commandId").bind Json.text?

def commandConflict (row : CommandRow) (commands : List CommandRow) : Option String :=
  if commands.any fun other => other.sequence == row.sequence then some "task_command_pkey"
  else if row.isActiveStop && commands.any CommandRow.isActiveStop then
    some "task_command_active_stop_idx"
  else if row.isNormal && commands.any (fun other =>
      other.commandType == row.commandType && other.requestHash == row.requestHash) then
    some "task_command_non_cancel_request_idx"
  else if row.commandType == .intervention && commands.any (fun other =>
      other.commandType == .intervention && other.interventionId == row.interventionId) then
    some "task_command_intervention_id_idx"
  else none

def insertCommand (row : CommandRow) : Tx Unit := do
  let tables ← read
  match commandConflict row tables.commands with
  | some constraint => abort (Failure.uniqueViolation constraint)
  | none => update fun tables => { tables with commands := tables.commands ++ [row] }

def TaskRecord.countCommand (row : TaskRecord) : TaskRecord :=
  { row with nextCommandSequence := row.nextCommandSequence + 1 }

/-- `next_command_sequence = next_command_sequence + 1 … RETURNING`. -/
def nextCommandSequence : Tx Nat := do
  updateTaskRow TaskRecord.countCommand
  let row ← lockTask
  return row.nextCommandSequence

/-- `INSERT … ON CONFLICT (event_key) DO NOTHING`. -/
def insertOutbox (key : EventKey) : Tx Unit :=
  update fun tables =>
    if key ∈ tables.outbox then tables else { tables with outbox := tables.outbox ++ [key] }

def insertCommandFact (sequence : Nat) (event : CommandEvent) (state : CommandState)
    (attempt : Nat) : Tx Unit :=
  insertOutbox (.command sequence event state attempt)

end SdarRuntime
