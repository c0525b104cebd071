import SdarRuntime.Persistence.TransitionTask

/-!
The command lane of a task: how commands are created, claimed for delivery, renewed and
ended, and the two outcomes of a stop that fail or give back the task.
-/

namespace SdarRuntime

open Transaction (read update abort when forEach)

open CommandRow

structure PendingCommandRecord where
  commandSequence : Nat
  commandType : CommandType
  payload : Json
  state : CommandState
  attemptCount : Nat
  claimOwner : Option String
  stopReason : Option StopReason
  adapterAck : Option CommandAck
  nextAttemptAt : Option Instant
  lastErrorCode : Option String
  lastErrorMessage : Option String
  claimUntil : Option Instant

def mapPendingCommandRecord (row : CommandRow) : PendingCommandRecord :=
  { commandSequence := row.sequence
    commandType := row.commandType
    payload := row.payload
    state := row.state
    attemptCount := row.attemptCount
    claimOwner := row.claimOwner
    stopReason := row.stopReason
    adapterAck := row.adapterAck
    nextAttemptAt := some row.nextAttemptAt
    lastErrorCode := row.lastErrorCode
    lastErrorMessage := row.lastErrorMessage
    claimUntil := row.claimUntil }

inductive CommandDisposition where
  | created
  | existing
  deriving DecidableEq, Repr

structure CommandResolution where
  sequence : Nat
  disposition : CommandDisposition
  duplicate : Bool
  commandType : CommandType
  state : CommandState
  adapterAck : Option CommandAck
  lastErrorCode : Option String
  lastErrorMessage : Option String
  nextAttemptAt : Option Instant
  claimUntil : Option Instant
  claimOwner : Option String

/-- The resolution of a request that found a command instead of creating one. -/
def mapCommandResolution (row : CommandRow) : CommandResolution :=
  { sequence := row.sequence
    disposition := .existing
    duplicate := true
    commandType := row.commandType
    state := row.state
    adapterAck := row.adapterAck
    lastErrorCode := row.lastErrorCode
    lastErrorMessage := row.lastErrorMessage
    nextAttemptAt := some row.nextAttemptAt
    claimUntil := row.claimUntil
    claimOwner := row.claimOwner }

def createdResolution (sequence : Nat) (commandType : CommandType) : CommandResolution :=
  { sequence := sequence
    disposition := .created
    duplicate := false
    commandType := commandType
    state := .pending
    adapterAck := none
    lastErrorCode := none
    lastErrorMessage := none
    nextAttemptAt := none
    claimUntil := none
    claimOwner := none }

/-- Exhaust the matching commands for a safe stop. `settlesInbox` is whether the responses
assigned to an UPDATE among them are ignored with it. -/
def supersedeForSafeStop (matches' : CommandRow → Bool) (settlesInbox : Bool) :
    Tx Nat := do
  let superseded ← updateCommands matches'
    (settle .exhausted (some "SUPERSEDED_BY_SAFE_STOP")
      (some "Safe stop superseded the pending command."))
  forEach superseded fun row => do
    when (settlesInbox = true ∧ row.commandType = .update) do
      markAssignedInputResponsesIgnored row.sequence
    insertCommandFact row.sequence .superseded .exhausted row.attemptCount
  pure superseded.length

def CommandRow.leaseExpired (row : CommandRow) (instant : Instant) : Bool :=
  row.state == .claimed && row.claimUntil.any fun claimUntil => decide (claimUntil ≤ instant)

def supersedeExpiredClaimedNormalCommandsForSafeStop (clocks : Clocks) : Tx Nat :=
  supersedeForSafeStop (fun row => row.isNormal && row.leaseExpired clocks.database) true

def CommandRow.isClaimable (row : CommandRow) (cancelRequested : Bool) (instant : Instant) :
    Bool :=
  ((row.state == .pending || row.state == .retryWait) && decide (row.nextAttemptAt ≤ instant) ||
      row.leaseExpired instant) &&
    (row.commandType == .cancel || !cancelRequested)

/-- Another command of the task is claimed under a lease that still runs. -/
def blockedBy (row : CommandRow) (instant : Instant) (other : CommandRow) : Bool :=
  other.state == .claimed && other.sequence != row.sequence &&
    other.claimUntil.any fun claimUntil => decide (instant < claimUntil)

/-- `ORDER BY priority DESC, next_attempt_at, created_at, command_sequence`. -/
def CommandRow.claimedBefore (row other : CommandRow) : Bool :=
  if row.priority ≠ other.priority then decide (other.priority < row.priority)
  else if row.nextAttemptAt ≠ other.nextAttemptAt then
    decide (row.nextAttemptAt < other.nextAttemptAt)
  else if row.createdAt ≠ other.createdAt then decide (row.createdAt < other.createdAt)
  else decide (row.sequence < other.sequence)

def firstClaimable (cancelRequested : Bool) (instant : Instant) (commands : List CommandRow) :
    Option CommandRow :=
  (commands.filter fun row =>
      row.isClaimable cancelRequested instant && !commands.any (blockedBy row instant)).foldl
    (fun first row => match first with
      | none => some row
      | some other => if row.claimedBefore other then some row else first) none

def oneClaimedPerTask : Failure :=
  Failure.uniqueViolation "task_command_one_claimed_per_task_idx"

def CommandRow.claim (instant : Instant) (ownerId : String) (leaseMilliseconds : Nat)
    (row : CommandRow) : CommandRow :=
  { row with
    state := .claimed
    claimOwner := some ownerId
    claimUntil := some (instant.addMilliseconds leaseMilliseconds)
    attemptCount := row.attemptCount + 1 }

def claimFirst (instant : Instant) (ownerId : String) (leaseMilliseconds : Nat) :
    Tx (Option PendingCommandRecord) := do
  let tables ← read
  match tables.task.bind fun task =>
      firstClaimable task.cancelRequested instant tables.commands with
  | none => pure none
  | some chosen =>
    if tables.commands.any fun row =>
        row.state == .claimed && row.sequence != chosen.sequence then
      abort oneClaimedPerTask
    else
      let _ ← updateCommands (fun row => row.sequence == chosen.sequence)
        (claim instant ownerId leaseMilliseconds)
      insertCommandFact chosen.sequence .claimed .claimed (chosen.attemptCount + 1)
      pure (some (mapPendingCommandRecord (chosen.claim instant ownerId leaseMilliseconds)))

/-- The claim of a worker's tick, for one task. The expired normal claims of a stopping task
are superseded whether or not the batch has room for the task (`selected`). A second claim
on the task rolls everything back and claims nothing. -/
def claimDueCommands (clocks : Clocks) (now : Instant) (ownerId : String)
    (leaseMilliseconds : Nat) (selected : Bool) : Tx (Option PendingCommandRecord) :=
  Transaction.rescue
    (do
      let instant := max now clocks.database
      let tables ← read
      let stopping := tables.task.any TaskRecord.cancelRequested
      let _ ← supersedeForSafeStop
        (fun row => stopping && row.isNormal && row.leaseExpired instant) true
      if selected then claimFirst instant ownerId leaseMilliseconds else pure none)
    (fun failure => if failure = oneClaimedPerTask then some none else none)

/-- Change the command the attempt has claimed; a lost claim aborts. -/
def changeClaimed (command : PendingCommandRecord) (kind : CommandRow → Bool)
    (change : CommandRow → CommandRow) : Tx Unit := do
  let changed ← updateCommands
    (fun row => row.claimedBy command.commandSequence command.claimOwner && kind row) change
  if changed.length = 1 then pure () else abort (Failure.error "COMMAND_CLAIM_LOST")

def anyKind (_ : CommandRow) : Bool := true

def retryClaimedCommand (command : PendingCommandRecord) (nextAttemptAt : Instant)
    (errorCode errorMessage : String) : Tx Unit := do
  changeClaimed command anyKind fun row =>
    { row.settle .retryWait (some errorCode) (some errorMessage) with
      nextAttemptAt := nextAttemptAt }
  insertCommandFact command.commandSequence .retryScheduled .retryWait command.attemptCount

def recordCommandStarted (command : PendingCommandRecord) : Tx Unit := do
  changeClaimed command anyKind id
  insertCommandFact command.commandSequence .started .claimed command.attemptCount

def renewCommandClaim (clocks : Clocks) (command : PendingCommandRecord)
    (leaseMilliseconds : Nat) : Tx Unit :=
  changeClaimed command anyKind fun row =>
    { row with claimUntil := some (clocks.database.addMilliseconds leaseMilliseconds) }

def rejectClaimedCommand (command : PendingCommandRecord) (errorCode errorMessage : String) :
    Tx Unit := do
  changeClaimed command anyKind (settle .rejected (some errorCode) (some errorMessage))
  when (command.commandType = .update) do
    settleAssignedInbox command.commandSequence .failed (some "INPUT_RESPONSE_REJECTED")
      (some errorMessage)
  insertCommandFact command.commandSequence .rejected .rejected command.attemptCount

def acknowledgeClaimedCommand (command : PendingCommandRecord) (ack : CommandAck) :
    Tx Unit := do
  changeClaimed command anyKind fun row =>
    { row.settle .acknowledged none none with adapterAck := some ack }
  insertCommandFact command.commandSequence .acknowledged .acknowledged command.attemptCount

def supersedeClaimedCommandForSafeStop (clocks : Clocks) (command : PendingCommandRecord) :
    Tx Unit := do
  changeClaimed command isNormal fun row =>
    { row.settle .exhausted (some "SUPERSEDED_BY_SAFE_STOP")
        (some "Safe stop superseded the claimed command.") with
      nextAttemptAt := clocks.database }
  when (command.commandType = .update) do
    markAssignedInputResponsesIgnored command.commandSequence
  insertCommandFact command.commandSequence .superseded .exhausted command.attemptCount

def isIntervention (row : CommandRow) : Bool := row.commandType == .intervention

def TaskRecord.isStopping (task : TaskRecord) : Bool :=
  task.cancelRequested || task.stopReason.isSome || task.internalState == .stopping

def TaskRecord.supersedeReason (task : TaskRecord) (otherwise : String) : String :=
  if task.isStopping then "SUPERSEDED_BY_SAFE_STOP"
  else if isTerminalState task.internalState then "TASK_TERMINAL"
  else otherwise

/-- A queued change may not run after a pause, an input wait, a stop or the end. -/
def supersedeClaimedBusinessInterventionIfNotRunning (command : PendingCommandRecord) :
    Tx Bool := do
  if command.commandType ≠ .intervention then pure false
  else
    let task ← lockTask
    if task.internalState = .running ∧ task.cancelRequested = false ∧ task.stopReason = none then
      pure false
    else
      changeClaimed command isIntervention (settle .exhausted
        (some (task.supersedeReason "BUSINESS_INTERVENTION_TASK_NOT_RUNNING"))
        (some "Business intervention was superseded by Task state."))
      insertCommandFact command.commandSequence .superseded .exhausted command.attemptCount
      pure true

/-- Delivery exhausted with an unknown effect; the task is not failed. -/
def exhaustClaimedBusinessIntervention (command : PendingCommandRecord) (message : String) :
    Tx Unit := do
  if command.commandType ≠ .intervention then
    abort (Failure.error "INTERVENTION_COMMAND_REQUIRED")
  else
    changeClaimed command isIntervention (settle .exhausted
      (some "INTERVENTION_DELIVERY_EXHAUSTED") (some message))
    insertCommandFact command.commandSequence .exhausted .exhausted command.attemptCount

/-- A user's cancellation. An active stop is the answer; otherwise the waiting normal
commands are superseded, which leaves the responses assigned to them as they are. -/
def beginCancel (clocks : Clocks) (requestHash : String) : Tx CommandResolution := do
  let previous ← lockTask
  let tables ← read
  match newestCommand isActiveStop tables.commands with
  | some existing => do
    insertCommandFact existing.sequence .duplicate existing.state 0
    pure (mapCommandResolution existing)
  | none =>
    if isTerminalState previous.internalState then abort (Failure.error "TASK_ALREADY_TERMINAL")
    else
      let _ ← supersedeForSafeStop
        (fun row => row.isNormal && (row.state == .pending || row.state == .retryWait)) false
      let sequence ← nextCommandSequence
      insertCommand (newCancelCommand sequence requestHash .userRequested 100 previous
        clocks.database clocks.database)
      let _ ← transitionTask
        { expectedVersion := some previous.version
          update :=
            { cancelRequested := some true
              stopReason := some (some .userRequested)
              internalState := some .stopping
              mcpStatus := some .working
              substate := some (some "stopping")
              statusMessage := some (some "Cancellation requested.") }
          observation :=
            { type := "task.cancel_requested"
              occurredAt := clocks.runtime
              reasonCode := some "USER_REQUESTED"
              message := "Cancellation requested."
              substate := some "stopping"
              source := .runtime }
          eventKey := .requested sequence }
      insertCommandFact sequence .created .pending 0
      pure (createdResolution sequence .cancel)

/-- The intent alone, for an adapter that cannot cancel. The row is not read first. -/
def recordCooperativeCancellationIntent (clocks : Clocks) : Tx TaskRecord := do
  let applied ← transitionTask
    { update :=
        { cancelRequested := some true
          stopReason := some (some .userRequested) }
      observation :=
        { type := "task.cancel_requested"
          occurredAt := clocks.runtime
          reasonCode := some "ADAPTER_CANCEL_UNSUPPORTED"
          message := "Cancellation intent recorded; Adapter does not support immediate stop."
          substate := none
          source := .runtime }
      eventKey := .cancelIntent }
  pure applied.row

def CommandType.text : CommandType → String
  | .cancel => "CANCEL"
  | .update => "UPDATE"
  | .pause => "PAUSE"
  | .resume => "RESUME"
  | .intervention => "INTERVENTION"

def CommandType.lowerText : CommandType → String
  | .cancel => "cancel"
  | .update => "update"
  | .pause => "pause"
  | .resume => "resume"
  | .intervention => "intervention"

def requestCommand (clocks : Clocks) (task : TaskRecord) (commandType : CommandType)
    (requestHash : String) (payload : Json) : Tx CommandResolution := do
  let sequence ← nextCommandSequence
  insertCommand (newCommand sequence commandType requestHash payload clocks.database)
  let _ ← transitionTask
    { expectedVersion := some task.version
      update := {}
      observation :=
        { type := "task.command_requested"
          occurredAt := clocks.runtime
          reasonCode := some commandType.text
          message := commandType.lowerText ++ " command requested."
          substate := task.substate
          source := .runtime
          payload := [
            ("commandType", .str commandType.text),
            ("commandSequence", .num (toString sequence))] }
      eventKey := .requested sequence }
  insertCommandFact sequence .created .pending 0
  pure (createdResolution sequence commandType)

def isLowerHex (char : Char) : Bool :=
  decide (('0'.toNat ≤ char.toNat ∧ char.toNat ≤ '9'.toNat) ∨
    ('a'.toNat ≤ char.toNat ∧ char.toNat ≤ 'f'.toNat))

def beginBusinessInterventionCommand (env : Environment) (clocks : Clocks)
    (commandId semanticHash : String) (payload : Json) : Tx CommandResolution := do
  let invalid := fun code : String =>
    (abort { kind := .invalidParams, message := code } : Tx CommandResolution)
  if (Json.utf16 commandId).length < 1 ∨ 256 < (Json.utf16 commandId).length ∨
      semanticHash.length ≠ 64 ∨ semanticHash.toList.all isLowerHex = false ∨
      (payload.field? "commandId").bind Json.text? ≠ some commandId ∨
      (payload.field? "semanticHash").bind Json.text? ≠ some semanticHash ∨
      (payload.field? "command").any Json.isRecord = false then
    invalid "BUSINESS_INTERVENTION_COMMAND_INVALID"
  else
    let requestHash := env.sha256 (commandId ++ String.singleton (Char.ofNat 0) ++ semanticHash)
    let task ← lockTask
    let tables ← read
    match newestCommand (fun row =>
        row.commandType == .intervention && row.interventionId == some commandId)
        tables.commands with
    | some existing =>
      if (existing.payload.field? "semanticHash").bind Json.text? ≠ some semanticHash then
        invalid "COMMAND_ID_CONFLICT"
      else pure (mapCommandResolution existing)
    | none =>
      if task.internalState ≠ .running ∨ task.cancelRequested ∨ task.stopReason ≠ none then
        invalid "BUSINESS_INTERVENTION_TASK_NOT_RUNNING"
      else if tables.commands.any fun row =>
          row.commandType == .intervention && row.state == .exhausted &&
            row.lastErrorCode == some "INTERVENTION_DELIVERY_EXHAUSTED" then
        invalid "BUSINESS_CHANGE_RECONCILIATION_REQUIRED"
      else if tables.commands.any fun row => row.state.isDeliverable then
        invalid "BUSINESS_CHANGE_IN_PROGRESS"
      else requestCommand clocks task .intervention requestHash payload

/-- An earlier command of the same type and hash is the answer, whatever became of it. -/
def beginCommand (clocks : Clocks) (commandType : CommandType) (requestHash : String)
    (payload : Json) : Tx CommandResolution := do
  let task ← lockTask
  let tables ← read
  match newestCommand (fun row =>
      row.commandType == commandType && row.requestHash == requestHash) tables.commands with
  | some existing => do
    insertCommandFact existing.sequence .duplicate existing.state 0
    pure (mapCommandResolution existing)
  | none =>
    if isTerminalState task.internalState then abort (Failure.error "TASK_ALREADY_TERMINAL")
    else if task.isStopping then
      match newestCommand isActiveStop tables.commands with
      | some stopping => pure (mapCommandResolution stopping)
      | none => abort (Failure.error "STOP_IN_PROGRESS_WITHOUT_COMMAND")
    else match oldestCommand (fun row => row.state.isDeliverable) tables.commands with
      | some active => pure (mapCommandResolution active)
      | none => requestCommand clocks task commandType requestHash payload

def findCommandByRequestHash (commandType : CommandType) (requestHash : String) :
    Tx (Option CommandResolution) := do
  let tables ← read
  return (newestCommand (fun row =>
    row.commandType == commandType && row.requestHash == requestHash)
    tables.commands).map mapCommandResolution

/-- The adapter refused a user's cancellation: the task goes back to what the adapter
reports and the stop is withdrawn. The command copy decides which command; its claim is
checked only when the task is not terminal. -/
def rejectUserCancel (clocks : Clocks) (command : PendingCommandRecord) (adapterRevision : Nat)
    (transition : SnapshotTransition) (ack : CommandAck) : Tx TaskRecord := do
  let row ← lockTask
  if isTerminalState row.internalState then
    let _ ← updateCommands (fun other => other.sequence == command.commandSequence)
      (fun other => { other with
        state := .exhausted
        claimOwner := none
        claimUntil := none
        lastErrorCode := some "TASK_TERMINAL" })
    insertCommandFact command.commandSequence .exhausted .exhausted command.attemptCount
    pure row
  else
    let applied ← transitionTask
      { expectedVersion := some row.version
        update :=
          { transition.update with
            adapterRevision :=
              if row.adapterRevision < adapterRevision then some adapterRevision else none
            cancelRequested := some false
            stopReason := some none }
        observation :=
          { type := "task.cancel_rejected"
            occurredAt := clocks.runtime
            reasonCode := some ack.reasonCode
            message := transition.statusMessage
            substate := transition.substate
            source := .runtime
            adapterRevision := some adapterRevision
            payload := [("commandSequence", .num (toString command.commandSequence))] }
        eventKey := .cancelRejected command.commandSequence }
    changeClaimed command anyKind fun other =>
      { other.settle .rejected (some ack.reasonCode) (some ack.message) with
        adapterAck := some ack }
    insertCommandFact command.commandSequence .rejected .rejected command.attemptCount
    pure applied.row

/-- A required stop could not be confirmed: the task fails with it. Its command is matched
by owner, not by state. -/
def failSafeStopUnconfirmed (clocks : Clocks) (command : PendingCommandRecord)
    (message : String) : Tx TaskRecord := do
  let owned := fun row : CommandRow =>
    row.sequence == command.commandSequence && command.claimOwner.isSome &&
      row.claimOwner == command.claimOwner
  let row ← lockTask
  if isTerminalState row.internalState then
    let _ ← updateCommands owned
      (settle .exhausted (some "TASK_TERMINAL") (some message))
    insertCommandFact command.commandSequence .exhausted .exhausted command.attemptCount
    pure row
  else
    let applied ← transitionTask
      { expectedVersion := some row.version
        update :=
          { internalState := some .terminalFailed
            mcpStatus := some .failed
            substate := some none
            statusMessage := some (some message)
            result := some none
            error := some (some (runtimeError message "SAFE_STOP_UNCONFIRMED")) }
        observation :=
          { type := "task.failed"
            occurredAt := clocks.runtime
            reasonCode := some "SAFE_STOP_UNCONFIRMED"
            message := message
            substate := none
            source := .runtime
            payload := [
              ("stopReason", (command.stopReason.elim .null fun reason => .str reason.text)),
              ("severity", .str "critical")] }
        eventKey := .safeStopFailed command.commandSequence }
    let exhausted ← updateCommands owned
      (settle .exhausted (some "SAFE_STOP_UNCONFIRMED") (some message))
    if exhausted.length ≠ 1 then abort (Failure.error "COMMAND_CLAIM_LOST")
    else
      insertCommandFact command.commandSequence .exhausted .exhausted command.attemptCount
      pure applied.row

end SdarRuntime
