import SdarRuntime.Persistence.Admission
import SdarRuntime.Persistence.Commands

/-!
Input responses: their acceptance into the inbox, their promotion to an UPDATE command,
and the ways that command ends.
-/

namespace SdarRuntime

open Transaction (read update abort when forEach)

inductive InputAction where
  | accept
  | decline
  | cancel
  deriving DecidableEq, Repr

def InputAction.text : InputAction → String
  | .accept => "accept"
  | .decline => "decline"
  | .cancel => "cancel"

structure McpInputResponse where
  action : InputAction
  content : Option Json

/-- The members of a response; the content is left out when there is none. -/
def McpInputResponse.json (response : McpInputResponse) : Json :=
  .obj (("action", .str response.action.text) ::
    match response.content with
    | none => []
    | some content => [("content", content)])

def inputAction? : Json → Option InputAction
  | .str "accept" => some .accept
  | .str "decline" => some .decline
  | .str "cancel" => some .cancel
  | _ => none

def isMcpInputResponse (value : Json) : Bool :=
  ((value.field? "action").bind inputAction?).isSome

def isTextValue (text : String) : Option Json → Bool
  | some (.str value) => value == text
  | _ => false

def isRuntimeBusinessResponder (value : Json) : Bool :=
  value.isRecord &&
    if isTextValue "development" (value.field? "source") then
      isTextValue "development_anonymous" (value.field? "actorType") &&
        isTextValue "development-anonymous" (value.field? "actorId")
    else
      (isTextValue "jwt_hs256" (value.field? "source") ||
          isTextValue "trusted_headers" (value.field? "source")) &&
        ["user", "agent", "operator"].contains
          ((value.field? "actorType").elim "undefined" Json.asText) &&
        ((value.field? "actorId").bind Json.text?).any fun actorId => actorId ≠ ""

structure StoredInputResponse where
  response : Json
  verifiedResponder : Option Json

def decodeStoredInputResponse (value : Json) : Except Failure StoredInputResponse :=
  let invalid := Except.error (Failure.error "INPUT_RESPONSE_INBOX_INVALID")
  if value.isRecord = false then invalid
  else if isTextValue "sdar.runtime-verified-input/1" (value.field? "storageVersion") then
    match value.field? "response", value.field? "verifiedResponder" with
    | some response, some responder =>
      if isMcpInputResponse response ∧ isRuntimeBusinessResponder responder then
        .ok { response := response, verifiedResponder := some responder }
      else invalid
    | _, _ => invalid
  else if isMcpInputResponse value then
    .ok { response := value, verifiedResponder := none }
  else invalid

def inputBusinessMetadata (requestJson : Json) : Option Json :=
  match (requestJson.field? "params").bind (Json.field? "_meta") with
  | some (.obj members) => Json.lookup "io.sdar/taskBusiness" members
  | _ => none

def invalidParams (code : String) : Failure := { kind := .invalidParams, message := code }

def inputBusinessDeadlineAt (env : Environment) (requestJson : Json) :
    Except Failure (Option Instant) :=
  match inputBusinessMetadata requestJson with
  | none => .ok none
  | some metadata =>
    if metadata.isRecord = false then .error (invalidParams "BUSINESS_INPUT_METADATA_INVALID")
    else match metadata.field? "deadlineAt" with
      | none => .ok none
      | some value =>
        match value.text?.bind env.parseOffsetDatetime with
        | some deadlineAt => .ok (some deadlineAt)
        | none => .error (invalidParams "BUSINESS_INPUT_DEADLINE_INVALID")

def orAbort {α : Type} : Except Failure α → Tx α
  | .ok value => pure value
  | .error failure => abort failure

def responseHash (env : Environment) (response : Json) : String :=
  env.sha256 response.canonicalize

inductive InputAcceptance where
  | accepted (responseHash : String)
  | ignoredUnknown
  | ignoredAnswered
  | ignoredSuperseded
  | duplicatePending
  deriving DecidableEq

/-- The check of the caller, made under the lock of the task and the request. -/
abbrev ValidateLockedInputResponse : Type :=
  InputRequestRow → McpInputResponse → Except Failure Unit

/-- The stored form: an answer to a business request keeps who gave it. -/
def storedResponse (authorization : AuthorizationContext) (request : InputRequestRow)
    (response : McpInputResponse) : Json :=
  match inputBusinessMetadata request.requestJson, authorization.verifiedResponder with
  | some _, some responder => .obj [
      ("storageVersion", .str "sdar.runtime-verified-input/1"),
      ("response", response.json),
      ("verifiedResponder", responder)]
  | _, _ => response.json

/-- The checks a business request adds: the task waits for it, its responder is known, an
earlier answer is the same, and its deadline has not passed. -/
def checkBusinessInput (env : Environment) (clocks : Clocks)
    (authorization : AuthorizationContext) (task : TaskRecord) (request : InputRequestRow)
    (hash : String) : Tx Unit := do
  let business := (inputBusinessMetadata request.requestJson).isSome
  if business ∧ (task.isStopping ∨ isTerminalState task.internalState) then
    abort (invalidParams "BUSINESS_INPUT_TASK_STOPPING")
  else if business ∧ task.internalState ≠ .inputRequired then
    abort (invalidParams "BUSINESS_INPUT_TASK_NOT_WAITING")
  else if business ∧ authorization.verifiedResponder = none then
    abort (Failure.error "RESPONDER_NOT_AUTHORIZED")
  else
    let deadlineAt ← orAbort (inputBusinessDeadlineAt env request.requestJson)
    if business then
      let tables ← read
      match tables.inbox.find? fun row => row.key == request.key with
      | some existing =>
        if existing.responseHash ≠ hash then abort (invalidParams "INPUT_ANSWER_CONFLICT")
        else pure ()
      | none =>
        -- Both are JavaScript dates, which have whole milliseconds.
        if deadlineAt.any fun deadline =>
            decide (Int.fdiv deadline 1000 ≤ Int.fdiv clocks.database 1000) then
          abort (invalidParams "BUSINESS_INPUT_DEADLINE_EXPIRED")
        else pure ()
    else pure ()

/-- `INSERT … ON CONFLICT (task_id, request_key) DO NOTHING`. -/
def insertInbox (clocks : Clocks) (key hash : String) (stored : Json) : Tx Bool := do
  let tables ← read
  if tables.inbox.any fun row => row.key == key then pure false
  else do
    update fun tables => { tables with
      inbox := tables.inbox ++ [
        { key := key
          responseHash := hash
          responseJson := stored
          state := .pending
          commandSequence := none
          acceptedAt := clocks.database
          lastErrorCode := none
          lastErrorMessage := none }] }
    pure true

def acceptMcpInputResponse (env : Environment) (clocks : Clocks)
    (authorization : AuthorizationContext) (validateLockedResponse : ValidateLockedInputResponse)
    (task : TaskRecord) (key : String) (response : McpInputResponse) : Tx InputAcceptance := do
  let tables ← read
  match tables.inputRequests.find? fun row => row.key == key with
  | none => pure .ignoredUnknown
  | some request =>
    let hash := responseHash env response.json
    match request.status with
    | .answered =>
      if (inputBusinessMetadata request.requestJson).isSome then
        orAbort (validateLockedResponse request response)
        if authorization.verifiedResponder = none then
          abort (Failure.error "RESPONDER_NOT_AUTHORIZED")
        else if request.responseHash ≠ some hash then
          abort (invalidParams "INPUT_ANSWER_CONFLICT")
        else pure .ignoredAnswered
      else pure .ignoredAnswered
    | .superseded => pure .ignoredSuperseded
    | .open => do
      orAbort (validateLockedResponse request response)
      checkBusinessInput env clocks authorization task request hash
      let inserted ← insertInbox clocks key hash (storedResponse authorization request response)
      pure (if inserted then .accepted hash else .duplicatePending)

def acceptEach (env : Environment) (clocks : Clocks)
    (authorization : AuthorizationContext) (validateLockedResponse : ValidateLockedInputResponse)
    (task : TaskRecord) :
    List (String × McpInputResponse) → Tx (List (String × InputAcceptance))
  | [] => pure []
  | (key, response) :: rest => do
    let acceptance ←
      acceptMcpInputResponse env clocks authorization validateLockedResponse task key response
    let others ← acceptEach env clocks authorization validateLockedResponse task rest
    pure ((key, acceptance) :: others)

def acceptedHash? : String × InputAcceptance → Option String
  | (key, .accepted hash) => some (key ++ ":" ++ hash)
  | _ => none

def acceptedKey? : String × InputAcceptance → Option String
  | (key, .accepted _) => some key
  | _ => none

def acceptMcpInputResponses (env : Environment) (clocks : Clocks)
    (authorization : AuthorizationContext) (inputResponses : List (String × McpInputResponse))
    (validateLockedResponse : ValidateLockedInputResponse) :
    Tx (List (String × InputAcceptance)) := do
  let task ← getAuthorizedRow authorization
  if handleExpired clocks task then abort { kind := .taskExpired, message := "TASK_EXPIRED" }
  else
    let entries := inputResponses.insertionSort fun left right =>
      env.localeLe left.1 right.1 = true
    let result ← acceptEach env clocks authorization validateLockedResponse task entries
    let acceptedKeys := result.filterMap acceptedKey?
    when (acceptedKeys ≠ []) do
      let _ ← transitionTask
        { expectedVersion := some task.version
          update := {}
          observation :=
            { type := "task.input_response_accepted"
              occurredAt := clocks.runtime
              reasonCode := some "INPUT_RESPONSE_ACCEPTED"
              message := "Task input response accepted for durable delivery."
              substate := task.substate
              source := .runtime
              payload := [("keys", .arr (acceptedKeys.map .str))] }
          eventKey := .inputResponse
            (env.sha256 (String.intercalate "\n" (result.filterMap acceptedHash?))) }
      pure ()
    pure result

structure PendingResponse where
  key : String
  responseHash : String
  stored : StoredInputResponse

def decodePending (row : InboxRow) : Except Failure PendingResponse := do
  let stored ← decodeStoredInputResponse row.responseJson
  return { key := row.key, responseHash := row.responseHash, stored := stored }

def ignorePending (keys : List String) (errorCode errorMessage : String) : Tx Unit := do
  let _ ← updateInbox (fun row => keys.contains row.key && row.state == .pending)
    (fun row => { row with
      state := .ignored
      lastErrorCode := some errorCode
      lastErrorMessage := some errorMessage })
  pure ()

/-- The payload of the UPDATE command; the responders are left out when there are none. -/
def updatePayload (ready : List PendingResponse) : Json :=
  let responders := ready.filterMap fun response =>
    response.stored.verifiedResponder.map fun responder => (response.key, responder)
  .obj (("inputResponses",
      .obj (ready.map fun response => (response.key, response.stored.response))) ::
    if responders = [] then [] else [("verifiedResponders", .obj responders)])

def promoteReady (env : Environment) (clocks : Clocks) (ready : List PendingResponse) :
    Tx Unit := do
  let sequence ← nextCommandSequence
  let requestHash := env.sha256 (String.intercalate "\n"
    (ready.map fun response => response.key ++ ":" ++ response.responseHash))
  insertCommand (newCommand sequence .update requestHash (updatePayload ready) clocks.database)
  let keys := ready.map PendingResponse.key
  let assigned ← updateInbox (fun row => keys.contains row.key && row.state == .pending)
    (fun row => { row with state := .assigned, commandSequence := some sequence })
  if assigned ≠ ready.length then abort (Failure.error "INPUT_RESPONSE_ASSIGNMENT_LOST")
  else insertCommandFact sequence .created .pending 0

/-- The promotion of one task's pending responses; the answer is the number of commands. -/
def promotePendingInputResponses (env : Environment) (clocks : Clocks) : Tx Nat := do
  let tables ← read
  let responses := (tables.inbox.filter fun row => row.state == .pending).insertionSort
    fun left right => left.acceptedAt < right.acceptedAt ∨
      left.acceptedAt = right.acceptedAt ∧ env.collateLe left.key right.key = true
  if responses.isEmpty then pure 0
  else
    let task ← lockTask
    let keys := responses.map InboxRow.key
    if task.isStopping ∨ isTerminalState task.internalState then
      ignorePending keys "TASK_NOT_ACCEPTING_INPUT" "Task is stopping or terminal."
      pure 0
    else
      let decoded ← orAbort (responses.mapM decodePending)
      let businessKeys := (decoded.filter fun response =>
        response.stored.verifiedResponder.isSome).map PendingResponse.key
      let openKeys := (tables.inputRequests.filter fun row => row.status == .open).map
        InputRequestRow.key
      let taskNoLongerWaiting := task.internalState != .inputRequired
      let staleKeys := businessKeys.filter fun key =>
        taskNoLongerWaiting || !openKeys.contains key
      when (staleKeys ≠ [] ∧ taskNoLongerWaiting = true) do
        supersedeOpenRequests staleKeys
      when (staleKeys ≠ []) do
        ignorePending staleKeys
          (if taskNoLongerWaiting then "BUSINESS_INPUT_TASK_NOT_WAITING"
            else "BUSINESS_INPUT_REQUEST_SUPERSEDED")
          (if taskNoLongerWaiting then "The Task is no longer waiting for this business input."
            else "The business input request is no longer open.")
      let ready := decoded.filter fun response => !staleKeys.contains response.key
      if ready.isEmpty then pure 0
      else
        promoteReady env clocks ready
        pure 1

def isUpdate (row : CommandRow) : Bool := row.commandType == .update

/-- `SELECT … FOR UPDATE` of the claimed UPDATE. -/
def requireClaimedUpdate (command : PendingCommandRecord) : Tx Unit := do
  let tables ← read
  if tables.commands.any fun row =>
      row.claimedBy command.commandSequence command.claimOwner && isUpdate row then
    pure ()
  else abort (Failure.error "COMMAND_CLAIM_LOST")

def PendingCommandRecord.responseKeys (command : PendingCommandRecord) : List String :=
  Json.keys (command.payload.field? "inputResponses")

/-- The keys whose responders are recorded; only an object of responders has any. -/
def PendingCommandRecord.businessKeys (command : PendingCommandRecord) : List String :=
  match command.payload.field? "verifiedResponders" with
  | some (.obj responders) => responders.map Prod.fst
  | _ => []

inductive InputRejection where
  | failed
  | taskTerminal
  | supersededBySafeStop
  deriving DecidableEq, Repr

def TaskRecord.inputRejection (task : TaskRecord) : InputRejection :=
  if isTerminalState task.internalState then .taskTerminal
  else if task.isStopping then .supersededBySafeStop
  else .failed

/-- The code of a command that is not delivered; a failure has its own. -/
def InputRejection.commandCode (rejection : InputRejection) (failedCode : String) : String :=
  match rejection with
  | .failed => failedCode
  | .taskTerminal => "TASK_TERMINAL"
  | .supersededBySafeStop => "SUPERSEDED_BY_SAFE_STOP"

def failInput (clocks : Clocks) (task : TaskRecord) (message reasonCode : String)
    (sequence : Nat) (eventKey : EventKey) : Tx Unit := do
  let _ ← transitionTask
    { expectedVersion := some task.version
      update :=
        { internalState := some .terminalFailed
          mcpStatus := some .failed
          substate := some none
          statusMessage := some (some message)
          result := some none
          error := some (some (runtimeError message reasonCode)) }
      observation :=
        { type := "task.failed"
          occurredAt := clocks.runtime
          reasonCode := some reasonCode
          message := message
          substate := none
          source := .runtime
          payload := [("commandSequence", .num (toString sequence))] }
      eventKey := eventKey }
  pure ()

def rejectInputResponseAndFailTask (clocks : Clocks) (command : PendingCommandRecord)
    (reasonCode message : String) : Tx InputRejection := do
  let task ← lockTask
  requireClaimedUpdate command
  let rejection := task.inputRejection
  let code := rejection.commandCode reasonCode
  let state : CommandState := if rejection = .failed then .rejected else .exhausted
  let _ ← updateCommands
    (fun row => row.claimedBy command.commandSequence command.claimOwner)
    (CommandRow.settle state (some code)
      (some (if rejection = .failed then message
        else "Input response was superseded by task state.")))
  when (command.responseKeys ≠ [] ∧ rejection ≠ .taskTerminal) do
    supersedeOpenRequests command.responseKeys
  settleAssignedInbox command.commandSequence (if rejection = .failed then .failed else .ignored)
    (some (if rejection = .failed then "INPUT_RESPONSE_REJECTED" else code))
    (some (if rejection = .failed then "Input response was rejected."
      else "Input response was superseded by task state."))
  when (rejection = .failed) do
    failInput clocks task "Input response was rejected." "INPUT_RESPONSE_REJECTED"
      command.commandSequence (.inputRejected command.commandSequence)
  insertCommandFact command.commandSequence
    (if rejection = .failed then .rejected else .superseded) state command.attemptCount
  pure rejection

/-- Here the type of the command is not part of the claim that is checked. -/
def failInputResponseDelivery (clocks : Clocks) (command : PendingCommandRecord)
    (message : String) : Tx Unit := do
  let task ← lockTask
  let rejection := task.inputRejection
  let code := rejection.commandCode "INPUT_RESPONSE_DELIVERY_EXHAUSTED"
  changeClaimed command (fun _ => true) (CommandRow.settle .exhausted (some code) (some message))
  when (command.responseKeys ≠ [] ∧ rejection ≠ .taskTerminal) do
    supersedeOpenRequests command.responseKeys
  settleAssignedInbox command.commandSequence
    (if rejection = .failed then .failed else .ignored) (some code) (some message)
  when (rejection = .failed) do
    failInput clocks task "Input response delivery exhausted." "INPUT_RESPONSE_DELIVERY_EXHAUSTED"
      command.commandSequence (.inputDeliveryExhausted command.commandSequence)
  insertCommandFact command.commandSequence .exhausted .exhausted command.attemptCount

def requestsStillOpen (tables : TaskTables) (keys : List String) : Bool :=
  let requests := tables.inputRequests.filter fun row => keys.contains row.key
  requests.length == keys.length && requests.all fun row => row.status == .open

/-- The wait and the requests are checked again before the adapter is called. -/
def supersedeClaimedBusinessInputIfNoLongerCurrent (clocks : Clocks)
    (command : PendingCommandRecord) : Tx Bool := do
  if command.commandType ≠ .update ∨ command.businessKeys = [] then pure false
  else
    let task ← lockTask
    let tables ← read
    let taskStillWaiting := task.internalState == .inputRequired && !task.cancelRequested &&
      task.stopReason == none
    if taskStillWaiting ∧ requestsStillOpen tables command.businessKeys then pure false
    else
      let code := if taskStillWaiting then "BUSINESS_INPUT_REQUEST_SUPERSEDED"
        else task.supersedeReason "BUSINESS_INPUT_TASK_NOT_WAITING"
      let message := if taskStillWaiting then "Business input request is no longer open."
        else "Business input response was superseded by Task state."
      changeClaimed command isUpdate fun row =>
        { row.settle .exhausted (some code) (some message) with nextAttemptAt := clocks.database }
      when (taskStillWaiting = false ∧ command.responseKeys ≠ []) do
        supersedeOpenRequests command.responseKeys
      settleAssignedInbox command.commandSequence .ignored (some code) (some message)
      insertCommandFact command.commandSequence .superseded .exhausted command.attemptCount
      pure true

structure AssignedInput where
  key : String
  responseJson : Json
  requestJson : Json

/-- The first statement of `rejectClaimedPromotedInputIfPayloadMismatch`, on its own. -/
def assignedInputs (env : Environment) (sequence : Nat) : Tx (List AssignedInput) := do
  let tables ← read
  let rows := (tables.inbox.filter fun row =>
      row.commandSequence == some sequence && row.state == .assigned).insertionSort
    fun left right => env.collateLe left.key right.key = true
  return rows.filterMap fun row =>
    (tables.inputRequests.find? fun request => request.key == row.key).map fun request =>
      { key := row.key, responseJson := row.responseJson, requestJson := request.requestJson }

def expectedInput (row : AssignedInput) : Except Failure StoredInputResponse := do
  let stored ← decodeStoredInputResponse row.responseJson
  if (inputBusinessMetadata row.requestJson).isSome ∧ stored.verifiedResponder = none then
    .error (Failure.error "INPUT_RESPONSE_INBOX_INVALID")
  else .ok stored

/-- An assignment of a member to a fresh object; `__proto__` is not a member. -/
def assignFresh {α : Type} (key : String) (value : α) : List (String × α) :=
  if key = "__proto__" then [] else [(key, value)]

/-- Whether the payload of a promoted UPDATE differs from its inbox rows. -/
def promotedInputMismatch (payload : Json) (assigned : List AssignedInput) : Bool :=
  match assigned.mapM fun row => do return (row.key, ← expectedInput row) with
  | .error _ => true
  | .ok expected =>
    let responses := expected.flatMap fun row => assignFresh row.1 row.2.response
    let responders := expected.flatMap fun row =>
      match row.2.verifiedResponder with
      | some responder => assignFresh row.1 responder
      | none => []
    match payload.field? "inputResponses" with
    | some (.obj payloadResponses) =>
      !Json.same (.obj payloadResponses) (.obj responses) ||
        match payload.field? "verifiedResponders" with
        | none => !responders.isEmpty
        | some (.obj payloadResponders) =>
          !Json.same (.obj payloadResponders) (.obj responders)
        | some _ => true
    | _ => true

structure InputAnswer where
  key : String
  answerHash : String
  value : Json
  response : Json
  verifiedResponder : Option Json

inductive UpdateCompletion where
  | acknowledged
  | taskTerminal
  | supersededBySafeStop
  | businessInputNoLongerCurrentAfterAck
  deriving DecidableEq, Repr

def answerRequest (answer : InputAnswer) : Tx Unit := do
  let answered ← updateInputRequests
    (fun row => row.key == answer.key && row.status == .open)
    (fun row => { row with
      status := .answered
      answerHash := some answer.answerHash
      answer := some answer.value
      responseHash := some answer.answerHash
      responseJson := some answer.response })
  if answered ≠ 1 then abort (Failure.error "INPUT_REQUEST_NOT_OPEN") else pure ()

/-- The claim ends without an answer although the adapter took the response. -/
def exhaustAcknowledged (clocks : Clocks) (command : PendingCommandRecord)
    (ack : CommandAck) (code message : String) : Tx Unit :=
  changeClaimed command (fun _ => true) fun row =>
    { row.settle .exhausted (some code) (some message) with
      nextAttemptAt := clocks.database
      adapterAck := some ack }

def ignoreInputResponse (command : PendingCommandRecord) (code : String) : Tx Unit := do
  when (command.responseKeys ≠ []) do
    supersedeOpenRequests command.responseKeys
  settleAssignedInbox command.commandSequence .ignored (some code)
    (some "Input response was superseded by task state.")

/-- The answers are recorded, the input wait ends with the last of them, and the command is
acknowledged. -/
def completeInputAnswers (clocks : Clocks) (command : PendingCommandRecord)
    (task : TaskRecord) (ack : CommandAck) (answers : List InputAnswer) : Tx Unit := do
  forEach answers answerRequest
  settleAssignedInbox command.commandSequence .acknowledged none none
  let tables ← read
  let inputComplete := task.internalState == .inputRequired &&
    tables.inputRequests.all fun row => row.status != .open
  let _ ← transitionTask
    { expectedVersion := some task.version
      update :=
        if inputComplete then
          { internalState := some .running
            mcpStatus := some .working
            substate := some none
            statusMessage := some (some "Task input accepted; awaiting Provider observation.") }
        else {}
      observation :=
        { type := "task.input_answered"
          occurredAt := clocks.runtime
          reasonCode := some "INPUT_ANSWERED"
          message := "Task input was answered."
          substate := task.substate
          source := .runtime
          payload := [("keys", .arr ((answers.map InputAnswer.key).insertionSort
            (fun left right => Json.utf16 left ≤ Json.utf16 right) |>.map .str))] }
      eventKey := .inputAnswered command.commandSequence }
  changeClaimed command (fun _ => true) fun row =>
    { row.settle .acknowledged none none with adapterAck := some ack }
  insertCommandFact command.commandSequence .acknowledged .acknowledged command.attemptCount

def acknowledgeUpdateAndCompleteInputAnswers (clocks : Clocks) (command : PendingCommandRecord)
    (ack : CommandAck) (answers : List InputAnswer) : Tx UpdateCompletion := do
  let task ← lockTask
  requireClaimedUpdate command
  if isTerminalState task.internalState then
    exhaustAcknowledged clocks command ack "TASK_TERMINAL"
      "Task transitioned to terminal while command was in progress."
    ignoreInputResponse command "TASK_TERMINAL"
    insertCommandFact command.commandSequence .exhausted .exhausted command.attemptCount
    pure .taskTerminal
  else if task.isStopping then
    exhaustAcknowledged clocks command ack "SUPERSEDED_BY_SAFE_STOP"
      "Safe stop superseded the claimed command."
    ignoreInputResponse command "SUPERSEDED_BY_SAFE_STOP"
    insertCommandFact command.commandSequence .superseded .exhausted command.attemptCount
    pure .supersededBySafeStop
  else
    let tables ← read
    let taskStillWaiting := task.internalState == .inputRequired
    if command.businessKeys ≠ [] ∧
        (taskStillWaiting = false ∨ requestsStillOpen tables command.businessKeys = false) then
      let code := if taskStillWaiting then "BUSINESS_INPUT_REQUEST_SUPERSEDED"
        else "BUSINESS_INPUT_TASK_NOT_WAITING"
      let message := if taskStillWaiting then
          "Adapter accepted the response after its business input request was superseded."
        else "Adapter accepted the response after the Task left the business input wait."
      when (taskStillWaiting = false) do
        supersedeOpenRequests command.businessKeys
      exhaustAcknowledged clocks command ack code message
      settleAssignedInbox command.commandSequence .ignored (some code) (some message)
      insertCommandFact command.commandSequence .superseded .exhausted command.attemptCount
      pure .businessInputNoLongerCurrentAfterAck
    else
      completeInputAnswers clocks command task ack answers
      pure .acknowledged

end SdarRuntime
