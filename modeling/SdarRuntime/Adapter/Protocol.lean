import SdarRuntime.Domain.Task

/-!
The adapter protocol: the answers an adapter gives and the identity checks the
runtime makes before it uses one.
-/

namespace SdarRuntime

/-- The letters whose upper case is spelled with ASCII letters; the checks below compare
with ASCII texts only, so any other character may stand for itself. -/
private def upperChar (char : Char) : List Char :=
  if 'a'.toNat ≤ char.toNat ∧ char.toNat ≤ 'z'.toNat then [Char.ofNat (char.toNat - 32)]
  else match char.toNat with
    | 0xDF => ['S', 'S']
    | 0x131 => ['I']
    | 0x149 => [Char.ofNat 0x2BC, 'N']
    | 0x17F => ['S']
    | 0x1F0 => ['J', Char.ofNat 0x30C]
    | 0x1E96 => ['H', Char.ofNat 0x331]
    | 0x1E97 => ['T', Char.ofNat 0x308]
    | 0x1E98 => ['W', Char.ofNat 0x30A]
    | 0x1E99 => ['Y', Char.ofNat 0x30A]
    | 0x1E9A => ['A', Char.ofNat 0x2BE]
    | 0xFB00 => ['F', 'F']
    | 0xFB01 => ['F', 'I']
    | 0xFB02 => ['F', 'L']
    | 0xFB03 => ['F', 'F', 'I']
    | 0xFB04 => ['F', 'F', 'L']
    | 0xFB05 => ['S', 'T']
    | 0xFB06 => ['S', 'T']
    | _ => [char]

def toUpperCase (text : String) : List Char :=
  text.toList.flatMap upperChar

/-- `text.includes(part)` on character lists. -/
def includes (text part : List Char) : Bool :=
  match text with
  | [] => part.isEmpty
  | _ :: rest => part.isPrefixOf text || includes rest part

structure AdapterExecutionContext where
  authorizationContextHash : String
  executionMode : String
  simulationId : String

structure AdapterEvidencePayloadRef where
  kind : String
  jsonPointer : Option String
  uri : Option String
  mediaType : Option String
  sha256 : Option String

structure AdapterEvidenceItem where
  evidenceId : String
  evidenceType : String
  observedAt : String
  subjectRef : Option String
  payloadRef : Option AdapterEvidencePayloadRef
  producer : List String

structure AdapterInputRequest where
  key : String
  description : String
  inputSchema : Json
  required : Bool

structure McpTaskInputRequest where
  key : String
  method : String
  params : Json

structure ExecutionSnapshot where
  taskId : String
  externalExecutionId : String
  state : String
  revision : Nat
  reasonCode : String
  message : String
  retryable : Bool
  result : Option (List (String × Json))
  inputRequests : List AdapterInputRequest
  mcpInputRequests : List McpTaskInputRequest
  evidence : List AdapterEvidenceItem
  operationName : String
  argumentHash : String
  executionContext : Option AdapterExecutionContext

structure AcceptedStart where
  externalExecutionId : String
  initialSnapshot : ExecutionSnapshot

structure RejectedStart where
  reasonCode : String
  message : String
  retryable : Bool

structure StartOperationResponse where
  result : String
  accepted : Option AcceptedStart
  rejected : Option RejectedStart

structure ReconcileExecutionResponse where
  status : String
  snapshot : Option ExecutionSnapshot
  externalExecutionId : String
  reasonCode : String
  message : String
  retryable : Bool

structure CommandIdentity where
  taskId : String
  externalExecutionId : String
  operationName : String
  argumentHash : String
  executionContext : Option AdapterExecutionContext
  commandSequence : Nat

structure CommandAck where
  accepted : Bool
  reasonCode : String
  message : String
  commandSequence : Nat
  identity : Option CommandIdentity

structure ExpectedExecutionIdentity where
  taskId : String
  externalExecutionId : Option String
  operationName : String
  argumentHash : String
  authorizationContextHash : String
  executionMode : ExecutionMode
  simulationId : Option String

def normalizeMode (value : String) : List Char :=
  toUpperCase (String.ofList (value.toList.map fun char => if char = '-' then '_' else char))

def matchesContext (actual : Option AdapterExecutionContext)
    (expected : ExpectedExecutionIdentity) : Bool :=
  match actual with
  | none => false
  | some context =>
    context.authorizationContextHash == expected.authorizationContextHash &&
      normalizeMode context.executionMode == normalizeMode expected.executionMode.text &&
      (if context.simulationId = "" then none else some context.simulationId) ==
        expected.simulationId

def validateAdapterSnapshotIdentity (snapshot : ExecutionSnapshot)
    (expected : ExpectedExecutionIdentity) : Except Failure Unit :=
  if snapshot.taskId ≠ expected.taskId ∨
      snapshot.externalExecutionId = "" ∨
      (∃ id ∈ expected.externalExecutionId, snapshot.externalExecutionId ≠ id) ∨
      snapshot.operationName ≠ expected.operationName ∨
      snapshot.argumentHash ≠ expected.argumentHash ∨
      matchesContext snapshot.executionContext expected = false then
    .error (Failure.error "ADAPTER_SNAPSHOT_IDENTITY_MISMATCH")
  else .ok ()

def validateCommandAckIdentity (ack : CommandAck) (expected : ExpectedExecutionIdentity)
    (commandSequence : Nat) : Except Failure Unit :=
  let mismatch : Except Failure Unit :=
    .error (Failure.error "ADAPTER_COMMAND_ACK_IDENTITY_MISMATCH")
  match ack.identity with
  | none => mismatch
  | some identity =>
    if ack.commandSequence ≠ commandSequence ∨
        identity.taskId ≠ expected.taskId ∨
        identity.externalExecutionId = "" ∨
        (∃ id ∈ expected.externalExecutionId, identity.externalExecutionId ≠ id) ∨
        identity.operationName ≠ expected.operationName ∨
        identity.argumentHash ≠ expected.argumentHash ∨
        identity.commandSequence ≠ commandSequence ∨
        matchesContext identity.executionContext expected = false then
      mismatch
    else .ok ()

def isIdentityError (failure : Failure) : Bool :=
  includes failure.message.toList "IDENTITY_MISMATCH".toList

/-- `/TRANSIENT|RETRY|UNAVAILABLE|TIMEOUT/` on the upper-cased code. -/
def isRetryableAck (reasonCode : String) : Bool :=
  ["TRANSIENT", "RETRY", "UNAVAILABLE", "TIMEOUT"].any fun part =>
    includes (toUpperCase reasonCode) part.toList

structure NewInputRequest where
  key : String
  description : String
  schema : Json
  required : Bool
  requestJson : Json

private def elicitation (params : Json) : Json :=
  .obj [("method", .str "elicitation/create"), ("params", params)]

private def frozenInputRequest (request : McpTaskInputRequest) :
    Except Failure NewInputRequest :=
  if request.method ≠ "elicitation/create" then
    .error (Failure.error "ADAPTER_MRTR_METHOD_UNSUPPORTED")
  else .ok
    { key := request.key
      description := ((request.params.field? "message").bind Json.text?).getD "Input required"
      schema := match request.params.field? "requestedSchema" with
        | some (.obj schema) => .obj schema
        | _ => .obj []
      required := true
      requestJson := elicitation request.params }

private def legacyInputRequest (request : AdapterInputRequest) : NewInputRequest :=
  { key := request.key
    description := request.description
    schema := request.inputSchema
    required := request.required
    requestJson := elicitation (.obj [
      ("mode", .str "form"),
      ("message", .str request.description),
      ("requestedSchema", request.inputSchema)]) }

def normalizeInputRequests (snapshot : ExecutionSnapshot) :
    Except Failure (List NewInputRequest) :=
  if snapshot.mcpInputRequests ≠ [] ∧ snapshot.inputRequests ≠ [] then
    .error (Failure.error "ADAPTER_MRTR_WIRE_MIXED")
  else if snapshot.mcpInputRequests ≠ [] then
    snapshot.mcpInputRequests.mapM frozenInputRequest
  else .ok (snapshot.inputRequests.map legacyInputRequest)

inductive OperationExecution where
  | synchronous
  | taskCapable
  | taskRequired
  deriving DecidableEq, Repr

structure OperationCapabilities where
  cancel : Bool
  pauseResume : Bool
  inputRequired : Bool

/-- A registered operation. `validateOutput` is the compiled output schema. -/
structure ValidatedOperation where
  name : String
  execution : OperationExecution
  capabilities : OperationCapabilities
  validateOutput : Json → Except Failure Unit

end SdarRuntime
