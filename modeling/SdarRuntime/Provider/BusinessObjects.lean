import SdarRuntime.Library.Checks
import SdarRuntime.Provider.BusinessContract

/-!
The objects of a business Context and the commands that act on them: what their schemas accept,
how a version may follow another, and the checks behind the fence of a claim or a commit.
-/

namespace SdarRuntime.Business

open Except

structure DeviceExecutionContext where
  deviceId : String
  dataScopeKey : String
  bindingId : String
  smppServiceKey : String
  sourceSessionKey : String
  deriving DecidableEq

structure BoundExecutionScope where
  taskId : String
  executionId : String
  providerId : String
  resourceId : String
  operationName : String
  authorizationContextHash : String
  executionMode : String
  simulationId : String
  correlationId : String
  deviceContext : Option DeviceExecutionContext
  deriving DecidableEq

def BoundExecutionScope.key (scope : BoundExecutionScope) : String :=
  let device (field : DeviceExecutionContext → String) : Json :=
    (scope.deviceContext.map field).elim .null .str
  Json.stringify (.arr [
    .str scope.taskId, .str scope.executionId, .str scope.providerId, .str scope.resourceId,
    .str scope.operationName, .str scope.authorizationContextHash, .str scope.executionMode,
    .str scope.simulationId, .str scope.correlationId, device DeviceExecutionContext.deviceId,
    device DeviceExecutionContext.dataScopeKey, device DeviceExecutionContext.bindingId,
    device DeviceExecutionContext.smppServiceKey, device DeviceExecutionContext.sourceSessionKey])

def require (condition : Bool) (message : String) : Except String Unit :=
  if condition then .ok () else .error message

@[simp]
theorem require_eq_ok {condition : Bool} {message : String} {value : Unit} :
    require condition message = .ok value ↔ condition = true := by
  cases condition with
  | true => simp [require]
  | false => simp [require]

def assertBusinessIdentity (scope : BoundExecutionScope) (identity : TaskBusinessIdentity) :
    Except String Unit := do
  require identity.valid "ZodError"
  require (identity.taskId == scope.taskId && identity.executionId == scope.executionId &&
      identity.providerId == scope.providerId && identity.resourceId == scope.resourceId &&
      identity.operationName == scope.operationName &&
      identity.correlationId.all (· == scope.correlationId) &&
      identity.simulationId.all (· == scope.simulationId))
    "BUSINESS_SCOPE_IDENTITY_MISMATCH"

structure ContentRef where
  handle : String
  mediaType : String
  sizeBytes : Nat
  sha256 : String
  expiresAt : Option String
  deriving DecidableEq

/-- The content of an available artifact and its representations; `none` is inline. -/
abbrev ArtifactContents := List (Option ContentRef)

structure TaskArtifact where
  artifactId : String
  identity : TaskBusinessIdentity
  revision : Nat
  artifactType : String
  semantics : String
  availability : String
  reasonCode : Option String
  updatedAt : BusinessTime
  properties : Option (List (String × Json))
  contents : ArtifactContents

inductive ActionState where
  | requested
  | active
  | completed
  | failed
  | cancelled
  deriving DecidableEq

structure BusinessAction where
  actionId : String
  actionType : String
  identity : TaskBusinessIdentity
  revision : Nat
  state : ActionState
  actorType : String
  triggerOrigin : String
  requestedAt : Option BusinessTime
  startedAt : Option BusinessTime
  endedAt : Option BusinessTime
  endReason : Option String

inductive ResponseAction where
  | accept
  | decline
  | cancel
  deriving DecidableEq

structure InputResponse where
  action : ResponseAction
  value : Option Json

def InputResponse.toJson (response : InputResponse) : Json :=
  let action := match response.action with
    | .accept => "accept"
    | .decline => "decline"
    | .cancel => "cancel"
  .obj (("action", .str action) :: (response.value.map (Prod.mk "value")).toList)

inductive RequiredInputState where
  | pending
  | answered
  | declined
  | cancelled
  | expired
  deriving DecidableEq

inductive InputSubjectBinding where
  | visualLock (targetId lockSessionId : String) (actionRef : BusinessObjectRef)
  | artifactRevision (artifactRef : BusinessObjectRef)
  deriving DecidableEq

structure RequiredInput where
  requestId : String
  requestKey : String
  inputType : String
  identity : TaskBusinessIdentity
  revision : Nat
  state : RequiredInputState
  requiredResponder : String
  subjectBinding : InputSubjectBinding
  onExpire : String
  onDismiss : String
  onDecline : String
  inputSchema : Json
  requestedAt : BusinessTime
  deadlineAt : Option BusinessTime
  resolvedAt : Option BusinessTime
  responseCommandId : Option String
  response : Option InputResponse

inductive InterventionType where
  | navigationAdjustPlan
  | navigationChangeDestination
  | reconAdjustArea
  | reconAdjustScan
  | targetChangeVisualLock
  deriving DecidableEq

inductive InterventionState where
  | available
  | submitted
  | applying
  | applied
  | failed
  | expired
  | withdrawn
  deriving DecidableEq

structure RuntimeIntervention where
  interventionId : String
  interventionType : InterventionType
  identity : TaskBusinessIdentity
  revision : Nat
  effectivePlanRevision : Nat
  state : InterventionState
  inputSchema : Json
  appliesTo : Option (List BusinessObjectRef)
  reasonCode : String
  createdAt : BusinessTime
  validUntil : Option BusinessTime
  acceptedCommandId : Option String
  resultRefs : Option (List BusinessObjectRef)

inductive BusinessObjectVersion where
  | artifact (value : TaskArtifact)
  | action (value : BusinessAction)
  | inputRequest (value : RequiredInput)
  | intervention (value : RuntimeIntervention)

namespace BusinessObjectVersion

def businessObjectRef : BusinessObjectVersion → BusinessObjectRef
  | .artifact value => { kind := .artifact, id := value.artifactId, revision := value.revision }
  | .action value => { kind := .action, id := value.actionId, revision := value.revision }
  | .inputRequest value =>
    { kind := .inputRequest, id := value.requestId, revision := value.revision }
  | .intervention value =>
    { kind := .intervention, id := value.interventionId, revision := value.revision }

def identity : BusinessObjectVersion → TaskBusinessIdentity
  | .artifact value => value.identity
  | .action value => value.identity
  | .inputRequest value => value.identity
  | .intervention value => value.identity

def artifact? : BusinessObjectVersion → Option TaskArtifact
  | .artifact value => some value
  | _ => none

def inputRequest? : BusinessObjectVersion → Option RequiredInput
  | .inputRequest value => some value
  | _ => none

def intervention? : BusinessObjectVersion → Option RuntimeIntervention
  | .intervention value => some value
  | _ => none

end BusinessObjectVersion

/-- Libraries and code outside the task-business store: hashes, the schema of artifacts, the
compiler of JSON schemas, the reading of content bytes and the evidence of a trajectory. -/
structure Libraries where
  sha256 : String → String
  artifactSchema : TaskArtifact → Bool
  compilesAsSchema : Json → Bool
  hashBytes : List UInt8 → String
  parseJson : List UInt8 → Option Json
  buildProjectionEvidence : TaskArtifact → Json → Option Json → Except String Json

def isSha256 (text : String) : Bool :=
  text.toList.length == 64 &&
    text.toList.all fun char => char.isDigit || decide ('a' ≤ char ∧ char ≤ 'f')

def BusinessAction.valid (action : BusinessAction) : Bool :=
  isIdentifier action.actionId && action.identity.valid && 1 ≤ action.revision &&
    action.startedAt.all (fun started => action.requestedAt.all fun requested =>
      !started.before requested) &&
    action.endedAt.all (fun ended => (action.startedAt.or action.requestedAt).all fun earlier =>
      !ended.before earlier) &&
    (action.state != .requested || (action.requestedAt.isSome && action.startedAt.isNone &&
      action.endedAt.isNone && action.endReason.isNone)) &&
    (action.requestedAt.isSome || (action.actorType == "device" &&
      (action.triggerOrigin == "device_automatic" || action.triggerOrigin == "unknown"))) &&
    (action.state != .active || (action.startedAt.isSome && action.endedAt.isNone &&
      action.endReason.isNone)) &&
    (!(action.state ∈ [.completed, .failed, .cancelled]) || (action.endedAt.isSome &&
      action.endReason.isSome && (action.startedAt.or action.requestedAt).isSome)) &&
    (action.actionType != "sensor.visual_lock" ||
      action.endReason != some "VISUAL_LOCK_LOST" || action.state == .failed)

def RequiredInput.valid (request : RequiredInput) : Bool :=
  let action := request.response.map InputResponse.action
  isIdentifier request.requestId && isIdentifier request.requestKey && request.identity.valid &&
    1 ≤ request.revision && request.responseCommandId.all isIdentifier &&
    request.deadlineAt.all (fun deadline => request.requestedAt.before deadline) &&
    (request.state != .pending || (request.response.isNone && request.resolvedAt.isNone &&
      request.responseCommandId.isNone)) &&
    (request.state == .pending || request.resolvedAt.isSome) &&
    request.resolvedAt.all (fun resolved => !resolved.before request.requestedAt) &&
    (request.state != .answered || action == some .accept) &&
    (request.state != .declined || action == some .decline) &&
    (request.state != .expired || request.response.isNone) &&
    (request.state != .cancelled || action.all (· == .cancel)) &&
    request.response.isSome == request.responseCommandId.isSome

def RuntimeIntervention.valid (intervention : RuntimeIntervention) : Bool :=
  isIdentifier intervention.interventionId && intervention.identity.valid &&
    1 ≤ intervention.revision && isIdentifier intervention.reasonCode &&
    intervention.acceptedCommandId.all isIdentifier &&
    intervention.validUntil.all (fun until' => intervention.createdAt.before until') &&
    (intervention.state != .available || intervention.acceptedCommandId.isNone) &&
    (!(intervention.state ∈ [.submitted, .applying, .applied, .failed]) ||
      intervention.acceptedCommandId.isSome) &&
    (intervention.state != .applied || intervention.resultRefs.any (fun refs => !refs.isEmpty))

def parseBusinessObjectVersion (libraries : Libraries) (scope : BoundExecutionScope)
    (candidate : BusinessObjectVersion) : Except String BusinessObjectVersion := do
  match candidate with
  | .artifact value => require (libraries.artifactSchema value) "ZodError"
  | .action value => require value.valid "ZodError"
  | .inputRequest value => do
    require value.valid "ZodError"
    require (libraries.compilesAsSchema value.inputSchema) "INVALID_INPUT_SCHEMA"
  | .intervention value => do
    require value.valid "ZodError"
    require (libraries.compilesAsSchema value.inputSchema) "INVALID_INTERVENTION_SCHEMA"
  assertBusinessIdentity scope candidate.identity
  pure candidate

def parseBusinessContext (scope : BoundExecutionScope) (candidate : TaskBusinessContext) :
    Except String TaskBusinessContext := do
  require candidate.valid "ZodError"
  assertBusinessIdentity scope candidate.identity
  require (match candidate.summary.status with
      | .finalized => candidate.finalizedAt.isSome && candidate.activeRefs.entries.isEmpty
      | .inProgress => candidate.finalizedAt.isNone)
    "BUSINESS_CONTEXT_FINALIZATION_INVALID"
  pure candidate

theorem parseBusinessObjectVersion_eq_ok {libraries : Libraries} {scope : BoundExecutionScope}
    {candidate version : BusinessObjectVersion}
    (parsed : parseBusinessObjectVersion libraries scope candidate = .ok version) :
    version = candidate := by
  unfold parseBusinessObjectVersion at parsed
  cases candidate with
  | artifact value =>
    obtain ⟨_, -, parsed⟩ := bind_eq_ok.mp parsed
    obtain ⟨_, -, parsed⟩ := bind_eq_ok.mp parsed
    exact (pure_eq_ok.mp parsed).symm
  | action value =>
    obtain ⟨_, -, parsed⟩ := bind_eq_ok.mp parsed
    obtain ⟨_, -, parsed⟩ := bind_eq_ok.mp parsed
    exact (pure_eq_ok.mp parsed).symm
  | inputRequest value =>
    obtain ⟨_, -, parsed⟩ := bind_eq_ok.mp parsed
    obtain ⟨_, -, parsed⟩ := bind_eq_ok.mp parsed
    obtain ⟨_, -, parsed⟩ := bind_eq_ok.mp parsed
    exact (pure_eq_ok.mp parsed).symm
  | intervention value =>
    obtain ⟨_, -, parsed⟩ := bind_eq_ok.mp parsed
    obtain ⟨_, -, parsed⟩ := bind_eq_ok.mp parsed
    obtain ⟨_, -, parsed⟩ := bind_eq_ok.mp parsed
    exact (pure_eq_ok.mp parsed).symm

/-- A Context is final exactly when its summary says so, and has no active references then. -/
def TaskBusinessContext.finalizationAgrees (context : TaskBusinessContext) : Bool :=
  match context.summary.status with
  | .finalized => context.finalizedAt.isSome && context.activeRefs.entries.isEmpty
  | .inProgress => context.finalizedAt.isNone

theorem parseBusinessContext_eq_ok {scope : BoundExecutionScope}
    {candidate context : TaskBusinessContext}
    (parsed : parseBusinessContext scope candidate = .ok context) :
    context = candidate ∧ candidate.valid = true ∧ candidate.finalizationAgrees = true := by
  unfold parseBusinessContext at parsed
  obtain ⟨_, isValid, parsed⟩ := bind_eq_ok.mp parsed
  obtain ⟨_, -, parsed⟩ := bind_eq_ok.mp parsed
  obtain ⟨_, agrees, parsed⟩ := bind_eq_ok.mp parsed
  exact ⟨(pure_eq_ok.mp parsed).symm, require_eq_ok.mp isValid, require_eq_ok.mp agrees⟩

inductive BusinessCommandType where
  | inputResponse
  | intervention
  deriving DecidableEq

inductive BusinessCommandState where
  | accepted
  | applied
  | rejected
  deriving DecidableEq

inductive TrustedResponder where
  | authorizationContext (actorType : String)
  | developmentPolicy
  deriving DecidableEq

inductive InterventionGuard where
  | semantic (expectedInterventionRevision expectedEffectivePlanRevision : Nat)
  | legacyStrict (expectedContextRevision : Nat)
  deriving DecidableEq

structure RuntimeInterventionCommand where
  commandId : String
  taskId : String
  executionId : String
  interventionId : String
  guard : InterventionGuard
  input : List (String × Json)

def RuntimeInterventionCommand.semantic (request : RuntimeInterventionCommand) : Json :=
  let guard : Json := match request.guard with
    | .semantic expectedInterventionRevision expectedEffectivePlanRevision => .obj [
        ("mode", .str "semantic"),
        ("expectedInterventionRevision", .num (toString expectedInterventionRevision)),
        ("expectedEffectivePlanRevision", .num (toString expectedEffectivePlanRevision))]
    | .legacyStrict expectedContextRevision => .obj [
        ("mode", .str "legacy_strict"),
        ("expectedContextRevision", .num (toString expectedContextRevision))]
  .obj [
    ("schemaVersion", .str "sdar.runtime-intervention-command/1.0-rc2"),
    ("taskId", .str request.taskId),
    ("executionId", .str request.executionId),
    ("interventionId", .str request.interventionId),
    ("guard", guard),
    ("input", .obj request.input)]

def RuntimeInterventionCommand.same (left right : RuntimeInterventionCommand) : Bool :=
  left.commandId == right.commandId && Json.same left.semantic right.semantic

structure BusinessCommandRecord where
  commandId : String
  commandType : BusinessCommandType
  entryKey : Option String
  runtimeCommandSequence : Option String
  responder : Option TrustedResponder
  identity : TaskBusinessIdentity
  requestHash : String
  responseHash : Option String
  inputResponse : Option InputResponse
  interventionRequest : Option RuntimeInterventionCommand
  state : BusinessCommandState
  resultCode : Option String
  resultRefs : Option (List BusinessObjectRef)
  createdAt : BusinessTime
  updatedAt : BusinessTime

def taskBusinessInputResponseHash (libraries : Libraries) (response : InputResponse) : String :=
  libraries.sha256 (Json.canonicalize response.toJson)

def isRuntimeCommandSequence (text : String) : Bool :=
  match text.toList with
  | [] => false
  | first :: rest => '1' ≤ first && first ≤ '9' && rest.all Char.isDigit && rest.length ≤ 18

def BusinessCommandRecord.valid (libraries : Libraries) (command : BusinessCommandRecord) : Bool :=
  isIdentifier command.commandId && command.entryKey.all isIdentifier &&
    command.runtimeCommandSequence.all isRuntimeCommandSequence && command.identity.valid &&
    isSha256 command.requestHash && command.responseHash.all isSha256 &&
    command.resultCode.all isIdentifier &&
    command.resultRefs.all (fun refs => refs.all BusinessObjectRef.valid) &&
    command.interventionRequest.all (fun request =>
      command.commandType == .intervention && request.commandId == command.commandId &&
        request.taskId == command.identity.taskId &&
        request.executionId == command.identity.executionId &&
        command.entryKey == some ("intervention:" ++ request.interventionId) &&
        libraries.sha256 (Json.canonicalize request.semantic) == command.requestHash) &&
    (command.commandType == .inputResponse) == command.responseHash.isSome &&
    command.inputResponse.all (fun response => command.commandType == .inputResponse &&
      command.responseHash == some (taskBusinessInputResponseHash libraries response)) &&
    command.createdAt.millis ≤ command.updatedAt.millis &&
    (command.state != .accepted || (command.resultCode.isNone && command.resultRefs.isNone)) &&
    (command.state == .accepted || command.resultCode.isSome)

def parseBusinessCommandRecord (libraries : Libraries) (scope : BoundExecutionScope)
    (candidate : BusinessCommandRecord) : Except String BusinessCommandRecord := do
  require (candidate.valid libraries) "ZodError"
  assertBusinessIdentity scope candidate.identity
  pure candidate

theorem parseBusinessCommandRecord_eq_ok {libraries : Libraries} {scope : BoundExecutionScope}
    {candidate command : BusinessCommandRecord}
    (parsed : parseBusinessCommandRecord libraries scope candidate = .ok command) :
    command = candidate := by
  unfold parseBusinessCommandRecord at parsed
  obtain ⟨_, -, parsed⟩ := bind_eq_ok.mp parsed
  obtain ⟨_, -, parsed⟩ := bind_eq_ok.mp parsed
  exact (pure_eq_ok.mp parsed).symm

def ActionState.follows : ActionState → List ActionState
  | .requested => [.requested, .active, .failed, .cancelled]
  | .active => [.active, .completed, .failed, .cancelled]
  | .completed | .failed | .cancelled => []

def assertActionTransition (previous next : BusinessAction) : Except String Unit := do
  require next.valid "ZodError"
  require (sameExecution previous.identity next.identity && previous.actionId == next.actionId &&
      previous.actionType == next.actionType)
    "ACTION_IDENTITY_CHANGED"
  require (next.revision == previous.revision + 1) "ACTION_REVISION_CONFLICT"
  require (next.requestedAt == previous.requestedAt &&
      (previous.startedAt.isNone || next.startedAt == previous.startedAt))
    "ACTION_OBSERVATION_TIME_CHANGED"
  require (next.state ∈ previous.state.follows) "ACTION_STATE_TRANSITION_INVALID"

def assertRequiredInputTransition (previous next : RequiredInput) : Except String Unit := do
  require next.valid "ZodError"
  require (sameExecution previous.identity next.identity &&
      previous.requestId == next.requestId && previous.requestKey == next.requestKey &&
      previous.inputType == next.inputType)
    "INPUT_IDENTITY_CHANGED"
  require (next.revision == previous.revision + 1) "REQUEST_REVISION_CONFLICT"
  require (Json.same previous.inputSchema next.inputSchema &&
      previous.subjectBinding == next.subjectBinding &&
      previous.requiredResponder == next.requiredResponder &&
      previous.onExpire == next.onExpire && previous.onDismiss == next.onDismiss &&
      previous.onDecline == next.onDecline && previous.requestedAt == next.requestedAt &&
      previous.deadlineAt == next.deadlineAt)
    "NEW_REQUEST_REQUIRED"
  require (previous.state == .pending) "INPUT_STATE_TRANSITION_INVALID"

def InterventionState.follows : InterventionState → List InterventionState
  | .available => [.available, .submitted, .expired, .withdrawn]
  | .submitted => [.applying, .failed, .withdrawn]
  | .applying => [.applied, .failed, .withdrawn]
  | .applied | .failed | .expired | .withdrawn => []

def assertInterventionTransition (previous next : RuntimeIntervention) : Except String Unit := do
  require next.valid "ZodError"
  require (sameExecution previous.identity next.identity &&
      previous.interventionId == next.interventionId &&
      previous.interventionType == next.interventionType)
    "INTERVENTION_IDENTITY_CHANGED"
  require (next.revision == previous.revision + 1) "INTERVENTION_REVISION_CONFLICT"
  require (next.effectivePlanRevision == previous.effectivePlanRevision)
    "NEW_INTERVENTION_REQUIRED"
  require (Json.same previous.inputSchema next.inputSchema &&
      previous.appliesTo == next.appliesTo && previous.createdAt == next.createdAt &&
      previous.validUntil == next.validUntil)
    "NEW_INTERVENTION_REQUIRED"
  require (previous.acceptedCommandId.isNone ||
      next.acceptedCommandId == previous.acceptedCommandId)
    "INTERVENTION_COMMAND_CHANGED"
  require (next.state ∈ previous.state.follows) "INTERVENTION_STATE_TRANSITION_INVALID"

def assertTransition : BusinessObjectVersion → BusinessObjectVersion → Except String Unit
  | .artifact previous, .artifact next =>
    require (previous.artifactType == next.artifactType) "BUSINESS_ARTIFACT_TYPE_CHANGED"
  | .action previous, .action next => assertActionTransition previous next
  | .inputRequest previous, .inputRequest next => assertRequiredInputTransition previous next
  | .intervention previous, .intervention next => assertInterventionTransition previous next
  | _, _ => .ok ()

/-- The finite time of a clock, in milliseconds; an invalid `Date` has none. -/
abbrev Now := Option Int

def assertRequiredInputOpenAt (request : RequiredInput) (now : Now) : Except String Unit := do
  require request.valid "ZodError"
  require now.isSome "BUSINESS_COMMAND_TIME_INVALID"
  require (request.state == .pending) "INPUT_NOT_PENDING"
  require (request.deadlineAt.all fun deadline => now.any (· < deadline.millis))
    "INPUT_DEADLINE_EXPIRED"

def assertInterventionAvailableAt (intervention : RuntimeIntervention) (now : Now) :
    Except String Unit := do
  require intervention.valid "ZodError"
  require now.isSome "BUSINESS_COMMAND_TIME_INVALID"
  require (intervention.state == .available) "INTERVENTION_NOT_AVAILABLE"
  require (intervention.validUntil.all fun until' => now.any (· < until'.millis))
    "INTERVENTION_EXPIRED"

def assertBusinessCommandEntryCurrent (context : Option TaskBusinessContext)
    (expected : BusinessObjectRef) (commandType : BusinessCommandType) : Except String Unit := do
  require expected.valid "ZodError"
  match context with
  | none => .error "BUSINESS_ENTRY_NOT_CURRENT"
  | some context => do
    require (context.summary.status == .inProgress &&
        (commandType != .inputResponse || expected.kind == .inputRequest) &&
        (commandType != .intervention || expected.kind == .intervention))
      "BUSINESS_ENTRY_NOT_CURRENT"
    let history := if expected.kind = .inputRequest then context.requiredInputRefs
      else context.interventionRefs
    let latestRevision := ((history.filter fun item => item.id == expected.id).map
      BusinessObjectRef.revision).foldl max 0
    require (latestRevision == expected.revision &&
        context.activeRefs.values.any (· == expected))
      "BUSINESS_ENTRY_NOT_CURRENT"

/-- Rechecked behind the fence of the claim, with the entry's time limit. -/
def assertBusinessCommandEntryOpenAt (version : Option BusinessObjectVersion)
    (commandType : BusinessCommandType) (now : Now)
    (currentEffectivePlanRevision : Option Nat) : Except String Unit :=
  match commandType, version with
  | .inputResponse, some (.inputRequest value) => assertRequiredInputOpenAt value now
  | .intervention, some (.intervention value) => do
    assertInterventionAvailableAt value now
    require (some value.effectivePlanRevision == currentEffectivePlanRevision)
      "PLAN_REVISION_CONFLICT"
  | _, _ => .error "BUSINESS_ENTRY_NOT_CURRENT"

end SdarRuntime.Business
