import SdarRuntime.Library.OrderedMap
import SdarRuntime.Library.Histories

/-!
The registration of one Runtime instance. A registration opens a session and heartbeats carry it
on; what was accepted is kept in two rows, of which the process row is also written by the
reconciler that records the health of the process.
-/

namespace SdarRuntime

namespace Registration

inductive RuntimeReadiness where
  | ready
  | notReady
  deriving DecidableEq

structure ExpectedRuntimeInstance where
  providerId : String
  deploymentId : String
  instanceId : String
  runtimeVersion : String
  protocolVersion : String
  deriving DecidableEq

structure RuntimeRegistrationRequest extends ExpectedRuntimeInstance where
  sessionId : String
  configRevision : Int
  readinessState : RuntimeReadiness
  deriving DecidableEq

structure RuntimeHeartbeatRequest extends RuntimeRegistrationRequest where
  sequence : Int
  deriving DecidableEq

structure RuntimeRegistrationSnapshot extends RuntimeRegistrationRequest where
  heartbeatSequence : Int
  registeredAt : Int
  lastHeartbeatAt : Int
  expiresAt : Int
  revision : Int
  deriving DecidableEq

inductive MutationOutcome where
  | created
  | updated
  | unchanged
  deriving DecidableEq

structure RuntimeRegistrationMutation where
  outcome : MutationOutcome
  registration : RuntimeRegistrationSnapshot
  deriving DecidableEq

inductive RegistrationFailure where
  | rejected (code : String) (field : Option String)
  | thrown (message : String)
  deriving DecidableEq

abbrev Checked := Except RegistrationFailure

def invalid (field : String) : RegistrationFailure :=
  .rejected "RUNTIME_REGISTRATION_INVALID_REQUEST" (some field)

def require (condition : Bool) (failure : RegistrationFailure) : Checked Unit :=
  if condition then .ok () else .error failure

private def digit (char : Char) : Bool :=
  '0' ≤ char && char ≤ '9'

private def letterOrDigit (char : Char) : Bool :=
  digit char || 'A' ≤ char && char ≤ 'Z' || 'a' ≤ char && char ≤ 'z'

/-- A letter or digit, and then at most so many characters of a set. -/
private def wordOf (extra : List Char) (bound : Nat) : List Char → Bool
  | [] => false
  | first :: rest =>
    letterOrDigit first && decide (rest.length ≤ bound) &&
      rest.all fun char => letterOrDigit char || extra.contains char

def isIdentifier (text : String) : Bool :=
  wordOf ['.', '_', ':', '-'] 127 text.toList

def isProtocolVersion (text : String) : Bool :=
  wordOf ['.', '_', '-'] 63 text.toList

private def number (text : List Char) : Option (List Char) :=
  if (text.takeWhile digit).isEmpty then none else some (text.dropWhile digit)

private def dotted (text : List Char) : Option (List Char) :=
  match text with
  | '.' :: rest => number rest
  | _ => none

/-- Three numbers with dots between, and perhaps a hyphen and a label. -/
def isVersion (text : String) : Bool :=
  match ((number text.toList).bind dotted).bind dotted with
  | some [] => true
  | some ('-' :: label) =>
    !label.isEmpty && label.all fun char => letterOrDigit char || char == '.' || char == '-'
  | _ => false

def nonNegativeInteger (value : Int) : Bool :=
  decide (0 ≤ value ∧ value ≤ 9007199254740991)

def validateExpected (value : ExpectedRuntimeInstance) : Checked Unit := do
  require (isIdentifier value.providerId) (invalid "providerId")
  require (isIdentifier value.deploymentId) (invalid "deploymentId")
  require (isIdentifier value.instanceId) (invalid "instanceId")
  require (isVersion value.runtimeVersion) (invalid "runtimeVersion")
  require (isProtocolVersion value.protocolVersion) (invalid "protocolVersion")

def validateRegistrationRequest (value : RuntimeRegistrationRequest) : Checked Unit := do
  validateExpected value.toExpectedRuntimeInstance
  require (isIdentifier value.sessionId) (invalid "sessionId")
  require (nonNegativeInteger value.configRevision) (invalid "configRevision")

def validateHeartbeatRequest (value : RuntimeHeartbeatRequest) : Checked Unit := do
  validateRegistrationRequest value.toRuntimeRegistrationRequest
  require (nonNegativeInteger value.sequence) (invalid "sequence")

def validateSnapshot (value : RuntimeRegistrationSnapshot) : Checked Unit := do
  validateRegistrationRequest value.toRuntimeRegistrationRequest
  require (nonNegativeInteger value.heartbeatSequence && nonNegativeInteger value.revision &&
    decide (value.registeredAt ≤ value.lastHeartbeatAt) &&
    decide (value.lastHeartbeatAt < value.expiresAt)) (invalid "snapshot")

def validateServerInput (heartbeatTtlMs : Int) : Checked Unit :=
  require (decide (1000 ≤ heartbeatTtlMs ∧ heartbeatTtlMs ≤ 300000)) (invalid "heartbeatTtlMs")

def assertExpected (expected actual : ExpectedRuntimeInstance) : Checked Unit := do
  require (actual.providerId == expected.providerId)
    (.rejected "RUNTIME_REGISTRATION_IDENTITY_MISMATCH" (some "providerId"))
  require (actual.deploymentId == expected.deploymentId)
    (.rejected "RUNTIME_REGISTRATION_IDENTITY_MISMATCH" (some "deploymentId"))
  require (actual.instanceId == expected.instanceId)
    (.rejected "RUNTIME_REGISTRATION_IDENTITY_MISMATCH" (some "instanceId"))
  require (actual.runtimeVersion == expected.runtimeVersion)
    (.rejected "RUNTIME_REGISTRATION_VERSION_MISMATCH" (some "runtimeVersion"))
  require (actual.protocolVersion == expected.protocolVersion)
    (.rejected "RUNTIME_REGISTRATION_PROTOCOL_MISMATCH" (some "protocolVersion"))

def requireExpected (value : Option ExpectedRuntimeInstance) : Checked ExpectedRuntimeInstance :=
  match value with
  | none => .error (.rejected "RUNTIME_REGISTRATION_EXPECTED_INSTANCE_NOT_FOUND" none)
  | some expected => .ok expected

def registrationPayloadEqual (current : RuntimeRegistrationSnapshot)
    (request : RuntimeRegistrationRequest) : Bool :=
  decide (current.toRuntimeRegistrationRequest = request)

def heartbeatPayloadEqual (current : RuntimeRegistrationSnapshot)
    (request : RuntimeHeartbeatRequest) : Bool :=
  registrationPayloadEqual current request.toRuntimeRegistrationRequest &&
    decide (current.heartbeatSequence = request.sequence)

def opened (current : Option RuntimeRegistrationSnapshot) (request : RuntimeRegistrationRequest)
    (receivedAt heartbeatTtlMs : Int) : RuntimeRegistrationMutation := {
  outcome := if current.isNone then .created else .updated
  registration := {
    toRuntimeRegistrationRequest := request
    heartbeatSequence := 0
    registeredAt := receivedAt
    lastHeartbeatAt := receivedAt
    expiresAt := receivedAt + heartbeatTtlMs
    revision := (current.elim (-1) fun snapshot => snapshot.revision) + 1
  }
}

def registerRuntime (expected : Option ExpectedRuntimeInstance)
    (current : Option RuntimeRegistrationSnapshot) (request : RuntimeRegistrationRequest)
    (receivedAt heartbeatTtlMs : Int) : Checked RuntimeRegistrationMutation := do
  let resolvedExpected ← requireExpected expected
  validateExpected resolvedExpected
  validateRegistrationRequest request
  validateServerInput heartbeatTtlMs
  assertExpected resolvedExpected request.toExpectedRuntimeInstance
  match current with
  | none => .ok (opened none request receivedAt heartbeatTtlMs)
  | some snapshot =>
    validateSnapshot snapshot
    assertExpected resolvedExpected snapshot.toExpectedRuntimeInstance
    if snapshot.sessionId = request.sessionId then
      if registrationPayloadEqual snapshot request then
        .ok { outcome := .unchanged, registration := snapshot }
      else .error (.rejected "RUNTIME_REGISTRATION_REPLAY_CONFLICT" none)
    else .ok (opened (some snapshot) request receivedAt heartbeatTtlMs)

def carriedOn (current : RuntimeRegistrationSnapshot) (request : RuntimeHeartbeatRequest)
    (receivedAt heartbeatTtlMs : Int) : RuntimeRegistrationMutation := {
  outcome := .updated
  registration := {
    toRuntimeRegistrationRequest := request.toRuntimeRegistrationRequest
    heartbeatSequence := request.sequence
    registeredAt := current.registeredAt
    lastHeartbeatAt := receivedAt
    expiresAt := receivedAt + heartbeatTtlMs
    revision := current.revision + 1
  }
}

def continueSession (current : RuntimeRegistrationSnapshot) (request : RuntimeHeartbeatRequest)
    (receivedAt heartbeatTtlMs : Int) : Checked RuntimeRegistrationMutation :=
  if current.sessionId ≠ request.sessionId then
    .error (.rejected "RUNTIME_REGISTRATION_SESSION_MISMATCH" (some "sessionId"))
  else if request.sequence < current.heartbeatSequence then
    .error (.rejected "RUNTIME_HEARTBEAT_SEQUENCE_STALE" (some "sequence"))
  else if request.sequence = current.heartbeatSequence then
    if heartbeatPayloadEqual current request then
      .ok { outcome := .unchanged, registration := current }
    else .error (.rejected "RUNTIME_REGISTRATION_REPLAY_CONFLICT" none)
  else if receivedAt < current.lastHeartbeatAt then
    .error (.rejected "RUNTIME_HEARTBEAT_CLOCK_INVALID" none)
  else .ok (carriedOn current request receivedAt heartbeatTtlMs)

def acceptRuntimeHeartbeat (expected : Option ExpectedRuntimeInstance)
    (current : Option RuntimeRegistrationSnapshot) (request : RuntimeHeartbeatRequest)
    (receivedAt heartbeatTtlMs : Int) : Checked RuntimeRegistrationMutation := do
  let resolvedExpected ← requireExpected expected
  validateExpected resolvedExpected
  validateHeartbeatRequest request
  validateServerInput heartbeatTtlMs
  assertExpected resolvedExpected request.toExpectedRuntimeInstance
  match current with
  | none => .error (.rejected "RUNTIME_HEARTBEAT_NOT_REGISTERED" none)
  | some snapshot =>
    validateSnapshot snapshot
    assertExpected resolvedExpected snapshot.toExpectedRuntimeInstance
    continueSession snapshot request receivedAt heartbeatTtlMs

inductive ProcessState where
  | missing
  | starting
  | online
  | stopping
  | stopped
  | errored
  deriving DecidableEq

/-- What of the process row registrations, heartbeats and health recordings read or write. -/
structure RuntimeProcessRow where
  processState : ProcessState
  live : Option Bool
  readinessState : Option RuntimeReadiness
  registered : Bool
  lastHeartbeatAt : Option Int
  runtimeVersion : Option String
  configRevision : Option Int
  observedRevision : Nat
  deriving DecidableEq

structure RuntimeRegistrationRow where
  sessionId : String
  protocolVersion : String
  heartbeatSequence : Int
  registeredAt : Int
  lastHeartbeatAt : Int
  expiresAt : Int
  revision : Int
  deriving DecidableEq

def readSnapshot (deployment : ExpectedRuntimeInstance) (process : RuntimeProcessRow)
    (row : RuntimeRegistrationRow) : Checked RuntimeRegistrationSnapshot :=
  match process.runtimeVersion, process.readinessState with
  | none, _ => .error (.thrown "RUNTIME_REGISTRATION_SNAPSHOT_INCOMPLETE")
  | some _, none => .error (.thrown "RUNTIME_REGISTRATION_SNAPSHOT_READINESS_INVALID")
  | some runtimeVersion, some readinessState => .ok {
      providerId := deployment.providerId
      deploymentId := deployment.deploymentId
      instanceId := deployment.instanceId
      runtimeVersion := runtimeVersion
      protocolVersion := row.protocolVersion
      sessionId := row.sessionId
      configRevision := process.configRevision.getD 0
      readinessState := readinessState
      heartbeatSequence := row.heartbeatSequence
      registeredAt := row.registeredAt
      lastHeartbeatAt := row.lastHeartbeatAt
      expiresAt := row.expiresAt
      revision := row.revision
    }

def record (value : RuntimeRegistrationSnapshot) : RuntimeRegistrationRow := {
  sessionId := value.sessionId
  protocolVersion := value.protocolVersion
  heartbeatSequence := value.heartbeatSequence
  registeredAt := value.registeredAt
  lastHeartbeatAt := value.lastHeartbeatAt
  expiresAt := value.expiresAt
  revision := value.revision
}

def validateRecordInput (value : RuntimeRegistrationRow) : Checked Unit := do
  require (decide (value.registeredAt ≤ value.lastHeartbeatAt))
    (.thrown "RUNTIME_REGISTRATION_LAST_HEARTBEAT_INVALID")
  require (decide (value.lastHeartbeatAt < value.expiresAt))
    (.thrown "RUNTIME_REGISTRATION_EXPIRES_AT_INVALID")
  require (nonNegativeInteger value.heartbeatSequence)
    (.thrown "RUNTIME_REGISTRATION_HEARTBEAT_SEQUENCE_INVALID")
  require (nonNegativeInteger value.revision) (.thrown "RUNTIME_REGISTRATION_REVISION_INVALID")

def projected (process : RuntimeProcessRow) (registration : RuntimeRegistrationSnapshot) :
    RuntimeProcessRow := {
  process with
  registered := true
  readinessState := some registration.readinessState
  lastHeartbeatAt := some registration.lastHeartbeatAt
  runtimeVersion := some registration.runtimeVersion
  configRevision := some registration.configRevision
  observedRevision := process.observedRevision + 1
}

inductive RuntimeRequest where
  | register (request : RuntimeRegistrationRequest)
  | heartbeat (request : RuntimeHeartbeatRequest)
  deriving DecidableEq

namespace RuntimeRequest

def registration : RuntimeRequest → RuntimeRegistrationRequest
  | .register request => request
  | .heartbeat request => request.toRuntimeRegistrationRequest

def action : RuntimeRequest → String
  | .register _ => "runtime.register"
  | .heartbeat _ => "runtime.heartbeat"

/-- The heartbeat number a session has once the request is accepted. -/
def sequence : RuntimeRequest → Int
  | .register _ => 0
  | .heartbeat request => request.sequence

def mutate (request : RuntimeRequest) (expected : Option ExpectedRuntimeInstance)
    (current : Option RuntimeRegistrationSnapshot) (receivedAt heartbeatTtlMs : Int) :
    Checked RuntimeRegistrationMutation :=
  match request with
  | .register request => registerRuntime expected current request receivedAt heartbeatTtlMs
  | .heartbeat request =>
    acceptRuntimeHeartbeat expected current request receivedAt heartbeatTtlMs

end RuntimeRequest

inductive AuditOutcome where
  | applied (outcome : MutationOutcome) (revision : Int)
  | rejected (reasonCode : String)
  deriving DecidableEq

structure RegistrationAudit where
  action : String
  outcome : AuditOutcome
  deriving DecidableEq

structure Accepted where
  request : RuntimeRequest
  receivedAt : Int
  deriving DecidableEq

/-- One instance: its rows and audit, the health recordings under way with the row each has read,
and the accepted requests so far, the newest first. -/
structure RegistrationSystem where
  deployment : ExpectedRuntimeInstance
  heartbeatTtlMs : Int
  process : RuntimeProcessRow
  registration : Option RuntimeRegistrationRow
  audit : List RegistrationAudit
  recorders : OrderedMap Nat RuntimeProcessRow
  accepted : List Accepted

namespace RegistrationSystem

def inScope (system : RegistrationSystem) (request : RuntimeRegistrationRequest) : Bool :=
  request.providerId == system.deployment.providerId &&
    request.deploymentId == system.deployment.deploymentId &&
    request.instanceId == system.deployment.instanceId

def current (system : RegistrationSystem) : Checked (Option RuntimeRegistrationSnapshot) :=
  match system.registration with
  | none => .ok none
  | some row => (readSnapshot system.deployment system.process row).map some

def write (system : RegistrationSystem) (request : RuntimeRequest) (receivedAt : Int)
    (result : RuntimeRegistrationMutation) : RegistrationSystem := {
  system with
  registration := some (record result.registration)
  process := projected system.process result.registration
  audit := system.audit ++ [{
    action := request.action
    outcome := .applied result.outcome result.registration.revision }]
  accepted := { request := request, receivedAt := receivedAt } :: system.accepted
}

/-- One transaction. It holds the rows from its first read of them on. -/
def transaction (system : RegistrationSystem) (request : RuntimeRequest) (receivedAt : Int) :
    Checked (RuntimeRegistrationMutation × RegistrationSystem) := do
  if system.inScope request.registration then
    let current ← system.current
    let result ← request.mutate (some system.deployment) current receivedAt system.heartbeatTtlMs
    if result.outcome = .unchanged then .ok (result, system)
    else
      validateRecordInput (record result.registration)
      .ok (result, system.write request receivedAt result)
  else
    let result ← request.mutate none none receivedAt system.heartbeatTtlMs
    .ok (result, system)

/-- The answer to a request and what is left; a rejection is audited where that succeeds. -/
def execute (system : RegistrationSystem) (request : RuntimeRequest) (receivedAt : Int)
    (auditStored : Bool) : Checked RuntimeRegistrationMutation × RegistrationSystem :=
  match system.transaction request receivedAt with
  | .ok (result, later) => (.ok result, later)
  | .error (.rejected code field) =>
    (.error (.rejected code field),
      if auditStored then
        { system with
          audit := system.audit ++ [{
            action := request.action
            outcome := .rejected code }] }
      else system)
  | .error (.thrown message) => (.error (.thrown message), system)

structure HealthResult where
  processState : ProcessState
  live : Bool
  ready : Bool

def observed (process : RuntimeProcessRow) (result : HealthResult) : RuntimeProcessRow := {
  process with
  processState := result.processState
  live := some result.live
  readinessState := some (if result.ready then .ready else .notReady)
}

/-- `upsert` of the row a recording has read, changed by what it observed. -/
def saveHealth (system : RegistrationSystem) (loaded : RuntimeProcessRow)
    (result : HealthResult) : RegistrationSystem :=
  if observed loaded result = loaded then system
  else if system.process.observedRevision = loaded.observedRevision then
    { system with
      process := {
        observed loaded result with
        observedRevision := loaded.observedRevision + 1 } }
  else system

inductive Event where
  | receive (request : RuntimeRequest) (receivedAt : Int) (auditStored : Bool)
  | loadHealth (recorder : Nat)
  | saveHealth (recorder : Nat) (result : HealthResult)

def next (system : RegistrationSystem) (event : Event) : RegistrationSystem :=
  match event with
  | .receive request receivedAt auditStored =>
    (system.execute request receivedAt auditStored).2
  | .loadHealth recorder =>
    { system with recorders := system.recorders.set recorder system.process }
  | .saveHealth recorder result =>
    match system.recorders.get? recorder with
    | none => system
    | some loaded => system.saveHealth loaded result

def initial (deployment : ExpectedRuntimeInstance) (heartbeatTtlMs : Int)
    (process : RuntimeProcessRow) : RegistrationSystem := {
  deployment := deployment
  heartbeatTtlMs := heartbeatTtlMs
  process := process
  registration := none
  audit := []
  recorders := OrderedMap.empty
  accepted := []
}

end RegistrationSystem

end Registration

end SdarRuntime
