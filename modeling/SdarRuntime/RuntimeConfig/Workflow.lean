import SdarRuntime.Configuration.Publication

/-!
A Runtime that keeps its configuration in step with the configuration service. One sync delivers
the queued acknowledgements, asks for the latest revision, applies it, keeps it as the last known
good one and queues an acknowledgement. A crash or a failing file ends a sync at any point; the
last known good document and the queue outlive it.
-/

namespace SdarRuntime

namespace RuntimeConfig

open Configuration (ConfigRevision ConfigurationApplyMode ConfigurationCenterError)

structure RuntimeConfigTarget where
  environment : String
  deploymentId : String
  instanceId : String
  configGroup : String
  dataId : String
  deriving DecidableEq

structure RuntimeConfigIdentity where
  environment : String
  deploymentId : String
  instanceId : String
  providerId : String
  deriving DecidableEq

inductive SourceTargetType where
  | runtimeDeployment
  | runtimeInstance
  deriving DecidableEq

structure RuntimeConfigDocument where
  revisionId : String
  revision : Nat
  checksum : String
  applyMode : ConfigurationApplyMode
  sourceTargetType : SourceTargetType
  identity : RuntimeConfigIdentity
  content : List (String × Json)

structure RuntimeConfigCacheArtifact where
  etag : String
  document : RuntimeConfigDocument

inductive RuntimeConfigAckStatus where
  | applied
  | rejected
  | restartRequired
  | stale
  | unavailable
  deriving DecidableEq

structure RuntimeConfigAcknowledgement where
  revisionId : String
  status : RuntimeConfigAckStatus
  appliedChecksum : Option String
  reasonCode : Option String
  deriving DecidableEq

structure RuntimeConfigAckOutboxRecord where
  target : RuntimeConfigTarget
  acknowledgement : RuntimeConfigAcknowledgement
  deriving DecidableEq

/-- A revision that is or was published for the Runtime's instance or deployment. -/
structure PublishedRevision where
  row : ConfigRevision
  sourceTargetType : SourceTargetType
  secretPaths : List String

structure ConfigurationService where
  revisions : List PublishedRevision
  latest : Option PublishedRevision
  acks : List RuntimeConfigAcknowledgement

private def hexadecimal (char : Char) : Bool :=
  ('0' ≤ char && char ≤ '9') || ('a' ≤ char && char ≤ 'f')

/-- `/^[0-9a-f]{64}$/` -/
def isChecksum (text : String) : Bool :=
  decide (text.toList.length = 64) && text.toList.all hexadecimal

/-- `/^[A-Z][A-Z0-9_]{0,127}$/` -/
def isReasonCode (text : String) : Bool :=
  let upper (char : Char) : Bool := 'A' ≤ char && char ≤ 'Z'
  match text.toList with
  | [] => false
  | first :: rest =>
    upper first && decide (rest.length ≤ 127) &&
      rest.all fun char => upper char || ('0' ≤ char && char ≤ '9') || char == '_'

namespace ConfigurationService

def revision? (service : ConfigurationService) (revisionId : String) : Option PublishedRevision :=
  service.revisions.find? fun revision => revision.row.revisionId == revisionId

def publish (service : ConfigurationService) (revision : PublishedRevision) :
    ConfigurationService :=
  if (service.revision? revision.row.revisionId).isSome then service
  else { service with
    revisions := service.revisions ++ [revision]
    latest := some revision }

def revisionNotFound : ConfigurationCenterError := {
  code := "RUNTIME_CONFIG_ACK_REVISION_NOT_FOUND"
  message := "The acknowledged Runtime configuration revision does not exist"
}

def ackInvalid : ConfigurationCenterError := {
  code := "RUNTIME_CONFIG_ACK_INVALID"
  message := "Runtime acknowledgement is invalid"
}

def ackConflict : ConfigurationCenterError := {
  code := "RUNTIME_CONFIG_ACK_CONFLICT"
  message := "The Runtime instance already acknowledged this revision differently"
}

def validateAck (input : RuntimeConfigAcknowledgement) (revision : ConfigRevision) :
    Except ConfigurationCenterError Unit := do
  Configuration.ConfigurationCenter.check
    (input.status != .applied || input.appliedChecksum == some revision.checksum) ackInvalid
  Configuration.ConfigurationCenter.check (input.appliedChecksum.all isChecksum) ackInvalid
  Configuration.ConfigurationCenter.check
    ((input.status != .rejected && input.status != .unavailable) ||
      input.reasonCode.any isReasonCode) ackInvalid
  Configuration.ConfigurationCenter.check (input.reasonCode.all isReasonCode) ackInvalid

/-- `acknowledge`, for the one instance the Runtime is. -/
def acknowledge (service : ConfigurationService) (input : RuntimeConfigAcknowledgement) :
    Except ConfigurationCenterError ConfigurationService :=
  match service.revision? input.revisionId with
  | none => .error revisionNotFound
  | some revision =>
    match validateAck input revision.row with
    | .error error => .error error
    | .ok _ =>
      match service.acks.find? fun ack => ack.revisionId == input.revisionId with
      | some existing => if existing = input then .ok service else .error ackConflict
      | none => .ok { service with acks := service.acks ++ [input] }

end ConfigurationService

def quoted (checksum : String) : String :=
  "\"" ++ checksum ++ "\""

private def isBlank (char : Char) : Bool :=
  char == ' ' || char == '\t' || char == '\n' || char == '\r'

private def trim (text : List Char) : List Char :=
  ((text.dropWhile isBlank).reverse.dropWhile isBlank).reverse

private def withoutWeak : List Char → List Char
  | 'W' :: '/' :: rest => rest
  | text => text

private def withoutQuote : List Char → List Char
  | '"' :: rest => rest
  | text => text

def normalizeEtag (value : String) : String :=
  String.ofList (withoutQuote (withoutQuote (withoutWeak (trim value.toList))).reverse).reverse

private def splitComma : List Char → List (List Char)
  | [] => [[]]
  | ',' :: rest => [] :: splitComma rest
  | char :: rest =>
    match splitComma rest with
    | [] => [[char]]
    | item :: items => (char :: item) :: items

/-- The service's test of an `If-None-Match` header. -/
def etagMatches (value checksum : String) : Bool :=
  (splitComma value.toList).any fun candidate =>
    let normalized := String.ofList (withoutWeak (trim candidate))
    normalized == "*" || normalized == quoted checksum || normalized == checksum

private def identityFields : List String := [
  "PROVIDER_ID", "PMS_DEPLOYMENT_ID", "DEPLOYMENT_ID", "PMS_INSTANCE_ID", "INSTANCE_ID",
  "OTEL_SERVICE_INSTANCE_ID"
]

def projectRuntimeIdentity (source : List (String × Json)) (configGroup : String)
    (identity : RuntimeConfigIdentity) : List (String × Json) :=
  let content := source.filter fun field => !identityFields.contains field.1
  let content :=
    if configGroup = "runtime.bootstrap" ∨ "provider.".toList.isPrefixOf configGroup.toList ∨
        (Json.lookup "PROVIDER_ID" source).isSome then
      Json.assign "PROVIDER_ID" (.str identity.providerId) content
    else content
  if configGroup = "runtime.observability" ∨
      (Json.lookup "OTEL_SERVICE_INSTANCE_ID" source).isSome then
    Json.assign "OTEL_SERVICE_INSTANCE_ID" (.str identity.instanceId) content
  else content

private def hexGroup (lengths : Nat) (group : List Char) : Bool :=
  decide (group.length = lengths) && group.all fun char => hexadecimal char.toLower

private def splitDash : List Char → List (List Char)
  | [] => [[]]
  | '-' :: rest => [] :: splitDash rest
  | char :: rest =>
    match splitDash rest with
    | [] => [[char]]
    | item :: items => (char :: item) :: items

def isUuid (text : String) : Bool :=
  match splitDash text.toList with
  | [first, second, third, fourth, fifth] =>
    hexGroup 8 first && hexGroup 4 second && hexGroup 4 third && hexGroup 4 fourth &&
      hexGroup 12 fifth && third.head?.any (fun char => '1' ≤ char && char ≤ '8') &&
      fourth.head?.any (fun char => ['8', '9', 'a', 'b'].contains char.toLower)
  | _ => false

/-- What a Runtime has of its own: who it is, what its content validator accepts, and how often a
pull is tried. -/
structure RuntimeClient where
  target : RuntimeConfigTarget
  identity : RuntimeConfigIdentity
  valid : List (String × Json) → Bool
  maximumAttempts : Nat

namespace RuntimeClient

variable (client : RuntimeClient)

/-- The answer of the service for a revision, unless its secrets cannot be projected. -/
def document (revision : PublishedRevision) : Option RuntimeConfigDocument :=
  if revision.secretPaths.all fun path =>
      (Configuration.valueAt revision.row.content path).all Configuration.isSecretRefValue then
    some {
      revisionId := revision.row.revisionId
      revision := revision.row.revision
      checksum := revision.row.checksum
      applyMode := revision.row.applyMode
      sourceTargetType := revision.sourceTargetType
      identity := client.identity
      content := projectRuntimeIdentity revision.row.content client.target.configGroup
        client.identity
    }
  else none

/-- `parseDocument` and `assertTargetIdentity` -/
def accepts (etag : String) (document : RuntimeConfigDocument) : Bool :=
  isChecksum (normalizeEtag etag) && document.checksum == normalizeEtag etag &&
    isUuid document.revisionId && decide (1 ≤ document.revision) &&
    (document.identity.environment != "" && document.identity.deploymentId != "" &&
      document.identity.instanceId != "" && document.identity.providerId != "") &&
    client.valid document.content &&
    (document.identity.environment == client.target.environment &&
      document.identity.deploymentId == client.target.deploymentId &&
      document.identity.instanceId == client.target.instanceId)

end RuntimeClient

inductive RuntimeConfigSyncState where
  | lkg
  | unchanged
  | applied
  | restartRequired
  | rejected
  deriving DecidableEq

inductive AfterFlush where
  | pullCandidate
  | returns (state : RuntimeConfigSyncState)

/-- Where a Runtime is. `flushing` has the records still to be delivered, `pulling` the last known
good document, the attempt, and whether the request is conditional. -/
inductive SyncPhase where
  | idle
  | flushing (records : List RuntimeConfigAckOutboxRecord) (after : AfterFlush)
  | removing (record : RuntimeConfigAckOutboxRecord)
      (records : List RuntimeConfigAckOutboxRecord) (after : AfterFlush)
  | reading
  | pulling (cached : Option RuntimeConfigCacheArtifact) (conditional : Bool) (attempt : Nat)
  | applying (etag : String) (document : RuntimeConfigDocument)
  | promoting (etag : String) (document : RuntimeConfigDocument)
  | queueing (acknowledgement : RuntimeConfigAcknowledgement) (state : RuntimeConfigSyncState)
  | conflicting (state : RuntimeConfigSyncState)
  | returned (state : RuntimeConfigSyncState)

/-- The service, what the Runtime has on disk, where its sync is, and two records of the past: the
documents whose handler call succeeded, and the revisions the service answered with in the sync. -/
structure RuntimeSystem where
  service : ConfigurationService
  lkg : Option RuntimeConfigCacheArtifact
  outbox : List RuntimeConfigAckOutboxRecord
  phase : SyncPhase
  handled : List RuntimeConfigDocument
  answered : List PublishedRevision

/-- How a request ends: it is answered, its answer is lost after the service did it, or it does
not arrive. -/
inductive RequestFate where
  | answered
  | answerLost
  | lost
  deriving DecidableEq

/-- How a pull ends: with an answer of the service, with a failure that is retried, or with one
that is not. -/
inductive PullFate where
  | answered
  | unavailable
  | refused
  deriving DecidableEq

inductive Event where
  | publish (revision : PublishedRevision)
  | begin
  | deliver (fate : RequestFate)
  | remove (succeeds : Bool)
  | readCache (succeeds : Bool)
  | pull (fate : PullFate)
  | apply (succeeds : Bool)
  | write
  | put
  | crash

/-- `put`: nothing changes for a record that is queued already, and a different one for the same
revision is refused. -/
def putRecord (outbox : List RuntimeConfigAckOutboxRecord)
    (record : RuntimeConfigAckOutboxRecord) : Option (List RuntimeConfigAckOutboxRecord) :=
  match outbox.find? fun known =>
      known.acknowledgement.revisionId == record.acknowledgement.revisionId with
  | some known => if known = record then some outbox else none
  | none => some (outbox ++ [record])

def removeRecord (outbox : List RuntimeConfigAckOutboxRecord) (revisionId : String) :
    List RuntimeConfigAckOutboxRecord :=
  outbox.filter fun known => known.acknowledgement.revisionId != revisionId

def restartAcknowledgement (document : RuntimeConfigDocument) : RuntimeConfigAcknowledgement := {
  revisionId := document.revisionId
  status := .restartRequired
  appliedChecksum := none
  reasonCode := none
}

def rejection (document : RuntimeConfigDocument) (reasonCode : String) :
    RuntimeConfigAcknowledgement := {
  revisionId := document.revisionId
  status := .rejected
  appliedChecksum := none
  reasonCode := some reasonCode
}

def application (document : RuntimeConfigDocument) : RuntimeConfigAcknowledgement := {
  revisionId := document.revisionId
  status := .applied
  appliedChecksum := some document.checksum
  reasonCode := none
}

def applyOutcome (document : RuntimeConfigDocument) (succeeds : Bool) :
    RuntimeConfigAcknowledgement :=
  if succeeds then application document else rejection document "RUNTIME_CONFIG_APPLY_FAILED"

namespace RuntimeSystem

variable (client : RuntimeClient)

def inPhase (system : RuntimeSystem) (phase : SyncPhase) : RuntimeSystem :=
  { system with phase := phase }

def flushed (system : RuntimeSystem) : AfterFlush → RuntimeSystem
  | .pullCandidate => system.inPhase .reading
  | .returns state => system.inPhase (.returned state)

def deliver (system : RuntimeSystem) (records : List RuntimeConfigAckOutboxRecord)
    (after : AfterFlush) (fate : RequestFate) : RuntimeSystem :=
  match records with
  | [] => system.flushed after
  | record :: rest =>
    match fate, system.service.acknowledge record.acknowledgement with
    | .lost, _ => system.flushed after
    | _, .error _ => system.flushed after
    | .answerLost, .ok service => ({ system with service := service }).flushed after
    | .answered, .ok service =>
      ({ system with service := service }).inPhase (.removing record rest after)

/-- The candidate is taken as changed: what is done depends on its apply mode. -/
def takeCandidate (system : RuntimeSystem) (etag : String) (document : RuntimeConfigDocument) :
    RuntimeSystem :=
  match document.applyMode with
  | .restartRequired =>
    system.inPhase (.queueing (restartAcknowledgement document) .restartRequired)
  | .immutable =>
    system.inPhase (.queueing (rejection document "RUNTIME_CONFIG_IMMUTABLE") .rejected)
  | .hotReload => system.inPhase (.applying etag document)
  | .reconnectRequired => system.inPhase (.applying etag document)

/-- No attempt is left or none may be made: the last known good document is used when there is
one, and the sync throws otherwise. -/
def fallBack (system : RuntimeSystem) (cached : Option RuntimeConfigCacheArtifact) :
    RuntimeSystem :=
  if cached.isSome then system.inPhase (.returned .lkg) else system.inPhase .idle

def retryPull (system : RuntimeSystem) (cached : Option RuntimeConfigCacheArtifact)
    (conditional : Bool) (attempt : Nat) : RuntimeSystem :=
  if attempt < client.maximumAttempts then
    system.inPhase (.pulling cached conditional (attempt + 1))
  else system.fallBack cached

/-- The service answers that the document of a conditional request is the latest one. -/
def notModified (cached : Option RuntimeConfigCacheArtifact) (conditional : Bool)
    (checksum : String) : Bool :=
  conditional && cached.any fun artifact => etagMatches artifact.etag checksum

def answer (system : RuntimeSystem) (cached : Option RuntimeConfigCacheArtifact)
    (conditional : Bool) (attempt : Nat) (revision : PublishedRevision) : RuntimeSystem :=
  match client.document revision with
  | none => system.fallBack cached
  | some document =>
    let system := { system with answered := system.answered ++ [revision] }
    let etag := quoted revision.row.checksum
    if notModified cached conditional revision.row.checksum then
      match cached with
      | none => system.retryPull client none false attempt
      | some artifact =>
        if normalizeEtag etag ≠ normalizeEtag artifact.etag then
          system.retryPull client cached conditional attempt
        else system.inPhase (.returned .unchanged)
    else if client.accepts etag document then
      if cached.any fun artifact => artifact.etag == etag then
        system.inPhase (.returned .unchanged)
      else system.takeCandidate etag document
    else system.fallBack cached

def pull (system : RuntimeSystem) (cached : Option RuntimeConfigCacheArtifact)
    (conditional : Bool) (attempt : Nat) (fate : PullFate) : RuntimeSystem :=
  match fate, system.service.latest with
  | .unavailable, _ => system.retryPull client cached conditional attempt
  | .refused, _ => system.fallBack cached
  | .answered, none => system.fallBack cached
  | .answered, some revision => system.answer client cached conditional attempt revision

def apply (system : RuntimeSystem) (etag : String) (document : RuntimeConfigDocument)
    (succeeds : Bool) : RuntimeSystem :=
  if succeeds then
    { system with
      handled := document :: system.handled
      phase := .promoting etag document }
  else system.inPhase (.queueing (applyOutcome document false) .rejected)

def put (system : RuntimeSystem) (acknowledgement : RuntimeConfigAcknowledgement)
    (state : RuntimeConfigSyncState) : RuntimeSystem :=
  let record : RuntimeConfigAckOutboxRecord := {
    target := client.target
    acknowledgement := acknowledgement
  }
  match putRecord system.outbox record with
  | none => system.inPhase (.conflicting state)
  | some outbox => { system with
      outbox := outbox
      phase := .flushing outbox (.returns state) }

def next (system : RuntimeSystem) (event : Event) : RuntimeSystem :=
  match event, system.phase with
  | .publish revision, _ => { system with service := system.service.publish revision }
  | .crash, _ => system.inPhase .idle
  | .begin, .idle => { system with
      phase := .flushing system.outbox .pullCandidate
      answered := [] }
  | .begin, .conflicting _ => { system with
      phase := .flushing system.outbox .pullCandidate
      answered := [] }
  | .begin, .returned _ => { system with
      phase := .flushing system.outbox .pullCandidate
      answered := [] }
  | .deliver fate, .flushing records after => system.deliver records after fate
  | .remove true, .removing record records after =>
    { system with
      outbox := removeRecord system.outbox record.acknowledgement.revisionId
      phase := .flushing records after }
  | .remove false, .removing _ _ after => system.flushed after
  | .readCache succeeds, .reading =>
    let cached := if succeeds then system.lkg else none
    system.inPhase (.pulling cached cached.isSome 1)
  | .pull fate, .pulling cached conditional attempt =>
    system.pull client cached conditional attempt fate
  | .apply succeeds, .applying etag document => system.apply etag document succeeds
  | .write, .promoting etag document => { system with
      lkg := some {
        etag := etag
        document := document
      }
      phase := .queueing (applyOutcome document true) .applied }
  | .put, .queueing acknowledgement state => system.put client acknowledgement state
  | _, _ => system

def initial : RuntimeSystem := {
  service := {
    revisions := []
    latest := none
    acks := []
  }
  lkg := none
  outbox := []
  phase := .idle
  handled := []
  answered := []
}

end RuntimeSystem

end RuntimeConfig

end SdarRuntime
