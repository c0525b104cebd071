import Mathlib.Data.List.MinMax
import Mathlib.Data.Prod.Lex
import SdarRuntime.Domain.Time
import SdarRuntime.Library.Json
import SdarRuntime.Library.OrderedMap
import SdarRuntime.Library.Transaction

/-!
The business-event tables of one provider: the generations of its stream and their rosters, the
state and the inbox of each source, the events that are published and the continuity records.
-/

namespace SdarRuntime

namespace BusinessEvents

inductive DeliverySemantics where
  | durableAtLeastOnce
  | bestEffortLive
  deriving DecidableEq, Repr

inductive ContinuityClass where
  | allDurable
  | mixed
  | bestEffortOnly
  deriving DecidableEq, Repr

structure SourceDefinition where
  sourceId : String
  sourceStreamId : String
  deliverySemantics : DeliverySemantics
  deriving DecidableEq, Repr

def classifyContinuity (sources : List SourceDefinition) : ContinuityClass :=
  let durable := sources.countP fun source => source.deliverySemantics == .durableAtLeastOnce
  if durable = sources.length then .allDurable
  else if durable = 0 then .bestEffortOnly
  else .mixed

inductive GenerationStatus where
  | current
  | rotating
  | replayableClosed
  | retired
  deriving DecidableEq, Repr

structure Generation where
  status : GenerationStatus
  currentSequence : Nat
  earliestAvailableSequence : Nat
  lastReplayableSequence : Nat
  lastContinuousSequence : Option Nat
  continuityClass : ContinuityClass
  deriving DecidableEq, Repr

def Generation.new (status : GenerationStatus) (continuityClass : ContinuityClass) : Generation :=
  { status := status
    currentSequence := 0
    earliestAvailableSequence := 1
    lastReplayableSequence := 0
    lastContinuousSequence := none
    continuityClass := continuityClass }

inductive SourceStatus where
  | active
  | degraded
  | unavailable
  | blockedContractViolation
  | blockedIdentityConflict
  | continuityLossPending
  | disabled
  deriving DecidableEq, Repr

structure SourceState where
  sourceStreamId : String
  deliverySemantics : DeliverySemantics
  status : SourceStatus
  lastPersistedSourceSequence : Nat
  lastFinalizedSourceSequence : Nat
  leaseOwner : Option String
  leaseUntil : Option Instant
  fencingToken : Nat
  deriving DecidableEq, Repr

def SourceDefinition.state (source : SourceDefinition) : SourceState :=
  { sourceStreamId := source.sourceStreamId
    deliverySemantics := source.deliverySemantics
    status := .active
    lastPersistedSourceSequence := 0
    lastFinalizedSourceSequence := 0
    leaseOwner := none
    leaseUntil := none
    fencingToken := 0 }

structure Lease where
  sourceId : String
  sourceStreamId : String
  owner : String
  fencingToken : Nat
  leaseUntil : Option Instant
  lastPersistedSourceSequence : Nat
  lastFinalizedSourceSequence : Nat
  deriving DecidableEq, Repr

/-- The scope of a fact is any text; tasks and resources are the ones that are known. -/
inductive FactScope where
  | task
  | resource
  | other (text : String)
  deriving DecidableEq, Repr

def FactScope.text : FactScope → String
  | .task => "task"
  | .resource => "resource"
  | .other text => text

def FactScope.isKnown : FactScope → Bool
  | .other _ => false
  | _ => true

/-- A fact as the adapter sends it. Its sequence is the number its text spells. -/
structure SourceFact where
  sourceEventId : String
  sourceSequence : Nat
  sourceStreamId : String
  scope : FactScope
  occurredAt : String
  eventType : String
  description : String
  externalExecutionId : Option String
  resourceRef : Option String
  severityHint : Option String
  reasonCode : Option String
  rawPayload : Option Json

inductive InboxStatus where
  | received
  | pendingMapping
  | ready
  | continuityLossPending
  | rejected
  | mappingFailed
  | published
  | terminalSkipped
  deriving DecidableEq, Repr

/-- What a decoded row keeps of its fact, and what mapping adds to it. -/
structure SourcePayload where
  fact : SourceFact
  taskId : Option String
  candidateRelatedTaskIds : List String

structure InboxRow where
  sourceId : String
  sourceStreamId : String
  status : InboxStatus
  normalizedSourceEventId : Option String
  normalizedSourceSequence : Option Nat
  normalizedScope : Option FactScope
  normalizedOccurredAt : Option String
  sourceCanonicalHash : Option String
  sourcePayload : Option SourcePayload
  mappingDeadline : Option Instant
  finalizedAt : Option Instant

structure StoredEvent where
  streamId : String
  sequence : Nat
  eventId : String
  sourceId : String
  sourceStreamId : String
  sourceEventId : String
  sourceSequence : Nat
  eventType : String
  occurredAt : String
  scope : FactScope
  description : String
  taskId : Option String
  resourceRef : Option String
  candidateRelatedTaskIds : List String
  severityHint : Option String
  reasonCode : Option String
  rawPayload : Json
  expiresAt : Instant

/-- What makes the identity of a rotation: who asks for it, and about what. Different requests
have different texts. -/
inductive ContinuityReason where
  | initialization (streamId roster : String)
  | operator (requestId : String)
  | cursor (sourceStreamId reason : String) (lastPersistedSourceSequence : Nat)
  | poison (sourceStreamId : String) (sourceSequence : Nat)
  | mappingInbox (sourceStreamId : String) (inboxId : Nat)
  deriving DecidableEq, Repr

structure ContinuityRecord where
  previousStreamId : String
  newStreamId : String
  reasonCode : String
  affectedSourceIds : List String
  gapDetectedAt : Instant
  lastReplayableSequence : Nat
  lastContinuousSequence : Option Nat
  continuityReasonIdentity : ContinuityReason
  deriving DecidableEq, Repr

structure Tables where
  /-- The stream id of the current generation. -/
  current : Option String
  generations : OrderedMap String Generation
  rosters : OrderedMap String (List SourceDefinition)
  sources : OrderedMap String SourceState
  inbox : OrderedMap Nat InboxRow
  nextInboxId : Nat
  events : List StoredEvent
  continuity : List ContinuityRecord

def Tables.empty : Tables :=
  { current := none
    generations := .empty
    rosters := .empty
    sources := .empty
    inbox := .empty
    nextInboxId := 1
    events := []
    continuity := [] }

structure Environment where
  providerId : String
  canonicalSha256 : Json → Except String String
  businessEventId : String → String → String → String → String
  normalizeRfc3339Nano : String → Except String String
  parsesTaskBusinessFeedbackBody : Json → Bool

/-- What a transaction reads besides its tables: the clock of the database, once more where a
later statement compares with it, the clock of the runtime, a random id, and the tasks. -/
structure Readings where
  database : Instant
  later : Instant
  runtime : Instant
  newStreamId : String
  taskOf : String → Option String
  relatedTasks : String → String → List String

abbrev Tx (α : Type) : Type := Transaction Tables String α

end BusinessEvents

end SdarRuntime
