import SdarRuntime.BusinessEvents.Calls

/-!
A provider with one source, for the runs on fixed calls.
-/

namespace SdarRuntime.BusinessEvents.Sample

def environment : Environment :=
  { providerId := "vehicle"
    canonicalSha256 := fun _ => .ok "hash"
    businessEventId := fun providerId sourceId sourceStreamId sourceEventId =>
      providerId ++ "/" ++ sourceId ++ "/" ++ sourceStreamId ++ "/" ++ sourceEventId
    normalizeRfc3339Nano := .ok
    parsesTaskBusinessFeedbackBody := fun _ => true }

def readings (newStreamId : String) : Readings :=
  { database := 0
    later := 0
    runtime := 0
    newStreamId := newStreamId
    taskOf := fun _ => some "task"
    relatedTasks := fun _ _ => [] }

def source (sourceStreamId : String) : SourceDefinition :=
  { sourceId := "adapter"
    sourceStreamId := sourceStreamId
    deliverySemantics := .durableAtLeastOnce }

def fact (sourceStreamId sourceEventId : String) (sourceSequence : Nat) : SourceFact :=
  { sourceEventId := sourceEventId
    sourceSequence := sourceSequence
    sourceStreamId := sourceStreamId
    scope := .task
    occurredAt := "2026-01-01T00:00:00Z"
    eventType := "vehicle.moved"
    description := "The vehicle moved."
    externalExecutionId := some "execution"
    resourceRef := none
    severityHint := none
    reasonCode := none
    rawPayload := none }

def lease (sourceStreamId : String) (fencingToken : Nat) : Lease :=
  { sourceId := "adapter"
    sourceStreamId := sourceStreamId
    owner := "replica"
    fencingToken := fencingToken
    leaseUntil := none
    lastPersistedSourceSequence := 0
    lastFinalizedSourceSequence := 0 }

def leased : Tables :=
  Tables.empty.withSource "adapter"
    { (source "stream").state with
      leaseOwner := some "replica"
      leaseUntil := some 1000000
      fencingToken := 1 }

def steps (newStreamId : String) (calls : List Call) : List Step :=
  calls.map fun call =>
    { call := call
      readings := readings newStreamId }

def acquire (sourceStreamId : String) : Call :=
  .acquireSourceLease "adapter" sourceStreamId "replica" 1000

def intake (fact : SourceFact) (fencingToken : Nat) : Call :=
  .intakeSourceFact (lease fact.sourceStreamId fencingToken) fact 1000

def untyped (sourceStreamId sourceEventId : String) (sourceSequence : Nat) : SourceFact :=
  { fact sourceStreamId sourceEventId sourceSequence with eventType := "" }

def deliver (sourceStreamId sourceEventId : String) (sourceSequence fencingToken : Nat) :
    List Call :=
  [intake (fact sourceStreamId sourceEventId sourceSequence) fencingToken,
    .prepareNextSourceEvent "adapter",
    .finalizeNextSourceEvent "adapter" 1000]

def rotate (requestId sourceStreamId : String) : Call :=
  .rotateStream "OPERATOR_ROTATION" ["adapter"] (.operator requestId)
    (some [source sourceStreamId])

end SdarRuntime.BusinessEvents.Sample
