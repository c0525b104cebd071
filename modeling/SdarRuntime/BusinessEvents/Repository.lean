import SdarRuntime.BusinessEvents.Tables

/-!
The transactions on the business-event tables. A source is read under a lease, its facts enter
the inbox in the order of their sequences, the first open row of a source is mapped and
published, and a rotation closes a generation together with what was lost before it.
-/

namespace SdarRuntime

namespace BusinessEvents

open Transaction (read update abort)

def ofExcept {α : Type} : Except String α → Tx α
  | .ok value => pure value
  | .error failure => abort failure

def setSource (sourceId : String) (state : SourceState) : Tx Unit :=
  update fun tables => { tables with sources := tables.sources.set sourceId state }

def setRow (inboxId : Nat) (row : InboxRow) : Tx Unit :=
  update fun tables => { tables with inbox := tables.inbox.set inboxId row }

def byId (left right : SourceDefinition) : Bool :=
  decide (left.sourceId ≤ right.sourceId)

/-- The generation of the provider, a new one if there was none. Each source of the roster is
inserted into the sources, where it cannot be yet. -/
def initializeProviderGeneration (readings : Readings) (sources : List SourceDefinition) :
    Tx String := do
  if sources.length < 1 ∨ 16 < sources.length then abort "BUSINESS_EVENT_SOURCE_COUNT_INVALID"
  else
    let tables ← read
    match tables.current with
    | some streamId => pure streamId
    | none =>
      if ¬(sources.map SourceDefinition.sourceId).Nodup ∨
          sources.any (fun source => (tables.sources.get? source.sourceId).isSome) = true ∨
          (tables.generations.get? readings.newStreamId).isSome then
        abort "23505"
      else do
        let roster := sources.mergeSort byId
        update fun tables =>
          { tables with
            current := some readings.newStreamId
            generations := tables.generations.set readings.newStreamId
              (.new .current (classifyContinuity sources))
            rosters := tables.rosters.set readings.newStreamId roster
            sources := roster.foldl
              (fun states source => states.set source.sourceId source.state) tables.sources }
        pure readings.newStreamId

def currentGeneration : Tx (Option (String × Generation)) := do
  let tables ← read
  return do
    let streamId ← tables.current
    let generation ← tables.generations.get? streamId
    return (streamId, generation)

def sourceRoster (streamId : String) : Tx (List SourceDefinition) := do
  let tables ← read
  return (tables.rosters.get? streamId).getD []

def mapLease (sourceId : String) (state : SourceState) (owner : String) : Lease :=
  { sourceId := sourceId
    sourceStreamId := state.sourceStreamId
    owner := owner
    fencingToken := state.fencingToken
    leaseUntil := state.leaseUntil
    lastPersistedSourceSequence := state.lastPersistedSourceSequence
    lastFinalizedSourceSequence := state.lastFinalizedSourceSequence }

/-- `status.startsWith("blocked_")`. -/
def SourceStatus.isBlocked (status : SourceStatus) : Bool :=
  status == .blockedContractViolation || status == .blockedIdentityConflict

def SourceState.heldByOther (state : SourceState) (owner : String) (now : Instant) : Bool :=
  state.leaseUntil.any (fun leaseUntil => decide (now < leaseUntil)) &&
    state.leaseOwner != some owner

def acquireSourceLease (readings : Readings) (sourceId sourceStreamId owner : String)
    (leaseMs : Nat) : Tx (Option Lease) := do
  let tables ← read
  match tables.sources.get? sourceId with
  | none => pure none
  | some state =>
    if state.sourceStreamId ≠ sourceStreamId ∨ state.status.isBlocked = true ∨
        state.status = .continuityLossPending ∨
        state.heldByOther owner readings.runtime = true then
      pure none
    else do
      let next :=
        { state with
          leaseOwner := some owner
          leaseUntil := some (readings.database.addMilliseconds leaseMs)
          fencingToken := state.fencingToken + 1 }
      setSource sourceId next
      pure (some (mapLease sourceId next owner))

def SourceState.leasedTo (state : SourceState) (lease : Lease) : Bool :=
  state.sourceStreamId == lease.sourceStreamId && state.leaseOwner == some lease.owner &&
    state.fencingToken == lease.fencingToken

def SourceState.lasts (state : SourceState) (now : Instant) : Bool :=
  state.leaseUntil.any fun leaseUntil => decide (now < leaseUntil)

def renewSourceLease (readings : Readings) (lease : Lease) (leaseMs : Nat) : Tx Lease := do
  let tables ← read
  match tables.sources.get? lease.sourceId with
  | none => abort "BUSINESS_EVENT_STALE_FENCE"
  | some state =>
    if state.leasedTo lease = true ∧ state.lasts readings.database = true then do
      let next :=
        { state with leaseUntil := some (readings.database.addMilliseconds leaseMs) }
      setSource lease.sourceId next
      pure (mapLease lease.sourceId next lease.owner)
    else abort "BUSINESS_EVENT_STALE_FENCE"

def lockAndValidateLease (readings : Readings) (lease : Lease) : Tx SourceState := do
  let tables ← read
  match tables.sources.get? lease.sourceId with
  | none => abort "BUSINESS_EVENT_STALE_FENCE"
  | some state =>
    if state.leasedTo lease = true ∧ state.lasts readings.database = true then pure state
    else abort "BUSINESS_EVENT_STALE_FENCE"

def markSourceUnavailable (lease : Lease) : Tx Unit := do
  let tables ← read
  match tables.sources.get? lease.sourceId with
  | none => pure ()
  | some state =>
    if state.leasedTo lease = true then
      setSource lease.sourceId { state with status := .unavailable }
    else pure ()

def isAlphanumeric (char : Char) : Bool :=
  ('A' ≤ char && char ≤ 'Z') || ('a' ≤ char && char ≤ 'z') || ('0' ≤ char && char ≤ '9')

/-- A letter or a digit, and at most `most` more characters of a name. -/
def isName (most : Nat) (text : String) : Bool :=
  match text.toList with
  | [] => false
  | first :: rest =>
    isAlphanumeric first && decide (rest.length ≤ most) &&
      rest.all fun char => isAlphanumeric char || "_.:/-".toList.contains char

def containsDisallowedControl (text : String) : Bool :=
  (Json.utf16 text).any fun unit =>
    (decide (unit < 32) && unit != 9 && unit != 10 && unit != 13) || unit == 127

def isResourceRef (text : String) : Bool :=
  !text.toList.isEmpty && text.toList.all (fun char => '!' ≤ char && char ≤ '~') &&
    decide (text.toList.length ≤ 512)

def validateSourceFact (environment : Environment) (fact : SourceFact) (sourceId : String) :
    Option String :=
  if isName 255 fact.sourceEventId = false then some "SOURCE_EVENT_ID_INVALID"
  else if isName 127 fact.eventType = false then some "EVENT_TYPE_INVALID"
  else if (Json.utf16 fact.description).length < 1 ∨
      4096 < (Json.utf16 fact.description).length ∨
      containsDisallowedControl fact.description = true then
    some "DESCRIPTION_INVALID"
  else if fact.scope = .task ∧ (fact.externalExecutionId.all (isName 511) = false ∨
      fact.externalExecutionId = none ∨ fact.resourceRef ≠ none) then
    some "TASK_SCOPE_INVALID"
  else if fact.scope = .resource ∧ (fact.resourceRef = none ∨
      fact.resourceRef.all isResourceRef = false ∨ fact.externalExecutionId ≠ none) then
    some "RESOURCE_SCOPE_INVALID"
  else if fact.reasonCode.all (isName 127) = false then some "REASON_CODE_INVALID"
  else if sourceId = "vehicle.business" ∧
      (fact.scope ≠ .task ∨ fact.eventType ≠ "vehicle.business.changed") then
    some "TASK_BUSINESS_ENVELOPE_INVALID"
  else if sourceId = "vehicle.business" ∧
      (fact.rawPayload.any environment.parsesTaskBusinessFeedbackBody) = false then
    some "TASK_BUSINESS_PAYLOAD_INVALID"
  else none

def definedText : Option String → Except String Json
  | some text => .ok (.str text)
  | none => .error "BUSINESS_EVENT_CANONICAL_VALUE_INVALID"

def sourceCanonicalInput (environment : Environment) (lease : Lease) (fact : SourceFact)
    (occurredAt : String) : Except String Json := do
  let about ←
    match fact.scope with
    | .task => do
      let externalExecutionId ← definedText fact.externalExecutionId
      pure ("externalExecutionId", externalExecutionId)
    | _ => do
      let resourceRef ← definedText fact.resourceRef
      pure ("resourceRef", resourceRef)
  return .obj [
    ("providerId", .str environment.providerId),
    ("sourceId", .str lease.sourceId),
    ("sourceStreamId", .str lease.sourceStreamId),
    ("sourceEventId", .str fact.sourceEventId),
    ("sourceSequence", .str (toString fact.sourceSequence)),
    ("scope", .str fact.scope.text),
    about,
    ("eventType", .str fact.eventType),
    ("occurredAt", .str occurredAt),
    ("description", .str fact.description),
    ("severityHint", .str (fact.severityHint.getD "")),
    ("reasonCode", .str (fact.reasonCode.getD "")),
    ("rawPayload", fact.rawPayload.getD (.obj []))]

/-- `MAX_SIGNED_BIGINT_SEQUENCE`. -/
def maxSequence : Nat := 9223372036854775807

def blockSource (lease : Lease) (state : SourceState) (status : SourceStatus) : Tx Unit :=
  setSource lease.sourceId { state with status := status }

/-- What an intake answers; a fact that is refused blocks its source, and is an error after the
transaction is committed. -/
inductive IntakeResult where
  | received (sourceCanonicalHash : String)
  | duplicate (sourceCanonicalHash : String)
  | rejected (sourceCanonicalHash rejectReason : String)
  | refused (failure : String)
  deriving DecidableEq

/-- The rows of the source stream with the event id or the sequence of the fact. -/
def Tables.sameIdentity (tables : Tables) (lease : Lease) (fact : SourceFact) : List InboxRow :=
  tables.inbox.values.filter fun row =>
    row.sourceId == lease.sourceId && row.sourceStreamId == lease.sourceStreamId &&
      (row.normalizedSourceEventId == some fact.sourceEventId ||
        row.normalizedSourceSequence == some fact.sourceSequence)

def InboxRow.isExact (row : InboxRow) (fact : SourceFact) (hash : String) : Bool :=
  row.normalizedSourceEventId == some fact.sourceEventId &&
    row.normalizedSourceSequence == some fact.sourceSequence &&
      row.sourceCanonicalHash == some hash

def SourceFact.row (fact : SourceFact) (lease : Lease) (rejected : Bool)
    (occurredAt hash : String) (mappingDeadline : Instant) : InboxRow :=
  { sourceId := lease.sourceId
    sourceStreamId := lease.sourceStreamId
    status := if rejected then .rejected else .received
    normalizedSourceEventId := some fact.sourceEventId
    normalizedSourceSequence := some fact.sourceSequence
    normalizedScope := some fact.scope
    normalizedOccurredAt := some occurredAt
    sourceCanonicalHash := some hash
    sourcePayload := some
      { fact := { fact with occurredAt := occurredAt }
        taskId := none
        candidateRelatedTaskIds := [] }
    mappingDeadline := some mappingDeadline
    finalizedAt := none }

def insertRow (row : InboxRow) : Tx Unit :=
  update fun tables =>
    { tables with
      inbox := tables.inbox.set tables.nextInboxId row
      nextInboxId := tables.nextInboxId + 1 }

def SourceState.advanced (state : SourceState) (sequence : Nat) (rejected : Bool) : SourceState :=
  { state with
    lastPersistedSourceSequence := sequence
    status :=
      if rejected = true ∧ state.deliverySemantics = .durableAtLeastOnce then
        .continuityLossPending
      else if rejected = true then .degraded
      else .active }

def intakeSourceFact (environment : Environment) (readings : Readings) (lease : Lease)
    (fact : SourceFact) (mappingDeadlineMs : Nat) : Tx IntakeResult := do
  if fact.sourceSequence < 1 ∨ maxSequence < fact.sourceSequence then
    abort "BUSINESS_EVENT_SEQUENCE_INVALID"
  else
    let occurredAt ← ofExcept (environment.normalizeRfc3339Nano fact.occurredAt)
    let input ← ofExcept (sourceCanonicalInput environment lease fact occurredAt)
    let hash ← ofExcept (environment.canonicalSha256 input)
    let state ← lockAndValidateLease readings lease
    let tables ← read
    if fact.sourceStreamId ≠ lease.sourceStreamId then do
      blockSource lease state .blockedIdentityConflict
      pure (.refused "SOURCE_STREAM_RESET")
    else
      match tables.sameIdentity lease fact with
      | _ :: _ =>
        if (tables.sameIdentity lease fact).length = 1 ∧
            (tables.sameIdentity lease fact).any (fun row => row.isExact fact hash) = true then
          pure (.duplicate hash)
        else do
          blockSource lease state .blockedIdentityConflict
          pure (.refused "BUSINESS_EVENT_IDEMPOTENCY_CONFLICT")
      | [] =>
        if fact.sourceSequence ≤ state.lastPersistedSourceSequence then do
          blockSource lease state .blockedIdentityConflict
          pure (.refused "BUSINESS_EVENT_SOURCE_SEQUENCE_REGRESSION")
        else do
          let validationError := validateSourceFact environment fact lease.sourceId
          insertRow (fact.row lease validationError.isSome occurredAt hash
            (readings.database.addMilliseconds mappingDeadlineMs))
          -- The table takes a row of an unknown scope only if it is rejected.
          Transaction.when (validationError = none ∧ fact.scope.isKnown = false) (abort "23514")
          -- The lease may have run out since it was validated: then only the row is kept.
          if state.lasts readings.later = true then
            setSource lease.sourceId (state.advanced fact.sourceSequence validationError.isSome)
          else pure ()
          match validationError with
          | some reason => pure (.rejected hash reason)
          | none => pure (.received hash)

def poisonRow (lease : Lease) : InboxRow :=
  { sourceId := lease.sourceId
    sourceStreamId := lease.sourceStreamId
    status := .rejected
    normalizedSourceEventId := none
    normalizedSourceSequence := none
    normalizedScope := none
    normalizedOccurredAt := none
    sourceCanonicalHash := none
    sourcePayload := none
    mappingDeadline := none
    finalizedAt := none }

def persistUndecodablePoison (readings : Readings) (lease : Lease) : Tx Unit := do
  let state ← lockAndValidateLease readings lease
  insertRow (poisonRow lease)
  blockSource lease state .blockedContractViolation

/-- A row that is not over: `finalized_at IS NULL`, in one of the six statuses. -/
def InboxRow.isOpen (row : InboxRow) : Bool :=
  row.finalizedAt.isNone &&
    [.received, .pendingMapping, .ready, .continuityLossPending, .rejected,
      .mappingFailed].contains row.status

def InboxRow.isBarrier (row : InboxRow) : Bool :=
  row.finalizedAt.isNone &&
    [.continuityLossPending, .rejected, .mappingFailed].contains row.status

/-- `ORDER BY normalized_source_sequence NULLS FIRST, inbox_id`; sequences are positive. -/
def rowOrder (entry : Nat × InboxRow) : ℕ ×ₗ ℕ :=
  toLex (entry.2.normalizedSourceSequence.getD 0, entry.1)

def Tables.firstRow (tables : Tables) (sourceId sourceStreamId : String)
    (matching : InboxRow → Bool) : Option (Nat × InboxRow) :=
  List.argmin rowOrder (tables.inbox.entries.filter fun entry =>
    entry.2.sourceId == sourceId && entry.2.sourceStreamId == sourceStreamId &&
      matching entry.2)

inductive Prepared where
  | ready
  | pending
  | terminal
  | none
  deriving DecidableEq, Repr

def failMapping (sourceId : String) (state : SourceState) (inboxId : Nat) (row : InboxRow) :
    Tx Prepared := do
  let durable := state.deliverySemantics == .durableAtLeastOnce
  setRow inboxId
    { row with status := if durable then .continuityLossPending else .terminalSkipped }
  setSource sourceId
    { state with status := if durable then .continuityLossPending else .degraded }
  pure .terminal

/-- A task-scoped row waits for the task of its execution until its deadline. -/
def mapTask (readings : Readings) (sourceId : String) (state : SourceState) (inboxId : Nat)
    (row : InboxRow) (payload : SourcePayload) : Tx Prepared :=
  match payload.fact.externalExecutionId.bind readings.taskOf with
  | some taskId => do
    setRow inboxId
      { row with
        status := .ready
        sourcePayload := some { payload with taskId := some taskId } }
    pure .ready
  | none =>
    if row.mappingDeadline.any fun deadline => decide (readings.runtime < deadline) then do
      setRow inboxId { row with status := .pendingMapping }
      pure .pending
    else failMapping sourceId state inboxId row

def associateTasks (readings : Readings) (inboxId : Nat) (row : InboxRow)
    (payload : SourcePayload) : Tx Prepared :=
  match payload.fact.resourceRef, row.normalizedOccurredAt with
  | some resourceRef, some occurredAt => do
    setRow inboxId
      { row with
        status := .ready
        sourcePayload := some
          { payload with
            candidateRelatedTaskIds := readings.relatedTasks resourceRef occurredAt } }
    pure .ready
  | _, _ => abort "BUSINESS_EVENT_PAYLOAD_INVALID"

def prepareNextSourceEvent (readings : Readings) (sourceId : String) : Tx Prepared := do
  let tables ← read
  match tables.sources.get? sourceId with
  | none => abort "BUSINESS_EVENT_SOURCE_NOT_FOUND"
  | some state =>
    match tables.firstRow sourceId state.sourceStreamId InboxRow.isOpen with
    | none => pure .none
    | some (inboxId, row) =>
      if row.status = .ready then pure .ready
      else if row.isBarrier = true then pure .terminal
      else
        match row.sourcePayload with
        | none => abort "BUSINESS_EVENT_PAYLOAD_INVALID"
        | some payload =>
          if row.normalizedScope = some .task then
            mapTask readings sourceId state inboxId row payload
          else associateTasks readings inboxId row payload

def terminalSourceBarrierId (sourceId sourceStreamId : String) : Tx (Option Nat) := do
  let tables ← read
  return (tables.firstRow sourceId sourceStreamId InboxRow.isBarrier).map Prod.fst

def requiredString (text : String) : Tx String :=
  if text = "" then abort "BUSINESS_EVENT_PAYLOAD_INVALID" else pure text

def optionalString (text : Option String) : Option String :=
  text.filter fun text => text != ""

def StoredEvent.conflicts (event other : StoredEvent) : Bool :=
  (event.streamId == other.streamId && event.sequence == other.sequence) ||
    event.eventId == other.eventId ||
    (event.sourceId == other.sourceId && event.sourceStreamId == other.sourceStreamId &&
      (event.sourceEventId == other.sourceEventId ||
        event.sourceSequence == other.sourceSequence))

def insertEvent (event : StoredEvent) : Tx Unit := do
  let tables ← read
  if tables.events.any event.conflicts = true then abort "23505"
  else if event.severityHint.all (["info", "warning", "critical"].contains ·) = false ∨
      event.scope.isKnown = false then
    abort "23514"
  else update fun tables => { tables with events := tables.events ++ [event] }

def eventOf (environment : Environment) (readings : Readings) (streamId sourceId : String)
    (sequence : Nat) (state : SourceState) (row : InboxRow) (payload : SourcePayload)
    (eventRetentionMs : Nat) : Tx StoredEvent := do
  let sourceEventId ← requiredString payload.fact.sourceEventId
  let about ← requiredString
    ((if row.normalizedScope = some .task then payload.taskId else payload.fact.resourceRef).getD "")
  let eventType ← requiredString payload.fact.eventType
  let occurredAt ← requiredString payload.fact.occurredAt
  let description ← requiredString payload.fact.description
  match row.normalizedScope with
  | none => abort "23502"
  | some scope =>
    return {
      streamId := streamId
      sequence := sequence
      eventId := environment.businessEventId environment.providerId sourceId
        state.sourceStreamId sourceEventId
      sourceId := sourceId
      sourceStreamId := state.sourceStreamId
      sourceEventId := sourceEventId
      sourceSequence := payload.fact.sourceSequence
      eventType := eventType
      occurredAt := occurredAt
      scope := scope
      description := description
      taskId := if scope = .task then some about else none
      resourceRef := if scope = .resource then some about else none
      candidateRelatedTaskIds := payload.candidateRelatedTaskIds.mergeSort
      severityHint := optionalString payload.fact.severityHint
      reasonCode := optionalString payload.fact.reasonCode
      rawPayload := payload.fact.rawPayload.getD (.obj [])
      expiresAt := readings.database.addMilliseconds eventRetentionMs }

/-- The row is published. The table of the sources does not let what is finalized pass what is
persisted. -/
def publish (streamId sourceId : String) (generation : Generation) (state : SourceState)
    (inboxId : Nat) (row : InboxRow) (event : StoredEvent) (now : Instant) : Tx Unit := do
  insertEvent event
  update fun tables =>
    { tables with
      generations := tables.generations.set streamId
        { generation with currentSequence := event.sequence } }
  setRow inboxId
    { row with
      status := .published
      finalizedAt := some now }
  if state.lastPersistedSourceSequence < event.sourceSequence then abort "23514"
  else setSource sourceId { state with lastFinalizedSourceSequence := event.sourceSequence }

def finalizeNextSourceEvent (environment : Environment) (readings : Readings) (sourceId : String)
    (eventRetentionMs : Nat) : Tx (Option StoredEvent) := do
  let tables ← read
  match tables.current with
  | none => abort "BUSINESS_EVENT_NOT_FOUND"
  | some streamId =>
    match tables.generations.get? streamId with
    | none => abort "BUSINESS_EVENT_STREAM_RESET"
    | some generation =>
      if generation.status ≠ .current then abort "BUSINESS_EVENT_STREAM_RESET"
      else
        match tables.sources.get? sourceId with
        | none => abort "BUSINESS_EVENT_SOURCE_NOT_FOUND"
        | some state =>
          match tables.firstRow sourceId state.sourceStreamId InboxRow.isOpen with
          | none => pure none
          | some (inboxId, row) =>
            match row.sourcePayload with
            | none => pure none
            | some payload =>
              if row.status ≠ .ready then pure none
              else do
                let event ← eventOf environment readings streamId sourceId
                  (generation.currentSequence + 1) state row payload eventRetentionMs
                publish streamId sourceId generation state inboxId row event
                  readings.database
                pure (some event)

/-- A source as the roster has it, active, and without a lease. A new stream starts from 0. -/
def SourceState.enrolled (state : SourceState) (source : SourceDefinition) : SourceState :=
  { state with
    sourceStreamId := source.sourceStreamId
    deliverySemantics := source.deliverySemantics
    status := .active
    leaseOwner := none
    leaseUntil := none
    lastPersistedSourceSequence :=
      if state.sourceStreamId = source.sourceStreamId then state.lastPersistedSourceSequence else 0
    lastFinalizedSourceSequence :=
      if state.sourceStreamId = source.sourceStreamId then state.lastFinalizedSourceSequence
      else 0 }

def SourceState.leftOut (state : SourceState) : SourceState :=
  { state with
    status := .disabled
    leaseOwner := none
    leaseUntil := none }

def leaveOut (sources : OrderedMap String SourceState) (sourceId : String) :
    OrderedMap String SourceState :=
  match sources.get? sourceId with
  | some state => sources.set sourceId state.leftOut
  | none => sources

/-- `ON CONFLICT DO UPDATE`. -/
def enrol (sources : OrderedMap String SourceState) (source : SourceDefinition) :
    OrderedMap String SourceState :=
  sources.set source.sourceId
    (match sources.get? source.sourceId with
      | some state => state.enrolled source
      | none => source.state)

/-- Sources without a place in the roster are disabled, those of the roster are enrolled. -/
def enrolAll (sources : OrderedMap String SourceState) (roster : List SourceDefinition) :
    OrderedMap String SourceState :=
  let left := sources.keys.filter fun sourceId =>
    !(roster.map SourceDefinition.sourceId).contains sourceId
  roster.foldl enrol (left.foldl leaveOut sources)

/-- A barrier of an affected source is over; what was rejected stays rejected. -/
def InboxRow.closed (row : InboxRow) (affected : List String) (now : Instant) : InboxRow :=
  if affected.contains row.sourceId = true ∧ row.isBarrier = true then
    { row with
      status := if row.status = .rejected then .rejected else .terminalSkipped
      finalizedAt := some now }
  else row

def rotationRecord (readings : Readings) (previousStreamId reasonCode : String)
    (previous : Generation) (affected : List String) (identity : ContinuityReason) :
    ContinuityRecord :=
  { previousStreamId := previousStreamId
    newStreamId := readings.newStreamId
    reasonCode := reasonCode
    affectedSourceIds := affected
    gapDetectedAt := readings.database
    lastReplayableSequence := previous.currentSequence
    lastContinuousSequence :=
      if previous.continuityClass = .allDurable then some previous.currentSequence else none
    continuityReasonIdentity := identity }

def Generation.closed (generation : Generation) (record : ContinuityRecord) : Generation :=
  { generation with
    status := .replayableClosed
    lastReplayableSequence := generation.currentSequence
    lastContinuousSequence := record.lastContinuousSequence }

def Tables.rotated (tables : Tables) (readings : Readings) (previous : Generation)
    (roster : List SourceDefinition) (record : ContinuityRecord) : Tables :=
  { tables with
    current := some record.newStreamId
    generations :=
      (tables.generations.set record.previousStreamId (previous.closed record)).set
        record.newStreamId (.new .current (classifyContinuity roster))
    rosters := tables.rosters.set record.newStreamId roster
    sources := enrolAll tables.sources roster
    inbox := tables.inbox.filterMap fun row =>
      some (row.closed record.affectedSourceIds readings.database)
    continuity := tables.continuity ++ [record] }

def sortedUnique (texts : List String) : List String :=
  texts.dedup.mergeSort

/-- A rotation that was made for the same reason is answered again. -/
def rotateStream (readings : Readings) (reasonCode : String) (affectedSourceIds : List String)
    (identity : ContinuityReason) (replacementRoster : Option (List SourceDefinition)) :
    Tx ContinuityRecord := do
  let tables ← read
  match tables.continuity.find? fun record => record.continuityReasonIdentity == identity with
  | some record => pure record
  | none =>
    match tables.current with
    | none => abort "BUSINESS_EVENT_NOT_FOUND"
    | some currentStreamId =>
      match tables.generations.get? currentStreamId with
      | none => abort "BUSINESS_EVENT_STREAM_RESET"
      | some previous =>
        let currentRoster := (tables.rosters.get? currentStreamId).getD []
        let roster := replacementRoster.getD currentRoster
        let affected := sortedUnique
          (if affectedSourceIds.isEmpty then currentRoster.map SourceDefinition.sourceId
            else affectedSourceIds)
        if previous.status ≠ .current then abort "BUSINESS_EVENT_STREAM_RESET"
        else if roster.length < 1 ∨ 16 < roster.length ∨
            ¬(roster.map SourceDefinition.sourceId).Nodup then
          abort "BUSINESS_EVENT_SOURCE_COUNT_INVALID"
        else if affected.isEmpty = true then
          abort "BUSINESS_EVENT_ROTATION_SOURCE_REQUIRED"
        else if (tables.generations.get? readings.newStreamId).isSome then abort "23505"
        else do
          let record :=
            rotationRecord readings currentStreamId reasonCode previous affected identity
          update fun tables =>
            tables.rotated readings previous (roster.mergeSort byId) record
          pure record

end BusinessEvents

end SdarRuntime
