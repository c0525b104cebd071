import SdarRuntime.BusinessEvents.Repository
import SdarRuntime.Library.Histories

/-!
The calls of the replicas, each of them one transaction, and what a call can do to the tables.
-/

namespace SdarRuntime

namespace BusinessEvents

open Transaction (bind_eq_ok pure_eq_ok read_eq_ok update_eq_ok abort_eq_ok read_bind)

open Transaction

inductive Call where
  | initializeProviderGeneration (sources : List SourceDefinition)
  | acquireSourceLease (sourceId sourceStreamId owner : String) (leaseMs : Nat)
  | renewSourceLease (lease : Lease) (leaseMs : Nat)
  | markSourceUnavailable (lease : Lease)
  | intakeSourceFact (lease : Lease) (fact : SourceFact) (mappingDeadlineMs : Nat)
  | persistUndecodablePoison (lease : Lease)
  | prepareNextSourceEvent (sourceId : String)
  | finalizeNextSourceEvent (sourceId : String) (eventRetentionMs : Nat)
  | rotateStream (reasonCode : String) (affectedSourceIds : List String)
      (identity : ContinuityReason) (replacementRoster : Option (List SourceDefinition))

structure Step where
  call : Call
  readings : Readings

def Step.commit (environment : Environment) (tables : Tables) (step : Step) : Tables :=
  match step.call with
  | .initializeProviderGeneration sources =>
    ((initializeProviderGeneration step.readings sources).commit tables).2
  | .acquireSourceLease sourceId sourceStreamId owner leaseMs =>
    ((acquireSourceLease step.readings sourceId sourceStreamId owner leaseMs).commit tables).2
  | .renewSourceLease lease leaseMs =>
    ((renewSourceLease step.readings lease leaseMs).commit tables).2
  | .markSourceUnavailable lease => ((markSourceUnavailable lease).commit tables).2
  | .intakeSourceFact lease fact mappingDeadlineMs =>
    ((intakeSourceFact environment step.readings lease fact mappingDeadlineMs).commit tables).2
  | .persistUndecodablePoison lease =>
    ((persistUndecodablePoison step.readings lease).commit tables).2
  | .prepareNextSourceEvent sourceId =>
    ((prepareNextSourceEvent step.readings sourceId).commit tables).2
  | .finalizeNextSourceEvent sourceId eventRetentionMs =>
    ((finalizeNextSourceEvent environment step.readings sourceId eventRetentionMs).commit
      tables).2
  | .rotateStream reasonCode affectedSourceIds identity replacementRoster =>
    ((rotateStream step.readings reasonCode affectedSourceIds identity replacementRoster).commit
      tables).2

/-- The tables after the calls of any replicas, in the order of their transactions. -/
abbrev run (environment : Environment) : Tables → List Step → Tables :=
  Histories.after (Step.commit environment)

def Tables.initialized (tables : Tables) (readings : Readings) (sources : List SourceDefinition) :
    Tables :=
  { tables with
    current := some readings.newStreamId
    generations := tables.generations.set readings.newStreamId
      (.new .current (classifyContinuity sources))
    rosters := tables.rosters.set readings.newStreamId (sources.mergeSort byId)
    sources := (sources.mergeSort byId).foldl
      (fun states source => states.set source.sourceId source.state) tables.sources }

def Tables.withSource (tables : Tables) (sourceId : String) (state : SourceState) : Tables :=
  { tables with sources := tables.sources.set sourceId state }

def Tables.withRow (tables : Tables) (inboxId : Nat) (row : InboxRow) : Tables :=
  { tables with inbox := tables.inbox.set inboxId row }

def Tables.withNewRow (tables : Tables) (row : InboxRow) : Tables :=
  { tables with
    inbox := tables.inbox.set tables.nextInboxId row
    nextInboxId := tables.nextInboxId + 1 }

def SourceState.leases (state : SourceState) (lease : Lease) (now : Instant) : Prop :=
  state.leasedTo lease = true ∧ state.lasts now = true

instance (state : SourceState) (lease : Lease) (now : Instant) :
    Decidable (state.leases lease now) := by
  unfold SourceState.leases
  infer_instance

/-- A call that is about the lease or the status of a source, and leaves its cursor. -/
inductive Updates (readings : Readings) (state : SourceState) :
    Call → String → SourceState → Prop
  | acquired {sourceId owner : String} {leaseMs : Nat} (notBlocked : state.status.isBlocked = false)
      (notPending : state.status ≠ .continuityLossPending)
      (free : state.heldByOther owner readings.runtime = false) :
      Updates readings state (.acquireSourceLease sourceId state.sourceStreamId owner leaseMs)
        sourceId
        { state with
          leaseOwner := some owner
          leaseUntil := some (readings.database.addMilliseconds leaseMs)
          fencingToken := state.fencingToken + 1 }
  | renewed {lease : Lease} {leaseMs : Nat} (leases : state.leases lease readings.database) :
      Updates readings state (.renewSourceLease lease leaseMs) lease.sourceId
        { state with leaseUntil := some (readings.database.addMilliseconds leaseMs) }
  | unavailable {lease : Lease} (leased : state.leasedTo lease = true) :
      Updates readings state (.markSourceUnavailable lease) lease.sourceId
        { state with status := .unavailable }
  | refused {lease : Lease} {fact : SourceFact} {mappingDeadlineMs : Nat}
      (leases : state.leases lease readings.database) :
      Updates readings state (.intakeSourceFact lease fact mappingDeadlineMs) lease.sourceId
        { state with status := .blockedIdentityConflict }

structure Takes (tables : Tables) (readings : Readings) (state : SourceState) (lease : Lease)
    (fact : SourceFact) : Prop where
  leases : state.leases lease readings.database
  stream : fact.sourceStreamId = lease.sourceStreamId
  positive : 0 < fact.sourceSequence
  unknown : tables.sameIdentity lease fact = []
  later : state.lastPersistedSourceSequence < fact.sourceSequence

structure Hashes (environment : Environment) (lease : Lease) (fact : SourceFact)
    (occurredAt : String) (input : Json) (hash : String) : Prop where
  normalized : environment.normalizeRfc3339Nano fact.occurredAt = .ok occurredAt
  canonical : sourceCanonicalInput environment lease fact occurredAt = .ok input
  hashed : environment.canonicalSha256 input = .ok hash

def SourceState.afterFact (state : SourceState) (readings : Readings) (fact : SourceFact)
    (rejected : Bool) : SourceState :=
  if state.lasts readings.later = true then state.advanced fact.sourceSequence rejected else state

structure Prepares (row next : InboxRow) : Prop where
  status : next.status = .ready ∨ next.status = .pendingMapping
  source : next.sourceId = row.sourceId
  stream : next.sourceStreamId = row.sourceStreamId
  eventId : next.normalizedSourceEventId = row.normalizedSourceEventId
  sequence : next.normalizedSourceSequence = row.normalizedSourceSequence
  finalized : next.finalizedAt = row.finalizedAt
  fact : next.sourcePayload.map SourcePayload.fact = row.sourcePayload.map SourcePayload.fact

structure Unprepared (tables : Tables) (sourceId : String) (state : SourceState) (inboxId : Nat)
    (row : InboxRow) : Prop where
  known : tables.sources.get? sourceId = some state
  first : tables.firstRow sourceId state.sourceStreamId InboxRow.isOpen = some (inboxId, row)
  notReady : row.status ≠ .ready
  noBarrier : row.isBarrier = false

def Tables.mappingFailed (tables : Tables) (sourceId : String) (state : SourceState)
    (inboxId : Nat) (row : InboxRow) : Tables :=
  let durable := state.deliverySemantics == .durableAtLeastOnce
  (tables.withRow inboxId
      { row with status := if durable then .continuityLossPending else .terminalSkipped }).withSource
    sourceId { state with status := if durable then .continuityLossPending else .degraded }

structure Publishes (tables : Tables) (streamId : String) (generation : Generation)
    (sourceId : String) (state : SourceState) (inboxId : Nat) (row : InboxRow)
    (event : StoredEvent) : Prop where
  current : tables.current = some streamId
  appends : tables.generations.get? streamId = some generation
  known : tables.sources.get? sourceId = some state
  first : tables.firstRow sourceId state.sourceStreamId InboxRow.isOpen = some (inboxId, row)
  ready : row.status = .ready
  stream : event.streamId = streamId
  next : event.sequence = generation.currentSequence + 1
  source : event.sourceId = sourceId
  sourceStream : event.sourceStreamId = state.sourceStreamId
  fact : ∃ payload, row.sourcePayload = some payload ∧
    event.sourceEventId = payload.fact.sourceEventId ∧
      event.sourceSequence = payload.fact.sourceSequence
  apart : ∀ other, other ∈ tables.events → event.conflicts other = false
  persisted : event.sourceSequence ≤ state.lastPersistedSourceSequence

def Tables.published (tables : Tables) (generation : Generation) (state : SourceState)
    (inboxId : Nat) (row : InboxRow) (event : StoredEvent) (now : Instant) : Tables :=
  { tables with
    events := tables.events ++ [event]
    generations := tables.generations.set event.streamId
      { generation with currentSequence := event.sequence }
    inbox := tables.inbox.set inboxId
      { row with
        status := .published
        finalizedAt := some now }
    sources := tables.sources.set event.sourceId
      { state with lastFinalizedSourceSequence := event.sourceSequence } }

structure Rotates (tables : Tables) (readings : Readings) (reasonCode : String)
    (affectedSourceIds : List String) (identity : ContinuityReason)
    (replacementRoster : Option (List SourceDefinition)) (streamId : String)
    (previous : Generation) (roster : List SourceDefinition) (record : ContinuityRecord) :
    Prop where
  first : ∀ other, other ∈ tables.continuity → other.continuityReasonIdentity ≠ identity
  current : tables.current = some streamId
  closes : tables.generations.get? streamId = some previous
  isCurrent : previous.status = .current
  enrols : roster = replacementRoster.getD ((tables.rosters.get? streamId).getD [])
  counted : 1 ≤ roster.length ∧ roster.length ≤ 16
  distinct : (roster.map SourceDefinition.sourceId).Nodup
  affects : record.affectedSourceIds ≠ []
  fresh : tables.generations.get? readings.newStreamId = none
  records : record = rotationRecord readings streamId reasonCode previous
    (sortedUnique
      (if affectedSourceIds.isEmpty then
        ((tables.rosters.get? streamId).getD []).map SourceDefinition.sourceId
      else affectedSourceIds)) identity

inductive Change (environment : Environment) (before : Tables) (readings : Readings) :
    Call → Tables → Prop
  | idle (call : Call) : Change environment before readings call before
  | initialized {sources : List SourceDefinition} (first : before.current = none)
      (distinct : (sources.map SourceDefinition.sourceId).Nodup)
      (unknown : ∀ source, source ∈ sources → before.sources.get? source.sourceId = none)
      (fresh : before.generations.get? readings.newStreamId = none) :
      Change environment before readings (.initializeProviderGeneration sources)
        (before.initialized readings sources)
  | updated {call : Call} {sourceId : String} {state next : SourceState}
      (known : before.sources.get? sourceId = some state)
      (updates : Updates readings state call sourceId next) :
      Change environment before readings call (before.withSource sourceId next)
  | took {lease : Lease} {fact : SourceFact} {mappingDeadlineMs : Nat} {state : SourceState}
      {input : Json} {rejected : Bool} {occurredAt hash : String} (mappingDeadline : Instant)
      (known : before.sources.get? lease.sourceId = some state)
      (takes : Takes before readings state lease fact)
      (hashed : Hashes environment lease fact occurredAt input hash)
      (validated : rejected = (validateSourceFact environment fact lease.sourceId).isSome) :
      Change environment before readings (.intakeSourceFact lease fact mappingDeadlineMs)
        ((before.withNewRow (fact.row lease rejected occurredAt hash mappingDeadline)).withSource
          lease.sourceId (state.afterFact readings fact rejected))
  | poisoned {lease : Lease} {state : SourceState}
      (known : before.sources.get? lease.sourceId = some state)
      (leases : state.leases lease readings.database) :
      Change environment before readings (.persistUndecodablePoison lease)
        ((before.withNewRow (poisonRow lease)).withSource lease.sourceId
          { state with status := .blockedContractViolation })
  | prepared {sourceId : String} {state : SourceState} {inboxId : Nat} {row next : InboxRow}
      (unprepared : Unprepared before sourceId state inboxId row) (prepares : Prepares row next) :
      Change environment before readings (.prepareNextSourceEvent sourceId) (before.withRow inboxId next)
  | mappingFailed {sourceId : String} {state : SourceState} {inboxId : Nat} {row : InboxRow}
      (unprepared : Unprepared before sourceId state inboxId row) :
      Change environment before readings (.prepareNextSourceEvent sourceId)
        (before.mappingFailed sourceId state inboxId row)
  | published {sourceId streamId : String} {eventRetentionMs : Nat} {generation : Generation}
      {state : SourceState} {inboxId : Nat} {row : InboxRow} {event : StoredEvent}
      (publishes : Publishes before streamId generation sourceId state inboxId row event) :
      Change environment before readings (.finalizeNextSourceEvent sourceId eventRetentionMs)
        (before.published generation state inboxId row event readings.database)
  | rotated {reasonCode streamId : String} {affectedSourceIds : List String}
      {identity : ContinuityReason} {replacementRoster : Option (List SourceDefinition)}
      {previous : Generation} {roster : List SourceDefinition} {record : ContinuityRecord}
      (rotates : Rotates before readings reasonCode affectedSourceIds identity replacementRoster
        streamId previous roster record) :
      Change environment before readings
        (.rotateStream reasonCode affectedSourceIds identity replacementRoster)
        (before.rotated readings previous (roster.mergeSort byId) record)

theorem leftOut_leftOut (state : SourceState) : state.leftOut.leftOut = state.leftOut := rfl

private theorem get?_leaveOut (sources : OrderedMap String SourceState) (left : List String)
    (sourceId : String) :
    (left.foldl leaveOut sources).get? sourceId =
      if sourceId ∈ left then (sources.get? sourceId).map SourceState.leftOut
      else sources.get? sourceId := by
  induction left generalizing sources with
  | nil => simp
  | cons first rest ih =>
    rw [List.foldl_cons, ih, leaveOut]
    cases known : sources.get? first with
    | none =>
      dsimp only
      by_cases same : sourceId = first
      · simp [same, known]
      · simp [same]
    | some state =>
      dsimp only
      rw [OrderedMap.get?_set]
      by_cases same : sourceId = first
      · simp [same, known, leftOut_leftOut]
      · simp [same]

variable {sourceId : String}

private theorem get?_enrol_absent (sources : OrderedMap String SourceState)
    (roster : List SourceDefinition) (absent : sourceId ∉ roster.map SourceDefinition.sourceId) :
    (roster.foldl enrol sources).get? sourceId = sources.get? sourceId := by
  induction roster generalizing sources with
  | nil => rfl
  | cons source rest ih =>
    rw [List.map_cons, List.mem_cons, not_or] at absent
    rw [List.foldl_cons, ih _ absent.2, enrol, OrderedMap.get?_set_ne _ _ absent.1]

variable {roster : List SourceDefinition} {source : SourceDefinition}

private theorem get?_enrol_mem (sources : OrderedMap String SourceState)
    (distinct : (roster.map SourceDefinition.sourceId).Nodup) (member : source ∈ roster) :
    (roster.foldl enrol sources).get? source.sourceId =
      some ((sources.get? source.sourceId).elim source.state (·.enrolled source)) := by
  induction roster generalizing sources with
  | nil => cases member
  | cons first rest ih =>
    have parts := List.nodup_cons.mp distinct
    rw [List.foldl_cons]
    rcases List.mem_cons.mp member with same | later
    · rw [same, get?_enrol_absent _ _ parts.1, enrol, OrderedMap.get?_set_self]
      cases sources.get? first.sourceId <;> rfl
    · have different : source.sourceId ≠ first.sourceId := by
        intro same
        apply parts.1
        rw [List.mem_map]
        exact ⟨source, later, same⟩
      rw [ih (enrol sources first) parts.2 later, enrol, OrderedMap.get?_set_ne _ _ different]

theorem get?_enrolAll_mem (sources : OrderedMap String SourceState)
    (distinct : (roster.map SourceDefinition.sourceId).Nodup) (member : source ∈ roster) :
    (enrolAll sources roster).get? source.sourceId =
      some ((sources.get? source.sourceId).elim source.state (·.enrolled source)) := by
  unfold enrolAll
  dsimp only
  rw [get?_enrol_mem _ distinct member, get?_leaveOut, if_neg]
  simp only [List.mem_filter, List.contains_eq_mem, Bool.not_eq_true', decide_eq_false_iff_not,
    not_and, not_not]
  intro _
  exact List.mem_map.mpr ⟨source, member, rfl⟩

theorem get?_enrolAll_absent (sources : OrderedMap String SourceState)
    (absent : sourceId ∉ roster.map SourceDefinition.sourceId) :
    (enrolAll sources roster).get? sourceId =
      (sources.get? sourceId).map SourceState.leftOut := by
  unfold enrolAll
  dsimp only
  rw [get?_enrol_absent _ _ absent, get?_leaveOut]
  cases known : sources.get? sourceId with
  | none => simp
  | some state =>
    rw [if_pos]
    rw [List.mem_filter, OrderedMap.mem_keys, known]
    simpa using absent

variable {state : SourceState}

theorem get?_rotated_sources {tables : Tables} {readings : Readings} {previous : Generation}
    {record : ContinuityRecord} (distinct : (roster.map SourceDefinition.sourceId).Nodup)
    (known : tables.sources.get? sourceId = some state) :
    (tables.rotated readings previous (roster.mergeSort byId) record).sources.get? sourceId =
        some state.leftOut ∨
      ∃ source, source ∈ roster ∧ source.sourceId = sourceId ∧
        (tables.rotated readings previous (roster.mergeSort byId) record).sources.get? sourceId =
          some (state.enrolled source) := by
  have sorted : ((roster.mergeSort byId).map SourceDefinition.sourceId).Nodup :=
    ((List.mergeSort_perm roster byId).map SourceDefinition.sourceId).nodup_iff.mpr distinct
  by_cases listed : sourceId ∈ (roster.mergeSort byId).map SourceDefinition.sourceId
  · obtain ⟨source, member, isSource⟩ := List.mem_map.mp listed
    right
    refine ⟨source, List.mem_mergeSort.mp member, isSource, ?_⟩
    rw [← isSource]
    show (enrolAll tables.sources (roster.mergeSort byId)).get? source.sourceId = _
    rw [get?_enrolAll_mem _ sorted member, isSource, known]
    rfl
  · left
    show (enrolAll tables.sources (roster.mergeSort byId)).get? sourceId = _
    rw [get?_enrolAll_absent _ listed, known]
    rfl

section Calls

variable {environment : Environment} {readings : Readings} {tables tables' : Tables}

theorem ofExcept_eq_ok {α : Type} {outcome : Except String α} {value : α} :
    ofExcept outcome tables = .ok (value, tables') ↔ outcome = .ok value ∧ tables = tables' := by
  cases outcome with
  | error failure => simp [ofExcept, abort_eq_ok]
  | ok known => simp [ofExcept, pure_eq_ok]

theorem initializeProviderGeneration_change {sources : List SourceDefinition} {answer : String}
    (committed : initializeProviderGeneration readings sources tables = .ok (answer, tables')) :
    Change environment tables readings (.initializeProviderGeneration sources) tables' := by
  unfold initializeProviderGeneration at committed
  split at committed
  · cases committed
  · rw [read_bind] at committed
    cases known : tables.current with
    | some streamId =>
      rw [known] at committed
      obtain ⟨_, same⟩ := pure_eq_ok.mp committed
      rw [← same]
      exact .idle _
    | none =>
      rw [known] at committed
      dsimp only at committed
      split at committed
      · cases committed
      · rename_i accepted
        simp only [not_or, not_not, Bool.not_eq_true, List.any_eq_false,
          Option.isSome_eq_false_iff, Option.isNone_iff_eq_none, Bool.not_eq_true] at accepted
        obtain ⟨distinct, unknown, fresh⟩ := accepted
        obtain ⟨_, middle, updated, answered⟩ := bind_eq_ok.mp committed
        obtain ⟨_, same⟩ := pure_eq_ok.mp answered
        rw [← same, ← update_eq_ok.mp updated]
        apply Change.initialized known distinct _ fresh
        intro source member
        exact Option.isNone_iff_eq_none.mp (by simpa using unknown source member)

variable {leaseMs : Nat}

theorem acquireSourceLease_change {sourceId sourceStreamId owner : String} {answer : Option Lease}
    (committed : acquireSourceLease readings sourceId sourceStreamId owner leaseMs tables =
      .ok (answer, tables')) :
    Change environment tables readings (.acquireSourceLease sourceId sourceStreamId owner leaseMs) tables' := by
  unfold acquireSourceLease at committed
  rw [read_bind] at committed
  cases known : tables.sources.get? sourceId with
  | none =>
    rw [known] at committed
    rw [← (pure_eq_ok.mp committed).2]
    exact .idle _
  | some state =>
    rw [known] at committed
    dsimp only at committed
    split at committed
    · rw [← (pure_eq_ok.mp committed).2]
      exact .idle _
    · rename_i accepted
      simp only [not_or, not_not, Bool.not_eq_true] at accepted
      obtain ⟨stream, notBlocked, notPending, free⟩ := accepted
      obtain ⟨_, middle, updated, answered⟩ := bind_eq_ok.mp committed
      rw [← (pure_eq_ok.mp answered).2, ← update_eq_ok.mp updated, ← stream]
      exact .updated known (.acquired notBlocked notPending free)

theorem renewSourceLease_change {lease answer : Lease}
    (committed : renewSourceLease readings lease leaseMs tables = .ok (answer, tables')) :
    Change environment tables readings (.renewSourceLease lease leaseMs) tables' := by
  unfold renewSourceLease at committed
  rw [read_bind] at committed
  cases known : tables.sources.get? lease.sourceId with
  | none =>
    rw [known] at committed
    cases committed
  | some state =>
    rw [known] at committed
    dsimp only at committed
    split at committed
    · rename_i leases
      obtain ⟨_, middle, updated, answered⟩ := bind_eq_ok.mp committed
      rw [← (pure_eq_ok.mp answered).2, ← update_eq_ok.mp updated]
      exact .updated known (.renewed leases)
    · cases committed

variable {lease : Lease}

theorem lockAndValidateLease_eq_ok :
    lockAndValidateLease readings lease tables = .ok (state, tables') ↔
      tables.sources.get? lease.sourceId = some state ∧
        state.leases lease readings.database ∧ tables = tables' := by
  unfold lockAndValidateLease
  rw [read_bind]
  cases known : tables.sources.get? lease.sourceId with
  | none => simp [abort_eq_ok]
  | some other =>
    dsimp only
    split
    · rename_i leases
      rw [pure_eq_ok, Option.some.injEq]
      constructor
      · rintro ⟨same, unchanged⟩
        rw [← same]
        exact ⟨rfl, leases, unchanged⟩
      · rintro ⟨same, _, unchanged⟩
        exact ⟨same, unchanged⟩
    · rename_i refused
      rw [abort_eq_ok, false_iff]
      rintro ⟨same, leases, _⟩
      rw [Option.some.inj same] at refused
      exact refused leases

theorem markSourceUnavailable_change {answer : Unit}
    (committed : markSourceUnavailable lease tables = .ok (answer, tables')) :
    Change environment tables readings (.markSourceUnavailable lease) tables' := by
  unfold markSourceUnavailable at committed
  rw [read_bind] at committed
  cases known : tables.sources.get? lease.sourceId with
  | none =>
    rw [known] at committed
    rw [← (pure_eq_ok.mp committed).2]
    exact .idle _
  | some state =>
    rw [known] at committed
    dsimp only at committed
    split at committed
    · rename_i leased
      rw [← update_eq_ok.mp committed]
      exact .updated known (.unavailable leased)
    · rw [← (pure_eq_ok.mp committed).2]
      exact .idle _

theorem setSource_eq_ok {answer : Unit} :
    setSource sourceId state tables = .ok (answer, tables') ↔
      tables.withSource sourceId state = tables' :=
  update_eq_ok

theorem blockSource_eq_ok {status : SourceStatus} {answer : Unit} :
    blockSource lease state status tables = .ok (answer, tables') ↔
      tables.withSource lease.sourceId { state with status := status } = tables' :=
  setSource_eq_ok

variable {row : InboxRow}

theorem insertRow_eq_ok {answer : Unit} :
    insertRow row tables = .ok (answer, tables') ↔ tables.withNewRow row = tables' :=
  update_eq_ok

variable {inboxId : Nat}

theorem setRow_eq_ok {answer : Unit} :
    setRow inboxId row tables = .ok (answer, tables') ↔ tables.withRow inboxId row = tables' :=
  update_eq_ok

inductive Intake (environment : Environment) (before : Tables) (readings : Readings)
    (lease : Lease) (fact : SourceFact) : IntakeResult → Tables → Prop
  | duplicate (hash : String) : Intake environment before readings lease fact (.duplicate hash) before
  | refused {state : SourceState} (failure : String)
      (known : before.sources.get? lease.sourceId = some state)
      (leases : state.leases lease readings.database) :
      Intake environment before readings lease fact (.refused failure)
        (before.withSource lease.sourceId { state with status := .blockedIdentityConflict })
  | took {state : SourceState} {input : Json} {rejected : Bool} {occurredAt hash : String}
      {answer : IntakeResult} (mappingDeadline : Instant)
      (known : before.sources.get? lease.sourceId = some state)
      (takes : Takes before readings state lease fact)
      (hashes : Hashes environment lease fact occurredAt input hash)
      (validated : rejected = (validateSourceFact environment fact lease.sourceId).isSome)
      (answered : rejected = true → ∃ reason, answer = .rejected hash reason) :
      Intake environment before readings lease fact answer
        ((before.withNewRow (fact.row lease rejected occurredAt hash mappingDeadline)).withSource
          lease.sourceId (state.afterFact readings fact rejected))

variable {fact : SourceFact} {answer : IntakeResult}

theorem Intake.change (intake : Intake environment tables readings lease fact answer tables')
    (mappingDeadlineMs : Nat) :
    Change environment tables readings (.intakeSourceFact lease fact mappingDeadlineMs) tables' := by
  cases intake with
  | duplicate hash => exact .idle _
  | refused failure known leases => exact .updated known (.refused leases)
  | took mappingDeadline known takes hashes validated answered =>
    exact .took mappingDeadline known takes hashes validated

theorem intake_refused {failure : String} (known : tables.sources.get? lease.sourceId = some state)
    (leases : state.leases lease readings.database) (committed : (do
      blockSource lease state .blockedIdentityConflict
      pure (.refused failure) : Tx IntakeResult) tables = .ok (answer, tables')) :
    Intake environment tables readings lease fact answer tables' := by
  obtain ⟨_, middle, blocked, answered⟩ := bind_eq_ok.mp committed
  rw [← (pure_eq_ok.mp answered).1, ← (pure_eq_ok.mp answered).2, ← blockSource_eq_ok.mp blocked]
  exact .refused failure known leases

theorem outcome_eq_ok {invalid : Option String} {hash : String} (answered : (match invalid with
      | some reason => pure (.rejected hash reason)
      | none => pure (.received hash) : Tx IntakeResult) tables = .ok (answer, tables')) :
    tables = tables' ∧ (invalid.isSome = true → ∃ reason, answer = .rejected hash reason) := by
  cases invalid with
  | none =>
    refine ⟨(pure_eq_ok.mp answered).2, ?_⟩
    intro isSome
    cases isSome
  | some reason => exact ⟨(pure_eq_ok.mp answered).2, fun _ => ⟨reason, (pure_eq_ok.mp answered).1.symm⟩⟩

theorem intakeSourceFact_eq_ok {mappingDeadlineMs : Nat}
    (committed : intakeSourceFact environment readings lease fact mappingDeadlineMs tables =
      .ok (answer, tables')) :
    Intake environment tables readings lease fact answer tables' := by
  unfold intakeSourceFact at committed
  split at committed
  · cases committed
  · rename_i inRange
    have positive : 0 < fact.sourceSequence := by omega
    obtain ⟨occurredAt, first, normalized, committed⟩ := bind_eq_ok.mp committed
    obtain ⟨isOccurredAt, same⟩ := ofExcept_eq_ok.mp normalized
    rw [← same] at committed
    obtain ⟨input, second, canonical, committed⟩ := bind_eq_ok.mp committed
    obtain ⟨isInput, same⟩ := ofExcept_eq_ok.mp canonical
    rw [← same] at committed
    obtain ⟨hash, third, hashed, committed⟩ := bind_eq_ok.mp committed
    obtain ⟨isHash, same⟩ := ofExcept_eq_ok.mp hashed
    rw [← same] at committed
    obtain ⟨state, fourth, validated, committed⟩ := bind_eq_ok.mp committed
    obtain ⟨known, leases, same⟩ := lockAndValidateLease_eq_ok.mp validated
    rw [← same, read_bind] at committed
    split at committed
    · exact intake_refused known leases committed
    · rename_i sameStream
      have stream : fact.sourceStreamId = lease.sourceStreamId := not_not.mp sameStream
      cases found : tables.sameIdentity lease fact with
      | cons row others =>
        rw [found] at committed
        dsimp only at committed
        split at committed
        · rw [← (pure_eq_ok.mp committed).1, ← (pure_eq_ok.mp committed).2]
          exact .duplicate hash
        · exact intake_refused known leases committed
      | nil =>
        rw [found] at committed
        dsimp only at committed
        split at committed
        · exact intake_refused known leases committed
        · rename_i higher
          have later : state.lastPersistedSourceSequence < fact.sourceSequence := by omega
          have takes : Takes tables readings state lease fact :=
            { leases := leases
              stream := stream
              positive := positive
              unknown := found
              later := later }
          obtain ⟨_, middle, inserted, committed⟩ := bind_eq_ok.mp committed
          have hashes : Hashes environment lease fact occurredAt input hash :=
            { normalized := isOccurredAt
              canonical := isInput
              hashed := isHash }
          rw [insertRow_eq_ok] at inserted
          obtain ⟨_, allowed, checked, committed⟩ := bind_eq_ok.mp committed
          have unchecked : middle = allowed := by
            unfold when at checked
            split at checked
            · cases checked
            · exact (pure_eq_ok.mp checked).2
          rw [← unchecked] at committed
          split at committed
          · rename_i lasts
            obtain ⟨_, last, advanced, outcome⟩ := bind_eq_ok.mp committed
            obtain ⟨unchanged, answered⟩ := outcome_eq_ok outcome
            have took : Intake environment tables readings lease fact answer _ :=
              .took (readings.database.addMilliseconds mappingDeadlineMs) known takes hashes rfl
                answered
            unfold SourceState.afterFact at took
            rw [if_pos lasts] at took
            rw [← unchanged, ← setSource_eq_ok.mp advanced, ← inserted]
            exact took
          · rename_i ahead
            obtain ⟨unchanged, answered⟩ := outcome_eq_ok committed
            have took : Intake environment tables readings lease fact answer _ :=
              .took (readings.database.addMilliseconds mappingDeadlineMs) known takes hashes rfl
                answered
            unfold SourceState.afterFact at took
            rw [if_neg ahead] at took
            have same : (tables.withNewRow (fact.row lease
                (validateSourceFact environment fact lease.sourceId).isSome occurredAt hash
                (readings.database.addMilliseconds mappingDeadlineMs))).withSource
                  lease.sourceId state = middle := by
              rw [← inserted]
              unfold Tables.withSource Tables.withNewRow
              dsimp only
              rw [OrderedMap.set_known known]
            rw [← unchanged, ← same]
            exact took

theorem persistUndecodablePoison_change {answer : Unit}
    (committed : persistUndecodablePoison readings lease tables = .ok (answer, tables')) :
    Change environment tables readings (.persistUndecodablePoison lease) tables' := by
  obtain ⟨state, first, validated, committed⟩ := bind_eq_ok.mp committed
  obtain ⟨known, leases, same⟩ := lockAndValidateLease_eq_ok.mp validated
  obtain ⟨_, second, inserted, blocked⟩ := bind_eq_ok.mp committed
  rw [← blockSource_eq_ok.mp blocked, ← insertRow_eq_ok.mp inserted, ← same]
  exact .poisoned known leases

inductive Preparation (before : Tables) (sourceId : String) : Prepared → Tables → Prop
  | same {answer : Prepared}
      (barrier : answer = .terminal → ∃ state inboxId row,
        before.sources.get? sourceId = some state ∧
          before.firstRow sourceId state.sourceStreamId InboxRow.isOpen = some (inboxId, row) ∧
            row.isBarrier = true) : Preparation before sourceId answer before
  | prepared {answer : Prepared} {state : SourceState} {inboxId : Nat} {row next : InboxRow}
      (going : answer ≠ .terminal) (unprepared : Unprepared before sourceId state inboxId row)
      (prepares : Prepares row next) :
      Preparation before sourceId answer (before.withRow inboxId next)
  | failed {state : SourceState} {inboxId : Nat} {row : InboxRow}
      (unprepared : Unprepared before sourceId state inboxId row) :
      Preparation before sourceId .terminal (before.mappingFailed sourceId state inboxId row)

variable {answer : Prepared}

theorem Preparation.change (preparation : Preparation tables sourceId answer tables') :
    Change environment tables readings (.prepareNextSourceEvent sourceId) tables' := by
  cases preparation with
  | same barrier => exact .idle _
  | prepared going unprepared prepares => exact .prepared unprepared prepares
  | failed unprepared => exact .mappingFailed unprepared

theorem failMapping_eq_ok (unprepared : Unprepared tables sourceId state inboxId row)
    (committed : failMapping sourceId state inboxId row tables = .ok (answer, tables')) :
    Preparation tables sourceId answer tables' := by
  unfold failMapping at committed
  obtain ⟨_, first, written, committed⟩ := bind_eq_ok.mp committed
  obtain ⟨_, second, changed, answered⟩ := bind_eq_ok.mp committed
  rw [← (pure_eq_ok.mp answered).1, ← (pure_eq_ok.mp answered).2, ← setSource_eq_ok.mp changed,
    ← setRow_eq_ok.mp written]
  exact .failed unprepared

theorem preparation_of_written {row next : InboxRow} {outcome answer : Prepared}
    (going : outcome ≠ .terminal) (unprepared : Unprepared tables sourceId state inboxId row)
    (prepares : Prepares row next) (committed : (do
      setRow inboxId next
      pure outcome : Tx Prepared) tables = .ok (answer, tables')) :
    Preparation tables sourceId answer tables' := by
  obtain ⟨_, middle, written, answered⟩ := bind_eq_ok.mp committed
  rw [← (pure_eq_ok.mp answered).1, ← (pure_eq_ok.mp answered).2, ← setRow_eq_ok.mp written]
  exact .prepared going unprepared prepares

variable {payload : SourcePayload}

theorem mapTask_eq_ok (unprepared : Unprepared tables sourceId state inboxId row)
    (decoded : row.sourcePayload = some payload)
    (committed : mapTask readings sourceId state inboxId row payload tables =
      .ok (answer, tables')) :
    Preparation tables sourceId answer tables' := by
  unfold mapTask at committed
  cases mapped : payload.fact.externalExecutionId.bind readings.taskOf with
  | some taskId =>
    rw [mapped] at committed
    apply preparation_of_written (by decide) unprepared _ committed
    constructor
    · exact Or.inl rfl
    all_goals simp [decoded]
  | none =>
    rw [mapped] at committed
    dsimp only at committed
    split at committed
    · apply preparation_of_written (by decide) unprepared _ committed
      constructor
      · exact Or.inr rfl
      all_goals rfl
    · exact failMapping_eq_ok unprepared committed

theorem associateTasks_eq_ok (unprepared : Unprepared tables sourceId state inboxId row)
    (decoded : row.sourcePayload = some payload)
    (committed : associateTasks readings inboxId row payload tables = .ok (answer, tables')) :
    Preparation tables sourceId answer tables' := by
  unfold associateTasks at committed
  cases resource : payload.fact.resourceRef with
  | none =>
    rw [resource] at committed
    cases committed
  | some resourceRef =>
    cases occurred : row.normalizedOccurredAt with
    | none =>
      rw [resource, occurred] at committed
      cases committed
    | some occurredAt =>
      rw [resource, occurred] at committed
      apply preparation_of_written (by decide) unprepared _ committed
      constructor
      · exact Or.inl rfl
      all_goals simp [decoded]

theorem prepareNextSourceEvent_eq_ok
    (committed : prepareNextSourceEvent readings sourceId tables = .ok (answer, tables')) :
    Preparation tables sourceId answer tables' := by
  unfold prepareNextSourceEvent at committed
  rw [read_bind] at committed
  cases known : tables.sources.get? sourceId with
  | none =>
    rw [known] at committed
    cases committed
  | some state =>
    rw [known] at committed
    dsimp only at committed
    cases first : tables.firstRow sourceId state.sourceStreamId InboxRow.isOpen with
    | none =>
      rw [first] at committed
      rw [← (pure_eq_ok.mp committed).1, ← (pure_eq_ok.mp committed).2]
      exact .same nofun
    | some entry =>
      obtain ⟨inboxId, row⟩ := entry
      rw [first] at committed
      dsimp only at committed
      split at committed
      · rw [← (pure_eq_ok.mp committed).1, ← (pure_eq_ok.mp committed).2]
        exact .same nofun
      · rename_i notReady
        split at committed
        · rename_i barrier
          rw [← (pure_eq_ok.mp committed).2]
          exact .same fun _ => ⟨state, inboxId, row, known, first, barrier⟩
        · rename_i noBarrier
          have unprepared : Unprepared tables sourceId state inboxId row :=
            { known := known
              first := first
              notReady := notReady
              noBarrier := Bool.eq_false_iff.mpr noBarrier }
          cases decoded : row.sourcePayload with
          | none =>
            rw [decoded] at committed
            cases committed
          | some payload =>
            rw [decoded] at committed
            dsimp only at committed
            split at committed
            · exact mapTask_eq_ok unprepared decoded committed
            · exact associateTasks_eq_ok unprepared decoded committed

theorem requiredString_eq_ok {text answer : String} :
    requiredString text tables = .ok (answer, tables') → answer = text ∧ tables = tables' := by
  unfold requiredString
  intro committed
  split at committed
  · cases committed
  · obtain ⟨same, unchanged⟩ := pure_eq_ok.mp committed
    exact ⟨same.symm, unchanged⟩

variable {eventRetentionMs : Nat}

theorem eventOf_eq_ok {streamId sourceId : String} {sequence : Nat} {event : StoredEvent}
    (committed : eventOf environment readings streamId sourceId sequence state row payload
      eventRetentionMs tables = .ok (event, tables')) :
    tables = tables' ∧ event.streamId = streamId ∧ event.sequence = sequence ∧
      event.sourceId = sourceId ∧ event.sourceStreamId = state.sourceStreamId ∧
        event.sourceEventId = payload.fact.sourceEventId ∧
          event.sourceSequence = payload.fact.sourceSequence := by
  unfold eventOf at committed
  obtain ⟨sourceEventId, first, identified, committed⟩ := bind_eq_ok.mp committed
  obtain ⟨isEventId, firstSame⟩ := requiredString_eq_ok identified
  obtain ⟨about, second, isAbout, committed⟩ := bind_eq_ok.mp committed
  have secondSame := (requiredString_eq_ok isAbout).2
  obtain ⟨eventType, third, isType, committed⟩ := bind_eq_ok.mp committed
  obtain ⟨occurredAt, fourth, isTime, committed⟩ := bind_eq_ok.mp committed
  obtain ⟨description, fifth, isDescription, committed⟩ := bind_eq_ok.mp committed
  have lastSame : second = fifth :=
    ((requiredString_eq_ok isType).2.trans (requiredString_eq_ok isTime).2).trans
      (requiredString_eq_ok isDescription).2
  cases isScope : row.normalizedScope with
  | none =>
    rw [isScope] at committed
    cases committed
  | some scope =>
    rw [isScope] at committed
    obtain ⟨isEvent, last⟩ := pure_eq_ok.mp committed
    rw [← isEvent, ← last, ← lastSame, ← secondSame, ← firstSame]
    exact ⟨rfl, rfl, rfl, rfl, rfl, isEventId, rfl⟩

theorem insertEvent_eq_ok {event : StoredEvent} {answer : Unit}
    (committed : insertEvent event tables = .ok (answer, tables')) :
    (∀ other, other ∈ tables.events → event.conflicts other = false) ∧
      { tables with events := tables.events ++ [event] } = tables' := by
  unfold insertEvent at committed
  rw [read_bind] at committed
  split at committed
  · cases committed
  · rename_i apart
    split at committed
    · cases committed
    · constructor
      · intro other member
        rw [Bool.not_eq_true, List.any_eq_false] at apart
        exact Bool.eq_false_iff.mpr (apart other member)
      · exact update_eq_ok.mp committed

theorem publish_eq_ok {streamId sourceId : String} {generation : Generation} {event : StoredEvent}
    {now : Instant} {answer : Unit} (stream : event.streamId = streamId)
    (source : event.sourceId = sourceId)
    (committed : publish streamId sourceId generation state inboxId row event now tables =
      .ok (answer, tables')) :
    (∀ other, other ∈ tables.events → event.conflicts other = false) ∧
      event.sourceSequence ≤ state.lastPersistedSourceSequence ∧
        tables.published generation state inboxId row event now = tables' := by
  unfold publish at committed
  obtain ⟨_, first, inserted, committed⟩ := bind_eq_ok.mp committed
  obtain ⟨apart, isFirst⟩ := insertEvent_eq_ok inserted
  obtain ⟨_, second, counted, committed⟩ := bind_eq_ok.mp committed
  obtain ⟨_, third, written, committed⟩ := bind_eq_ok.mp committed
  split at committed
  · cases committed
  · rename_i persisted
    constructor
    · exact apart
    constructor
    · omega
    · rw [← setSource_eq_ok.mp committed, ← setRow_eq_ok.mp written, ← update_eq_ok.mp counted,
        ← isFirst, ← stream, ← source]
      rfl

theorem finalizeNextSourceEvent_change {answer : Option StoredEvent}
    (committed : finalizeNextSourceEvent environment readings sourceId eventRetentionMs tables =
      .ok (answer, tables')) :
    Change environment tables readings (.finalizeNextSourceEvent sourceId eventRetentionMs) tables' := by
  unfold finalizeNextSourceEvent at committed
  rw [read_bind] at committed
  cases isCurrent : tables.current with
  | none =>
    rw [isCurrent] at committed
    cases committed
  | some streamId =>
    rw [isCurrent] at committed
    dsimp only at committed
    cases appends : tables.generations.get? streamId with
    | none =>
      rw [appends] at committed
      cases committed
    | some generation =>
      rw [appends] at committed
      dsimp only at committed
      split at committed
      · cases committed
      · cases known : tables.sources.get? sourceId with
        | none =>
          rw [known] at committed
          cases committed
        | some state =>
          rw [known] at committed
          dsimp only at committed
          cases first : tables.firstRow sourceId state.sourceStreamId InboxRow.isOpen with
          | none =>
            rw [first] at committed
            rw [← (pure_eq_ok.mp committed).2]
            exact .idle _
          | some entry =>
            obtain ⟨inboxId, row⟩ := entry
            rw [first] at committed
            dsimp only at committed
            cases decoded : row.sourcePayload with
            | none =>
              rw [decoded] at committed
              rw [← (pure_eq_ok.mp committed).2]
              exact .idle _
            | some payload =>
              rw [decoded] at committed
              dsimp only at committed
              split at committed
              · rw [← (pure_eq_ok.mp committed).2]
                exact .idle _
              · rename_i ready
                obtain ⟨event, middle, made, committed⟩ := bind_eq_ok.mp committed
                obtain ⟨same, stream, next, source, sourceStream, eventId, sequence⟩ :=
                  eventOf_eq_ok made
                obtain ⟨_, last, written, answered⟩ := bind_eq_ok.mp committed
                rw [← same] at written
                obtain ⟨apart, persisted, isLast⟩ := publish_eq_ok stream source written
                rw [← (pure_eq_ok.mp answered).2, ← isLast]
                exact .published {
                  current := isCurrent
                  appends := appends
                  known := known
                  first := first
                  ready := not_not.mp ready
                  stream := stream
                  next := next
                  source := source
                  sourceStream := sourceStream
                  fact := ⟨payload, decoded, eventId, sequence⟩
                  apart := apart
                  persisted := persisted }

theorem rotateStream_change {reasonCode : String} {affectedSourceIds : List String}
    {identity : ContinuityReason} {replacementRoster : Option (List SourceDefinition)}
    {answer : ContinuityRecord}
    (committed : rotateStream readings reasonCode affectedSourceIds identity replacementRoster
      tables = .ok (answer, tables')) :
    Change environment tables readings
      (.rotateStream reasonCode affectedSourceIds identity replacementRoster) tables' := by
  unfold rotateStream at committed
  rw [read_bind] at committed
  cases earlier : tables.continuity.find?
      (fun record => record.continuityReasonIdentity == identity) with
  | some record =>
    rw [earlier] at committed
    rw [← (pure_eq_ok.mp committed).2]
    exact .idle _
  | none =>
    rw [earlier] at committed
    dsimp only at committed
    cases current : tables.current with
    | none =>
      rw [current] at committed
      cases committed
    | some streamId =>
      rw [current] at committed
      dsimp only at committed
      cases closes : tables.generations.get? streamId with
      | none =>
        rw [closes] at committed
        cases committed
      | some previous =>
        rw [closes] at committed
        dsimp only at committed
        generalize isAffected : sortedUnique _ = affected at committed
        split at committed
        · cases committed
        rename_i isCurrent
        split at committed
        · cases committed
        rename_i counted
        split at committed
        · cases committed
        rename_i affects
        split at committed
        · cases committed
        rename_i fresh
        simp only [not_or, not_not, not_lt] at counted
        obtain ⟨_, middle, rotated, answered⟩ := bind_eq_ok.mp committed
        rw [← (pure_eq_ok.mp answered).2, ← update_eq_ok.mp rotated]
        exact .rotated {
          first := by
            intro other member same
            have unlike := List.find?_eq_none.mp earlier other member
            exact unlike (beq_iff_eq.mpr same)
          current := current
          closes := closes
          isCurrent := not_not.mp isCurrent
          enrols := rfl
          counted := ⟨counted.1, counted.2.1⟩
          distinct := counted.2.2
          affects := fun none => affects (List.isEmpty_iff.mpr none)
          fresh := by simpa using fresh
          records := by rw [isAffected] }

theorem commit_change (environment : Environment) (tables : Tables) (step : Step) :
    Change environment tables step.readings step.call (step.commit environment tables) := by
  unfold Step.commit
  cases step.call with
  | initializeProviderGeneration sources =>
    exact commit_keeps (.idle _)
      fun _ _ committed => initializeProviderGeneration_change committed
  | acquireSourceLease sourceId sourceStreamId owner leaseMs =>
    exact commit_keeps (.idle _)
      fun _ _ committed => acquireSourceLease_change committed
  | renewSourceLease lease leaseMs =>
    exact commit_keeps (.idle _)
      fun _ _ committed => renewSourceLease_change committed
  | markSourceUnavailable lease =>
    exact commit_keeps (.idle _)
      fun _ _ committed => markSourceUnavailable_change committed
  | intakeSourceFact lease fact mappingDeadlineMs =>
    exact commit_keeps (.idle _)
      fun _ _ committed => (intakeSourceFact_eq_ok committed).change _
  | persistUndecodablePoison lease =>
    exact commit_keeps (.idle _)
      fun _ _ committed => persistUndecodablePoison_change committed
  | prepareNextSourceEvent sourceId =>
    exact commit_keeps (.idle _)
      fun _ _ committed => (prepareNextSourceEvent_eq_ok committed).change
  | finalizeNextSourceEvent sourceId eventRetentionMs =>
    exact commit_keeps (.idle _)
      fun _ _ committed => finalizeNextSourceEvent_change committed
  | rotateStream reasonCode affectedSourceIds identity replacementRoster =>
    exact commit_keeps (.idle _)
      fun _ _ committed => rotateStream_change committed

end Calls

end BusinessEvents

end SdarRuntime
