import Mathlib.Data.List.Range
import SdarRuntime.BusinessEvents.Inbox
import SdarRuntime.BusinessEvents.Sample

/-!
What is published: a generation numbers its events without a gap, no fact is published twice,
a source stream is published in its order, and nothing passes a barrier that no rotation closed.
-/

namespace SdarRuntime

namespace BusinessEvents

open OrderedMap Histories

variable {environment : Environment} {before after : Tables} {readings : Readings} {call : Call}

def Tables.sequences (tables : Tables) (streamId : String) : List Nat :=
  (tables.events.filter fun event => event.streamId == streamId).map StoredEvent.sequence

def Tables.lastSequence (tables : Tables) (streamId : String) : Nat :=
  (tables.generations.get? streamId).elim 0 Generation.currentSequence

/-- The events of a generation have the sequences from 1 to its current one. -/
def Tables.Numbered (tables : Tables) : Prop :=
  ∀ streamId, tables.sequences streamId = List.range' 1 (tables.lastSequence streamId)

/-- No fact of a source stream is published twice, in whatever generations. -/
def Tables.PublishedOnce (tables : Tables) : Prop :=
  tables.events.Pairwise fun earlier later =>
    earlier.sourceId = later.sourceId → earlier.sourceStreamId = later.sourceStreamId →
      earlier.sourceEventId ≠ later.sourceEventId

/-- The facts of a source stream are published in the order of their sequences. -/
def Tables.Ordered (tables : Tables) : Prop :=
  tables.events.Pairwise fun earlier later =>
    earlier.sourceId = later.sourceId → earlier.sourceStreamId = later.sourceStreamId →
      earlier.sourceSequence < later.sourceSequence

theorem Change.events (change : Change environment before readings call after) :
    after.events = before.events ∨
      ∃ sourceId streamId eventRetentionMs generation state inboxId row event,
        call = .finalizeNextSourceEvent sourceId eventRetentionMs ∧
          Publishes before streamId generation sourceId state inboxId row event ∧
            after = before.published generation state inboxId row event readings.database := by
  cases change with
  | published publishes => exact Or.inr ⟨_, _, _, _, _, _, _, _, rfl, publishes, rfl⟩
  | _ => exact Or.inl rfl

theorem Change.lastSequence (change : Change environment before readings call after)
    (same : after.events = before.events) (streamId : String) :
    after.lastSequence streamId = before.lastSequence streamId := by
  unfold Tables.lastSequence
  cases change with
  | initialized first distinct unknown fresh =>
    unfold Tables.initialized
    dsimp only
    rw [get?_set]
    split
    · rename_i isNew
      rw [isNew, fresh]
      rfl
    · rfl
  | published publishes =>
    unfold Tables.published at same
    exact absurd same (by simp)
  | rotated rotates =>
    unfold Tables.rotated
    dsimp only
    rw [get?_set, get?_set, rotates.records]
    unfold rotationRecord
    dsimp only
    split
    · rename_i isNew
      rw [isNew, rotates.fresh]
      rfl
    · split
      · rename_i isPrevious
        rw [isPrevious, rotates.closes]
        rfl
      · rfl
  | _ => rfl

theorem numbered_change (change : Change environment before readings call after) (numbered : before.Numbered) :
    after.Numbered := by
  intro streamId
  rcases change.events with same | ⟨_, current, _, generation, _, _, _, event, _, publishes, isAfter⟩
  · rw [change.lastSequence same, ← numbered streamId]
    unfold Tables.sequences
    rw [same]
  · have earlier := numbered streamId
    unfold Tables.sequences Tables.lastSequence at earlier ⊢
    rw [isAfter]
    unfold Tables.published
    dsimp only
    rw [publishes.stream, List.filter_append, List.map_append, earlier, get?_set]
    by_cases same : streamId = current
    · rw [if_pos same, same, publishes.appends, Option.elim_some, Option.elim_some,
        publishes.next, List.range'_concat]
      simp [publishes.stream, publishes.next, Nat.add_comm]
    · rw [if_neg same]
      simp [publishes.stream, Ne.symm same]

theorem publishedOnce_change (change : Change environment before readings call after)
    (once : before.PublishedOnce) : after.PublishedOnce := by
  rcases change.events with same | ⟨_, _, _, _, _, _, _, event, _, publishes, isAfter⟩
  · unfold Tables.PublishedOnce
    rw [same]
    exact once
  · rw [isAfter]
    unfold Tables.PublishedOnce Tables.published
    dsimp only
    rw [List.pairwise_append]
    refine ⟨once, List.pairwise_singleton _ _, ?_⟩
    intro earlier member later isLater source stream eventId
    rw [List.mem_singleton.mp isLater] at source stream eventId
    have apart := publishes.apart earlier member
    unfold StoredEvent.conflicts at apart
    simp [source, stream, eventId] at apart

theorem publishedOnce_empty : Tables.empty.PublishedOnce :=
  List.Pairwise.nil

/-- What the order of what is published next rests on: what is open is behind what is published,
and so is every sequence the source may still send. -/
structure InOrder (tables : Tables) : Prop where
  ordered : tables.Ordered
  known : ∀ event, event ∈ tables.events → (tables.sources.get? event.sourceId).isSome = true
  rowed : ∀ event, event ∈ tables.events →
    tables.HasRow event.sourceId event.sourceStreamId event.sourceSequence
  behind : ∀ event inboxId row sequence, event ∈ tables.events →
    tables.inbox.get? inboxId = some row → row.sourceId = event.sourceId →
      row.sourceStreamId = event.sourceStreamId → row.isOpen = true →
        row.normalizedSourceSequence = some sequence → event.sourceSequence < sequence
  ahead : ∀ event state sequence, event ∈ tables.events →
    tables.sources.get? event.sourceId = some state →
      event.sourceStreamId = state.sourceStreamId →
        state.lastPersistedSourceSequence < sequence →
          ¬tables.HasRow event.sourceId event.sourceStreamId sequence →
            event.sourceSequence < sequence

/-- The published facts of a source stream leave out a sequence below one of theirs. -/
def Tables.LeavesGap (tables : Tables) (sourceId sourceStreamId : String) : Prop :=
  ∃ event sequence, event ∈ tables.events ∧ event.sourceId = sourceId ∧
    event.sourceStreamId = sourceStreamId ∧ 0 < sequence ∧ sequence < event.sourceSequence ∧
      ¬tables.HasRow sourceId sourceStreamId sequence

/-- No rotation moves a source to a source stream whose published facts leave a gap, or away from
a barrier without naming the source. -/
def SafeMoves (tables : Tables) (step : Step) : Prop :=
  ∀ reasonCode affectedSourceIds identity replacementRoster streamId previous roster record,
    step.call = .rotateStream reasonCode affectedSourceIds identity replacementRoster →
      Rotates tables step.readings reasonCode affectedSourceIds identity replacementRoster streamId
        previous roster record →
        ∀ source state, source ∈ roster → tables.sources.get? source.sourceId = some state →
          state.sourceStreamId ≠ source.sourceStreamId →
            ¬tables.LeavesGap source.sourceId source.sourceStreamId ∧
              (tables.HasBarrier source.sourceId →
                source.sourceId ∈ record.affectedSourceIds)

theorem inOrder_empty : InOrder .empty := by
  constructor
  · exact List.Pairwise.nil
  all_goals
    intro event
    intros
    contradiction

variable {streamId sourceId : String} {state : SourceState} {event : StoredEvent}

theorem Publishes.row {generation : Generation} {inboxId : Nat} {row : InboxRow}
    (publishes : Publishes before streamId generation sourceId state inboxId row event)
    (filed : Filed before) :
    before.inbox.get? inboxId = some row ∧ row.sourceId = event.sourceId ∧
      row.sourceStreamId = event.sourceStreamId ∧ row.isOpen = true ∧
        row.normalizedSourceSequence = some event.sourceSequence := by
  obtain ⟨known, source, stream, isOpen, _⟩ := firstRow_eq_some publishes.first
  obtain ⟨payload, decoded, _, sequence⟩ := publishes.fact
  rw [publishes.source, publishes.sourceStream, sequence]
  exact ⟨known, source, stream, isOpen, (filed.fact inboxId row payload known decoded).1⟩

variable {next : InboxRow}

theorem InOrder.row_behind (inOrder : InOrder before) (filed : Filed before)
    (change : Change environment before readings call after) {inboxId : Nat} {sequence : Nat}
    (member : event ∈ before.events) (isNext : after.inbox.get? inboxId = some next)
    (source : next.sourceId = event.sourceId) (stream : next.sourceStreamId = event.sourceStreamId)
    (isOpen : next.isOpen = true) (isSequence : next.normalizedSourceSequence = some sequence) :
    event.sourceSequence < sequence := by
  by_cases earlier : inboxId < before.nextInboxId
  · obtain ⟨row, known, place, opens⟩ :=
      (change.keepsRows filed).back inboxId next earlier isNext
    rw [place.source] at source
    rw [place.stream] at stream
    rw [place.sequence] at isSequence
    exact inOrder.behind event inboxId row sequence member known source stream (opens isOpen)
      isSequence
  · have isNew := (change.newRow filed earlier isNext).2.2
    cases isNew with
    | poisoned isSource => cases isSequence
    | @taken lease fact state rejected occurredAt hash mappingDeadline isSource takes =>
      have isFact : fact.sourceSequence = sequence := Option.some.inj isSequence
      have atSource : lease.sourceId = event.sourceId := source
      have atStream : lease.sourceStreamId = event.sourceStreamId := stream
      rw [← isFact]
      apply inOrder.ahead event state fact.sourceSequence member
      · rw [← atSource]
        exact isSource
      · rw [← atStream]
        exact takes.stream_eq
      · exact takes.later
      · rintro ⟨other, row, known, otherSource, otherStream, same⟩
        exact takes.unlike known (otherSource.trans atSource.symm)
          (otherStream.trans atStream.symm) same

theorem InOrder.sequence_ahead (inOrder : InOrder before) (filed : Filed before)
    (change : Change environment before readings call after)
    (safe : SafeMoves before { call := call, readings := readings }) {next : SourceState}
    {sequence : Nat} (member : event ∈ before.events)
    (isNext : after.sources.get? event.sourceId = some next)
    (stream : event.sourceStreamId = next.sourceStreamId)
    (later : next.lastPersistedSourceSequence < sequence)
    (noRow : ¬after.HasRow event.sourceId event.sourceStreamId sequence) :
    event.sourceSequence < sequence := by
  have rows := change.keepsRows filed
  have noRowBefore : ¬before.HasRow event.sourceId event.sourceStreamId sequence :=
    fun has => noRow (rows.hasRow has)
  cases change.comes isNext with
  | new unknown =>
    have known := inOrder.known event member
    rw [unknown] at known
    cases known
  | @kept state known same persisted =>
    apply inOrder.ahead event state sequence member known (stream.trans same) _ noRowBefore
    omega
  | moved isCall rotates isAfter isMember isSource known moves isStream =>
    by_contra notAhead
    have notSame : event.sourceSequence ≠ sequence := by
      intro same
      apply noRowBefore
      rw [← same]
      exact inOrder.rowed event member
    apply (safe _ _ _ _ _ _ _ _ isCall rotates _ _ isMember _ moves).1
    · refine ⟨event, sequence, member, isSource.symm, stream.trans isStream, ?_, ?_, ?_⟩
      · omega
      · omega
      · rw [isSource, ← isStream, ← stream]
        exact noRowBefore
    · rw [isSource]
      exact known

theorem Publishes.behind {generation : Generation} {inboxId other : Nat} {row otherRow : InboxRow}
    {sequence : Nat}
    (publishes : Publishes before streamId generation sourceId state inboxId row event)
    (filed : Filed before) (known : before.inbox.get? other = some otherRow)
    (different : other ≠ inboxId) (source : otherRow.sourceId = event.sourceId)
    (stream : otherRow.sourceStreamId = event.sourceStreamId) (isOpen : otherRow.isOpen = true)
    (isSequence : otherRow.normalizedSourceSequence = some sequence) :
    event.sourceSequence < sequence := by
  obtain ⟨isRow, rowSource, rowStream, _, rowSequence⟩ := publishes.row filed
  obtain ⟨_, _, _, _, first⟩ := firstRow_eq_some publishes.first
  have order := rowOrder_le (first other otherRow known (source.trans publishes.source)
    (stream.trans publishes.sourceStream) isOpen)
  rw [rowSequence, isSequence] at order
  have notSame : event.sourceSequence ≠ sequence := by
    intro same
    apply different
    apply filed.alone other inboxId otherRow row sequence known isRow
    · rw [source, rowSource]
    · rw [stream, rowStream]
    · exact isSequence
    · rw [rowSequence, same]
  change event.sourceSequence ≤ sequence at order
  omega

theorem InOrder.change (inOrder : InOrder before) (filed : Filed before)
    (change : Change environment before readings call after)
    (safe : SafeMoves before { call := call, readings := readings }) : InOrder after := by
  have rows := change.keepsRows filed
  rcases change.events with
    same | ⟨sourceId, _, _, _, state, inboxId, row, event, _, publishes, isAfter⟩
  · constructor
    · unfold Tables.Ordered
      rw [same]
      exact inOrder.ordered
    · intro event member
      rw [same] at member
      exact change.source_known (inOrder.known event member)
    · intro event member
      rw [same] at member
      exact rows.hasRow (inOrder.rowed event member)
    · intro event inboxId next sequence member
      rw [same] at member
      exact inOrder.row_behind filed change member
    · intro event next sequence member
      rw [same] at member
      exact inOrder.sequence_ahead filed change safe member
  · obtain ⟨isRow, source, stream, isOpen, isSequence⟩ := publishes.row filed
    have appended : after.events = before.events ++ [event] := by rw [isAfter]; rfl
    have split {other : StoredEvent} (member : other ∈ after.events) :
        other ∈ before.events ∨ other = event := by
      rw [appended, List.mem_append, List.mem_singleton] at member
      exact member
    have isSource : before.sources.get? event.sourceId = some state := by
      rw [publishes.source]
      exact publishes.known
    constructor
    · unfold Tables.Ordered
      rw [appended, List.pairwise_append]
      refine ⟨inOrder.ordered, List.pairwise_singleton _ _, ?_⟩
      intro earlier member later isLater sameSource sameStream
      rw [List.mem_singleton.mp isLater] at sameSource sameStream ⊢
      exact inOrder.behind earlier inboxId row _ member isRow (source.trans sameSource.symm)
        (stream.trans sameStream.symm) isOpen isSequence
    · intro other member
      apply change.source_known
      rcases split member with earlier | isEvent
      · exact inOrder.known other earlier
      · rw [isEvent, isSource]
        rfl
    · intro other member
      apply rows.hasRow
      rcases split member with earlier | isEvent
      · exact inOrder.rowed other earlier
      · rw [isEvent]
        exact ⟨inboxId, row, isRow, source, stream, isSequence⟩
    · intro other otherId next sequence member isNext nextSource nextStream nextOpen nextSequence
      rcases split member with earlier | isEvent
      · exact inOrder.row_behind filed change earlier isNext nextSource nextStream nextOpen
          nextSequence
      · rw [isEvent] at nextSource nextStream ⊢
        rw [isAfter] at isNext
        unfold Tables.published at isNext
        dsimp only at isNext
        rw [get?_set] at isNext
        split at isNext
        · rw [← Option.some.inj isNext] at nextOpen
          simp [InboxRow.isOpen] at nextOpen
        · rename_i different
          exact publishes.behind filed isNext different nextSource nextStream nextOpen nextSequence
    · intro other next sequence member isNext nextStream later noRow
      rcases split member with earlier | isEvent
      · exact inOrder.sequence_ahead filed change safe earlier isNext nextStream later noRow
      · rw [isEvent] at isNext ⊢
        rw [isAfter] at isNext
        unfold Tables.published at isNext
        dsimp only at isNext
        rw [get?_set_self] at isNext
        have persisted := publishes.persisted
        rw [← Option.some.inj isNext] at later
        exact Nat.lt_of_le_of_lt persisted later

/-- A barrier of a source was closed by a rotation that names the source. -/
def Closed (first : List ContinuityRecord) (sourceId : String) (inboxId : Nat)
    (tables : Tables) : Prop :=
  (∃ record, record ∈ tables.continuity.drop first.length ∧
    sourceId ∈ record.affectedSourceIds) ∧
    ∃ closed, tables.inbox.get? inboxId = some closed ∧ closed.finalizedAt.isSome = true

variable {sourceId : String}

theorem Change.bestEffort (change : Change environment before readings call after)
    (known : before.sources.get? sourceId = some state)
    (bestEffort : state.deliverySemantics = .bestEffortLive) :
    (∃ next, after.sources.get? sourceId = some next ∧
      next.deliverySemantics = .bestEffortLive) ∨
        before.continuity.length < after.continuity.length := by
  have written {other : String} {first next : SourceState}
      (isFirst : before.sources.get? other = some first)
      (same : next.deliverySemantics = first.deliverySemantics) :
      ∃ found, (before.sources.set other next).get? sourceId = some found ∧
        found.deliverySemantics = .bestEffortLive := by
    rw [get?_set]
    by_cases isOther : sourceId = other
    · rw [if_pos isOther]
      rw [isOther, isFirst] at known
      rw [Option.some.inj known] at same
      exact ⟨next, rfl, same.trans bestEffort⟩
    · rw [if_neg isOther]
      exact ⟨state, known, bestEffort⟩
  cases change with
  | idle => exact Or.inl ⟨state, known, bestEffort⟩
  | initialized first distinct unknown fresh =>
    exact Or.inl ⟨state, get?_initialized_sources unknown known, bestEffort⟩
  | updated isSource updates => exact Or.inl (written isSource updates.cursor.2.1)
  | took mappingDeadline isSource takes hashes validated =>
    exact Or.inl (written isSource (afterFact_cursor readings _ takes.later).2.1)
  | poisoned isSource leases => exact Or.inl (written isSource rfl)
  | prepared unprepared prepares => exact Or.inl ⟨state, known, bestEffort⟩
  | mappingFailed unprepared => exact Or.inl (written unprepared.known rfl)
  | @published _ _ _ _ other _ _ event publishes =>
    have isSource : before.sources.get? event.sourceId = some other := by
      rw [publishes.source]
      exact publishes.known
    exact Or.inl (written isSource rfl)
  | rotated rotates =>
    right
    unfold Tables.rotated
    simp

theorem run_filed {tables : Tables} (filed : Filed tables) (steps : List Step) :
    Filed (run environment tables steps) :=
  always (fun tables step filed => filed.change (commit_change environment tables step))
    filed steps

theorem run_continuity_grows (environment : Environment) (tables : Tables) (steps : List Step) :
    tables.continuity <+: (run environment tables steps).continuity := by
  induction steps generalizing tables with
  | nil => exact List.prefix_refl _
  | cons step later ih =>
    exact (commit_change environment tables step).continuity_grows.trans (ih _)

def BarriersHere (tables : Tables) : Prop :=
  ∀ inboxId row state, tables.inbox.get? inboxId = some row → row.isBarrier = true →
    tables.sources.get? row.sourceId = some state → row.sourceStreamId = state.sourceStreamId

theorem Change.barrier_comes (change : Change environment before readings call after)
    {inboxId : Nat} (isNext : after.inbox.get? inboxId = some next)
    (barrier : next.isBarrier = true) :
    (∃ row, before.inbox.get? inboxId = some row ∧ row.isBarrier = true ∧
      row.sourceId = next.sourceId ∧ row.sourceStreamId = next.sourceStreamId) ∨
        ∃ state, before.sources.get? next.sourceId = some state ∧
          next.sourceStreamId = state.sourceStreamId := by
  have kept (isRow : before.inbox.get? inboxId = some next) :
      ∃ row, before.inbox.get? inboxId = some row ∧ row.isBarrier = true ∧
        row.sourceId = next.sourceId ∧ row.sourceStreamId = next.sourceStreamId :=
    ⟨next, isRow, barrier, rfl, rfl⟩
  have written {other : Nat} {row : InboxRow}
      (isNext : (before.inbox.set other row).get? inboxId = some next) :
      row = next ∨ before.inbox.get? inboxId = some next := by
    rw [get?_set] at isNext
    split at isNext
    · exact Or.inl (Option.some.inj isNext)
    · exact Or.inr isNext
  cases change with
  | idle => exact Or.inl (kept isNext)
  | initialized first distinct unknown fresh => exact Or.inl (kept isNext)
  | updated isSource updates => exact Or.inl (kept isNext)
  | took mappingDeadline isSource takes hashes validated =>
    rcases written isNext with isRow | old
    · rw [← isRow]
      exact Or.inr ⟨_, isSource, takes.stream_eq⟩
    · exact Or.inl (kept old)
  | poisoned isSource leases =>
    rcases written isNext with isRow | old
    · rw [← isRow]
      refine Or.inr ⟨_, isSource, ?_⟩
      have leased := leases.1
      unfold SourceState.leasedTo at leased
      simp only [Bool.and_eq_true, beq_iff_eq] at leased
      exact leased.1.1.symm
    · exact Or.inl (kept old)
  | prepared unprepared prepares =>
    rcases written isNext with isRow | old
    · obtain ⟨_, source, stream, _, _⟩ := firstRow_eq_some unprepared.first
      rw [← isRow, prepares.source, prepares.stream, source, stream]
      exact Or.inr ⟨_, unprepared.known, rfl⟩
    · exact Or.inl (kept old)
  | mappingFailed unprepared =>
    obtain ⟨_, source, stream, _, _⟩ := firstRow_eq_some unprepared.first
    rcases written isNext with isRow | old
    · rw [← isRow]
      refine Or.inr ⟨_, ?_, stream⟩
      rw [source]
      exact unprepared.known
    · exact Or.inl (kept old)
  | published publishes =>
    rcases written isNext with isRow | old
    · rw [← isRow] at barrier
      simp [InboxRow.isBarrier] at barrier
    · exact Or.inl (kept old)
  | rotated rotates =>
    unfold Tables.rotated at isNext
    rw [get?_filterMap, Option.bind_eq_some_iff] at isNext
    obtain ⟨row, known, isClosed⟩ := isNext
    rw [← Option.some.inj isClosed] at barrier ⊢
    refine Or.inl ⟨row, known, (isBarrier_of_closed barrier).1, ?_, ?_⟩
    · rw [closed_sourceId]
    · rw [closed_sourceStreamId]

theorem BarriersHere.change (here : BarriersHere before) (filed : Filed before)
    (change : Change environment before readings call after)
    (safe : SafeMoves before { call := call, readings := readings }) : BarriersHere after := by
  intro inboxId next state isNext barrier isState
  have atBefore {old : SourceState} (known : before.sources.get? next.sourceId = some old) :
      next.sourceStreamId = old.sourceStreamId := by
    rcases change.barrier_comes isNext barrier with
      ⟨row, isRow, wasBarrier, source, stream⟩ | ⟨other, isOther, stream⟩
    · rw [← stream]
      apply here inboxId row old isRow wasBarrier
      rw [source]
      exact known
    · rw [Option.some.inj (known.symm.trans isOther)]
      exact stream
  cases change.comes isState with
  | new unknown =>
    rcases change.barrier_comes isNext barrier with
      ⟨row, isRow, _, source, _⟩ | ⟨other, isOther, _⟩
    · have known := filed.known inboxId row isRow
      rw [source, unknown] at known
      cases known
    · rw [unknown] at isOther
      cases isOther
  | kept known stream persisted => exact (atBefore known).trans stream.symm
  | @moved reasonCode streamId affectedSourceIds identity replacementRoster previous roster record
      source old isCall rotates isAfter member isSource known moves stream =>
      exfalso
      have named := (safe _ _ _ _ _ _ _ _ isCall rotates source old member
        (isSource.symm ▸ known) moves).2
      rw [isAfter] at isNext
      unfold Tables.rotated at isNext
      rw [get?_filterMap, Option.bind_eq_some_iff] at isNext
      obtain ⟨row, isRow, isClosed⟩ := isNext
      rw [← Option.some.inj isClosed] at barrier isSource
      rw [closed_sourceId] at isSource
      obtain ⟨wasBarrier, unnamed⟩ := isBarrier_of_closed barrier
      apply unnamed
      rw [← isSource]
      exact named ⟨inboxId, row, isRow, isSource.symm, wasBarrier⟩

theorem run_barriersHere {steps : List Step}
    (safe : Histories.EveryStep (Step.commit environment) SafeMoves .empty steps) :
    BarriersHere (run environment .empty steps) := by
  apply And.right
  apply keeps (I := fun tables => Filed tables ∧ BarriersHere tables) _
    ⟨filed_empty, fun inboxId row state known => by cases known⟩ safe
  intro tables step both isSafe
  have change := commit_change environment tables step
  exact ⟨both.1.change change, both.2.change both.1 change isSafe⟩

theorem run_barrier (environment : Environment) {first : Tables} (filed : Filed first) {inboxId : Nat} {row : InboxRow}
    (known : first.inbox.get? inboxId = some row) (barrier : row.isBarrier = true)
    (steps : List Step) :
    (run environment first steps).inbox.get? inboxId = some row ∨
      Closed first.continuity row.sourceId inboxId (run environment first steps) := by
  have outcome := keeps_or_ends
    (H := fun tables => (Filed tables ∧ first.continuity <+: tables.continuity) ∧
      tables.inbox.get? inboxId = some row)
    (E := fun tables => Filed tables ∧ Closed first.continuity row.sourceId inboxId tables)
    ?_ ?_ ⟨⟨filed, List.prefix_refl _⟩, known⟩
    (everyStep_true (Step.commit environment) first steps)
  · rcases outcome with ⟨_, still⟩ | ⟨_, closed⟩
    · exact Or.inl still
    · exact Or.inr closed
  · intro tables step _ holds
    obtain ⟨⟨isFiled, grown⟩, still⟩ := holds
    have change := commit_change environment tables step
    rcases change.barrier isFiled still barrier with same | ⟨⟨record, added, names⟩, isOver⟩
    · exact Or.inl ⟨⟨isFiled.change change, grown.trans change.continuity_grows⟩, same⟩
    · refine Or.inr ⟨isFiled.change change, ⟨record, ?_, names⟩, isOver⟩
      rw [added, List.drop_append_of_le_length grown.length_le]
      exact List.mem_append_right _ (List.mem_singleton_self record)
  · intro tables step _ ended
    obtain ⟨isFiled, ⟨record, member, names⟩, closed, isClosed, isOver⟩ := ended
    have change := commit_change environment tables step
    refine ⟨isFiled.change change, ⟨record, ?_, names⟩, change.finalized isFiled isClosed isOver⟩
    obtain ⟨added, grown⟩ := change.continuity_grows
    rw [← grown]
    by_cases within : first.continuity.length ≤ tables.continuity.length
    · rw [List.drop_append_of_le_length within]
      exact List.mem_append_left _ member
    · rw [List.drop_eq_nil_of_le (by omega)] at member
      cases member

theorem run_bestEffort {first : Tables} {state next : SourceState}
    (known : first.sources.get? sourceId = some state)
    (bestEffort : state.deliverySemantics = .bestEffortLive) {steps : List Step}
    (isNext : (run environment first steps).sources.get? sourceId = some next)
    (durable : next.deliverySemantics = .durableAtLeastOnce) :
    first.continuity.length < (run environment first steps).continuity.length := by
  induction steps generalizing first state with
  | nil =>
    have same : state = next := Option.some.inj (known.symm.trans isNext)
    rw [same, durable] at bestEffort
    cases bestEffort
  | cons step later ih =>
    have change := commit_change environment first step
    have grown := change.continuity_grows.length_le
    have laterGrown := (run_continuity_grows environment
      (step.commit environment first) later).length_le
    rcases change.bestEffort known bestEffort with ⟨after, isAfter, still⟩ | added
    · exact Nat.lt_of_le_of_lt grown (ih isAfter still isNext)
    · exact Nat.lt_of_lt_of_le added laterGrown

theorem Publishes.barred {generation : Generation} {inboxId other : Nat} {row otherRow : InboxRow}
    (publishes : Publishes before streamId generation sourceId state inboxId row event)
    (filed : Filed before) (known : before.inbox.get? other = some otherRow)
    (barrier : otherRow.isBarrier = true) (source : otherRow.sourceId = event.sourceId)
    (stream : otherRow.sourceStreamId = event.sourceStreamId) :
    ∃ sequence, otherRow.normalizedSourceSequence = some sequence ∧
      event.sourceSequence ≤ sequence := by
  obtain ⟨isRow, _, _, _, rowSequence⟩ := publishes.row filed
  obtain ⟨_, _, _, _, first⟩ := firstRow_eq_some publishes.first
  have order := rowOrder_le (first other otherRow known (source.trans publishes.source)
    (stream.trans publishes.sourceStream) (isOpen_of_isBarrier barrier))
  obtain ⟨payload, decoded, _, sequence⟩ := publishes.fact
  have positive := (filed.fact inboxId row payload isRow decoded).2
  rw [rowSequence, Option.getD_some] at order
  cases isSequence : otherRow.normalizedSourceSequence with
  | none =>
    rw [isSequence] at order
    change event.sourceSequence ≤ 0 at order
    omega
  | some other =>
    rw [isSequence] at order
    exact ⟨other, rfl, order⟩

/-- An event that comes after a fact of its source that failed: of a barrier, a rotation that
names the source has closed it since; of a fact that a best-effort source skipped, a rotation has
made the source durable since. In another source stream, whatever failed before is earlier. -/
def PassedBarriers (environment : Environment) (steps : List Step) : Prop :=
  ∀ early middle step late, steps = early ++ (middle ++ step :: late) →
    ∀ first before, first = run environment .empty early →
      before = run environment first middle →
        ∀ event, (step.commit environment before).events = before.events ++ [event] →
          ∀ inboxId row, first.inbox.get? inboxId = some row → row.sourceId = event.sourceId →
            (row.sourceStreamId = event.sourceStreamId →
              ∀ sequence, row.normalizedSourceSequence = some sequence →
                sequence < event.sourceSequence) →
              (row.isBarrier = true →
                Closed first.continuity event.sourceId inboxId before) ∧
              (row.status = .terminalSkipped →
                ∀ state next, first.sources.get? event.sourceId = some state →
                  before.sources.get? event.sourceId = some next →
                    state.deliverySemantics = .bestEffortLive →
                      next.deliverySemantics = .durableAtLeastOnce →
                        first.continuity.length < before.continuity.length)

theorem run_passedBarriers {steps : List Step}
    (safe : Histories.EveryStep (Step.commit environment) SafeMoves .empty steps) :
    PassedBarriers environment steps := by
  intro early middle step late isSteps first before isFirst isBefore event added inboxId row known
    source earlier
  constructor
  · intro barrier
    have filedFirst : Filed first := isFirst ▸ run_filed filed_empty early
    have filed : Filed before := isBefore ▸ run_filed filedFirst middle
    have here : BarriersHere before := by
      have atBefore : before = run environment .empty (early ++ middle) := by
        rw [isBefore, isFirst]
        exact (after_append _ _ _).symm
      rw [atBefore]
      rw [isSteps, ← List.append_assoc] at safe
      exact run_barriersHere (everyStep_append.mp safe).1
    have outcome := run_barrier environment filedFirst known barrier middle
    rw [← isBefore, source] at outcome
    rcases outcome with still | closed
    · rcases (commit_change environment before step).events with
        same | ⟨_, _, _, _, _, _, _, other, _, publishes, isAfter⟩
      · rw [same] at added
        simp at added
      · have isEvent : other = event := by
          rw [isAfter] at added
          exact List.singleton_inj.mp (List.append_cancel_left added)
        rw [← isEvent] at source earlier
        have stream : row.sourceStreamId = other.sourceStreamId := by
          rw [publishes.sourceStream]
          apply here inboxId row _ still barrier
          rw [source, publishes.source]
          exact publishes.known
        obtain ⟨sequence, isSequence, order⟩ := publishes.barred filed still barrier source stream
        have less := earlier stream sequence isSequence
        omega
    · exact closed
  · intro _ state next isState isNext bestEffort durable
    rw [isBefore] at isNext ⊢
    exact run_bestEffort isState bestEffort isNext durable

theorem run_inOrder {steps : List Step}
    (safe : Histories.EveryStep (Step.commit environment) SafeMoves .empty steps) :
    InOrder (run environment .empty steps) := by
  apply And.right
  apply keeps (I := fun tables => Filed tables ∧ InOrder tables) _
    ⟨filed_empty, inOrder_empty⟩ safe
  intro tables step both isSafe
  have change := commit_change environment tables step
  exact ⟨both.1.change change, both.2.change both.1 change isSafe⟩

structure Published (environment : Environment) (steps : List Step) : Prop where
  numbered : (run environment .empty steps).Numbered
  once : (run environment .empty steps).PublishedOnce
  ordered : (run environment .empty steps).Ordered
  barriers : PassedBarriers environment steps

/-- Whatever the replicas do, as long as the rotations move the sources safely. -/
theorem businessEvents_published (environment : Environment) (steps : List Step)
    (safe : Histories.EveryStep (Step.commit environment) SafeMoves .empty steps) :
    Published environment steps where
  numbered := always (I := Tables.Numbered)
    (fun tables step numbered => numbered_change (commit_change environment tables step) numbered)
    (fun _ => rfl) steps
  once := always (I := Tables.PublishedOnce)
    (fun tables step once => publishedOnce_change (commit_change environment tables step) once)
    publishedOnce_empty steps
  ordered := (run_inOrder safe).ordered
  barriers := run_passedBarriers safe

section Runs

open Sample

/-- A rotation the operator asks for leaves the source in its stream. -/
def rotatedInPlace : List Step :=
  steps "first" (.initializeProviderGeneration [source "A"] :: acquire "A" ::
      deliver "A" "event-1" 1 1) ++
    steps "second" (rotate "request-1" "A" :: acquire "A" :: deliver "A" "event-2" 2 2)

theorem rotatedInPlace_published : Published Sample.environment rotatedInPlace := by
  apply businessEvents_published
  unfold rotatedInPlace
  rw [everyStep_append]
  constructor
  · refine ⟨?_, ?_, ?_, ?_, ?_, trivial⟩
    all_goals
      intro _ _ _ _ _ _ _ _ isCall
      cases isCall
  · refine ⟨?_, ?_, ?_, ?_, ?_, trivial⟩
    · intro _ _ _ _ _ _ roster _ isCall rotates definition state member known moves
      cases isCall
      have isRoster := rotates.enrols
      change roster = [source "A"] at isRoster
      rw [isRoster, List.mem_singleton] at member
      rw [member] at known moves
      have here : ((run Sample.environment .empty (steps "first"
          (.initializeProviderGeneration [source "A"] :: acquire "A" ::
            deliver "A" "event-1" 1 1))).sources.get? (source "A").sourceId).map
              SourceState.sourceStreamId = some "A" := by decide +kernel
      rw [known] at here
      exact absurd (Option.some.inj here) moves
    all_goals
      intro _ _ _ _ _ _ _ _ isCall
      cases isCall

/-- A source leaves a gap in its stream, goes to another stream, and comes back. -/
def returnedToGap : List Step :=
  steps "first" (.initializeProviderGeneration [source "A"] :: acquire "A" ::
      (deliver "A" "event-1" 1 1 ++ deliver "A" "event-3" 3 1)) ++
    steps "second" [rotate "request-1" "B"] ++
      steps "third" (rotate "request-2" "A" :: acquire "A" :: deliver "A" "event-2" 2 2)

theorem returnedToGap_notPublished : ¬Published Sample.environment returnedToGap := by
  intro published
  have outcome : (run Sample.environment .empty returnedToGap).events.map
      (fun event => (event.sourceId, event.sourceStreamId, event.sourceSequence)) =
        [("adapter", "A", 1), ("adapter", "A", 3), ("adapter", "A", 2)] := by decide +kernel
  have ordered : ((run Sample.environment .empty returnedToGap).events.map
      (fun event => (event.sourceId, event.sourceStreamId, event.sourceSequence))).Pairwise
        fun earlier later => earlier.1 = later.1 → earlier.2.1 = later.2.1 →
          earlier.2.2 < later.2.2 := List.pairwise_map.mpr published.ordered
  rw [outcome] at ordered
  simp at ordered

end Runs

end BusinessEvents

end SdarRuntime
