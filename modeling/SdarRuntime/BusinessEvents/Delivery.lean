import SdarRuntime.BusinessEvents.Listener
import SdarRuntime.BusinessEvents.Publication
import SdarRuntime.Library.NumberedFrom

/-!
What a listener is sent: the events of its stream after its cursor, each once and in order, as
far as they show to it. A stream that is rotated while the listener waits is left at the
last poll.
-/

namespace SdarRuntime

namespace BusinessEvents

open Notifications (Writer)

open OrderedMap Connection

variable {environment : Environment} {before after tables : Tables} {readings : Readings}
  {call : Call}

/-! ### Streams -/

def Tables.stream (tables : Tables) (streamId : String) : List StoredEvent :=
  tables.events.filter fun event => event.streamId == streamId

/-- What a listener rests on: streams are numbered, events have ids of their own, only the current
generation is open, and a closed one can be replayed to its end. -/
structure Ledger (tables : Tables) : Prop where
  numbered : tables.Numbered
  identified : tables.events.Pairwise fun earlier later => earlier.eventId ≠ later.eventId
  isOpen : ∀ streamId generation, tables.current = some streamId →
    tables.generations.get? streamId = some generation → generation.status = .current
  isClosed : ∀ streamId generation, tables.generations.get? streamId = some generation →
    generation.status ≠ .current →
      generation.status = .replayableClosed ∧
        generation.lastReplayableSequence = generation.currentSequence
  recorded : ∀ streamId generation, tables.generations.get? streamId = some generation →
    generation.status ≠ .current →
      ∃ record, record ∈ tables.continuity ∧ record.previousStreamId = streamId
  closing : ∀ record, record ∈ tables.continuity →
    ∃ generation, tables.generations.get? record.previousStreamId = some generation ∧
      generation.status ≠ .current ∧
        generation.currentSequence = record.lastReplayableSequence

theorem ledger_empty : Ledger .empty := by
  constructor
  · intro streamId
    rfl
  · exact List.Pairwise.nil
  · intro streamId generation current
    cases current
  · intro streamId generation known
    cases known
  · intro streamId generation known
    cases known
  · intro record member
    cases member

variable {streamId : String}

theorem Change.generation (change : Change environment before readings call after)
    (ledger : Ledger before) {generation : Generation}
    (known : before.generations.get? streamId = some generation) :
    ∃ next, after.generations.get? streamId = some next ∧
      generation.currentSequence ≤ next.currentSequence ∧
        (generation.status ≠ .current → next = generation) := by
  cases change with
  | initialized first distinct unknown fresh =>
    have different : streamId ≠ readings.newStreamId := by
      intro same
      rw [same, fresh] at known
      cases known
    refine ⟨generation, ?_, le_refl _, fun _ => rfl⟩
    unfold Tables.initialized
    dsimp only
    rw [get?_set_ne _ _ different]
    exact known
  | @published _ current _ appended _ _ _ event publishes =>
    unfold Tables.published
    dsimp only
    rw [get?_set]
    by_cases same : streamId = event.streamId
    · rw [if_pos same]
      have isGeneration : appended = generation := by
        have found := publishes.appends
        rw [← publishes.stream, ← same, known] at found
        exact (Option.some.inj found).symm
      have isCurrent := ledger.isOpen current appended publishes.current publishes.appends
      refine ⟨_, rfl, ?_, ?_⟩
      · rw [publishes.next, isGeneration]
        exact Nat.le_succ _
      · intro notCurrent
        rw [isGeneration] at isCurrent
        contradiction
    · rw [if_neg same]
      exact ⟨generation, known, le_refl _, fun _ => rfl⟩
  | @rotated _ closing _ _ _ previous _ record rotates =>
    have different : streamId ≠ readings.newStreamId := by
      intro same
      rw [same, rotates.fresh] at known
      cases known
    have isNew : record.newStreamId = readings.newStreamId := by
      rw [rotates.records]
      rfl
    have isPrevious : record.previousStreamId = closing := by
      rw [rotates.records]
      rfl
    unfold Tables.rotated
    dsimp only
    rw [isNew, isPrevious, get?_set_ne _ _ different, get?_set]
    by_cases same : streamId = closing
    · rw [if_pos same]
      have isGeneration : previous = generation := by
        have found := rotates.closes
        rw [← same, known] at found
        exact (Option.some.inj found).symm
      refine ⟨_, rfl, ?_, ?_⟩
      · rw [isGeneration]
        exact le_refl generation.currentSequence
      · intro notCurrent
        rw [← isGeneration, rotates.isCurrent] at notCurrent
        contradiction
    · rw [if_neg same]
      exact ⟨generation, known, le_refl _, fun _ => rfl⟩
  | _ => exact ⟨generation, known, le_refl _, fun _ => rfl⟩

theorem Change.identified (change : Change environment before readings call after)
    (identified : before.events.Pairwise fun earlier later => earlier.eventId ≠ later.eventId) :
    after.events.Pairwise fun earlier later => earlier.eventId ≠ later.eventId := by
  rcases change.events with same | ⟨_, _, _, _, _, _, _, event, _, publishes, isAfter⟩
  · rw [same]
    exact identified
  · rw [isAfter]
    unfold Tables.published
    dsimp only
    rw [List.pairwise_append]
    constructor
    · exact identified
    constructor
    · exact List.pairwise_singleton _ _
    · intro earlier member later isLater same
      have apart := publishes.apart earlier member
      unfold StoredEvent.conflicts at apart
      rw [List.mem_singleton.mp isLater] at same
      simp [same] at apart

theorem Change.closed (change : Change environment before readings call after)
    (ledger : Ledger before) {generation : Generation}
    (known : after.generations.get? streamId = some generation)
    (notCurrent : generation.status ≠ .current) :
    before.generations.get? streamId = some generation ∧
        (∀ record, record ∈ before.continuity → record ∈ after.continuity) ∨
      generation.status = .replayableClosed ∧
        generation.lastReplayableSequence = generation.currentSequence ∧
          ∃ record, record ∈ after.continuity ∧ record.previousStreamId = streamId := by
  cases change with
  | initialized first distinct unknown fresh =>
    unfold Tables.initialized at known
    dsimp only at known
    rw [get?_set] at known
    split at known
    · rw [← Option.some.inj known] at notCurrent
      exact absurd rfl notCurrent
    · exact Or.inl ⟨known, fun _ member => member⟩
  | @published _ appended _ previous _ _ _ event publishes =>
    unfold Tables.published at known
    dsimp only at known
    rw [get?_set] at known
    split at known
    · rw [← Option.some.inj known] at notCurrent
      have isCurrent := ledger.isOpen appended previous publishes.current publishes.appends
      exact absurd isCurrent notCurrent
    · exact Or.inl ⟨known, fun _ member => member⟩
  | @rotated _ _ _ _ _ _ _ record rotates =>
    unfold Tables.rotated at known ⊢
    dsimp only at known ⊢
    rw [get?_set, get?_set] at known
    split at known
    · rw [← Option.some.inj known] at notCurrent
      exact absurd rfl notCurrent
    · split at known
      · rename_i isPrevious
        rw [← Option.some.inj known]
        exact Or.inr ⟨rfl, rfl, record, by simp, isPrevious.symm⟩
      · exact Or.inl ⟨known, fun _ member => List.mem_append_left _ member⟩
  | _ => exact Or.inl ⟨known, fun _ member => member⟩

theorem Change.isOpen (change : Change environment before readings call after)
    (ledger : Ledger before) {generation : Generation} (current : after.current = some streamId)
    (known : after.generations.get? streamId = some generation) :
    generation.status = .current := by
  cases change with
  | initialized first distinct unknown fresh =>
    unfold Tables.initialized at current known
    dsimp only at current known
    rw [← Option.some.inj current, get?_set_self] at known
    rw [← Option.some.inj known]
    rfl
  | @published _ appended _ previous _ _ _ event publishes =>
    unfold Tables.published at current known
    dsimp only at current known
    rw [get?_set] at known
    split at known
    · rw [← Option.some.inj known]
      exact ledger.isOpen appended previous publishes.current publishes.appends
    · exact ledger.isOpen streamId generation current known
  | rotated rotates =>
    unfold Tables.rotated at current known
    dsimp only at current known
    rw [← Option.some.inj current, get?_set_self] at known
    rw [← Option.some.inj known]
    rfl
  | _ => exact ledger.isOpen streamId generation current known

theorem Rotates.closing {reasonCode streamId : String} {affectedSourceIds : List String}
    {identity : ContinuityReason} {replacementRoster : Option (List SourceDefinition)}
    {previous : Generation} {roster : List SourceDefinition} {record : ContinuityRecord}
    (rotates : Rotates before readings reasonCode affectedSourceIds identity replacementRoster
      streamId previous roster record) :
    ∃ generation,
      (before.rotated readings previous (roster.mergeSort byId) record).generations.get?
          record.previousStreamId = some generation ∧
        generation.status ≠ .current ∧
          generation.currentSequence = record.lastReplayableSequence := by
  have isPrevious : record.previousStreamId = streamId := by
    rw [rotates.records]
    rfl
  have isNew : record.newStreamId = readings.newStreamId := by
    rw [rotates.records]
    rfl
  have isLast : record.lastReplayableSequence = previous.currentSequence := by
    rw [rotates.records]
    rfl
  have different : streamId ≠ readings.newStreamId := by
    intro same
    have closes := rotates.closes
    rw [same, rotates.fresh] at closes
    cases closes
  unfold Tables.rotated
  dsimp only
  rw [isNew, isPrevious, get?_set_ne _ _ different, get?_set_self]
  exact ⟨_, rfl, nofun, isLast.symm⟩

theorem Change.ledger (change : Change environment before readings call after)
    (ledger : Ledger before) : Ledger after := by
  constructor
  · exact numbered_change change ledger.numbered
  · exact change.identified ledger.identified
  · intro streamId generation
    exact change.isOpen ledger
  · intro streamId generation known notCurrent
    rcases change.closed ledger known notCurrent with ⟨found, _⟩ | ⟨isClosed, isLast, _⟩
    · exact ledger.isClosed streamId generation found notCurrent
    · exact ⟨isClosed, isLast⟩
  · intro streamId generation known notCurrent
    rcases change.closed ledger known notCurrent with ⟨found, stays⟩ | ⟨_, _, isRecorded⟩
    · obtain ⟨record, member, same⟩ := ledger.recorded streamId generation found notCurrent
      exact ⟨record, stays record member, same⟩
    · exact isRecorded
  · intro record member
    have earlier (known : record ∈ before.continuity) :
        ∃ generation, after.generations.get? record.previousStreamId = some generation ∧
          generation.status ≠ .current ∧
            generation.currentSequence = record.lastReplayableSequence := by
      obtain ⟨generation, found, notCurrent, same⟩ := ledger.closing record known
      obtain ⟨next, isNext, _, stays⟩ := change.generation ledger found
      rw [stays notCurrent] at isNext
      exact ⟨generation, isNext, notCurrent, same⟩
    cases change with
    | rotated rotates =>
      unfold Tables.rotated at member
      dsimp only at member
      rcases List.mem_append.mp member with known | isNew
      · exact earlier known
      · rw [List.mem_singleton.mp isNew]
        exact rotates.closing
    | _ => exact earlier member

theorem Change.events_grow (change : Change environment before readings call after) :
    before.events <+: after.events := by
  rcases change.events with same | ⟨_, _, _, _, _, _, _, event, _, _, isAfter⟩
  · exact same.symm ▸ List.prefix_refl _
  · rw [isAfter]
    exact List.prefix_append _ _

theorem Change.stream_grows (change : Change environment before readings call after)
    (streamId : String) : before.stream streamId <+: after.stream streamId :=
  change.events_grow.filter _

namespace Ledger

theorem numbering (ledger : Ledger tables) (streamId : String) :
    NumberedFrom StoredEvent.sequence 1 (tables.stream streamId) := by
  have numbered := ledger.numbered streamId
  change (tables.stream streamId).map StoredEvent.sequence = _ at numbered
  have length := congrArg List.length numbered
  rw [List.length_map, List.length_range'] at length
  rw [← length] at numbered
  exact numbered

theorem length_stream (ledger : Ledger tables) {generation : Generation}
    (known : tables.generations.get? streamId = some generation) :
    (tables.stream streamId).length = generation.currentSequence := by
  have numbered := congrArg List.length (ledger.numbered streamId)
  unfold Tables.sequences Tables.lastSequence at numbered
  rw [known, List.length_map, List.length_range'] at numbered
  exact numbered

theorem between (ledger : Ledger tables) (streamId : String) (afterSequence last : Nat) :
    (tables.events.filter fun event =>
      event.streamId == streamId && decide (afterSequence < event.sequence) &&
        decide (event.sequence ≤ last)) =
      ((tables.stream streamId).take last).drop afterSequence := by
  rw [← (ledger.numbering streamId).filter_between afterSequence last]
  unfold Tables.stream
  rw [List.filter_filter]
  congr 1
  funext event
  cases event.streamId == streamId <;> simp

theorem replayEvents_eq (ledger : Ledger tables) (streamId : String)
    (afterSequence throughSequence limit : Nat) :
    replayEvents tables streamId afterSequence throughSequence limit =
      (((tables.stream streamId).take throughSequence).drop afterSequence).take limit := by
  unfold replayEvents
  rw [ledger.between, List.mergeSort_of_pairwise]
  have ordered := (ledger.numbering streamId).pairwise_le.sublist
    ((List.drop_sublist afterSequence _).trans (List.take_sublist throughSequence _))
  exact ordered.imp fun le => by simpa [bySequence] using le

variable {event : StoredEvent}

private theorem find?_identified {events : List StoredEvent}
    (identified : events.Pairwise fun earlier later => earlier.eventId ≠ later.eventId)
    (member : event ∈ events) :
    events.find? (fun other =>
      other.streamId == event.streamId && other.eventId == event.eventId) = some event := by
  induction events with
  | nil => cases member
  | cons first later ih =>
    obtain ⟨apart, rest⟩ := List.pairwise_cons.mp identified
    rcases List.mem_cons.mp member with same | isLater
    · rw [same, List.find?_cons_of_pos (by simp)]
    · have unlike := apart event isLater
      rw [List.find?_cons_of_neg (by simp [unlike])]
      exact ih rest isLater

theorem projection_eq (ledger : Ledger tables) (member : event ∈ tables.events) (view : View)
    (authorization : AuthorizationContext) :
    authorizedEventProjection tables view authorization event.streamId event.eventId =
      projectEvent view authorization event := by
  unfold authorizedEventProjection
  rw [find?_identified ledger.identified member]

end Ledger

/-! ### What a listener has looked at -/

def Message.event? (message : Message) : Option EventNotification :=
  match message.notification with
  | .event notification => some notification
  | _ => none

/-- An event as the listener may see it: authorized, and not expired. -/
def Listener.shown (listener : Listener) (event : StoredEvent) (view : View) :
    Option EventNotification :=
  match projectEvent view listener.request.authorization event with
  | .ok (some projection) => some projection.notification
  | _ => none

/-- What the listener is to be sent of the events it has looked at. -/
def Listener.notified (listener : Listener) : List EventNotification :=
  listener.examined.filterMap fun entry => listener.shown entry.1 entry.2

/-- Whatever the listener waits for, it has looked at each event after its cursor up to the last
one it scanned, and what these show was handed to its writer. -/
structure Follows (tables : Tables) (listener : Listener) : Prop where
  stream : ∃ generation, tables.generations.get? listener.streamId = some generation ∧
    listener.throughSequence ≤ generation.currentSequence ∧
      (listener.generation.status = .replayableClosed →
        generation.status ≠ .current ∧
          listener.throughSequence = generation.currentSequence)
  accepted : listener.acceptedAfterSequence ≤ listener.lastScannedSequence
  scanned : listener.lastScannedSequence ≤ listener.throughSequence
  looked : listener.examined.map Prod.fst =
    ((tables.stream listener.streamId).take listener.lastScannedSequence).drop
      listener.acceptedAfterSequence
  handed : ∃ messages, listener.writer.Holds messages ∧
    messages.filterMap Message.event? = listener.notified
  disposed : listener.closed = true → listener.writer.closed = true

/-- A batch is what follows in the stream, and a listener whose writer is open waits only when it
has replayed what it had read of. -/
structure Follows.AtStage (tables : Tables) (listener : Listener) : Prop where
  pending : ∀ live events, listener.stage = .projecting live events →
    events <+: ((tables.stream listener.streamId).take listener.throughSequence).drop
      listener.lastScannedSequence
  caughtUp : listener.stage = .waiting ∨ listener.stage = .polling ∨
    listener.stage = .readingContinuity → listener.writer.closed = false →
      listener.lastScannedSequence = listener.throughSequence
  rotated : listener.stage = .readingContinuity →
    ∃ generation, tables.generations.get? listener.streamId = some generation ∧
      generation.status ≠ .current

structure Listens (tables : Tables) (listener : Listener) : Prop where
  follows : Follows tables listener
  atStage : Follows.AtStage tables listener

variable {listener : Listener} {options : ListenOptions} {view : View}

theorem Follows.stage (follows : Follows tables listener) (stage : Stage) :
    Follows tables { listener with stage := stage } :=
  { stream := follows.stream
    accepted := follows.accepted
    scanned := follows.scanned
    looked := follows.looked
    handed := follows.handed
    disposed := follows.disposed }

theorem Follows.started (follows : Follows tables listener) (startedAt : Instant) :
    Follows tables { listener with startedAt := startedAt } :=
  { stream := follows.stream
    accepted := follows.accepted
    scanned := follows.scanned
    looked := follows.looked
    handed := follows.handed
    disposed := follows.disposed }

theorem Follows.writer (follows : Follows tables listener) {writer : Writer Message}
    (handed : ∃ messages, writer.Holds messages ∧
      messages.filterMap Message.event? = listener.notified)
    (disposed : listener.closed = true → writer.closed = true) :
    Follows tables { listener with writer := writer } :=
  { stream := follows.stream
    accepted := follows.accepted
    scanned := follows.scanned
    looked := follows.looked
    handed := handed
    disposed := disposed }

theorem Follows.close (follows : Follows tables listener) :
    Follows tables { listener with writer := listener.writer.close } := by
  obtain ⟨messages, holds, same⟩ := follows.handed
  exact follows.writer ⟨messages, holds.close, same⟩ fun _ => Writer.closed_close

theorem Follows.dispose (follows : Follows tables listener) :
    Follows tables { listener with writer := listener.writer.dispose } := by
  obtain ⟨messages, holds, same⟩ := follows.handed
  exact follows.writer ⟨messages, holds.dispose, same⟩ fun _ => rfl

theorem Follows.listens (follows : Follows tables listener)
    (noBatch : ∀ live events, listener.stage ≠ .projecting live events)
    (caughtUp : listener.writer.closed = false →
      listener.lastScannedSequence = listener.throughSequence)
    (rotated : listener.stage = .readingContinuity →
      ∃ generation, tables.generations.get? listener.streamId = some generation ∧
        generation.status ≠ .current) : Listens tables listener :=
  { follows := follows
    atStage :=
      { pending := fun live events isStage => absurd isStage (noBatch live events)
        caughtUp := fun _ isOpen => caughtUp isOpen
        rotated := rotated } }

theorem Follows.finish (follows : Follows tables listener) : Listens tables listener.finish := by
  apply Follows.listens
  · exact (follows.stage .ended).dispose
  · intro live events isStage
    cases isStage
  · intro isOpen
    cases isOpen
  · intro isStage
    cases isStage

theorem Follows.poll (follows : Follows tables listener)
    (caughtUp : listener.writer.closed = false →
      listener.lastScannedSequence = listener.throughSequence) :
    Listens tables (listener.poll options view) := by
  unfold Listener.poll
  split
  · apply (follows.stage .waiting).listens
    · intro live events isStage
      cases isStage
    · exact caughtUp
    · intro isStage
      cases isStage
  · split
    · exact follows.close.finish
    · exact follows.finish

variable {live : Bool}

theorem Follows.replayed (follows : Follows tables listener)
    (caughtUp : listener.writer.closed = false →
      listener.lastScannedSequence = listener.throughSequence) :
    Listens tables (listener.replayed options view live) := by
  unfold Listener.replayed
  split
  · exact follows.poll caughtUp
  · split
    · exact follows.finish
    · split
      · rename_i isClosed
        apply (follows.stage .readingContinuity).listens
        · intro live events isStage
          cases isStage
        · exact caughtUp
        · intro _
          obtain ⟨generation, known, _, closed⟩ := follows.stream
          exact ⟨generation, known, (closed isClosed).1⟩
      · exact (follows.started view.now).poll caughtUp

theorem Follows.replay (follows : Follows tables listener) :
    Listens tables (listener.replay options view live) := by
  unfold Listener.replay
  split
  · constructor
    · exact follows.stage (.readingGeneration live)
    · constructor
      · intro _ _ isStage
        cases isStage
      · rintro (isStage | isStage | isStage) <;> cases isStage
      · intro isStage
        cases isStage
  · rename_i isDone
    apply follows.replayed
    intro isOpen
    have within := follows.scanned
    by_contra behind
    apply isDone
    constructor
    · omega
    · cases isClosed : listener.closed with
      | false => rfl
      | true =>
        rw [follows.disposed isClosed] at isOpen
        contradiction

/-! ### Steps of a listener -/

theorem Follows.enqueue (follows : Follows tables listener) (options : ListenOptions) (view : View)
    (notification : Notification) (noEvent : ∀ event, notification ≠ .event event) :
    Follows tables
      { listener with writer := (listener.enqueue options view notification).1 } := by
  obtain ⟨messages, holds, same⟩ := follows.handed
  apply follows.writer
  · refine ⟨_, holds.enqueue options.limits view.writable _, ?_⟩
    rw [List.filterMap_append, same]
    cases notification with
    | event notification => exact absurd rfl (noEvent notification)
    | acknowledged acknowledgement => exact List.append_nil _
    | continuity record => exact List.append_nil _
  · intro isClosed
    have closed := follows.disposed isClosed
    unfold Listener.enqueue Writer.enqueue
    rw [if_pos closed]
    exact closed

variable {event : StoredEvent} {later : List StoredEvent}

theorem Ledger.next (ledger : Ledger tables) {scanned last : Nat}
    (pending : event :: later <+: ((tables.stream streamId).take last).drop scanned) :
    (tables.stream streamId)[scanned]? = some event ∧ scanned < last ∧
      event.sequence = scanned + 1 ∧ event ∈ tables.events ∧ event.streamId = streamId := by
  have isNext : ((tables.stream streamId).take last)[scanned]? = some event := by
    obtain ⟨rest, same⟩ := pending
    have first := congrArg (·[0]?) same
    simpa using first.symm
  rw [List.getElem?_take] at isNext
  obtain ⟨within, found⟩ : scanned < last ∧ (tables.stream streamId)[scanned]? = some event := by
    split at isNext
    · exact ⟨by assumption, isNext⟩
    · cases isNext
  have member : event ∈ tables.stream streamId := List.mem_of_getElem? found
  have sequence := (ledger.numbering streamId).getElem? found
  obtain ⟨stored, stream⟩ := List.mem_filter.mp member
  exact ⟨found, within, sequence.trans (Nat.add_comm 1 scanned), stored, beq_iff_eq.mp stream⟩

theorem Follows.examined (follows : Follows tables listener) (ledger : Ledger tables)
    (delivered : Nat) {writer : Writer Message} (pending : event :: later <+:
      ((tables.stream listener.streamId).take listener.throughSequence).drop
        listener.lastScannedSequence) (handed : ∃ messages, writer.Holds messages ∧
      messages.filterMap Message.event? = listener.notified ++ (listener.shown event view).toList)
    (disposed : listener.closed = true → writer.closed = true) :
    Follows tables
        { listener with
          lastScannedSequence := event.sequence
          lastDeliveredSequence := delivered
          examined := listener.examined ++ [(event, view)]
          writer := writer } ∧
      later <+: ((tables.stream listener.streamId).take listener.throughSequence).drop
        event.sequence := by
  obtain ⟨isNext, within, sequence, _, _⟩ := ledger.next pending
  have accepted := follows.accepted
  constructor
  · constructor
    · exact follows.stream
    · change listener.acceptedAfterSequence ≤ event.sequence
      omega
    · change event.sequence ≤ listener.throughSequence
      omega
    · have bounded : listener.lastScannedSequence < (tables.stream listener.streamId).length := by
        rw [List.getElem?_eq_some_iff] at isNext
        exact isNext.choose
      change (listener.examined ++ [(event, view)]).map Prod.fst =
        ((tables.stream listener.streamId).take event.sequence).drop listener.acceptedAfterSequence
      rw [List.map_append, follows.looked, sequence, List.take_add_one, isNext,
        List.drop_append_of_le_length (by rw [List.length_take]; omega)]
      rfl
    · obtain ⟨messages, holds, same⟩ := handed
      refine ⟨messages, holds, ?_⟩
      rw [same]
      unfold Listener.notified
      dsimp only
      rw [List.filterMap_append]
      rfl
    · exact disposed
  · obtain ⟨rest, same⟩ := pending
    refine ⟨rest, ?_⟩
    rw [sequence, ← List.drop_drop, ← same]
    rfl

theorem Follows.continueWith (follows : Follows tables listener) {events : List StoredEvent}
    (pending : events <+: ((tables.stream listener.streamId).take listener.throughSequence).drop
      listener.lastScannedSequence) :
    Listens tables (listener.continueWith options view live events) := by
  unfold Listener.continueWith
  cases events with
  | nil => exact follows.replay
  | cons event later =>
    constructor
    · exact follows.stage _
    · constructor
      · intro isLive batch isStage
        cases isStage
        exact pending
      · rintro (isStage | isStage | isStage) <;> cases isStage
      · intro isStage
        cases isStage

theorem Follows.examine (follows : Follows tables listener) (ledger : Ledger tables)
    (pending : event :: later <+:
      ((tables.stream listener.streamId).take listener.throughSequence).drop
        listener.lastScannedSequence) :
    Listens tables (listener.examine options tables view live event later) := by
  obtain ⟨_, _, _, member, stream⟩ := ledger.next pending
  obtain ⟨messages, holds, same⟩ := follows.handed
  have isProjection := ledger.projection_eq member view listener.request.authorization
  rw [stream] at isProjection
  unfold Listener.examine
  rw [isProjection]
  cases projected : projectEvent view listener.request.authorization event with
  | error failure => exact follows.finish
  | ok answer =>
    cases answer with
    | none =>
      have shown : listener.shown event view = none := by
        unfold Listener.shown
        rw [projected]
      obtain ⟨next, rest⟩ := follows.examined ledger listener.lastDeliveredSequence
        pending ⟨messages, holds, by rw [shown, same]; exact (List.append_nil _).symm⟩
          follows.disposed
      exact next.continueWith rest
    | some projection =>
      have shown : listener.shown event view = some projection.notification := by
        unfold Listener.shown
        rw [projected]
      have handed : ∃ messages,
          (listener.enqueue options view (.event projection.notification)).1.Holds messages ∧
            messages.filterMap Message.event? =
              listener.notified ++ (listener.shown event view).toList := by
        refine ⟨_, holds.enqueue options.limits view.writable _, ?_⟩
        rw [List.filterMap_append, same, shown]
        rfl
      have disposed : listener.closed = true →
          (listener.enqueue options view (.event projection.notification)).1.closed = true := by
        intro isClosed
        have closed := follows.disposed isClosed
        unfold Listener.enqueue Writer.enqueue
        rw [if_pos closed]
        exact closed
      dsimp only
      split
      · obtain ⟨next, rest⟩ := follows.examined ledger event.sequence pending handed
          disposed
        exact next.continueWith rest
      · rename_i refused
        obtain ⟨next, _⟩ := follows.examined ledger listener.lastDeliveredSequence pending
          handed disposed
        apply next.replayed
        intro isOpen
        have taken : (listener.enqueue options view (.event projection.notification)).2 = true := by
          unfold Listener.enqueue at isOpen ⊢
          rw [Writer.enqueue_taken, isOpen]
          rfl
        contradiction

theorem Follows.through (follows : Follows tables listener) {generation : Generation}
    (known : tables.generations.get? listener.streamId = some generation)
    (isCurrent : generation.status = .current) :
    Follows tables { listener with throughSequence := generation.currentSequence } := by
  obtain ⟨stored, found, within, closed⟩ := follows.stream
  rw [known] at found
  rw [← Option.some.inj found] at within closed
  have scanned := follows.scanned
  constructor
  · refine ⟨generation, known, le_refl _, ?_⟩
    intro isClosed
    exact absurd isCurrent (closed isClosed).1
  · exact follows.accepted
  · change listener.lastScannedSequence ≤ generation.currentSequence
    omega
  · exact follows.looked
  · exact follows.handed
  · exact follows.disposed

theorem Follows.acknowledge (follows : Follows tables listener) :
    Listens tables (listener.acknowledge options tables view) := by
  unfold Listener.acknowledge
  dsimp only
  have acknowledged := follows.enqueue options view
    (.acknowledged
      (listener.acknowledgement ((tables.rosters.get? listener.streamId).getD []))) nofun
  split
  · exact acknowledged.replay
  · exact acknowledged.finish

theorem Follows.caughtUp (follows : Follows tables listener) (ledger : Ledger tables)
    (noBatch : replayEvents tables listener.streamId listener.lastScannedSequence
      listener.throughSequence options.replayBatchSize = []) :
    listener.lastScannedSequence = listener.throughSequence := by
  obtain ⟨generation, known, within, _⟩ := follows.stream
  rw [ledger.replayEvents_eq] at noBatch
  have length := congrArg List.length noBatch
  rw [List.length_take, List.length_drop, List.length_take, ledger.length_stream known,
    List.length_nil] at length
  have scanned := follows.scanned
  have size := options.batch_pos
  omega

theorem Listens.advance (listens : Listens tables listener) (ledger : Ledger tables) :
    Listens tables (listener.advance options tables view) := by
  obtain ⟨follows, atStage⟩ := listens
  unfold Listener.advance
  cases isStage : listener.stage with
  | acknowledging => exact follows.acknowledge
  | readingGeneration live =>
    obtain ⟨generation, known, _, _⟩ := follows.stream
    dsimp only
    rw [known]
    dsimp only
    split
    · rename_i isRetired
      obtain ⟨isClosed, _⟩ := ledger.isClosed _ _ known (by rw [isRetired]; nofun)
      rw [isRetired] at isClosed
      cases isClosed
    · constructor
      · exact follows.stage _
      · constructor
        · intro _ _ isBatch
          cases isBatch
        · rintro (other | other | other) <;> cases other
        · intro other
          cases other
  | readingEvents live =>
    dsimp only
    cases batch : replayEvents tables listener.streamId listener.lastScannedSequence
        listener.throughSequence options.replayBatchSize with
    | nil =>
      apply follows.replayed
      intro _
      exact follows.caughtUp ledger batch
    | cons event later =>
      have pending : event :: later <+:
          ((tables.stream listener.streamId).take listener.throughSequence).drop
            listener.lastScannedSequence := by
        rw [← batch, ledger.replayEvents_eq]
        exact ⟨_, List.take_append_drop _ _⟩
      constructor
      · exact follows.stage _
      · constructor
        · intro isLive events isBatch
          cases isBatch
          exact pending
        · rintro (other | other | other) <;> cases other
        · intro other
          cases other
  | projecting live events =>
    cases events with
    | nil => exact follows.replay
    | cons event later => exact follows.examine ledger (atStage.pending live _ isStage)
  | waiting =>
    dsimp only
    split
    · exact follows.finish
    · apply (follows.stage .polling).listens
      · intro _ _ isBatch
        cases isBatch
      · exact atStage.caughtUp (Or.inl isStage)
      · intro other
        cases other
  | polling =>
    obtain ⟨observed, known, _, _⟩ := follows.stream
    dsimp only
    rw [known]
    dsimp only
    split
    · rename_i isCurrent
      exact (follows.through known isCurrent).replay
    · rename_i notCurrent
      apply (follows.stage .readingContinuity).listens
      · intro _ _ isBatch
        cases isBatch
      · exact atStage.caughtUp (Or.inr (Or.inl isStage))
      · intro _
        exact ⟨observed, known, notCurrent⟩
  | readingContinuity =>
    dsimp only
    unfold Listener.sendContinuity
    cases recorded : continuityForPreviousStream tables listener.streamId with
    | none => exact follows.close.finish
    | some record =>
      have sent := follows.enqueue options view (.continuity record) nofun
      exact sent.close.finish
  | ended =>
    constructor
    · exact follows
    · exact atStage

theorem Listens.disconnect (listens : Listens tables listener) :
    Listens tables listener.disconnect := by
  obtain ⟨follows, atStage⟩ := listens
  have closed : Listens tables
      { listener with
        closed := true
        writer := listener.writer.dispose } := by
    obtain ⟨messages, holds, same⟩ := follows.handed
    constructor
    · constructor
      · exact follows.stream
      · exact follows.accepted
      · exact follows.scanned
      · exact follows.looked
      · exact ⟨messages, holds.dispose, same⟩
      · intro _
        rfl
    · constructor
      · exact atStage.pending
      · intro _ isOpen
        cases isOpen
      · exact atStage.rotated
  unfold Listener.disconnect
  split
  · constructor
    · exact follows
    · exact atStage
  · exact closed

theorem Listens.drained (listens : Listens tables listener) (writable : List Bool) :
    Listens tables { listener with writer := listener.writer.drained writable } := by
  obtain ⟨follows, atStage⟩ := listens
  obtain ⟨messages, holds, same⟩ := follows.handed
  have isClosed : (listener.writer.drained writable).closed = listener.writer.closed :=
    Writer.closed_flush writable
  constructor
  · apply follows.writer ⟨messages, holds.drained writable, same⟩
    rw [isClosed]
    exact follows.disposed
  · constructor
    · exact atStage.pending
    · rw [isClosed]
      exact atStage.caughtUp
    · exact atStage.rotated

private theorem take_prefix_of_le {list longer : List StoredEvent} (grown : list <+: longer)
    {count : Nat} (within : count ≤ list.length) : longer.take count = list.take count := by
  obtain ⟨added, same⟩ := grown
  rw [← same, List.take_append_of_le_length within]

/-- What is published, rotated or received meanwhile is behind what the listener has read of. -/
theorem Listens.change (listens : Listens before listener) (ledger : Ledger before)
    (change : Change environment before readings call after) : Listens after listener := by
  obtain ⟨follows, atStage⟩ := listens
  obtain ⟨generation, known, within, closed⟩ := follows.stream
  obtain ⟨next, isNext, grows, stays⟩ := change.generation ledger known
  have scanned := follows.scanned
  have length := ledger.length_stream known
  have same {count : Nat} (bounded : count ≤ generation.currentSequence) :
      (after.stream listener.streamId).take count = (before.stream listener.streamId).take count := by
    apply take_prefix_of_le (change.stream_grows listener.streamId)
    omega
  constructor
  · constructor
    · refine ⟨next, isNext, within.trans grows, ?_⟩
      intro isClosed
      obtain ⟨notCurrent, isEnd⟩ := closed isClosed
      rw [stays notCurrent]
      exact ⟨notCurrent, isEnd⟩
    · exact follows.accepted
    · exact scanned
    · rw [same (scanned.trans within)]
      exact follows.looked
    · exact follows.handed
    · exact follows.disposed
  · constructor
    · intro live events isStage
      rw [same within]
      exact atStage.pending live events isStage
    · exact atStage.caughtUp
    · intro isStage
      obtain ⟨rotated, found, notCurrent⟩ := atStage.rotated isStage
      rw [known] at found
      rw [← Option.some.inj found] at notCurrent
      rw [stays notCurrent] at isNext
      exact ⟨generation, isNext, notCurrent⟩

/-! ### Connections -/

theorem Generation.lastSequence_eq (ledger : Ledger tables) {generation : Generation}
    (known : tables.generations.get? streamId = some generation) :
    generation.lastSequence = generation.currentSequence := by
  unfold Generation.lastSequence
  split
  · rename_i isClosed
    exact (ledger.isClosed streamId generation known (by rw [isClosed]; nofun)).2
  · rfl

variable {request : ListenRequest}

theorem accept_listens (ledger : Ledger tables) {generation : Generation}
    (known : tables.generations.get? streamId = some generation)
    (accepted : accept request streamId generation = .listening listener) :
    Listens tables listener := by
  unfold accept at accepted
  dsimp only at accepted
  cases valid : validateCursor (acceptedAfterSequence request.selection generation)
      generation with
  | error failure =>
    rw [valid] at accepted
    cases accepted
  | ok answer =>
    rw [valid] at accepted
    dsimp only at accepted
    have isListener := listening.inj accepted
    have isLast := Generation.lastSequence_eq ledger known
    have within : acceptedAfterSequence request.selection generation ≤
        generation.lastSequence := by
      unfold validateCursor at valid
      split at valid
      · cases valid
      · omega
    rw [← isListener]
    constructor
    · constructor
      · refine ⟨generation, known, le_of_eq isLast, ?_⟩
        intro isClosed
        constructor
        · rw [show generation.status = .replayableClosed from isClosed]
          nofun
        · exact isLast
      · exact le_refl _
      · exact within
      · symm
        apply List.drop_eq_nil_of_le
        rw [List.length_take]
        exact Nat.min_le_left _ _
      · exact ⟨[], Writer.holds_new, rfl⟩
      · intro isClosed
        cases isClosed
    · constructor
      · intro _ _ isStage
        cases isStage
      · rintro (isStage | isStage | isStage) <;> cases isStage
      · intro isStage
        cases isStage

theorem select_listens (ledger : Ledger tables) {found : Option Generation}
    (known : tables.generations.get? streamId = found)
    (selected : select request streamId found = .listening listener) :
    Listens tables listener := by
  unfold select at selected
  cases found with
  | none => cases selected
  | some generation =>
    dsimp only at selected
    split at selected
    · cases selected
    · exact accept_listens ledger known selected

/-- The tables are in order, and so is a listener that was accepted. -/
structure Scene.Sound (scene : Scene) : Prop where
  ledger : Ledger scene.tables
  listens : ∀ listener, scene.connection = .listening listener → Listens scene.tables listener

theorem Connection.advance_listens (ledger : Ledger tables) {connection : Connection}
    (listens : ∀ listener, connection = .listening listener → Listens tables listener)
    (advanced : connection.advance options request tables view = .listening listener) :
    Listens tables listener := by
  unfold advance at advanced
  cases connection with
  | connecting =>
    dsimp only at advanced
    cases current : tables.current with
    | none =>
      rw [current] at advanced
      cases advanced
    | some currentStreamId =>
      rw [current] at advanced
      dsimp only at advanced
      cases known : tables.generations.get? currentStreamId with
      | none =>
        rw [known] at advanced
        cases advanced
      | some generation =>
        rw [known] at advanced
        cases selected : request.selection with
        | cursor streamId afterSequence =>
          rw [selected] at advanced
          cases advanced
        | latest =>
          rw [selected] at advanced
          exact select_listens ledger known advanced
        | earliestAvailable =>
          rw [selected] at advanced
          exact select_listens ledger known advanced
  | selecting streamId currentStreamId => exact select_listens ledger rfl advanced
  | refused failure => cases advanced
  | listening earlier =>
    rw [← listening.inj advanced]
    exact (listens earlier rfl).advance ledger

variable {scene : Scene}

theorem Scene.Sound.next (sound : scene.Sound) (environment : Environment) (options : ListenOptions)
    (request : ListenRequest) (occurrence : Occurrence) :
    (scene.next environment options request occurrence).Sound := by
  obtain ⟨ledger, listens⟩ := sound
  unfold Scene.next
  cases occurrence with
  | call step =>
    have change := commit_change environment scene.tables step
    constructor
    · exact change.ledger ledger
    · intro listener isListener
      exact (listens listener isListener).change ledger change
  | advance view =>
    constructor
    · exact ledger
    · intro listener
      exact advance_listens ledger listens
  | failure =>
    constructor
    · exact ledger
    · intro listener isListener
      dsimp only at isListener
      cases isEarlier : scene.connection with
      | listening earlier =>
        rw [isEarlier] at isListener
        rw [← listening.inj isListener]
        exact (listens earlier isEarlier).follows.finish
      | _ =>
        rw [isEarlier] at isListener
        cases isListener
  | drained writable =>
    constructor
    · exact ledger
    · intro listener isListener
      dsimp only at isListener
      cases isEarlier : scene.connection with
      | listening earlier =>
        rw [isEarlier] at isListener
        rw [← listening.inj isListener]
        exact (listens earlier isEarlier).drained writable
      | _ =>
        rw [isEarlier] at isListener
        cases isListener
  | disconnected =>
    constructor
    · exact ledger
    · intro listener isListener
      dsimp only at isListener
      cases isEarlier : scene.connection with
      | listening earlier =>
        rw [isEarlier] at isListener
        rw [← listening.inj isListener]
        exact (listens earlier isEarlier).disconnect
      | _ =>
        rw [isEarlier] at isListener
        cases isListener

/-! ### What is delivered -/

/-- The listener has looked at every event after its cursor up to the last one it scanned, at each
once and in order, and what these showed is what it was sent, or is about to be sent. A listener
that waits for its next poll has looked at all that was published when it last read. -/
structure Listener.Delivered (tables : Tables) (listener : Listener) : Prop where
  looked : listener.examined.map Prod.fst = tables.events.filter fun event =>
    event.streamId == listener.streamId &&
      decide (listener.acceptedAfterSequence < event.sequence) &&
        decide (event.sequence ≤ listener.lastScannedSequence)
  numbered : (listener.examined.map fun entry => entry.1.sequence) =
    List.range' (listener.acceptedAfterSequence + 1)
      (listener.lastScannedSequence - listener.acceptedAfterSequence)
  written : listener.writer.written.filterMap Message.event? <+: listener.notified
  all : listener.writer.closed = false →
    (listener.writer.written ++ listener.writer.queue).filterMap Message.event? =
      listener.notified
  caughtUp : listener.stage = .waiting → listener.writer.closed = false →
    listener.lastScannedSequence = listener.throughSequence

theorem Listens.delivered (listens : Listens tables listener) (ledger : Ledger tables) :
    listener.Delivered tables := by
  obtain ⟨follows, atStage⟩ := listens
  obtain ⟨generation, known, within, _⟩ := follows.stream
  obtain ⟨messages, holds, same⟩ := follows.handed
  have scanned := follows.scanned
  have accepted := follows.accepted
  have numbering := ledger.numbering listener.streamId
  have length := ledger.length_stream known
  constructor
  · rw [follows.looked, ledger.between]
  · have taken : ((tables.stream listener.streamId).take
        listener.lastScannedSequence).length = listener.lastScannedSequence := by
      rw [List.length_take]
      omega
    have looked := (numbering.take listener.lastScannedSequence).drop (taken ▸ accepted)
    rw [← follows.looked] at looked
    have count := congrArg List.length follows.looked
    rw [List.length_drop, taken] at count
    calc
      (listener.examined.map fun entry => entry.1.sequence) =
          (listener.examined.map Prod.fst).map StoredEvent.sequence := by
        rw [List.map_map]
        rfl
      _ = List.range' (1 + listener.acceptedAfterSequence)
            (listener.examined.map Prod.fst).length := looked
      _ = List.range' (listener.acceptedAfterSequence + 1)
            (listener.lastScannedSequence - listener.acceptedAfterSequence) := by
        rw [count, Nat.add_comm]
  · rw [← same]
    exact holds.written.filterMap _
  · intro isOpen
    rw [holds.all isOpen, same]
  · intro isWaiting
    exact atStage.caughtUp (Or.inl isWaiting)

section Runs

open Sample

end Runs

end BusinessEvents

end SdarRuntime
