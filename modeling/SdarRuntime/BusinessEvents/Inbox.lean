import SdarRuntime.BusinessEvents.Calls

/-!
The rows of the inbox and the cursors of the sources over the calls: a row stays in its place,
a source does not go back in its stream, and no two rows have the same sequence.
-/

namespace SdarRuntime

namespace BusinessEvents

open OrderedMap InboxRow

variable {row : InboxRow}

theorem isOpen_of_isBarrier (barrier : row.isBarrier = true) :
    row.isOpen = true := by
  unfold isBarrier at barrier
  unfold InboxRow.isOpen
  revert barrier
  cases row.finalizedAt <;> cases row.status <;> simp

theorem not_ready_of_isBarrier (barrier : row.isBarrier = true) :
    row.status ≠ .ready := by
  intro ready
  unfold isBarrier at barrier
  rw [ready] at barrier
  simp at barrier

variable {tables : Tables} {sourceId sourceStreamId : String} {inboxId : Nat}

theorem firstRow_eq_some {matching : InboxRow → Bool}
    (first : tables.firstRow sourceId sourceStreamId matching = some (inboxId, row)) :
    tables.inbox.get? inboxId = some row ∧ row.sourceId = sourceId ∧
      row.sourceStreamId = sourceStreamId ∧ matching row = true ∧
        ∀ other otherRow, tables.inbox.get? other = some otherRow →
          otherRow.sourceId = sourceId → otherRow.sourceStreamId = sourceStreamId →
            matching otherRow = true → rowOrder (inboxId, row) ≤ rowOrder (other, otherRow) := by
  unfold Tables.firstRow at first
  have member := List.argmin_mem (f := rowOrder) first
  simp only [List.mem_filter, mem_entries, Bool.and_eq_true, beq_iff_eq] at member
  obtain ⟨known, ⟨source, stream⟩, matched⟩ := member
  refine ⟨known, source, stream, matched, ?_⟩
  intro other otherRow otherKnown otherSource otherStream otherMatches
  apply List.le_of_mem_argmin _ first
  simp only [List.mem_filter, mem_entries, Bool.and_eq_true, beq_iff_eq]
  exact ⟨otherKnown, ⟨otherSource, otherStream⟩, otherMatches⟩

theorem rowOrder_le {inboxId other : Nat} {row otherRow : InboxRow}
    (order : rowOrder (inboxId, row) ≤ rowOrder (other, otherRow)) :
    row.normalizedSourceSequence.getD 0 ≤ otherRow.normalizedSourceSequence.getD 0 := by
  rcases Prod.Lex.le_iff.mp order with less | ⟨same, _⟩
  · exact Nat.le_of_lt less
  · exact Nat.le_of_eq same

@[simp]
theorem closed_sourceId (row : InboxRow) (affected : List String) (now : Instant) :
    (row.closed affected now).sourceId = row.sourceId := by
  unfold closed
  split <;> rfl

@[simp]
theorem closed_sourceStreamId (row : InboxRow) (affected : List String) (now : Instant) :
    (row.closed affected now).sourceStreamId = row.sourceStreamId := by
  unfold closed
  split <;> rfl

@[simp]
theorem closed_sequence (row : InboxRow) (affected : List String) (now : Instant) :
    (row.closed affected now).normalizedSourceSequence = row.normalizedSourceSequence := by
  unfold closed
  split <;> rfl

@[simp]
theorem closed_sourcePayload (row : InboxRow) (affected : List String) (now : Instant) :
    (row.closed affected now).sourcePayload = row.sourcePayload := by
  unfold closed
  split <;> rfl

variable {affected : List String} {now : Instant}

theorem isOpen_of_closed (isOpen : (row.closed affected now).isOpen = true) :
    row.isOpen = true := by
  unfold closed at isOpen
  split at isOpen
  · simp [InboxRow.isOpen] at isOpen
  · exact isOpen

theorem isBarrier_of_closed (barrier : (row.closed affected now).isBarrier = true) :
    row.isBarrier = true ∧ row.sourceId ∉ affected := by
  unfold closed at barrier
  split at barrier
  · simp [isBarrier] at barrier
  · rename_i apart
    refine ⟨barrier, ?_⟩
    intro member
    exact apart ⟨List.contains_iff_mem.mpr member, barrier⟩

/-- A row that keeps its place: its source stream, its sequence and its fact. -/
structure SamePlace (row next : InboxRow) : Prop where
  source : next.sourceId = row.sourceId
  stream : next.sourceStreamId = row.sourceStreamId
  sequence : next.normalizedSourceSequence = row.normalizedSourceSequence
  fact : next.sourcePayload.map SourcePayload.fact = row.sourcePayload.map SourcePayload.fact

theorem SamePlace.refl (row : InboxRow) : SamePlace row row :=
  { source := rfl
    stream := rfl
    sequence := rfl
    fact := rfl }

/-- A row stays in its place, and what is not open does not become open. -/
structure KeepsRows (before after : Tables) : Prop where
  forward : ∀ inboxId row, before.inbox.get? inboxId = some row →
    ∃ next, after.inbox.get? inboxId = some next ∧ SamePlace row next
  back : ∀ inboxId next, inboxId < before.nextInboxId → after.inbox.get? inboxId = some next →
    ∃ row, before.inbox.get? inboxId = some row ∧ SamePlace row next ∧
      (next.isOpen = true → row.isOpen = true)

variable {environment : Environment} {before after : Tables} {readings : Readings} {call : Call}

theorem KeepsRows.of_same (same : after.inbox = before.inbox) : KeepsRows before after := by
  constructor
  · intro inboxId row known
    rw [same]
    exact ⟨row, known, .refl row⟩
  · intro inboxId next _ known
    rw [same] at known
    exact ⟨next, known, .refl next, id⟩

theorem KeepsRows.of_set {row next : InboxRow} (known : before.inbox.get? inboxId = some row)
    (place : SamePlace row next) (opens : next.isOpen = true → row.isOpen = true)
    (written : after.inbox = before.inbox.set inboxId next) : KeepsRows before after := by
  constructor
  · intro other otherRow otherKnown
    rw [written, get?_set]
    by_cases same : other = inboxId
    · rw [if_pos same]
      rw [same, known] at otherKnown
      rw [← Option.some.inj otherKnown]
      exact ⟨next, rfl, place⟩
    · rw [if_neg same]
      exact ⟨otherRow, otherKnown, .refl otherRow⟩
  · intro other otherNext _ otherKnown
    rw [written, get?_set] at otherKnown
    by_cases same : other = inboxId
    · rw [if_pos same] at otherKnown
      rw [← Option.some.inj otherKnown, same]
      exact ⟨row, known, place, opens⟩
    · rw [if_neg same] at otherKnown
      exact ⟨otherNext, otherKnown, .refl otherNext, id⟩

theorem KeepsRows.of_new (below : ∀ inboxId known, before.inbox.get? inboxId = some known →
      inboxId < before.nextInboxId)
    (written : after.inbox = before.inbox.set before.nextInboxId row) : KeepsRows before after := by
  constructor
  · intro inboxId known isKnown
    have different := Nat.ne_of_lt (below inboxId known isKnown)
    rw [written, get?_set_ne _ _ different]
    exact ⟨known, isKnown, .refl known⟩
  · intro inboxId next earlier isKnown
    rw [written, get?_set_ne _ _ (Nat.ne_of_lt earlier)] at isKnown
    exact ⟨next, isKnown, .refl next, id⟩

theorem KeepsRows.of_rotated
    (written : after.inbox = before.inbox.filterMap fun row => some (row.closed affected now)) :
    KeepsRows before after := by
  have closed (row : InboxRow) : SamePlace row (row.closed affected now) := by
    constructor <;> simp
  constructor
  · intro inboxId row known
    rw [written, get?_filterMap, known]
    exact ⟨_, rfl, closed row⟩
  · intro inboxId next _ known
    rw [written, get?_filterMap, Option.bind_eq_some_iff] at known
    obtain ⟨row, isKnown, isNext⟩ := known
    rw [← Option.some.inj isNext]
    exact ⟨row, isKnown, closed row, isOpen_of_closed⟩

/-- Where a source comes from: it is new, it keeps its stream and does not go back in it, or a
rotation gives it another stream. -/
inductive SourceComes (before : Tables) (readings : Readings) (call : Call) (after : Tables)
    (sourceId : String) (next : SourceState) : Prop
  | new (unknown : before.sources.get? sourceId = none)
  | kept {state : SourceState} (known : before.sources.get? sourceId = some state)
      (stream : next.sourceStreamId = state.sourceStreamId)
      (persisted : state.lastPersistedSourceSequence ≤ next.lastPersistedSourceSequence)
  | moved {reasonCode streamId : String} {affectedSourceIds : List String}
      {identity : ContinuityReason} {replacementRoster : Option (List SourceDefinition)}
      {previous : Generation} {roster : List SourceDefinition} {record : ContinuityRecord}
      {source : SourceDefinition} {state : SourceState}
      (isCall : call = .rotateStream reasonCode affectedSourceIds identity replacementRoster)
      (rotates : Rotates before readings reasonCode affectedSourceIds identity replacementRoster
        streamId previous roster record)
      (isAfter : after = before.rotated readings previous (roster.mergeSort byId) record)
      (member : source ∈ roster) (isSource : source.sourceId = sourceId)
      (known : before.sources.get? sourceId = some state)
      (moves : state.sourceStreamId ≠ source.sourceStreamId)
      (stream : next.sourceStreamId = source.sourceStreamId)

theorem comes_withSource {sourceId other : String} {state next found : SourceState}
    (isFound : after.sources.get? other = some found)
    (written : after.sources = before.sources.set sourceId next)
    (known : before.sources.get? sourceId = some state)
    (stream : next.sourceStreamId = state.sourceStreamId)
    (persisted : state.lastPersistedSourceSequence ≤ next.lastPersistedSourceSequence) :
    SourceComes before readings call after other found := by
  rw [written, get?_set] at isFound
  by_cases same : other = sourceId
  · rw [if_pos same] at isFound
    rw [← Option.some.inj isFound, same]
    exact .kept known stream persisted
  · rw [if_neg same] at isFound
    exact .kept isFound rfl (Nat.le_refl _)

variable {sourceId : String}

theorem Updates.cursor {state next : SourceState}
    (updates : Updates readings state call sourceId next) :
    next.sourceStreamId = state.sourceStreamId ∧
      next.deliverySemantics = state.deliverySemantics ∧
        next.lastPersistedSourceSequence = state.lastPersistedSourceSequence := by
  cases updates <;> exact ⟨rfl, rfl, rfl⟩

variable {state : SourceState}

theorem afterFact_cursor (readings : Readings) {fact : SourceFact} (rejected : Bool)
    (later : state.lastPersistedSourceSequence < fact.sourceSequence) :
    (state.afterFact readings fact rejected).sourceStreamId = state.sourceStreamId ∧
      (state.afterFact readings fact rejected).deliverySemantics = state.deliverySemantics ∧
        state.lastPersistedSourceSequence ≤
          (state.afterFact readings fact rejected).lastPersistedSourceSequence := by
  unfold SourceState.afterFact
  split
  · exact ⟨rfl, rfl, Nat.le_of_lt later⟩
  · exact ⟨rfl, rfl, Nat.le_refl _⟩

theorem get?_foldl_set_absent (sources : OrderedMap String SourceState)
    (roster : List SourceDefinition)
    (absent : ∀ source, source ∈ roster → source.sourceId ≠ sourceId) :
    (roster.foldl (fun states source => states.set source.sourceId source.state) sources).get?
      sourceId = sources.get? sourceId := by
  induction roster generalizing sources with
  | nil => rfl
  | cons first rest ih =>
    rw [List.foldl_cons, ih _ fun source member => absent source (List.mem_cons_of_mem _ member),
      get?_set_ne _ _ (absent first List.mem_cons_self).symm]

theorem get?_initialized_sources {sources : List SourceDefinition}
    (unknown : ∀ source, source ∈ sources → before.sources.get? source.sourceId = none)
    (known : before.sources.get? sourceId = some state) :
    (before.initialized readings sources).sources.get? sourceId = some state := by
  rw [← known]
  apply get?_foldl_set_absent
  intro source member same
  have absent := unknown source (List.mem_mergeSort.mp member)
  rw [same, known] at absent
  cases absent

theorem Change.comes (change : Change environment before readings call after) {next : SourceState}
    (isNext : after.sources.get? sourceId = some next) :
    SourceComes before readings call after sourceId next := by
  cases change with
  | idle => exact .kept isNext rfl (Nat.le_refl _)
  | initialized first distinct unknown fresh =>
    cases known : before.sources.get? sourceId with
    | none => exact .new known
    | some state =>
      rw [get?_initialized_sources unknown known] at isNext
      rw [← Option.some.inj isNext]
      exact .kept known rfl (Nat.le_refl _)
  | updated known updates =>
    obtain ⟨stream, _, persisted⟩ := updates.cursor
    exact comes_withSource isNext rfl known stream (Nat.le_of_eq persisted.symm)
  | took mappingDeadline known takes hashes validated =>
    obtain ⟨stream, _, persisted⟩ := afterFact_cursor readings _ takes.later
    exact comes_withSource isNext rfl known stream persisted
  | poisoned known leases => exact comes_withSource isNext rfl known rfl (Nat.le_refl _)
  | prepared unprepared prepares => exact .kept isNext rfl (Nat.le_refl _)
  | mappingFailed unprepared =>
    exact comes_withSource isNext rfl unprepared.known rfl (Nat.le_refl _)
  | published publishes =>
    have known := publishes.known
    rw [← publishes.source] at known
    exact comes_withSource isNext rfl known rfl (Nat.le_refl _)
  | rotated rotates =>
    cases known : before.sources.get? sourceId with
    | none => exact .new known
    | some state =>
      rcases get?_rotated_sources rotates.distinct known with out | ⟨source, member, isSource, on⟩
      · rw [out] at isNext
        rw [← Option.some.inj isNext]
        exact .kept known rfl (Nat.le_refl _)
      · rw [on] at isNext
        rw [← Option.some.inj isNext]
        by_cases same : state.sourceStreamId = source.sourceStreamId
        · apply SourceComes.kept known same.symm
          simp [SourceState.enrolled, same]
        · exact .moved rfl rotates rfl member isSource known same rfl

theorem Change.source_known (change : Change environment before readings call after)
    (known : (before.sources.get? sourceId).isSome = true) :
    (after.sources.get? sourceId).isSome = true := by
  have written {other : String} {next : SourceState} :
      ((before.sources.set other next).get? sourceId).isSome = true := by
    rw [get?_set]
    split
    · rfl
    · exact known
  obtain ⟨state, isState⟩ := Option.isSome_iff_exists.mp known
  cases change with
  | idle => exact known
  | initialized first distinct unknown fresh =>
    rw [get?_initialized_sources unknown isState]
    rfl
  | updated _ updates => exact written
  | took mappingDeadline _ takes hashes validated => exact written
  | poisoned _ leases => exact written
  | prepared unprepared prepares => exact known
  | mappingFailed unprepared => exact written
  | published publishes => exact written
  | rotated rotates =>
    rcases get?_rotated_sources rotates.distinct isState with out | ⟨source, _, _, on⟩
    · rw [out]
      rfl
    · rw [on]
      rfl

/-- Every row has an id of its own time, a known source, the sequence of its fact, and no other
row has the same sequence of its source stream. -/
structure Filed (tables : Tables) : Prop where
  below : ∀ inboxId row, tables.inbox.get? inboxId = some row → inboxId < tables.nextInboxId
  known : ∀ inboxId row, tables.inbox.get? inboxId = some row →
    (tables.sources.get? row.sourceId).isSome = true
  fact : ∀ inboxId row payload, tables.inbox.get? inboxId = some row →
    row.sourcePayload = some payload →
      row.normalizedSourceSequence = some payload.fact.sourceSequence ∧
        0 < payload.fact.sourceSequence
  alone : ∀ inboxId other row otherRow sequence, tables.inbox.get? inboxId = some row →
    tables.inbox.get? other = some otherRow → row.sourceId = otherRow.sourceId →
      row.sourceStreamId = otherRow.sourceStreamId →
        row.normalizedSourceSequence = some sequence →
          otherRow.normalizedSourceSequence = some sequence → inboxId = other

theorem filed_empty : Filed .empty := by
  constructor
  · intro inboxId row known
    cases known
  · intro inboxId row known
    cases known
  · intro inboxId row payload known
    cases known
  · intro inboxId other row otherRow sequence known
    cases known

inductive NewRow (before : Tables) (readings : Readings) : InboxRow → Prop
  | taken {lease : Lease} {fact : SourceFact} {state : SourceState} (rejected : Bool)
      (occurredAt hash : String) (mappingDeadline : Instant)
      (known : before.sources.get? lease.sourceId = some state)
      (takes : Takes before readings state lease fact) :
      NewRow before readings (fact.row lease rejected occurredAt hash mappingDeadline)
  | poisoned {lease : Lease} {state : SourceState}
      (known : before.sources.get? lease.sourceId = some state) :
      NewRow before readings (poisonRow lease)

theorem samePlace_of_prepares {row next : InboxRow} (prepares : Prepares row next) :
    SamePlace row next :=
  { source := prepares.source
    stream := prepares.stream
    sequence := prepares.sequence
    fact := prepares.fact }

theorem Change.keepsRows (change : Change environment before readings call after) (filed : Filed before) :
    KeepsRows before after := by
  cases change with
  | idle => exact .of_same rfl
  | initialized first distinct unknown fresh => exact .of_same rfl
  | updated known updates => exact .of_same rfl
  | took mappingDeadline known takes hashes validated => exact .of_new filed.below rfl
  | poisoned known leases => exact .of_new filed.below rfl
  | prepared unprepared prepares =>
    obtain ⟨isRow, _, _, isOpen, _⟩ := firstRow_eq_some unprepared.first
    exact .of_set isRow (samePlace_of_prepares prepares) (fun _ => isOpen) rfl
  | mappingFailed unprepared =>
    obtain ⟨isRow, _, _, isOpen, _⟩ := firstRow_eq_some unprepared.first
    apply KeepsRows.of_set isRow _ (fun _ => isOpen) rfl
    constructor <;> rfl
  | published publishes =>
    obtain ⟨isRow, _, _, isOpen, _⟩ := firstRow_eq_some publishes.first
    apply KeepsRows.of_set isRow _ (fun _ => isOpen) rfl
    constructor <;> rfl
  | rotated rotates => exact .of_rotated rfl

theorem Change.newRow (change : Change environment before readings call after)
    (filed : Filed before) {next : InboxRow} (isNew : ¬inboxId < before.nextInboxId)
    (isNext : after.inbox.get? inboxId = some next) :
    inboxId = before.nextInboxId ∧ after.nextInboxId = before.nextInboxId + 1 ∧
      NewRow before readings next := by
  have notKnown {row : InboxRow} (known : before.inbox.get? inboxId = some row) : False :=
    isNew (filed.below inboxId row known)
  have notWritten {other : Nat} {row written : InboxRow}
      (known : before.inbox.get? other = some row)
      (found : (before.inbox.set other written).get? inboxId = some next) : False := by
    rw [get?_set] at found
    split at found
    · rename_i same
      rw [← same] at known
      exact notKnown known
    · exact notKnown found
  have added {row : InboxRow}
      (found : (before.inbox.set before.nextInboxId row).get? inboxId = some next) :
      inboxId = before.nextInboxId ∧ row = next := by
    rw [get?_set] at found
    split at found
    · rename_i same
      exact ⟨same, Option.some.inj found⟩
    · exact (notKnown found).elim
  cases change with
  | idle => exact (notKnown isNext).elim
  | initialized first distinct unknown fresh => exact (notKnown isNext).elim
  | updated known updates => exact (notKnown isNext).elim
  | took mappingDeadline known takes hashes validated =>
    obtain ⟨same, isRow⟩ := added isNext
    rw [← isRow]
    exact ⟨same, rfl, NewRow.taken _ _ _ mappingDeadline known takes⟩
  | poisoned known leases =>
    obtain ⟨same, isRow⟩ := added isNext
    rw [← isRow]
    exact ⟨same, rfl, .poisoned known⟩
  | prepared unprepared prepares =>
    exact (notWritten (firstRow_eq_some unprepared.first).1 isNext).elim
  | mappingFailed unprepared =>
    exact (notWritten (firstRow_eq_some unprepared.first).1 isNext).elim
  | published publishes =>
    exact (notWritten (firstRow_eq_some publishes.first).1 isNext).elim
  | rotated rotates =>
    unfold Tables.rotated at isNext
    rw [get?_filterMap, Option.bind_eq_some_iff] at isNext
    obtain ⟨row, known, _⟩ := isNext
    exact (notKnown known).elim

theorem Change.nextInboxId_le (change : Change environment before readings call after) :
    before.nextInboxId ≤ after.nextInboxId := by
  cases change with
  | took mappingDeadline known takes hashes validated => exact Nat.le_succ _
  | poisoned known leases => exact Nat.le_succ _
  | _ => exact Nat.le_refl _

variable {lease : Lease}

theorem Takes.unlike {fact : SourceFact} (takes : Takes tables readings state lease fact)
    (known : tables.inbox.get? inboxId = some row) (source : row.sourceId = lease.sourceId)
    (stream : row.sourceStreamId = lease.sourceStreamId) :
    row.normalizedSourceSequence ≠ some fact.sourceSequence := by
  intro same
  have member : row ∈ tables.sameIdentity lease fact := by
    unfold Tables.sameIdentity
    rw [List.mem_filter]
    exact ⟨mem_values.mpr ⟨inboxId, known⟩, by simp [source, stream, same]⟩
  rw [takes.unknown] at member
  cases member

theorem Takes.stream_eq {fact : SourceFact} (takes : Takes tables readings state lease fact) :
    lease.sourceStreamId = state.sourceStreamId := by
  have leased := takes.leases.1
  unfold SourceState.leasedTo at leased
  simp only [Bool.and_eq_true, beq_iff_eq] at leased
  exact leased.1.1.symm

variable {sequence : Nat}

theorem NewRow.unlike {next : InboxRow} (isNew : NewRow before readings next)
    (known : before.inbox.get? inboxId = some row) (source : row.sourceId = next.sourceId)
    (stream : row.sourceStreamId = next.sourceStreamId)
    (isSequence : row.normalizedSourceSequence = some sequence) :
    next.normalizedSourceSequence ≠ some sequence := by
  intro same
  cases isNew with
  | taken rejected occurredAt hash mappingDeadline isSource takes =>
    exact takes.unlike known source stream (isSequence.trans same.symm)
  | poisoned isSource => cases same

theorem NewRow.fact {next : InboxRow} (isNew : NewRow before readings next)
    {payload : SourcePayload} (decoded : next.sourcePayload = some payload) :
    next.normalizedSourceSequence = some payload.fact.sourceSequence ∧
      0 < payload.fact.sourceSequence := by
  cases isNew with
  | taken rejected occurredAt hash mappingDeadline isSource takes =>
    rw [← Option.some.inj decoded]
    exact ⟨rfl, takes.positive⟩
  | poisoned isSource => cases decoded

theorem NewRow.source_known {next : InboxRow} (isNew : NewRow before readings next) :
    (before.sources.get? next.sourceId).isSome = true := by
  cases isNew with
  | taken rejected occurredAt hash mappingDeadline isSource takes =>
    exact Option.isSome_iff_exists.mpr ⟨_, isSource⟩
  | poisoned isSource => exact Option.isSome_iff_exists.mpr ⟨_, isSource⟩

theorem Filed.change (filed : Filed before) (change : Change environment before readings call after) :
    Filed after := by
  have rows := change.keepsRows filed
  have grows := change.nextInboxId_le
  constructor
  · intro inboxId next isNext
    by_cases earlier : inboxId < before.nextInboxId
    · exact Nat.lt_of_lt_of_le earlier grows
    · obtain ⟨same, counted, _⟩ := change.newRow filed earlier isNext
      omega
  · intro inboxId next isNext
    apply change.source_known
    by_cases earlier : inboxId < before.nextInboxId
    · obtain ⟨row, known, place, _⟩ := rows.back inboxId next earlier isNext
      rw [place.source]
      exact filed.known inboxId row known
    · exact (change.newRow filed earlier isNext).2.2.source_known
  · intro inboxId next payload isNext decoded
    by_cases earlier : inboxId < before.nextInboxId
    · obtain ⟨row, known, place, _⟩ := rows.back inboxId next earlier isNext
      have facts := place.fact
      rw [decoded, Option.map_some] at facts
      obtain ⟨old, isOld, sameFact⟩ := Option.map_eq_some_iff.mp facts.symm
      rw [place.sequence, ← sameFact]
      exact filed.fact inboxId row old known isOld
    · exact (change.newRow filed earlier isNext).2.2.fact decoded
  · intro inboxId other next otherNext sequence isNext isOther source stream isSequence isOtherSeq
    by_cases earlier : inboxId < before.nextInboxId
    · obtain ⟨row, known, place, _⟩ := rows.back inboxId next earlier isNext
      rw [place.source] at source
      rw [place.stream] at stream
      rw [place.sequence] at isSequence
      by_cases otherEarlier : other < before.nextInboxId
      · obtain ⟨otherRow, otherKnown, otherPlace, _⟩ :=
          rows.back other otherNext otherEarlier isOther
        rw [otherPlace.source] at source
        rw [otherPlace.stream] at stream
        rw [otherPlace.sequence] at isOtherSeq
        exact filed.alone inboxId other row otherRow sequence known otherKnown source stream
          isSequence isOtherSeq
      · have isNew := (change.newRow filed otherEarlier isOther).2.2
        exact (isNew.unlike known source stream isSequence isOtherSeq).elim
    · obtain ⟨same, _, isNew⟩ := change.newRow filed earlier isNext
      by_cases otherEarlier : other < before.nextInboxId
      · obtain ⟨otherRow, otherKnown, otherPlace, _⟩ :=
          rows.back other otherNext otherEarlier isOther
        rw [otherPlace.source] at source
        rw [otherPlace.stream] at stream
        rw [otherPlace.sequence] at isOtherSeq
        exact (isNew.unlike otherKnown source.symm stream.symm isOtherSeq isSequence).elim
      · rw [same, (change.newRow filed otherEarlier isOther).1]

def Tables.HasRow (tables : Tables) (sourceId sourceStreamId : String) (sequence : Nat) : Prop :=
  ∃ inboxId row, tables.inbox.get? inboxId = some row ∧ row.sourceId = sourceId ∧
    row.sourceStreamId = sourceStreamId ∧ row.normalizedSourceSequence = some sequence

def Tables.HasBarrier (tables : Tables) (sourceId : String) : Prop :=
  ∃ inboxId row, tables.inbox.get? inboxId = some row ∧ row.sourceId = sourceId ∧
    row.isBarrier = true

theorem KeepsRows.hasRow (rows : KeepsRows before after)
    (has : before.HasRow sourceId sourceStreamId sequence) :
    after.HasRow sourceId sourceStreamId sequence := by
  obtain ⟨inboxId, row, known, source, stream, isSequence⟩ := has
  obtain ⟨next, isNext, place⟩ := rows.forward inboxId row known
  refine ⟨inboxId, next, isNext, ?_, ?_, ?_⟩
  · rw [place.source, source]
  · rw [place.stream, stream]
  · rw [place.sequence, isSequence]

theorem Change.finalized (change : Change environment before readings call after)
    (filed : Filed before) (known : before.inbox.get? inboxId = some row)
    (isOver : row.finalizedAt.isSome = true) :
    ∃ next, after.inbox.get? inboxId = some next ∧ next.finalizedAt.isSome = true := by
  have unwritten {other : Nat} {first written : InboxRow}
      (isFirst : before.inbox.get? other = some first) (isOpen : first.isOpen = true) :
      (before.inbox.set other written).get? inboxId = some row := by
    have different : inboxId ≠ other := by
      intro same
      rw [same, isFirst] at known
      rw [Option.some.inj known] at isOpen
      unfold InboxRow.isOpen at isOpen
      rw [Bool.and_eq_true, Option.isNone_iff_eq_none] at isOpen
      rw [isOpen.1] at isOver
      cases isOver
    rw [get?_set_ne _ _ different, known]
  have behind {written : InboxRow} :
      (before.inbox.set before.nextInboxId written).get? inboxId = some row := by
    rw [get?_set_ne _ _ (Nat.ne_of_lt (filed.below inboxId row known)), known]
  cases change with
  | idle => exact ⟨row, known, isOver⟩
  | initialized first distinct unknown fresh => exact ⟨row, known, isOver⟩
  | updated isSource updates => exact ⟨row, known, isOver⟩
  | took mappingDeadline isSource takes hashes validated => exact ⟨row, behind, isOver⟩
  | poisoned isSource leases => exact ⟨row, behind, isOver⟩
  | prepared unprepared prepares =>
    obtain ⟨isFirst, _, _, isOpen, _⟩ := firstRow_eq_some unprepared.first
    exact ⟨row, unwritten isFirst isOpen, isOver⟩
  | mappingFailed unprepared =>
    obtain ⟨isFirst, _, _, isOpen, _⟩ := firstRow_eq_some unprepared.first
    exact ⟨row, unwritten isFirst isOpen, isOver⟩
  | published publishes =>
    obtain ⟨isFirst, _, _, isOpen, _⟩ := firstRow_eq_some publishes.first
    exact ⟨row, unwritten isFirst isOpen, isOver⟩
  | rotated rotates =>
    unfold Tables.rotated
    dsimp only
    rw [get?_filterMap, known]
    refine ⟨_, rfl, ?_⟩
    unfold closed
    split
    · rfl
    · exact isOver

theorem Change.rotation (change : Change environment before readings call after) :
    after.continuity = before.continuity ∨
      ∃ reasonCode affectedSourceIds identity replacementRoster streamId previous roster record,
        call = .rotateStream reasonCode affectedSourceIds identity replacementRoster ∧
          Rotates before readings reasonCode affectedSourceIds identity replacementRoster streamId
            previous roster record ∧
            after = before.rotated readings previous (roster.mergeSort byId) record := by
  cases change with
  | rotated rotates => exact Or.inr ⟨_, _, _, _, _, _, _, _, rfl, rotates, rfl⟩
  | _ => exact Or.inl rfl

theorem Change.continuity_grows (change : Change environment before readings call after) :
    before.continuity <+: after.continuity := by
  rcases change.rotation with same | ⟨_, _, _, _, _, _, _, _, _, _, isAfter⟩
  · exact same.symm ▸ List.prefix_refl _
  · rw [isAfter]
    exact List.prefix_append _ _

theorem Change.barrier (change : Change environment before readings call after)
    (filed : Filed before) (known : before.inbox.get? inboxId = some row)
    (barrier : row.isBarrier = true) :
    after.inbox.get? inboxId = some row ∨
      (∃ record, after.continuity = before.continuity ++ [record] ∧
        row.sourceId ∈ record.affectedSourceIds) ∧
        ∃ closed, after.inbox.get? inboxId = some closed ∧ closed.finalizedAt.isSome = true := by
  have unwritten {other : Nat} {first written : InboxRow}
      (isFirst : before.inbox.get? other = some first) (noBarrier : first.isBarrier = false) :
      (before.inbox.set other written).get? inboxId = some row := by
    have different : inboxId ≠ other := by
      intro same
      rw [same, isFirst] at known
      rw [Option.some.inj known, barrier] at noBarrier
      cases noBarrier
    rw [get?_set_ne _ _ different, known]
  have behind {written : InboxRow} :
      (before.inbox.set before.nextInboxId written).get? inboxId = some row := by
    rw [get?_set_ne _ _ (Nat.ne_of_lt (filed.below inboxId row known)), known]
  cases change with
  | idle => exact Or.inl known
  | initialized first distinct unknown fresh => exact Or.inl known
  | updated isSource updates => exact Or.inl known
  | took mappingDeadline isSource takes hashes validated => exact Or.inl behind
  | poisoned isSource leases => exact Or.inl behind
  | prepared unprepared prepares =>
    exact Or.inl (unwritten (firstRow_eq_some unprepared.first).1 unprepared.noBarrier)
  | mappingFailed unprepared =>
    exact Or.inl (unwritten (firstRow_eq_some unprepared.first).1 unprepared.noBarrier)
  | published publishes =>
    apply Or.inl
    apply unwritten (firstRow_eq_some publishes.first).1
    by_contra isBarrier
    exact not_ready_of_isBarrier (Bool.not_eq_false _ ▸ isBarrier) publishes.ready
  | @rotated reasonCode streamId affectedSourceIds identity replacementRoster previous roster record
      rotates =>
      have isNext : (before.rotated readings previous (roster.mergeSort byId) record).inbox.get?
          inboxId = some (row.closed record.affectedSourceIds readings.database) := by
        unfold Tables.rotated
        dsimp only
        rw [get?_filterMap, known]
        rfl
      by_cases affected : record.affectedSourceIds.contains row.sourceId = true
      · right
        refine ⟨⟨record, rfl, List.contains_iff_mem.mp affected⟩, _, isNext, ?_⟩
        unfold closed
        rw [if_pos ⟨affected, barrier⟩]
        rfl
      · left
        rw [isNext]
        unfold closed
        rw [if_neg fun both => affected both.1]

end BusinessEvents

end SdarRuntime
