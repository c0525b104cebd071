import Mathlib.Data.Finset.Dedup
import Mathlib.Data.Fintype.EquivFin
import SdarRuntime.BusinessEvents.Inbox
import SdarRuntime.BusinessEvents.Sample
import SdarRuntime.BusinessEvents.SourceClient

/-!
A source that lost its continuity is not leased again before a rotation. The client that lost it
makes the rotation, unless its process is gone in between.
-/

namespace SdarRuntime

namespace BusinessEvents

open Transaction OrderedMap Client Tables SourceSystem

variable {environment : Environment} {options : SourceOptions}

def Pending (options : SourceOptions) (tables : Tables) : Prop :=
  ∃ state, tables.sources.get? options.sourceId = some state ∧
    state.status = .continuityLossPending

/-- The clients can go on to a rotation that names the source and closes its barriers. -/
def SourceSystem.CanRotate (environment : Environment) (options : SourceOptions)
    (system : SourceSystem) : Prop :=
  ∃ actions record,
    (system.after environment options actions).tables.continuity =
        system.tables.continuity ++ [record] ∧
      options.sourceId ∈ record.affectedSourceIds ∧
        ¬(system.after environment options actions).tables.HasBarrier options.sourceId

def Unused (tables : Tables) (identity : ContinuityReason) : Prop :=
  ∀ record, record ∈ tables.continuity → record.continuityReasonIdentity ≠ identity

inductive Owes (options : SourceOptions) (tables : Tables) (client : Client) : Prop
  | handling {sourceSequence : Nat} (next : client.handling = .rotating sourceSequence)
      (unused : Unused tables (.poison options.sourceStreamId sourceSequence))
  | reading {reason : String} (next : client.reading = .rotating reason)
      (unused : Unused tables
        (.cursor options.sourceStreamId reason client.lease.lastPersistedSourceSequence))
  | finalizing {barrierId : Nat} (next : client.finalizing = .rotating barrierId)
      (unused : Unused tables (.mappingInbox options.sourceStreamId barrierId))
  | barrier {inboxId : Nat} {row : InboxRow} (next : client.finalizing = .readingBarrier)
      (known : tables.inbox.get? inboxId = some row) (source : row.sourceId = options.sourceId)
      (stream : row.sourceStreamId = options.sourceStreamId) (isBarrier : row.isBarrier = true)

/-! ### Rotations -/

/-- The current generation may be rotated, and the source is in its roster as it is. -/
structure Rotatable (options : SourceOptions) (tables : Tables) : Prop where
  current : ∃ streamId generation roster, tables.current = some streamId ∧
    tables.generations.get? streamId = some generation ∧ generation.status = .current ∧
      tables.rosters.get? streamId = some roster ∧ 1 ≤ roster.length ∧ roster.length ≤ 16 ∧
        (roster.map SourceDefinition.sourceId).Nodup ∧
          ∃ source, source ∈ roster ∧ source.sourceId = options.sourceId ∧
            source.sourceStreamId = options.sourceStreamId ∧
              source.deliverySemantics = .durableAtLeastOnce
  source : ∃ state, tables.sources.get? options.sourceId = some state ∧
    state.sourceStreamId = options.sourceStreamId ∧
      state.deliverySemantics = .durableAtLeastOnce

theorem mem_sortedUnique {texts : List String} {text : String} :
    text ∈ sortedUnique texts ↔ text ∈ texts := by
  unfold sortedUnique
  rw [List.mem_mergeSort, List.mem_dedup]

variable {tables : Tables}

theorem rotateSource_eq_ok {readings : Readings} (reasonCode : String) {identity : ContinuityReason}
    (rotatable : Rotatable options tables) (unused : Unused tables identity)
    (fresh : tables.generations.get? readings.newStreamId = none) :
    ∃ streamId previous roster record,
      Rotates tables readings reasonCode [options.sourceId] identity none streamId previous roster
          record ∧
        rotateSource options readings reasonCode identity tables =
          .ok (record, tables.rotated readings previous (roster.mergeSort byId) record) := by
  obtain ⟨streamId, generation, roster, current, closes, isCurrent, enrols, some', few, distinct,
    _⟩ := rotatable.current
  have first : tables.continuity.find? (fun record => record.continuityReasonIdentity == identity) =
      none := by
    rw [List.find?_eq_none]
    intro record member same
    exact unused record member (beq_iff_eq.mp same)
  have affects : sortedUnique [options.sourceId] ≠ [] := by
    intro none
    have member : options.sourceId ∈ sortedUnique [options.sourceId] :=
      mem_sortedUnique.mpr (List.mem_singleton_self _)
    rw [none] at member
    cases member
  refine ⟨streamId, generation, roster,
    rotationRecord readings streamId reasonCode generation (sortedUnique [options.sourceId]) identity,
    ?_, ?_⟩
  · exact {
      first := unused
      current := current
      closes := closes
      isCurrent := isCurrent
      enrols := by rw [enrols]; rfl
      counted := ⟨some', few⟩
      distinct := distinct
      affects := affects
      fresh := fresh
      records := rfl }
  · unfold rotateSource rotateStream
    rw [read_bind, first]
    dsimp only
    rw [current]
    dsimp only
    rw [closes]
    dsimp only
    rw [enrols, if_neg (not_not.mpr isCurrent), if_neg, if_neg, if_neg]
    · rfl
    · simp [fresh]
    · intro none
      exact affects (List.isEmpty_iff.mp none)
    · simp only [Option.getD_none, Option.getD_some, not_or, not_not, not_lt]
      exact ⟨some', few, distinct⟩

variable {reasonCode : String}

theorem rotateSource_again {readings : Readings} {identity : ContinuityReason}
    (used : ¬Unused tables identity) :
    ((rotateSource options readings reasonCode identity).commit tables).2 = tables := by
  cases earlier : tables.continuity.find?
      (fun record => record.continuityReasonIdentity == identity) with
  | none =>
    exfalso
    apply used
    intro record member same
    exact List.find?_eq_none.mp earlier record member (beq_iff_eq.mpr same)
  | some record =>
    have answered : rotateSource options readings reasonCode identity tables =
        .ok (record, tables) := by
      unfold rotateSource rotateStream
      rw [read_bind, earlier]
      rfl
    rw [commit_of_ok answered]

section Rotations

variable {before after : Tables} {readings : Readings} {call : Call} {reasonCode streamId : String}
  {identity : ContinuityReason} {previous : Generation} {roster : List SourceDefinition}
  {record : ContinuityRecord}

variable {affected : List String}

theorem Rotates.keepsRoster
    (rotates : Rotates before readings reasonCode affected identity none streamId previous roster
      record) (rotatable : Rotatable options before) :
    1 ≤ roster.length ∧ roster.length ≤ 16 ∧ (roster.map SourceDefinition.sourceId).Nodup ∧
      ∃ source, source ∈ roster ∧ source.sourceId = options.sourceId ∧
        source.sourceStreamId = options.sourceStreamId ∧
          source.deliverySemantics = .durableAtLeastOnce := by
  obtain ⟨current, generation, listed, isCurrent, _, _, enrols, some', few, distinct, has⟩ :=
    rotatable.current
  have same : current = streamId := Option.some.inj (isCurrent.symm.trans rotates.current)
  have isRoster := rotates.enrols
  rw [← same, enrols] at isRoster
  change roster = listed at isRoster
  rw [isRoster]
  exact ⟨some', few, distinct, has⟩

theorem Rotates.active
    (rotates : Rotates before readings reasonCode affected identity none streamId previous roster
      record) (rotatable : Rotatable options before) :
    ∃ state, (before.rotated readings previous (roster.mergeSort byId) record).sources.get?
        options.sourceId = some state ∧ state.status = .active ∧
          state.sourceStreamId = options.sourceStreamId ∧
            state.deliverySemantics = .durableAtLeastOnce := by
  obtain ⟨_, _, distinct, source, member, isSource, stream, durable⟩ :=
    rotates.keepsRoster rotatable
  have sorted : ((roster.mergeSort byId).map SourceDefinition.sourceId).Nodup :=
    ((List.mergeSort_perm roster byId).map SourceDefinition.sourceId).nodup_iff.mpr distinct
  have isNext := get?_enrolAll_mem before.sources sorted (List.mem_mergeSort.mpr member)
  rw [isSource] at isNext
  cases known : before.sources.get? options.sourceId with
  | none =>
    rw [known] at isNext
    exact ⟨_, isNext, rfl, stream, durable⟩
  | some state =>
    rw [known] at isNext
    exact ⟨_, isNext, rfl, stream, durable⟩

theorem noBarrier_of_rotated (named : options.sourceId ∈ record.affectedSourceIds) {inboxId : Nat}
    {next : InboxRow}
    (isNext : (before.rotated readings previous (roster.mergeSort byId) record).inbox.get?
      inboxId = some next) (source : next.sourceId = options.sourceId) :
    next.isBarrier = false := by
  by_contra notFalse
  have barrier : next.isBarrier = true := by simpa using notFalse
  unfold rotated at isNext
  rw [get?_filterMap, Option.bind_eq_some_iff] at isNext
  obtain ⟨row, _, isClosed⟩ := isNext
  rw [← Option.some.inj isClosed] at barrier source
  rw [closed_sourceId] at source
  apply (isBarrier_of_closed barrier).2
  rw [source]
  exact named

theorem Rotates.named (rotates : Rotates before readings reasonCode [options.sourceId] identity
    none streamId previous roster record) : options.sourceId ∈ record.affectedSourceIds := by
  rw [rotates.records]
  exact mem_sortedUnique.mpr (List.mem_singleton_self _)

theorem Rotatable.change (rotatable : Rotatable options before)
    (change : Change environment before readings call after)
    (keeps : ∀ reasonCode affected identity roster,
      call ≠ .rotateStream reasonCode affected identity (some roster)) :
    Rotatable options after := by
  obtain ⟨state, known, stream, durable⟩ := rotatable.source
  have written {other : String} {old next : SourceState}
      (isOld : before.sources.get? other = some old)
      (sameStream : next.sourceStreamId = old.sourceStreamId)
      (sameDelivery : next.deliverySemantics = old.deliverySemantics) :
      ∃ found, (before.sources.set other next).get? options.sourceId = some found ∧
        found.sourceStreamId = options.sourceStreamId ∧
          found.deliverySemantics = .durableAtLeastOnce := by
    rw [get?_set]
    by_cases same : options.sourceId = other
    · rw [if_pos same]
      rw [same, isOld] at known
      rw [Option.some.inj known] at sameStream sameDelivery
      exact ⟨next, rfl, sameStream.trans stream, sameDelivery.trans durable⟩
    · rw [if_neg same]
      exact ⟨state, known, stream, durable⟩
  cases change with
  | idle => exact rotatable
  | initialized first distinct unknown fresh =>
    obtain ⟨_, _, _, current, _⟩ := rotatable.current
    rw [first] at current
    cases current
  | updated isSource updates =>
    obtain ⟨sameStream, sameDelivery, _⟩ := updates.cursor
    exact ⟨rotatable.current, written isSource sameStream sameDelivery⟩
  | took mappingDeadline isSource takes hashes validated =>
    obtain ⟨sameStream, sameDelivery, _⟩ := afterFact_cursor readings _ takes.later
    exact ⟨rotatable.current, written isSource sameStream sameDelivery⟩
  | poisoned isSource leases => exact ⟨rotatable.current, written isSource rfl rfl⟩
  | prepared unprepared prepares => exact ⟨rotatable.current, rotatable.source⟩
  | mappingFailed unprepared => exact ⟨rotatable.current, written unprepared.known rfl rfl⟩
  | @published _ streamId _ generation other inboxId row event publishes =>
    have isSource : before.sources.get? event.sourceId = some other := by
      rw [publishes.source]
      exact publishes.known
    refine ⟨?_, written isSource rfl rfl⟩
    obtain ⟨current, old, roster, isCurrent, known, status, rest⟩ := rotatable.current
    have same : current = streamId := Option.some.inj (isCurrent.symm.trans publishes.current)
    rw [same] at known rest
    have isOld : old = generation := Option.some.inj (known.symm.trans publishes.appends)
    have isNext : (before.published generation other inboxId row event
        readings.database).generations.get? streamId =
          some { generation with currentSequence := event.sequence } := by
      unfold published
      dsimp only
      rw [publishes.stream]
      exact get?_set_self _ _ _
    rw [isOld] at status
    exact ⟨streamId, _, roster, publishes.current, isNext, status, rest⟩
  | @rotated reasonCode streamId affected identity replacement previous roster record rotates =>
    cases replacement with
    | some replaced => exact (keeps reasonCode affected identity replaced rfl).elim
    | none =>
      obtain ⟨some', few, distinct, source, member, isSource, sameStream, isDurable⟩ :=
        rotates.keepsRoster rotatable
      obtain ⟨next, isNext, _, nextStream, nextDurable⟩ := rotates.active rotatable
      refine ⟨?_, next, isNext, nextStream, nextDurable⟩
      refine ⟨record.newStreamId, _, roster.mergeSort byId, rfl,
        get?_set_self _ _ _, rfl, get?_set_self _ _ _, ?_, ?_, ?_, source,
        List.mem_mergeSort.mpr member, isSource, sameStream, isDurable⟩
      · rw [List.length_mergeSort]
        exact some'
      · rw [List.length_mergeSort]
        exact few
      · exact ((List.mergeSort_perm roster byId).map SourceDefinition.sourceId).nodup_iff.mpr
          distinct

end Rotations

/-! ### What the tables and the clients keep -/

def WasBarrier (options : SourceOptions) (tables : Tables) (inboxId : Nat) : Prop :=
  ∃ row, tables.inbox.get? inboxId = some row ∧ row.sourceId = options.sourceId ∧
    (row.isBarrier = true ∨ row.finalizedAt.isSome = true)

/-- A rotation is named after a row that is there, and that it has closed. -/
structure Recorded (options : SourceOptions) (tables : Tables) : Prop where
  filed : Filed tables
  rotatable : Rotatable options tables
  poisons : ∀ record sequence, record ∈ tables.continuity →
    record.continuityReasonIdentity = .poison options.sourceStreamId sequence →
      tables.HasRow options.sourceId options.sourceStreamId sequence
  mappings : ∀ record inboxId, record ∈ tables.continuity →
    record.continuityReasonIdentity = .mappingInbox options.sourceStreamId inboxId →
      ∃ row, tables.inbox.get? inboxId = some row ∧ row.finalizedAt.isSome = true

structure Client.Informed (options : SourceOptions) (tables : Tables) (client : Client) : Prop where
  source : client.lease.sourceId = options.sourceId
  handling : ∀ sequence, client.handling = .rotating sequence →
    tables.HasRow options.sourceId options.sourceStreamId sequence
  finalizing : ∀ inboxId, client.finalizing = .rotating inboxId → WasBarrier options tables inboxId

/-- A call of a client rotates its own source only, and for a row that is there. -/
def Allowed (options : SourceOptions) (tables : Tables) (call : Call) : Prop :=
  ∀ reasonCode affected identity replacement,
    call = .rotateStream reasonCode affected identity replacement →
      affected = [options.sourceId] ∧ replacement = none ∧
        (∀ sequence, identity = .poison options.sourceStreamId sequence →
          tables.HasRow options.sourceId options.sourceStreamId sequence) ∧
          ∀ inboxId, identity = .mappingInbox options.sourceStreamId inboxId →
            WasBarrier options tables inboxId

section Tables

variable {before after : Tables} {readings : Readings} {call : Call}

theorem WasBarrier.change {inboxId : Nat} (was : WasBarrier options before inboxId)
    (filed : Filed before)
    (change : Change environment before readings call after) :
    WasBarrier options after inboxId := by
  obtain ⟨row, known, source, kind⟩ := was
  obtain ⟨next, isNext, place⟩ := (change.keepsRows filed).forward inboxId row known
  refine ⟨next, isNext, place.source.trans source, ?_⟩
  rcases kind with barrier | isOver
  · rcases change.barrier filed known barrier with same | ⟨_, closed, isClosed, isOver⟩
    · rw [Option.some.inj (isNext.symm.trans same)]
      exact Or.inl barrier
    · rw [Option.some.inj (isNext.symm.trans isClosed)]
      exact Or.inr isOver
  · obtain ⟨closed, isClosed, stillOver⟩ := change.finalized filed known isOver
    rw [Option.some.inj (isNext.symm.trans isClosed)]
    exact Or.inr stillOver

variable {client : Client}

theorem Client.Informed.change (informed : client.Informed options before) (filed : Filed before)
    (change : Change environment before readings call after) :
    client.Informed options after := by
  constructor
  · exact informed.source
  · intro sequence next
    exact (change.keepsRows filed).hasRow (informed.handling sequence next)
  · intro inboxId next
    exact (informed.finalizing inboxId next).change filed change

theorem Recorded.change (recorded : Recorded options before)
    (change : Change environment before readings call after)
    (allowed : Allowed options before call) : Recorded options after := by
  have rows := change.keepsRows recorded.filed
  have keeps : ∀ reasonCode affected identity roster,
      call ≠ .rotateStream reasonCode affected identity (some roster) := by
    intro reasonCode affected identity roster isCall
    have none := (allowed _ _ _ _ isCall).2.1
    cases none
  constructor
  · exact recorded.filed.change change
  · exact recorded.rotatable.change change keeps
  · intro record sequence member named
    apply rows.hasRow
    rcases change.rotation with
      same | ⟨_, _, identity, _, _, _, _, added, isCall, rotates, isAfter⟩
    · rw [same] at member
      exact recorded.poisons record sequence member named
    · rw [isAfter] at member
      rcases List.mem_append.mp member with old | isNew
      · exact recorded.poisons record sequence old named
      · rw [List.mem_singleton.mp isNew, rotates.records] at named
        exact (allowed _ _ _ _ isCall).2.2.1 sequence named
  · intro record inboxId member named
    have stays {row : InboxRow} (known : before.inbox.get? inboxId = some row)
        (isOver : row.finalizedAt.isSome = true) := change.finalized recorded.filed known isOver
    rcases change.rotation with
      same | ⟨_, affected, identity, _, _, _, _, added, isCall, rotates, isAfter⟩
    · rw [same] at member
      obtain ⟨row, known, isOver⟩ := recorded.mappings record inboxId member named
      exact stays known isOver
    · have memberBefore := member
      rw [isAfter] at memberBefore
      rcases List.mem_append.mp memberBefore with old | isNew
      · obtain ⟨row, known, isOver⟩ := recorded.mappings record inboxId old named
        exact stays known isOver
      · rw [List.mem_singleton.mp isNew, rotates.records] at named
        obtain ⟨isAffected, isNone, _, barriers⟩ := allowed _ _ _ _ isCall
        obtain ⟨row, known, source, kind⟩ := barriers inboxId named
        rcases kind with barrier | isOver
        · rcases change.barrier recorded.filed known barrier with same | ⟨_, closed⟩
          · rw [isAfter] at same
            rw [isAffected, isNone] at rotates
            have noBarrier := noBarrier_of_rotated rotates.named same source
            rw [barrier] at noBarrier
            cases noBarrier
          · exact closed
        · exact stays known isOver

theorem continuity_of_pending (recorded : Recorded options before)
    (change : Change environment before readings call after)
    (allowed : Allowed options before call) (pending : Pending options after) :
    after.continuity = before.continuity := by
  rcases change.rotation with
    same | ⟨_, affected, _, _, _, _, _, _, isCall, rotates, isAfter⟩
  · exact same
  · exfalso
    obtain ⟨isAffected, isNone, _⟩ := allowed _ _ _ _ isCall
    rw [isNone] at rotates
    obtain ⟨state, known, active, _⟩ := rotates.active recorded.rotatable
    obtain ⟨other, isOther, status⟩ := pending
    rw [isAfter, known] at isOther
    rw [← Option.some.inj isOther, active] at status
    cases status

theorem Owes.change (owes : Owes options before client) (filed : Filed before)
    (change : Change environment before readings call after)
    (same : after.continuity = before.continuity) : Owes options after client := by
  have still {identity : ContinuityReason} (unused : Unused before identity) :
      Unused after identity := by
    unfold Unused
    rw [same]
    exact unused
  cases owes with
  | handling next unused => exact .handling next (still unused)
  | reading next unused => exact .reading next (still unused)
  | finalizing next unused => exact .finalizing next (still unused)
  | barrier next known source stream isBarrier =>
    rcases change.barrier filed known isBarrier with there | ⟨⟨record, added, _⟩, _⟩
    · exact .barrier next there source stream isBarrier
    · rw [added] at same
      simp at same

end Tables

/-! ### What an event does -/

/-- An event that makes no rotation keeps the rotations a client has before it, and where it makes
the source pending, it puts one there. -/
structure Progress (environment : Environment) (options : SourceOptions) (tables : Tables)
    (client : Client) (done : Tables × Client) : Prop where
  change : done.1 = tables ∨
    ∃ call readings, Change environment tables readings call done.1 ∧ Allowed options tables call
  informed : done.2.Informed options done.1
  keeps : Pending options done.1 → Owes options tables client → Owes options done.1 done.2
  begins : Pending options done.1 → ¬Pending options tables → Owes options done.1 done.2

section Events

variable {tables tables' : Tables} {client client' : Client} {readings : Readings} {call : Call}

theorem allowed_of_other
    (other : ∀ reasonCode affected identity replacement,
      call ≠ .rotateStream reasonCode affected identity replacement) :
    Allowed options tables call := by
  intro reasonCode affected identity replacement isCall
  exact (other _ _ _ _ isCall).elim

theorem Progress.quiet (informed : client.Informed options tables)
    (lease : client'.lease = client.lease)
    (handling : ∀ sequence, client'.handling = .rotating sequence →
      client.handling = .rotating sequence)
    (finalizing : ∀ inboxId, client'.finalizing = .rotating inboxId →
      client.finalizing = .rotating inboxId)
    (owes : Owes options tables client → Owes options tables client') :
    Progress environment options tables client (tables, client') where
  change := Or.inl rfl
  informed :=
    { source := by rw [lease, informed.source]
      handling := fun sequence next => informed.handling sequence (handling sequence next)
      finalizing := fun inboxId next => informed.finalizing inboxId (finalizing inboxId next) }
  keeps := fun _ before => owes before
  begins := fun pending notPending => absurd pending notPending

theorem Progress.called (recorded : Recorded options tables)
    (change : Change environment tables readings call tables')
    (other : ∀ reasonCode affected identity replacement,
      call ≠ .rotateStream reasonCode affected identity replacement)
    (known : client'.Informed options tables')
    (owes : Owes options tables' client → Owes options tables' client')
    (begins : Pending options tables' → ¬Pending options tables → Owes options tables' client') :
    Progress environment options tables client (tables', client') where
  change := Or.inr ⟨call, readings, change, allowed_of_other other⟩
  informed := known
  keeps := fun pending before =>
    owes (before.change recorded.filed change
      (continuity_of_pending recorded change (allowed_of_other other) pending))
  begins := begins

theorem Progress.rotated {identity : ContinuityReason} (recorded : Recorded options tables)
    (informed : client'.Informed options tables) (allowed : Allowed options tables
      (.rotateStream reasonCode [options.sourceId] identity none))
    (fresh : tables.generations.get? readings.newStreamId = none)
    (unusedOr : Unused tables identity ∨
      (Owes options tables client → Owes options tables client')) :
    Progress environment options tables client
      (((rotateSource options readings reasonCode identity).commit tables).2, client') := by
  have change : Change environment tables readings
      (.rotateStream reasonCode [options.sourceId] identity none)
        ((rotateSource options readings reasonCode identity).commit tables).2 :=
    commit_keeps (.idle _) fun _ _ committed => rotateStream_change committed
  have notPending (unused : Unused tables identity) :
      ¬Pending options ((rotateSource options readings reasonCode identity).commit tables).2 := by
    obtain ⟨_, _, _, _, rotates, committed⟩ :=
      rotateSource_eq_ok reasonCode recorded.rotatable unused fresh
    rw [commit_of_ok committed]
    obtain ⟨state, known, active, _⟩ := rotates.active recorded.rotatable
    rintro ⟨other, isOther, status⟩
    rw [known] at isOther
    rw [← Option.some.inj isOther, active] at status
    cases status
  constructor
  · exact Or.inr ⟨_, _, change, allowed⟩
  · exact informed.change recorded.filed change
  · intro pending before
    rcases unusedOr with unused | owes
    · exact absurd pending (notPending unused)
    · exact (owes before).change recorded.filed change
        (continuity_of_pending recorded change allowed pending)
  · intro pending wasNot
    by_cases unused : Unused tables identity
    · exact absurd pending (notPending unused)
    · exfalso
      apply wasNot
      rw [rotateSource_again unused] at pending
      exact pending

theorem Owes.of_handling (owes : Owes options tables client)
    (notHere : ∀ sequence, client.handling = .rotating sequence →
      ¬Unused tables (.poison options.sourceStreamId sequence))
    (lease : client'.lease = client.lease)
    (reading : ∀ reason, client.reading = .rotating reason → client'.reading = .rotating reason)
    (finalizing : client'.finalizing = client.finalizing) : Owes options tables client' := by
  cases owes with
  | handling next unused => exact absurd unused (notHere _ next)
  | reading next unused =>
    rw [← lease] at unused
    exact .reading (reading _ next) unused
  | finalizing next unused => exact .finalizing (finalizing.trans next) unused
  | barrier next known source stream isBarrier =>
    exact .barrier (finalizing.trans next) known source stream isBarrier

theorem Owes.of_finalizing (owes : Owes options tables client)
    (notHere : ∀ inboxId, client.finalizing = .rotating inboxId →
      ¬Unused tables (.mappingInbox options.sourceStreamId inboxId))
    (notReading : client.finalizing ≠ .readingBarrier) (lease : client'.lease = client.lease)
    (reading : client'.reading = client.reading)
    (handling : client'.handling = client.handling) : Owes options tables client' := by
  cases owes with
  | handling next unused => exact .handling (handling.trans next) unused
  | reading next unused =>
    rw [← lease] at unused
    exact .reading (reading.trans next) unused
  | finalizing next unused => exact absurd unused (notHere _ next)
  | barrier next known source stream isBarrier => exact absurd next notReading

theorem Owes.of_reading (owes : Owes options tables client)
    (notHere : ∀ reason, client.reading = .rotating reason →
      ¬Unused tables
        (.cursor options.sourceStreamId reason client.lease.lastPersistedSourceSequence))
    (handling : client'.handling = client.handling)
    (finalizing : client'.finalizing = client.finalizing) : Owes options tables client' := by
  cases owes with
  | handling next unused => exact .handling (handling.trans next) unused
  | reading next unused => exact absurd unused (notHere _ next)
  | finalizing next unused => exact .finalizing (finalizing.trans next) unused
  | barrier next known source stream isBarrier =>
    exact .barrier (finalizing.trans next) known source stream isBarrier

theorem thrown_reading {reason : String} (next : client.reading = .rotating reason) :
    client.thrown.reading = .rotating reason := by
  unfold thrown
  dsimp only
  rw [if_neg]
  · exact next
  · rw [next]
    exact nofun

theorem handle_rotating (environment : Environment) (recorded : Recorded options tables)
    (informed : client.Informed options tables)
    (fresh : tables.generations.get? readings.newStreamId = none) {sequence : Nat}
    (handling : client.handling = .rotating sequence) :
    Progress environment options tables client
      (client.handle environment options readings tables) := by
  have allowed : Allowed options tables (.rotateStream "SOURCE_POISON_EVENT" [options.sourceId]
      (.poison options.sourceStreamId sequence) none) := by
    intro _ _ _ _ isCall
    cases isCall
    refine ⟨rfl, rfl, ?_, nofun⟩
    intro other same
    cases same
    exact informed.handling sequence handling
  have left {client' : Client} (notRotating : ∀ other, client'.handling ≠ .rotating other)
      (lease : client'.lease = client.lease)
      (reading : ∀ reason, client.reading = .rotating reason → client'.reading = .rotating reason)
      (finalizing : client'.finalizing = client.finalizing) :
      Progress environment options tables client
        (((rotateSource options readings "SOURCE_POISON_EVENT"
          (.poison options.sourceStreamId sequence)).commit tables).2, client') := by
    apply Progress.rotated recorded _ allowed fresh
    · by_cases unused : Unused tables (.poison options.sourceStreamId sequence)
      · exact Or.inl unused
      · right
        intro owes
        apply owes.of_handling _ lease reading finalizing
        intro other next
        rw [handling] at next
        cases next
        exact unused
    · constructor
      · rw [lease, informed.source]
      · intro other next
        exact absurd next (notRotating other)
      · intro inboxId next
        exact informed.finalizing inboxId (finalizing.symm.trans next)
  unfold handle
  rw [handling]
  dsimp only
  cases ((rotateSource options readings "SOURCE_POISON_EVENT"
      (.poison options.sourceStreamId sequence)).commit tables).1 with
  | ok record => exact left nofun rfl (fun _ next => next) rfl
  | error failure => exact left nofun rfl (fun _ next => thrown_reading next) rfl

theorem Intake.hasRow {fact : SourceFact} {hash reason : String} (recorded : Recorded options tables)
    (source : client.lease.sourceId = options.sourceId)
    (intake : Intake environment tables readings client.lease fact (.rejected hash reason) tables') :
    tables'.HasRow options.sourceId options.sourceStreamId fact.sourceSequence ∧
      Unused tables (.poison options.sourceStreamId fact.sourceSequence) := by
  obtain ⟨state, isState, stream, _⟩ := recorded.rotatable.source
  cases intake with
  | @took other _ rejected occurredAt hash _ mappingDeadline known takes hashes validated answered =>
    have same : other = state := by
      rw [source] at known
      exact Option.some.inj (known.symm.trans isState)
    have atStream : client.lease.sourceStreamId = options.sourceStreamId := by
      rw [takes.stream_eq, same, stream]
    constructor
    · refine ⟨tables.nextInboxId, _, get?_set_self _ _ _, source, atStream, rfl⟩
    · intro record member named
      obtain ⟨inboxId, row, isRow, rowSource, rowStream, rowSequence⟩ :=
        recorded.poisons record fact.sourceSequence member named
      exact takes.unlike isRow (rowSource.trans source.symm) (rowStream.trans atStream.symm)
        rowSequence

theorem Intake.pending {fact : SourceFact} {answer : IntakeResult}
    (source : client.lease.sourceId = options.sourceId)
    (intake : Intake environment tables readings client.lease fact answer tables')
    (pending : Pending options tables') (wasNot : ¬Pending options tables) :
    ∃ hash reason, answer = .rejected hash reason := by
  obtain ⟨next, isNext, status⟩ := pending
  cases intake with
  | duplicate hash => exact absurd ⟨next, isNext, status⟩ wasNot
  | refused failure known leases =>
    unfold withSource at isNext
    dsimp only at isNext
    rw [source, get?_set_self] at isNext
    rw [← Option.some.inj isNext] at status
    cases status
  | @took state _ rejected _ hash _ mappingDeadline known takes hashes validated answered =>
    unfold withSource at isNext
    dsimp only at isNext
    rw [source, get?_set_self] at isNext
    rw [← Option.some.inj isNext] at status
    rw [source] at known
    unfold SourceState.afterFact at status
    split at status
    · unfold SourceState.advanced at status
      dsimp only at status
      split at status
      · rename_i lost
        obtain ⟨reason, isAnswer⟩ := answered lost.1
        exact ⟨hash, reason, isAnswer⟩
      · split at status <;> cases status
    · exact absurd ⟨state, known, status⟩ wasNot

theorem handle_ingesting (environment : Environment) (recorded : Recorded options tables)
    (informed : client.Informed options tables) {fact : SourceFact}
    (handling : client.handling = .ingesting fact) :
    Progress environment options tables client
      (client.handle environment options readings tables) := by
  have notHere : ∀ (after : Tables) sequence, client.handling = .rotating sequence →
      ¬Unused after (.poison options.sourceStreamId sequence) := by
    intro after sequence next
    rw [handling] at next
    cases next
  unfold handle
  rw [handling]
  dsimp only
  cases ran : intakeSourceFact environment readings client.lease fact options.mappingDeadlineMs
      tables with
  | error failure =>
    rw [commit_of_error ran]
    exact .quiet informed rfl nofun (fun _ next => next)
      fun owes => owes.of_handling (notHere tables) rfl (fun _ next => thrown_reading next) rfl
  | ok result =>
    obtain ⟨answer, tables'⟩ := result
    have intake := intakeSourceFact_eq_ok ran
    have change := intake.change options.mappingDeadlineMs
    have still := informed.change recorded.filed change
    rw [commit_of_ok ran]
    have going {client' : Client} (notRejected : ∀ hash reason, answer ≠ .rejected hash reason)
        (notRotating : ∀ other, client'.handling ≠ .rotating other)
        (lease : client'.lease = client.lease)
        (reading : ∀ reason, client.reading = .rotating reason →
          client'.reading = .rotating reason)
        (finalizing : client'.finalizing = client.finalizing) :
        Progress environment options tables client (tables', client') := by
      apply Progress.called recorded change nofun
      · constructor
        · rw [lease, informed.source]
        · intro sequence next
          exact absurd next (notRotating sequence)
        · intro inboxId next
          exact still.finalizing inboxId (finalizing.symm.trans next)
      · exact fun owes => owes.of_handling (notHere tables') lease reading finalizing
      · intro pending wasNot
        obtain ⟨hash, reason, isAnswer⟩ := intake.pending informed.source pending wasNot
        exact absurd isAnswer (notRejected hash reason)
    cases answer with
    | duplicate hash => exact going nofun nofun rfl (fun _ next => next) rfl
    | received hash => exact going nofun nofun rfl (fun _ next => next) rfl
    | refused failure => exact going nofun nofun rfl (fun _ next => thrown_reading next) rfl
    | rejected hash reason =>
      obtain ⟨hasRow, unused⟩ := intake.hasRow recorded informed.source
      apply Progress.called recorded change nofun
      · constructor
        · exact informed.source
        · intro sequence next
          cases next
          exact hasRow
        · exact still.finalizing
      · exact fun owes => owes.of_handling (notHere tables') rfl (fun _ next => next) rfl
      · intro pending wasNot
        apply Owes.handling rfl
        unfold Unused
        rw [continuity_of_pending recorded change (allowed_of_other nofun) pending]
        exact unused

theorem recover_progress (environment : Environment) (recorded : Recorded options tables)
    (informed : client.Informed options tables)
    (fresh : tables.generations.get? readings.newStreamId = none) :
    Progress environment options tables client (client.recover options readings tables) := by
  have isFinished : ({ client with reading := .finished } : Client).Informed options tables :=
    { source := informed.source
      handling := informed.handling
      finalizing := informed.finalizing }
  unfold recover
  cases reading : client.reading with
  | consuming => exact .quiet informed rfl (fun _ next => next) (fun _ next => next) id
  | finished => exact .quiet informed rfl (fun _ next => next) (fun _ next => next) id
  | rotating reason =>
    have allowed : Allowed options tables (.rotateStream reason [options.sourceId]
        (.cursor options.sourceStreamId reason client.lease.lastPersistedSourceSequence)
        none) := by
      intro _ _ _ _ isCall
      cases isCall
      exact ⟨rfl, rfl, nofun, nofun⟩
    apply Progress.rotated recorded isFinished allowed fresh
    by_cases unused : Unused tables
        (.cursor options.sourceStreamId reason client.lease.lastPersistedSourceSequence)
    · exact Or.inl unused
    · right
      intro owes
      refine owes.of_reading ?_ rfl rfl
      intro other next
      rw [reading] at next
      cases next
      exact unused
  | leaving =>
    have notHere : ∀ (after : Tables) reason, client.reading = .rotating reason →
        ¬Unused after
          (.cursor options.sourceStreamId reason client.lease.lastPersistedSourceSequence) := by
      intro after reason next
      rw [reading] at next
      cases next
    cases ran : markSourceUnavailable client.lease tables with
    | error failure =>
      dsimp only
      rw [commit_of_error ran]
      exact .quiet informed rfl (fun _ next => next) (fun _ next => next)
        fun owes => owes.of_reading (notHere tables) rfl rfl
    | ok result =>
      obtain ⟨answer, tables'⟩ := result
      have change : Change environment tables readings
        (.markSourceUnavailable client.lease) tables' := markSourceUnavailable_change ran
      dsimp only
      rw [commit_of_ok ran]
      apply Progress.called recorded change nofun (isFinished.change recorded.filed change)
      · exact fun owes => owes.of_reading (notHere tables') rfl rfl
      · rintro ⟨next, isNext, status⟩ wasNot
        exfalso
        cases change with
        | idle => exact wasNot ⟨next, isNext, status⟩
        | @updated _ _ state _ known updates =>
          cases updates with
          | unavailable leased =>
            unfold withSource at isNext
            dsimp only at isNext
            rw [informed.source, get?_set_self] at isNext
            rw [← Option.some.inj isNext] at status
            cases status

theorem finalize_called (recorded : Recorded options tables)
    (informed : client.Informed options tables) {next : Finalizing}
    (change : Change environment tables readings call tables')
    (other : ∀ reasonCode affected identity replacement,
      call ≠ .rotateStream reasonCode affected identity replacement)
    (notRotating : ∀ inboxId, client.finalizing ≠ .rotating inboxId)
    (notReading : client.finalizing ≠ .readingBarrier) (isNext : ∀ inboxId, next ≠ .rotating inboxId)
    (begins : Pending options tables' → ¬Pending options tables →
      Owes options tables' { client with finalizing := next }) :
    Progress environment options tables client (tables', { client with finalizing := next }) := by
  have still := informed.change recorded.filed change
  apply Progress.called recorded change other
  · constructor
    · exact informed.source
    · exact still.handling
    · intro inboxId isRotating
      exact absurd isRotating (isNext inboxId)
  · intro owes
    refine owes.of_finalizing ?_ notReading rfl rfl rfl
    intro inboxId isRotating
    exact absurd isRotating (notRotating inboxId)
  · exact begins

theorem finalize_preparing (environment : Environment) (recorded : Recorded options tables)
    (informed : client.Informed options tables) {left : Nat}
    (finalizing : client.finalizing = .preparing left) :
    Progress environment options tables client
      (client.finalize environment options readings tables) := by
  have notRotating : ∀ inboxId, client.finalizing ≠ .rotating inboxId := by
    rw [finalizing]
    exact nofun
  have notReading : client.finalizing ≠ .readingBarrier := by
    rw [finalizing]
    exact nofun
  unfold finalize
  rw [finalizing]
  dsimp only
  cases ran : prepareNextSourceEvent readings options.sourceId tables with
  | error failure =>
    rw [commit_of_error ran]
    exact .quiet informed rfl (fun _ next => next) nofun fun owes =>
      owes.of_finalizing (fun inboxId next => absurd next (notRotating inboxId)) notReading
        rfl rfl rfl
  | ok result =>
    obtain ⟨answer, tables'⟩ := result
    have preparation := prepareNextSourceEvent_eq_ok ran
    have change : Change environment tables readings
      (.prepareNextSourceEvent options.sourceId) tables' := preparation.change
    rw [commit_of_ok ran]
    apply finalize_called recorded informed change nofun notRotating notReading
    · intro inboxId
      cases answer <;> exact nofun
    · rintro ⟨next, isNext, status⟩ wasNot
      cases preparation with
      | same barrier => exact absurd ⟨next, isNext, status⟩ wasNot
      | prepared going unprepared prepares => exact absurd ⟨next, isNext, status⟩ wasNot
      | @failed state inboxId row unprepared =>
        obtain ⟨known, stream, durable⟩ := recorded.rotatable.source
        have same : state = known := Option.some.inj (unprepared.known.symm.trans stream)
        obtain ⟨_, source, rowStream, isOpen, _⟩ := firstRow_eq_some unprepared.first
        have isRow : (tables.mappingFailed options.sourceId state inboxId row).inbox.get?
            inboxId = some { row with status := .continuityLossPending } := by
          unfold mappingFailed withRow withSource
          dsimp only
          rw [get?_set_self, same, durable.2]
          rfl
        apply Owes.barrier rfl isRow source
        · rw [same] at rowStream
          exact rowStream.trans durable.1
        · unfold InboxRow.isOpen at isOpen
          rw [Bool.and_eq_true] at isOpen
          simp [InboxRow.isBarrier, isOpen.1]

theorem pending_of_published {sourceId : String} {eventRetentionMs : Nat}
    (change : Change environment tables readings
      (.finalizeNextSourceEvent sourceId eventRetentionMs) tables')
    (pending : Pending options tables') : Pending options tables := by
  obtain ⟨next, isNext, status⟩ := pending
  cases change with
  | idle => exact ⟨next, isNext, status⟩
  | updated known updates => cases updates
  | @published _ _ _ _ state _ _ event publishes =>
    unfold published at isNext
    dsimp only at isNext
    rw [get?_set] at isNext
    split at isNext
    · rename_i same
      rw [← Option.some.inj isNext] at status
      refine ⟨state, ?_, status⟩
      rw [same, publishes.source]
      exact publishes.known
    · exact ⟨next, isNext, status⟩

theorem finalize_finalizing (environment : Environment) (recorded : Recorded options tables)
    (informed : client.Informed options tables) {left : Nat}
    (finalizing : client.finalizing = .finalizing left) :
    Progress environment options tables client
      (client.finalize environment options readings tables) := by
  have notRotating : ∀ inboxId, client.finalizing ≠ .rotating inboxId := by
    rw [finalizing]
    exact nofun
  have notReading : client.finalizing ≠ .readingBarrier := by
    rw [finalizing]
    exact nofun
  unfold finalize
  rw [finalizing]
  dsimp only
  cases ran : finalizeNextSourceEvent environment readings options.sourceId
      options.eventRetentionMs tables with
  | error failure =>
    rw [commit_of_error ran]
    exact .quiet informed rfl (fun _ next => next) nofun fun owes =>
      owes.of_finalizing (fun inboxId next => absurd next (notRotating inboxId)) notReading
        rfl rfl rfl
  | ok result =>
    obtain ⟨answer, tables'⟩ := result
    have change := finalizeNextSourceEvent_change ran
    rw [commit_of_ok ran]
    apply finalize_called recorded informed change nofun notRotating notReading
    · intro inboxId
      cases answer with
      | none => exact nofun
      | some event =>
        unfold nextRound
        dsimp only
        split <;> exact nofun
    · intro pending wasNot
      exact absurd (pending_of_published change pending) wasNot

variable {inboxId : Nat} {row : InboxRow}

theorem unused_of_barrier (recorded : Recorded options tables)
    (known : tables.inbox.get? inboxId = some row) (barrier : row.isBarrier = true) :
    Unused tables (.mappingInbox options.sourceStreamId inboxId) := by
  intro record member named
  obtain ⟨other, isOther, isOver⟩ := recorded.mappings record inboxId member named
  rw [known] at isOther
  rw [← Option.some.inj isOther] at isOver
  unfold InboxRow.isBarrier at barrier
  rw [Bool.and_eq_true, Option.isNone_iff_eq_none] at barrier
  rw [barrier.1] at isOver
  cases isOver

theorem firstRow_isSome {sourceId sourceStreamId : String} {matching : InboxRow → Bool}
    (known : tables.inbox.get? inboxId = some row) (source : row.sourceId = sourceId)
    (stream : row.sourceStreamId = sourceStreamId) (matched : matching row = true) :
    ∃ first firstRow, tables.firstRow sourceId sourceStreamId matching = some (first, firstRow) := by
  cases first : tables.firstRow sourceId sourceStreamId matching with
  | some entry => exact ⟨entry.1, entry.2, rfl⟩
  | none =>
    exfalso
    have none := List.argmin_eq_none.mp first
    have member : (inboxId, row) ∈ tables.inbox.entries.filter fun entry =>
        entry.2.sourceId == sourceId && entry.2.sourceStreamId == sourceStreamId &&
          matching entry.2 := by
      rw [List.mem_filter]
      exact ⟨mem_entries.mpr known, by simp [source, stream, matched]⟩
    rw [none] at member
    cases member

theorem finalize_readingBarrier (environment : Environment) (recorded : Recorded options tables)
    (informed : client.Informed options tables)
    (finalizing : client.finalizing = .readingBarrier) :
    Progress environment options tables client
      (client.finalize environment options readings tables) := by
  unfold finalize
  rw [finalizing]
  dsimp only
  have read : (terminalSourceBarrierId options.sourceId options.sourceStreamId).commit tables =
      (.ok ((tables.firstRow options.sourceId options.sourceStreamId InboxRow.isBarrier).map
        Prod.fst), tables) := rfl
  rw [read]
  cases first : tables.firstRow options.sourceId options.sourceStreamId InboxRow.isBarrier with
  | none =>
    dsimp only [Option.map_none]
    refine Progress.quiet informed rfl (fun _ next => next) nofun ?_
    intro owes
    cases owes with
    | handling next unused => exact .handling next unused
    | reading next unused => exact .reading next unused
    | finalizing next unused =>
      rw [finalizing] at next
      cases next
    | barrier next known source stream isBarrier =>
      obtain ⟨_, _, found⟩ := firstRow_isSome known source stream isBarrier
      rw [first] at found
      cases found
  | some entry =>
    obtain ⟨inboxId, row⟩ := entry
    obtain ⟨known, source, _, barrier, _⟩ := firstRow_eq_some first
    have owed : Owes options tables { client with finalizing := .rotating inboxId } :=
      .finalizing rfl (unused_of_barrier recorded known barrier)
    constructor
    · exact Or.inl rfl
    · constructor
      · exact informed.source
      · exact informed.handling
      · intro other next
        cases next
        exact ⟨row, known, source, Or.inl barrier⟩
    · exact fun _ _ => owed
    · exact fun _ _ => owed

theorem finalize_rotating (environment : Environment) (recorded : Recorded options tables)
    (informed : client.Informed options tables)
    (fresh : tables.generations.get? readings.newStreamId = none)
    (finalizing : client.finalizing = .rotating inboxId) :
    Progress environment options tables client
      (client.finalize environment options readings tables) := by
  have allowed : Allowed options tables (.rotateStream "SOURCE_MAPPING_FAILED" [options.sourceId]
      (.mappingInbox options.sourceStreamId inboxId) none) := by
    intro _ _ _ _ isCall
    cases isCall
    refine ⟨rfl, rfl, nofun, ?_⟩
    intro other same
    cases same
    exact informed.finalizing inboxId finalizing
  have left {client' : Client} (isIdle : client'.finalizing = .idle)
      (lease : client'.lease = client.lease) (reading : client'.reading = client.reading)
      (handling : client'.handling = client.handling) :
      Progress environment options tables client
        (((rotateSource options readings "SOURCE_MAPPING_FAILED"
          (.mappingInbox options.sourceStreamId inboxId)).commit tables).2, client') := by
    apply Progress.rotated recorded _ allowed fresh
    · by_cases unused : Unused tables (.mappingInbox options.sourceStreamId inboxId)
      · exact Or.inl unused
      · right
        intro owes
        refine owes.of_finalizing ?_ ?_ lease reading handling
        · intro other next
          rw [finalizing] at next
          cases next
          exact unused
        · rw [finalizing]
          exact nofun
    · constructor
      · rw [lease, informed.source]
      · intro sequence next
        exact informed.handling sequence (handling.symm.trans next)
      · intro other next
        rw [isIdle] at next
        cases next
  unfold finalize
  rw [finalizing]
  dsimp only
  cases ((rotateSource options readings "SOURCE_MAPPING_FAILED"
      (.mappingInbox options.sourceStreamId inboxId)).commit tables).1 with
  | ok record => exact left rfl rfl rfl rfl
  | error failure => exact left rfl rfl rfl rfl

end Events

/-! ### Systems -/

def ClientEvent.readings : ClientEvent → Option Readings
  | .handle readings => some readings
  | .recover readings => some readings
  | .finalize readings => some readings
  | _ => none

/-- The ids of new streams are new, and no process is gone while the source has lost its
continuity and the rotation is only before its own client. -/
def Spares (options : SourceOptions) (system : SourceSystem) : SourceAction → Prop
  | .runOnce _ _ => True
  | .on _ event => ∀ readings, event.readings = some readings →
      system.tables.generations.get? readings.newStreamId = none
  | .crash index => ∀ client, system.clients[index]? = some client →
      Pending options system.tables → Owes options system.tables client →
        ∃ (other : Nat) (rescuer : Client), other ≠ index ∧
          system.clients[other]? = some rescuer ∧ Owes options system.tables rescuer

/-- While the source is pending, some client has the rotation before it. -/
structure SourceSystem.Sound (options : SourceOptions) (system : SourceSystem) : Prop where
  recorded : Recorded options system.tables
  informed : ∀ client, client ∈ system.clients → client.Informed options system.tables
  owed : Pending options system.tables →
    ∃ client, client ∈ system.clients ∧ Owes options system.tables client

variable {client : Client}

theorem on_progress (environment : Environment) {event : ClientEvent}
    (recorded : Recorded options tables) (informed : client.Informed options tables)
    (fresh : ∀ readings, event.readings = some readings →
      tables.generations.get? readings.newStreamId = none) :
    Progress environment options tables client (client.on environment options tables event) := by
  have same : Progress environment options tables client (tables, client) :=
    .quiet informed rfl (fun _ next => next) (fun _ next => next) id
  cases event with
  | deliver fact =>
    unfold on
    dsimp only
    split
    · rename_i isIdle
      split
      · exact same
      · refine .quiet informed rfl nofun (fun _ next => next) ?_
        intro owes
        refine owes.of_handling ?_ rfl (fun _ next => next) rfl
        intro sequence next
        rw [isIdle] at next
        cases next
    · exact same
  | endStream =>
    unfold on
    dsimp only
    split
    · rename_i consuming _
      refine .quiet informed rfl (fun _ next => next) (fun _ next => next) ?_
      intro owes
      refine owes.of_reading ?_ rfl rfl
      intro reason next
      rw [consuming] at next
      cases next
    · exact same
  | serviceError reason =>
    unfold on
    dsimp only
    split
    · rename_i consuming
      refine .quiet informed rfl (fun _ next => next) (fun _ next => next) ?_
      intro owes
      refine owes.of_reading ?_ rfl rfl
      intro other next
      rw [consuming] at next
      cases next
    · exact same
  | beginFinalization =>
    unfold on
    dsimp only
    split
    · rename_i begins
      refine .quiet informed rfl (fun _ next => next) nofun ?_
      intro owes
      refine owes.of_finalizing ?_ ?_ rfl rfl rfl
      · intro inboxId next
        rw [begins.1] at next
        cases next
      · rw [begins.1]
        exact nofun
    · exact same
  | finalized =>
    unfold on
    dsimp only
    split
    · rename_i finalizing
      refine .quiet informed rfl nofun (fun _ next => next) ?_
      intro owes
      refine owes.of_handling ?_ rfl (fun _ next => next) rfl
      intro sequence next
      rw [finalizing] at next
      cases next
    · exact same
  | handle readings =>
    change Progress environment options tables client
      (client.handle environment options readings tables)
    have isFresh := fresh readings rfl
    cases handling : client.handling with
    | idle =>
      unfold handle
      rw [handling]
      exact same
    | finalizing =>
      unfold handle
      rw [handling]
      exact same
    | rotating sequence => exact handle_rotating environment recorded informed isFresh handling
    | ingesting fact => exact handle_ingesting environment recorded informed handling
  | recover readings =>
    exact recover_progress environment recorded informed (fresh readings rfl)
  | finalize readings =>
    change Progress environment options tables client
      (client.finalize environment options readings tables)
    have isFresh := fresh readings rfl
    cases finalizing : client.finalizing with
    | idle =>
      unfold finalize
      rw [finalizing]
      exact same
    | preparing left => exact finalize_preparing environment recorded informed finalizing
    | finalizing left => exact finalize_finalizing environment recorded informed finalizing
    | readingBarrier => exact finalize_readingBarrier environment recorded informed finalizing
    | rotating inboxId =>
      exact finalize_rotating environment recorded informed isFresh finalizing

variable {tables tables' : Tables} {sourceId sourceStreamId owner : String} {leaseMs : Nat}

theorem pending_of_acquired {readings : Readings} (change : Change environment tables readings
      (.acquireSourceLease sourceId sourceStreamId owner leaseMs) tables')
    (pending : Pending options tables') : Pending options tables := by
  obtain ⟨next, isNext, status⟩ := pending
  cases change with
  | idle => exact ⟨next, isNext, status⟩
  | @updated _ _ state _ known updates =>
    cases updates with
    | acquired notBlocked notPending free =>
      unfold withSource at isNext
      dsimp only at isNext
      rw [get?_set] at isNext
      split at isNext
      · rename_i same
        rw [← Option.some.inj isNext] at status
        exact absurd status notPending
      · exact ⟨next, isNext, status⟩

theorem lease_sourceId {readings : Readings} {lease : Lease}
    (acquired : acquireSourceLease readings sourceId sourceStreamId owner leaseMs tables =
      .ok (some lease, tables')) : lease.sourceId = sourceId := by
  unfold acquireSourceLease at acquired
  rw [read_bind] at acquired
  cases known : tables.sources.get? sourceId with
  | none =>
    rw [known] at acquired
    cases acquired
  | some state =>
    rw [known] at acquired
    dsimp only at acquired
    split at acquired
    · cases acquired
    · obtain ⟨_, middle, _, answered⟩ := bind_eq_ok.mp acquired
      rw [← Option.some.inj (pure_eq_ok.mp answered).1]
      rfl

variable {system : SourceSystem}

theorem perform_on {index : Nat} (found : system.clients[index]? = some client)
    (event : ClientEvent) :
    system.perform environment options (.on index event) =
      { tables := (client.on environment options system.tables event).1
        clients :=
          system.clients.set index (client.on environment options system.tables event).2 } := by
  unfold SourceSystem.perform
  dsimp only
  rw [found]

theorem SourceSystem.Sound.perform (sound : system.Sound options) {action : SourceAction}
    (spares : Spares options system action) :
    (system.perform environment options action).Sound options := by
  cases action with
  | runOnce replicaId readings =>
    unfold SourceSystem.perform
    dsimp only
    cases ran : acquireSourceLease readings options.sourceId options.sourceStreamId replicaId
        options.leaseMs system.tables with
    | error failure =>
      rw [commit_of_error ran]
      exact sound
    | ok result =>
      obtain ⟨answer, tables'⟩ := result
      have change : Change environment system.tables readings (.acquireSourceLease
          options.sourceId options.sourceStreamId replicaId options.leaseMs) tables' :=
        acquireSourceLease_change ran
      have still : ∀ client, client ∈ system.clients → client.Informed options tables' :=
        fun client member => (sound.informed client member).change sound.recorded.filed change
      have owed (pending : Pending options tables') :
          ∃ client, client ∈ system.clients ∧ Owes options tables' client := by
        obtain ⟨client, member, owes⟩ := sound.owed (pending_of_acquired change pending)
        exact ⟨client, member, owes.change sound.recorded.filed change
          (continuity_of_pending sound.recorded change (allowed_of_other nofun) pending)⟩
      rw [commit_of_ok ran]
      have recorded := sound.recorded.change change (allowed_of_other nofun)
      cases answer with
      | none =>
        exact {
          recorded := recorded
          informed := still
          owed := owed }
      | some lease =>
        constructor
        · exact recorded
        · intro client member
          rcases List.mem_append.mp member with old | isNew
          · exact still client old
          · rw [List.mem_singleton.mp isNew]
            exact {
              source := lease_sourceId ran
              handling := nofun
              finalizing := nofun }
        · intro pending
          obtain ⟨client, member, owes⟩ := owed pending
          exact ⟨client, List.mem_append_left _ member, owes⟩
  | on index event =>
    cases found : system.clients[index]? with
    | none =>
      unfold SourceSystem.perform
      dsimp only
      rw [found]
      exact sound
    | some client =>
      rw [perform_on found]
      have progress := on_progress environment sound.recorded
        (sound.informed client (List.mem_of_getElem? found)) spares
      generalize client.on environment options system.tables event = done at progress
      have recorded : Recorded options done.1 := by
        rcases progress.change with same | ⟨call, readings, change, allowed⟩
        · rw [same]
          exact sound.recorded
        · exact sound.recorded.change change allowed
      have others : ∀ other, other ∈ system.clients → other.Informed options done.1 := by
        intro other member
        rcases progress.change with same | ⟨call, readings, change, allowed⟩
        · rw [same]
          exact sound.informed other member
        · exact (sound.informed other member).change sound.recorded.filed change
      have isDone : done.2 ∈ system.clients.set index done.2 := by
        rw [List.mem_iff_getElem?]
        refine ⟨index, ?_⟩
        rw [List.getElem?_set_self]
        exact (List.getElem?_eq_some_iff.mp found).1
      constructor
      · exact recorded
      · intro other member
        rcases List.mem_or_eq_of_mem_set member with old | isNew
        · exact others other old
        · rw [isNew]
          exact progress.informed
      · intro pending
        by_cases wasPending : Pending options system.tables
        · obtain ⟨other, member, owes⟩ := sound.owed wasPending
          obtain ⟨position, atPosition⟩ := List.mem_iff_getElem?.mp member
          by_cases same : position = index
          · rw [same, found] at atPosition
            rw [← Option.some.inj atPosition] at owes
            exact ⟨done.2, isDone, progress.keeps pending owes⟩
          · refine ⟨other, ?_, ?_⟩
            · rw [List.mem_iff_getElem?]
              exact ⟨position, by rw [List.getElem?_set_ne (Ne.symm same)]; exact atPosition⟩
            · rcases progress.change with unchanged | ⟨call, readings, change, allowed⟩
              · dsimp only
                rw [unchanged]
                exact owes
              · exact owes.change sound.recorded.filed change
                  (continuity_of_pending sound.recorded change allowed pending)
        · exact ⟨done.2, isDone, progress.begins pending wasPending⟩
  | crash index =>
    constructor
    · exact sound.recorded
    · intro client member
      exact sound.informed client (List.mem_of_mem_eraseIdx member)
    · intro pending
      obtain ⟨client, member, owes⟩ := sound.owed pending
      obtain ⟨position, atPosition⟩ := List.mem_iff_getElem?.mp member
      by_cases same : position = index
      · rw [same] at atPosition
        obtain ⟨other, rescuer, apart, isRescuer, owing⟩ :=
          spares client atPosition pending owes
        exact ⟨rescuer, List.mem_eraseIdx_iff_getElem?.mpr ⟨other, apart, isRescuer⟩, owing⟩
      · exact ⟨client, List.mem_eraseIdx_iff_getElem?.mpr ⟨position, same, atPosition⟩, owes⟩

/-! ### The rotation -/

/-- A rotation that names the source was added, and its barriers are closed. -/
def RotatedFrom (options : SourceOptions) (before after : Tables) : Prop :=
  ∃ record, after.continuity = before.continuity ++ [record] ∧
    options.sourceId ∈ record.affectedSourceIds ∧ ¬after.HasBarrier options.sourceId

theorem rotatedFrom {readings : Readings} {identity : ContinuityReason}
    (recorded : Recorded options tables) (unused : Unused tables identity)
    (fresh : tables.generations.get? readings.newStreamId = none) :
    RotatedFrom options tables
      ((rotateSource options readings reasonCode identity).commit tables).2 := by
  obtain ⟨_, _, _, record, rotates, committed⟩ :=
    rotateSource_eq_ok reasonCode recorded.rotatable unused fresh
  rw [commit_of_ok committed]
  refine ⟨record, rfl, rotates.named, ?_⟩
  rintro ⟨inboxId, row, known, source, barrier⟩
  rw [noBarrier_of_rotated rotates.named known source] at barrier
  cases barrier

theorem exists_fresh (tables : Tables) :
    ∃ streamId, tables.generations.get? streamId = none := by
  obtain ⟨streamId, absent⟩ :=
    Infinite.exists_notMem_finset tables.generations.keys.toFinset
  rw [List.mem_toFinset, mem_keys] at absent
  exact ⟨streamId, Option.not_isSome_iff_eq_none.mp absent⟩

theorem finalize_reads {readings : Readings} {inboxId : Nat} {row : InboxRow}
    (next : client.finalizing = .readingBarrier)
    (first : tables.firstRow options.sourceId options.sourceStreamId InboxRow.isBarrier =
      some (inboxId, row)) :
    client.on environment options tables (.finalize readings) =
      (tables, { client with finalizing := .rotating inboxId }) := by
  change client.finalize environment options readings tables = _
  have read : (terminalSourceBarrierId options.sourceId options.sourceStreamId).commit tables =
      (.ok ((tables.firstRow options.sourceId options.sourceStreamId InboxRow.isBarrier).map
        Prod.fst), tables) := rfl
  unfold finalize
  rw [next]
  dsimp only
  rw [read, first]
  rfl

theorem Owes.canRotate (recorded : Recorded options system.tables)
    (member : client ∈ system.clients) (owes : Owes options system.tables client) :
    system.CanRotate environment options := by
  obtain ⟨index, found⟩ := List.mem_iff_getElem?.mp member
  obtain ⟨newStreamId, fresh⟩ := exists_fresh system.tables
  have once (event : ClientEvent)
      (rotated : RotatedFrom options system.tables
        (client.on environment options system.tables event).1) :
      system.CanRotate environment options := by
    refine ⟨[.on index event], ?_⟩
    change RotatedFrom options system.tables
      (system.perform environment options (.on index event)).tables
    rw [perform_on found]
    exact rotated
  cases owes with
  | handling next unused =>
    apply once (.handle (Sample.readings newStreamId))
    change RotatedFrom options system.tables
      (client.handle environment options (Sample.readings newStreamId) system.tables).1
    unfold handle
    rw [next]
    exact rotatedFrom recorded unused fresh
  | reading next unused =>
    apply once (.recover (Sample.readings newStreamId))
    change RotatedFrom options system.tables
      (client.recover options (Sample.readings newStreamId) system.tables).1
    unfold recover
    rw [next]
    exact rotatedFrom recorded unused fresh
  | finalizing next unused =>
    apply once (.finalize (Sample.readings newStreamId))
    change RotatedFrom options system.tables
      (client.finalize environment options (Sample.readings newStreamId) system.tables).1
    unfold finalize
    rw [next]
    exact rotatedFrom recorded unused fresh
  | barrier next known source stream isBarrier =>
    obtain ⟨inboxId, row, first⟩ := firstRow_isSome known source stream isBarrier
    have isBarrierRow := firstRow_eq_some first
    have unused := unused_of_barrier recorded isBarrierRow.1 isBarrierRow.2.2.2.1
    -- The barrier is read first, and the rotation is the transaction after it.
    refine ⟨[.on index (.finalize (Sample.readings newStreamId)),
      .on index (.finalize (Sample.readings newStreamId))], ?_⟩
    have read : system.perform environment options
        (.on index (.finalize (Sample.readings newStreamId))) =
          { tables := system.tables
            clients := system.clients.set index
              { client with finalizing := .rotating inboxId } } := by
      rw [perform_on found, finalize_reads next first]
    have foundAgain : (system.clients.set index
        { client with finalizing := .rotating inboxId })[index]? =
          some { client with finalizing := .rotating inboxId } := by
      rw [List.getElem?_set_self]
      exact (List.getElem?_eq_some_iff.mp found).1
    change RotatedFrom options system.tables
      ((system.perform environment options
        (.on index (.finalize (Sample.readings newStreamId)))).perform environment options
          (.on index (.finalize (Sample.readings newStreamId)))).tables
    rw [read, perform_on foundAgain]
    exact rotatedFrom recorded unused fresh

/-- While the source has lost its continuity, its rotation is still possible. -/
def NeverStuck (environment : Environment) (options : SourceOptions) (start : SourceSystem)
    (actions : List SourceAction) : Prop :=
  ∀ earlier later, actions = earlier ++ later →
    Pending options (start.after environment options earlier).tables →
      (start.after environment options earlier).CanRotate environment options

structure EnrolledIn (options : SourceOptions) (roster : List SourceDefinition) : Prop where
  counted : 1 ≤ roster.length ∧ roster.length ≤ 16
  distinct : (roster.map SourceDefinition.sourceId).Nodup
  listed : ∃ source, source ∈ roster ∧ source.sourceId = options.sourceId ∧
    source.sourceStreamId = options.sourceStreamId ∧
      source.deliverySemantics = .durableAtLeastOnce

variable {roster : List SourceDefinition}

theorem get?_foldl_set_mem (sources : OrderedMap String SourceState) {source : SourceDefinition}
    (distinct : (roster.map SourceDefinition.sourceId).Nodup) (member : source ∈ roster) :
    (roster.foldl (fun states source => states.set source.sourceId source.state) sources).get?
      source.sourceId = some source.state := by
  induction roster generalizing sources with
  | nil => cases member
  | cons first rest ih =>
    have parts := List.nodup_cons.mp distinct
    rw [List.foldl_cons]
    rcases List.mem_cons.mp member with same | later
    · rw [get?_foldl_set_absent, same, get?_set_self]
      intro other otherMember sameId
      apply parts.1
      rw [← same, ← sameId]
      exact List.mem_map.mpr ⟨other, otherMember, rfl⟩
    · exact ih _ parts.2 later

theorem EnrolledIn.sound {readings : Readings} (enrolled : EnrolledIn options roster) :
    (initial readings roster).Sound options := by
  obtain ⟨source, member, isSource, stream, durable⟩ := enrolled.listed
  have sorted : ((roster.mergeSort byId).map SourceDefinition.sourceId).Nodup :=
    ((List.mergeSort_perm roster byId).map SourceDefinition.sourceId).nodup_iff.mpr
      enrolled.distinct
  have known : (empty.initialized readings roster).sources.get? options.sourceId =
      some source.state := by
    rw [← isSource]
    exact get?_foldl_set_mem _ sorted (List.mem_mergeSort.mpr member)
  constructor
  · constructor
    · constructor
      all_goals
        intro inboxId
        intros
        contradiction
    · constructor
      · refine ⟨readings.newStreamId, _, roster.mergeSort byId, rfl,
          get?_set_self _ _ _, rfl, get?_set_self _ _ _, ?_, ?_, sorted,
          source, List.mem_mergeSort.mpr member, isSource, stream, durable⟩
        · rw [List.length_mergeSort]
          exact enrolled.counted.1
        · rw [List.length_mergeSort]
          exact enrolled.counted.2
      · exact ⟨source.state, known, stream, durable⟩
    · intro record sequence isRecord
      cases isRecord
    · intro record inboxId isRecord
      cases isRecord
  · intro client isClient
    cases isClient
  · rintro ⟨state, isState, status⟩
    have same : source.state = state := Option.some.inj (known.symm.trans isState)
    rw [← same] at status
    cases status

/-- The source is never stuck, unless a process is gone between the loss of its continuity and
the rotation for it. -/
theorem sourceClients_neverStuck (environment : Environment) (options : SourceOptions)
    (readings : Readings) (roster : List SourceDefinition) (enrolled : EnrolledIn options roster)
    (actions : List SourceAction)
    (spares : Histories.EveryStep (SourceSystem.perform environment options) (Spares options)
      (.initial readings roster) actions) :
    NeverStuck environment options (.initial readings roster) actions := by
  intro earlier later isActions pending
  rw [isActions, Histories.everyStep_append] at spares
  have sound : SourceSystem.Sound options
      ((initial readings roster).after environment options earlier) :=
    Histories.keeps (I := SourceSystem.Sound options)
      (fun system action sound spares => SourceSystem.Sound.perform sound spares)
      enrolled.sound spares.1
  obtain ⟨client, member, owes⟩ := sound.owed pending
  exact owes.canRotate sound.recorded member

/-! ### A source that is stuck -/

/-- Without clients, a source that lost its continuity is refused to every one that begins. -/
theorem stuck_forever (none : system.clients = []) (pending : Pending options system.tables)
    (actions : List SourceAction) :
    (system.after environment options actions).clients = [] ∧
      (system.after environment options actions).tables = system.tables := by
  induction actions with
  | nil => exact ⟨none, rfl⟩
  | cons action rest ih =>
    have same : system.perform environment options action = system := by
      cases action with
      | runOnce replicaId readings =>
        obtain ⟨state, known, status⟩ := pending
        have refused : acquireSourceLease readings options.sourceId options.sourceStreamId
            replicaId options.leaseMs system.tables = .ok (Option.none, system.tables) := by
          unfold acquireSourceLease
          rw [read_bind, known]
          dsimp only
          rw [if_pos (Or.inr (Or.inr (Or.inl status)))]
          rfl
        unfold SourceSystem.perform
        dsimp only
        rw [commit_of_ok refused]
      | on index event =>
        unfold SourceSystem.perform
        dsimp only
        rw [none]
        rfl
      | crash index =>
        unfold SourceSystem.perform
        dsimp only
        rw [none]
        cases system
        cases none
        rfl
    change ((system.perform environment options action).after environment options rest).clients =
        [] ∧ ((system.perform environment options action).after environment options rest).tables =
          system.tables
    rw [same]
    exact ih

theorem not_canRotate (none : system.clients = []) (pending : Pending options system.tables) :
    ¬system.CanRotate environment options := by
  rintro ⟨actions, record, added, _⟩
  rw [(stuck_forever none pending actions).2] at added
  simp at added

section Runs

open Sample

def sampleOptions : SourceOptions :=
  { sourceId := "adapter"
    sourceStreamId := "A"
    leaseMs := 1000
    mappingDeadlineMs := 1000
    eventRetentionMs := 1000 }

theorem sample_enrolled : EnrolledIn sampleOptions [source "A"] where
  counted := ⟨by decide, by decide⟩
  distinct := by decide
  listed := ⟨source "A", List.mem_singleton_self _, rfl, rfl, rfl⟩

/-- A client takes a fact that is rejected, and makes the rotation. -/
def rejectedAndRecovered : List SourceAction :=
  [.runOnce "replica" (readings "unused"), .on 0 (.deliver (untyped "A" "event-1" 1)),
    .on 0 (.handle (readings "unused")), .on 0 (.handle (readings "second"))]

def rejectedAndCrashed : List SourceAction :=
  [.runOnce "replica" (readings "unused"), .on 0 (.deliver (untyped "A" "event-1" 1)),
    .on 0 (.handle (readings "unused")), .crash 0]

theorem rejectedAndRecovered_neverStuck :
    NeverStuck Sample.environment sampleOptions (.initial (readings "first") [source "A"])
      rejectedAndRecovered := by
  apply sourceClients_neverStuck _ _ _ _ sample_enrolled
  refine ⟨trivial, nofun, ?_, ?_, trivial⟩
  · rintro _ ⟨⟩
    decide +kernel
  · rintro _ ⟨⟩
    decide +kernel

theorem rejectedAndCrashed_stuck :
    ¬NeverStuck Sample.environment sampleOptions (.initial (readings "first") [source "A"])
      rejectedAndCrashed := by
  intro neverStuck
  have status : ((after Sample.environment sampleOptions
      (.initial (readings "first") [source "A"]) rejectedAndCrashed).tables.sources.get?
        "adapter").map SourceState.status = some .continuityLossPending := by decide +kernel
  have alone : (after Sample.environment sampleOptions
      (.initial (readings "first") [source "A"]) rejectedAndCrashed).clients.length = 0 := by
    decide +kernel
  have pending : Pending sampleOptions (after Sample.environment sampleOptions
      (.initial (readings "first") [source "A"]) rejectedAndCrashed).tables :=
    Option.map_eq_some_iff.mp status
  exact not_canRotate (List.length_eq_zero_iff.mp alone) pending
    (neverStuck rejectedAndCrashed [] (List.append_nil _).symm pending)

end Runs

end BusinessEvents

end SdarRuntime
