import SdarRuntime.BusinessEvents.CanonicalForms
import SdarRuntime.BusinessEvents.Sample

/-!
What becomes of an event that is processed under a valid lease. An intake that comes to the
database ends with a row, with a duplicate, or with a blocked source; an event throws before it
exactly where one of the helpers or the database refuses its contents.
-/

namespace SdarRuntime

namespace BusinessEvents

open Transaction (bind_of_ok bind_eq_ok pure_eq_ok read_bind)

open Sample FactScope

/-- A value has a canonical form when its keys stay apart and its numbers are finite, where they
are not lost with the prototype. -/
theorem canonicalSha256_iff (platform : Platform) (value : Json) :
    (∃ hash, platform.canonicalSha256 value = .ok hash) ↔
      apart platform.normalize value = true ∧
        (withoutPrototypes (composed platform.normalize value)).finite = true := by
  unfold Platform.canonicalSha256 canonicalJson
  rw [normalizeUnicode_eq]
  cases isApart : apart platform.normalize value with
  | false => simp [bind, Except.bind]
  | true =>
    unfold serialize
    cases isFinite : (withoutPrototypes (composed platform.normalize value)).finite <;>
      simp [isFinite, bind, Except.bind, pure, Except.pure]

/-- An event of the scope of tasks names its execution, and any other one its resource. -/
def AdapterEvent.named (event : AdapterEvent) : Bool :=
  if event.scope = "task" then event.externalExecutionId.any fun text => text ≠ ""
  else event.resourceRef.any fun text => text ≠ ""

def Platform.takesPayload (platform : Platform) (event : AdapterEvent) : Bool :=
  apart platform.normalize event.payload &&
    (withoutPrototypes (composed platform.normalize event.payload)).finite

def Platform.KeepsAscii (platform : Platform) : Prop :=
  ∀ text : String, (text.toList.all fun char => decide (char.toNat < 128)) = true →
    platform.normalize text = text

theorem sourceCanonicalInput_eq (environment : Environment) (lease : Lease) (event : AdapterEvent)
    (text occurredAt : String) :
    ∃ key about, (key = "externalExecutionId" ∨ key = "resourceRef") ∧
      sourceCanonicalInput environment lease (event.fact text) occurredAt =
        if event.named = true then .ok (.obj [
          ("providerId", .str environment.providerId),
          ("sourceId", .str lease.sourceId),
          ("sourceStreamId", .str lease.sourceStreamId),
          ("sourceEventId", .str event.sourceEventId),
          ("sourceSequence", .str (toString event.sourceSequence)),
          ("scope", .str (ofText event.scope).text),
          (key, .str about),
          ("eventType", .str event.eventType),
          ("occurredAt", .str occurredAt),
          ("description", .str event.description),
          ("severityHint", .str ((event.fact text).severityHint.getD "")),
          ("reasonCode", .str ((event.fact text).reasonCode.getD "")),
          ("rawPayload", event.payload)])
        else .error "BUSINESS_EVENT_CANONICAL_VALUE_INVALID" := by
  have known (about : Option String) :
      (∃ name, (about.filter fun text => decide (text ≠ "")) = some name ∧
        (about.any fun text => decide (text ≠ "")) = true) ∨
      ((about.filter fun text => decide (text ≠ "")) = none ∧
        (about.any fun text => decide (text ≠ "")) = false) := by
    cases about with
    | none => exact Or.inr ⟨rfl, rfl⟩
    | some name =>
      by_cases empty : name = ""
      · subst empty
        exact Or.inr ⟨rfl, rfl⟩
      · exact Or.inl ⟨name, by simp [Option.filter, empty], by simp [empty]⟩
  by_cases task : event.scope = "task"
  · have scope : ofText event.scope = .task := by
      unfold ofText
      rw [if_pos task]
    rcases known event.externalExecutionId with ⟨name, isName, named⟩ | ⟨missing, unnamed⟩
    · refine ⟨"externalExecutionId", name, Or.inl rfl, ?_⟩
      unfold sourceCanonicalInput AdapterEvent.named AdapterEvent.fact
      dsimp only
      rw [scope, isName, if_pos task, if_pos named]
      rfl
    · refine ⟨"externalExecutionId", "", Or.inl rfl, ?_⟩
      unfold sourceCanonicalInput AdapterEvent.named AdapterEvent.fact
      dsimp only
      rw [scope, missing, if_pos task, unnamed]
      rfl
  · have scope : ofText event.scope ≠ .task := by
      unfold ofText
      rw [if_neg task]
      split <;> simp
    rcases known event.resourceRef with ⟨name, isName, named⟩ | ⟨missing, unnamed⟩
    · refine ⟨"resourceRef", name, Or.inr rfl, ?_⟩
      unfold sourceCanonicalInput AdapterEvent.named AdapterEvent.fact
      dsimp only
      rw [isName, if_neg task, if_pos named]
      cases isScope : ofText event.scope with
      | task => exact absurd isScope scope
      | resource => rfl
      | other text => rfl
    · refine ⟨"resourceRef", "", Or.inr rfl, ?_⟩
      unfold sourceCanonicalInput AdapterEvent.named AdapterEvent.fact
      dsimp only
      rw [missing, if_neg task, unnamed]
      cases isScope : ofText event.scope with
      | task => exact absurd isScope scope
      | resource => rfl
      | other text => rfl

theorem hashes_iff {platform : Platform} (keepsAscii : platform.KeepsAscii) (lease : Lease)
    (event : AdapterEvent) (text : String) :
    (∃ occurredAt input hash,
      Hashes platform.environment lease (event.fact text) occurredAt input hash) ↔
    (∃ occurredAt, normalizeRfc3339Nano text = .ok occurredAt) ∧ event.named = true ∧
      platform.takesPayload event = true := by
  have payload (occurredAt : String) {input : Json}
      (canonical : sourceCanonicalInput platform.environment lease (event.fact text) occurredAt =
        .ok input) :
      event.named = true ∧ ((∃ hash, platform.canonicalSha256 input = .ok hash) ↔
        platform.takesPayload event = true) := by
    obtain ⟨key, about, isKey, isInput⟩ :=
      sourceCanonicalInput_eq platform.environment lease event text occurredAt
    rw [isInput] at canonical
    split at canonical
    · rename_i named
      refine ⟨named, ?_⟩
      cases canonical
      rw [canonicalSha256_iff]
      unfold Platform.takesPayload
      rw [Bool.and_eq_true]
      have ascii (name : String)
          (isAscii : (name.toList.all fun char => decide (char.toNat < 128)) = true) :
          platform.normalize name = name := keepsAscii name isAscii
      rcases isKey with isKey | isKey
      all_goals
        subst isKey
        simp [apartFields, apart, composed, composedFields, withoutPrototypes,
          withoutPrototypesFields, Json.finite, Json.finiteFields, ascii "providerId" (by decide),
          ascii "sourceId" (by decide), ascii "sourceStreamId" (by decide),
          ascii "sourceEventId" (by decide), ascii "sourceSequence" (by decide),
          ascii "scope" (by decide), ascii "externalExecutionId" (by decide),
          ascii "resourceRef" (by decide), ascii "eventType" (by decide),
          ascii "occurredAt" (by decide), ascii "description" (by decide),
          ascii "severityHint" (by decide), ascii "reasonCode" (by decide),
          ascii "rawPayload" (by decide)]
    · cases canonical
  constructor
  · rintro ⟨occurredAt, input, hash, hashes⟩
    obtain ⟨named, canonical⟩ := payload occurredAt hashes.canonical
    exact ⟨⟨occurredAt, hashes.normalized⟩, named, canonical.mp ⟨hash, hashes.hashed⟩⟩
  · rintro ⟨⟨occurredAt, normalized⟩, named, takes⟩
    obtain ⟨key, about, isKey, isInput⟩ :=
      sourceCanonicalInput_eq platform.environment lease event text occurredAt
    rw [if_pos named] at isInput
    obtain ⟨hash, hashed⟩ := (payload occurredAt isInput).2.mpr takes
    exact ⟨occurredAt, _, hash, normalized, isInput, hashed⟩

section

variable {environment : Environment} {readings : Readings} {tables : Tables} {lease : Lease}
  {fact : SourceFact} {mappingDeadlineMs : Nat} {state : SourceState} {occurredAt hash : String}
  {input : Json}

theorem intakeSourceFact_eq (positive : 1 ≤ fact.sourceSequence)
    (bounded : fact.sourceSequence ≤ maxSequence)
    (hashes : Hashes environment lease fact occurredAt input hash)
    (known : tables.sources.get? lease.sourceId = some state)
    (leases : state.leases lease readings.database) :
    intakeSourceFact environment readings lease fact mappingDeadlineMs tables =
      let blocked := tables.withSource lease.sourceId { state with status := .blockedIdentityConflict }
      let validationError := validateSourceFact environment fact lease.sourceId
      let stored := tables.withNewRow (fact.row lease validationError.isSome occurredAt hash
        (readings.database.addMilliseconds mappingDeadlineMs))
      if fact.sourceStreamId ≠ lease.sourceStreamId then
        .ok (.refused "SOURCE_STREAM_RESET", blocked)
      else if tables.sameIdentity lease fact ≠ [] then
        if (tables.sameIdentity lease fact).length = 1 ∧
            (tables.sameIdentity lease fact).any (fun row => row.isExact fact hash) = true then
          .ok (.duplicate hash, tables)
        else .ok (.refused "BUSINESS_EVENT_IDEMPOTENCY_CONFLICT", blocked)
      else if fact.sourceSequence ≤ state.lastPersistedSourceSequence then
        .ok (.refused "BUSINESS_EVENT_SOURCE_SEQUENCE_REGRESSION", blocked)
      else if validationError = none ∧ fact.scope.isKnown = false then .error "23514"
      else .ok (match validationError with
          | some reason => .rejected hash reason
          | none => .received hash,
        if state.lasts readings.later = true then
          stored.withSource lease.sourceId
            (state.advanced fact.sourceSequence validationError.isSome)
        else stored) := by
  have inRange : ¬(fact.sourceSequence < 1 ∨ maxSequence < fact.sourceSequence) := by omega
  have written {α : Type} {outcome : Except String α} {value : α} (is : outcome = .ok value) :
      ofExcept outcome tables = .ok (value, tables) :=
    ofExcept_eq_ok.mpr ⟨is, rfl⟩
  unfold intakeSourceFact
  rw [if_neg inRange, bind_of_ok (written hashes.normalized),
    bind_of_ok (written hashes.canonical), bind_of_ok (written hashes.hashed),
    bind_of_ok (lockAndValidateLease_eq_ok.mpr ⟨known, leases, rfl⟩), read_bind]
  dsimp only
  split
  · rfl
  · cases tables.sameIdentity lease fact with
    | cons row others =>
      rw [if_pos (List.cons_ne_nil row others)]
      dsimp only
      split <;> rfl
    | nil =>
      rw [if_neg (not_not_intro rfl)]
      dsimp only
      split
      · rfl
      · have inserted (row : InboxRow) :
            insertRow row tables = .ok ((), tables.withNewRow row) :=
          insertRow_eq_ok.mpr rfl
        have advanced (before : Tables) (next : SourceState) :
            setSource lease.sourceId next before =
              .ok ((), before.withSource lease.sourceId next) :=
          setSource_eq_ok.mpr rfl
        rw [bind_of_ok (inserted _)]
        unfold Transaction.when
        by_cases unknown : validateSourceFact environment fact lease.sourceId = none ∧
            fact.scope.isKnown = false
        · rw [if_pos unknown, if_pos unknown]
          rfl
        · rw [if_neg unknown, if_neg unknown, bind_of_ok (pure_eq_ok.mpr ⟨rfl, rfl⟩)]
          by_cases lasts : state.lasts readings.later = true
          · rw [if_pos lasts, if_pos lasts, bind_of_ok (advanced _ _)]
            cases validateSourceFact environment fact lease.sourceId <;> rfl
          · rw [if_neg lasts, if_neg lasts]
            cases validateSourceFact environment fact lease.sourceId <;> rfl

theorem intakeSourceFact_comes {answer : IntakeResult} {after : Tables}
    (committed : intakeSourceFact environment readings lease fact mappingDeadlineMs tables =
      .ok (answer, after)) :
    1 ≤ fact.sourceSequence ∧ fact.sourceSequence ≤ maxSequence ∧
      ∃ occurredAt input hash, Hashes environment lease fact occurredAt input hash := by
  unfold intakeSourceFact at committed
  split at committed
  · cases committed
  · rename_i inRange
    obtain ⟨occurredAt, first, normalized, committed⟩ := bind_eq_ok.mp committed
    obtain ⟨isOccurredAt, firstSame⟩ := ofExcept_eq_ok.mp normalized
    rw [← firstSame] at committed
    obtain ⟨input, second, canonical, committed⟩ := bind_eq_ok.mp committed
    obtain ⟨isInput, secondSame⟩ := ofExcept_eq_ok.mp canonical
    rw [← secondSame] at committed
    obtain ⟨hash, third, hashed, committed⟩ := bind_eq_ok.mp committed
    obtain ⟨isHash, thirdSame⟩ := ofExcept_eq_ok.mp hashed
    refine ⟨by omega, by omega, occurredAt, input, hash, ?_⟩
    constructor
    · exact isOccurredAt
    · exact isInput
    · exact isHash

end

def Settled (before : Tables) (lease : Lease) (after : Tables) : IntakeResult → Prop
  | .received _ => ∃ row, after.inbox.get? before.nextInboxId = some row ∧ row.status = .received
  | .rejected _ _ => ∃ row, after.inbox.get? before.nextInboxId = some row ∧ row.status = .rejected
  | .duplicate _ => after = before
  | .refused _ => ∃ state, after.sources.get? lease.sourceId = some state ∧
      state.status = .blockedIdentityConflict

def IsStored (platform : Platform) (tables : Tables) (lease : Lease) (event : AdapterEvent) : Prop :=
  event.sourceStreamId = lease.sourceStreamId ∧ ∃ text occurredAt input hash,
    timestampToRfc3339Nano event.occurredAt = .ok text ∧
    Hashes platform.environment lease (event.fact text) occurredAt input hash ∧
    (tables.sameIdentity lease (event.fact text)).length = 1 ∧
    (tables.sameIdentity lease (event.fact text)).any
      (fun row => row.isExact (event.fact text) hash) = true

/-- No row has the identity of the event, and it is ahead of the source. -/
def IsNew (tables : Tables) (state : SourceState) (lease : Lease) (event : AdapterEvent) : Prop :=
  event.sourceStreamId = lease.sourceStreamId ∧
    tables.sameIdentity lease (event.fact "") = [] ∧
    state.lastPersistedSourceSequence < event.sourceSequence

structure Processable (platform : Platform) (tables : Tables) (state : SourceState) (lease : Lease)
    (event : AdapterEvent) : Prop where
  timestamp : ∃ present, event.occurredAt = some present ∧ 0 ≤ present.year ∧
    present.year ≤ 9999 ∧ nanosFit present.nanos
  sequence : 1 ≤ event.sourceSequence ∧ event.sourceSequence ≤ maxSequence
  named : event.named = true
  payload : platform.takesPayload event = true
  looked : event.sourceStreamId = lease.sourceStreamId → storable event.sourceEventId = true
  audited : platform.audits event = true ∨ IsStored platform tables lease event
  taken : IsNew tables state lease event → event.storable = true ∧
    platform.indexes event.sourceEventId = true ∧
    ((ofText event.scope).isKnown = true ∨
      (validateSourceFact platform.environment (event.fact "") lease.sourceId).isSome = true)

section

variable {platform : Platform} {readings : Readings} {tables : Tables} {lease : Lease}
  {event : AdapterEvent} {mappingDeadlineMs : Nat} {state : SourceState}
  {text occurredAt hash : String} {input : Json}

theorem processEvent_eq (written : timestampToRfc3339Nano event.occurredAt = .ok text) :
    processEvent platform readings lease event mappingDeadlineMs tables =
      match intakeSourceFact platform.environment readings lease (event.fact text)
        mappingDeadlineMs tables with
      | .error failure => .error failure
      | .ok (answer, after) =>
        if platform.refuses lease event answer = true then .error "22021"
        else .ok (answer, after) := by
  have isFact : normalizeAdapterEvent event = .ok (event.fact text) := by
    unfold normalizeAdapterEvent
    rw [written]
    rfl
  have decoded : ofExcept (normalizeAdapterEvent event) tables = .ok (event.fact text, tables) :=
    ofExcept_eq_ok.mpr ⟨isFact, rfl⟩
  unfold processEvent
  rw [bind_of_ok decoded]
  cases taken : intakeSourceFact platform.environment readings lease (event.fact text)
    mappingDeadlineMs tables with
  | error failure => simp [bind, taken]
  | ok result =>
    obtain ⟨answer, after⟩ := result
    rw [bind_of_ok taken]
    unfold Transaction.when
    dsimp only
    split <;> rfl

theorem storable_sourceEventId (stores : event.storable = true) :
    storable event.sourceEventId = true := by
  unfold AdapterEvent.storable at stores
  rw [Bool.and_eq_true, List.all_cons, Bool.and_eq_true] at stores
  exact stores.1.1

/-- An intake that has an answer leaves it behind unless the database or the audit refuses. -/
theorem exists_recorded_iff {answer : IntakeResult} {after : Tables}
    (written : timestampToRfc3339Nano event.occurredAt = .ok text)
    (taken : intakeSourceFact platform.environment readings lease (event.fact text)
      mappingDeadlineMs tables = .ok (answer, after))
    (recorded : Settled tables lease after answer) :
    (∃ answer after, processEvent platform readings lease event mappingDeadlineMs tables =
      .ok (answer, after) ∧ Settled tables lease after answer) ↔
    platform.refuses lease event answer = false := by
  rw [processEvent_eq written, taken]
  dsimp only
  cases platform.refuses lease event answer with
  | true => simp
  | false => exact iff_of_true ⟨answer, after, rfl, recorded⟩ rfl

theorem processEvent_recorded_iff (positive : 1 ≤ event.sourceSequence)
    (bounded : event.sourceSequence ≤ maxSequence)
    (written : timestampToRfc3339Nano event.occurredAt = .ok text)
    (hashes : Hashes platform.environment lease (event.fact text) occurredAt input hash)
    (known : tables.sources.get? lease.sourceId = some state)
    (leases : state.leases lease readings.database) :
    (∃ answer after, processEvent platform readings lease event mappingDeadlineMs tables =
      .ok (answer, after) ∧ Settled tables lease after answer) ↔
    (event.sourceStreamId = lease.sourceStreamId → storable event.sourceEventId = true) ∧
      (platform.audits event = true ∨ IsStored platform tables lease event) ∧
      (IsNew tables state lease event → event.storable = true ∧
        platform.indexes event.sourceEventId = true ∧
        ((ofText event.scope).isKnown = true ∨
          (validateSourceFact platform.environment (event.fact "") lease.sourceId).isSome =
            true)) := by
  have blockedRecorded (failure : String) : Settled tables lease
      (tables.withSource lease.sourceId { state with status := .blockedIdentityConflict })
      (.refused failure) :=
    ⟨_, OrderedMap.get?_set_self _ _ _, rfl⟩
  have storedHash : IsStored platform tables lease event →
      (tables.sameIdentity lease (event.fact text)).length = 1 ∧
      (tables.sameIdentity lease (event.fact text)).any
        (fun row => row.isExact (event.fact text) hash) = true := by
    rintro ⟨-, text', occurredAt', input', hash', written', hashes', one, exactly⟩
    rw [written] at written'
    cases written'
    have sameTime := hashes.normalized.symm.trans hashes'.normalized
    cases sameTime
    have sameInput := hashes.canonical.symm.trans hashes'.canonical
    cases sameInput
    have sameHash := hashes.hashed.symm.trans hashes'.hashed
    cases sameHash
    exact ⟨one, exactly⟩
  have taken : intakeSourceFact platform.environment readings lease (event.fact text)
      mappingDeadlineMs tables = _ :=
    intakeSourceFact_eq positive bounded hashes known leases
  dsimp only at taken
  by_cases stream : event.sourceStreamId = lease.sourceStreamId
  · have sameStream : ¬(event.fact text).sourceStreamId ≠ lease.sourceStreamId :=
      not_not_intro stream
    rw [if_neg sameStream] at taken
    by_cases identity : tables.sameIdentity lease (event.fact text) = []
    · have notStored : ¬IsStored platform tables lease event := by
        intro stored
        have one := (storedHash stored).1
        rw [identity] at one
        cases one
      rw [if_neg (not_not_intro identity)] at taken
      by_cases behind : event.sourceSequence ≤ state.lastPersistedSourceSequence
      · have notNew : ¬IsNew tables state lease event := by
          rintro ⟨-, -, ahead⟩
          omega
        have isBehind : (event.fact text).sourceSequence ≤ state.lastPersistedSourceSequence := behind
        rw [if_pos isBehind] at taken
        rw [exists_recorded_iff written taken (blockedRecorded _)]
        simp [Platform.refuses, stream, notStored, notNew, and_comm]
      · have isNew : IsNew tables state lease event := ⟨stream, identity, by omega⟩
        have isAhead : ¬(event.fact text).sourceSequence ≤ state.lastPersistedSourceSequence := behind
        rw [if_neg isAhead] at taken
        have stored (row : InboxRow) (next : SourceState) :
            (if state.lasts readings.later = true then
              (tables.withNewRow row).withSource lease.sourceId next
            else tables.withNewRow row).inbox.get? tables.nextInboxId = some row := by
          have written : (tables.withNewRow row).inbox.get? tables.nextInboxId = some row :=
            OrderedMap.get?_set_self _ _ _
          split
          · exact written
          · exact written
        have sameError : validateSourceFact platform.environment (event.fact "") lease.sourceId =
            validateSourceFact platform.environment (event.fact text) lease.sourceId := rfl
        rw [sameError]
        cases invalid : validateSourceFact platform.environment (event.fact text) lease.sourceId with
        | some reason =>
          rw [invalid, if_neg fun unknown => Option.some_ne_none _ unknown.1] at taken
          rw [exists_recorded_iff written taken ⟨_, stored _ _, rfl⟩]
          simp only [Platform.refuses, Bool.or_eq_false_iff, Bool.not_eq_false', notStored, isNew,
            or_false, true_implies, stream, Option.isSome_some, or_true, and_true]
          constructor
          · rintro ⟨⟨stores, indexed⟩, audited⟩
            exact ⟨storable_sourceEventId stores, audited, stores, indexed⟩
          · rintro ⟨-, audited, stores, indexed⟩
            exact ⟨⟨stores, indexed⟩, audited⟩
        | none =>
          rw [invalid] at taken
          by_cases scope : (ofText event.scope).isKnown = true
          · have isKnown : ¬(True ∧ (event.fact text).scope.isKnown = false) := by
              rintro ⟨-, unknown⟩
              exact Bool.false_ne_true (unknown.symm.trans scope)
            rw [if_neg (by simpa using isKnown)] at taken
            rw [exists_recorded_iff written taken ⟨_, stored _ _, rfl⟩]
            simp only [Platform.refuses, Bool.or_eq_false_iff, Bool.not_eq_false', notStored,
              isNew, or_false, true_implies, stream, scope, true_or, and_true]
            constructor
            · rintro ⟨⟨stores, indexed⟩, audited⟩
              exact ⟨storable_sourceEventId stores, audited, stores, indexed⟩
            · rintro ⟨-, audited, stores, indexed⟩
              exact ⟨⟨stores, indexed⟩, audited⟩
          · have unknown : (event.fact text).scope.isKnown = false := Bool.eq_false_iff.mpr scope
            rw [if_pos ⟨rfl, unknown⟩] at taken
            rw [processEvent_eq written, taken]
            constructor
            · rintro ⟨answer, after, thrown, -⟩
              cases thrown
            · rintro ⟨-, -, takes⟩
              rcases (takes isNew).2.2 with isKnown | rejected
              · exact absurd isKnown scope
              · cases rejected
    · have notNew : ¬IsNew tables state lease event := fun new => identity new.2.1
      rw [if_pos identity] at taken
      by_cases exactly : (tables.sameIdentity lease (event.fact text)).length = 1 ∧
          (tables.sameIdentity lease (event.fact text)).any
            (fun row => row.isExact (event.fact text) hash) = true
      · have isStored : IsStored platform tables lease event :=
          ⟨stream, text, occurredAt, input, hash, written, hashes, exactly.1, exactly.2⟩
        rw [if_pos exactly] at taken
        rw [exists_recorded_iff written taken rfl]
        simp [Platform.refuses, stream, isStored, notNew]
      · have notStored : ¬IsStored platform tables lease event := fun stored =>
          exactly (storedHash stored)
        rw [if_neg exactly] at taken
        rw [exists_recorded_iff written taken (blockedRecorded _)]
        simp [Platform.refuses, stream, notStored, notNew, and_comm]
  · have otherStream : (event.fact text).sourceStreamId ≠ lease.sourceStreamId := stream
    have notStored : ¬IsStored platform tables lease event := fun stored => stream stored.1
    have notNew : ¬IsNew tables state lease event := fun new => stream new.1
    rw [if_pos otherStream] at taken
    rw [exists_recorded_iff written taken (blockedRecorded _)]
    simp [Platform.refuses, stream, notStored, notNew]

/-- An event under a valid lease leaves a row, or is a duplicate, or blocks its source, exactly when
no helper and no statement refuses its contents; otherwise nothing of it is kept. -/
theorem processEvent_records_iff (keepsAscii : platform.KeepsAscii)
    (known : tables.sources.get? lease.sourceId = some state)
    (leases : state.leases lease readings.database) :
    (∃ answer after, processEvent platform readings lease event mappingDeadlineMs tables =
      .ok (answer, after) ∧ Settled tables lease after answer) ↔
    Processable platform tables state lease event := by
  constructor
  · intro records
    have ⟨answer, after, committed, recorded⟩ := records
    cases written : timestampToRfc3339Nano event.occurredAt with
    | error failure =>
      have thrown : processEvent platform readings lease event mappingDeadlineMs tables =
          .error failure := by
        unfold processEvent normalizeAdapterEvent
        rw [written]
        rfl
      rw [thrown] at committed
      cases committed
    | ok text =>
      have steps := committed
      rw [processEvent_eq written] at steps
      cases taken : intakeSourceFact platform.environment readings lease (event.fact text)
        mappingDeadlineMs tables with
      | error failure =>
        rw [taken] at steps
        cases steps
      | ok result =>
        have ⟨positive, bounded, occurredAt, input, hash, hashes⟩ :=
          intakeSourceFact_comes taken
        have ⟨normalized, named, payload⟩ :=
          (hashes_iff keepsAscii lease event text).mp ⟨occurredAt, input, hash, hashes⟩
        have ⟨looked, audited, isTaken⟩ :=
          (processEvent_recorded_iff positive bounded written hashes known leases).mp records
        constructor
        · apply (normalizes_iff event.occurredAt).mp
          exact ⟨text, normalized.choose, written, normalized.choose_spec⟩
        · exact ⟨positive, bounded⟩
        · exact named
        · exact payload
        · exact looked
        · exact audited
        · exact isTaken
  · intro processable
    have ⟨text, normalized, written, normalizes⟩ :=
      (normalizes_iff event.occurredAt).mpr processable.timestamp
    have ⟨occurredAt, input, hash, hashes⟩ := (hashes_iff keepsAscii lease event text).mpr
      ⟨⟨normalized, normalizes⟩, processable.named, processable.payload⟩
    rw [processEvent_recorded_iff processable.sequence.1 processable.sequence.2 written hashes
      known leases]
    exact ⟨processable.looked, processable.audited, processable.taken⟩

end

def samplePlatform : Platform :=
  { providerId := "vehicle"
    normalize := id
    sha256 := id
    businessEventId := fun providerId sourceId sourceStreamId sourceEventId =>
      providerId ++ "/" ++ sourceId ++ "/" ++ sourceStreamId ++ "/" ++ sourceEventId
    parsesTaskBusinessFeedbackBody := fun _ => true
    indexes := fun _ => true
    audits := fun _ => true }

def sampleState : SourceState :=
  { (source "stream").state with
    leaseOwner := some "replica"
    leaseUntil := some 1000000
    fencingToken := 1 }

def sampleEvent (externalExecutionId : Option String) : AdapterEvent :=
  { sourceEventId := "event"
    sourceSequence := 1
    sourceStreamId := "stream"
    scope := "task"
    occurredAt := some
      { seconds := 1767225600
        nanos := 500000
        seconds_int64 := by decide
        nanos_int32 := by decide }
    eventType := "vehicle.moved"
    description := "The vehicle moved."
    externalExecutionId := externalExecutionId
    resourceRef := none
    severityHint := ""
    reasonCode := ""
    rawPayload := some [("speed", .numberValue "12")] }

theorem processEvent_records_sample :
    ∃ answer after, processEvent samplePlatform (readings "next") (lease "stream" 1)
      (sampleEvent (some "execution")) 1000 leased = .ok (answer, after) ∧
      Settled leased (lease "stream" 1) after answer := by
  have keepsAscii : samplePlatform.KeepsAscii := by
    intro text _
    rfl
  have known : leased.sources.get? (lease "stream" 1).sourceId = some sampleState := by
    decide
  have leases : sampleState.leases (lease "stream" 1) (readings "next").database := by
    decide
  apply (processEvent_records_iff keepsAscii known leases).mpr
  constructor
  · exact ⟨_, rfl, by decide, by decide, by decide⟩
  · decide
  · decide
  · decide
  · intro _
    decide
  · exact Or.inl rfl
  · intro _
    decide

/-- An event of a task that names no execution throws, and nothing of it is kept. -/
theorem processEvent_throws :
    sampleState.leases (lease "stream" 1) (readings "next").database ∧
    leased.sources.get? "adapter" = some sampleState ∧
    ¬∃ answer after, processEvent samplePlatform (readings "next")
      (lease "stream" 1) (sampleEvent none) 1000 leased = .ok (answer, after) ∧
      Settled leased (lease "stream" 1) after answer := by
  have keepsAscii : samplePlatform.KeepsAscii := by
    intro text _
    rfl
  have unnamed : (sampleEvent none).named = false := by
    decide
  refine ⟨by decide, by decide, ?_⟩
  rintro ⟨answer, after, committed, -⟩
  cases written : timestampToRfc3339Nano (sampleEvent none).occurredAt with
  | error failure =>
    unfold processEvent normalizeAdapterEvent at committed
    rw [written] at committed
    cases committed
  | ok text =>
    rw [processEvent_eq written] at committed
    cases taken : intakeSourceFact samplePlatform.environment (readings "next")
      (lease "stream" 1) ((sampleEvent none).fact text) 1000 leased with
    | error failure =>
      rw [taken] at committed
      cases committed
    | ok result =>
      have ⟨positive, bounded, occurredAt, input, hash, hashes⟩ := intakeSourceFact_comes taken
      have ⟨normalized, named, payload⟩ :=
        (hashes_iff keepsAscii _ _ text).mp ⟨occurredAt, input, hash, hashes⟩
      rw [unnamed] at named
      cases named

end BusinessEvents

end SdarRuntime
