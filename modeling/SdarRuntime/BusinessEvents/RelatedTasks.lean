import SdarRuntime.BusinessEvents.NanoTimestamps
import SdarRuntime.BusinessEvents.Sample

/-!
The tasks a resource-scoped fact may be about: those bound to the resource when the fact occurred.
The column keeps microseconds; the driver hands the instant over as a `Date`, which keeps
milliseconds, and the bindings are searched with that.
-/

namespace SdarRuntime

namespace BusinessEvents

open Transaction OrderedMap

/-- A row of `provider_task_resource_binding`, of a task. -/
structure ResourceBinding where
  resourceRef : String
  boundAt : Instant
  terminalAt : Option Instant
  ends_after : ∀ terminal, terminalAt = some terminal → boundAt ≤ terminal

/-- The closed interval of the binding; without an end it is open-ended. -/
def ResourceBinding.contains (binding : ResourceBinding) (instant : Instant) : Bool :=
  decide (binding.boundAt ≤ instant) &&
    binding.terminalAt.all fun terminal => decide (instant ≤ terminal)

def dateOf (instant : Instant) : Instant := 1000 * Int.fdiv instant 1000

/-- The query of `prepareNextSourceEvent`; a task has one binding. -/
def relatedTasks (timestamptz : String → Instant) (bindings : OrderedMap String ResourceBinding)
    (resourceRef normalizedOccurredAt : String) : List String :=
  let occurredAt := dateOf (timestamptz normalizedOccurredAt)
  ((bindings.entries.filter fun entry =>
    entry.2.resourceRef == resourceRef && entry.2.contains occurredAt).map Prod.fst).mergeSort
      fun left right => decide (left ≤ right)

theorem dateOf_le (instant : Instant) : dateOf instant ≤ instant := by
  change 1000 * Int.fdiv instant 1000 ≤ instant
  rw [Int.fdiv_eq_ediv_of_nonneg _ (by decide)]
  exact Int.mul_ediv_self_le (by decide)

theorem mem_relatedTasks {timestamptz : String → Instant}
    {bindings : OrderedMap String ResourceBinding} {resourceRef normalizedOccurredAt taskId : String} :
    taskId ∈ relatedTasks timestamptz bindings resourceRef normalizedOccurredAt ↔
      ∃ binding, bindings.get? taskId = some binding ∧ binding.resourceRef = resourceRef ∧
        binding.contains (dateOf (timestamptz normalizedOccurredAt)) = true := by
  unfold relatedTasks
  simp only [List.mem_mergeSort, List.mem_map, List.mem_filter, Bool.and_eq_true, beq_iff_eq]
  constructor
  · rintro ⟨⟨task, binding⟩, ⟨member, same, within⟩, rfl⟩
    exact ⟨binding, mem_entries.mp member, same, within⟩
  · rintro ⟨binding, found, same, within⟩
    exact ⟨(taskId, binding), ⟨mem_entries.mpr found, same, within⟩, rfl⟩

/-- The binding begins or ends between the millisecond of an instant and the instant itself. -/
def ResourceBinding.Parts (binding : ResourceBinding) (instant : Instant) : Prop :=
  dateOf instant < binding.boundAt ∧ binding.contains instant = true ∨
    binding.contains (dateOf instant) = true ∧
      ∃ terminal, binding.terminalAt = some terminal ∧ terminal < instant

theorem ResourceBinding.contains_iff {binding : ResourceBinding} {instant : Instant} :
    binding.contains instant = true ↔ binding.boundAt ≤ instant ∧
      ∀ terminal, binding.terminalAt = some terminal → instant ≤ terminal := by
  unfold contains
  cases binding.terminalAt <;> simp

theorem ResourceBinding.contains_dateOf_iff {binding : ResourceBinding} {instant : Instant} :
    (binding.contains (dateOf instant) = true ↔ binding.contains instant = true) ↔
      ¬binding.Parts instant := by
  have earlier := dateOf_le instant
  unfold Parts
  constructor
  · rintro same (⟨begins, holds⟩ | ⟨holds, terminal, isTerminal, ended⟩)
    · have bound := (contains_iff.mp (same.mpr holds)).1
      exact absurd begins (not_lt_of_ge bound)
    · have last := (contains_iff.mp (same.mp holds)).2 terminal isTerminal
      exact absurd ended (not_lt_of_ge last)
  · intro whole
    rw [not_or] at whole
    constructor
    · intro holds
      have date := contains_iff.mp holds
      rw [contains_iff]
      constructor
      · exact le_trans date.1 earlier
      · intro terminal isTerminal
        by_contra ended
        exact whole.2 ⟨holds, terminal, isTerminal, lt_of_not_ge ended⟩
    · intro holds
      have exactly := contains_iff.mp holds
      rw [contains_iff]
      constructor
      · by_contra begins
        exact whole.1 ⟨lt_of_not_ge begins, holds⟩
      · intro terminal isTerminal
        exact le_trans earlier (exactly.2 terminal isTerminal)

variable {tables : Tables} {sourceId : String} {state : SourceState} {inboxId : Nat} {row : InboxRow}
  {payload : SourcePayload} {resourceRef occurredAt : String}

theorem prepareNextSourceEvent_of_resource (readings : Readings)
    (unprepared : Unprepared tables sourceId state inboxId row)
    (decoded : row.sourcePayload = some payload) (scope : row.normalizedScope = some .resource)
    (resource : payload.fact.resourceRef = some resourceRef)
    (occurred : row.normalizedOccurredAt = some occurredAt) :
    prepareNextSourceEvent readings sourceId tables = .ok (.ready, tables.withRow inboxId
      { row with
        status := .ready
        sourcePayload := some
          { payload with
            candidateRelatedTaskIds := readings.relatedTasks resourceRef occurredAt } }) := by
  have notTask : ¬row.normalizedScope = some .task := by
    rw [scope]
    decide
  have noBarrier : ¬row.isBarrier = true := by
    rw [unprepared.noBarrier]
    decide
  unfold prepareNextSourceEvent
  rw [read_bind, unprepared.known]
  dsimp only
  rw [unprepared.first]
  dsimp only
  rw [if_neg unprepared.notReady, if_neg noBarrier, decoded]
  dsimp only
  rw [if_neg notTask]
  unfold associateTasks
  rw [resource, occurred]
  rfl

/-- The tasks that are frozen are those whose binding holds the instant that is stored, exactly
when no binding of the resource begins or ends between its millisecond and itself. -/
theorem prepareNextSourceEvent_relates_iff (timestamptz : String → Instant)
    (bindings : OrderedMap String ResourceBinding) (readings : Readings)
    (related : readings.relatedTasks = relatedTasks timestamptz bindings)
    (unprepared : Unprepared tables sourceId state inboxId row)
    (decoded : row.sourcePayload = some payload) (scope : row.normalizedScope = some .resource)
    (resource : payload.fact.resourceRef = some resourceRef)
    (occurred : row.normalizedOccurredAt = some occurredAt) :
    (∃ tables' next frozen, prepareNextSourceEvent readings sourceId tables = .ok (.ready, tables') ∧
      tables'.inbox.get? inboxId = some next ∧ next.sourcePayload = some frozen ∧
      ∀ taskId, taskId ∈ frozen.candidateRelatedTaskIds ↔
        ∃ binding, bindings.get? taskId = some binding ∧ binding.resourceRef = resourceRef ∧
          binding.contains (timestamptz occurredAt) = true) ↔
    ∀ taskId binding, bindings.get? taskId = some binding → binding.resourceRef = resourceRef →
      ¬binding.Parts (timestamptz occurredAt) := by
  have prepared := prepareNextSourceEvent_of_resource readings unprepared decoded scope resource
    occurred
  have written (next : InboxRow) : (tables.withRow inboxId next).inbox.get? inboxId = some next :=
    get?_set_self _ _ _
  rw [related] at prepared
  constructor
  · rintro ⟨tables', next, frozen, committed, found, isPayload, exactly⟩ taskId binding known same
    rw [prepared] at committed
    cases committed
    rw [written] at found
    cases found
    cases isPayload
    rw [← ResourceBinding.contains_dateOf_iff]
    have inTasks := exactly taskId
    rw [mem_relatedTasks] at inTasks
    constructor
    · intro holds
      obtain ⟨other, isOther, -, within⟩ := inTasks.mp ⟨binding, known, same, holds⟩
      rw [known] at isOther
      cases isOther
      exact within
    · intro holds
      obtain ⟨other, isOther, -, within⟩ := inTasks.mpr ⟨binding, known, same, holds⟩
      rw [known] at isOther
      cases isOther
      exact within
  · intro whole
    refine ⟨_, _, _, prepared, written _, rfl, ?_⟩
    intro taskId
    rw [mem_relatedTasks]
    apply exists_congr
    intro binding
    apply and_congr_right
    intro known
    apply and_congr_right
    intro same
    exact ResourceBinding.contains_dateOf_iff.mpr (whole taskId binding known same)

def sampleTimestamptz (text : String) : Instant :=
  match matchNano text.toList with
  | none => 0
  | some found =>
    1000 * dateUtc found.year (found.month - 1) found.day found.hour found.minute found.second +
      DecimalText.value ((found.fraction ++ List.replicate 6 '0').take 6)

def cameraFact : SourceFact :=
  { Sample.fact "stream" "event" 1 with
    scope := .resource
    occurredAt := "2026-01-01T00:00:00.0005Z"
    externalExecutionId := none
    resourceRef := some "camera" }

def cameraTables : Tables :=
  run Sample.environment Sample.leased (Sample.steps "first" [Sample.intake cameraFact 1])

def cameraRow : InboxRow :=
  cameraFact.row (Sample.lease "stream" 1) false "2026-01-01T00:00:00.0005Z" "hash"
    (Instant.addMilliseconds 0 1000)

def cameraBindings (boundAt : Instant) : OrderedMap String ResourceBinding :=
  empty.set "task"
    { resourceRef := "camera"
      boundAt := boundAt
      terminalAt := none
      ends_after := nofun }

def cameraReadings (boundAt : Instant) : Readings :=
  { Sample.readings "next" with
    relatedTasks := relatedTasks sampleTimestamptz (cameraBindings boundAt) }

def midnight : Instant := 1767225600000000

theorem cameraTables_unprepared : ∃ state, Unprepared cameraTables "adapter" state 1 cameraRow := by
  have isState : ∃ state, cameraTables.sources.get? "adapter" = some state ∧
      cameraTables.firstRow "adapter" state.sourceStreamId InboxRow.isOpen =
        some (1, cameraRow) := ⟨_, rfl, rfl⟩
  obtain ⟨state, known, first⟩ := isState
  refine ⟨state, known, first, ?_, ?_⟩
  · decide
  · rfl

theorem cameraFact_stored : sampleTimestamptz "2026-01-01T00:00:00.0005Z" = midnight + 500 := by
  decide

/-- A binding that begins with the second holds the fact and its millisecond. -/
theorem prepareNextSourceEvent_relates_sample :
    ∃ tables next frozen, prepareNextSourceEvent (cameraReadings midnight) "adapter" cameraTables =
        .ok (.ready, tables) ∧
      tables.inbox.get? 1 = some next ∧ next.sourcePayload = some frozen ∧
      ∀ taskId, taskId ∈ frozen.candidateRelatedTaskIds ↔
        ∃ binding, (cameraBindings midnight).get? taskId = some binding ∧
          binding.resourceRef = "camera" ∧
          binding.contains (sampleTimestamptz "2026-01-01T00:00:00.0005Z") = true := by
  obtain ⟨state, unprepared⟩ := cameraTables_unprepared
  apply (prepareNextSourceEvent_relates_iff sampleTimestamptz (cameraBindings midnight)
    (cameraReadings midnight) rfl unprepared rfl rfl rfl rfl).mpr
  intro taskId binding found _
  rw [cameraFact_stored]
  have isBinding : binding.boundAt = midnight ∧ binding.terminalAt = none := by
    by_cases same : taskId = "task"
    · subst same
      cases found
      exact ⟨rfl, rfl⟩
    · rw [cameraBindings, get?_set_ne _ _ same] at found
      cases found
  rintro (⟨begins, -⟩ | ⟨-, terminal, isTerminal, -⟩)
  · rw [isBinding.1] at begins
    exact absurd begins (by decide)
  · rw [isBinding.2] at isTerminal
    cases isTerminal

theorem prepareNextSourceEvent_loses :
    normalizeRfc3339Nano cameraFact.occurredAt = .ok "2026-01-01T00:00:00.0005Z" ∧
    ¬∃ tables next frozen, prepareNextSourceEvent (cameraReadings (midnight + 500)) "adapter"
        cameraTables = .ok (.ready, tables) ∧
      tables.inbox.get? 1 = some next ∧ next.sourcePayload = some frozen ∧
      ∀ taskId, taskId ∈ frozen.candidateRelatedTaskIds ↔
        ∃ binding, (cameraBindings (midnight + 500)).get? taskId = some binding ∧
          binding.resourceRef = "camera" ∧
          binding.contains (sampleTimestamptz "2026-01-01T00:00:00.0005Z") = true := by
  obtain ⟨state, unprepared⟩ := cameraTables_unprepared
  constructor
  · decide
  · rintro ⟨tables, next, frozen, committed, found, isPayload, exactly⟩
    rw [prepareNextSourceEvent_of_resource _ unprepared rfl rfl rfl rfl] at committed
    cases committed
    have written (next : InboxRow) :
        (cameraTables.withRow 1 next).inbox.get? 1 = some next :=
      get?_set_self _ _ _
    rw [written] at found
    cases found
    cases isPayload
    have missed : "task" ∉ (cameraReadings (midnight + 500)).relatedTasks "camera"
        "2026-01-01T00:00:00.0005Z" := by
      decide +kernel
    apply missed
    apply (exactly "task").mpr
    refine ⟨_, get?_set_self _ _ _, rfl, ?_⟩
    decide

end BusinessEvents

end SdarRuntime
