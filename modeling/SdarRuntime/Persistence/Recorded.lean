import SdarRuntime.Persistence.Lifecycle

/-!
What every history of calls keeps about the commands and the outbox: each command has a
sequence of its own, no larger than the counter of its task; an event under an adapter
revision says the revision was recorded; and the event of an unconfirmed stop says the task
has failed.
-/

namespace SdarRuntime

open Transaction

structure TaskTables.Recorded (tables : TaskTables) : Prop where
  sequenced : tables.Sequenced
  numbered : ∀ row ∈ tables.commands, ∃ task, tables.task = some task ∧
    row.sequence ≤ task.nextCommandSequence
  adapter : ∀ revision, .adapter revision ∈ tables.outbox → ∃ task, tables.task = some task ∧
    revision ≤ task.adapterRevision
  failed : ∀ sequence, .safeStopFailed sequence ∈ tables.outbox → ∃ task,
    tables.task = some task ∧ isTerminalState task.internalState = true

structure TaskTransitionRequest.RecordsKey (request : TaskTransitionRequest) : Prop where
  adapter : ∀ revision, request.eventKey = .adapter revision →
    request.update.adapterRevision = some revision
  failed : ∀ sequence, request.eventKey = .safeStopFailed sequence →
    ∃ state, request.update.internalState = some state ∧ isTerminalState state = true

def recording : StepKind :=
  { fits := TaskTransitionRequest.RecordsKey
    command := CommandRow.SameCommand
    creates := fun _ => True }

theorem TaskTransitionRequest.recordsKey_of_plain {request : TaskTransitionRequest}
    (plain : request.eventKey.isPlain = true) : request.RecordsKey := by
  refine ⟨fun revision key => ?_, fun sequence key => ?_⟩
  · rw [key] at plain
    cases plain
  · rw [key] at plain
    cases plain

theorem recording_admits (clocks : Clocks) : recording.AdmitsAll clocks where
  ordinary request ordinary := by
    rcases ordinary.key with plain | ⟨revision, key, recorded⟩
    · exact request.recordsKey_of_plain plain
    · refine ⟨fun revision' key' => ?_, fun sequence key' => ?_⟩
      · rw [key] at key'
        cases key'
        exact recorded
      · rw [key] at key'
        cases key'
  drives _ _ drives := drives.toSameCommand
  creates _ _ _ := trivial
  requires request requires := request.recordsKey_of_plain requires.key
  keeps _ _ keeps := keeps.toSameCommand
  fails request fails := by
    obtain ⟨sequence, key⟩ := fails.key
    refine ⟨fun revision key' => ?_, fun sequence' _ => ⟨_, fails.internalState, rfl⟩⟩
    rw [key] at key'
    cases key'
  requests request requests := request.recordsKey_of_plain requests.key
  withdraws request withdraws := by
    obtain ⟨sequence, key⟩ := withdraws.key
    refine ⟨fun revision key' => ?_, fun sequence' key' => ?_⟩
    · rw [key] at key'
      cases key'
    · rw [key] at key'
      cases key'
  claims _ _ _ _ _ := ⟨rfl, rfl, rfl, fun _ => rfl⟩
  createsAny _ _ _ _ := trivial

theorem sequence_fresh {row : CommandRow} {commands : List CommandRow}
    (fresh : commandConflict row commands = none) :
    ∀ other ∈ commands, other.sequence ≠ row.sequence := by
  intro other member same
  have taken : (commands.any fun other => other.sequence == row.sequence) = true :=
    List.any_eq_true.mpr ⟨other, member, by simp [same]⟩
  simp [commandConflict, taken] at fresh

private theorem recorded_of_row {before after : TaskTables} (recorded : before.Recorded)
    (commands : after.commands = before.commands) (outbox : after.outbox = before.outbox)
    (moves : ∀ task, before.task = some task → ∃ task', after.task = some task' ∧
      task.nextCommandSequence ≤ task'.nextCommandSequence ∧
      task.adapterRevision ≤ task'.adapterRevision ∧
      (isTerminalState task.internalState = true → isTerminalState task'.internalState = true)) :
    after.Recorded where
  sequenced := by
    unfold TaskTables.Sequenced
    rw [commands]
    exact recorded.sequenced
  numbered row member := by
    rw [commands] at member
    obtain ⟨task, found, numbered⟩ := recorded.numbered row member
    obtain ⟨task', found', sequence, -⟩ := moves task found
    exact ⟨task', found', numbered.trans sequence⟩
  adapter revision member := by
    rw [outbox] at member
    obtain ⟨task, found, bound⟩ := recorded.adapter revision member
    obtain ⟨task', found', -, recordedRevision, -⟩ := moves task found
    exact ⟨task', found', bound.trans recordedRevision⟩
  failed sequence member := by
    rw [outbox] at member
    obtain ⟨task, found, terminal⟩ := recorded.failed sequence member
    obtain ⟨task', found', -, -, ended⟩ := moves task found
    exact ⟨task', found', ended terminal⟩

private theorem recorded_apply {request : TaskTransitionRequest} {row : TaskRecord}
    {before : TaskTables} (applies : Applies request row before) (records : request.RecordsKey)
    (recorded : before.Recorded) : (before.apply request row).Recorded := by
  have succeeds := applies.succeeds
  refine ⟨recorded.sequenced, fun command member => ?_, fun revision member => ?_,
    fun sequence member => ?_⟩
  · obtain ⟨task, found, numbered⟩ := recorded.numbered command member
    rw [applies.found] at found
    cases found
    exact ⟨_, rfl, by simpa using numbered⟩
  · refine ⟨_, rfl, ?_⟩
    rcases List.mem_append.mp member with known | new
    · obtain ⟨task, found, bound⟩ := recorded.adapter revision known
      rw [applies.found] at found
      cases found
      exact bound.trans succeeds.adapterRevision
    · have key := records.adapter revision (List.mem_singleton.mp new).symm
      simp [key]
  · refine ⟨_, rfl, ?_⟩
    rcases List.mem_append.mp member with known | new
    · obtain ⟨task, found, terminal⟩ := recorded.failed sequence known
      rw [applies.found] at found
      cases found
      rw [applies.live] at terminal
      cases terminal
    · obtain ⟨state, ends, terminal⟩ := records.failed sequence (List.mem_singleton.mp new).symm
      simpa [ends] using terminal

theorem Step.sequenced {kind : StepKind} (same : ∀ row row' : CommandRow,
      kind.command row row' → row'.sequence = row.sequence)
    {before after : TaskTables} (step : Step kind before after) (sequenced : before.Sequenced) :
    after.Sequenced := by
  cases step with
  | transition | aside | publish | elsewhere => exact sequenced
  | commands change permitted =>
    have sequences : (before.commands.map change).map CommandRow.sequence =
        before.commands.map CommandRow.sequence := by
      rw [List.map_map]
      exact List.map_congr_left fun row member => same _ _ (permitted sequenced row member)
    unfold TaskTables.Sequenced
    rw [sequences]
    exact sequenced
  | insertCommand row created fresh numbered =>
    have fresh := sequence_fresh fresh
    unfold TaskTables.Sequenced
    rw [List.map_append, List.map_singleton, List.nodup_append]
    refine ⟨sequenced, List.nodup_singleton _, ?_⟩
    rintro sequence member _ isNew rfl
    obtain ⟨other, isOther, rfl⟩ := List.mem_map.mp member
    exact fresh other isOther (List.mem_singleton.mp isNew)

theorem Step.recorded {before after : TaskTables} (step : Step recording before after)
    (recorded : before.Recorded) : after.Recorded := by
  have sequenced := step.sequenced fun _ _ => CommandRow.SameCommand.sequence
  cases step with
  | transition request row applies fits => exact recorded_apply applies fits recorded
  | aside change aside =>
    refine recorded_of_row recorded rfl rfl fun task found => ⟨change task, by simp [found],
      (aside task).sequence, le_of_eq (aside task).adapterRevision.symm, fun terminal => ?_⟩
    rw [(aside task).internalState, terminal]
  | publish row observations unpublished publishes =>
    refine recorded_of_row recorded rfl rfl fun task found => ?_
    rw [unpublished] at found
    cases found
  | commands change permitted =>
    have kept := sequenced recorded.sequenced
    refine ⟨kept, fun row' member => ?_, recorded.adapter, recorded.failed⟩
    obtain ⟨row, isRow, rfl⟩ := List.mem_map.mp member
    rw [(permitted recorded.sequenced row isRow).sequence]
    exact recorded.numbered row isRow
  | insertCommand row created fresh numbered =>
    have kept := sequenced recorded.sequenced
    refine ⟨kept, fun other member => ?_, recorded.adapter, recorded.failed⟩
    rcases List.mem_append.mp member with known | new
    · exact recorded.numbered other known
    · obtain ⟨task, found, same⟩ := numbered
      rw [List.mem_singleton.mp new]
      exact ⟨task, found, le_of_eq same⟩
  | elsewhere admission uncertainty audit outbox inputRequests inbox plain =>
    refine ⟨recorded.sequenced, recorded.numbered, fun revision member => ?_,
      fun sequence member => ?_⟩
    · exact recorded.adapter revision ((plain _ member).resolve_right (by simp [EventKey.isPlain]))
    · exact recorded.failed sequence ((plain _ member).resolve_right (by simp [EventKey.isPlain]))

theorem TaskTables.recorded_empty : TaskTables.empty.Recorded where
  sequenced := List.nodup_nil
  numbered _ member := nomatch member
  adapter _ member := nomatch member
  failed _ member := nomatch member

theorem RepositoryCall.recorded (deployment : Deployment) (clocks : Clocks) {β : Type}
    (call : RepositoryCall β) {tables : TaskTables} (recorded : tables.Recorded) :
    (call.exec deployment clocks tables).2.Recorded :=
  commit_keeps recorded fun _ _ committed =>
    (respects_all (recording_admits clocks) deployment call).keeps (fun _ _ step => step.recorded)
      committed recorded

end SdarRuntime
