import SdarRuntime.Runtime.RequiredStop
import SdarRuntime.Runtime.SnapshotOrder

/-!
The end a status read or a reconciliation writes for a cancelled execution. It is the
outcome of the required stop exactly when the row it started from, which was read before
the adapter was asked, already had the stop the task has when the snapshot is applied.
-/

namespace SdarRuntime

open Transaction

structure TaskRecord.StoppedAs (row : TaskRecord) (reason : StopReason) : Prop where
  internalState : row.internalState = .terminalCompleted
  outcome : resultOutcome row.result = some (.str reason.outcome)

def RepositoryCall.Applies {deployment : Deployment} (reading : SnapshotReading deployment)
    {β : Type} (call : RepositoryCall β) : Prop :=
  match call with
  | .applySnapshot adapterRevision transition inputRequests =>
    reading.snapshot.revision = adapterRevision ∧ reading.transition = transition ∧
      reading.inputRequests = inputRequests
  | _ => False

def RepositoryCall.isApplySnapshot {β : Type} (call : RepositoryCall β) : Bool :=
  match call with
  | .applySnapshot .. => true
  | _ => false

/-- A cancelled execution is applied to a live task with a required stop, and ends it: the end
is the stop's exactly when the reading knew of the stop. -/
def EndsAsRead (deployment : Deployment) (reading : SnapshotReading deployment)
    (executed : Invocation) (tables : TaskTables) : Prop :=
  reading.snapshot.state = "CANCELLED" → ∀ row ∈ tables.task,
    isTerminalState row.internalState = false → ∀ reason ∈ row.stopReason,
      reason.isRequired = true →
      ∀ row' ∈ (executed.effect.exec deployment executed.clock tables).2.task,
        isTerminalState row'.internalState = true →
          (row'.StoppedAs reason ↔ reading.task.stopReason = some reason)

theorem mergeStopState_terminal {row : TaskRecord} {transition : SnapshotTransition}
    (live : isTerminalState row.internalState = false)
    (terminal : isTerminalState (mergeStopState row transition).internalState = true) :
    mergeStopState row transition = transition := by
  unfold mergeStopState at terminal ⊢
  split at terminal
  · rename_i merged
    rw [if_pos merged]
  · rw [live] at terminal
    cases terminal

theorem applySnapshot_terminal {clocks : Clocks} {adapterRevision : Nat}
    {transition : SnapshotTransition} {inputRequests : List NewInputRequest}
    {before after : TaskTables} {answer row row' : TaskRecord} (found : before.task = some row)
    (live : isTerminalState row.internalState = false)
    (committed : applySnapshot clocks adapterRevision transition inputRequests before =
      .ok (answer, after))
    (found' : after.task = some row') (terminal : isTerminalState row'.internalState = true) :
    row'.internalState = transition.internalState ∧ row'.result = transition.result := by
  have ended {other : TaskRecord} (same : after.task = some other)
      (state : other.internalState = row.internalState) : False := by
    rw [found'] at same
    cases same
    rw [state, live] at terminal
    cases terminal
  obtain ⟨_, _, locked, committed⟩ := bind_eq_ok.mp committed
  obtain ⟨same, rfl⟩ := lockTask_eq_ok.mp locked
  rw [found] at same
  cases same
  split at committed
  · obtain ⟨-, rfl⟩ := pure_eq_ok.mp committed
    exact (ended found rfl).elim
  split at committed
  · obtain ⟨_, _, updated, committed⟩ := bind_eq_ok.mp committed
    obtain ⟨-, unchanged⟩ := lockTask_eq_ok.mp committed
    have same : after.task = before.task.map
        fun row => { row with lastConfirmedAt := some clocks.runtime } := by
      rw [← unchanged, ← update_eq_ok.mp updated]
    rw [found] at same
    exact (ended same rfl).elim
  obtain ⟨outcome, middle, transitioned, committed⟩ := bind_eq_ok.mp committed
  have rest : Respects SameTask (do
      upsertInputRequests inputRequests
      when (transition.terminal = true) do
        let exhausted ← updateCommands (fun row => row.state.isDeliverable) exhaustTerminal
        forEach exhausted fun row =>
          insertCommandFact row.sequence .exhausted .exhausted row.attemptCount
      pure outcome.row : Tx TaskRecord) :=
    respects_bind (sameTask_upsertInputRequests _) fun _ =>
      respects_bind (respects_when fun _ =>
        respects_bind (respects_updateCommands fun _ => ⟨rfl⟩) fun _ =>
          respects_forEach fun _ _ => respects_insertOutbox fun _ => ⟨rfl⟩) fun _ =>
        respects_pure _
  have same := (rest _ _ _ committed).task
  rcases transitionTask_eq_ok transitioned with ⟨_, -, -, rfl, -⟩ | ⟨other, applies, -, -, rfl⟩
  · exact (ended (same.trans found) rfl).elim
  · have isOther := applies.found
    rw [found] at isOther
    cases isOther
    rw [found'] at same
    cases same
    rw [TaskTransitionRequest.row_internalState] at terminal ⊢
    rw [TaskTransitionRequest.row_result]
    have merged := mergeStopState_terminal live terminal
    simp [snapshotUpdate, SnapshotTransition.update, merged]

theorem endsAsRead (deployment : Deployment) (reading : SnapshotReading deployment)
    (executed : Invocation) (tables : TaskTables) (applies : executed.effect.Applies reading) :
    EndsAsRead deployment reading executed tables := by
  obtain ⟨call, clocks⟩ := executed
  intro cancelled row found live reason stopped required row' found' terminal
  cases call with
  | applySnapshot adapterRevision transition inputRequests =>
    obtain ⟨rfl, rfl, rfl⟩ := applies
    have requires : reason ≠ .userRequested := by
      rintro rfl
      cases required
    change row' ∈ ((applySnapshot clocks _ _ _).commit tables).2.task at found'
    cases ran : applySnapshot clocks reading.snapshot.revision reading.transition
        reading.inputRequests tables with
    | error failure =>
      rw [commit_of_error ran] at found'
      rw [Option.mem_unique found' found, live] at terminal
      cases terminal
    | ok result =>
      obtain ⟨answer, after⟩ := result
      rw [commit_of_ok ran] at found'
      obtain ⟨state, result⟩ := applySnapshot_terminal found live ran found' terminal
      constructor
      · rintro ⟨completed, outcome⟩
        by_contra other
        by_cases known : ∃ reason', reading.task.stopReason = some reason' ∧
            reason' ≠ .userRequested
        · -- The outcome is that of the stop the reading knew of.
          obtain ⟨reason', isReason, requires'⟩ := known
          have readOutcome :=
            (stopTransition_required cancelled isReason requires' reading.transition_eq).2
          rw [result, readOutcome] at outcome
          rw [isReason] at other
          cases reason <;> cases reason' <;> simp_all [StopReason.outcome]
        · rw [state] at completed
          have unrequired := stopTransition_unrequired cancelled (fun reason' isReason => by
            by_contra requires'
            exact known ⟨reason', isReason, requires'⟩) reading.transition_eq
          rw [completed] at unrequired
          simp at unrequired
      · intro known
        obtain ⟨completed, outcome⟩ :=
          stopTransition_required cancelled known requires reading.transition_eq
        exact ⟨state.trans completed, result ▸ outcome⟩
  | _ => exact applies.elim

/-- Every snapshot a run applies is one that was read, and one of a cancelled execution ends a
task that must stop as the reading knew it. -/
theorem stoppedOutcome_iff_read (deployment : Deployment) (labels : List RuntimeLabel) :
    Runtime.Throughout deployment (System.OnCommit fun executed tables =>
        (executed.effect.isApplySnapshot = true →
          ∃ reading : SnapshotReading deployment, executed.effect.Applies reading) ∧
        ∀ reading : SnapshotReading deployment, executed.effect.Applies reading →
          EndsAsRead deployment reading executed tables)
      Runtime.initial labels := by
  refine System.throughout_mono (Runtime.throughout_licensed deployment labels)
    fun _ _ commits executed isExecuted => ⟨fun applies => ?_, fun reading applies =>
      endsAsRead deployment reading executed _ applies⟩
  obtain ⟨-, isLicensed⟩ := commits executed isExecuted
  obtain ⟨call, clocks⟩ := executed
  cases call with
  | applySnapshot adapterRevision transition inputRequests =>
    obtain ⟨reading, same⟩ : ∃ reading : SnapshotReading deployment, reading.apply =
        .applySnapshot adapterRevision transition inputRequests := by
      simpa [RepositoryCall.Licensed, RepositoryCall.OfCaller, RepositoryCall.OfTick,
        RepositoryCall.isBackground, RepositoryCall.OfAttempt] using isLicensed
    injection same with revision derived requests
    exact ⟨reading, revision, derived, requests⟩
  | _ => cases applies

namespace Sample

/-- A status read asks the adapter, and the deadline passes before the answer. -/
def overtaken : List RuntimeLabel :=
  published "RUNNING" 1 ++ [.spawn (.getTask authorization)] ++ perform 1 2 9 ++ [.send 1] ++
    deadlinePasses 2

end Sample

open Sample in
/-- The task must stop for its deadline when the read applies a cancelled execution, and it ends
cancelled: the row of the read had no stop yet. -/
theorem stoppedOutcome_overtaken :
    (∃ row ∈ (run overtaken).store.task, isTerminalState row.internalState = false ∧
      row.stopReason = some .deadlineReached) ∧
    ∃ row ∈ (run (overtaken ++ [.answer 1 (.snapshot (snapshot "CANCELLED" 2))] ++
        perform 1 2 11)).store.task, row.internalState = .terminalCancelled := by
  decide +kernel

end SdarRuntime
