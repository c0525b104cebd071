import SdarRuntime.Runtime.Attempts
import SdarRuntime.Runtime.Sample

/-!
What a snapshot older than the recorded revision does to the state a task shows. Every
source of snapshots leaves it alone but one: an attempt whose cancellation was refused
applies what the adapter reported, however old that is.
-/

namespace SdarRuntime

open Transaction

structure TaskRecord.ShowsAs (row' row : TaskRecord) : Prop where
  internalState : row'.internalState = row.internalState
  mcpStatus : row'.mcpStatus = row.mcpStatus
  substate : row'.substate = row.substate
  result : row'.result = row.result
  error : row'.error = row.error

/-- The revision of the snapshot a call derives its transition from. -/
def RepositoryCall.snapshotRevision {β : Type} (call : RepositoryCall β) : Option Nat :=
  match call with
  | .publishAccepted input => some input.adapterRevision
  | .acceptScheduled input => some input.adapterRevision
  | .applySnapshot adapterRevision _ _ => some adapterRevision
  | .confirmBoundExecutionStarted _ adapterRevision _ _ => some adapterRevision
  | .rejectUserCancel _ adapterRevision _ _ => some adapterRevision
  | _ => none

def RepositoryCall.missesWindow {β : Type} (call : RepositoryCall β) : Bool :=
  match call with
  | .acceptScheduled input => input.startWindowMissedAt.isSome
  | _ => false

/-- A call with a snapshot older than the recorded revision leaves what the task shows as it
is; it may still stop a task that missed its start window. -/
def KeepsNewer (deployment : Deployment) (executed : Invocation) (tables : TaskTables) : Prop :=
  ∀ revision ∈ executed.effect.snapshotRevision, ∀ row ∈ tables.task,
    revision < row.adapterRevision →
      ∃ row' ∈ (executed.effect.exec deployment executed.clock tables).2.task,
        row'.ShowsAs row ∨
          executed.effect.missesWindow = true ∧ row'.internalState = .stopping

/-- An attempt that holds the claim of its CANCEL records the refusal of a live task's
cancellation for the first time, with a snapshot older than the recorded revision. -/
def RepositoryCall.refusesWithOlder {β : Type} (call : RepositoryCall β) (tables : TaskTables) :
    Bool :=
  match call with
  | .rejectUserCancel command adapterRevision _ _ =>
    tables.task.any (fun row => !isTerminalState row.internalState &&
      decide (adapterRevision < row.adapterRevision)) &&
    !tables.outbox.contains (.cancelRejected command.commandSequence) &&
    tables.commands.any fun row => row.claimedBy command.commandSequence command.claimOwner
  | _ => false

theorem TaskRecord.ShowsAs.refl (row : TaskRecord) : row.ShowsAs row := ⟨rfl, rfl, rfl, rfl, rfl⟩

structure SameTask (before after : TaskTables) : Prop where
  task : after.task = before.task

instance : Std.Refl SameTask := ⟨fun _ => ⟨rfl⟩⟩

instance : IsTrans TaskTables SameTask where
  trans _ _ _ earlier later := ⟨later.task.trans earlier.task⟩

theorem sameTask_upsertInputRequests (inputRequests : List NewInputRequest) :
    Respects SameTask (upsertInputRequests inputRequests) := by
  refine respects_forEach fun input _ => respects_bind respects_read fun tables => ?_
  split
  · exact respects_update fun _ => ⟨rfl⟩
  · refine respects_ite (fun _ => ?_) fun _ => respects_abort _
    exact respects_bind (respects_updateInputRequests fun _ => ⟨rfl⟩) fun _ => respects_pure _

theorem sameTask_updateAdmission {change : AdmissionIntentRecord → AdmissionIntentRecord} :
    Respects SameTask (updateAdmission change) :=
  respects_updateAdmission fun _ => ⟨rfl⟩

variable {env : Environment} {clocks : Clocks} {requestedAt : Instant} {before after : TaskTables}

/-- The CANCEL of a missed window counts as a command of the task and changes nothing else of
its row. -/
theorem startWindowCommand_task {previous row : TaskRecord} {existing : Option CommandRow}
    {sequence : Nat} (found : before.task = some row)
    (committed : startWindowCommand env clocks requestedAt previous existing before =
      .ok (sequence, after)) : ∃ row', after.task = some row' ∧ row'.ShowsAs row := by
  cases existing with
  | none =>
    obtain ⟨task, isTask, -, committed⟩ := createCommand_eq_ok committed
    obtain ⟨-, rfl⟩ := pure_eq_ok.mp committed
    rw [found] at isTask
    cases isTask
    exact ⟨_, rfl, ⟨rfl, rfl, rfl, rfl, rfl⟩⟩
  | some command =>
    have same : Respects SameTask (startWindowCommand env clocks requestedAt previous
        (some command)) :=
      respects_bind (respects_when fun _ =>
        respects_bind (respects_updateCommands fun _ => ⟨rfl⟩) fun _ => respects_pure _)
        fun _ => respects_pure _
    exact ⟨row, (same _ _ _ committed).task.trans found, .refl row⟩

def KeepsOrStops (row : TaskRecord) (after : TaskTables) : Prop :=
  ∃ row', after.task = some row' ∧ (row'.ShowsAs row ∨ row'.internalState = .stopping)

variable {row : TaskRecord}

theorem persistStartWindowStop_keepsOrStops {answer : Unit} (found : before.task = some row)
    (committed : persistStartWindowStop env clocks requestedAt before = .ok (answer, after)) :
    KeepsOrStops row after := by
  obtain ⟨_, _, locked, committed⟩ := bind_eq_ok.mp committed
  obtain ⟨-, rfl⟩ := lockTask_eq_ok.mp locked
  split at committed
  · obtain ⟨-, rfl⟩ := pure_eq_ok.mp committed
    exact ⟨row, found, .inl (.refl row)⟩
  split at committed
  · exact (abort_eq_ok.mp committed).elim
  obtain ⟨_, _, isRead, committed⟩ := bind_eq_ok.mp committed
  obtain ⟨rfl, rfl⟩ := read_eq_ok.mp isRead
  obtain ⟨sequence, middle, commanded, committed⟩ := bind_eq_ok.mp committed
  obtain ⟨row', found', shows⟩ := startWindowCommand_task found commanded
  obtain ⟨outcome, moved, transitioned, committed⟩ := bind_eq_ok.mp committed
  have rest : Respects SameTask (when (newestCommand CommandRow.isActiveStop before.commands = none)
      (insertCommandFact sequence .created .pending 0)) :=
    respects_when fun _ => respects_insertOutbox fun _ => ⟨rfl⟩
  have same := (rest _ _ _ committed).task
  rcases transitionTask_eq_ok transitioned with ⟨_, -, -, rfl, -⟩ | ⟨other, applies, -, -, rfl⟩
  · exact ⟨row', same.trans found', .inl shows⟩
  · exact ⟨_, same, .inr (by simp)⟩

variable {answer : TaskRecord}

theorem acceptScheduled_keepsNewer {input : AcceptScheduledInput} (found : before.task = some row)
    (older : input.adapterRevision < row.adapterRevision)
    (committed : acceptScheduled env clocks input before = .ok (answer, after)) :
    ∃ row', after.task = some row' ∧ (row'.ShowsAs row ∨
      input.startWindowMissedAt.isSome = true ∧ row'.internalState = .stopping) := by
  obtain ⟨_, _, locked, committed⟩ := bind_eq_ok.mp committed
  obtain ⟨⟨same, -⟩, rfl⟩ := lockClaimed_eq_ok.mp locked
  rw [found] at same
  cases same
  obtain ⟨outcome, _, transitioned, committed⟩ := bind_eq_ok.mp committed
  rw [transitionTask_stale found rfl (le_of_lt older) transitioned] at committed
  obtain ⟨_, stopped, stops, committed⟩ := bind_eq_ok.mp committed
  have rest : Respects SameTask (do
      upsertInputRequests input.inputRequests
      updateAdmission fun row => { row with state := .published }
      lockTask) :=
    respects_bind (sameTask_upsertInputRequests _) fun _ =>
      respects_bind sameTask_updateAdmission fun _ => respects_lockTask
  have same := (rest _ _ _ committed).task
  cases missed : input.startWindowMissedAt with
  | none =>
    rw [missed] at stops
    obtain ⟨-, rfl⟩ := pure_eq_ok.mp stops
    exact ⟨row, same.trans found, .inl (.refl row)⟩
  | some missedAt =>
    rw [missed] at stops
    obtain ⟨row', found', either⟩ := persistStartWindowStop_keepsOrStops found stops
    exact ⟨row', same.trans found', either.imp_right fun stopping => ⟨rfl, stopping⟩⟩

variable {adapterRevision : Nat} {transition : SnapshotTransition}

theorem confirmBoundExecutionStarted_keepsNewer {claimOwner : String} {confirmedAt : Instant}
    (found : before.task = some row) (older : adapterRevision < row.adapterRevision)
    (committed : confirmBoundExecutionStarted claimOwner adapterRevision transition confirmedAt
      before = .ok (answer, after)) : after.task = some row := by
  obtain ⟨_, _, locked, committed⟩ := bind_eq_ok.mp committed
  obtain ⟨⟨same, -⟩, rfl⟩ := lockClaimed_eq_ok.mp locked
  rw [found] at same
  cases same
  obtain ⟨outcome, _, transitioned, committed⟩ := bind_eq_ok.mp committed
  obtain ⟨-, rfl⟩ := pure_eq_ok.mp committed
  rw [transitionTask_stale found rfl (max_le (le_of_lt older) le_rfl) transitioned, found]

theorem applySnapshot_keepsNewer {inputRequests : List NewInputRequest}
    (found : before.task = some row) (older : adapterRevision < row.adapterRevision)
    (committed : applySnapshot clocks adapterRevision transition inputRequests before =
      .ok (answer, after)) : after.task = some row := by
  obtain ⟨_, _, locked, committed⟩ := bind_eq_ok.mp committed
  obtain ⟨same, rfl⟩ := lockTask_eq_ok.mp locked
  rw [found] at same
  cases same
  rw [if_pos (.inr older)] at committed
  obtain ⟨-, rfl⟩ := pure_eq_ok.mp committed
  exact found

theorem rejectUserCancel_keepsNewer {command : PendingCommandRecord} {ack : CommandAck}
    (found : before.task = some row) (known : isTerminalState row.internalState = false →
      .cancelRejected command.commandSequence ∈ before.outbox ∨ ∀ other ∈ before.commands,
        other.claimedBy command.commandSequence command.claimOwner = false)
    (committed : rejectUserCancel clocks command adapterRevision transition ack before =
      .ok (answer, after)) : after.task = some row := by
  obtain ⟨_, _, locked, committed⟩ := bind_eq_ok.mp committed
  obtain ⟨same, rfl⟩ := lockTask_eq_ok.mp locked
  rw [found] at same
  cases same
  have fact (event : CommandEvent) (state : CommandState) (answer : TaskRecord) :
      Respects SameTask (do
        insertCommandFact command.commandSequence event state command.attemptCount
        pure answer : Tx TaskRecord) :=
    respects_bind (respects_insertOutbox fun _ => ⟨rfl⟩) fun _ => respects_pure _
  cases live : isTerminalState row.internalState with
  | true =>
    rw [live, if_pos rfl] at committed
    obtain ⟨_, _, updated, committed⟩ := bind_eq_ok.mp committed
    obtain ⟨-, rfl⟩ := updateCommands_eq_ok.mp updated
    exact (fact _ _ _ _ _ _ committed).task.trans found
  | false =>
    rw [live, if_neg Bool.false_ne_true] at committed
    obtain ⟨outcome, moved, transitioned, committed⟩ := bind_eq_ok.mp committed
    obtain ⟨_, _, settles, committed⟩ := bind_eq_ok.mp committed
    obtain ⟨⟨claimed, member, isClaimed, -⟩, rfl⟩ := changeClaimed_eq_ok settles
    have same := (fact _ _ _ _ _ _ committed).task
    rcases transitionTask_eq_ok transitioned with
      ⟨_, -, -, rfl, -⟩ | ⟨other, applies, -, -, rfl⟩
    · exact same.trans found
    · rcases known live with isKnown | lost
      · exact absurd isKnown applies.fresh
      · rw [lost claimed member] at isClaimed
        cases isClaimed

theorem keepsNewer_of_call (deployment : Deployment) (executed : Invocation)
    (tables : TaskTables) (inOrder : executed.effect.refusesWithOlder tables = false) :
    KeepsNewer deployment executed tables := by
  obtain ⟨call, clocks⟩ := executed
  intro revision isRevision row isRow older
  have found : tables.task = some row := isRow
  change ∃ row' ∈ ((call.tx deployment clocks).commit tables).2.task, _
  cases ran : call.tx deployment clocks tables with
  | error failure =>
    rw [commit_of_error ran]
    exact ⟨row, found, .inl (.refl row)⟩
  | ok result =>
    obtain ⟨answer, after⟩ := result
    rw [commit_of_ok ran]
    have kept (same : after.task = some row) : ∃ row' ∈ after.task, row'.ShowsAs row ∨
        call.missesWindow = true ∧ row'.internalState = .stopping :=
      ⟨row, same, .inl (.refl row)⟩
    cases call with
    | publishAccepted input =>
      refine kept ?_
      obtain ⟨_, _, isRead, ran⟩ := bind_eq_ok.mp ran
      obtain ⟨rfl, rfl⟩ := read_eq_ok.mp isRead
      simp only [found] at ran
      split at ran
      · exact (abort_eq_ok.mp ran).elim
      · obtain ⟨-, rfl⟩ := pure_eq_ok.mp ran
        exact found
    | acceptScheduled input =>
      cases isRevision
      exact acceptScheduled_keepsNewer found older ran
    | applySnapshot adapterRevision transition inputRequests =>
      cases isRevision
      exact kept (applySnapshot_keepsNewer found older ran)
    | confirmBoundExecutionStarted claimOwner adapterRevision transition confirmedAt =>
      cases isRevision
      exact kept (confirmBoundExecutionStarted_keepsNewer found older ran)
    | rejectUserCancel command adapterRevision transition ack =>
      cases isRevision
      refine kept (rejectUserCancel_keepsNewer found (fun live => ?_) ran)
      simpa [RepositoryCall.refusesWithOlder, found, live, older, imp_iff_not_or] using inOrder
    | _ => cases isRevision

/-- In a run without such refusals no snapshot that is older than the recorded revision changes
what the task shows. -/
theorem shownState_inOrder (deployment : Deployment) (labels : List RuntimeLabel)
    (inOrder : Runtime.Throughout deployment
      (System.OnCommit fun executed tables => executed.effect.refusesWithOlder tables = false)
      Runtime.initial labels) :
    Runtime.Throughout deployment (System.OnCommit (KeepsNewer deployment)) Runtime.initial
      labels :=
  System.throughout_mono inOrder fun _ _ inOrder executed commits =>
    keepsNewer_of_call deployment executed _ (inOrder executed commits)

namespace Sample

/-- The task is PAUSED at revision seven when a user cancels it. The adapter refuses, and the
reconciliation answers with a snapshot that was on its way since revision five. -/
def olderRefusal : List RuntimeLabel :=
  published "PAUSED" 7 ++ (.spawn (.cancelTask authorization) :: perform 1 3 2) ++
    (.spawn (.tick worker true true) :: perform 2 11 3) ++ exchange 2 (ack false "NO" 1) ++
    perform 2 2 3 ++ exchange 2 (found "RUNNING" 5) ++ perform 2 3 3

end Sample

open Sample in
theorem shownState_inOrder_sample :
    Runtime.Throughout deployment (System.OnCommit (KeepsNewer deployment)) Runtime.initial
      (published "PAUSED" 7 ++ [.spawn (.getTask authorization)] ++ perform 1 2 2 ++
        exchange 1 (.snapshot (snapshot "RUNNING" 5)) ++ perform 1 2 2) :=
  shownState_inOrder deployment _ (by decide +kernel)

open Sample in
/-- After the refusal the task, whose recorded revision is seven, runs as it did at five. -/
theorem shownState_outOfOrder :
    ¬∀ (deployment : Deployment) (labels : List RuntimeLabel),
      Runtime.Throughout deployment (System.OnCommit (KeepsNewer deployment)) Runtime.initial
        labels := by
  intro keeps
  have shown : Runtime.Throughout deployment (System.OnCommit fun executed tables =>
      ∀ revision ∈ executed.effect.snapshotRevision, ∀ row ∈ tables.task,
        revision < row.adapterRevision →
          ∃ row' ∈ (executed.effect.exec deployment executed.clock tables).2.task,
            row'.internalState = row.internalState ∨
              executed.effect.missesWindow = true ∧ row'.internalState = .stopping)
      Runtime.initial olderRefusal := by
    refine System.throughout_mono (keeps deployment olderRefusal) ?_
    intro _ _ keeps executed commits revision isRevision row isRow older
    obtain ⟨row', isRow', either⟩ := keeps executed commits revision isRevision row isRow older
    exact ⟨row', isRow', either.imp_left TaskRecord.ShowsAs.internalState⟩
  exact absurd shown (by decide +kernel)

end SdarRuntime
