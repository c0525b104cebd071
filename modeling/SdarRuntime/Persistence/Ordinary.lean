import SdarRuntime.Persistence.Steps

/-!
The calls that take ordinary steps only: admission and its recovery, scheduled starts and
their confirmation, recovery notes, retention, and everything that only reads.
-/

namespace SdarRuntime

open Transaction

private theorem ordinary_transitionTask {request : TaskTransitionRequest}
    (ordinary : request.Ordinary) : Respects OrdinarySteps (transitionTask request) :=
  respects_transitionTask fun _ row applies => .single (.transition request row applies ordinary)

private theorem ordinary_updateTaskRow {change : TaskRecord → TaskRecord}
    (aside : ∀ row, Aside row (change row)) : Respects OrdinarySteps (updateTaskRow change) :=
  respects_updateTaskRow fun _ => .single (.aside change aside)

private theorem ordinary_insertOutbox {key : EventKey} (plain : key.isPlain = true) :
    Respects OrdinarySteps (insertOutbox key) :=
  respects_insertOutbox fun _ => .single (.announce key plain)

theorem ordinary_updateAdmission {change : AdmissionIntentRecord → AdmissionIntentRecord} :
    Respects OrdinarySteps (updateAdmission change) :=
  respects_updateAdmission fun before =>
    .single (.admission (before.admission.map change) before.uncertainty before.reconciliationAudit)

theorem ordinary_upsertInputRequest (input : NewInputRequest) :
    Respects OrdinarySteps (upsertInputRequest input) := by
  refine respects_read_bind fun before answer after committed => ?_
  cases found : before.inputRequests.find? fun row => row.key == input.key with
  | none =>
    simp only [found] at committed
    rw [← update_eq_ok.mp committed]
    refine .single (.opens _ ⟨fun other member same => ?_, rfl⟩)
    have absent := List.find?_eq_none.mp found other member
    simp [same] at absent
  | some row =>
    simp only [found] at committed
    refine respects_ite (R := OrdinarySteps) (fun _ => ?_) (fun _ => respects_abort _) _ _ _
      committed
    refine respects_bind (respects_updateInputRequests fun before => .single (.describes _ ?_))
      fun _ => respects_pure ()
    intro other
    split
    · exact ⟨rfl, rfl, rfl⟩
    · exact ⟨rfl, rfl, rfl⟩

theorem ordinary_upsertInputRequests (inputRequests : List NewInputRequest) :
    Respects OrdinarySteps (upsertInputRequests inputRequests) :=
  respects_forEach fun input _ => ordinary_upsertInputRequest input

theorem ordinary_lockClaimed (state : InternalTaskState) (claimOwner lost : String) :
    Respects OrdinarySteps (lockClaimed state claimOwner lost) := by
  refine respects_bind respects_read fun tables => ?_
  split
  · exact respects_ite (fun _ => respects_pure _) fun _ => respects_abort _
  · exact respects_abort _

theorem ordinary_createAdmissionIntent (input : AdmissionIntentInput) :
    Respects OrdinarySteps (createAdmissionIntent input) := by
  refine respects_bind respects_read fun tables => ?_
  split
  · exact respects_pure _
  · exact respects_bind (respects_update fun before => .single
      (.admission (some { intent := input, state := .pending }) before.uncertainty
        before.reconciliationAudit)) fun _ => respects_pure _

theorem ordinary_markAdmissionUncertain (clocks : Clocks) (uncertaintyClass : String)
    (causalRefs : List String) :
    Respects OrdinarySteps (markAdmissionUncertain clocks uncertaintyClass causalRefs) := by
  refine respects_bind respects_read fun tables => ?_
  split
  · exact respects_abort _
  · refine respects_ite (fun _ => respects_pure _) fun _ => ?_
    exact respects_bind ordinary_updateAdmission fun _ => respects_update fun before => .single
      (.admission before.admission _ before.reconciliationAudit)

theorem ordinary_recordReconciliationResult (status : String)
    (externalExecutionId : Option String) (identityValidated : Bool) (occurredAt : Instant) :
    Respects OrdinarySteps
      (recordReconciliationResult status externalExecutionId identityValidated occurredAt) := by
  refine respects_bind respects_read fun tables => ?_
  split
  · exact respects_abort _
  · exact respects_update fun before => .single
      (.admission before.admission before.uncertainty _)

variable {input : AdmissionIntentInput} {before after : TaskTables} {answer : Unit}

theorem materializeTaskResourceBinding_eq_ok
    (committed : materializeTaskResourceBinding input before = .ok (answer, after)) :
    before = after := by
  have checks : Respects Eq (materializeTaskResourceBinding input) := by
    unfold materializeTaskResourceBinding
    dsimp only
    split
    · exact respects_pure ()
    · refine respects_ite (fun _ => respects_pure ()) fun _ => ?_
      split
      · exact respects_abort _
      · split
        · exact respects_abort _
        · exact respects_ite (fun _ => respects_pure ()) fun _ => respects_abort _
  exact checks before answer after committed

variable {clocks : Clocks}

theorem insertAcceptedTask_step {input : PublishTaskInput} (unpublished : before.task = none)
    (committed : insertAcceptedTask clocks input before = .ok (answer, after)) :
    OrdinaryStep before after := by
  simp only [insertAcceptedTask, bind_eq_ok, update_eq_ok] at committed
  obtain ⟨_, _, rfl, _, _, materialized, committed⟩ := committed
  rw [← materializeTaskResourceBinding_eq_ok materialized] at committed
  simp only [insertFirstObservation, bind_eq_ok, read_eq_ok, when] at committed
  obtain ⟨_, _, ⟨rfl, rfl⟩, committed⟩ := committed
  split at committed
  · rw [← update_eq_ok.mp committed]
    exact .publish _ _ unpublished ⟨rfl, rfl, fun empty => ⟨_, by rw [empty]; rfl, rfl⟩⟩
  · rename_i present
    obtain ⟨-, rfl⟩ := pure_eq_ok.mp committed
    exact .publish _ _ unpublished ⟨rfl, rfl, fun empty => (present (by rw [empty]; rfl)).elim⟩

theorem insertScheduledTask_step (unpublished : before.task = none)
    (committed : insertScheduledTask clocks input before = .ok (answer, after)) :
    OrdinaryStep before after := by
  simp only [insertScheduledTask, bind_eq_ok, update_eq_ok] at committed
  obtain ⟨_, _, rfl, _, _, materialized, committed⟩ := committed
  rw [← materializeTaskResourceBinding_eq_ok materialized] at committed
  simp only [insertTaskObservation, bind_eq_ok, read_eq_ok] at committed
  obtain ⟨_, _, ⟨rfl, rfl⟩, committed⟩ := committed
  split at committed
  · exact (abort_eq_ok.mp committed).elim
  · rw [← update_eq_ok.mp committed]
    exact .publish _ _ unpublished ⟨rfl, rfl, fun empty => ⟨_, by rw [empty]; rfl, rfl⟩⟩

theorem ordinary_publishScheduled (clocks : Clocks) (input : AdmissionIntentInput) :
    Respects OrdinarySteps (publishScheduled clocks input) := by
  refine respects_read_bind fun before answer after committed => ?_
  cases unpublished : before.task with
  | some row =>
    simp only [unpublished] at committed
    exact (abort_eq_ok.mp committed).elim
  | none =>
    simp only [unpublished] at committed
    obtain ⟨_, inserted, insertion, committed⟩ := bind_eq_ok.mp committed
    have rest : Respects OrdinarySteps (do
        insertOutbox .created
        updateAdmission fun row => { row with state := .published }
        lockTask) :=
      respects_bind (ordinary_insertOutbox rfl) fun _ =>
        respects_bind ordinary_updateAdmission fun _ => respects_lockTask
    exact .head (insertScheduledTask_step unpublished insertion) (rest _ _ _ committed)

section Windows

variable {R : TaskTables → TaskTables → Prop} [Std.Refl R]
variable {env : Environment} {clocks : Clocks}
variable (stops : ∀ requestedAt, Respects R (persistStartWindowStop env clocks requestedAt))
include stops

theorem respects_stopMissedWindow (missedAt : Option Instant) :
    Respects R (stopMissedWindow env clocks missedAt) := by
  cases missedAt with
  | none => exact respects_pure _
  | some missedAt => exact stops missedAt

variable [IsTrans TaskTables R]
variable (ordinary : ∀ before after, OrdinaryStep before after → R before after)
include ordinary

theorem respects_publishAccepted (input : PublishTaskInput) :
    Respects R (publishAccepted env clocks input) := by
  refine respects_read_bind fun before answer after committed => ?_
  cases unpublished : before.task with
  | some existing =>
    simp only [unpublished] at committed
    exact respects_ite (R := R) (fun _ => respects_abort _) (fun _ => respects_pure _)
      _ _ _ committed
  | none =>
    simp only [unpublished] at committed
    obtain ⟨_, admitted, admission, committed⟩ := bind_eq_ok.mp committed
    obtain ⟨_, inserted, insertion, committed⟩ := bind_eq_ok.mp committed
    rw [← update_eq_ok.mp admission] at insertion
    have published := insertAcceptedTask_step (by exact unpublished) insertion
    have rest : Respects R (do
        stopMissedWindow env clocks input.startWindowMissedAt
        insertOutbox .created
        upsertInputRequests input.inputRequests
        updateAdmission fun row => { row with state := .published }
        lockTask) :=
      respects_bind (respects_stopMissedWindow stops _) fun _ =>
        respects_bind ((ordinary_insertOutbox rfl).of_steps ordinary) fun _ =>
          respects_bind ((ordinary_upsertInputRequests _).of_steps ordinary) fun _ =>
            respects_bind (ordinary_updateAdmission.of_steps ordinary) fun _ =>
              respects_lockTask
    refine trans_of R (ordinary _ _ (.admission _ before.uncertainty before.reconciliationAudit))
      (trans_of R (ordinary _ _ published) (rest _ _ _ committed))

theorem respects_acceptScheduled (input : AcceptScheduledInput) :
    Respects R (acceptScheduled env clocks input) :=
  respects_bind ((ordinary_lockClaimed _ _ _).of_steps ordinary) fun _ =>
    respects_bind ((ordinary_transitionTask ⟨⟨rfl, rfl⟩, .inr ⟨_, rfl, rfl⟩⟩).of_steps ordinary)
      fun _ => respects_bind (respects_stopMissedWindow stops _) fun _ =>
        respects_bind ((ordinary_upsertInputRequests _).of_steps ordinary) fun _ =>
          respects_bind (ordinary_updateAdmission.of_steps ordinary) fun _ => respects_lockTask

theorem respects_stopUnconfirmedBoundExecution (claimOwner : String) (requestedAt : Instant) :
    Respects R (stopUnconfirmedBoundExecution env clocks claimOwner requestedAt) :=
  respects_bind ((ordinary_lockClaimed _ _ _).of_steps ordinary) fun _ =>
    respects_bind (stops requestedAt) fun _ => respects_lockTask

end Windows

theorem ordinary_claimDueScheduled (now : Instant) (ownerId : String) (leaseMilliseconds : Nat) :
    Respects OrdinarySteps (claimDueScheduled now ownerId leaseMilliseconds) := by
  refine respects_bind respects_read fun tables => ?_
  split
  · exact respects_pure _
  · exact respects_bind (ordinary_transitionTask ⟨⟨rfl, rfl⟩, .inl rfl⟩) fun _ => respects_pure _

theorem ordinary_completeDueStartWindowMisses (now : Instant) :
    Respects OrdinarySteps (completeDueStartWindowMisses now) := by
  refine respects_bind respects_read fun tables => ?_
  split
  · exact respects_pure _
  · exact respects_bind (ordinary_transitionTask ⟨⟨rfl, rfl⟩, .inl rfl⟩) fun _ => respects_pure _

theorem ordinary_claimExpiredScheduledStarts (now : Instant) (ownerId : String)
    (leaseMilliseconds : Nat) :
    Respects OrdinarySteps (claimExpiredScheduledStarts now ownerId leaseMilliseconds) := by
  refine respects_bind respects_read fun tables => ?_
  split
  · exact respects_pure _
  · exact respects_bind (ordinary_transitionTask ⟨⟨rfl, rfl⟩, .inl rfl⟩) fun _ => respects_pure _

theorem ordinary_renewScheduleClaim (clocks : Clocks) (claimOwner : String)
    (leaseMilliseconds : Nat) :
    Respects OrdinarySteps (renewScheduleClaim clocks claimOwner leaseMilliseconds) :=
  respects_bind (ordinary_lockClaimed _ _ _) fun _ =>
    ordinary_updateTaskRow fun _ => .of_eq rfl rfl

theorem ordinary_releaseScheduleRetry (clocks : Clocks) (claimOwner : String)
    (nextAttemptAt : Instant) (message : String) :
    Respects OrdinarySteps (releaseScheduleRetry clocks claimOwner nextAttemptAt message) :=
  respects_bind (ordinary_lockClaimed _ _ _) fun _ =>
    respects_bind (ordinary_transitionTask ⟨⟨rfl, rfl⟩, .inl rfl⟩) fun _ => respects_pure _

theorem ordinary_markScheduleResponseUncertain (clocks : Clocks) (claimOwner : String)
    (reconcileAt : Instant) (message : String) :
    Respects OrdinarySteps
      (markScheduleResponseUncertain clocks claimOwner reconcileAt message) :=
  respects_bind (ordinary_lockClaimed _ _ _) fun _ =>
    respects_bind (ordinary_transitionTask ⟨⟨rfl, rfl⟩, .inl rfl⟩) fun _ => respects_pure _

theorem ordinary_completeStartWindowMissed (completedAt : Instant) (claimOwner : String) :
    Respects OrdinarySteps (completeStartWindowMissed completedAt claimOwner) :=
  respects_bind (ordinary_lockClaimed _ _ _) fun _ =>
    respects_ite (fun _ => respects_abort _) fun _ =>
      respects_bind (ordinary_transitionTask ⟨⟨rfl, rfl⟩, .inl rfl⟩) fun _ => respects_pure _

theorem ordinary_completeScheduledRejection (claimOwner : String) (completedAt : Instant)
    (reasonCode message : String) (retryable : Bool) :
    Respects OrdinarySteps
      (completeScheduledRejection claimOwner completedAt reasonCode message retryable) :=
  respects_bind (ordinary_lockClaimed _ _ _) fun _ =>
    respects_bind (ordinary_transitionTask ⟨⟨rfl, rfl⟩, .inl rfl⟩) fun _ => respects_pure _

theorem ordinary_claimBoundStartConfirmations (now : Instant) (ownerId : String)
    (leaseMilliseconds : Nat) :
    Respects OrdinarySteps (claimBoundStartConfirmations now ownerId leaseMilliseconds) := by
  refine respects_bind respects_read fun tables => ?_
  split
  · exact respects_pure _
  · exact respects_bind (ordinary_transitionTask ⟨⟨rfl, rfl⟩, .inl rfl⟩) fun _ => respects_pure _

theorem ordinary_renewStartConfirmationClaim (clocks : Clocks) (claimOwner : String)
    (leaseMilliseconds : Nat) :
    Respects OrdinarySteps (renewStartConfirmationClaim clocks claimOwner leaseMilliseconds) :=
  respects_bind (ordinary_lockClaimed _ _ _) fun _ =>
    ordinary_updateTaskRow fun _ => .of_eq rfl rfl

theorem ordinary_deferStartConfirmation (clocks : Clocks) (claimOwner : String)
    (retryAt : Instant) (message : String) :
    Respects OrdinarySteps (deferStartConfirmation clocks claimOwner retryAt message) :=
  respects_bind (ordinary_lockClaimed _ _ _) fun _ =>
    ordinary_updateTaskRow fun _ => .of_eq rfl rfl

theorem ordinary_confirmBoundExecutionStarted (claimOwner : String) (adapterRevision : Nat)
    (transition : SnapshotTransition) (confirmedAt : Instant) :
    Respects OrdinarySteps
      (confirmBoundExecutionStarted claimOwner adapterRevision transition confirmedAt) :=
  respects_bind (ordinary_lockClaimed _ _ _) fun _ =>
    respects_bind (ordinary_transitionTask ⟨⟨rfl, rfl⟩, .inl rfl⟩) fun _ => respects_pure _

theorem ordinary_noteRecovery (clocks : Clocks) :
    Respects OrdinarySteps (noteRecovery clocks) :=
  respects_bind respects_lockTask fun _ =>
    respects_bind (ordinary_transitionTask ⟨⟨rfl, rfl⟩, .inl rfl⟩) fun _ => respects_pure _

theorem ordinary_noteRecoveryFailure (env : Environment) (clocks : Clocks) (failedAt : Instant) :
    Respects OrdinarySteps (noteRecoveryFailure env clocks failedAt) := by
  refine ordinary_updateTaskRow fun row => ?_
  split
  · exact .refl row
  · exact .of_eq rfl rfl

theorem ordinary_recordIdentityConflict (env : Environment) (detail : String) :
    Respects OrdinarySteps (recordIdentityConflict env detail) :=
  respects_bind respects_lockTask fun _ => ordinary_insertOutbox rfl

theorem ordinary_failRecoveryNotFound (clocks : Clocks) (message : String) :
    Respects OrdinarySteps (failRecoveryNotFound clocks message) :=
  respects_bind respects_lockTask fun _ =>
    respects_ite (fun _ => respects_pure _) fun _ =>
      respects_bind (ordinary_transitionTask ⟨⟨rfl, rfl⟩, .inl rfl⟩) fun _ => respects_pure _

theorem ordinary_renewHandle (now : Instant) : Respects OrdinarySteps (renewHandle now) := by
  refine ordinary_updateTaskRow fun row => ?_
  split
  · split
    · exact .of_eq rfl rfl
    · exact .refl row
  · exact .refl row

theorem ordinary_expireHandle (now : Instant) : Respects OrdinarySteps (expireHandle now) :=
  respects_bind respects_read fun _ => respects_when fun _ =>
    respects_bind (ordinary_updateTaskRow fun _ => .of_eq rfl rfl) fun _ =>
      ordinary_insertOutbox rfl

theorem ordinary_cleanOutbox (published : List EventKey) :
    Respects OrdinarySteps (cleanOutbox published) :=
  respects_update fun _ => .single (.forget _)

theorem ordinary_getAuthorizedRow (authorization : AuthorizationContext) :
    Respects OrdinarySteps (getAuthorizedRow authorization) := by
  refine respects_bind respects_read fun tables => ?_
  split
  · exact respects_abort _
  · exact respects_pure _

def RepositoryCall.isOrdinary : {β : Type} → RepositoryCall β → Bool
  | _, .publishAccepted .. => false
  | _, .claimDueCommands .. => false
  | _, .retryClaimedCommand .. => false
  | _, .recordCommandStarted .. => false
  | _, .renewCommandClaim .. => false
  | _, .rejectClaimedCommand .. => false
  | _, .acknowledgeClaimedCommand .. => false
  | _, .supersedeClaimedCommandForSafeStop .. => false
  | _, .supersedeExpiredClaimedNormalCommandsForSafeStop => false
  | _, .supersedeClaimedBusinessInputIfNoLongerCurrent .. => false
  | _, .supersedeClaimedBusinessInterventionIfNotRunning .. => false
  | _, .exhaustClaimedBusinessIntervention .. => false
  | _, .rejectInputResponseAndFailTask .. => false
  | _, .failInputResponseDelivery .. => false
  | _, .acknowledgeUpdateAndCompleteInputAnswers .. => false
  | _, .rejectUserCancel .. => false
  | _, .failSafeStopUnconfirmed .. => false
  | _, .beginCancel .. => false
  | _, .recordCooperativeCancellationIntent => false
  | _, .beginCommand .. => false
  | _, .beginBusinessInterventionCommand .. => false
  | _, .acceptMcpInputResponses .. => false
  | _, .promotePendingInputResponses => false
  | _, .applySnapshot .. => false
  | _, .acceptScheduled .. => false
  | _, .stopUnconfirmedBoundExecution .. => false
  | _, .claimExpiredDeadlines .. => false
  | _, _ => true

theorem respects_ordinary (deployment : Deployment) (clocks : Clocks) {β : Type}
    (call : RepositoryCall β) (ordinary : call.isOrdinary = true) :
    Respects OrdinarySteps (call.tx deployment clocks) := by
  cases call with
  | clockNow => exact respects_pure _
  | loadOperationSnapshot operationSnapshotId =>
    simp only [RepositoryCall.tx]
    split
    · exact respects_pure _
    · exact respects_abort _
  | createAdmissionIntent input => exact ordinary_createAdmissionIntent input
  | getAdmission => exact respects_bind respects_read fun _ => respects_pure _
  | getById => exact respects_bind respects_read fun _ => respects_pure _
  | getAuthorized authorization =>
    exact respects_bind (ordinary_getAuthorizedRow authorization) fun _ =>
      respects_ite (fun _ => respects_abort _) fun _ => respects_pure _
  | listAdmissionsForRecovery => exact respects_bind respects_read fun _ => respects_pure _
  | listTasksForRecovery => exact respects_bind respects_read fun _ => respects_pure _
  | markAdmissionUncertain uncertaintyClass causalRefs =>
    exact ordinary_markAdmissionUncertain clocks uncertaintyClass causalRefs
  | recordReconciliationResult status externalExecutionId identityValidated occurredAt =>
    exact ordinary_recordReconciliationResult status externalExecutionId identityValidated
      occurredAt
  | recordRejection => exact ordinary_updateAdmission
  | completeAdmissionWithoutTask => exact ordinary_updateAdmission
  | publishScheduled input => exact ordinary_publishScheduled clocks input
  | assignedInputs sequence => exact respects_bind respects_read fun _ => respects_pure _
  | findCommandByRequestHash commandType requestHash =>
    exact respects_bind respects_read fun _ => respects_pure _
  | listInputRequests => exact respects_bind respects_read fun _ => respects_pure _
  | noteRecovery => exact ordinary_noteRecovery clocks
  | noteRecoveryFailure failedAt =>
    exact ordinary_noteRecoveryFailure deployment.env clocks failedAt
  | recordIdentityConflict detail =>
    exact ordinary_recordIdentityConflict deployment.env detail
  | failRecoveryNotFound message => exact ordinary_failRecoveryNotFound clocks message
  | claimDueScheduled now ownerId leaseMilliseconds =>
    exact ordinary_claimDueScheduled now ownerId leaseMilliseconds
  | completeDueStartWindowMisses now => exact ordinary_completeDueStartWindowMisses now
  | claimExpiredScheduledStarts now ownerId leaseMilliseconds =>
    exact ordinary_claimExpiredScheduledStarts now ownerId leaseMilliseconds
  | renewScheduleClaim claimOwner leaseMilliseconds =>
    exact ordinary_renewScheduleClaim clocks claimOwner leaseMilliseconds
  | releaseScheduleRetry claimOwner nextAttemptAt message =>
    exact ordinary_releaseScheduleRetry clocks claimOwner nextAttemptAt message
  | markScheduleResponseUncertain claimOwner reconcileAt message =>
    exact ordinary_markScheduleResponseUncertain clocks claimOwner reconcileAt message
  | completeStartWindowMissed completedAt claimOwner =>
    exact ordinary_completeStartWindowMissed completedAt claimOwner
  | completeScheduledRejection claimOwner completedAt reasonCode message retryable =>
    exact ordinary_completeScheduledRejection claimOwner completedAt reasonCode message retryable
  | claimBoundStartConfirmations now ownerId leaseMilliseconds =>
    exact ordinary_claimBoundStartConfirmations now ownerId leaseMilliseconds
  | renewStartConfirmationClaim claimOwner leaseMilliseconds =>
    exact ordinary_renewStartConfirmationClaim clocks claimOwner leaseMilliseconds
  | deferStartConfirmation claimOwner retryAt message =>
    exact ordinary_deferStartConfirmation clocks claimOwner retryAt message
  | confirmBoundExecutionStarted claimOwner adapterRevision transition confirmedAt =>
    exact ordinary_confirmBoundExecutionStarted claimOwner adapterRevision transition confirmedAt
  | renewHandle now => exact ordinary_renewHandle now
  | expireHandle now => exact ordinary_expireHandle now
  | cleanOutbox published => exact ordinary_cleanOutbox published
  | _ => exact Bool.noConfusion ordinary

end SdarRuntime
