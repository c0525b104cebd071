import SdarRuntime.Persistence.Ordinary

/-!
The calls that change commands, responses or stops, as steps of a kind. Most of them drive
the commands they change: an active stop stays active. The others are told apart: the ones
that may settle any command, a claim, and the requests that change the stop of the task.
-/

namespace SdarRuntime

open Transaction CommandRow

def CommandRow.isControl (row : CommandRow) : Bool :=
  row.commandType == .pause || row.commandType == .resume

structure StepKind.Admits (kind : StepKind) (clocks : Clocks) : Prop where
  ordinary : ∀ request : TaskTransitionRequest, request.Ordinary → kind.fits request
  drives : ∀ row row' : CommandRow, row.Drives row' → kind.command row row'
  creates : ∀ row : CommandRow, row.Created clocks → row.isControl = false → kind.creates row

structure StepKind.AdmitsStops (kind : StepKind) (clocks : Clocks) : Prop
    extends kind.Admits clocks where
  requires : ∀ request : TaskTransitionRequest, request.RequiresStop → kind.fits request

structure StepKind.AdmitsSettling (kind : StepKind) (clocks : Clocks) : Prop
    extends kind.AdmitsStops clocks where
  keeps : ∀ row row' : CommandRow, row.Keeps row' → kind.command row row'
  fails : ∀ request : TaskTransitionRequest, request.FailsStop → kind.fits request

variable {state : CommandState}

theorem CommandState.undeliverable_of_settled (settled : state.isSettled = true) :
    state.isDeliverable = false := by
  cases state with
  | rejected | exhausted => rfl
  | pending | claimed | retryWait | acknowledged => cases settled

theorem CommandRow.keeps_settle (settled : state.isSettled = true)
    (errorCode errorMessage : Option String) (row : CommandRow) :
    row.Keeps (row.settle state errorCode errorMessage) :=
  ⟨⟨rfl, rfl, rfl, fun _ => rfl⟩,
    queued_of_ended rfl rfl (CommandState.undeliverable_of_settled settled), .inl rfl,
    rfl, fun _ => settled⟩

theorem CommandRow.created_newCommand {commandType : CommandType} (normal : commandType ≠ .cancel)
    (sequence : Nat) (requestHash : String) (payload : Json) (clocks : Clocks) :
    (newCommand sequence commandType requestHash payload clocks.database).Created clocks := by
  constructor
  · rfl
  · rfl
  · rfl
  · rfl
  · exact fun _ => ⟨rfl, rfl⟩
  · intro isStop
    simp only [isNormal, newCommand, bne_eq_false_iff_eq] at isStop
    exact absurd isStop normal

variable {priority : Nat}

theorem CommandRow.created_newCancelCommand (positive : 0 < priority) (sequence : Nat)
    (requestHash : String) (reason : StopReason) (previous : TaskRecord) (nextAttemptAt : Instant)
    (clocks : Clocks) :
    (newCancelCommand sequence requestHash reason priority previous nextAttemptAt
      clocks.database).Created clocks := by
  constructor
  · rfl
  · rfl
  · rfl
  · rfl
  · intro isNormal
    cases isNormal
  · exact fun _ => positive

variable {row : CommandRow}

theorem CommandRow.unsettled_of_claimed (claimed : row.state = .claimed) {settled : Prop} :
    row.state.isSettled = true → settled := by
  rw [claimed]
  exact fun impossible => (Bool.false_ne_true impossible).elim

theorem CommandRow.Keeps.drives {row row' : CommandRow} (keeps : row.Keeps row')
    (passive : row.isActiveStop = false) : row.Drives row' :=
  ⟨keeps, fun active => absurd active (by simp [passive])⟩

theorem CommandRow.isActiveStop_of_isNormal (normal : row.isNormal = true) :
    row.isActiveStop = false := by
  simp only [isNormal, bne_iff_ne] at normal
  simp [isActiveStop, normal]

theorem CommandRow.isActiveStop_of_not_cancel (other : row.commandType ≠ .cancel) :
    row.isActiveStop = false := by
  simp [isActiveStop, other]

theorem CommandRow.isActiveStop_of_isIntervention (intervention : isIntervention row = true) :
    row.isActiveStop = false :=
  isActiveStop_of_not_cancel
    (by simp only [isIntervention, beq_iff_eq] at intervention; simp [intervention])

theorem CommandRow.isActiveStop_of_isUpdate (update : isUpdate row = true) :
    row.isActiveStop = false :=
  isActiveStop_of_not_cancel
    (by simp only [isUpdate, beq_iff_eq] at update; simp [update])

theorem CommandRow.unsettled_of_claimable {cancelRequested : Bool} {instant : Instant}
    (claimable : row.isClaimable cancelRequested instant = true) :
    row.state.isSettled = false := by
  simp only [isClaimable, leaseExpired, Bool.and_eq_true, Bool.or_eq_true, beq_iff_eq] at claimable
  obtain ⟨(⟨pending | waiting, -⟩ | ⟨claimed, -⟩), -⟩ := claimable
  · rw [pending]
    rfl
  · rw [waiting]
    rfl
  · rw [claimed]
    rfl

variable {sequence : Nat} {owner : Option String}

theorem CommandRow.claimedBy_state (claimed : row.claimedBy sequence owner = true) :
    row.state = .claimed := by
  simp only [claimedBy, Bool.and_eq_true, beq_iff_eq] at claimed
  exact claimed.1.1.2

theorem CommandRow.claimedBy_sequence (claimed : row.claimedBy sequence owner = true) :
    row.sequence = sequence := by
  simp only [claimedBy, Bool.and_eq_true, beq_iff_eq] at claimed
  exact claimed.1.1.1

section Statements

variable {kind : StepKind}

variable {clocks : Clocks} {α : Type}

theorem steps_of_ordinary (admits : kind.Admits clocks) {tx : Tx α}
    (ordinary : Respects OrdinarySteps tx) : Respects (Steps kind) tx :=
  ordinary.mono fun _ _ => OrdinarySteps.steps admits.ordinary

theorem steps_transitionTask {request : TaskTransitionRequest} (fits : kind.fits request) :
    Respects (Steps kind) (transitionTask request) :=
  respects_transitionTask fun _ row applies => .single (.transition request row applies fits)

theorem steps_recordCooperativeCancellationIntent (clocks : Clocks)
    (requests : ∀ request : TaskTransitionRequest, request.RequestsStop → kind.fits request) :
    Respects (Steps kind) (recordCooperativeCancellationIntent clocks) :=
  respects_bind (steps_transitionTask (requests _ ⟨rfl, rfl, rfl⟩)) fun _ => respects_pure _

theorem steps_insertOutbox {key : EventKey} (plain : key.isPlain = true) :
    Respects (Steps kind) (insertOutbox key) := by
  refine respects_insertOutbox fun before => .single (.elsewhere before.admission
    before.uncertainty before.reconciliationAudit (insertKey key before.outbox)
    before.inputRequests before.inbox fun other member => ?_)
  rcases mem_insertKey.mp member with known | rfl
  · exact .inl known
  · exact .inr plain

theorem steps_insertCommandFact {sequence attempt : Nat} {event : CommandEvent} :
    Respects (Steps kind) (insertCommandFact sequence event state attempt) :=
  steps_insertOutbox rfl

variable {matches' : CommandRow → Bool} {change : CommandRow → CommandRow}

theorem steps_updateCommands (admits : kind.Admits clocks)
    (permitted : ∀ row, matches' row = true → kind.command row (change row)) :
    Respects (Steps kind) (updateCommands matches' change) := by
  refine respects_updateCommands fun before => .single (.commands _ fun _ row _ => ?_)
  split
  · rename_i matched
    exact permitted row matched
  · exact admits.drives row row (.refl row)

theorem steps_updateInbox {matches' : InboxRow → Bool} {change : InboxRow → InboxRow} :
    Respects (Steps kind) (updateInbox matches' change) :=
  respects_updateInbox fun before => .single (.elsewhere before.admission before.uncertainty
    before.reconciliationAudit before.outbox before.inputRequests _ fun _ member => .inl member)

theorem steps_updateInputRequests {matches' : InputRequestRow → Bool}
    {change : InputRequestRow → InputRequestRow} :
    Respects (Steps kind) (updateInputRequests matches' change) :=
  respects_updateInputRequests fun before => .single (.elsewhere before.admission
    before.uncertainty before.reconciliationAudit before.outbox _ before.inbox
    fun _ member => .inl member)

theorem steps_settleAssignedInbox {state : InboxState} {errorCode errorMessage : Option String} :
    Respects (Steps kind) (settleAssignedInbox sequence state errorCode errorMessage) :=
  respects_bind steps_updateInbox fun _ => respects_pure ()

theorem steps_supersedeOpenRequests {keys : List String} :
    Respects (Steps kind) (supersedeOpenRequests keys) :=
  respects_bind steps_updateInputRequests fun _ => respects_pure ()

theorem steps_createCommand {command : Nat → CommandRow} {rest : Nat → Tx α}
    (creates : ∀ sequence, kind.creates (command sequence))
    (numbered : ∀ sequence, (command sequence).sequence = sequence)
    (restSteps : ∀ sequence, Respects (Steps kind) (rest sequence)) :
    Respects (Steps kind) (do
      let sequence ← nextCommandSequence
      insertCommand (command sequence)
      rest sequence) := by
  intro before answer after committed
  simp only [nextCommandSequence, bind_eq_ok, updateTaskRow, update_eq_ok, lockTask_eq_ok,
    insertCommand_eq_ok] at committed
  obtain ⟨_, _, ⟨_, _, rfl, _, _, ⟨found, rfl⟩, next⟩, _, _, ⟨fresh, rfl⟩, committed⟩ := committed
  obtain ⟨rfl, rfl⟩ := pure_eq_ok.mp next
  exact .head (.aside TaskRecord.countCommand fun _ => ⟨rfl, Nat.le_succ _⟩) (.head
    (.insertCommand _ (creates _) fresh ⟨_, found, numbered _⟩) (restSteps _ _ _ _ committed))

theorem steps_changeClaimed (admits : kind.Admits clocks) {command : PendingCommandRecord}
    {kind' : CommandRow → Bool}
    (permitted : ∀ row, row.claimedBy command.commandSequence command.claimOwner = true →
      kind' row = true → kind.command row (change row)) :
    Respects (Steps kind) (changeClaimed command kind' change) := by
  refine respects_bind (steps_updateCommands admits fun row matched => ?_) fun changed =>
    respects_ite (fun _ => respects_pure ()) fun _ => respects_abort _
  simp only [Bool.and_eq_true] at matched
  exact permitted row matched.1 matched.2

theorem steps_supersedeForSafeStop (admits : kind.Admits clocks) {settlesInbox : Bool}
    (normal : ∀ row, matches' row = true → row.isNormal = true) :
    Respects (Steps kind) (supersedeForSafeStop matches' settlesInbox) := by
  refine respects_bind (steps_updateCommands admits fun row matched => ?_) fun superseded => ?_
  · exact admits.drives _ _ ((keeps_settle rfl _ _ row).drives
      (isActiveStop_of_isNormal (normal row matched)))
  · refine respects_bind (respects_forEach fun row _ => ?_) fun _ => respects_pure _
    exact respects_bind (respects_when fun _ => steps_settleAssignedInbox) fun _ =>
      steps_insertCommandFact

theorem steps_orAbort (result : Except Failure α) :
    Respects (Steps kind) (orAbort result) := by
  cases result with
  | ok value => exact respects_pure value
  | error failure => exact respects_abort failure

theorem steps_checkBusinessInput (env : Environment) (clocks : Clocks)
    (authorization : AuthorizationContext) (task : TaskRecord) (request : InputRequestRow)
    (hash : String) :
    Respects (Steps kind) (checkBusinessInput env clocks authorization task request hash) := by
  refine respects_ite (fun _ => respects_abort _) fun _ => ?_
  refine respects_ite (fun _ => respects_abort _) fun _ => ?_
  refine respects_ite (fun _ => respects_abort _) fun _ => ?_
  refine respects_bind (steps_orAbort _) fun deadlineAt => ?_
  refine respects_ite (fun _ => ?_) fun _ => respects_pure _
  refine respects_bind respects_read fun tables => ?_
  split
  · exact respects_ite (fun _ => respects_abort _) fun _ => respects_pure _
  · exact respects_ite (fun _ => respects_abort _) fun _ => respects_pure _

theorem steps_insertInbox (clocks : Clocks) (key hash : String) (stored : Json) :
    Respects (Steps kind) (insertInbox clocks key hash stored) := by
  refine respects_bind respects_read fun tables => ?_
  refine respects_ite (fun _ => respects_pure _) fun _ => ?_
  exact respects_bind (respects_update fun before => .single (.elsewhere before.admission
    before.uncertainty before.reconciliationAudit before.outbox before.inputRequests _
    fun _ member => .inl member)) fun _ => respects_pure _

theorem steps_acceptMcpInputResponse (env : Environment) (clocks : Clocks)
    (authorization : AuthorizationContext) (validateLockedResponse : ValidateLockedInputResponse)
    (task : TaskRecord) (key : String) (response : McpInputResponse) :
    Respects (Steps kind)
      (acceptMcpInputResponse env clocks authorization validateLockedResponse task key
        response) := by
  refine respects_bind respects_read fun tables => ?_
  split
  · exact respects_pure _
  · dsimp only
    split
    · refine respects_ite (fun _ => ?_) fun _ => respects_pure _
      refine respects_bind (steps_orAbort _) fun _ => ?_
      refine respects_ite (fun _ => respects_abort _) fun _ => ?_
      exact respects_ite (fun _ => respects_abort _) fun _ => respects_pure _
    · exact respects_pure _
    · refine respects_bind (steps_orAbort _) fun _ => ?_
      refine respects_bind (steps_checkBusinessInput env clocks authorization task _ _)
        fun _ => ?_
      exact respects_bind (steps_insertInbox clocks key _ _) fun _ => respects_pure _

theorem steps_acceptEach (env : Environment) (clocks : Clocks)
    (authorization : AuthorizationContext) (validateLockedResponse : ValidateLockedInputResponse)
    (task : TaskRecord) (entries : List (String × McpInputResponse)) :
    Respects (Steps kind)
      (acceptEach env clocks authorization validateLockedResponse task entries) := by
  induction entries with
  | nil => exact respects_pure _
  | cons entry rest ih =>
    exact respects_bind (steps_acceptMcpInputResponse env clocks authorization
      validateLockedResponse task entry.1 entry.2) fun _ =>
      respects_bind ih fun _ => respects_pure _

theorem steps_ignorePending (keys : List String) (errorCode errorMessage : String) :
    Respects (Steps kind) (ignorePending keys errorCode errorMessage) :=
  respects_bind steps_updateInbox fun _ => respects_pure _

theorem steps_requireClaimedUpdate (command : PendingCommandRecord) :
    Respects (Steps kind) (requireClaimedUpdate command) :=
  respects_bind respects_read fun _ =>
    respects_ite (fun _ => respects_pure _) fun _ => respects_abort _

theorem steps_ignoreInputResponse (command : PendingCommandRecord) (code : String) :
    Respects (Steps kind) (ignoreInputResponse command code) :=
  respects_bind (respects_when fun _ => steps_supersedeOpenRequests) fun _ =>
    steps_settleAssignedInbox

theorem steps_answerRequest (answer : InputAnswer) :
    Respects (Steps kind) (answerRequest answer) :=
  respects_bind steps_updateInputRequests fun _ =>
    respects_ite (fun _ => respects_abort _) fun _ => respects_pure _

end Statements

section Stops

variable {kind : StepKind} {clocks : Clocks} (admits : kind.AdmitsStops clocks)
include admits

theorem steps_retargetStop {before : TaskTables} {command : CommandRow}
    (member : command ∈ before.commands) (active : command.isActiveStop = true)
    (reason : StopReason) (positive : 0 < priority) :
    Steps kind before { before with
      commands := changeWhere (fun row => row.sequence == command.sequence)
        (fun row => { row with
          stopReason := some reason
          priority := priority
          payload := cancelPayload reason }) before.commands } := by
  refine .single (.commands _ fun sequenced row isRow => admits.drives _ _ ?_)
  split
  · rename_i same
    have isCommand := sequenced.eq isRow member (beq_iff_eq.mp same)
    have cancel : row.commandType = .cancel := by
      simp only [isActiveStop, Bool.and_eq_true, beq_iff_eq] at active
      rw [isCommand, active.1]
    have queued : row.Queued { row with
        stopReason := some reason
        priority := priority
        payload := cancelPayload reason } := by
      constructor
      · rfl
      · intro normal
        simp [isNormal, cancel] at normal
      · exact fun _ _ => positive
      · exact Or.inl ⟨rfl, rfl⟩
    exact ⟨⟨⟨rfl, rfl, rfl, fun other => absurd cancel other⟩, queued, .inr rfl, rfl, id⟩, id⟩
  · exact .refl row

variable {env : Environment} {before after : TaskTables}

theorem steps_startWindowCommand {requestedAt : Instant} {previous : TaskRecord}
    (committed : startWindowCommand env clocks requestedAt previous
      (newestCommand isActiveStop before.commands) before = .ok (sequence, after)) :
    Steps kind before after := by
  cases newest : newestCommand isActiveStop before.commands with
  | none =>
    rw [newest] at committed
    exact steps_createCommand (fun _ => admits.creates _
      (created_newCancelCommand (by decide) _ _ _ _ _ _) rfl) (fun _ => rfl)
      (fun _ => respects_pure _) _ _ _ committed
  | some command =>
    rw [newest] at committed
    obtain ⟨member, active, -⟩ := newestCommand_eq_some newest
    obtain ⟨_, _, retargeted, committed⟩ := bind_eq_ok.mp committed
    obtain ⟨-, rfl⟩ := pure_eq_ok.mp committed
    unfold when at retargeted
    split at retargeted
    · obtain ⟨_, _, updated, retargeted⟩ := bind_eq_ok.mp retargeted
      obtain ⟨-, rfl⟩ := pure_eq_ok.mp retargeted
      obtain ⟨-, rfl⟩ := updateCommands_eq_ok.mp updated
      exact steps_retargetStop admits member active _ (by decide)
    · obtain ⟨-, rfl⟩ := pure_eq_ok.mp retargeted
      exact .refl

theorem steps_persistStartWindowStop (env : Environment)
    (requestedAt : Instant) :
    Respects (Steps kind) (persistStartWindowStop env clocks requestedAt) := by
  refine respects_bind respects_lockTask fun previous => ?_
  refine respects_ite (fun _ => respects_pure _) fun _ => ?_
  refine respects_ite (fun _ => respects_abort _) fun _ => ?_
  refine respects_read_bind fun before answer after committed => ?_
  obtain ⟨sequence, middle, commanded, committed⟩ := bind_eq_ok.mp committed
  refine (steps_startWindowCommand admits commanded).trans ?_
  refine respects_bind (steps_transitionTask (admits.requires _ ⟨rfl, ⟨_, rfl, ?_⟩, rfl⟩))
    (fun _ => respects_when fun _ => steps_insertCommandFact) _ _ _ committed
  split
  · rfl
  · rfl

theorem steps_publishAccepted (env : Environment) (input : PublishTaskInput) :
    Respects (Steps kind) (publishAccepted env clocks input) :=
  respects_publishAccepted (steps_persistStartWindowStop admits env)
    (fun _ _ step => .single (step.step admits.ordinary)) input

theorem steps_acceptScheduled (env : Environment)
    (input : AcceptScheduledInput) :
    Respects (Steps kind) (acceptScheduled env clocks input) :=
  respects_acceptScheduled (steps_persistStartWindowStop admits env)
    (fun _ _ step => .single (step.step admits.ordinary)) input

theorem steps_stopUnconfirmedBoundExecution (env : Environment)
    (claimOwner : String) (requestedAt : Instant) :
    Respects (Steps kind) (stopUnconfirmedBoundExecution env clocks claimOwner requestedAt) :=
  respects_stopUnconfirmedBoundExecution (steps_persistStartWindowStop admits env)
    (fun _ _ step => .single (step.step admits.ordinary)) claimOwner requestedAt

theorem steps_deadlineCommand {now : Instant} {row : TaskRecord}
    (committed : deadlineCommand env clocks now row
      (newestCommand isActiveStop before.commands) before = .ok (sequence, after)) :
    Steps kind before after := by
  cases newest : newestCommand isActiveStop before.commands with
  | none =>
    rw [newest] at committed
    exact steps_createCommand (fun _ => admits.creates _
      (created_newCancelCommand (by decide) _ _ _ _ _ _) rfl) (fun _ => rfl)
      (fun _ => respects_pure _) _ _ _ committed
  | some command =>
    rw [newest] at committed
    obtain ⟨member, active, -⟩ := newestCommand_eq_some newest
    obtain ⟨_, _, updated, committed⟩ := bind_eq_ok.mp committed
    obtain ⟨-, rfl⟩ := pure_eq_ok.mp committed
    obtain ⟨-, rfl⟩ := updateCommands_eq_ok.mp updated
    exact steps_retargetStop admits member active _ (by decide)

theorem steps_claimExpiredDeadlines (env : Environment) (now : Instant) :
    Respects (Steps kind) (claimExpiredDeadlines env clocks now) := by
  refine respects_read_bind fun before answer after committed => ?_
  cases expired : before.task.filter fun row => deadlineExpired row now with
  | none =>
    simp only [expired] at committed
    exact respects_pure _ _ _ _ committed
  | some row =>
    simp only [expired] at committed
    obtain ⟨sequence, middle, commanded, committed⟩ := bind_eq_ok.mp committed
    refine (steps_deadlineCommand admits commanded).trans ?_
    refine respects_bind (steps_transitionTask (admits.requires _
      ⟨rfl, ⟨.deadlineReached, rfl, rfl⟩, rfl⟩)) (fun _ => ?_) _ _ _ committed
    exact respects_bind (respects_when fun _ => steps_insertCommandFact) fun _ =>
      respects_pure _

end Stops

section Driving

variable {kind : StepKind} {clocks : Clocks} (admits : kind.Admits clocks)
include admits

theorem steps_retryClaimedCommand (command : PendingCommandRecord) (nextAttemptAt : Instant)
    (errorCode errorMessage : String) :
    Respects (Steps kind) (retryClaimedCommand command nextAttemptAt errorCode errorMessage) := by
  refine respects_bind (steps_changeClaimed admits fun _ claimed _ => ?_) fun _ =>
    steps_insertCommandFact
  have isClaimed := claimedBy_state claimed
  refine admits.drives _ _ ⟨⟨⟨rfl, rfl, rfl, fun _ => rfl⟩,
    queued_of_released rfl rfl isClaimed (by exact nofun), .inl rfl, rfl,
    unsettled_of_claimed isClaimed⟩, fun active => ?_⟩
  simp only [isActiveStop, Bool.and_eq_true] at active
  simp [isActiveStop, settle, CommandState.isDeliverable, active.1]

theorem steps_recordCommandStarted (command : PendingCommandRecord) :
    Respects (Steps kind) (recordCommandStarted command) :=
  respects_bind (steps_changeClaimed admits fun row _ _ => admits.drives row row (.refl row))
    fun _ => steps_insertCommandFact

theorem steps_renewCommandClaim (command : PendingCommandRecord)
    (leaseMilliseconds : Nat) :
    Respects (Steps kind) (renewCommandClaim clocks command leaseMilliseconds) :=
  steps_changeClaimed admits fun _ _ _ =>
    admits.drives _ _ ⟨⟨⟨rfl, rfl, rfl, fun _ => rfl⟩,
      queued_of_same rfl rfl rfl rfl, .inr rfl, rfl, id⟩, id⟩

theorem steps_acknowledgeClaimedCommand (command : PendingCommandRecord) (ack : CommandAck) :
    Respects (Steps kind) (acknowledgeClaimedCommand command ack) := by
  refine respects_bind (steps_changeClaimed admits fun _ claimed _ => ?_) fun _ =>
    steps_insertCommandFact
  refine admits.drives _ _ ⟨⟨⟨rfl, rfl, rfl, fun _ => rfl⟩,
      queued_of_ended rfl rfl rfl, .inl rfl, rfl,
    unsettled_of_claimed (claimedBy_state claimed)⟩, fun active => ?_⟩
  simp only [isActiveStop, Bool.and_eq_true] at active
  simp [isActiveStop, settle, active.1]

theorem steps_supersedeClaimedCommandForSafeStop
    (command : PendingCommandRecord) :
    Respects (Steps kind) (supersedeClaimedCommandForSafeStop clocks command) :=
  respects_bind (steps_changeClaimed admits fun _ _ normal => admits.drives _ _
      (CommandRow.Keeps.drives ⟨⟨rfl, rfl, rfl, fun _ => rfl⟩,
      queued_of_ended rfl rfl rfl, .inl rfl, rfl, fun _ => rfl⟩
        (isActiveStop_of_isNormal normal))) fun _ =>
    respects_bind (respects_when fun _ => steps_settleAssignedInbox) fun _ =>
      steps_insertCommandFact

theorem steps_supersedeExpiredClaimedNormalCommandsForSafeStop :
    Respects (Steps kind) (supersedeExpiredClaimedNormalCommandsForSafeStop clocks) := by
  refine steps_supersedeForSafeStop admits fun row matched => ?_
  simp only [Bool.and_eq_true] at matched
  exact matched.1

theorem steps_supersedeClaimedBusinessInterventionIfNotRunning (command : PendingCommandRecord) :
    Respects (Steps kind) (supersedeClaimedBusinessInterventionIfNotRunning command) := by
  refine respects_ite (fun _ => respects_pure _) fun _ => ?_
  refine respects_bind respects_lockTask fun task => ?_
  refine respects_ite (fun _ => respects_pure _) fun _ => ?_
  refine respects_bind (steps_changeClaimed admits fun row _ intervention => ?_) fun _ =>
    respects_bind steps_insertCommandFact fun _ => respects_pure _
  exact admits.drives _ _ ((keeps_settle rfl _ _ row).drives
    (isActiveStop_of_isIntervention intervention))

theorem steps_exhaustClaimedBusinessIntervention (command : PendingCommandRecord)
    (message : String) :
    Respects (Steps kind) (exhaustClaimedBusinessIntervention command message) := by
  refine respects_ite (fun _ => respects_abort _) fun _ => ?_
  refine respects_bind (steps_changeClaimed admits fun row _ intervention => ?_) fun _ =>
    steps_insertCommandFact
  exact admits.drives _ _ ((keeps_settle rfl _ _ row).drives
    (isActiveStop_of_isIntervention intervention))

theorem steps_supersedeClaimedBusinessInputIfNoLongerCurrent
    (command : PendingCommandRecord) :
    Respects (Steps kind) (supersedeClaimedBusinessInputIfNoLongerCurrent clocks command) := by
  refine respects_ite (fun _ => respects_pure _) fun _ => ?_
  refine respects_bind respects_lockTask fun task => ?_
  refine respects_bind respects_read fun tables => ?_
  refine respects_ite (fun _ => respects_pure _) fun _ => ?_
  refine respects_bind (steps_changeClaimed admits fun row _ update => ?_) fun _ => ?_
  · exact admits.drives _ _ (CommandRow.Keeps.drives ⟨⟨rfl, rfl, rfl, fun _ => rfl⟩,
      queued_of_ended rfl rfl rfl, .inl rfl, rfl, fun _ => rfl⟩
      (isActiveStop_of_isUpdate update))
  · exact respects_bind (respects_when fun _ => steps_supersedeOpenRequests) fun _ =>
      respects_bind steps_settleAssignedInbox fun _ =>
        respects_bind steps_insertCommandFact fun _ => respects_pure _

theorem steps_requestCommand (task : TaskRecord) (commandType : CommandType)
    (requestHash : String) (payload : Json)
    (creates : ∀ sequence, kind.creates
      (newCommand sequence commandType requestHash payload clocks.database)) :
    Respects (Steps kind) (requestCommand clocks task commandType requestHash payload) :=
  steps_createCommand creates (fun _ => rfl) fun _ =>
    respects_bind (steps_transitionTask (admits.ordinary _ ⟨⟨rfl, rfl⟩, .inl rfl⟩)) fun _ =>
      respects_bind steps_insertCommandFact fun _ => respects_pure _

theorem steps_beginBusinessInterventionCommand (env : Environment)
    (commandId semanticHash : String) (payload : Json) :
    Respects (Steps kind)
      (beginBusinessInterventionCommand env clocks commandId semanticHash payload) := by
  refine respects_ite (fun _ => respects_abort _) fun _ => ?_
  refine respects_bind respects_lockTask fun task => ?_
  refine respects_bind respects_read fun tables => ?_
  split
  · exact respects_ite (fun _ => respects_abort _) fun _ => respects_pure _
  · refine respects_ite (fun _ => respects_abort _) fun _ => ?_
    refine respects_ite (fun _ => respects_abort _) fun _ => ?_
    refine respects_ite (fun _ => respects_abort _) fun _ => ?_
    exact steps_requestCommand admits task .intervention _ payload fun sequence =>
      admits.creates _ (created_newCommand (by decide) _ _ _ _) rfl

theorem steps_acceptMcpInputResponses (env : Environment)
    (authorization : AuthorizationContext) (inputResponses : List (String × McpInputResponse))
    (validateLockedResponse : ValidateLockedInputResponse) :
    Respects (Steps kind)
      (acceptMcpInputResponses env clocks authorization inputResponses
        validateLockedResponse) := by
  refine respects_bind (steps_of_ordinary admits (ordinary_getAuthorizedRow authorization))
    fun task => ?_
  refine respects_ite (fun _ => respects_abort _) fun _ => ?_
  refine respects_bind (steps_acceptEach env clocks authorization validateLockedResponse
    task _) fun result => ?_
  refine respects_bind (respects_when fun _ => ?_) fun _ => respects_pure _
  exact respects_bind (steps_transitionTask (admits.ordinary _ ⟨⟨rfl, rfl⟩, .inl rfl⟩)) fun _ =>
    respects_pure _

theorem steps_promoteReady (env : Environment) (ready : List PendingResponse) :
    Respects (Steps kind) (promoteReady env clocks ready) :=
  steps_createCommand (fun _ => admits.creates _
    (created_newCommand (by decide) _ _ _ _) rfl) (fun _ => rfl) fun _ =>
    respects_bind steps_updateInbox fun _ =>
      respects_ite (fun _ => respects_abort _) fun _ => steps_insertCommandFact

theorem steps_promotePendingInputResponses (env : Environment) :
    Respects (Steps kind) (promotePendingInputResponses env clocks) := by
  refine respects_bind respects_read fun tables => ?_
  refine respects_ite (fun _ => respects_pure _) fun _ => ?_
  refine respects_bind respects_lockTask fun task => ?_
  refine respects_ite (fun _ => ?_) fun _ => ?_
  · exact respects_bind (steps_ignorePending _ _ _) fun _ => respects_pure _
  · refine respects_bind (steps_orAbort _) fun decoded => ?_
    refine respects_bind (respects_when fun _ => steps_supersedeOpenRequests) fun _ => ?_
    refine respects_bind (respects_when fun _ => steps_ignorePending _ _ _) fun _ => ?_
    refine respects_ite (fun _ => respects_pure _) fun _ => ?_
    exact respects_bind (steps_promoteReady admits env _) fun _ => respects_pure _

end Driving

section Settling

variable {kind : StepKind} {clocks : Clocks} (admits : kind.Admits clocks) {command : PendingCommandRecord}
variable (settles : ∀ row row' : CommandRow, row.sequence = command.commandSequence →
  row.Keeps row' → kind.command row row')
include admits

theorem steps_failInput (task : TaskRecord) (message reasonCode : String)
    (sequence : Nat) {eventKey : EventKey} (plain : eventKey.isPlain = true) :
    Respects (Steps kind) (failInput clocks task message reasonCode sequence eventKey) :=
  respects_bind (steps_transitionTask (admits.ordinary _ ⟨⟨rfl, rfl⟩, .inl plain⟩)) fun _ =>
    respects_pure _

include settles

theorem steps_settleClaimed {kind' : CommandRow → Bool} {errorCode errorMessage : Option String}
    (ended : state.isDeliverable = false) :
    Respects (Steps kind)
      (changeClaimed command kind' (settle state errorCode errorMessage)) :=
  steps_changeClaimed admits fun _ claimed _ =>
    settles _ _ (claimedBy_sequence claimed) ⟨⟨rfl, rfl, rfl, fun _ => rfl⟩,
      queued_of_ended rfl rfl ended, .inl rfl,
      rfl, unsettled_of_claimed (claimedBy_state claimed)⟩

theorem steps_rejectClaimedCommand (errorCode errorMessage : String) :
    Respects (Steps kind) (rejectClaimedCommand command errorCode errorMessage) :=
  respects_bind (steps_settleClaimed admits settles rfl) fun _ =>
    respects_bind (respects_when fun _ => steps_settleAssignedInbox) fun _ =>
      steps_insertCommandFact

theorem steps_rejectInputResponseAndFailTask (reasonCode message : String) :
    Respects (Steps kind)
      (rejectInputResponseAndFailTask clocks command reasonCode message) :=
  respects_bind respects_lockTask fun task =>
    respects_bind (steps_requireClaimedUpdate command) fun _ =>
      respects_bind (steps_updateCommands admits fun _ claimed =>
          settles _ _ (claimedBy_sequence claimed) ⟨⟨rfl, rfl, rfl, fun _ => rfl⟩,
            queued_of_ended rfl rfl (by dsimp only [settle]; split <;> rfl),
            .inl rfl, rfl,
            unsettled_of_claimed (claimedBy_state claimed)⟩) fun _ =>
        respects_bind (respects_when fun _ => steps_supersedeOpenRequests) fun _ =>
          respects_bind steps_settleAssignedInbox fun _ =>
            respects_bind (respects_when fun _ =>
                steps_failInput admits task _ _ _ rfl) fun _ =>
              respects_bind steps_insertCommandFact fun _ => respects_pure _

theorem steps_failInputResponseDelivery (message : String) :
    Respects (Steps kind) (failInputResponseDelivery clocks command message) :=
  respects_bind respects_lockTask fun task =>
    respects_bind (steps_settleClaimed admits settles rfl) fun _ =>
      respects_bind (respects_when fun _ => steps_supersedeOpenRequests) fun _ =>
        respects_bind steps_settleAssignedInbox fun _ =>
          respects_bind (respects_when fun _ =>
              steps_failInput admits task _ _ _ rfl) fun _ =>
            steps_insertCommandFact

theorem steps_exhaustAcknowledged (ack : CommandAck) (code message : String) :
    Respects (Steps kind) (exhaustAcknowledged clocks command ack code message) :=
  steps_changeClaimed admits fun _ claimed _ =>
    settles _ _ (claimedBy_sequence claimed)
      ⟨⟨rfl, rfl, rfl, fun _ => rfl⟩,
      queued_of_ended rfl rfl rfl, .inl rfl, rfl, fun _ => rfl⟩

theorem steps_completeInputAnswers (task : TaskRecord) (ack : CommandAck)
    (answers : List InputAnswer) :
    Respects (Steps kind) (completeInputAnswers clocks command task ack answers) := by
  refine respects_bind (respects_forEach fun answer _ => steps_answerRequest answer)
    fun _ => ?_
  refine respects_bind steps_settleAssignedInbox fun _ => ?_
  refine respects_bind respects_read fun tables => ?_
  refine respects_bind (steps_transitionTask (admits.ordinary _ ⟨?_, .inl rfl⟩)) fun _ => ?_
  · split
    · exact ⟨rfl, rfl⟩
    · exact ⟨rfl, rfl⟩
  · exact respects_bind (steps_changeClaimed admits fun _ claimed _ =>
      settles _ _ (claimedBy_sequence claimed) ⟨⟨rfl, rfl, rfl, fun _ => rfl⟩,
        queued_of_ended rfl rfl rfl, .inl rfl, rfl,
        unsettled_of_claimed (claimedBy_state claimed)⟩) fun _ =>
      steps_insertCommandFact

theorem steps_acknowledgeUpdateAndCompleteInputAnswers (ack : CommandAck)
    (answers : List InputAnswer) :
    Respects (Steps kind)
      (acknowledgeUpdateAndCompleteInputAnswers clocks command ack answers) := by
  refine respects_bind respects_lockTask fun task => ?_
  refine respects_bind (steps_requireClaimedUpdate command) fun _ => ?_
  have ended : ∀ (code message : String) (event : CommandEvent) (completion : UpdateCompletion),
      Respects (Steps kind) (do
        exhaustAcknowledged clocks command ack code message
        ignoreInputResponse command code
        insertCommandFact command.commandSequence event .exhausted command.attemptCount
        pure completion) :=
    fun code message event completion =>
      respects_bind (steps_exhaustAcknowledged admits settles ack code message) fun _ =>
        respects_bind (steps_ignoreInputResponse command code) fun _ =>
          respects_bind steps_insertCommandFact fun _ => respects_pure completion
  refine respects_ite (fun _ => ended _ _ _ _) fun _ => ?_
  refine respects_ite (fun _ => ended _ _ _ _) fun _ => ?_
  refine respects_bind respects_read fun tables => ?_
  refine respects_ite (fun _ => ?_) fun _ => ?_
  · exact respects_bind (respects_when fun _ => steps_supersedeOpenRequests) fun _ =>
      respects_bind (steps_exhaustAcknowledged admits settles ack _ _) fun _ =>
        respects_bind steps_settleAssignedInbox fun _ =>
          respects_bind steps_insertCommandFact fun _ => respects_pure _
  · exact respects_bind (steps_completeInputAnswers admits settles task ack answers)
      fun _ => respects_pure _

end Settling

section Ending

variable {kind : StepKind} {clocks : Clocks} (admits : kind.AdmitsSettling clocks)
include admits

theorem steps_failSafeStopUnconfirmed (command : PendingCommandRecord)
    (message : String) :
    Respects (Steps kind) (failSafeStopUnconfirmed clocks command message) := by
  refine respects_bind respects_lockTask fun row => ?_
  have exhausts : ∀ (matches' : CommandRow → Bool) (code : String), Respects (Steps kind)
      (updateCommands matches' (settle .exhausted (some code) (some message))) :=
    fun matches' code => steps_updateCommands admits.toAdmits fun other _ =>
      admits.keeps _ _ (keeps_settle rfl _ _ other)
  refine respects_ite (fun _ => ?_) fun _ => ?_
  · exact respects_bind (exhausts _ _) fun _ =>
      respects_bind steps_insertCommandFact fun _ => respects_pure _
  · refine respects_bind (steps_transitionTask (admits.fails _ ⟨⟨rfl, rfl⟩, rfl, _, rfl⟩))
      fun applied => ?_
    refine respects_bind (exhausts _ _) fun exhausted => ?_
    refine respects_ite (fun _ => respects_abort _) fun _ => ?_
    exact respects_bind steps_insertCommandFact fun _ => respects_pure _

theorem steps_applySnapshot (adapterRevision : Nat)
    (transition : SnapshotTransition) (inputRequests : List NewInputRequest) :
    Respects (Steps kind) (applySnapshot clocks adapterRevision transition inputRequests) := by
  refine respects_bind respects_lockTask fun existing => ?_
  refine respects_ite (fun _ => respects_pure _) fun _ => ?_
  refine respects_ite (fun _ => ?_) fun _ => ?_
  · exact respects_bind (respects_updateTaskRow fun _ => .single
      (.aside _ fun _ => .of_eq rfl rfl)) fun _ => respects_lockTask
  · refine respects_bind (steps_transitionTask
      (admits.ordinary _ ⟨⟨rfl, rfl⟩, .inr ⟨_, rfl, rfl⟩⟩)) fun applied => ?_
    refine respects_bind (steps_of_ordinary admits.toAdmits (ordinary_upsertInputRequests _))
      fun _ => ?_
    refine respects_bind (respects_when fun _ => ?_) fun _ => respects_pure _
    refine respects_bind (steps_updateCommands admits.toAdmits fun _ _ =>
      admits.keeps _ _ ⟨⟨rfl, rfl, rfl, fun _ => rfl⟩,
      queued_of_ended rfl rfl rfl, .inl rfl, rfl, fun _ => rfl⟩) fun exhausted => ?_
    exact respects_forEach fun row _ => steps_insertCommandFact

theorem steps_rejectUserCancel (command : PendingCommandRecord)
    (adapterRevision : Nat) (transition : SnapshotTransition) (ack : CommandAck)
    (withdraws : ∀ request : TaskTransitionRequest, request.WithdrawsStop → kind.fits request) :
    Respects (Steps kind) (rejectUserCancel clocks command adapterRevision transition ack) := by
  refine respects_bind respects_lockTask fun row => ?_
  refine respects_ite (fun _ => ?_) fun _ => ?_
  · exact respects_bind (steps_updateCommands admits.toAdmits fun _ _ =>
      admits.keeps _ _ ⟨⟨rfl, rfl, rfl, fun _ => rfl⟩,
      queued_of_ended rfl rfl rfl, .inl rfl, rfl, fun _ => rfl⟩) fun _ =>
        respects_bind steps_insertCommandFact fun _ => respects_pure _
  · exact respects_bind (steps_transitionTask (withdraws _ ⟨rfl, rfl, _, rfl⟩)) fun _ =>
      respects_bind (steps_changeClaimed admits.toAdmits fun _ _ _ =>
        admits.keeps _ _ ⟨⟨rfl, rfl, rfl, fun _ => rfl⟩,
      queued_of_ended rfl rfl rfl, .inl rfl, rfl, fun _ => rfl⟩) fun _ =>
          respects_bind steps_insertCommandFact fun _ => respects_pure _

end Ending

section Requests

variable {kind : StepKind} {clocks : Clocks} (admits : kind.Admits clocks)
include admits

theorem steps_claimFirst (instant : Instant) (ownerId : String) (leaseMilliseconds : Nat)
    (claims : ∀ row : CommandRow, row.state.isSettled = false →
      kind.command row (row.claim instant ownerId leaseMilliseconds)) :
    Respects (Steps kind) (claimFirst instant ownerId leaseMilliseconds) := by
  intro before answer after committed
  rcases claimFirst_eq_ok committed with ⟨-, rfl⟩ | ⟨chosen, member, claimable, -, -, rfl⟩
  · exact .refl
  · refine .head (.commands _ fun sequenced row isRow => ?_) (.single
      (.elsewhere before.admission before.uncertainty before.reconciliationAudit _
        before.inputRequests before.inbox fun other isKey => ?_))
    · split
      · rename_i same
        rw [sequenced.eq isRow member (beq_iff_eq.mp same)]
        exact claims chosen (unsettled_of_claimable claimable)
      · exact admits.drives row row (.refl row)
    · rcases mem_insertKey.mp isKey with known | rfl
      · exact .inl known
      · exact .inr rfl

theorem steps_claimDueCommands (now : Instant) (ownerId : String)
    (leaseMilliseconds : Nat) (selected : Bool)
    (claims : ∀ instant (row : CommandRow), row.state.isSettled = false →
      kind.command row (row.claim instant ownerId leaseMilliseconds)) :
    Respects (Steps kind) (claimDueCommands clocks now ownerId leaseMilliseconds selected) := by
  refine respects_rescue ?_
  refine respects_bind respects_read fun tables => ?_
  refine respects_bind (steps_supersedeForSafeStop admits fun row matched => ?_) fun _ => ?_
  · simp only [Bool.and_eq_true] at matched
    exact matched.1.2
  · exact respects_ite (fun _ => steps_claimFirst admits _ ownerId leaseMilliseconds (claims _))
      fun _ => respects_pure _

theorem steps_beginCancel (requestHash : String)
    (requests : ∀ request : TaskTransitionRequest, request.RequestsStop → kind.fits request) :
    Respects (Steps kind) (beginCancel clocks requestHash) := by
  refine respects_bind respects_lockTask fun previous => ?_
  refine respects_bind respects_read fun tables => ?_
  split
  · exact respects_bind steps_insertCommandFact fun _ => respects_pure _
  · refine respects_ite (fun _ => respects_abort _) fun _ => ?_
    refine respects_bind (steps_supersedeForSafeStop admits fun row matched => ?_) fun _ => ?_
    · simp only [Bool.and_eq_true] at matched
      exact matched.1
    · exact steps_createCommand (fun _ => admits.creates _
        (created_newCancelCommand (by decide) _ _ _ _ _ _) rfl) (fun _ => rfl)
        fun _ => respects_bind (steps_transitionTask (requests _ ⟨rfl, rfl, rfl⟩)) fun _ =>
          respects_bind steps_insertCommandFact fun _ => respects_pure _

theorem steps_beginCommand (commandType : CommandType) (requestHash : String)
    (payload : Json) (creates : ∀ sequence, kind.creates
      (newCommand sequence commandType requestHash payload clocks.database)) :
    Respects (Steps kind) (beginCommand clocks commandType requestHash payload) := by
  refine respects_bind respects_lockTask fun task => ?_
  refine respects_bind respects_read fun tables => ?_
  split
  · exact respects_bind steps_insertCommandFact fun _ => respects_pure _
  · refine respects_ite (fun _ => respects_abort _) fun _ => ?_
    refine respects_ite (fun _ => ?_) fun _ => ?_
    · split
      · exact respects_pure _
      · exact respects_abort _
    · split
      · exact respects_pure _
      · exact steps_requestCommand admits task commandType requestHash payload creates

end Requests

def RepositoryCall.isStopping : {β : Type} → RepositoryCall β → Bool
  | _, .publishAccepted .. => true
  | _, .acceptScheduled .. => true
  | _, .stopUnconfirmedBoundExecution .. => true
  | _, .claimExpiredDeadlines .. => true
  | _, _ => false

def RepositoryCall.isSettling : {β : Type} → RepositoryCall β → Bool
  | _, .rejectClaimedCommand .. => true
  | _, .rejectInputResponseAndFailTask .. => true
  | _, .failInputResponseDelivery .. => true
  | _, .acknowledgeUpdateAndCompleteInputAnswers .. => true
  | _, .failSafeStopUnconfirmed .. => true
  | _, .applySnapshot .. => true
  | _, .rejectUserCancel .. => true
  | _, _ => false

/-- The calls with steps of their own: a claim, the requests of a user for a stop, its
refusal, and the requests for other commands. -/
def RepositoryCall.isRequest : {β : Type} → RepositoryCall β → Bool
  | _, .claimDueCommands .. => true
  | _, .beginCancel .. => true
  | _, .recordCooperativeCancellationIntent => true
  | _, .rejectUserCancel .. => true
  | _, .beginCommand .. => true
  | _, _ => false

variable {kind : StepKind} {clocks : Clocks} {β : Type}

theorem respects_driving (admits : kind.Admits clocks) (deployment : Deployment)
    (call : RepositoryCall β) (stopping : call.isStopping = false)
    (settling : call.isSettling = false) (request : call.isRequest = false) :
    Respects (Steps kind) (call.tx deployment clocks) := by
  cases ordinary : call.isOrdinary with
  | true => exact steps_of_ordinary admits (respects_ordinary deployment clocks call ordinary)
  | false =>
    cases call with
    | retryClaimedCommand command nextAttemptAt errorCode errorMessage =>
      exact steps_retryClaimedCommand admits command nextAttemptAt errorCode errorMessage
    | recordCommandStarted command => exact steps_recordCommandStarted admits command
    | renewCommandClaim command leaseMilliseconds =>
      exact steps_renewCommandClaim admits command leaseMilliseconds
    | acknowledgeClaimedCommand command ack =>
      exact steps_acknowledgeClaimedCommand admits command ack
    | supersedeClaimedCommandForSafeStop command =>
      exact steps_supersedeClaimedCommandForSafeStop admits command
    | supersedeExpiredClaimedNormalCommandsForSafeStop =>
      exact steps_supersedeExpiredClaimedNormalCommandsForSafeStop admits
    | supersedeClaimedBusinessInputIfNoLongerCurrent command =>
      exact steps_supersedeClaimedBusinessInputIfNoLongerCurrent admits command
    | supersedeClaimedBusinessInterventionIfNotRunning command =>
      exact steps_supersedeClaimedBusinessInterventionIfNotRunning admits command
    | exhaustClaimedBusinessIntervention command message =>
      exact steps_exhaustClaimedBusinessIntervention admits command message
    | beginBusinessInterventionCommand commandId semanticHash payload =>
      exact steps_beginBusinessInterventionCommand admits deployment.env commandId
        semanticHash payload
    | acceptMcpInputResponses authorization inputResponses validateLockedResponse =>
      exact steps_acceptMcpInputResponses admits deployment.env authorization
        inputResponses validateLockedResponse
    | promotePendingInputResponses =>
      exact steps_promotePendingInputResponses admits deployment.env
    | publishAccepted | acceptScheduled | stopUnconfirmedBoundExecution
    | claimExpiredDeadlines => exact Bool.noConfusion stopping
    | rejectClaimedCommand | rejectInputResponseAndFailTask | failInputResponseDelivery
    | acknowledgeUpdateAndCompleteInputAnswers | failSafeStopUnconfirmed | applySnapshot =>
      exact Bool.noConfusion settling
    | claimDueCommands | beginCancel | recordCooperativeCancellationIntent | rejectUserCancel
    | beginCommand => exact Bool.noConfusion request
    | _ => exact Bool.noConfusion ordinary

theorem respects_stopping (admits : kind.AdmitsStops clocks) (deployment : Deployment)
    (call : RepositoryCall β) (settling : call.isSettling = false)
    (request : call.isRequest = false) :
    Respects (Steps kind) (call.tx deployment clocks) := by
  cases stopping : call.isStopping with
  | false => exact respects_driving admits.toAdmits deployment call stopping settling request
  | true =>
    cases call with
    | publishAccepted input => exact steps_publishAccepted admits deployment.env input
    | acceptScheduled input => exact steps_acceptScheduled admits deployment.env input
    | stopUnconfirmedBoundExecution claimOwner requestedAt =>
      exact steps_stopUnconfirmedBoundExecution admits deployment.env claimOwner
        requestedAt
    | claimExpiredDeadlines now =>
      exact steps_claimExpiredDeadlines admits deployment.env now
    | _ => exact Bool.noConfusion stopping

theorem respects_settling (admits : kind.AdmitsSettling clocks) (deployment : Deployment)
    (call : RepositoryCall β) (request : call.isRequest = false) :
    Respects (Steps kind) (call.tx deployment clocks) := by
  cases settling : call.isSettling with
  | false =>
    exact respects_stopping admits.toAdmitsStops deployment call settling request
  | true =>
    have settles {sequence : Nat} (row row' : CommandRow) (_ : row.sequence = sequence)
        (keeps : row.Keeps row') : kind.command row row' := admits.keeps row row' keeps
    cases call with
    | rejectClaimedCommand command errorCode errorMessage =>
      exact steps_rejectClaimedCommand admits.toAdmits settles errorCode errorMessage
    | rejectInputResponseAndFailTask command reasonCode message =>
      exact steps_rejectInputResponseAndFailTask admits.toAdmits settles reasonCode
        message
    | failInputResponseDelivery command message =>
      exact steps_failInputResponseDelivery admits.toAdmits settles message
    | acknowledgeUpdateAndCompleteInputAnswers command ack answers =>
      exact steps_acknowledgeUpdateAndCompleteInputAnswers admits.toAdmits settles ack
        answers
    | failSafeStopUnconfirmed command message =>
      exact steps_failSafeStopUnconfirmed admits command message
    | applySnapshot adapterRevision transition inputRequests =>
      exact steps_applySnapshot admits adapterRevision transition inputRequests
    | rejectUserCancel => exact Bool.noConfusion request
    | _ => exact Bool.noConfusion settling

structure StepKind.AdmitsAll (kind : StepKind) (clocks : Clocks) : Prop
    extends kind.AdmitsSettling clocks where
  requests : ∀ request : TaskTransitionRequest, request.RequestsStop → kind.fits request
  withdraws : ∀ request : TaskTransitionRequest, request.WithdrawsStop → kind.fits request
  claims : ∀ (instant : Instant) (ownerId : String) (leaseMilliseconds : Nat) (row : CommandRow),
    row.state.isSettled = false →
      kind.command row (row.claim instant ownerId leaseMilliseconds)
  createsAny : ∀ sequence commandType requestHash payload,
    kind.creates (newCommand sequence commandType requestHash payload clocks.database)

theorem respects_all (admits : kind.AdmitsAll clocks) (deployment : Deployment)
    (call : RepositoryCall β) :
    Respects (Steps kind) (call.tx deployment clocks) := by
  cases request : call.isRequest with
  | false => exact respects_settling admits.toAdmitsSettling deployment call request
  | true =>
    cases call with
    | claimDueCommands now ownerId leaseMilliseconds selected =>
      exact steps_claimDueCommands admits.toAdmits now ownerId leaseMilliseconds
        selected fun instant => admits.claims instant ownerId leaseMilliseconds
    | beginCancel requestHash =>
      exact steps_beginCancel admits.toAdmits requestHash admits.requests
    | recordCooperativeCancellationIntent =>
      exact steps_recordCooperativeCancellationIntent clocks admits.requests
    | rejectUserCancel command adapterRevision transition ack =>
      exact steps_rejectUserCancel admits.toAdmitsSettling command adapterRevision
        transition ack admits.withdraws
    | beginCommand commandType requestHash payload =>
      exact steps_beginCommand admits.toAdmits commandType requestHash payload
        fun _ => admits.createsAny _ _ _ _
    | _ => exact Bool.noConfusion request

end SdarRuntime
