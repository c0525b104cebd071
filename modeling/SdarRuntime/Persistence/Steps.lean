import SdarRuntime.Persistence.Statements

/-!
What transactions do to the rows of a task, as steps. The ordinary steps are the ones that
leave commands, responses and stops alone. The steps of a kind also change and create
commands and hand the kernel the updates the kind admits; what they do to the responses and
the outbox is not said.
-/

namespace SdarRuntime

open Transaction

def TaskRecord.core (row : TaskRecord) : TaskRecord :=
  { row with
    statusMessage := none
    runtimeRevision := 0
    handleExpiresAt := none
    expiredAt := none
    lastConfirmedAt := none
    updatedAt := 0
    runtimeUpdatedAt := 0
    scheduleClaimOwner := none
    scheduleClaimUntil := none
    nextRecoveryAt := 0
    recoveryFailureCount := 0
    nextCommandSequence := 0 }

structure Aside (row row' : TaskRecord) : Prop where
  core : row'.core = row.core
  sequence : row.nextCommandSequence ≤ row'.nextCommandSequence

theorem Aside.column {α : Type} {row row' : TaskRecord} (aside : Aside row row')
    (column : TaskRecord → α) (kept : ∀ row, column row.core = column row) :
    column row' = column row := by
  rw [← kept row', aside.core, kept row]

section Aside

variable {row row' : TaskRecord} (aside : Aside row row')
include aside

theorem Aside.internalState : row'.internalState = row.internalState :=
  aside.column TaskRecord.internalState fun _ => rfl

theorem Aside.mcpStatus : row'.mcpStatus = row.mcpStatus :=
  aside.column TaskRecord.mcpStatus fun _ => rfl

theorem Aside.result : row'.result = row.result :=
  aside.column TaskRecord.result fun _ => rfl

theorem Aside.error : row'.error = row.error :=
  aside.column TaskRecord.error fun _ => rfl

theorem Aside.adapterRevision : row'.adapterRevision = row.adapterRevision :=
  aside.column TaskRecord.adapterRevision fun _ => rfl

theorem Aside.observationRevision : row'.observationRevision = row.observationRevision :=
  aside.column TaskRecord.observationRevision fun _ => rfl

theorem Aside.version : row'.version = row.version :=
  aside.column TaskRecord.version fun _ => rfl

theorem Aside.cancelRequested : row'.cancelRequested = row.cancelRequested :=
  aside.column TaskRecord.cancelRequested fun _ => rfl

theorem Aside.stopReason : row'.stopReason = row.stopReason :=
  aside.column TaskRecord.stopReason fun _ => rfl

end Aside

theorem Aside.of_eq {row row' : TaskRecord} (core : row'.core = row.core)
    (sequence : row'.nextCommandSequence = row.nextCommandSequence) : Aside row row' :=
  ⟨core, le_of_eq sequence.symm⟩

theorem Aside.refl (row : TaskRecord) : Aside row row := .of_eq rfl rfl

def StopReason.isRequired : StopReason → Bool
  | .userRequested => false
  | .deadlineReached | .startWindowMissed => true

def TaskTransitionUpdate.Neutral (change : TaskTransitionUpdate) : Prop :=
  change.cancelRequested = none ∧ change.stopReason = none

def EventKey.isPlain : EventKey → Bool
  | .adapter _ | .cancelRejected _ | .safeStopFailed _ => false
  | _ => true

/-- A transition that leaves the stop alone; under the key of an adapter revision it records
that revision. -/
structure TaskTransitionRequest.Ordinary (request : TaskTransitionRequest) : Prop where
  neutral : request.update.Neutral
  key : request.eventKey.isPlain = true ∨
    ∃ revision, request.eventKey = .adapter revision ∧
      request.update.adapterRevision = some revision

structure TaskTransitionRequest.RequiresStop (request : TaskTransitionRequest) : Prop where
  cancelRequested : request.update.cancelRequested = some true
  stopReason : ∃ reason : StopReason,
    request.update.stopReason = some (some reason) ∧ reason.isRequired = true
  key : request.eventKey.isPlain = true

structure TaskTransitionRequest.RequestsStop (request : TaskTransitionRequest) : Prop where
  cancelRequested : request.update.cancelRequested = some true
  stopReason : request.update.stopReason = some (some .userRequested)
  key : request.eventKey.isPlain = true

structure TaskTransitionRequest.WithdrawsStop (request : TaskTransitionRequest) : Prop where
  cancelRequested : request.update.cancelRequested = some false
  stopReason : request.update.stopReason = some none
  key : ∃ sequence, request.eventKey = .cancelRejected sequence

structure TaskTransitionRequest.FailsStop (request : TaskTransitionRequest) : Prop where
  neutral : request.update.Neutral
  internalState : request.update.internalState = some .terminalFailed
  key : ∃ sequence, request.eventKey = .safeStopFailed sequence

/-- The first row of a task: it has no stop, and revision 1 is its first observation. -/
structure Publishes (row : TaskRecord) (observations observations' : List ObservationRow) :
    Prop where
  unstopped : row.stopReason = none
  first : row.observationRevision = 1
  observed : observations = [] →
    ∃ observation : ObservationRow, observations' = [observation] ∧ observation.revision = 1

structure InputRequestRow.Opens (row : InputRequestRow) (requests : List InputRequestRow) :
    Prop where
  fresh : ∀ other ∈ requests, other.key ≠ row.key
  status : row.status = .open

structure InputRequestRow.Describes (row row' : InputRequestRow) : Prop where
  key : row'.key = row.key
  status : row'.status = row.status
  responseHash : row'.responseHash = row.responseHash

inductive OrdinaryStep : TaskTables → TaskTables → Prop where
  | transition {before : TaskTables} (request : TaskTransitionRequest) (row : TaskRecord)
      (applies : Applies request row before) (ordinary : request.Ordinary) :
      OrdinaryStep before (before.apply request row)
  | aside {before : TaskTables} (change : TaskRecord → TaskRecord)
      (aside : ∀ row, Aside row (change row)) :
      OrdinaryStep before { before with task := before.task.map change }
  | publish {before : TaskTables} (row : TaskRecord) (observations : List ObservationRow)
      (unpublished : before.task = none)
      (publishes : Publishes row before.observations observations) :
      OrdinaryStep before { before with task := some row, observations := observations }
  | announce {before : TaskTables} (key : EventKey) (plain : key.isPlain = true) :
      OrdinaryStep before { before with outbox := insertKey key before.outbox }
  | forget {before : TaskTables} (forgotten : EventKey → Bool) :
      OrdinaryStep before { before with outbox := before.outbox.filter forgotten }
  | admission {before : TaskTables} (admission : Option AdmissionIntentRecord)
      (uncertainty : Option DispatchUncertainty) (audit : List ReconciliationAudit) :
      OrdinaryStep before { before with
        admission := admission
        uncertainty := uncertainty
        reconciliationAudit := audit }
  | opens {before : TaskTables} (row : InputRequestRow) (opens : row.Opens before.inputRequests) :
      OrdinaryStep before { before with inputRequests := before.inputRequests ++ [row] }
  | describes {before : TaskTables} (change : InputRequestRow → InputRequestRow)
      (describes : ∀ row : InputRequestRow, row.Describes (change row)) :
      OrdinaryStep before { before with inputRequests := before.inputRequests.map change }

abbrev OrdinarySteps : TaskTables → TaskTables → Prop := Relation.ReflTransGen OrdinaryStep

/-- The same command, whatever became of it; only a CANCEL gets another payload. -/
structure CommandRow.SameCommand (row row' : CommandRow) : Prop where
  sequence : row'.sequence = row.sequence
  commandType : row'.commandType = row.commandType
  requestHash : row'.requestHash = row.requestHash
  payload : row.commandType ≠ .cancel → row'.payload = row.payload

def CommandState.isSettled : CommandState → Bool
  | .rejected | .exhausted => true
  | _ => false

/-- The command keeps its place in the queue of its task, gives up its claim, or leaves the
queue. -/
structure CommandRow.Queued (row row' : CommandRow) : Prop where
  createdAt : row'.createdAt = row.createdAt
  priority : row.isNormal = true → row'.priority = row.priority
  stopPriority : row.isNormal = false → 0 < row.priority → 0 < row'.priority
  place : row'.state = row.state ∧ row'.nextAttemptAt = row.nextAttemptAt ∨
    row.state = .claimed ∧ row'.state ≠ .claimed ∨ row'.state.isDeliverable = false

/-- The claim of the command is kept or given up, the attempts are counted as before, and a
settled command stays settled. -/
structure CommandRow.Keeps (row row' : CommandRow) : Prop extends row.SameCommand row' where
  queued : row.Queued row'
  claimOwner : row'.claimOwner = none ∨ row'.claimOwner = row.claimOwner
  attemptCount : row'.attemptCount = row.attemptCount
  settled : row.state.isSettled = true → row'.state.isSettled = true

structure CommandRow.Drives (row row' : CommandRow) : Prop extends row.Keeps row' where
  active : row.isActiveStop = true → row'.isActiveStop = true

/-- A new command: due, unclaimed and without attempts. Stops alone have a priority. -/
structure CommandRow.Created (clocks : Clocks) (row : CommandRow) : Prop where
  state : row.state = .pending
  claimOwner : row.claimOwner = none
  attemptCount : row.attemptCount = 0
  createdAt : row.createdAt = clocks.database
  due : row.isNormal = true → row.nextAttemptAt = clocks.database ∧ row.priority = 0
  stopPriority : row.isNormal = false → 0 < row.priority

theorem CommandRow.SameCommand.refl (row : CommandRow) : row.SameCommand row :=
  ⟨rfl, rfl, rfl, fun _ => rfl⟩

/-- Neither the state nor the time of the next attempt changes, and only a stop may get another
priority. -/
theorem CommandRow.queued_of_same {row row' : CommandRow} (createdAt : row'.createdAt = row.createdAt)
    (priority : row'.priority = row.priority) (state : row'.state = row.state)
    (nextAttemptAt : row'.nextAttemptAt = row.nextAttemptAt) : row.Queued row' := by
  constructor
  · exact createdAt
  · exact fun _ => priority
  · intro _ positive
    rw [priority]
    exact positive
  · exact Or.inl ⟨state, nextAttemptAt⟩

theorem CommandRow.queued_of_released {row row' : CommandRow}
    (createdAt : row'.createdAt = row.createdAt) (priority : row'.priority = row.priority)
    (claimed : row.state = .claimed) (released : row'.state ≠ .claimed) : row.Queued row' := by
  constructor
  · exact createdAt
  · exact fun _ => priority
  · intro _ positive
    rw [priority]
    exact positive
  · exact Or.inr (Or.inl ⟨claimed, released⟩)

theorem CommandRow.queued_of_ended {row row' : CommandRow} (createdAt : row'.createdAt = row.createdAt)
    (priority : row'.priority = row.priority) (ended : row'.state.isDeliverable = false) :
    row.Queued row' := by
  constructor
  · exact createdAt
  · exact fun _ => priority
  · intro _ positive
    rw [priority]
    exact positive
  · exact Or.inr (Or.inr ended)

theorem CommandRow.Drives.refl (row : CommandRow) : row.Drives row :=
  ⟨⟨.refl row, CommandRow.queued_of_same rfl rfl rfl rfl, .inr rfl, rfl, id⟩, id⟩

def TaskTables.Sequenced (tables : TaskTables) : Prop :=
  (tables.commands.map CommandRow.sequence).Nodup

theorem TaskTables.Sequenced.eq {tables : TaskTables} (sequenced : tables.Sequenced)
    {row other : CommandRow} (member : row ∈ tables.commands) (member' : other ∈ tables.commands)
    (same : row.sequence = other.sequence) : row = other :=
  List.inj_on_of_nodup_map sequenced member member' same

/-- What the steps of a kind may do: the transitions they ask the kernel for, what becomes of
a command, and the commands they create. -/
structure StepKind where
  fits : TaskTransitionRequest → Prop
  command : CommandRow → CommandRow → Prop
  creates : CommandRow → Prop

inductive Step (kind : StepKind) : TaskTables → TaskTables → Prop where
  | transition {before : TaskTables} (request : TaskTransitionRequest) (row : TaskRecord)
      (applies : Applies request row before) (fits : kind.fits request) :
      Step kind before (before.apply request row)
  | aside {before : TaskTables} (change : TaskRecord → TaskRecord)
      (aside : ∀ row, Aside row (change row)) :
      Step kind before { before with task := before.task.map change }
  | publish {before : TaskTables} (row : TaskRecord) (observations : List ObservationRow)
      (unpublished : before.task = none)
      (publishes : Publishes row before.observations observations) :
      Step kind before { before with task := some row, observations := observations }
  | commands {before : TaskTables} (change : CommandRow → CommandRow)
      (permitted : before.Sequenced → ∀ row ∈ before.commands, kind.command row (change row)) :
      Step kind before { before with commands := before.commands.map change }
  | insertCommand {before : TaskTables} (row : CommandRow) (created : kind.creates row)
      (fresh : commandConflict row before.commands = none)
      (numbered : ∃ task, before.task = some task ∧ row.sequence = task.nextCommandSequence) :
      Step kind before { before with commands := before.commands ++ [row] }
  | elsewhere {before : TaskTables} (admission : Option AdmissionIntentRecord)
      (uncertainty : Option DispatchUncertainty) (audit : List ReconciliationAudit)
      (outbox : List EventKey) (inputRequests : List InputRequestRow) (inbox : List InboxRow)
      (plain : ∀ key ∈ outbox, key ∈ before.outbox ∨ key.isPlain = true) :
      Step kind before { before with
        admission := admission
        uncertainty := uncertainty
        reconciliationAudit := audit
        outbox := outbox
        inputRequests := inputRequests
        inbox := inbox }

abbrev Steps (kind : StepKind) : TaskTables → TaskTables → Prop :=
  Relation.ReflTransGen (Step kind)

theorem mem_insertKey {key other : EventKey} {outbox : List EventKey} :
    other ∈ insertKey key outbox ↔ other ∈ outbox ∨ other = key := by
  unfold insertKey
  split
  · rename_i known
    exact ⟨.inl, fun either => either.elim id fun same => same ▸ known⟩
  · rw [List.mem_append, List.mem_singleton]

theorem OrdinaryStep.step {kind : StepKind}
    (fits : ∀ request : TaskTransitionRequest, request.Ordinary → kind.fits request)
    {before after : TaskTables} (step : OrdinaryStep before after) : Step kind before after := by
  have kept : ∀ key ∈ before.outbox, key ∈ before.outbox ∨ key.isPlain = true :=
    fun _ member => .inl member
  cases step with
  | transition request row applies ordinary =>
    exact .transition request row applies (fits _ ordinary)
  | aside change aside => exact .aside change aside
  | publish row observations unpublished publishes =>
    exact .publish row observations unpublished publishes
  | announce key plain =>
    refine .elsewhere _ _ _ _ _ _ fun other member => ?_
    rcases mem_insertKey.mp member with known | rfl
    · exact .inl known
    · exact .inr plain
  | forget forgotten =>
    exact .elsewhere _ _ _ _ _ _ fun _ member => .inl (List.mem_of_mem_filter member)
  | admission admission uncertainty audit => exact .elsewhere _ _ _ _ _ _ kept
  | opens row opens => exact .elsewhere _ _ _ _ _ _ kept
  | describes change describes => exact .elsewhere _ _ _ _ _ _ kept

theorem OrdinarySteps.steps {kind : StepKind}
    (fits : ∀ request : TaskTransitionRequest, request.Ordinary → kind.fits request)
    {before after : TaskTables} (steps : OrdinarySteps before after) : Steps kind before after :=
  Relation.ReflTransGen.mono (fun _ _ step => OrdinaryStep.step fits step) _ _ steps

end SdarRuntime
