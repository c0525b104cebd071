import SdarRuntime.Persistence.Repository

/-!
What each statement of a transaction does to the rows of a task, and the row a kernel
transition leaves.
-/

namespace SdarRuntime

open Transaction

section Columns

variable (request : TaskTransitionRequest) (row : TaskRecord)

/-- The retention and confirmation columns are all the kernel sets after the update. -/
theorem TaskTransitionRequest.row_eq :
    ∃ terminalAt handleExpiresAt lastConfirmedAt,
      request.row row =
        { request.update.assign request.observation.occurredAt row with
          terminalAt := terminalAt
          handleExpiresAt := handleExpiresAt
          lastConfirmedAt := lastConfirmedAt } := by
  unfold TaskTransitionRequest.row confirm retain
  split
  · split
    · exact ⟨_, _, _, rfl⟩
    · split
      · exact ⟨_, _, _, rfl⟩
      · exact ⟨_, _, _, rfl⟩
  · split
    · exact ⟨_, _, _, rfl⟩
    · split
      · exact ⟨_, _, _, rfl⟩
      · exact ⟨_, _, _, rfl⟩

@[simp] theorem TaskTransitionRequest.row_version :
    (request.row row).version = row.version + 1 := by
  obtain ⟨_, _, _, eq⟩ := request.row_eq row
  rw [eq]
  rfl

@[simp] theorem TaskTransitionRequest.row_observationRevision :
    (request.row row).observationRevision = row.observationRevision + 1 := by
  obtain ⟨_, _, _, eq⟩ := request.row_eq row
  rw [eq]
  rfl

@[simp] theorem TaskTransitionRequest.row_internalState :
    (request.row row).internalState =
      request.update.internalState.getD row.internalState := by
  obtain ⟨_, _, _, eq⟩ := request.row_eq row
  rw [eq]
  rfl

@[simp] theorem TaskTransitionRequest.row_result :
    (request.row row).result = request.update.result.getD row.result := by
  obtain ⟨_, _, _, eq⟩ := request.row_eq row
  rw [eq]
  rfl

@[simp] theorem TaskTransitionRequest.row_adapterRevision :
    (request.row row).adapterRevision =
      request.update.adapterRevision.getD row.adapterRevision := by
  obtain ⟨_, _, _, eq⟩ := request.row_eq row
  rw [eq]
  rfl

@[simp] theorem TaskTransitionRequest.row_cancelRequested :
    (request.row row).cancelRequested =
      request.update.cancelRequested.getD row.cancelRequested := by
  obtain ⟨_, _, _, eq⟩ := request.row_eq row
  rw [eq]
  rfl

@[simp] theorem TaskTransitionRequest.row_stopReason :
    (request.row row).stopReason = request.update.stopReason.getD row.stopReason := by
  obtain ⟨_, _, _, eq⟩ := request.row_eq row
  rw [eq]
  rfl

@[simp] theorem TaskTransitionRequest.row_nextCommandSequence :
    (request.row row).nextCommandSequence = row.nextCommandSequence := by
  obtain ⟨_, _, _, eq⟩ := request.row_eq row
  rw [eq]
  rfl

end Columns

structure Applies (request : TaskTransitionRequest) (row : TaskRecord) (before : TaskTables) :
    Prop where
  found : before.task = some row
  fresh : request.eventKey ∉ before.outbox
  live : isTerminalState row.internalState = false
  newer : ∀ revision ∈ request.update.adapterRevision, row.adapterRevision < revision
  unobserved : ∀ observation ∈ before.observations,
    observation.revision ≠ row.observationRevision + 1

def TaskTables.apply (before : TaskTables) (request : TaskTransitionRequest)
    (row : TaskRecord) : TaskTables :=
  { before with
    task := some (request.row row)
    observations := before.observations ++
      [request.observation.row (row.observationRevision + 1)]
    outbox := before.outbox ++ [request.eventKey] }

section Statements

variable {R : TaskTables → TaskTables → Prop}

variable {row : TaskRecord} {before after : TaskTables}

theorem lockTask_eq_ok :
    lockTask before = .ok (row, after) ↔ before.task = some row ∧ before = after := by
  simp only [lockTask, bind_eq_ok, read_eq_ok]
  constructor
  · rintro ⟨tables, _, ⟨rfl, rfl⟩, committed⟩
    cases found : before.task with
    | none => simp [found, abort_eq_ok] at committed
    | some row' =>
      simp only [found, pure_eq_ok] at committed
      obtain ⟨rfl, rfl⟩ := committed
      exact ⟨rfl, rfl⟩
  · rintro ⟨found, rfl⟩
    exact ⟨before, before, ⟨rfl, rfl⟩, by simp [found, pure_eq_ok]⟩

theorem respects_lockTask [Std.Refl R] : Respects R lockTask := by
  intro before row after committed
  obtain ⟨-, rfl⟩ := lockTask_eq_ok.mp committed
  exact refl_of R before

variable {request : TaskTransitionRequest} {outcome : TransitionOutcome}

theorem transitionTask_eq_ok (committed : transitionTask request before = .ok (outcome, after)) :
    (∃ row, before.task = some row ∧ outcome = { row := row, applied := false } ∧
        after = before ∧
        (request.eventKey ∈ before.outbox ∨ isTerminalState row.internalState = true ∨
          ∃ revision ∈ request.update.adapterRevision, revision ≤ row.adapterRevision)) ∨
      ∃ row, Applies request row before ∧ (∀ version ∈ request.expectedVersion,
          row.version = version) ∧
        outcome = { row := request.row row, applied := true } ∧
        after = before.apply request row := by
  simp only [transitionTask, bind_eq_ok, lockTask_eq_ok, read_eq_ok] at committed
  obtain ⟨row, _, ⟨found, rfl⟩, _, _, ⟨rfl, rfl⟩, committed⟩ := committed
  split at committed
  · rename_i known
    obtain ⟨rfl, rfl⟩ := pure_eq_ok.mp committed
    exact .inl ⟨row, found, rfl, rfl, .inl known⟩
  · rename_i fresh
    split at committed
    · rename_i terminal
      obtain ⟨rfl, rfl⟩ := pure_eq_ok.mp committed
      exact .inl ⟨row, found, rfl, rfl, .inr (.inl terminal)⟩
    · rename_i live
      split at committed
      · exact (abort_eq_ok.mp committed).elim
      · rename_i expected
        split at committed
        · rename_i stale
          obtain ⟨rfl, rfl⟩ := pure_eq_ok.mp committed
          exact .inl ⟨row, found, rfl, rfl, .inr (.inr stale)⟩
        · rename_i newer
          simp only [bind_eq_ok, update_eq_ok, insertTaskObservation, read_eq_ok] at committed
          obtain ⟨_, _, rfl, _, _, ⟨_, _, ⟨rfl, rfl⟩, inserted⟩, _, _, rfl, committed⟩ := committed
          split at inserted
          · exact (abort_eq_ok.mp inserted).elim
          · rename_i unobserved
            rw [update_eq_ok] at inserted
            subst inserted
            obtain ⟨rfl, rfl⟩ := pure_eq_ok.mp committed
            refine .inr ⟨row, ⟨found, fresh, by simpa using live, ?_, ?_⟩, ?_, rfl, ?_⟩
            · intro revision isRevision
              by_contra notNewer
              exact newer ⟨revision, isRevision, by omega⟩
            · intro observation member same
              refine unobserved (List.any_eq_true.mpr ⟨observation, member, ?_⟩)
              simp [TransitionObservation.row, same]
            · intro version isVersion
              by_contra different
              exact expected ⟨version, isVersion, different⟩
            · simp [TaskTables.apply, TaskTransitionRequest.row_observationRevision]

/-- At the version it expects, on a row whose next revision is free, the kernel commits. -/
theorem transitionTask_ok {before : TaskTables} (found : before.task = some row)
    (expected : ∀ version ∈ request.expectedVersion, row.version = version)
    (unobserved : ∀ observation ∈ before.observations,
      observation.revision ≠ row.observationRevision + 1) :
    ∃ outcome after, transitionTask request before = .ok (outcome, after) ∧
      after.commands = before.commands := by
  unfold transitionTask
  rw [bind_of_ok (lockTask_eq_ok.mpr ⟨found, rfl⟩), read_bind]
  split
  · exact ⟨_, _, rfl, rfl⟩
  split
  · exact ⟨_, _, rfl, rfl⟩
  split
  · rename_i conflict
    obtain ⟨version, isVersion, different⟩ := conflict
    exact absurd (expected version isVersion) different
  split
  · exact ⟨_, _, rfl, rfl⟩
  · rw [update_bind]
    have free : ¬(before.observations.any fun other => other.revision ==
        (request.observation.row (request.row row).observationRevision).revision) = true := by
      rw [List.any_eq_true]
      rintro ⟨observation, member, same⟩
      refine unobserved observation member ?_
      simpa [TransitionObservation.row] using same
    have inserted : insertTaskObservation
        (request.observation.row (request.row row).observationRevision)
        { before with task := some (request.row row) } = .ok ((), { before with
          task := some (request.row row)
          observations := before.observations ++
            [request.observation.row (request.row row).observationRevision] }) := by
      unfold insertTaskObservation
      rw [read_bind, if_neg free]
      rfl
    rw [bind_of_ok inserted, update_bind]
    exact ⟨_, _, rfl, rfl⟩

theorem transitionTask_stale (found : before.task = some row) {revision : Nat}
    (isRevision : request.update.adapterRevision = some revision)
    (stale : revision ≤ row.adapterRevision)
    (committed : transitionTask request before = .ok (outcome, after)) : after = before := by
  rcases transitionTask_eq_ok committed with ⟨_, -, -, same, -⟩ | ⟨other, applies, -, -, -⟩
  · exact same
  · have isOther := applies.found
    rw [found] at isOther
    cases isOther
    have newer := applies.newer revision isRevision
    omega

theorem lockClaimed_eq_ok {state : InternalTaskState} {claimOwner lost : String} :
    lockClaimed state claimOwner lost before = .ok (row, after) ↔
      (before.task = some row ∧ row.internalState = state ∧
        row.scheduleClaimOwner = some claimOwner) ∧ after = before := by
  simp only [lockClaimed, bind_eq_ok, read_eq_ok]
  constructor
  · rintro ⟨_, _, ⟨rfl, rfl⟩, committed⟩
    cases found : before.task with
    | none =>
      simp only [found] at committed
      exact (abort_eq_ok.mp committed).elim
    | some other =>
      simp only [found] at committed
      split at committed
      · rename_i claimed
        obtain ⟨rfl, rfl⟩ := pure_eq_ok.mp committed
        exact ⟨⟨rfl, claimed⟩, rfl⟩
      · exact (abort_eq_ok.mp committed).elim
  · rintro ⟨⟨found, claimed⟩, rfl⟩
    exact ⟨after, after, ⟨rfl, rfl⟩, by simp [found, claimed, pure_eq_ok]⟩

theorem respects_transitionTask [Std.Refl R]
    (moves : ∀ before row, Applies request row before → R before (before.apply request row)) :
    Respects R (transitionTask request) := by
  intro before outcome after committed
  rcases transitionTask_eq_ok committed with ⟨row, -, -, rfl, -⟩ | ⟨row, applies, -, -, rfl⟩
  · exact refl_of R _
  · exact moves before row applies

theorem respects_updateTaskRow {change : TaskRecord → TaskRecord}
    (moves : ∀ before : TaskTables, R before { before with task := before.task.map change }) :
    Respects R (updateTaskRow change) :=
  respects_update moves

variable {matches' : CommandRow → Bool} {change : CommandRow → CommandRow}

theorem updateCommands_eq_ok {changed : List CommandRow} :
    updateCommands matches' change before = .ok (changed, after) ↔
      changed = (before.commands.filter matches').map change ∧
        after = { before with commands := changeWhere matches' change before.commands } := by
  simp only [updateCommands, bind_eq_ok, read_eq_ok, update_eq_ok]
  constructor
  · rintro ⟨_, _, ⟨rfl, rfl⟩, _, _, rfl, committed⟩
    obtain ⟨rfl, rfl⟩ := pure_eq_ok.mp committed
    exact ⟨rfl, rfl⟩
  · rintro ⟨rfl, rfl⟩
    exact ⟨before, before, ⟨rfl, rfl⟩, (), _, rfl, pure_eq_ok.mpr ⟨rfl, rfl⟩⟩

variable {answer : Unit}

theorem changeClaimed_eq_ok {command : PendingCommandRecord} {kind : CommandRow → Bool}
    (committed : changeClaimed command kind change before = .ok (answer, after)) :
    (∃ row ∈ before.commands,
        row.claimedBy command.commandSequence command.claimOwner = true ∧ kind row = true) ∧
      after = { before with
        commands := changeWhere (fun row =>
          row.claimedBy command.commandSequence command.claimOwner && kind row) change
          before.commands } := by
  simp only [changeClaimed, bind_eq_ok, updateCommands_eq_ok] at committed
  obtain ⟨changed, _, ⟨rfl, rfl⟩, committed⟩ := committed
  split at committed
  · rename_i one
    obtain ⟨-, rfl⟩ := pure_eq_ok.mp committed
    rw [List.length_map] at one
    obtain ⟨row, only⟩ := List.length_eq_one_iff.mp one
    have member : row ∈ before.commands.filter fun row =>
        row.claimedBy command.commandSequence command.claimOwner && kind row := by
      rw [only]
      exact List.mem_singleton_self row
    rw [List.mem_filter, Bool.and_eq_true] at member
    exact ⟨⟨row, member.1, member.2⟩, rfl⟩
  · exact (abort_eq_ok.mp committed).elim

theorem respects_updateCommands (moves : ∀ before : TaskTables,
      R before { before with commands := changeWhere matches' change before.commands }) :
    Respects R (updateCommands matches' change) := by
  intro before changed after committed
  obtain ⟨-, rfl⟩ := updateCommands_eq_ok.mp committed
  exact moves before

theorem insertCommand_eq_ok {row : CommandRow} :
    insertCommand row before = .ok (answer, after) ↔
      commandConflict row before.commands = none ∧
        after = { before with commands := before.commands ++ [row] } := by
  simp only [insertCommand, bind_eq_ok, read_eq_ok]
  constructor
  · rintro ⟨_, _, ⟨rfl, rfl⟩, committed⟩
    cases fresh : commandConflict row before.commands with
    | some constraint =>
      rw [fresh] at committed
      exact (abort_eq_ok.mp committed).elim
    | none =>
      rw [fresh] at committed
      exact ⟨rfl, (update_eq_ok.mp committed).symm⟩
  · rintro ⟨fresh, rfl⟩
    exact ⟨before, before, ⟨rfl, rfl⟩, by rw [fresh]; rfl⟩

theorem createCommand_eq_ok {α : Type} {command : Nat → CommandRow} {rest : Nat → Tx α} {answer : α}
    (committed : (do
      let sequence ← nextCommandSequence
      insertCommand (command sequence)
      rest sequence : Tx α) before = .ok (answer, after)) :
    ∃ task, before.task = some task ∧
      commandConflict (command (task.nextCommandSequence + 1)) before.commands = none ∧
      rest (task.nextCommandSequence + 1) { before with
        task := some task.countCommand
        commands := before.commands ++ [command (task.nextCommandSequence + 1)] } =
          .ok (answer, after) := by
  simp only [nextCommandSequence, bind_eq_ok, updateTaskRow, update_eq_ok, lockTask_eq_ok,
    insertCommand_eq_ok] at committed
  obtain ⟨_, _, ⟨_, _, rfl, counted, _, ⟨found, rfl⟩, next⟩, _, _, ⟨fresh, rfl⟩, committed⟩ :=
    committed
  obtain ⟨rfl, rfl⟩ := pure_eq_ok.mp next
  obtain ⟨task, isTask, rfl⟩ := Option.map_eq_some_iff.mp found
  refine ⟨task, isTask, fresh, ?_⟩
  rw [isTask] at committed
  exact committed

def insertKey (key : EventKey) (outbox : List EventKey) : List EventKey :=
  if key ∈ outbox then outbox else outbox ++ [key]

theorem insertOutbox_eq (key : EventKey) :
    insertOutbox key =
      Transaction.update fun tables => { tables with outbox := insertKey key tables.outbox } := by
  unfold insertOutbox insertKey
  congr 1
  funext tables
  split
  · rfl
  · rfl

theorem respects_insertOutbox {key : EventKey}
    (moves : ∀ before : TaskTables, R before { before with outbox := insertKey key before.outbox }) :
    Respects R (insertOutbox key) := by
  rw [insertOutbox_eq]
  exact respects_update moves

variable {matches' : InboxRow → Bool} {change : InboxRow → InboxRow} {changed : Nat}

theorem updateInbox_eq_ok :
    updateInbox matches' change before = .ok (changed, after) ↔
      changed = (before.inbox.filter matches').length ∧
        after = { before with inbox := changeWhere matches' change before.inbox } := by
  simp only [updateInbox, bind_eq_ok, read_eq_ok, update_eq_ok]
  constructor
  · rintro ⟨_, _, ⟨rfl, rfl⟩, _, _, rfl, committed⟩
    obtain ⟨rfl, rfl⟩ := pure_eq_ok.mp committed
    exact ⟨rfl, rfl⟩
  · rintro ⟨rfl, rfl⟩
    exact ⟨before, before, ⟨rfl, rfl⟩, (), _, rfl, pure_eq_ok.mpr ⟨rfl, rfl⟩⟩

theorem respects_updateInbox (moves : ∀ before : TaskTables,
      R before { before with inbox := changeWhere matches' change before.inbox }) :
    Respects R (updateInbox matches' change) := by
  intro before changed after committed
  obtain ⟨-, rfl⟩ := updateInbox_eq_ok.mp committed
  exact moves before

variable {matches' : InputRequestRow → Bool} {change : InputRequestRow → InputRequestRow}

theorem updateInputRequests_eq_ok :
    updateInputRequests matches' change before = .ok (changed, after) ↔
      changed = (before.inputRequests.filter matches').length ∧
        after = { before with
          inputRequests := changeWhere matches' change before.inputRequests } := by
  simp only [updateInputRequests, bind_eq_ok, read_eq_ok, update_eq_ok]
  constructor
  · rintro ⟨_, _, ⟨rfl, rfl⟩, _, _, rfl, committed⟩
    obtain ⟨rfl, rfl⟩ := pure_eq_ok.mp committed
    exact ⟨rfl, rfl⟩
  · rintro ⟨rfl, rfl⟩
    exact ⟨before, before, ⟨rfl, rfl⟩, (), _, rfl, pure_eq_ok.mpr ⟨rfl, rfl⟩⟩

theorem respects_updateInputRequests (moves : ∀ before : TaskTables, R before { before with
      inputRequests := changeWhere matches' change before.inputRequests }) :
    Respects R (updateInputRequests matches' change) := by
  intro before changed after committed
  obtain ⟨-, rfl⟩ := updateInputRequests_eq_ok.mp committed
  exact moves before

theorem respects_updateAdmission {change : AdmissionIntentRecord → AdmissionIntentRecord}
    (moves : ∀ before : TaskTables,
      R before { before with admission := before.admission.map change }) :
    Respects R (updateAdmission change) :=
  respects_update moves

end Statements

private theorem newest_foldl (matches' : CommandRow → Bool) (commands : List CommandRow)
    (newest : Option CommandRow) :
    let result := commands.foldl (fun newest row =>
      if matches' row = false then newest
      else match newest with
        | none => some row
        | some other => if other.sequence ≤ row.sequence then some row else newest) newest
    (∀ row ∈ result, (newest = some row ∨ row ∈ commands ∧ matches' row = true) ∧
        ∀ other, (newest = some other ∨ other ∈ commands ∧ matches' other = true) →
          other.sequence ≤ row.sequence) ∧
      (result = none → newest = none ∧ ∀ row ∈ commands, matches' row = false) := by
  induction commands generalizing newest with
  | nil => simp +contextual
  | cons head rest ih =>
    simp only [List.foldl_cons]
    cases matched : matches' head with
    | false =>
      simp only [if_true]
      obtain ⟨found, absent⟩ := ih newest
      grind
    | true =>
      simp only [Bool.true_eq_false, if_false]
      cases newest with
      | none =>
        obtain ⟨found, absent⟩ := ih (some head)
        grind
      | some other =>
        obtain ⟨found, absent⟩ := ih (if other.sequence ≤ head.sequence then some head
          else some other)
        dsimp only at found absent ⊢
        grind

variable {matches' : CommandRow → Bool} {commands : List CommandRow} {row : CommandRow}

theorem newestCommand_eq_some (newest : newestCommand matches' commands = some row) :
    row ∈ commands ∧ matches' row = true ∧
      ∀ other ∈ commands, matches' other = true → other.sequence ≤ row.sequence := by
  have result := (newest_foldl matches' commands none).1 row newest
  refine ⟨?_, ?_, fun other member matched => result.2 other (.inr ⟨member, matched⟩)⟩
  · exact (result.1.resolve_left (by simp)).1
  · exact (result.1.resolve_left (by simp)).2

theorem newestCommand_eq_none (newest : newestCommand matches' commands = none) :
    ∀ row ∈ commands, matches' row = false :=
  ((newest_foldl matches' commands none).2 newest).2

theorem oldestCommand_eq_some (oldest : oldestCommand matches' commands = some row) :
    row ∈ commands ∧ matches' row = true := by
  have ranked : ∀ (rows : List CommandRow) (start : Option CommandRow),
      rows.foldl (fun oldest row =>
        if matches' row = false then oldest
        else match oldest with
          | none => some row
          | some other => if other.sequence ≤ row.sequence then oldest else some row) start =
        some row →
      start = some row ∨ row ∈ rows ∧ matches' row = true := by
    intro rows
    induction rows with
    | nil => exact fun start same => .inl same
    | cons head rest ih =>
      intro start same
      rcases ih _ same with started | ⟨later, matched⟩
      · cases matched : matches' head with
        | false =>
          simp only [matched, if_true] at started
          exact .inl started
        | true =>
          simp only [matched, Bool.true_eq_false, if_false] at started
          cases start with
          | none =>
            cases started
            exact .inr ⟨List.mem_cons_self, matched⟩
          | some other =>
            dsimp only at started
            split at started
            · exact .inl started
            · cases started
              exact .inr ⟨List.mem_cons_self, matched⟩
      · exact .inr ⟨List.mem_cons_of_mem head later, matched⟩
  exact (ranked commands none oldest).resolve_left (by simp)

variable {instant : Instant}

theorem firstClaimable_eq_some {cancelRequested : Bool} {chosen : CommandRow}
    (first : firstClaimable cancelRequested instant commands = some chosen) :
    chosen ∈ commands ∧ chosen.isClaimable cancelRequested instant = true := by
  have ranked : ∀ (rows : List CommandRow) (start : Option CommandRow),
      rows.foldl (fun first row => match first with
        | none => some row
        | some other => if row.claimedBefore other then some row else first) start = some chosen →
      start = some chosen ∨ chosen ∈ rows := by
    intro rows
    induction rows with
    | nil => exact fun start same => .inl same
    | cons head rest ih =>
      intro start same
      rcases ih _ same with started | later
      · cases start with
        | none =>
          cases started
          exact .inr List.mem_cons_self
        | some other =>
          dsimp only at started
          split at started
          · cases started
            exact .inr List.mem_cons_self
          · exact .inl started
      · exact .inr (List.mem_cons_of_mem head later)
  rcases ranked _ _ first with impossible | member
  · cases impossible
  · rw [List.mem_filter, Bool.and_eq_true] at member
    exact ⟨member.1, member.2.1⟩

theorem claimFirst_eq_ok {ownerId : String} {leaseMilliseconds : Nat}
    {claimed : Option PendingCommandRecord} {before after : TaskTables}
    (committed : claimFirst instant ownerId leaseMilliseconds before = .ok (claimed, after)) :
    (claimed = none ∧ after = before) ∨
      ∃ chosen ∈ before.commands, chosen.isClaimable
          (before.task.any TaskRecord.cancelRequested) instant = true ∧
        (∀ row ∈ before.commands, row.state = .claimed → row.sequence = chosen.sequence) ∧
        claimed = some (mapPendingCommandRecord
          (chosen.claim instant ownerId leaseMilliseconds)) ∧
        after = { before with
          commands := changeWhere (fun row => row.sequence == chosen.sequence)
            (CommandRow.claim instant ownerId leaseMilliseconds) before.commands
          outbox := insertKey
            (.command chosen.sequence .claimed .claimed (chosen.attemptCount + 1))
            before.outbox } := by
  simp only [claimFirst, bind_eq_ok, read_eq_ok] at committed
  obtain ⟨_, _, ⟨rfl, rfl⟩, committed⟩ := committed
  cases found : before.task with
  | none =>
    simp only [found, Option.bind_none] at committed
    obtain ⟨rfl, rfl⟩ := pure_eq_ok.mp committed
    exact .inl ⟨rfl, rfl⟩
  | some task =>
    cases first : firstClaimable task.cancelRequested instant before.commands with
    | none =>
      simp only [found, Option.bind_some, first] at committed
      obtain ⟨rfl, rfl⟩ := pure_eq_ok.mp committed
      exact .inl ⟨rfl, rfl⟩
    | some chosen =>
      simp only [found, Option.bind_some, first] at committed
      obtain ⟨member, claimable⟩ := firstClaimable_eq_some first
      split at committed
      · exact (abort_eq_ok.mp committed).elim
      · rename_i alone
        simp only [bind_eq_ok, updateCommands_eq_ok, insertCommandFact, insertOutbox_eq,
          update_eq_ok] at committed
        obtain ⟨_, _, ⟨rfl, rfl⟩, _, _, rfl, committed⟩ := committed
        obtain ⟨rfl, rfl⟩ := pure_eq_ok.mp committed
        refine .inr ⟨chosen, member, by simpa using claimable, ?_, rfl, by rw [← found]⟩
        intro row isRow isClaimed
        by_contra different
        refine alone (List.any_eq_true.mpr ⟨row, isRow, ?_⟩)
        simp [isClaimed, different]

end SdarRuntime
