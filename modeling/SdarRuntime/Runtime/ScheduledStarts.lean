import SdarRuntime.Engine.Scheduler
import SdarRuntime.Runtime.SnapshotOrder

/-!
What the answers to a scheduled start leave in the rows of its task: an accepted start binds its
execution, and an uncertain one is put off. Both go through the transition kernel, which passes
over an event it knows and a revision that is not newer without a word.
-/

namespace SdarRuntime

open Transaction TaskTransitionRequest

structure SameStart (before after : TaskTables) : Prop where
  task : after.task = before.task
  admission : after.admission = before.admission

instance : Std.Refl SameStart := ⟨fun _ => ⟨rfl, rfl⟩⟩

instance : IsTrans TaskTables SameStart where
  trans _ _ _ earlier later :=
    ⟨later.task.trans earlier.task, later.admission.trans earlier.admission⟩

theorem sameStart_upsertInputRequests (inputRequests : List NewInputRequest) :
    Respects SameStart (upsertInputRequests inputRequests) := by
  apply respects_forEach
  intro input _
  refine respects_bind respects_read fun tables => ?_
  split
  · exact respects_update fun _ => ⟨rfl, rfl⟩
  · apply respects_ite
    · intro _
      exact respects_bind (respects_updateInputRequests fun _ => ⟨rfl, rfl⟩) fun _ =>
        respects_pure _
    · intro _
      exact respects_abort _

/-- The sequence of the CANCEL that stops a missed window: the active stop's, or the next one. -/
def startWindowStopSequence (tables : TaskTables) (row : TaskRecord) : Nat :=
  (newestCommand CommandRow.isActiveStop tables.commands).elim (row.nextCommandSequence + 1)
    CommandRow.sequence

variable {env : Environment} {requestedAt : Instant} {before after : TaskTables}

theorem startWindowCommand_eq_ok {clocks : Clocks} {previous row : TaskRecord} {sequence : Nat}
    (found : before.task = some row) (committed : startWindowCommand env clocks requestedAt previous
      (newestCommand CommandRow.isActiveStop before.commands) before = .ok (sequence, after)) :
    sequence = startWindowStopSequence before row ∧ after.outbox = before.outbox ∧
      after.admission = before.admission ∧
      (after.task = some row ∨ after.task = some row.countCommand) := by
  unfold startWindowStopSequence
  cases newest : newestCommand CommandRow.isActiveStop before.commands with
  | none =>
    rw [newest] at committed
    obtain ⟨task, isTask, -, rest⟩ := createCommand_eq_ok committed
    obtain ⟨same, rfl⟩ := pure_eq_ok.mp rest
    rw [found] at isTask
    cases isTask
    exact ⟨same.symm, rfl, rfl, Or.inr rfl⟩
  | some command =>
    rw [newest] at committed
    obtain ⟨_, middle, retargeted, rest⟩ := bind_eq_ok.mp committed
    obtain ⟨same, rfl⟩ := pure_eq_ok.mp rest
    unfold when at retargeted
    split at retargeted
    · obtain ⟨_, _, updated, done⟩ := bind_eq_ok.mp retargeted
      obtain ⟨-, rfl⟩ := pure_eq_ok.mp done
      obtain ⟨-, rfl⟩ := updateCommands_eq_ok.mp updated
      exact ⟨same.symm, rfl, rfl, Or.inl found⟩
    · obtain ⟨-, rfl⟩ := pure_eq_ok.mp retargeted
      exact ⟨same.symm, rfl, rfl, Or.inl found⟩

variable {row : TaskRecord}

/-- Stopping a missed window keeps the execution of a live task, which must have one; the task
stops unless the event of this stop is known. -/
theorem persistStartWindowStop_eq_ok {clocks : Clocks} {answer : Unit}
    (found : before.task = some row) (live : isTerminalState row.internalState = false)
    (committed : persistStartWindowStop env clocks requestedAt before = .ok (answer, after)) :
    row.externalExecutionId ≠ none ∧ after.admission = before.admission ∧
      ∃ row', after.task = some row' ∧ row'.externalExecutionId = row.externalExecutionId ∧
        (.startWindowStop (startWindowStopSequence before row) ∉ before.outbox →
          row'.internalState = .stopping) ∧
        (.startWindowStop (startWindowStopSequence before row) ∈ before.outbox →
          row'.internalState = row.internalState) := by
  obtain ⟨previous, _, locked, committed⟩ := bind_eq_ok.mp committed
  obtain ⟨isPrevious, rfl⟩ := lockTask_eq_ok.mp locked
  rw [found] at isPrevious
  cases isPrevious
  rw [if_neg (by rw [live]; exact Bool.false_ne_true)] at committed
  by_cases unbound : row.externalExecutionId = none
  · rw [if_pos unbound] at committed
    exact (abort_eq_ok.mp committed).elim
  rw [if_neg unbound] at committed
  obtain ⟨_, _, isRead, committed⟩ := bind_eq_ok.mp committed
  obtain ⟨rfl, rfl⟩ := read_eq_ok.mp isRead
  obtain ⟨sequence, middle, commanded, committed⟩ := bind_eq_ok.mp committed
  obtain ⟨same, outbox, admission, counted⟩ := startWindowCommand_eq_ok found commanded
  obtain ⟨outcome, moved, transitioned, committed⟩ := bind_eq_ok.mp committed
  have rest : Respects SameStart (when (newestCommand CommandRow.isActiveStop before.commands = none)
      (insertCommandFact sequence .created .pending 0)) := by
    apply respects_when
    intro _
    exact respects_insertOutbox fun _ => ⟨rfl, rfl⟩
  have last := rest _ _ _ committed
  have bound : ∀ row', middle.task = some row' →
      row'.externalExecutionId = row.externalExecutionId ∧
        row'.internalState = row.internalState := by
    intro row' isRow
    rcases counted with kept | kept
    · rw [kept] at isRow
      cases isRow
      exact ⟨rfl, rfl⟩
    · rw [kept] at isRow
      cases isRow
      exact ⟨rfl, rfl⟩
  rw [← same]
  rcases transitionTask_eq_ok transitioned with
    ⟨row', isRow, -, unmoved, silent⟩ | ⟨row', applies, -, -, moves⟩
  · subst unmoved
    obtain ⟨execution, state⟩ := bound row' isRow
    refine ⟨unbound, last.admission.trans admission, row', last.task.trans isRow, execution, ?_, ?_⟩
    · intro fresh
      rcases silent with known | terminal | ⟨revision, isRevision, -⟩
      · rw [outbox] at known
        exact absurd known fresh
      · rw [state, live] at terminal
        exact absurd terminal Bool.false_ne_true
      · cases isRevision
    · intro _
      exact state
  · subst moves
    obtain ⟨execution, -⟩ := bound row' applies.found
    refine ⟨unbound, last.admission.trans admission, _, last.task, ?_, ?_, ?_⟩
    · obtain ⟨_, _, _, eq⟩ := row_eq _ row'
      rw [eq]
      exact execution
    · intro _
      rw [row_internalState]
      rfl
    · intro known
      rw [← outbox] at known
      exact absurd known applies.fresh

/-- The execution is bound to the task, or the task is over or stopping. -/
def TaskTables.Binds (tables : TaskTables) (externalExecutionId : String) : Prop :=
  ∃ row, tables.task = some row ∧
    (row.externalExecutionId = some externalExecutionId ∨
      isTerminalState row.internalState = true ∨ row.internalState = .stopping)

/-- The admission counts as published and the task has no execution. -/
def TaskTables.Orphans (tables : TaskTables) : Prop :=
  (∃ admission, tables.admission = some admission ∧ admission.state = .published) ∧
    ∃ row, tables.task = some row ∧ row.externalExecutionId = none

/-- The kernel records the answer: its revision is newer and was not recorded before. -/
def AcceptScheduledInput.recorded (input : AcceptScheduledInput) (tables : TaskTables)
    (row : TaskRecord) : Bool :=
  decide (row.adapterRevision < input.adapterRevision) &&
    decide (.adapter input.adapterRevision ∉ tables.outbox)

/-- The task, bound to an execution already, stops because the answer came too late. -/
def AcceptScheduledInput.stops (input : AcceptScheduledInput) (tables : TaskTables)
    (row : TaskRecord) : Bool :=
  input.startWindowMissedAt.isSome && row.externalExecutionId.isSome &&
    decide (.startWindowStop (startWindowStopSequence tables row) ∉ tables.outbox)

/-- What a commit of `acceptScheduled` consists of, up to the stop of a missed window. -/
theorem acceptScheduled_eq_ok {clocks : Clocks} {input : AcceptScheduledInput} {answer : TaskRecord}
    (committed : acceptScheduled env clocks input before = .ok (answer, after)) :
    ∃ row, before.task = some row ∧ row.internalState = .starting ∧
      ∃ middle stopped,
        (input.recorded before row = true ∧
            (∃ row', middle.task = some row' ∧
              row'.externalExecutionId = some input.externalExecutionId) ∧
            middle.admission = before.admission ∨
          input.recorded before row = false ∧ middle = before) ∧
        stopMissedWindow env clocks input.startWindowMissedAt middle = .ok ((), stopped) ∧
        after.task = stopped.task ∧
        after.admission = stopped.admission.map fun row => { row with state := .published } := by
  obtain ⟨row, claimed, locked, recording⟩ := bind_eq_ok.mp committed
  obtain ⟨⟨found, starting, -⟩, unmoved⟩ := lockClaimed_eq_ok.mp locked
  subst unmoved
  obtain ⟨outcome, middle, transitioned, stopping⟩ := bind_eq_ok.mp recording
  obtain ⟨_, stopped, stops, opening⟩ := bind_eq_ok.mp stopping
  obtain ⟨_, opened, upserts, publishing⟩ := bind_eq_ok.mp opening
  obtain ⟨_, published, publishes, locks⟩ := bind_eq_ok.mp publishing
  have same := sameStart_upsertInputRequests input.inputRequests _ _ _ upserts
  have isPublished := update_eq_ok.mp publishes
  subst isPublished
  obtain ⟨-, isLast⟩ := lockTask_eq_ok.mp locks
  subst isLast
  refine ⟨row, found, starting, middle, stopped, ?_, stops, same.task, ?_⟩
  · rcases transitionTask_eq_ok transitioned with
      ⟨other, isOther, -, unmoved, silent⟩ | ⟨other, applies, -, -, moves⟩
    · rw [found] at isOther
      cases isOther
      refine Or.inr ⟨?_, unmoved⟩
      unfold AcceptScheduledInput.recorded
      rw [Bool.and_eq_false_iff, decide_eq_false_iff_not, decide_eq_false_iff_not]
      rcases silent with known | terminal | ⟨revision, isRevision, stale⟩
      · exact Or.inr (not_not_intro known)
      · rw [starting] at terminal
        cases terminal
      · cases isRevision
        exact Or.inl (Nat.not_lt.mpr stale)
    · have isOther := applies.found
      rw [found] at isOther
      cases isOther
      subst moves
      refine Or.inl ⟨?_, ⟨_, rfl, ?_⟩, rfl⟩
      · unfold AcceptScheduledInput.recorded
        rw [Bool.and_eq_true, decide_eq_true_eq, decide_eq_true_eq]
        exact ⟨applies.newer _ rfl, applies.fresh⟩
      · obtain ⟨_, _, _, eq⟩ := row_eq _ row
        rw [eq]
        rfl
  · change opened.admission.map _ = _
    rw [same.admission]

theorem stopMissedWindow_execution {clocks : Clocks} {missedAt : Option Instant}
    (found : before.task = some row)
    (committed : stopMissedWindow env clocks missedAt before = .ok ((), after)) :
    ∃ row', after.task = some row' ∧ row'.externalExecutionId = row.externalExecutionId := by
  cases missedAt with
  | none =>
    obtain ⟨-, rfl⟩ := pure_eq_ok.mp committed
    exact ⟨row, found, rfl⟩
  | some missedAt =>
    cases terminal : isTerminalState row.internalState with
    | false =>
      obtain ⟨-, -, row', found', execution, -⟩ :=
        persistStartWindowStop_eq_ok found terminal committed
      exact ⟨row', found', execution⟩
    | true =>
      obtain ⟨previous, middle, locked, rest⟩ := bind_eq_ok.mp committed
      obtain ⟨isPrevious, unmoved⟩ := lockTask_eq_ok.mp locked
      subst unmoved
      rw [found] at isPrevious
      cases isPrevious
      rw [if_pos terminal] at rest
      obtain ⟨-, same⟩ := pure_eq_ok.mp rest
      subst same
      exact ⟨row, found, rfl⟩

/-- An accepted start is bound, and no execution orphaned, exactly when the kernel records the
answer, when the task had this execution already, and when the task, bound to another one, stops
because its window was missed. -/
theorem acceptScheduled_binds_iff {env : Environment} {clocks : Clocks}
    {input : AcceptScheduledInput} {row : TaskRecord} {before after : TaskTables}
    {answer : TaskRecord} (found : before.task = some row)
    (committed : acceptScheduled env clocks input before = .ok (answer, after)) :
    (after.Binds input.externalExecutionId ∧ ¬after.Orphans) ↔
      input.recorded before row = true ∨
        row.externalExecutionId = some input.externalExecutionId ∨
        input.stops before row = true := by
  obtain ⟨other, isOther, starting, middle, stopped, kernel, stops, task, -⟩ :=
    acceptScheduled_eq_ok committed
  rw [found] at isOther
  cases isOther
  have unorphaned : ∀ row', after.task = some row' → row'.externalExecutionId ≠ none →
      ¬after.Orphans := by
    intro row' isRow bound orphans
    obtain ⟨-, unbound, isUnbound, none⟩ := orphans
    rw [isRow] at isUnbound
    cases isUnbound
    exact bound none
  rcases kernel with ⟨recorded, ⟨row', isMiddle, bound⟩, -⟩ | ⟨silent, unmoved⟩
  · obtain ⟨last, isLast, kept⟩ := stopMissedWindow_execution isMiddle stops
    have execution : last.externalExecutionId = some input.externalExecutionId := kept.trans bound
    have isAfter : after.task = some last := task.trans isLast
    constructor
    · intro _
      exact Or.inl recorded
    · intro _
      constructor
      · exact ⟨last, isAfter, Or.inl execution⟩
      · apply unorphaned last isAfter
        rw [execution]
        exact Option.some_ne_none _
  · subst unmoved
    cases missed : input.startWindowMissedAt with
    | none =>
      rw [missed] at stops
      obtain ⟨-, same⟩ := pure_eq_ok.mp stops
      subst same
      have isAfter : after.task = some row := task.trans found
      constructor
      · rintro ⟨⟨row', isRow, bound | terminal | stopping⟩, -⟩
        · rw [isAfter] at isRow
          cases isRow
          exact Or.inr (Or.inl bound)
        · rw [isAfter] at isRow
          cases isRow
          rw [starting] at terminal
          cases terminal
        · rw [isAfter] at isRow
          cases isRow
          rw [starting] at stopping
          cases stopping
      · rintro (recorded | bound | stops)
        · rw [silent] at recorded
          cases recorded
        · constructor
          · exact ⟨row, isAfter, Or.inl bound⟩
          · apply unorphaned row isAfter
            rw [bound]
            exact Option.some_ne_none _
        · simp [AcceptScheduledInput.stops, missed] at stops
    | some missedAt =>
      rw [missed] at stops
      have live : isTerminalState row.internalState = false := by
        rw [starting]
        rfl
      obtain ⟨isBound, -, row', isStopped, execution, fresh, known⟩ :=
        persistStartWindowStop_eq_ok found live stops
      have isAfter : after.task = some row' := task.trans isStopped
      constructor
      · rintro ⟨⟨last, isLast, bound⟩, -⟩
        rw [isAfter] at isLast
        cases isLast
        by_cases isKnown : .startWindowStop (startWindowStopSequence middle row) ∈ middle.outbox
        · have state := known isKnown
          rw [starting] at state
          rcases bound with bound | terminal | stopping
          · exact Or.inr (Or.inl (execution.symm.trans bound))
          · rw [state] at terminal
            cases terminal
          · rw [state] at stopping
            cases stopping
        · refine Or.inr (Or.inr ?_)
          unfold AcceptScheduledInput.stops
          rw [missed, Bool.and_eq_true, Bool.and_eq_true, decide_eq_true_eq]
          exact ⟨⟨rfl, Option.isSome_iff_ne_none.mpr isBound⟩, isKnown⟩
      · intro holds
        have kept : ¬after.Orphans := by
          apply unorphaned row' isAfter
          rw [execution]
          exact isBound
        refine ⟨⟨row', isAfter, ?_⟩, kept⟩
        rcases holds with recorded | bound | stops
        · rw [silent] at recorded
          cases recorded
        · exact Or.inl (execution.trans bound)
        · unfold AcceptScheduledInput.stops at stops
          rw [Bool.and_eq_true, decide_eq_true_eq] at stops
          exact Or.inr (Or.inr (fresh stops.2))

namespace Sample

/-- The sample call, to be started one second after it is accepted or within a second more. -/
def scheduledIntent : AdmissionIntentInput :=
  { call.intent "o" with
    anchors :=
      { acceptedAt := 0
        notBefore := 1000000
        latestStartAt := 2000000
        deadlineAt := none }
    timing :=
      { startMode := .scheduled
        startToleranceMs := 1000
        maxElapsedMs := none } }

def invoke {β : Type} (now : Instant) (call : RepositoryCall β) : Invocation :=
  { effect := call
    clock := clocks now }

/-- The call is scheduled, and a worker claims its start as soon as it is due. -/
def claimedStart : List Invocation :=
  [invoke 0 (.createAdmissionIntent scheduledIntent), invoke 0 (.publishScheduled scheduledIntent),
    invoke 1000000 (.claimDueScheduled 1000000 "w" 30000)]

def acceptance (revision : Nat) : AcceptScheduledInput :=
  { claimOwner := "w"
    externalExecutionId := "e"
    adapterRevision := revision
    transition := validatedSnapshotTransition environment 1000001 operation
      (snapshot "RUNNING" revision)
    inputRequests := []
    startWindowMissedAt := none
    actualStartedAt := some 1000001 }

def accepting : TaskTables := history deployment claimedStart TaskTables.empty

end Sample

open Sample in
theorem acceptScheduled_binds_sample :
    ∃ answer after, acceptScheduled environment (clocks 1000001) (acceptance 1) accepting =
        .ok (answer, after) ∧
      after.Binds "e" ∧ ¬after.Orphans := by
  have accepted : (accepting.task.isSome &&
      (acceptScheduled environment (clocks 1000001) (acceptance 1) accepting).toOption.isSome &&
      accepting.task.all fun row => (acceptance 1).recorded accepting row) = true := by
    decide +kernel
  rw [Bool.and_eq_true, Bool.and_eq_true] at accepted
  obtain ⟨⟨isTask, isOk⟩, recorded⟩ := accepted
  obtain ⟨row, found⟩ := Option.isSome_iff_exists.mp isTask
  cases committed : acceptScheduled environment (clocks 1000001) (acceptance 1) accepting with
  | error failure =>
    rw [committed] at isOk
    cases isOk
  | ok result =>
    obtain ⟨answer, after⟩ := result
    rw [found] at recorded
    exact ⟨answer, after, rfl,
      (acceptScheduled_binds_iff found committed).mpr (Or.inl recorded)⟩

open Sample in
/-- An adapter that numbers its snapshots from zero answers to a start, and the task keeps no
execution. -/
theorem acceptScheduled_orphans :
    ¬∀ (deployment : Deployment) (invocations : List Invocation) (clocks : Clocks)
      (snapshot : ExecutionSnapshot) (expected : ExpectedExecutionIdentity)
      (input : AcceptScheduledInput) (answer : TaskRecord) (after : TaskTables),
      validateAdapterSnapshotIdentity snapshot expected = .ok () →
      input.externalExecutionId = snapshot.externalExecutionId →
      input.adapterRevision = snapshot.revision →
      acceptScheduled deployment.env clocks input
        (history deployment invocations TaskTables.empty) = .ok (answer, after) →
      after.Binds input.externalExecutionId ∧ ¬after.Orphans := by
  intro binds
  have identified : validateAdapterSnapshotIdentity (snapshot "RUNNING" 0)
      (call.identity (some "e")) = .ok () := by
    decide +kernel
  have unbound : (acceptScheduled environment (clocks 1000001) (acceptance 0) accepting).toOption.map
      (fun result => result.2.task.map fun row => (row.externalExecutionId, row.internalState)) =
        some (some (none, .starting)) := by
    decide +kernel
  cases committed : acceptScheduled environment (clocks 1000001) (acceptance 0) accepting with
  | error failure =>
    rw [committed] at unbound
    cases unbound
  | ok result =>
    rw [committed] at unbound
    obtain ⟨⟨row, found, bound⟩, -⟩ := binds deployment claimedStart (clocks 1000001)
      (snapshot "RUNNING" 0) (call.identity (some "e")) (acceptance 0) result.1 result.2
      identified rfl rfl committed
    simp only [Except.toOption, Option.map_some, found, Option.some.injEq, Prod.mk.injEq]
      at unbound
    rw [unbound.1, unbound.2] at bound
    exact absurd bound (by decide)

/-- The task is free and its claim is to be taken up again at the instant. -/
def TaskTables.DeferredTo (tables : TaskTables) (reconcileAt : Instant) : Prop :=
  ∃ row, tables.task = some row ∧ row.scheduleClaimOwner = none ∧
    row.scheduleClaimUntil = some reconcileAt

/-- A deferral that returns has put the start off exactly when its event is new: a second one of
the same attempt to the same instant leaves the task claimed. -/
theorem scheduleDeferral_iff {clocks : Clocks} {claimOwner message : String}
    {reconcileAt : Instant} {row : TaskRecord} {before after : TaskTables} {answer : Unit}
    {defers : Clocks → String → Instant → String → Tx Unit}
    (isDeferral : defers = markScheduleResponseUncertain ∨ defers = deferScheduleReconcile)
    (found : before.task = some row)
    (committed : defers clocks claimOwner reconcileAt message before = .ok (answer, after)) :
    after.DeferredTo reconcileAt ↔
      .startUncertain row.invocationAttempt reconcileAt.toISOString ∉ before.outbox := by
  have marks : markScheduleResponseUncertain clocks claimOwner reconcileAt message before =
      .ok (answer, after) := by
    rcases isDeferral with isMark | isDefer
    · rw [isMark] at committed
      exact committed
    · rw [isDefer] at committed
      exact committed
  obtain ⟨claimed, middle, locked, rest⟩ := bind_eq_ok.mp marks
  obtain ⟨⟨isClaimed, starting, owned⟩, unmoved⟩ := lockClaimed_eq_ok.mp locked
  subst unmoved
  rw [found] at isClaimed
  cases isClaimed
  obtain ⟨outcome, moved, transitioned, done⟩ := bind_eq_ok.mp rest
  obtain ⟨-, same⟩ := pure_eq_ok.mp done
  subst same
  rcases transitionTask_eq_ok transitioned with
    ⟨other, isOther, -, unmoved, silent⟩ | ⟨other, applies, -, -, moves⟩
  · rw [found] at isOther
    cases isOther
    subst unmoved
    have known : .startUncertain row.invocationAttempt reconcileAt.toISOString ∈ moved.outbox := by
      rcases silent with known | terminal | ⟨revision, isRevision, -⟩
      · exact known
      · rw [starting] at terminal
        cases terminal
      · cases isRevision
    constructor
    · rintro ⟨free, isFree, unowned, -⟩
      rw [found] at isFree
      cases isFree
      rw [owned] at unowned
      cases unowned
    · intro fresh
      exact absurd known fresh
  · have isOther := applies.found
    rw [found] at isOther
    cases isOther
    subst moves
    constructor
    · intro _
      exact applies.fresh
    · intro _
      obtain ⟨_, _, _, eq⟩ := row_eq _ row
      refine ⟨_, rfl, ?_, ?_⟩
      · rw [eq]
        rfl
      · rw [eq]
        rfl

namespace Sample

/-- The answer to the start is lost when the window is about to close, and the start is put off
to the end of the window; there a worker takes it up again. -/
def deferredStart : List Invocation :=
  claimedStart ++
    [invoke 1900000 (.markScheduleResponseUncertain "w" 2000000 ""),
      invoke 2000000 (.claimExpiredScheduledStarts 2000000 "w" 30000)]

def deferring : TaskTables := history deployment deferredStart TaskTables.empty

end Sample

open Sample in
theorem scheduleDeferral_sample :
    ∃ after, markScheduleResponseUncertain (clocks 1900000) "w" 2000000 "" accepting =
        .ok ((), after) ∧ after.DeferredTo 2000000 := by
  have deferred : (accepting.task.isSome &&
      (markScheduleResponseUncertain (clocks 1900000) "w" 2000000 "" accepting).toOption.isSome &&
      accepting.task.all fun row => decide (.startUncertain row.invocationAttempt
        (Instant.toISOString 2000000) ∉ accepting.outbox)) = true := by
    decide +kernel
  rw [Bool.and_eq_true, Bool.and_eq_true] at deferred
  obtain ⟨⟨isTask, isOk⟩, fresh⟩ := deferred
  obtain ⟨row, found⟩ := Option.isSome_iff_exists.mp isTask
  cases committed : markScheduleResponseUncertain (clocks 1900000) "w" 2000000 "" accepting with
  | error failure =>
    rw [committed] at isOk
    cases isOk
  | ok result =>
    obtain ⟨answer, after⟩ := result
    rw [found] at fresh
    exact ⟨after, rfl,
      (scheduleDeferral_iff (Or.inl rfl) found committed).mpr (of_decide_eq_true fresh)⟩

open Sample in
/-- Every later retry is cut short to the end of the window, so the second deferral of the attempt
has the event of the first and the task stays with its worker. -/
theorem scheduleDeferral_repeated :
    ¬∀ (deployment : Deployment) (invocations : List Invocation) (clocks : Clocks)
      (claimOwner message : String) (task : TaskRecord) (now : Instant) (after : TaskTables),
      (history deployment invocations TaskTables.empty).task = some task →
      task.internalState = .starting → task.scheduleClaimOwner = some claimOwner →
      deferScheduleReconcile clocks claimOwner (retryAt task now) message
        (history deployment invocations TaskTables.empty) = .ok ((), after) →
      after.DeferredTo (retryAt task now) := by
  intro defers
  have claimed : (deferring.task.any fun row =>
      decide (row.internalState = .starting ∧ row.scheduleClaimOwner = some "w" ∧
        retryAt row 2000001 = 2000000)) = true := by
    decide +kernel
  have stays : (deferScheduleReconcile (clocks 2000001) "w" 2000000 "" deferring).toOption.map
      (fun result => result.2.task.map TaskRecord.scheduleClaimOwner) =
        some (some (some "w")) := by
    decide +kernel
  cases isTask : deferring.task with
  | none =>
    rw [isTask] at claimed
    cases claimed
  | some task =>
    rw [isTask] at claimed
    obtain ⟨starting, owned, retried⟩ := of_decide_eq_true claimed
    cases committed : deferScheduleReconcile (clocks 2000001) "w" 2000000 "" deferring with
    | error failure =>
      rw [committed] at stays
      cases stays
    | ok result =>
      rw [committed] at stays
      rw [← retried] at committed
      obtain ⟨row, found, free, -⟩ := defers deployment deferredStart (clocks 2000001) "w" ""
        task 2000001 result.2 isTask starting owned committed
      simp only [Except.toOption, Option.map_some, found, free] at stays
      exact absurd stays (by decide)

end SdarRuntime
