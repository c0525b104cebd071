import SdarRuntime.Persistence.Lifecycle
import SdarRuntime.Runtime.Sample

/-!
A stop the runtime requires is not withdrawn, as long as no call is committed that would
withdraw it: a user's cancellation that finds no active stop, the first cooperative intent,
and the first refusal of a cancellation by an attempt that holds its claim.
-/

namespace SdarRuntime

open Transaction SdarRuntime.Runtime TaskTransitionRequest

def TaskRecord.StopRequired (row : TaskRecord) : Prop :=
  ∃ reason : StopReason, row.stopReason = some reason ∧ reason.isRequired = true

/-- The task has a required stop, which shows as a request for cancellation. -/
def TaskTables.StopInForce (tables : TaskTables) : Prop :=
  ∃ row, tables.task = some row ∧ row.StopRequired ∧ row.cancelRequested = true

def TaskTables.StopShown (tables : TaskTables) : Prop :=
  ∀ row, tables.task = some row → row.stopReason ≠ none → row.cancelRequested = true

/-- A transition sets a stop with the request for cancellation, or withdraws both. -/
def TaskTransitionRequest.ShowsStop (request : TaskTransitionRequest) : Prop :=
  request.update.Neutral ∨ request.update.cancelRequested = some true ∨
    request.update.stopReason = some none

def TaskTransitionRequest.ProtectsStop (request : TaskTransitionRequest) : Prop :=
  request.update.Neutral ∨ request.RequiresStop

def showing : StepKind := { anyStep with fits := TaskTransitionRequest.ShowsStop }

def protecting : StepKind := { anyStep with fits := TaskTransitionRequest.ProtectsStop }

theorem showing_admits (clocks : Clocks) : showing.AdmitsAll clocks :=
  { anyStep_admits clocks with
    ordinary := fun _ ordinary => .inl ordinary.neutral
    requires := fun _ requires => .inr (.inl requires.cancelRequested)
    fails := fun _ fails => .inl fails.neutral
    requests := fun _ requests => .inr (.inl requests.cancelRequested)
    withdraws := fun _ withdraws => .inr (.inr withdraws.stopReason) }

theorem protecting_admits (clocks : Clocks) : protecting.AdmitsSettling clocks :=
  { anyStep_admits clocks with
    ordinary := fun _ ordinary => .inl ordinary.neutral
    requires := fun _ requires => .inr requires
    fails := fun _ fails => .inl fails.neutral }

variable {before after : TaskTables}

theorem Step.stopShown (step : Step showing before after) (shown : before.StopShown) :
    after.StopShown := by
  cases step with
  | transition request row applies fits =>
    intro row' found stopped
    cases found
    have shownBefore := shown row applies.found
    rw [row_stopReason] at stopped
    rw [row_cancelRequested]
    rcases fits with neutral | requested | withdrawn
    · rw [neutral.1]
      rw [neutral.2] at stopped
      exact shownBefore stopped
    · rw [requested]
      rfl
    · rw [withdrawn] at stopped
      exact absurd rfl stopped
  | aside change aside =>
    intro row' found stopped
    obtain ⟨row, foundRow, rfl⟩ := Option.map_eq_some_iff.mp found
    rw [(aside row).cancelRequested]
    exact shown row foundRow ((aside row).stopReason ▸ stopped)
  | publish row observations unpublished publishes =>
    intro row' found stopped
    cases found
    exact absurd publishes.unstopped stopped
  | commands change permitted => exact shown
  | insertCommand row created fresh numbered => exact shown
  | elsewhere admission uncertainty audit outbox inputRequests inbox => exact shown

theorem Step.stopInForce (step : Step protecting before after) (inForce : before.StopInForce) :
    after.StopInForce := by
  obtain ⟨row, found, ⟨reason, stopped, required⟩, requested⟩ := inForce
  cases step with
  | transition request row' applies fits =>
    rw [applies.found] at found
    cases found
    refine ⟨_, rfl, ?_⟩
    rw [TaskRecord.StopRequired, row_stopReason,
      row_cancelRequested]
    rcases fits with neutral | ⟨requests, ⟨reason', requires, required'⟩, -⟩
    · rw [neutral.1, neutral.2]
      exact ⟨⟨reason, stopped, required⟩, requested⟩
    · rw [requests, requires]
      exact ⟨⟨reason', rfl, required'⟩, rfl⟩
  | aside change aside =>
    refine ⟨change row, by simp [found], ⟨reason, ?_, required⟩, ?_⟩
    · rw [(aside row).stopReason, stopped]
    · rw [(aside row).cancelRequested, requested]
  | publish row' observations unpublished publishes =>
    rw [unpublished] at found
    cases found
  | commands change permitted => exact ⟨row, found, ⟨reason, stopped, required⟩, requested⟩
  | insertCommand row' created fresh numbered =>
    exact ⟨row, found, ⟨reason, stopped, required⟩, requested⟩
  | elsewhere admission uncertainty audit outbox inputRequests inbox =>
    exact ⟨row, found, ⟨reason, stopped, required⟩, requested⟩

structure TerminalKept (before after : TaskTables) : Prop where
  kept : ∀ row, before.task = some row → isTerminalState row.internalState = true →
    ∃ row', after.task = some row' ∧ isTerminalState row'.internalState = true ∧
      row'.stopReason = row.stopReason ∧ row'.cancelRequested = row.cancelRequested

instance : Std.Refl TerminalKept := ⟨fun _ => ⟨fun row found terminal =>
  ⟨row, found, terminal, rfl, rfl⟩⟩⟩

instance : IsTrans TaskTables TerminalKept where
  trans _ _ _ earlier later := by
    refine ⟨fun row found terminal => ?_⟩
    obtain ⟨middle, foundMiddle, terminalMiddle, stop, flag⟩ := earlier.kept row found terminal
    obtain ⟨row', found', terminal', stop', flag'⟩ := later.kept middle foundMiddle terminalMiddle
    exact ⟨row', found', terminal', stop'.trans stop, flag'.trans flag⟩

theorem Step.terminalKept {kind : StepKind} (step : Step kind before after) :
    TerminalKept before after := by
  refine ⟨fun row found terminal => ?_⟩
  cases step with
  | transition request row' applies fits =>
    rw [applies.found] at found
    cases found
    rw [applies.live] at terminal
    cases terminal
  | aside change aside =>
    refine ⟨change row, by simp [found], ?_, (aside row).stopReason,
      (aside row).cancelRequested⟩
    rw [(aside row).internalState, terminal]
  | publish row' observations unpublished publishes =>
    rw [unpublished] at found
    cases found
  | commands change permitted => exact ⟨row, found, terminal, rfl, rfl⟩
  | insertCommand row' created fresh numbered => exact ⟨row, found, terminal, rfl, rfl⟩
  | elsewhere admission uncertainty audit outbox inputRequests inbox =>
    exact ⟨row, found, terminal, rfl, rfl⟩

/-- The call sets or clears the stop of a live task without a look at the reason it has. -/
def RepositoryCall.withdrawsStop {β : Type} (call : RepositoryCall β) (tables : TaskTables) :
    Bool :=
  match call with
  | .beginCancel _ => tables.commands.all fun row => !row.isActiveStop
  | .recordCooperativeCancellationIntent => !tables.outbox.contains .cancelIntent
  | .rejectUserCancel command _ _ _ =>
    !tables.outbox.contains (.cancelRejected command.commandSequence) &&
      tables.commands.any fun row => row.claimedBy command.commandSequence command.claimOwner
  | _ => false

def TaskTables.MustStop (tables : TaskTables) : Prop :=
  ∃ row, tables.task = some row ∧ isTerminalState row.internalState = false ∧ row.StopRequired

instance (row : TaskRecord) : Decidable row.StopRequired :=
  decidable_of_iff (row.stopReason.any StopReason.isRequired = true)
    (by simp only [Option.any_eq_true_iff_get, TaskRecord.StopRequired]; grind)

instance (tables : TaskTables) : Decidable tables.MustStop :=
  decidable_of_iff (∃ row ∈ tables.task,
    isTerminalState row.internalState = false ∧ row.StopRequired) Iff.rfl

instance (tables : TaskTables) : Decidable tables.StopInForce :=
  decidable_of_iff (∃ row ∈ tables.task, row.StopRequired ∧ row.cancelRequested = true) Iff.rfl

variable {clocks : Clocks}

theorem beginCancel_stopInForce {requestHash : String} {answer : CommandResolution}
    (inForce : before.StopInForce)
    (active : before.commands.all (fun row => !row.isActiveStop) = false)
    (committed : beginCancel clocks requestHash before = .ok (answer, after)) :
    after.StopInForce := by
  simp only [beginCancel, bind_eq_ok, lockTask_eq_ok, read_eq_ok] at committed
  obtain ⟨previous, _, ⟨found, rfl⟩, _, _, ⟨rfl, rfl⟩, committed⟩ := committed
  cases newest : newestCommand CommandRow.isActiveStop before.commands with
  | some existing =>
    simp only [newest] at committed
    refine Respects.keeps (R := Step protecting) ?_ (fun _ _ step => step.stopInForce) committed
      inForce
    exact respects_bind steps_insertCommandFact fun _ => respects_pure _
  | none =>
    rw [← Bool.not_eq_true] at active
    refine absurd (List.all_eq_true.mpr fun row member => ?_) active
    simp [newestCommand_eq_none newest row member]

variable {answer : TaskRecord}

theorem recordCooperativeCancellationIntent_stopInForce (inForce : before.StopInForce)
    (known : EventKey.cancelIntent ∈ before.outbox)
    (committed : recordCooperativeCancellationIntent clocks before = .ok (answer, after)) :
    after.StopInForce := by
  obtain ⟨outcome, _, transition, committed⟩ := bind_eq_ok.mp committed
  obtain ⟨-, rfl⟩ := pure_eq_ok.mp committed
  rcases transitionTask_eq_ok transition with ⟨row, found, -, rfl, -⟩ | ⟨row, applies, -⟩
  · exact inForce
  · exact absurd known applies.fresh

theorem rejectUserCancel_stopInForce {command : PendingCommandRecord} {adapterRevision : Nat}
    {transition : SnapshotTransition} {ack : CommandAck} (inForce : before.StopInForce)
    (live : ∃ row, before.task = some row ∧ isTerminalState row.internalState = false)
    (kept : EventKey.cancelRejected command.commandSequence ∉ before.outbox →
      ∀ row ∈ before.commands, ¬row.claimedBy command.commandSequence command.claimOwner = true)
    (committed : rejectUserCancel clocks command adapterRevision transition ack before =
      .ok (answer, after)) : after.StopInForce := by
  obtain ⟨row, found, live⟩ := live
  simp only [rejectUserCancel, bind_eq_ok, lockTask_eq_ok] at committed
  obtain ⟨_, _, ⟨found', rfl⟩, committed⟩ := committed
  rw [found] at found'
  cases found'
  rw [live, if_neg Bool.false_ne_true] at committed
  simp only [bind_eq_ok] at committed
  obtain ⟨outcome, middle, transition, _, settled, settles, _, _, fact, committed⟩ := committed
  obtain ⟨⟨claimed, member, isClaimed, -⟩, -⟩ := changeClaimed_eq_ok settles
  obtain ⟨-, rfl⟩ := pure_eq_ok.mp committed
  rcases transitionTask_eq_ok transition with ⟨_, -, -, rfl, -⟩ | ⟨_, applies, -, -, rfl⟩
  · have step := fun before after => @Step.stopInForce before after
    refine steps_insertCommandFact.keeps step fact (Respects.keeps ?_ step settles inForce)
    exact steps_changeClaimed (protecting_admits clocks).toAdmits fun _ _ _ => trivial
  · exact absurd isClaimed (kept applies.fresh claimed member)

/-- A call that does not withdraw the stop of a task that must stop keeps a stop in force. -/
theorem RepositoryCall.stopInForce (deployment : Deployment) (clocks : Clocks) {β : Type}
    (call : RepositoryCall β) {tables : TaskTables}
    (kept : tables.MustStop → call.withdrawsStop tables = false) (inForce : tables.StopInForce) :
    (call.exec deployment clocks tables).2.StopInForce := by
  refine commit_keeps inForce fun answer after committed => ?_
  obtain ⟨row, found, required, requested⟩ := inForce
  by_cases terminal : isTerminalState row.internalState = true
  · have steps := (respects_all (anyStep_admits clocks) deployment call).of_steps
      (fun _ _ step => step.terminalKept) tables answer after committed
    obtain ⟨row', found', -, stopReason, cancelRequested⟩ := steps.kept row found terminal
    obtain ⟨reason, stopped, isRequired⟩ := required
    exact ⟨row', found', ⟨reason, stopReason.trans stopped, isRequired⟩,
      cancelRequested.trans requested⟩
  · rw [Bool.not_eq_true] at terminal
    have inForce : tables.StopInForce := ⟨row, found, required, requested⟩
    have kept := kept ⟨row, found, terminal, required⟩
    have protects (respects : Respects (Steps protecting) (call.tx deployment clocks)) :
        after.StopInForce :=
      respects.keeps (fun _ _ step => step.stopInForce) committed inForce
    have admits := protecting_admits clocks
    cases request : call.isRequest with
    | false => exact protects (respects_settling admits deployment call request)
    | true =>
      cases call with
      | claimDueCommands now ownerId leaseMilliseconds selected =>
        exact protects (steps_claimDueCommands admits.toAdmits now ownerId
          leaseMilliseconds selected fun _ _ _ => trivial)
      | beginCancel requestHash => exact beginCancel_stopInForce inForce kept committed
      | recordCooperativeCancellationIntent =>
        exact recordCooperativeCancellationIntent_stopInForce inForce
          (by simpa [withdrawsStop] using kept) committed
      | rejectUserCancel command adapterRevision transition ack =>
        exact rejectUserCancel_stopInForce inForce ⟨row, found, terminal⟩
          (by simpa [withdrawsStop] using kept) committed
      | beginCommand commandType requestHash payload =>
        exact protects (steps_beginCommand admits.toAdmits commandType requestHash
          payload fun _ => trivial)
      | _ => exact Bool.noConfusion request

/-- The call does not withdraw the stop of a live task that must stop. -/
def KeepsRequiredStop (executed : Invocation) (tables : TaskTables) : Prop :=
  tables.MustStop → executed.effect.withdrawsStop tables = false

instance (executed : Invocation) (tables : TaskTables) :
    Decidable (KeepsRequiredStop executed tables) :=
  inferInstanceAs (Decidable (_ → _))

theorem run_stopShown (deployment : Deployment) (labels : List RuntimeLabel) :
    (run deployment initial labels).store.StopShown := by
  refine System.run_store_always (fun executed tables shown => ?_) (fun row found => ?_) labels
  · exact commit_keeps shown fun answer after committed =>
      (respects_all (showing_admits executed.clock) deployment executed.effect).keeps
        (fun _ _ step => step.stopShown) committed shown
  · cases found

/-- Once a live task has a required stop, every later state of the run has one, and the request
for cancellation with it. -/
theorem requiredStop_kept (deployment : Deployment) (first second : List RuntimeLabel)
    (keeps : Runtime.Throughout deployment (System.OnCommit KeepsRequiredStop) initial
      (first ++ second))
    (must : (run deployment initial first).store.MustStop) :
    (run deployment initial (first ++ second)).store.StopInForce := by
  obtain ⟨row, found, -, required⟩ := must
  have requested : row.cancelRequested = true := by
    obtain ⟨reason, stopped, -⟩ := required
    exact run_stopShown deployment first row found (by simp [stopped])
  rw [run, System.run_append]
  refine System.run_store_induction (fun executed tables inForce kept => ?_)
    ⟨row, found, required, requested⟩ second (System.throughout_append.mp keeps).2
  exact executed.effect.stopInForce deployment executed.clock kept inForce

namespace Sample

def cancelClaimed : List RuntimeLabel :=
  published "RUNNING" 1 ++ (.spawn (.cancelTask authorization) :: perform 1 3 2) ++
    (.spawn (.tick worker true true) :: perform 2 3 3)

def deadlinePasses (thread : Nat) : List RuntimeLabel :=
  .spawn (.background (.claimExpiredDeadlines 10) rfl) :: perform thread 1 10

/-- The worker delivers its copy of the CANCEL, the adapter refuses, and the task goes back to
what the adapter reports. -/
def cancelRefused : List RuntimeLabel :=
  perform 2 8 10 ++ exchange 2 (ack false "NO" 1) ++ perform 2 2 10 ++
    exchange 2 (found "RUNNING" 1) ++ perform 2 3 10

end Sample

open Sample in
theorem requiredStop_kept_sample :
    (run deployment initial
      ((cancelClaimed ++ deadlinePasses 3) ++ perform 2 8 10)).store.StopInForce :=
  requiredStop_kept deployment (cancelClaimed ++ deadlinePasses 3) (perform 2 8 10)
    (by decide +kernel) (by decide +kernel)

open Sample in
/-- An attempt that claimed the CANCEL of a user withdraws the stop of the deadline. -/
theorem requiredStop_withdrawn :
    ¬∀ (deployment : Deployment) (first second : List RuntimeLabel),
      (run deployment initial first).store.MustStop →
        (run deployment initial (first ++ second)).store.StopInForce := by
  intro kept
  have inForce := kept deployment (cancelClaimed ++ deadlinePasses 3) cancelRefused
    (by decide +kernel)
  exact absurd inForce (by decide +kernel)

end SdarRuntime
