import SdarRuntime.Runtime.Attempts
import SdarRuntime.Runtime.RequiredStop

/-!
A required stop of a live task is driven by an active CANCEL, as long as no attempt rejects
the CANCEL it has claimed while the task must stop. Every other end of a CANCEL ends the
task, withdraws the stop, or leaves the CANCEL to be tried again.
-/

namespace SdarRuntime

open Transaction CommandRow TaskTransitionRequest

def TaskTables.StopDriven (tables : TaskTables) : Prop :=
  tables.MustStop → ∃ row ∈ tables.commands, row.isActiveStop = true

def TaskTables.RefusalsSettled (tables : TaskTables) : Prop :=
  ∀ sequence, .cancelRejected sequence ∈ tables.outbox →
    ∃ row ∈ tables.commands, row.sequence = sequence ∧ row.state.isSettled = true

/-- Steps that refuse no cancellation and leave a settled command settled. -/
def withoutRefusal : StepKind :=
  { fits := fun request => ∀ sequence, request.eventKey ≠ .cancelRejected sequence
    command := fun row row' => row'.sequence = row.sequence ∧
      (row.state.isSettled = true → row'.state.isSettled = true)
    creates := fun _ => True }

/-- Steps that require no stop and leave every active stop active, but the one under the
given sequence. -/
def drivingBut (settled : Option Nat) : StepKind :=
  { fits := fun request => request.Ordinary ∨ request.RequestsStop
    command := fun row row' => row'.sequence = row.sequence ∧
      (some row.sequence ≠ settled → row.isActiveStop = true → row'.isActiveStop = true)
    creates := fun _ => True }

def acting : StepKind :=
  { fits := fun _ => True
    command := fun row row' => row'.sequence = row.sequence ∧
      (row.isActiveStop = true → row'.isActiveStop = true)
    creates := fun _ => True }

theorem TaskTransitionRequest.not_cancelRejected {request : TaskTransitionRequest}
    (plain : request.eventKey.isPlain = true) (sequence : Nat) :
    request.eventKey ≠ .cancelRejected sequence := by
  intro key
  rw [key] at plain
  cases plain

theorem withoutRefusal_admits (clocks : Clocks) : withoutRefusal.AdmitsSettling clocks where
  ordinary request ordinary := by
    rcases ordinary.key with plain | ⟨revision, key, -⟩
    · exact request.not_cancelRejected plain
    · intro sequence
      simp [key]
  drives _ _ drives := ⟨drives.sequence, drives.settled⟩
  creates _ _ _ := trivial
  requires request requires := request.not_cancelRejected requires.key
  keeps _ _ keeps := ⟨keeps.sequence, keeps.settled⟩
  fails request fails := by
    obtain ⟨sequence', key⟩ := fails.key
    intro sequence
    simp [key]

theorem drivingBut_admits (settled : Option Nat) (clocks : Clocks) :
    (drivingBut settled).Admits clocks where
  ordinary _ ordinary := .inl ordinary
  drives _ _ drives := ⟨drives.sequence, fun _ => drives.active⟩
  creates _ _ _ := trivial

theorem acting_admits (clocks : Clocks) : acting.AdmitsStops clocks where
  ordinary _ _ := trivial
  drives _ _ drives := ⟨drives.sequence, drives.active⟩
  creates _ _ _ := trivial
  requires _ _ := trivial

variable {before after : TaskTables}

theorem Step.refusalsSettled (step : Step withoutRefusal before after)
    (sequenced : before.Sequenced) (settled : before.RefusalsSettled) :
    after.RefusalsSettled := by
  cases step with
  | transition request row applies fits =>
    intro sequence member
    rcases List.mem_append.mp member with known | new
    · exact settled sequence known
    · exact absurd (List.mem_singleton.mp new).symm (fits sequence)
  | aside | publish => exact settled
  | commands change permitted =>
    intro sequence member
    obtain ⟨row, isRow, same, ended⟩ := settled sequence member
    obtain ⟨kept, keepsEnded⟩ := permitted sequenced row isRow
    exact ⟨change row, List.mem_map_of_mem isRow, kept.trans same, keepsEnded ended⟩
  | insertCommand row created fresh numbered =>
    intro sequence member
    obtain ⟨other, isOther, found⟩ := settled sequence member
    exact ⟨other, List.mem_append_left _ isOther, found⟩
  | elsewhere admission uncertainty audit outbox inputRequests inbox plain =>
    exact fun sequence member =>
      settled sequence ((plain _ member).resolve_right (by simp [EventKey.isPlain]))

variable {settled : Option Nat}

theorem Step.mustStop (step : Step (drivingBut settled) before after) (must : after.MustStop) :
    before.MustStop := by
  obtain ⟨row', found, live, required⟩ := must
  cases step with
  | transition request row applies fits =>
    cases found
    obtain ⟨reason, stopped, isRequired⟩ := required
    rw [row_stopReason] at stopped
    rcases fits with ordinary | requests
    · rw [ordinary.neutral.2] at stopped
      exact ⟨row, applies.found, applies.live, reason, stopped, isRequired⟩
    · rw [requests.stopReason] at stopped
      cases stopped
      cases isRequired
  | aside change aside =>
    obtain ⟨row, foundRow, rfl⟩ := Option.map_eq_some_iff.mp found
    refine ⟨row, foundRow, (aside row).internalState ▸ live, ?_⟩
    unfold TaskRecord.StopRequired at required ⊢
    rwa [(aside row).stopReason] at required
  | publish row observations unpublished publishes =>
    cases found
    obtain ⟨reason, stopped, -⟩ := required
    rw [publishes.unstopped] at stopped
    cases stopped
  | commands | insertCommand | elsewhere => exact ⟨row', found, live, required⟩

theorem Step.keepsActive (step : Step (drivingBut settled) before after)
    (sequenced : before.Sequenced)
    (active : ∃ row ∈ before.commands, row.isActiveStop = true ∧ some row.sequence ≠ settled) :
    ∃ row ∈ after.commands, row.isActiveStop = true ∧ some row.sequence ≠ settled := by
  obtain ⟨row, member, isActive, other⟩ := active
  cases step with
  | transition | aside | publish | elsewhere => exact ⟨row, member, isActive, other⟩
  | commands change permitted =>
    obtain ⟨same, keeps⟩ := permitted sequenced row member
    exact ⟨change row, List.mem_map_of_mem member, keeps other isActive, same ▸ other⟩
  | insertCommand row' created fresh numbered =>
    exact ⟨row, List.mem_append_left _ member, isActive, other⟩

theorem Step.acting (step : Step SdarRuntime.acting before after) (sequenced : before.Sequenced)
    (active : ∃ row ∈ before.commands, row.isActiveStop = true) :
    ∃ row ∈ after.commands, row.isActiveStop = true := by
  obtain ⟨row, member, isActive⟩ := active
  cases step with
  | transition | aside | publish | elsewhere => exact ⟨row, member, isActive⟩
  | commands change permitted =>
    exact ⟨change row, List.mem_map_of_mem member,
      (permitted sequenced row member).2 isActive⟩
  | insertCommand row' created fresh numbered =>
    exact ⟨row, List.mem_append_left _ member, isActive⟩

structure DrivesStop (before after : TaskTables) : Prop where
  sequenced : before.Sequenced → after.Sequenced
  driven : before.Sequenced → before.StopDriven → after.StopDriven

instance : Std.Refl DrivesStop := ⟨fun _ => ⟨id, fun _ => id⟩⟩

instance : IsTrans TaskTables DrivesStop where
  trans _ _ _ earlier later :=
    ⟨later.sequenced ∘ earlier.sequenced, fun sequenced driven =>
      later.driven (earlier.sequenced sequenced) (earlier.driven sequenced driven)⟩

theorem Step.drivesStop (step : Step (drivingBut none) before after) : DrivesStop before after := by
  refine ⟨step.sequenced fun _ _ same => And.left same, fun sequenced driven must => ?_⟩
  obtain ⟨row, member, active⟩ := driven (step.mustStop must)
  obtain ⟨row', member', active', -⟩ :=
    step.keepsActive sequenced ⟨row, member, active, by simp⟩
  exact ⟨row', member', active'⟩

variable {α : Type} {tx : Tx α} {sequence : Nat} {answer : α}

theorem stopDriven_of_settling (settles : Respects (Steps (drivingBut (some sequence))) tx)
    (committed : tx before = .ok (answer, after)) (sequenced : before.Sequenced)
    (passive : before.MustStop → ∀ row ∈ before.commands, row.sequence = sequence →
      row.isActiveStop = false) (driven : before.StopDriven) : after.StopDriven := by
  intro must
  have must : before.MustStop := by
    have steps := settles before answer after committed
    clear committed settles
    induction steps with
    | refl => exact must
    | tail earlier last ih => exact ih (last.mustStop must)
  obtain ⟨row, member, active⟩ := driven must
  have other : some row.sequence ≠ some sequence := by
    intro same
    have notActive := passive must row member (Option.some.inj same)
    rw [active] at notActive
    cases notActive
  have kept := settles.keeps
    (P := fun tables => tables.Sequenced ∧
      ∃ row ∈ tables.commands, row.isActiveStop = true ∧ some row.sequence ≠ some sequence)
    (fun _ _ step held => ⟨step.sequenced (fun _ _ same => And.left same) held.1,
      step.keepsActive held.1 held.2⟩)
    committed ⟨sequenced, row, member, active, other⟩
  obtain ⟨row', member', active', -⟩ := kept.2
  exact ⟨row', member', active'⟩

theorem drivesStop_of_acting {before middle after : TaskTables}
    (created : Steps acting before middle)
    (active : ∃ row ∈ middle.commands, row.isActiveStop = true) (rest : Respects (Steps acting) tx)
    (committed : tx middle = .ok (answer, after)) :
    DrivesStop before after := by
  have sequenced : before.Sequenced → middle.Sequenced := by
    intro sequenced
    clear committed active
    induction created with
    | refl => exact sequenced
    | tail earlier last ih => exact last.sequenced (fun _ _ same => And.left same) ih
  have kept (start : before.Sequenced) :=
    rest.keeps (P := fun tables => tables.Sequenced ∧
        ∃ row ∈ tables.commands, row.isActiveStop = true)
      (fun _ _ step held => ⟨step.sequenced (fun _ _ same => And.left same) held.1,
        step.acting held.1 held.2⟩)
      committed ⟨sequenced start, active⟩
  exact ⟨fun start => (kept start).1, fun start _ _ => (kept start).2⟩

theorem retargeted_active {command : CommandRow} {commands : List CommandRow}
    {change : CommandRow → CommandRow} (member : command ∈ commands)
    (active : (change command).isActiveStop = true) :
    ∃ row ∈ changeWhere (fun row => row.sequence == command.sequence) change commands,
      row.isActiveStop = true :=
  ⟨change command, List.mem_map.mpr ⟨command, member, if_pos (beq_self_eq_true _)⟩, active⟩

variable {clocks : Clocks}

theorem startWindowCommand_active {env : Environment} {requestedAt : Instant}
    {previous : TaskRecord} (committed : startWindowCommand env clocks requestedAt previous
      (newestCommand isActiveStop before.commands) before = .ok (sequence, after)) :
    ∃ row ∈ after.commands, row.isActiveStop = true := by
  cases newest : newestCommand isActiveStop before.commands with
  | none =>
    rw [newest] at committed
    obtain ⟨task, -, -, committed⟩ := createCommand_eq_ok committed
    obtain ⟨-, rfl⟩ := pure_eq_ok.mp committed
    exact ⟨_, List.mem_append_right _ (List.mem_singleton_self _), rfl⟩
  | some command =>
    rw [newest] at committed
    obtain ⟨member, active, -⟩ := newestCommand_eq_some newest
    obtain ⟨_, _, retargeted, committed⟩ := bind_eq_ok.mp committed
    obtain ⟨-, rfl⟩ := pure_eq_ok.mp committed
    unfold when at retargeted
    split at retargeted
    · obtain ⟨_, _, updated, retargeted⟩ := bind_eq_ok.mp retargeted
      obtain ⟨-, rfl⟩ := pure_eq_ok.mp retargeted
      obtain ⟨-, rfl⟩ := updateCommands_eq_ok.mp updated
      exact retargeted_active member active
    · obtain ⟨-, rfl⟩ := pure_eq_ok.mp retargeted
      exact ⟨command, member, active⟩

theorem drivesStop_persistStartWindowStop (env : Environment) (clocks : Clocks)
    (requestedAt : Instant) : Respects DrivesStop (persistStartWindowStop env clocks requestedAt) := by
  refine respects_bind respects_lockTask fun previous => ?_
  refine respects_ite (fun _ => respects_pure _) fun _ => ?_
  refine respects_ite (fun _ => respects_abort _) fun _ => ?_
  refine respects_read_bind fun before answer after committed => ?_
  obtain ⟨sequence, middle, commanded, committed⟩ := bind_eq_ok.mp committed
  refine drivesStop_of_acting (steps_startWindowCommand (acting_admits clocks) commanded)
    (startWindowCommand_active commanded) ?_ committed
  exact respects_bind (steps_transitionTask trivial) fun _ =>
    respects_when fun _ => steps_insertCommandFact

theorem drivesStop_claimExpiredDeadlines (env : Environment) (clocks : Clocks) (now : Instant) :
    Respects DrivesStop (claimExpiredDeadlines env clocks now) := by
  refine respects_read_bind fun before answer after committed => ?_
  cases expired : before.task.filter fun row => deadlineExpired row now with
  | none =>
    simp only [expired] at committed
    exact respects_pure _ _ _ _ committed
  | some row =>
    simp only [expired] at committed
    obtain ⟨sequence, middle, commanded, committed⟩ := bind_eq_ok.mp committed
    have active : ∃ row ∈ middle.commands, row.isActiveStop = true := by
      cases newest : newestCommand isActiveStop before.commands with
      | none =>
        rw [newest] at commanded
        obtain ⟨task, -, -, commanded⟩ := createCommand_eq_ok commanded
        obtain ⟨-, rfl⟩ := pure_eq_ok.mp commanded
        exact ⟨_, List.mem_append_right _ (List.mem_singleton_self _), rfl⟩
      | some command =>
        rw [newest] at commanded
        obtain ⟨member, active, -⟩ := newestCommand_eq_some newest
        obtain ⟨_, _, updated, commanded⟩ := bind_eq_ok.mp commanded
        obtain ⟨-, rfl⟩ := pure_eq_ok.mp commanded
        obtain ⟨-, rfl⟩ := updateCommands_eq_ok.mp updated
        exact retargeted_active member active
    refine drivesStop_of_acting (steps_deadlineCommand (acting_admits clocks) commanded) active ?_
      committed
    exact respects_bind (steps_transitionTask trivial) fun _ =>
      respects_bind (respects_when fun _ => steps_insertCommandFact) fun _ => respects_pure _

variable {row : TaskRecord}

theorem not_mustStop_of_terminal (found : before.task = some row)
    (terminal : isTerminalState row.internalState = true) (kept : TerminalKept before after) :
    ¬after.MustStop := by
  rintro ⟨row', found', live, -⟩
  obtain ⟨_, same, terminal', -⟩ := kept.kept row found terminal
  rw [found'] at same
  cases same
  rw [live] at terminal'
  cases terminal'

theorem not_mustStop_of_steps {middle after : TaskTables} (steps : Respects (Steps anyStep) tx)
    (committed : tx middle = .ok (answer, after)) (found : middle.task = some row)
    (terminal : isTerminalState row.internalState = true) : ¬after.MustStop :=
  not_mustStop_of_terminal found terminal
    (steps.of_steps (fun _ _ step => step.terminalKept) _ _ _ committed)

variable {adapterRevision : Nat} {transition : SnapshotTransition} {answer : TaskRecord}

theorem applySnapshot_stopDriven {inputRequests : List NewInputRequest} (recorded : before.Recorded)
    (driven : before.StopDriven)
    (committed : applySnapshot clocks adapterRevision transition inputRequests before =
      .ok (answer, after)) : after.StopDriven := by
  have drives {α : Type} {tx : Tx α} {middle : TaskTables} {answer : α}
      (steps : Respects (Steps (drivingBut none)) tx)
      (ran : tx middle = .ok (answer, after)) (moved : DrivesStop before middle) :
      after.StopDriven :=
    (trans_of DrivesStop moved (steps.of_steps (fun _ _ step => step.drivesStop) _ _ _ ran)).driven
      recorded.sequenced driven
  have admits := drivingBut_admits none clocks
  obtain ⟨existing, _, locked, committed⟩ := bind_eq_ok.mp committed
  obtain ⟨found, rfl⟩ := lockTask_eq_ok.mp locked
  split at committed
  · obtain ⟨-, rfl⟩ := pure_eq_ok.mp committed
    exact driven
  rename_i live
  rw [not_or, Bool.not_eq_true] at live
  split at committed
  · refine drives ?_ committed (refl_of _ _)
    exact respects_bind (respects_updateTaskRow fun _ => .single
      (.aside _ fun _ => .of_eq rfl rfl)) fun _ => respects_lockTask
  rename_i newer
  obtain ⟨outcome, middle, transitioned, committed⟩ := bind_eq_ok.mp committed
  rcases transitionTask_eq_ok transitioned with
    ⟨row, isRow, -, rfl, silent⟩ | ⟨row, applies, -, -, rfl⟩
  · -- A newer revision is neither known nor stale.
    rw [found] at isRow
    cases isRow
    rcases silent with known | terminal | ⟨revision, isRevision, stale⟩
    · obtain ⟨_, same, bound⟩ := recorded.adapter adapterRevision known
      rw [found] at same
      cases same
      omega
    · rw [live.1] at terminal
      cases terminal
    · cases isRevision
      omega
  · cases terminal : transition.terminal with
    | true =>
      have ends : isTerminalState
          (mergeStopState existing transition).internalState = true := by
        rw [mergeStopState, if_pos (.inr terminal), ← transition.terminal_eq, terminal]
      refine fun must => (not_mustStop_of_steps ?_ committed rfl ?_ must).elim
      · refine respects_bind (steps_of_ordinary (anyStep_admits clocks).toAdmits
          (ordinary_upsertInputRequests _)) fun _ => ?_
        refine respects_bind (respects_when fun _ => ?_) fun _ => respects_pure _
        exact respects_bind (steps_updateCommands (anyStep_admits clocks).toAdmits fun _ _ => trivial)
          fun _ => respects_forEach fun _ _ => steps_insertCommandFact
      · rw [row_internalState]
        exact ends
    | false =>
      refine drives ?_ committed (Step.drivesStop
        (.transition _ row applies (.inl ⟨⟨rfl, rfl⟩, .inr ⟨_, rfl, rfl⟩⟩)))
      refine respects_bind (steps_of_ordinary admits (ordinary_upsertInputRequests _))
        fun _ => ?_
      exact respects_bind (respects_when fun ends => by simp [terminal] at ends) fun _ =>
        respects_pure _

variable {command : PendingCommandRecord}

theorem failSafeStopUnconfirmed_stopDriven {message : String} (found : before.task = some row)
    (live : isTerminalState row.internalState = false) (recorded : before.Recorded)
    (committed : failSafeStopUnconfirmed clocks command message before = .ok (answer, after)) :
    ¬after.MustStop := by
  obtain ⟨_, _, locked, committed⟩ := bind_eq_ok.mp committed
  obtain ⟨found', rfl⟩ := lockTask_eq_ok.mp locked
  rw [found] at found'
  cases found'
  rw [live, if_neg Bool.false_ne_true] at committed
  obtain ⟨outcome, middle, transitioned, committed⟩ := bind_eq_ok.mp committed
  rcases transitionTask_eq_ok transitioned with
    ⟨other, isOther, -, rfl, silent⟩ | ⟨other, applies, -, -, rfl⟩
  · rw [found] at isOther
    cases isOther
    rcases silent with known | terminal | ⟨revision, isRevision, -⟩
    · obtain ⟨_, same, terminal⟩ := recorded.failed _ known
      rw [found] at same
      cases same
      rw [live] at terminal
      cases terminal
    · rw [live] at terminal
      cases terminal
    · cases isRevision
  · refine not_mustStop_of_steps ?_ committed rfl ?_
    · refine respects_bind (steps_updateCommands (anyStep_admits clocks).toAdmits fun _ _ => trivial)
        fun _ => respects_ite (fun _ => respects_abort _) fun _ => ?_
      exact respects_bind steps_insertCommandFact fun _ => respects_pure _
    · rw [row_internalState]
      rfl

theorem rejectUserCancel_stopDriven {ack : CommandAck} (found : before.task = some row)
    (live : isTerminalState row.internalState = false) (sequenced : before.Sequenced)
    (settled : before.RefusalsSettled)
    (committed : rejectUserCancel clocks command adapterRevision transition ack before =
      .ok (answer, after)) : after.RefusalsSettled ∧ ¬after.MustStop := by
  obtain ⟨_, _, locked, committed⟩ := bind_eq_ok.mp committed
  obtain ⟨found', rfl⟩ := lockTask_eq_ok.mp locked
  rw [found] at found'
  cases found'
  rw [live, if_neg Bool.false_ne_true] at committed
  obtain ⟨outcome, middle, transitioned, committed⟩ := bind_eq_ok.mp committed
  obtain ⟨_, changed, settles, committed⟩ := bind_eq_ok.mp committed
  obtain ⟨⟨claimed, member, isClaimed, -⟩, rfl⟩ := changeClaimed_eq_ok settles
  have isSequence := claimedBy_sequence isClaimed
  rcases transitionTask_eq_ok transitioned with
    ⟨other, isOther, -, rfl, silent⟩ | ⟨other, applies, -, -, rfl⟩
  · rw [found] at isOther
    cases isOther
    rcases silent with known | terminal | ⟨revision, isRevision, stale⟩
    · -- A command refused before is settled, and so no longer claimed.
      obtain ⟨ended, isEnded, same, isSettled⟩ := settled _ known
      rw [sequenced.eq isEnded member (same.trans isSequence.symm),
        claimedBy_state isClaimed] at isSettled
      cases isSettled
    · rw [live] at terminal
      cases terminal
    · dsimp only at isRevision
      split at isRevision
      · cases isRevision
        omega
      · cases isRevision
  · have rest : Respects (Steps withoutRefusal) (do
        insertCommandFact command.commandSequence .rejected .rejected command.attemptCount
        pure outcome.row : Tx TaskRecord) :=
      respects_bind steps_insertCommandFact fun _ => respects_pure _
    have settledNow := rest.keeps
      (P := fun tables => tables.Sequenced ∧ tables.RefusalsSettled)
      (fun _ _ step held => ⟨step.sequenced (fun _ _ same => And.left same) held.1,
        step.refusalsSettled held.1 held.2⟩)
      committed ⟨?_, fun sequence known => ?_⟩
    · refine ⟨settledNow.2, fun must => ?_⟩
      have steps : Respects (Steps (drivingBut none)) (do
          insertCommandFact command.commandSequence .rejected .rejected command.attemptCount
          pure outcome.row : Tx TaskRecord) :=
        respects_bind steps_insertCommandFact fun _ => respects_pure _
      have clear := steps.keeps (P := fun tables => ¬tables.MustStop)
        (fun _ _ step clear must => clear (step.mustStop must)) committed ?_
      · exact clear must
      · rintro ⟨_, isRow, -, reason, stopped, -⟩
        cases isRow
        rw [row_stopReason] at stopped
        cases stopped
    · refine @Step.sequenced withoutRefusal (fun _ _ same => And.left same) _ _
        (.commands _ fun _ row _ => ?_) sequenced
      split
      · exact ⟨rfl, fun _ => rfl⟩
      · exact ⟨rfl, id⟩
    · rcases List.mem_append.mp known with earlier | new
      · obtain ⟨ended, isEnded, same, isSettled⟩ := settled sequence earlier
        refine ⟨_, List.mem_map_of_mem isEnded, ?_⟩
        split
        · exact ⟨same, rfl⟩
        · exact ⟨same, isSettled⟩
      · cases List.mem_singleton.mp new
        refine ⟨_, List.mem_map_of_mem member, ?_⟩
        simp only [isClaimed, anyKind, Bool.and_self, if_true]
        exact ⟨isSequence, rfl⟩

def RepositoryCall.rejectsCancel {β : Type} (call : RepositoryCall β) (tables : TaskTables) :
    Bool :=
  match call with
  | .rejectClaimedCommand command _ _ => tables.commands.any fun row =>
    row.claimedBy command.commandSequence command.claimOwner && row.commandType == .cancel
  | _ => false

/-- The call does not reject the CANCEL of a live task that must stop. -/
def KeepsStopDriven (executed : Invocation) (tables : TaskTables) : Prop :=
  tables.MustStop → executed.effect.rejectsCancel tables = false

instance (executed : Invocation) (tables : TaskTables) :
    Decidable (KeepsStopDriven executed tables) :=
  inferInstanceAs (Decidable (_ → _))

variable {tables : TaskTables}

theorem TaskTables.Held.passive {copy : PendingCommandRecord} (held : tables.Held copy)
    (sequenced : tables.Sequenced) (isUpdate : copy.commandType = .update) :
    ∀ row ∈ tables.commands, row.sequence = copy.commandSequence → row.isActiveStop = false := by
  obtain ⟨copied, isCopied, isCopy⟩ := held
  intro row member same
  rw [sequenced.eq member isCopied (same.trans isCopy.sequence)]
  exact isActiveStop_of_not_cancel (by rw [← isCopy.commandType, isUpdate]; decide)

theorem rejectClaimedCommand_stopDriven (clocks : Clocks) {errorCode errorMessage : String}
    {answer : Unit} (sequenced : before.Sequenced) (driven : before.StopDriven)
    (keeps : before.MustStop → ∀ row ∈ before.commands,
      row.claimedBy command.commandSequence command.claimOwner = true →
        row.commandType ≠ .cancel)
    (committed : rejectClaimedCommand command errorCode errorMessage before =
      .ok (answer, after)) : after.StopDriven := by
  have settles := steps_rejectClaimedCommand
    (drivingBut_admits (some command.commandSequence) clocks)
    (fun row row' same kept => ⟨kept.sequence, fun other => absurd (congrArg some same) other⟩)
    errorCode errorMessage
  refine stopDriven_of_settling settles committed sequenced (fun must row member same => ?_) driven
  obtain ⟨_, _, rejects, -⟩ := bind_eq_ok.mp committed
  obtain ⟨⟨claimed, isRow, isClaimed, -⟩, -⟩ := changeClaimed_eq_ok rejects
  rw [sequenced.eq member isRow (same.trans (claimedBy_sequence isClaimed).symm)]
  exact isActiveStop_of_not_cancel (keeps must claimed isRow isClaimed)

/-- A licensed call that rejects no CANCEL of a task that must stop keeps the stop driven. -/
theorem RepositoryCall.stopDriven (deployment : Deployment) (clocks : Clocks) {β : Type}
    (call : RepositoryCall β) (recorded : tables.Recorded)
    (licensed : call.Licensed deployment tables)
    (keeps : tables.MustStop → call.rejectsCancel tables = false) (settled : tables.RefusalsSettled)
    (driven : tables.StopDriven) :
    (call.exec deployment clocks tables).2.StopDriven := by
  refine commit_keeps driven fun answer after committed => ?_
  by_cases terminal : ∃ row, tables.task = some row ∧ isTerminalState row.internalState = true
  · obtain ⟨row, found, terminal⟩ := terminal
    refine fun must => (not_mustStop_of_terminal found terminal ?_ must).elim
    exact (respects_all (anyStep_admits clocks) deployment call).of_steps
      (fun _ _ step => step.terminalKept) tables answer after committed
  have live (row : TaskRecord) (found : tables.task = some row) :
      isTerminalState row.internalState = false := by
    rw [← Bool.not_eq_true]
    exact fun isTerminal => terminal ⟨row, found, isTerminal⟩
  have drives (respects : Respects DrivesStop (call.tx deployment clocks)) : after.StopDriven :=
    (respects tables answer after committed).driven recorded.sequenced driven
  have stepwise (steps : Respects (Steps (drivingBut none)) (call.tx deployment clocks)) :
      after.StopDriven := drives (steps.of_steps fun _ _ step => step.drivesStop)
  have admits := drivingBut_admits none clocks
  have ordinary (before after : TaskTables) (step : OrdinaryStep before after) :
      DrivesStop before after := Step.drivesStop (step.step admits.ordinary)
  have settling (copy : PendingCommandRecord) (row row' : CommandRow)
      (same : row.sequence = copy.commandSequence) (kept : row.Keeps row') :
      (drivingBut (some copy.commandSequence)).command row row' :=
    ⟨kept.sequence, fun other => absurd (congrArg some same) other⟩
  -- The copy of an attempt that ends an UPDATE.
  have updates (copy : PendingCommandRecord)
      (held : tables.Held copy) (isUpdate : copy.commandType = .update)
      (settles : Respects (Steps (drivingBut (some copy.commandSequence)))
        (call.tx deployment clocks)) : after.StopDriven :=
    stopDriven_of_settling settles committed recorded.sequenced
      (fun _ => held.passive recorded.sequenced isUpdate) driven
  cases call with
  | publishAccepted input =>
    exact drives (respects_publishAccepted
      (drivesStop_persistStartWindowStop deployment.env clocks) ordinary input)
  | acceptScheduled input =>
    exact drives (respects_acceptScheduled
      (drivesStop_persistStartWindowStop deployment.env clocks) ordinary input)
  | stopUnconfirmedBoundExecution claimOwner requestedAt =>
    exact drives (respects_stopUnconfirmedBoundExecution
      (drivesStop_persistStartWindowStop deployment.env clocks) ordinary claimOwner requestedAt)
  | claimExpiredDeadlines now =>
    exact drives (drivesStop_claimExpiredDeadlines deployment.env clocks now)
  | claimDueCommands now ownerId leaseMilliseconds selected =>
    refine stepwise (steps_claimDueCommands admits now ownerId leaseMilliseconds
      selected fun _ row _ => ⟨rfl, fun _ active => ?_⟩)
    simp only [isActiveStop, Bool.and_eq_true] at active
    simp [isActiveStop, claim, CommandState.isDeliverable, active.1]
  | beginCancel requestHash =>
    exact stepwise (steps_beginCancel admits requestHash fun _ requests => .inr requests)
  | recordCooperativeCancellationIntent =>
    exact stepwise (steps_recordCooperativeCancellationIntent clocks
      fun _ requests => .inr requests)
  | beginCommand commandType requestHash payload =>
    exact stepwise (steps_beginCommand admits commandType requestHash payload
      fun _ => trivial)
  | rejectClaimedCommand command errorCode errorMessage =>
    refine rejectClaimedCommand_stopDriven clocks recorded.sequenced driven
      (fun must row member claimed cancel => ?_) committed
    have notRejected := keeps must
    rw [RepositoryCall.rejectsCancel, List.any_eq_false] at notRejected
    exact notRejected row member (by simp [claimed, cancel])
  | rejectInputResponseAndFailTask command reasonCode message =>
    obtain ⟨held, isUpdate⟩ : tables.Held command ∧ command.commandType = .update := by
      simpa [Licensed, OfCaller, OfTick, isBackground, OfAttempt] using licensed
    exact updates command held isUpdate (steps_rejectInputResponseAndFailTask
      (drivingBut_admits _ clocks) (settling command) reasonCode message)
  | failInputResponseDelivery command message =>
    obtain ⟨held, isUpdate⟩ : tables.Held command ∧ command.commandType = .update := by
      simpa [Licensed, OfCaller, OfTick, isBackground, OfAttempt] using licensed
    exact updates command held isUpdate (steps_failInputResponseDelivery
      (drivingBut_admits _ clocks) (settling command) message)
  | acknowledgeUpdateAndCompleteInputAnswers command ack answers =>
    obtain ⟨held, isUpdate, -⟩ : tables.Held command ∧ command.commandType = .update ∧ _ := by
      simpa [Licensed, OfCaller, OfTick, isBackground, OfAttempt] using licensed
    exact updates command held isUpdate (steps_acknowledgeUpdateAndCompleteInputAnswers
      (drivingBut_admits _ clocks) (settling command) ack answers)
  | failSafeStopUnconfirmed command message =>
    obtain ⟨row, _, locked, -⟩ := bind_eq_ok.mp committed
    obtain ⟨found, -⟩ := lockTask_eq_ok.mp locked
    exact fun must => (failSafeStopUnconfirmed_stopDriven found (live row found) recorded
      committed must).elim
  | applySnapshot adapterRevision transition inputRequests =>
    exact applySnapshot_stopDriven recorded driven committed
  | rejectUserCancel command adapterRevision transition ack =>
    obtain ⟨row, _, locked, -⟩ := bind_eq_ok.mp committed
    obtain ⟨found, -⟩ := lockTask_eq_ok.mp locked
    exact fun must => ((rejectUserCancel_stopDriven found (live row found) recorded.sequenced
      settled committed).2 must).elim
  | _ => exact stepwise (respects_driving admits deployment _ rfl rfl rfl)

theorem RepositoryCall.refusalsSettled (deployment : Deployment) (clocks : Clocks) {β : Type}
    (call : RepositoryCall β) (sequenced : tables.Sequenced) (settled : tables.RefusalsSettled) :
    (call.exec deployment clocks tables).2.RefusalsSettled := by
  refine commit_keeps settled fun answer after committed => ?_
  have stepwise (steps : Respects (Steps withoutRefusal) (call.tx deployment clocks)) :
      after.RefusalsSettled :=
    (steps.keeps (P := fun tables => tables.Sequenced ∧ tables.RefusalsSettled)
      (fun _ _ step held => ⟨step.sequenced (fun _ _ same => And.left same) held.1,
        step.refusalsSettled held.1 held.2⟩)
      committed ⟨sequenced, settled⟩).2
  have admits := withoutRefusal_admits clocks
  cases call with
  | claimDueCommands now ownerId leaseMilliseconds selected =>
    exact stepwise (steps_claimDueCommands admits.toAdmits now ownerId leaseMilliseconds
      selected fun _ row unsettled => ⟨rfl, fun ended => by simp [unsettled] at ended⟩)
  | beginCancel requestHash =>
    exact stepwise (steps_beginCancel admits.toAdmits requestHash
      fun request requests => request.not_cancelRejected requests.key)
  | recordCooperativeCancellationIntent =>
    exact stepwise (steps_recordCooperativeCancellationIntent clocks
      fun request requests => request.not_cancelRejected requests.key)
  | beginCommand commandType requestHash payload =>
    exact stepwise (steps_beginCommand admits.toAdmits commandType requestHash payload
      fun _ => trivial)
  | rejectUserCancel command adapterRevision transition ack =>
    obtain ⟨row, _, locked, rest⟩ := bind_eq_ok.mp committed
    obtain ⟨found, rfl⟩ := lockTask_eq_ok.mp locked
    cases live : isTerminalState row.internalState with
    | false =>
      exact (rejectUserCancel_stopDriven found live sequenced settled committed).1
    | true =>
      rw [live, if_pos rfl] at rest
      have steps : Respects (Steps withoutRefusal) (do
          let _ ← updateCommands (fun other => other.sequence == command.commandSequence)
            (fun other => { other with
              state := .exhausted
              claimOwner := none
              claimUntil := none
              lastErrorCode := some "TASK_TERMINAL" })
          insertCommandFact command.commandSequence .exhausted .exhausted command.attemptCount
          pure row : Tx TaskRecord) :=
        respects_bind (steps_updateCommands admits.toAdmits fun _ _ => ⟨rfl, fun _ => rfl⟩)
          fun _ => respects_bind steps_insertCommandFact fun _ => respects_pure _
      exact (steps.keeps (P := fun tables => tables.Sequenced ∧ tables.RefusalsSettled)
        (fun _ _ step held => ⟨step.sequenced (fun _ _ same => And.left same) held.1,
          step.refusalsSettled held.1 held.2⟩)
        rest ⟨sequenced, settled⟩).2
  | _ => exact stepwise (respects_settling admits deployment _ rfl)

/-- In every state of a run whose calls reject no CANCEL of a task that must stop, such a task
has an active CANCEL. -/
theorem requiredStop_driven (deployment : Deployment) (labels : List RuntimeLabel)
    (keeps : Runtime.Throughout deployment (System.OnCommit KeepsStopDriven) Runtime.initial
      labels) :
    (Runtime.run deployment Runtime.initial labels).store.StopDriven := by
  have invariant := Runtime.run_invariant deployment
    (fun tables => tables.RefusalsSettled ∧ tables.StopDriven) KeepsStopDriven
    (fun executed tables recorded licensed keeps held =>
      ⟨executed.effect.refusalsSettled deployment executed.clock recorded.sequenced held.1,
        executed.effect.stopDriven deployment executed.clock recorded licensed keeps held.1
          held.2⟩)
    ⟨fun _ member => (nomatch member), fun must => by obtain ⟨_, found, -⟩ := must; cases found⟩
    labels keeps
  exact invariant.1.2

instance (tables : TaskTables) : Decidable tables.StopDriven :=
  inferInstanceAs (Decidable (_ → _))

namespace Sample

/-- A deadline passes before a worker claims the CANCEL that is created for it. -/
def deadlineClaimed : List RuntimeLabel :=
  published "RUNNING" 1 ++ deadlinePasses 1 ++ (.spawn (.tick worker true true) :: perform 2 3 10)

def otherAck (sequence : Nat) : Answer :=
  .acknowledged
    { accepted := true
      reasonCode := ""
      message := ""
      commandSequence := sequence
      identity := some
        { taskId := "t"
          externalExecutionId := "other"
          operationName := "move"
          argumentHash := "h"
          executionContext := some context
          commandSequence := sequence } }

end Sample

open Sample in
theorem requiredStop_driven_sample :
    (Runtime.run deployment Runtime.initial
      (deadlineClaimed ++ perform 2 8 10)).store.StopDriven :=
  requiredStop_driven deployment (deadlineClaimed ++ perform 2 8 10) (by decide +kernel)

open Sample in
/-- An attempt whose answer is about another execution gives up the CANCEL of the deadline. -/
theorem requiredStop_undriven :
    ¬∀ (deployment : Deployment) (labels : List RuntimeLabel),
      (Runtime.run deployment Runtime.initial labels).store.StopDriven := by
  intro driven
  have atEnd := driven deployment
    (deadlineClaimed ++ perform 2 8 10 ++ exchange 2 (otherAck 1) ++ perform 2 3 10)
  exact absurd atEnd (by decide +kernel)

end SdarRuntime
