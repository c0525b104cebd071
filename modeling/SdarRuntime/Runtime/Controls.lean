import SdarRuntime.Runtime.Attempts
import SdarRuntime.Runtime.Sample

/-!
Requests to pause and resume. Once the earlier ones have been acknowledged, a request is
answered as it should be exactly when it is the first of its type or repeats the latest:
an earlier command of the same type, which is in force no longer, is found by its hash.
-/

namespace SdarRuntime

open Transaction

def TaskTables.latestControl (tables : TaskTables) : Option CommandRow :=
  newestCommand CommandRow.isControl tables.commands

/-- The task runs on without a stop, and nothing of it is still to be delivered: every request
to pause or resume has been acknowledged. -/
structure TaskTables.ControlsSettled (tables : TaskTables) : Prop where
  running : ∃ task, tables.task = some task ∧ isTerminalState task.internalState = false ∧
    task.isStopping = false
  delivered : ∀ row ∈ tables.commands, row.state.isDeliverable = false
  acknowledged : ∀ row ∈ tables.commands, row.isControl = true → row.state = .acknowledged

def TaskTables.ControlsHashed (env : Environment) (tables : TaskTables) : Prop :=
  ∀ row ∈ tables.commands, ∀ control : ControlType, row.commandType = control.commandType →
    row.requestHash = controlHash env control

def AnsweredExisting (tables : TaskTables) (result : Except Failure CommandResolution × TaskTables) :
    Prop :=
  (∃ resolution, result.1 = .ok resolution ∧ resolution.disposition = .existing) ∧
    result.2.commands = tables.commands

/-- The request creates a command of its type, which may be claimed at once. -/
def AnsweredCreated (control : ControlType) (now : Instant) (tables : TaskTables)
    (result : Except Failure CommandResolution × TaskTables) : Prop :=
  ∃ resolution row, result.1 = .ok resolution ∧ resolution.disposition = .created ∧
    result.2.commands = tables.commands ++ [row] ∧ row.sequence = resolution.sequence ∧
    row.commandType = control.commandType ∧
    ∀ instant, now ≤ instant → row.isClaimable false instant = true

/-- A repeat of the request that is in force is answered with it; any other request creates a
command. -/
def AnsweredInTurn (control : ControlType) (now : Instant) (tables : TaskTables)
    (result : Except Failure CommandResolution × TaskTables) : Prop :=
  if tables.latestControl.any (fun row => row.commandType == control.commandType) then
    AnsweredExisting tables result
  else AnsweredCreated control now tables result

def hashing (env : Environment) : StepKind :=
  { fits := fun _ => True
    command := CommandRow.SameCommand
    creates := fun row => ∀ control : ControlType, row.commandType = control.commandType →
      row.requestHash = controlHash env control }

variable {control : ControlType}

theorem CommandRow.isControl_of_commandType {row : CommandRow}
    (same : row.commandType = control.commandType) : row.isControl = true := by
  cases control <;> simp [isControl, same, ControlType.commandType]

theorem hashing_admits (env : Environment) (clocks : Clocks) :
    (hashing env).AdmitsSettling clocks where
  ordinary _ _ := trivial
  drives _ _ drives := drives.toSameCommand
  creates row _ other control same := by
    rw [CommandRow.isControl_of_commandType same] at other
    cases other
  requires _ _ := trivial
  keeps _ _ keeps := keeps.toSameCommand
  fails _ _ := trivial

theorem Step.controlsHashed {env : Environment} {before after : TaskTables}
    (step : Step (hashing env) before after) (sequenced : before.Sequenced)
    (hashed : before.ControlsHashed env) : after.ControlsHashed env := by
  cases step with
  | transition | aside | publish | elsewhere => exact hashed
  | commands change permitted =>
    intro row' member control isControl
    obtain ⟨row, isRow, rfl⟩ := List.mem_map.mp member
    have same := permitted sequenced row isRow
    rw [same.requestHash]
    exact hashed row isRow control (same.commandType ▸ isControl)
  | insertCommand row created fresh numbered =>
    intro other member control isControl
    rcases List.mem_append.mp member with known | new
    · exact hashed other known control isControl
    · cases List.mem_singleton.mp new
      exact created control isControl

variable {tables : TaskTables}

theorem RepositoryCall.controlsHashed (deployment : Deployment) (clocks : Clocks) {β : Type}
    (call : RepositoryCall β) (sequenced : tables.Sequenced)
    (licensed : call.Licensed deployment tables) (hashed : tables.ControlsHashed deployment.env) :
    (call.exec deployment clocks tables).2.ControlsHashed deployment.env := by
  refine commit_keeps hashed fun answer after committed => ?_
  have stepwise (steps : Respects (Steps (hashing deployment.env)) (call.tx deployment clocks)) :
      after.ControlsHashed deployment.env :=
    (steps.keeps (P := fun tables => tables.Sequenced ∧ tables.ControlsHashed deployment.env)
      (fun _ _ step held => ⟨step.sequenced (fun _ _ => CommandRow.SameCommand.sequence) held.1,
        step.controlsHashed held.1 held.2⟩)
      committed ⟨sequenced, hashed⟩).2
  have admits := hashing_admits deployment.env clocks
  cases call with
  | claimDueCommands now ownerId leaseMilliseconds selected =>
    exact stepwise (steps_claimDueCommands admits.toAdmits now ownerId leaseMilliseconds
      selected fun _ _ _ => ⟨rfl, rfl, rfl, fun _ => rfl⟩)
  | beginCancel requestHash =>
    exact stepwise (steps_beginCancel admits.toAdmits requestHash fun _ _ => trivial)
  | recordCooperativeCancellationIntent =>
    exact stepwise (steps_recordCooperativeCancellationIntent clocks fun _ _ => trivial)
  | rejectUserCancel command adapterRevision transition ack =>
    exact stepwise (steps_rejectUserCancel admits command adapterRevision transition ack
      fun _ _ => trivial)
  | beginCommand commandType requestHash payload =>
    refine stepwise (steps_beginCommand admits.toAdmits commandType requestHash payload
      fun sequence control isControl => ?_)
    change commandType = control.commandType at isControl
    have ofCaller : commandType = .update ∨ ∃ other : ControlType,
        commandType = other.commandType ∧ requestHash = controlHash deployment.env other ∧
          payload = .obj [] := by
      simpa [Licensed, OfCaller, OfTick, isBackground, OfAttempt] using licensed
    rcases ofCaller with update | ⟨other, isOther, isHash, -⟩
    · rw [update] at isControl
      cases control <;> cases isControl
    · have same : other = control := by
        rw [isControl] at isOther
        cases other <;> cases control <;> first | rfl | cases isOther
      exact same ▸ isHash
  | _ => exact stepwise (respects_settling admits deployment _ rfl)

section Answer

variable {clocks : Clocks} {tables : TaskTables}

variable {requestHash : String} {payload : Json}

theorem beginCommand_existing {commandType : CommandType} {task : TaskRecord}
    {existing : CommandRow} (found : tables.task = some task) (newest : newestCommand (fun row =>
      row.commandType == commandType && row.requestHash == requestHash) tables.commands =
        some existing) :
    AnsweredExisting tables ((beginCommand clocks commandType requestHash payload).commit
      tables) := by
  have ran : ∃ after, beginCommand clocks commandType requestHash payload tables =
      .ok (mapCommandResolution existing, after) ∧ after.commands = tables.commands := by
    unfold beginCommand
    rw [bind_of_ok (lockTask_eq_ok.mpr ⟨found, rfl⟩), read_bind]
    simp only [newest, insertCommandFact, insertOutbox_eq]
    rw [update_bind]
    exact ⟨_, rfl, rfl⟩
  obtain ⟨after, ran, same⟩ := ran
  rw [commit_of_ok ran]
  exact ⟨⟨_, rfl, rfl⟩, same⟩

theorem control_fresh {sequence : Nat} (unused : ∀ row ∈ tables.commands, row.sequence < sequence)
    (first : ∀ row ∈ tables.commands, row.commandType ≠ control.commandType) :
    commandConflict (newCommand sequence control.commandType requestHash payload clocks.database)
      tables.commands = none := by
  have isControl : control.commandType ≠ .cancel ∧ control.commandType ≠ .intervention := by
    cases control <;> simp [ControlType.commandType]
  have absent (matches' : CommandRow → Bool)
      (different : ∀ row ∈ tables.commands, matches' row = false) :
      tables.commands.any matches' = false :=
    List.any_eq_false.mpr fun row member => by simp [different row member]
  unfold commandConflict
  rw [absent _ fun row member => by
      simpa [newCommand] using ne_of_lt (unused row member),
    absent (fun other => other.commandType == _ && _) fun row member => by
      simp [newCommand, first row member]]
  simp [newCommand, CommandRow.isActiveStop, isControl]

/-- Without an earlier command of the type and with nothing to deliver, a control is created. -/
theorem beginCommand_created (recorded : tables.Recorded) (observed : tables.Observed)
    (settled : tables.ControlsSettled)
    (first : ∀ row ∈ tables.commands, row.commandType ≠ control.commandType) :
    AnsweredCreated control clocks.database tables
      ((beginCommand clocks control.commandType requestHash payload).commit tables) := by
  obtain ⟨task, found, live, unstopped⟩ := settled.running
  let row := newCommand (task.nextCommandSequence + 1) control.commandType requestHash payload
    clocks.database
  let counted : TaskTables := { tables with
    task := some task.countCommand
    commands := tables.commands ++ [row] }
  have fresh : commandConflict row tables.commands = none := by
    refine control_fresh (fun other member => ?_) first
    obtain ⟨_, same, numbered⟩ := recorded.numbered other member
    rw [found] at same
    cases same
    omega
  have unobserved : ∀ observation ∈ tables.observations,
      observation.revision ≠ task.observationRevision + 1 := by
    intro observation member same
    have listed := List.mem_map_of_mem (f := ObservationRow.revision) member
    rw [observed, found, Option.elim_some, List.mem_range'_1] at listed
    omega
  have created : ∃ after, requestCommand clocks task control.commandType requestHash payload
      tables = .ok (createdResolution (task.nextCommandSequence + 1) control.commandType, after) ∧
        after.commands = tables.commands ++ [row] := by
    have next : nextCommandSequence tables =
        .ok (task.nextCommandSequence + 1, { tables with task := some task.countCommand }) := by
      unfold nextCommandSequence updateTaskRow
      rw [update_bind, bind_of_ok (lockTask_eq_ok.mpr ⟨by rw [found]; rfl, rfl⟩), found]
      rfl
    have inserted : insertCommand row { tables with task := some task.countCommand } =
        .ok ((), counted) := insertCommand_eq_ok.mpr ⟨fresh, rfl⟩
    unfold requestCommand
    rw [bind_of_ok next, bind_of_ok inserted]
    generalize isTransition : transitionTask _ = transition
    obtain ⟨outcome, after, transitioned, kept⟩ : ∃ outcome after,
        transition counted = .ok (outcome, after) ∧ after.commands = counted.commands := by
      rw [← isTransition]
      exact transitionTask_ok rfl (fun _ isVersion => Option.some.inj isVersion) unobserved
    rw [bind_of_ok transitioned, insertCommandFact, insertOutbox_eq, update_bind]
    exact ⟨_, rfl, kept⟩
  obtain ⟨after, ran, commands⟩ := created
  have began : beginCommand clocks control.commandType requestHash payload tables =
      .ok (createdResolution (task.nextCommandSequence + 1) control.commandType, after) := by
    unfold beginCommand
    rw [bind_of_ok (lockTask_eq_ok.mpr ⟨found, rfl⟩), read_bind]
    cases newest : newestCommand (fun row =>
        row.commandType == control.commandType && row.requestHash == requestHash)
        tables.commands with
    | some existing =>
      obtain ⟨member, matched, -⟩ := newestCommand_eq_some newest
      simp only [Bool.and_eq_true, beq_iff_eq] at matched
      exact absurd matched.1 (first existing member)
    | none =>
      simp only [live, unstopped, Bool.false_eq_true, if_false]
      cases oldest : oldestCommand (fun row => row.state.isDeliverable) tables.commands with
      | some active =>
        obtain ⟨member, deliverable⟩ := oldestCommand_eq_some oldest
        rw [settled.delivered active member] at deliverable
        cases deliverable
      | none => exact ran
  rw [commit_of_ok began]
  refine ⟨_, row, rfl, rfl, commands, rfl, rfl, fun instant later => ?_⟩
  simp [row, newCommand, CommandRow.isClaimable, later]

end Answer

/-- A request to pause or resume is answered in turn exactly when it is the first of its type,
or repeats the latest. -/
def RepositoryCall.AnswersControls {β : Type} (clocks : Clocks) (tables : TaskTables) :
    RepositoryCall β → Prop
  | .beginCommand commandType requestHash payload => ∀ control : ControlType,
      commandType = control.commandType → tables.ControlsSettled →
      (AnsweredInTurn control clocks.database tables
          ((SdarRuntime.beginCommand clocks commandType requestHash payload).commit tables) ↔
        (∀ row ∈ tables.commands, row.commandType ≠ control.commandType) ∨
          tables.latestControl.any (fun row => row.commandType == control.commandType) = true)
  | _ => True

theorem RepositoryCall.answersControls (deployment : Deployment) (clocks : Clocks) {β : Type}
    (call : RepositoryCall β) (recorded : tables.Recorded) (observed : tables.Observed)
    (hashed : tables.ControlsHashed deployment.env) (licensed : call.Licensed deployment tables) :
    call.AnswersControls clocks tables := by
  cases call with
  | beginCommand commandType requestHash payload =>
    rintro control rfl settled
    have ofCaller : control.commandType = .update ∨ ∃ other : ControlType,
        control.commandType = other.commandType ∧
          requestHash = controlHash deployment.env other ∧ payload = .obj [] := by
      simpa [Licensed, OfCaller, OfTick, isBackground, OfAttempt] using licensed
    have isHash : requestHash = controlHash deployment.env control := by
      rcases ofCaller with update | ⟨other, isOther, isHash, -⟩
      · cases control <;> cases update
      · cases control <;> cases other <;> first | exact isHash | cases isOther
    obtain ⟨task, found, -, -⟩ := settled.running
    -- An earlier control of the type is found by its hash.
    have existing (row : CommandRow) (member : row ∈ tables.commands)
        (same : row.commandType = control.commandType) : AnsweredExisting tables
          ((SdarRuntime.beginCommand clocks control.commandType requestHash payload).commit
            tables) := by
      cases newest : newestCommand (fun row =>
          row.commandType == control.commandType && row.requestHash == requestHash)
          tables.commands with
      | some existing => exact beginCommand_existing found newest
      | none =>
        have unmatched := newestCommand_eq_none newest row member
        simp [same, isHash, hashed row member control same] at unmatched
    cases latest : tables.latestControl.any
      (fun row => row.commandType == control.commandType) with
    | true =>
      obtain ⟨row, isLatest, same⟩ := Option.any_eq_true _ _ |>.mp latest
      obtain ⟨member, -⟩ := newestCommand_eq_some isLatest
      refine ⟨fun _ => .inr rfl, fun _ => ?_⟩
      rw [AnsweredInTurn, latest, if_pos rfl]
      exact existing row member (beq_iff_eq.mp same)
    | false =>
      rw [AnsweredInTurn, latest, if_neg Bool.false_ne_true]
      constructor
      · rintro ⟨resolution, _, answered, isCreated, -⟩
        refine .inl fun row member same => ?_
        obtain ⟨⟨_, answered', isExisting⟩, -⟩ := existing row member same
        rw [answered] at answered'
        cases answered'
        rw [isCreated] at isExisting
        cases isExisting
      · rintro (first | impossible)
        · exact beginCommand_created recorded observed settled first
        · cases impossible
  | _ => exact trivial

theorem controls_answered_iff (deployment : Deployment) (labels : List RuntimeLabel) :
    Runtime.Throughout deployment (System.OnCommit fun executed tables =>
      executed.effect.AnswersControls executed.clock tables)
      Runtime.initial labels := by
  have invariant := Runtime.run_invariant deployment
    (fun tables => tables.Observed ∧ tables.ControlsHashed deployment.env)
    (fun _ _ => True)
    (fun executed tables recorded licensed _ held =>
      ⟨(executed.effect.continues deployment executed.clock tables).observed held.1,
        executed.effect.controlsHashed deployment executed.clock recorded.sequenced licensed
          held.2⟩)
    ⟨rfl, fun _ member => nomatch member⟩ labels
    (System.throughout_always (fun _ _ _ _ => trivial) _ labels)
  refine System.throughout_mono invariant.2 fun _ _ commits executed isExecuted => ?_
  obtain ⟨recorded, licensed, -, observed, hashed⟩ := commits executed isExecuted
  exact executed.effect.answersControls deployment executed.clock recorded observed hashed licensed

namespace Sample

/-- A control is requested, delivered by the next tick, and acknowledged. -/
def controlled (thread : Nat) (control : ControlType) (sequence : Nat) : List RuntimeLabel :=
  (.spawn (.controlTask control authorization) :: perform thread 3 2) ++
    (.spawn (.tick worker true true) :: perform (thread + 1) 10 3) ++
    exchange (thread + 1) (ack true "" sequence) ++ perform (thread + 1) 2 4

end Sample

open Sample in
/-- The task is paused and resumed. The next request to pause finds the first one, which is in
force no longer, and creates no command. -/
theorem controls_answered_stale :
    let tables := (run (published "RUNNING" 1 ++ controlled 1 .pause 1 ++
      controlled 3 .resume 2)).store
    (∃ task ∈ tables.task, isTerminalState task.internalState = false ∧
        task.isStopping = false) ∧
      tables.commands.map (fun row => (row.commandType, row.state)) =
        [(.pause, .acknowledged), (.resume, .acknowledged)] ∧
      (run (published "RUNNING" 1 ++ controlled 1 .pause 1 ++ controlled 3 .resume 2 ++
        (.spawn (.controlTask .pause authorization) :: perform 5 3 5))).store.commands.length =
        2 := by
  decide +kernel

end SdarRuntime
