import SdarRuntime.Engine.Calls
import SdarRuntime.Persistence.Recorded
import SdarRuntime.Runtime

/-!
The calls of a run. An attempt works with a copy of the command it claimed, and that command
stays the command it was; so each call of a run is one of a caller, of a tick before it has
a claim, of a background process, or of an attempt whose command is there.
-/

namespace SdarRuntime

open Transaction

/-- The copy is of this command. The payload of a CANCEL may have changed since. -/
structure PendingCommandRecord.CopyOf (copy : PendingCommandRecord) (row : CommandRow) :
    Prop where
  sequence : copy.commandSequence = row.sequence
  commandType : copy.commandType = row.commandType
  payload : row.commandType ≠ .cancel → copy.payload = row.payload

def TaskTables.Held (tables : TaskTables) (copy : PendingCommandRecord) : Prop :=
  ∃ row ∈ tables.commands, copy.CopyOf row

def TaskTables.KeepsCommands (before after : TaskTables) : Prop :=
  ∀ row ∈ before.commands, ∃ row' ∈ after.commands, row.SameCommand row'

theorem CommandRow.SameCommand.trans {first second third : CommandRow}
    (earlier : first.SameCommand second) (later : second.SameCommand third) :
    first.SameCommand third := by
  refine ⟨later.sequence.trans earlier.sequence, later.commandType.trans earlier.commandType,
    later.requestHash.trans earlier.requestHash, fun other => ?_⟩
  rw [later.payload (earlier.commandType ▸ other), earlier.payload other]

variable {copy : PendingCommandRecord}

theorem PendingCommandRecord.CopyOf.same {row row' : CommandRow} (isCopy : copy.CopyOf row)
    (same : row.SameCommand row') : copy.CopyOf row' := by
  refine ⟨isCopy.sequence.trans same.sequence.symm,
    isCopy.commandType.trans same.commandType.symm, fun other => ?_⟩
  rw [same.commandType] at other
  rw [isCopy.payload other, same.payload other]

theorem TaskTables.KeepsCommands.refl (tables : TaskTables) : tables.KeepsCommands tables :=
  fun row member => ⟨row, member, .refl row⟩

theorem TaskTables.KeepsCommands.trans {first second third : TaskTables}
    (earlier : first.KeepsCommands second) (later : second.KeepsCommands third) :
    first.KeepsCommands third := by
  intro row member
  obtain ⟨middle, isMiddle, same⟩ := earlier row member
  obtain ⟨row', isRow', same'⟩ := later middle isMiddle
  exact ⟨row', isRow', same.trans same'⟩

variable {before after : TaskTables}

theorem TaskTables.Held.keep (held : before.Held copy) (keeps : before.KeepsCommands after) :
    after.Held copy := by
  obtain ⟨row, member, isCopy⟩ := held
  obtain ⟨row', member', same⟩ := keeps row member
  exact ⟨row', member', isCopy.same same⟩

theorem Step.keepsCommands (step : Step recording before after) (sequenced : before.Sequenced) :
    before.KeepsCommands after := by
  cases step with
  | transition | aside | publish | elsewhere => exact .refl _
  | commands change permitted =>
    exact fun row member =>
      ⟨change row, List.mem_map_of_mem member, permitted sequenced row member⟩
  | insertCommand row created fresh numbered =>
    exact fun other member => ⟨other, List.mem_append_left _ member, .refl other⟩

variable {tables : TaskTables}

theorem RepositoryCall.keepsCommands (deployment : Deployment) (clocks : Clocks) {β : Type}
    (call : RepositoryCall β) (recorded : tables.Recorded) :
    tables.KeepsCommands (call.exec deployment clocks tables).2 := by
  refine commit_keeps (TaskTables.KeepsCommands.refl tables) fun answer after committed => ?_
  have kept := (respects_all (recording_admits clocks) deployment call).keeps
    (P := fun later => later.Recorded ∧ tables.KeepsCommands later)
    (fun _ _ step held =>
      ⟨step.recorded held.1, held.2.trans (step.keepsCommands held.1.sequenced)⟩)
    committed ⟨recorded, .refl tables⟩
  exact kept.2

def RepositoryCall.OfTick {β : Type} (call : RepositoryCall β) : Prop :=
  match call with
  | .clockNow | .promotePendingInputResponses | .claimDueCommands .. => True
  | _ => False

/-- The call is one that a process of the runtime makes on these rows. -/
def RepositoryCall.Licensed (deployment : Deployment) {β : Type} (call : RepositoryCall β)
    (tables : TaskTables) : Prop :=
  call.OfCaller deployment ∨ call.OfTick ∨ call.isBackground = true ∨
    ∃ copy, tables.Held copy ∧ call.OfAttempt deployment.env copy

/-- Processes that count on the commands staying what they are, and make licensed calls. -/
def licensing (deployment : Deployment) : Contract RepositoryCall GatewayCall TaskTables where
  Invariant := TaskTables.Recorded
  Rely := TaskTables.KeepsCommands
  rely_refl := .refl
  rely_trans := .trans
  Guarantee := fun call tables => call.Licensed deployment tables
  Asks := fun _ _ => True

variable (deployment : Deployment)

theorem claimDueCommands_held {clocks : Clocks} {now : Instant} {ownerId : String}
    {leaseMilliseconds : Nat} {selected : Bool}
    (committed : claimDueCommands clocks now ownerId leaseMilliseconds selected before =
      .ok (some copy, after)) : after.Held copy := by
  unfold claimDueCommands rescue at committed
  split at committed
  · rename_i result ran
    cases committed
    obtain ⟨_, _, -, ran⟩ := bind_eq_ok.mp ran
    obtain ⟨_, middle, -, ran⟩ := bind_eq_ok.mp ran
    split at ran
    · rcases claimFirst_eq_ok ran with ⟨impossible, -⟩ | ⟨chosen, member, -, -, same, rfl⟩
      · cases impossible
      · cases same
        exact ⟨_, List.mem_map.mpr ⟨chosen, member, if_pos (beq_self_eq_true _)⟩,
          ⟨rfl, rfl, fun _ => rfl⟩⟩
    · obtain ⟨impossible, -⟩ := pure_eq_ok.mp ran
      cases impossible
  · split at committed
    · rename_i answer handled
      dsimp only at handled
      split at handled
      · cases handled
        cases committed
      · cases handled
    · cases committed

private theorem licensing_relies {β : Type} (call : RepositoryCall β) (clocks : Clocks)
    (tables : TaskTables) (recorded : tables.Recorded) :
    tables.KeepsCommands ((machine deployment).exec call clocks tables).2 :=
  call.keepsCommands deployment clocks recorded

theorem executeClaimed_licensed (dispatcher : DurableCommandDispatcher) (held : tables.Held copy) :
    (licensing deployment).Sat (machine deployment)
      (executeClaimed deployment dispatcher copy >>= fun outcome => pure (some outcome))
      (fun _ _ => True) tables := by
  have calls := Program.calls_bind (executeClaimed_calls deployment dispatcher copy)
    fun outcome => Program.calls_pure (some outcome)
  refine Contract.sat_of_calls (fun tables => tables.Held copy)
    (fun call clocks tables recorded _ =>
      licensing_relies deployment call clocks tables recorded)
    (fun _ _ keeps held => held.keep keeps) (fun call tables ofAttempt held _ => ?_)
    (fun _ _ _ => trivial) calls held
  exact .inr (.inr (.inr ⟨copy, held, ofAttempt⟩))

/-- A tick after the promotion of inputs. -/
private def claimAndExecute (dispatcher : DurableCommandDispatcher) (selected : Bool)
    (now : Instant) : Action (Option DispatchOutcome) := do
  let command ← Program.exec (.claimDueCommands now dispatcher.workerId
    dispatcher.leaseMilliseconds selected)
  match command with
  | none => pure none
  | some command => do
    let outcome ← executeClaimed deployment dispatcher command
    pure (some outcome)

theorem tick_licensed (dispatcher : DurableCommandDispatcher) (promoted selected : Bool)
    (tables : TaskTables) :
    (licensing deployment).Sat (machine deployment) (tick deployment dispatcher promoted selected)
      (fun _ _ => True) tables := by
  have ofTick {β : Type} (call : RepositoryCall β) (isTick : call.OfTick) (store' : TaskTables) :
      (licensing deployment).Guarantee call store' := .inr (.inl isTick)
  have claims (now : Instant) (tables : TaskTables) :
      (licensing deployment).Sat (machine deployment)
        (claimAndExecute deployment dispatcher selected now) (fun _ _ => True) tables := by
    refine Contract.sat_exec_bind (fun _ _ _ => ofTick _ (by exact trivial) _)
      fun store' clocks command _ _ answered => ?_
    cases command with
    | none => exact trivial
    | some copy =>
      exact executeClaimed_licensed deployment dispatcher
        (claimDueCommands_held (commit_ok_iff.mp answered))
  refine Contract.sat_exec_bind (fun _ _ _ => ofTick _ (by exact trivial) _) fun _ _ now _ _ _ => ?_
  cases promoted with
  | false => exact claims now _
  | true =>
    exact Contract.sat_exec_bind (fun _ _ _ => ofTick _ (by exact trivial) _) fun _ _ _ _ _ _ =>
      claims now _

theorem licensed_of_calls {Allowed : {β : Type} → RepositoryCall β → Prop}
    {Asked : {β : Type} → GatewayCall β → Prop} {program : Action Unit}
    (calls : program.Calls Allowed Asked)
    (licensed : ∀ {β : Type} (call : RepositoryCall β) tables, Allowed call →
      call.Licensed deployment tables) (tables : TaskTables) :
    (licensing deployment).Sat (machine deployment) program (fun _ _ => True) tables :=
  Contract.sat_of_calls (fun _ => True)
    (fun call clocks tables recorded _ =>
      licensing_relies deployment call clocks tables recorded)
    (fun _ _ _ => id) (fun call tables allowed _ _ => licensed call tables allowed)
    (fun _ _ _ => trivial) calls trivial

theorem Entry.licensed (entry : Entry) (tables : TaskTables) :
    (licensing deployment).Sat (machine deployment) (entry.program deployment) (fun _ _ => True)
      tables := by
  have ofCaller {α : Type} {action : Action α}
      (calls : action.Calls (RepositoryCall.OfCaller deployment) GatewayCall.OfCaller) :
      (licensing deployment).Sat (machine deployment) (discard action) (fun _ _ => True) tables :=
    licensed_of_calls deployment
      (Program.calls_bind calls fun _ => Program.calls_pure _) (fun _ _ caller => .inl caller) _
  have ofCallerUnit {action : Action Unit}
      (calls : action.Calls (RepositoryCall.OfCaller deployment) GatewayCall.OfCaller) :
      (licensing deployment).Sat (machine deployment) action (fun _ _ => True) tables :=
    licensed_of_calls deployment calls (fun _ _ caller => .inl caller) _
  cases entry with
  | callOperation call => exact ofCaller (executeOperation_calls deployment call)
  | recoverAdmission => exact ofCallerUnit (recoverListedAdmission_calls deployment)
  | recoverTask => exact ofCallerUnit (recoverListedTask_calls deployment)
  | getTask authorization => exact ofCaller (getTask_calls deployment authorization)
  | degradedReconcile authorization =>
    exact ofCaller (degradedReconcile_calls deployment authorization)
  | cancelTask authorization => exact ofCallerUnit (cancelTask_calls deployment authorization)
  | cancelTaskCooperatively authorization =>
    exact ofCallerUnit (cancelTaskCooperatively_calls deployment authorization)
  | controlTask control authorization =>
    exact ofCaller (controlTask_calls deployment control authorization)
  | updateTask validateAnswer answers authorization =>
    exact ofCaller (updateTask_calls deployment validateAnswer answers authorization)
  | updateTaskInputResponses validateLockedResponse inputResponses authorization =>
    exact ofCallerUnit (updateTaskInputResponses_calls deployment validateLockedResponse
      inputResponses authorization)
  | enqueueBusinessIntervention commandId semanticHash payload =>
    exact ofCallerUnit (enqueueBusinessIntervention_calls deployment commandId semanticHash
      payload)
  | tick dispatcher promoted selected =>
    exact Contract.sat_bind.mpr (Contract.Sat.mono
      (tick_licensed deployment dispatcher promoted selected tables)
      fun result _ _ => by cases result <;> trivial)
  | background call isBackground =>
    have calls : Program.Calls (fun call => call.isBackground = true) (fun _ => True)
        (Entry.program deployment (.background call isBackground)) :=
      Program.calls_bind (Program.calls_exec isBackground) fun _ => Program.calls_pure _
    exact licensed_of_calls deployment calls
      (fun _ _ background => .inr (.inr (.inl background))) tables

/-- An invariant of the rows along a run. Every call finds the rows recorded and is licensed,
and may meet a condition on it. -/
theorem Runtime.run_invariant (Holds : TaskTables → Prop)
    (Condition : Invocation → TaskTables → Prop)
    (keeps : ∀ (executed : Invocation) (tables : TaskTables), tables.Recorded →
      executed.effect.Licensed deployment tables → Condition executed tables → Holds tables →
      Holds (executed.effect.exec deployment executed.clock tables).2)
    (empty : Holds TaskTables.empty) (labels : List RuntimeLabel)
    (conditions : Throughout deployment (System.OnCommit Condition) initial labels) :
    Holds (run deployment initial labels).store ∧
      Throughout deployment (System.OnCommit fun executed tables => tables.Recorded ∧
        executed.effect.Licensed deployment tables ∧ Condition executed tables ∧ Holds tables)
        initial labels := by
  let Both : Runtime → Prop := fun runtime =>
    System.Satisfies (licensing deployment) (machine deployment) runtime ∧ Holds runtime.store
  have steps : ∀ (runtime : Runtime) (label : RuntimeLabel), Both runtime →
      System.OnCommit Condition runtime label → Both (step deployment runtime label) := by
    rintro runtime label ⟨satisfies, holds⟩ condition
    refine ⟨System.step_satisfies (C := fun _ _ => True)
      (fun executed tables recorded _ _ =>
        ⟨executed.effect.recorded deployment executed.clock recorded,
          executed.effect.keepsCommands deployment executed.clock recorded⟩)
      (fun entry tables _ => entry.licensed deployment tables) runtime label satisfies
      fun _ _ => trivial, ?_⟩
    rw [step, System.step_store]
    cases commits : runtime.executes label with
    | none => exact holds
    | some executed =>
      exact keeps executed runtime.store satisfies.invariant
        (satisfies.guarantee label executed commits) (condition executed commits) holds
  have start : Both initial := ⟨⟨TaskTables.recorded_empty, fun _ member => nomatch member⟩, empty⟩
  refine ⟨(System.run_induction steps start labels conditions).2,
    System.throughout_of_invariant steps ?_ start labels conditions⟩
  rintro runtime label ⟨satisfies, holds⟩ condition executed commits
  exact ⟨satisfies.invariant, satisfies.guarantee label executed commits,
    condition executed commits, holds⟩

theorem Runtime.throughout_licensed (labels : List RuntimeLabel) :
    Throughout deployment (System.OnCommit fun executed tables => tables.Recorded ∧
      executed.effect.Licensed deployment tables) initial labels := by
  have invariant := run_invariant deployment (fun _ => True) (fun _ _ => True)
    (fun _ _ _ _ _ _ => trivial) trivial labels
    (System.throughout_always (fun _ _ _ _ => trivial) _ labels)
  exact System.throughout_mono invariant.2 fun _ _ commits executed isExecuted =>
    ⟨(commits executed isExecuted).1, (commits executed isExecuted).2.1⟩

end SdarRuntime
