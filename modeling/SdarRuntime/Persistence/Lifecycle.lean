import SdarRuntime.Persistence.CommandSteps

/-!
The life of a task row. Whatever calls are made, in whatever order: a terminal row keeps
what it shows, the revisions never go back, and the observations are numbered from one to
the observation revision of the row.
-/

namespace SdarRuntime

open Transaction

structure TaskRecord.Succeeds (row row' : TaskRecord) : Prop where
  terminal : isTerminalState row.internalState = true →
    row'.internalState = row.internalState ∧ row'.mcpStatus = row.mcpStatus ∧
      row'.result = row.result ∧ row'.error = row.error
  adapterRevision : row.adapterRevision ≤ row'.adapterRevision
  version : row.version ≤ row'.version
  observationRevision : row.observationRevision ≤ row'.observationRevision

/-- The observations are the revisions from one on, each once and in order; there are as many
as the row says, and none before the task is published. -/
def TaskTables.Observed (tables : TaskTables) : Prop :=
  tables.observations.map ObservationRow.revision =
    List.range' 1 (tables.task.elim 0 TaskRecord.observationRevision)

/-- What any number of calls may do to the row and its observations. -/
structure Continues (before after : TaskTables) : Prop where
  observed : before.Observed → after.Observed
  task : ∀ row, before.task = some row → ∃ row', after.task = some row' ∧ row.Succeeds row'

theorem TaskRecord.Succeeds.refl (row : TaskRecord) : row.Succeeds row :=
  ⟨fun _ => ⟨rfl, rfl, rfl, rfl⟩, le_rfl, le_rfl, le_rfl⟩

theorem TaskRecord.Succeeds.trans {first second third : TaskRecord}
    (earlier : first.Succeeds second) (later : second.Succeeds third) :
    first.Succeeds third := by
  refine ⟨fun terminal => ?_, earlier.adapterRevision.trans later.adapterRevision,
    earlier.version.trans later.version,
    earlier.observationRevision.trans later.observationRevision⟩
  obtain ⟨state, status, result, error⟩ := earlier.terminal terminal
  obtain ⟨state', status', result', error'⟩ := later.terminal (state ▸ terminal)
  exact ⟨state'.trans state, status'.trans status, result'.trans result, error'.trans error⟩

instance : Std.Refl Continues := ⟨fun _ => ⟨id, fun row found => ⟨row, found, .refl row⟩⟩⟩

instance : IsTrans TaskTables Continues where
  trans _ _ _ earlier later := by
    refine ⟨later.observed ∘ earlier.observed, fun row found => ?_⟩
    obtain ⟨middle, foundMiddle, succeeds⟩ := earlier.task row found
    obtain ⟨row', found', succeeds'⟩ := later.task middle foundMiddle
    exact ⟨row', found', succeeds.trans succeeds'⟩

private theorem continues_of_same {before after : TaskTables} (task : after.task = before.task)
    (observations : after.observations = before.observations) : Continues before after := by
  refine ⟨fun observed => ?_, fun row found => ⟨row, task.trans found, .refl row⟩⟩
  unfold TaskTables.Observed
  rw [task, observations]
  exact observed

theorem Applies.succeeds {request : TaskTransitionRequest} {row : TaskRecord}
    {before : TaskTables} (applies : Applies request row before) :
    row.Succeeds (request.row row) := by
  refine ⟨fun terminal => absurd terminal (by simp [applies.live]), ?_, by simp, by simp⟩
  rw [TaskTransitionRequest.row_adapterRevision]
  cases revised : request.update.adapterRevision with
  | none => exact le_rfl
  | some revision => exact le_of_lt (applies.newer revision revised)

theorem Applies.observed {request : TaskTransitionRequest} {row : TaskRecord}
    {before : TaskTables} (applies : Applies request row before) (observed : before.Observed) :
    (before.apply request row).Observed := by
  unfold TaskTables.Observed at observed ⊢
  rw [applies.found] at observed
  simp only [TaskTables.apply, List.map_append, observed, Option.elim_some, List.map_singleton,
    TaskTransitionRequest.row_observationRevision, List.range'_1_concat]
  rw [Nat.add_comm 1]
  rfl

theorem Aside.succeeds {row row' : TaskRecord} (aside : Aside row row') : row.Succeeds row' :=
  ⟨fun _ => ⟨aside.internalState, aside.mcpStatus, aside.result, aside.error⟩,
    le_of_eq aside.adapterRevision.symm, le_of_eq aside.version.symm,
    le_of_eq aside.observationRevision.symm⟩

theorem Step.continues {kind : StepKind} {before after : TaskTables}
    (step : Step kind before after) : Continues before after := by
  cases step with
  | transition request row applies fits =>
    refine ⟨applies.observed, fun other found => ⟨_, rfl, ?_⟩⟩
    rw [applies.found] at found
    cases found
    exact applies.succeeds
  | aside change aside =>
    refine ⟨fun observed => ?_, fun row found => ⟨change row, by simp [found],
      (aside row).succeeds⟩⟩
    unfold TaskTables.Observed at observed ⊢
    rw [observed]
    cases before.task with
    | none => rfl
    | some row => exact congrArg (List.range' 1) (aside row).observationRevision.symm
  | publish row observations unpublished publishes =>
    refine ⟨fun observed => ?_, fun other found => ?_⟩
    · unfold TaskTables.Observed at observed ⊢
      rw [unpublished] at observed
      obtain ⟨observation, published, first⟩ :=
        publishes.observed (List.map_eq_nil_iff.mp observed)
      simp [published, first, publishes.first]
    · rw [unpublished] at found
      cases found
  | commands change permitted => exact continues_of_same rfl rfl
  | insertCommand row created fresh numbered => exact continues_of_same rfl rfl
  | elsewhere admission uncertainty audit outbox inputRequests inbox =>
    exact continues_of_same rfl rfl

def anyStep : StepKind :=
  { fits := fun _ => True
    command := fun _ _ => True
    creates := fun _ => True }

theorem anyStep_admits (clocks : Clocks) : anyStep.AdmitsAll clocks :=
  { ordinary := fun _ _ => trivial
    drives := fun _ _ _ => trivial
    creates := fun _ _ _ => trivial
    requires := fun _ _ => trivial
    keeps := fun _ _ _ => trivial
    fails := fun _ _ => trivial
    requests := fun _ _ => trivial
    withdraws := fun _ _ => trivial
    claims := fun _ _ _ _ _ => trivial
    createsAny := fun _ _ _ _ => trivial }

theorem RepositoryCall.continues (deployment : Deployment) (clocks : Clocks) {β : Type}
    (call : RepositoryCall β) (tables : TaskTables) :
    Continues tables (call.exec deployment clocks tables).2 :=
  ((respects_all (anyStep_admits clocks) deployment call).of_steps fun _ _ step => step.continues).commit
    tables

theorem history_continues (deployment : Deployment) (invocations : List Invocation)
    (tables : TaskTables) : Continues tables (history deployment invocations tables) := by
  induction invocations generalizing tables with
  | nil => exact refl_of Continues tables
  | cons invocation rest ih =>
    exact trans_of Continues (invocation.effect.continues deployment invocation.clock tables)
      (ih _)

/-- Every reachable row of a task is a predecessor of every later one, and its observations are
the revisions `1 … observation_revision`. -/
theorem taskLifecycle (deployment : Deployment) (earlier later : List Invocation) :
    let tables := history deployment earlier TaskTables.empty
    let tables' := history deployment (earlier ++ later) TaskTables.empty
    tables'.Observed ∧
      ∀ row, tables.task = some row → ∃ row', tables'.task = some row' ∧ row.Succeeds row' := by
  rw [history_append]
  refine ⟨?_, (history_continues deployment later _).task⟩
  rw [← history_append]
  exact (history_continues deployment (earlier ++ later) TaskTables.empty).observed rfl

end SdarRuntime
