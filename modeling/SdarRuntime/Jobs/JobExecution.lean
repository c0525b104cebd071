import SdarRuntime.Jobs.LeaseFence

/-!
Runs of a job's handler over the fenced table. The report waits until the renewals have stopped,
and a refused renewal is heard of before they stop, so a report under way belongs to a lease that
was not seen lost; the table refuses it where the job was claimed anew.
-/

namespace SdarRuntime

namespace Jobs

open OrderedMap

/-- A report under way is the first, and its lease was not seen lost. -/
structure Execution.Sound (execution : Execution) : Prop where
  once : execution.effects ≤ 1
  unreported : execution.report = .none → execution.effects = 0
  reporting : ∀ outcome, execution.report = .sent outcome →
    execution.effects = 0 ∧ execution.lost = false ∧ execution.renewal = .stopped

/-- The lease of a run was lost: a renewal was refused, or got no answer, or the job was claimed
anew. -/
def Execution.Lost (execution : Execution) (system : JobSystem) : Prop :=
  execution.lost = true ∨ execution.renewal = .executed false ∨
    system.latest.get? execution.identity.jobId ≠ some execution.identity

namespace JobSystem

theorem started_sound (identity : LeaseIdentity) (leaseDurationMs retryDelayMs : Int)
    (handlerPresent workerStopped : Bool) :
    (started identity leaseDurationMs retryDelayMs handlerPresent workerStopped).Sound := by
  cases handlerPresent with
  | true =>
    constructor
    · exact Nat.zero_le 1
    · exact fun _ => rfl
    · intro outcome sent
      cases sent
  | false =>
    constructor
    · exact Nat.zero_le 1
    · exact fun _ => rfl
    · exact fun _ _ => ⟨rfl, rfl, rfl⟩

structure RunKeeps (before later : Execution) : Prop where
  sound : later.Sound
  sameIdentity : later.identity = before.identity
  sameEffects : later.effects = before.effects
  lostStays : before.lost = true ∨ before.renewal = .executed false →
    later.lost = true ∨ later.renewal = .executed false

variable {execution : Execution}

theorem runStep_keeps (sound : execution.Sound) (event : Event) :
    RunKeeps execution (runStep execution event) := by
  have same : RunKeeps execution execution := ⟨sound, rfl, rfl, id⟩
  obtain ⟨once, unreported, reporting⟩ := sound
  cases event with
  | workerStops id =>
    simp only [runStep]
    split
    · exact ⟨⟨once, unreported, reporting⟩, rfl, rfl, fun lost => lost⟩
    · exact same
  | sendRenewal id =>
    simp only [runStep]
    split
    · rename_i waits
      refine ⟨⟨once, unreported, ?_⟩, rfl, rfl, ?_⟩
      · intro outcome sent
        have stopped := (reporting outcome sent).2.2
        rw [waits.1] at stopped
        cases stopped
      · rintro (lost | refused)
        · exact Or.inl lost
        · rw [waits.1] at refused
          cases refused
    · exact same
  | renewalAnswered id received =>
    simp only [runStep]
    cases renewal : execution.renewal with
    | executed succeeded =>
      have notSent : ∀ outcome, execution.report ≠ .sent outcome := by
        intro outcome sent
        have stopped := (reporting outcome sent).2.2
        rw [renewal] at stopped
        cases stopped
      simp only
      split
      · rename_i renewed
        refine ⟨⟨once, unreported, fun outcome sent => absurd sent (notSent outcome)⟩,
          rfl, rfl, ?_⟩
        rintro (lost | refused)
        · exact Or.inl lost
        · rw [renewal, renewed.2] at refused
          cases refused
      · exact ⟨⟨once, unreported, fun outcome sent => absurd sent (notSent outcome)⟩,
          rfl, rfl, fun _ => Or.inl rfl⟩
    | waiting | sent | stopped => exact same
  | renewalStops id =>
    simp only [runStep]
    split
    · rename_i waits
      refine ⟨⟨once, unreported, ?_⟩, rfl, rfl, ?_⟩
      · intro outcome sent
        obtain ⟨noEffect, notLost, _⟩ := reporting outcome sent
        exact ⟨noEffect, notLost, rfl⟩
      · rintro (lost | refused)
        · exact Or.inl lost
        · rw [waits.1] at refused
          cases refused
    · exact same
  | handlerSettles id failed =>
    simp only [runStep]
    split
    · exact ⟨⟨once, unreported, reporting⟩, rfl, rfl, fun lost => lost⟩
    · exact same
  | report id =>
    simp only [runStep]
    split
    · rename_i failed _ stopped unsent
      split
      · refine ⟨⟨once, ?_, ?_⟩, rfl, rfl, fun lost => lost⟩
        · intro isNone
          cases isNone
        · intro outcome sent
          cases sent
      · rename_i unlost
        refine ⟨⟨once, ?_, ?_⟩, rfl, rfl, fun lost => lost⟩
        · intro isNone
          cases isNone
        · intro outcome _
          simp only [not_or, Bool.not_eq_true] at unlost
          exact ⟨unreported unsent, unlost.1, stopped⟩
    · exact same
  | reportAnswered id =>
    simp only [runStep]
    split
    · refine ⟨⟨once, ?_, ?_⟩, rfl, rfl, fun lost => lost⟩
      · intro isNone
        cases isNone
      · intro outcome sent
        cases sent
    · exact same
  | crash id =>
    simp only [runStep]
    refine ⟨⟨once, ?_, ?_⟩, rfl, rfl, ?_⟩
    · intro isNone
      simp only at isNone
      split at isNone
      · cases isNone
      · cases isNone
    · intro outcome sent
      simp only at sent
      split at sent
      · rename_i earlier wasSent
        obtain ⟨noEffect, notLost, stopped⟩ := reporting earlier wasSent
        exact ⟨noEffect, notLost, by simp [stopped]⟩
      · cases sent
    · rintro (lost | refused)
      · exact Or.inl lost
      · refine Or.inr ?_
        simp [refused]
  | tick | enqueue | claim | operate | start | renewalExecutes | reportExecutes => exact same

structure Sound (system : JobSystem) : Prop where
  fenced : system.Fenced
  runs : ∀ id execution, system.executions.get? id = some execution → execution.Sound
  held : ∀ id execution, system.executions.get? id = some execution →
    system.grants.get? execution.identity ≠ none

/-- What a step makes of the runs: none goes, and one whose lease was lost has no further
effect. -/
structure RunsStep (before later : JobSystem) : Prop where
  runs : ∀ id execution, later.executions.get? id = some execution → execution.Sound
  held : ∀ id execution, later.executions.get? id = some execution →
    later.grants.get? execution.identity ≠ none
  onward : ∀ id execution, before.executions.get? id = some execution →
    ∃ after, later.executions.get? id = some after ∧ after.identity = execution.identity ∧
      execution.effects ≤ after.effects ∧
        (execution.Lost before → after.effects = execution.effects ∧ after.Lost later)

variable {before later : JobSystem}

theorem Sound.runs_stay (sound : before.Sound) (moves : Moves before later)
    (same : later.executions = before.executions) :
    RunsStep before later := by
  constructor
  · intro id execution found
    rw [same] at found
    exact sound.runs id execution found
  · intro id execution found
    rw [same] at found
    exact moves.held _ (sound.held id execution found)
  · intro id execution found
    refine ⟨execution, by rw [same, found], rfl, Nat.le_refl _, ?_⟩
    rintro (lost | refused | superseded)
    · exact ⟨rfl, Or.inl lost⟩
    · exact ⟨rfl, Or.inr (Or.inl refused)⟩
    · exact ⟨rfl, Or.inr (Or.inr
        (moves.superseded sound.fenced (sound.held id execution found) superseded))⟩

variable {id : Nat}

theorem Sound.run_steps {before middle : JobSystem} (sound : before.Sound)
    (moves : Moves before middle) (same : middle.executions = before.executions)
    {execution after : Execution} (found : before.executions.get? id = some execution)
    (afterSound : after.Sound) (sameIdentity : after.identity = execution.identity)
    (grows : execution.effects ≤ after.effects)
    (lost : execution.Lost before → after.effects = execution.effects)
    (lostStays : execution.lost = true ∨ execution.renewal = .executed false →
      after.lost = true ∨ after.renewal = .executed false) :
    RunsStep before (middle.setExecution id after) := by
  have stays := sound.runs_stay moves same
  constructor
  · intro other run runFound
    simp only [setExecution, get?_set] at runFound
    split at runFound
    · cases runFound
      exact afterSound
    · exact stays.runs other run runFound
  · intro other run runFound
    simp only [setExecution, get?_set] at runFound
    split at runFound
    · cases runFound
      rw [sameIdentity]
      exact moves.held _ (sound.held id execution found)
    · exact stays.held other run runFound
  · intro other run runFound
    by_cases isRun : other = id
    · subst other
      rw [found] at runFound
      cases runFound
      refine ⟨after, get?_set_self _ _ _, sameIdentity, grows, ?_⟩
      intro wasLost
      refine ⟨lost wasLost, ?_⟩
      rcases wasLost with flag | refused | superseded
      · rcases lostStays (Or.inl flag) with now | now
        · exact Or.inl now
        · exact Or.inr (Or.inl now)
      · rcases lostStays (Or.inr refused) with now | now
        · exact Or.inl now
        · exact Or.inr (Or.inl now)
      · refine Or.inr (Or.inr ?_)
        rw [sameIdentity]
        have notLatest :=
          moves.superseded sound.fenced (sound.held id execution found) superseded
        exact notLatest
    · obtain ⟨later, laterFound, rest⟩ := stays.onward other run runFound
      refine ⟨later, ?_, rest⟩
      rw [← laterFound]
      exact get?_set_ne _ _ isRun

variable {system : JobSystem}

theorem Sound.run_starts (sound : system.Sound) (fresh : system.executions.get? id = none)
    (runSound : execution.Sound) (held : system.grants.get? execution.identity ≠ none) :
    RunsStep system (system.setExecution id execution) := by
  have stays := sound.runs_stay sound.fenced.stays rfl
  constructor
  · intro other run found
    simp only [setExecution, get?_set] at found
    split at found
    · cases found
      exact runSound
    · exact stays.runs other run found
  · intro other run found
    simp only [setExecution, get?_set] at found
    split at found
    · cases found
      exact held
    · exact stays.held other run found
  · intro other run found
    obtain ⟨later, laterFound, rest⟩ := stays.onward other run found
    refine ⟨later, ?_, rest⟩
    have different : other ≠ id := by
      intro isRun
      rw [isRun, fresh] at found
      cases found
    rw [← laterFound]
    exact get?_set_ne _ _ different


structure Steps (before later : JobSystem) : Prop where
  moves : Moves before later
  runs : RunsStep before later

theorem Steps.sound (steps : Steps before later) : later.Sound := {
  fenced := steps.moves.fenced
  runs := steps.runs.runs
  held := steps.runs.held }

theorem Sound.rows_step (sound : before.Sound) (moves : Moves before later)
    (same : later.executions = before.executions) :
    Steps before later := {
  moves := moves
  runs := sound.runs_stay moves same }

theorem Sound.stays (sound : system.Sound) : Steps system system :=
  sound.rows_step sound.fenced.stays rfl

theorem operate_executions {system later : JobSystem} {identity : LeaseIdentity}
    {statement : LeaseStatement} (executed : system.operate identity statement = .ok later) :
    later.executions = system.executions := by
  obtain ⟨_, _, _, _, _, same⟩ := operate_ok executed
  rw [same]

/-- The renewal loop hears of a refused renewal before the outcome can be reported. -/
theorem Sound.renewal_executes (sound : system.Sound)
    (found : system.executions.get? id = some execution) (arrives : Bool) :
    Steps system (system.renewalExecutes id execution arrives) := by
  have runSound := sound.runs id execution found
  unfold renewalExecutes
  by_cases sent : execution.renewal = .sent
  · have notReporting : ∀ outcome, execution.report ≠ .sent outcome := by
      intro outcome reporting
      have stopped := (runSound.reporting outcome reporting).2.2
      rw [sent] at stopped
      cases stopped
    have answered (succeeded : Bool) :
        ({ execution with renewal := .executed succeeded } : Execution).Sound :=
      ⟨runSound.once, runSound.unreported,
        fun outcome reporting => absurd reporting (notReporting outcome)⟩
    have lostStays (succeeded : Bool) :
        execution.lost = true ∨ execution.renewal = .executed false →
          execution.lost = true ∨ RenewalState.executed succeeded = .executed false := by
      rintro (lost | refused)
      · exact Or.inl lost
      · rw [sent] at refused
        cases refused
    rw [if_pos sent]
    split
    · rename_i later executed
      have ran : system.operate execution.identity (.renew execution.leaseDurationMs) =
          .ok later := by
        cases arrives with
        | true => exact executed
        | false => cases executed
      have moves := sound.fenced.operated ran
      constructor
      · exact moves.of_same rfl rfl rfl rfl
      · apply sound.run_steps moves (operate_executions ran) found
        · exact answered true
        · rfl
        · exact Nat.le_refl _
        · exact fun _ => rfl
        · exact lostStays true
    · constructor
      · exact sound.fenced.stays.of_same rfl rfl rfl rfl
      · apply sound.run_steps sound.fenced.stays rfl found
        · exact answered false
        · rfl
        · exact Nat.le_refl _
        · exact fun _ => rfl
        · exact lostStays false
  · rw [if_neg sent]
    exact sound.stays

/-- A report that takes effect is the first one, made under a lease that was not lost. -/
theorem Sound.report_executes (sound : system.Sound)
    (found : system.executions.get? id = some execution) (clientClock : Instant) :
    Steps system (system.reportExecutes id execution clientClock) := by
  have runSound := sound.runs id execution found
  unfold reportExecutes
  cases report : execution.report with
  | none | executed outcome succeeded | ended => exact sound.stays
  | sent outcome =>
    obtain ⟨noEffect, notLost, stopped⟩ := runSound.reporting outcome report
    cases ran : system.operate execution.identity
        (reportStatement execution outcome clientClock) with
    | ok later =>
      have moves := sound.fenced.operated ran
      obtain ⟨job, _, rowFound, owned, _⟩ := operate_ok ran
      have latest := sound.fenced.owned_latest rowFound owned
      simp only [ran]
      constructor
      · exact moves.of_same rfl rfl rfl rfl
      · apply sound.run_steps moves (operate_executions ran) found
        · constructor
          · simp only [noEffect]
            exact Nat.le_refl 1
          · intro unreported
            cases unreported
          · intro other reporting
            cases reporting
        · rfl
        · exact Nat.le_succ _
        · rintro (lost | refused | superseded)
          · rw [notLost] at lost
            cases lost
          · rw [stopped] at refused
            cases refused
          · exact absurd latest superseded
        · exact fun lost => lost
    | error failure =>
      simp only [ran]
      constructor
      · exact sound.fenced.stays.of_same rfl rfl rfl rfl
      · apply sound.run_steps sound.fenced.stays rfl found
        · constructor
          · exact runSound.once
          · intro unreported
            cases unreported
          · intro other reporting
            cases reporting
        · rfl
        · exact Nat.le_refl _
        · exact fun _ => rfl
        · exact fun lost => lost

theorem Sound.run_step (sound : system.Sound) (id : Nat) (event : Event) :
    Steps system (system.onExecution id fun execution =>
      system.setExecution id (runStep execution event)) := by
  unfold onExecution
  cases found : system.executions.get? id with
  | none => exact sound.stays
  | some execution =>
    have keeps := runStep_keeps (sound.runs id execution found) event
    constructor
    · exact sound.fenced.stays.of_same rfl rfl rfl rfl
    · apply sound.run_steps sound.fenced.stays rfl found
      · exact keeps.sound
      · exact keeps.sameIdentity
      · exact Nat.le_of_eq keeps.sameEffects.symm
      · exact fun _ => keeps.sameEffects
      · exact keeps.lostStays

theorem claim_executions (system : JobSystem) (input : ClaimJobs) (locked : String → Bool)
    (token : String → String) :
    (system.claim input locked token).executions = system.executions := by
  have folded (jobs : List PmsJob) (start : JobSystem) :
      (jobs.foldl (JobSystem.grant token input) start).executions = start.executions := by
    induction jobs generalizing start with
    | nil => rfl
    | cons job rest ih => exact ih (start.grant token input job)
  unfold claim
  split
  · rfl
  · split
    · rfl
    · exact folded _ system

theorem enqueue_executions (system : JobSystem) (jobId jobType : String)
    (availableAt : Option Instant) :
    (system.enqueue jobId jobType availableAt).executions = system.executions := by
  unfold enqueue
  split
  · rfl
  · rfl

theorem Sound.next (sound : system.Sound) (event : Event) :
    Steps system (system.next event) := by
  cases event with
  | tick microseconds => exact sound.rows_step (sound.fenced.tick microseconds) rfl
  | enqueue jobId jobType availableAt =>
    exact sound.rows_step (sound.fenced.enqueue jobId jobType availableAt)
      (system.enqueue_executions jobId jobType availableAt)
  | claim input locked token =>
    exact sound.rows_step (sound.fenced.claim input locked token)
      (system.claim_executions input locked token)
  | operate identity statement =>
    simp only [JobSystem.next]
    cases ran : system.operate identity statement with
    | ok later => exact sound.rows_step (sound.fenced.operated ran) (operate_executions ran)
    | error failure => exact sound.stays
  | start id identity leaseDurationMs retryDelayMs handlerPresent workerStopped =>
    simp only [JobSystem.next]
    split
    · exact sound.stays
    · rename_i free
      simp only [not_or, Bool.not_eq_true, Option.isSome_eq_false_iff,
        Option.isNone_iff_eq_none] at free
      constructor
      · exact sound.fenced.stays.of_same rfl rfl rfl rfl
      · exact sound.run_starts free.1 (started_sound _ _ _ _ _) free.2
  | renewalExecutes id arrives =>
    simp only [JobSystem.next, onExecution]
    cases found : system.executions.get? id with
    | none => exact sound.stays
    | some execution => exact sound.renewal_executes found arrives
  | reportExecutes id clientClock =>
    simp only [JobSystem.next, onExecution]
    cases found : system.executions.get? id with
    | none => exact sound.stays
    | some execution => exact sound.report_executes found clientClock
  | workerStops id => exact sound.run_step id (.workerStops id)
  | sendRenewal id => exact sound.run_step id (.sendRenewal id)
  | renewalAnswered id received => exact sound.run_step id (.renewalAnswered id received)
  | renewalStops id => exact sound.run_step id (.renewalStops id)
  | handlerSettles id failed => exact sound.run_step id (.handlerSettles id failed)
  | report id => exact sound.run_step id (.report id)
  | reportAnswered id => exact sound.run_step id (.reportAnswered id)
  | crash id => exact sound.run_step id (.crash id)

theorem reachable_sound (now : Instant) (events : List Event) :
    (Histories.after JobSystem.next (initial now) events).Sound := by
  apply Histories.always
  · intro system event sound
    exact (sound.next event).sound
  · constructor
    · exact initial_fenced now
    · intro id execution found
      cases found
    · intro id execution found
      cases found

structure LeaseFence (before : JobSystem) (event : Event) : Prop where
  oneLease : ∀ first second firstGrant secondGrant,
    before.grants.get? first = some firstGrant → firstGrant.Running before.now →
      before.grants.get? second = some secondGrant → secondGrant.Running before.now →
        first.jobId = second.jobId → first = second
  counted : ∀ jobId job, before.jobs.get? jobId = some job →
    ∃ row, (before.next event).jobs.get? jobId = some row ∧
      (row.fencingToken = job.fencingToken ∧ row.attempt = job.attempt ∧
          (before.next event).latest.get? jobId = before.latest.get? jobId ∨
        job.fencingToken < row.fencingToken ∧ job.attempt < row.attempt ∧
          ∃ identity, (before.next event).latest.get? jobId = some identity ∧
            identity.fencingToken = row.fencingToken)
  leased : ∀ identity, before.grants.get? identity = none →
    (before.next event).grants.get? identity ≠ none →
      ∃ job row, before.jobs.get? identity.jobId = some job ∧
        (before.next event).jobs.get? identity.jobId = some row ∧
          job.fencingToken < row.fencingToken ∧ job.attempt < row.attempt ∧
            identity.fencingToken = row.fencingToken ∧
              (before.next event).latest.get? identity.jobId = some identity
  superseded : ∀ identity, before.latest.get? identity.jobId ≠ some identity →
    ∀ statement, (∃ failure, before.operate identity statement = .error failure) ∧
      before.next (.operate identity statement) = before
  succeeded : ∀ jobId job, before.jobs.get? jobId = some job → job.status = .succeeded →
    (before.next event).jobs.get? jobId = some job
  reported : ∀ id execution, before.executions.get? id = some execution →
    ∃ after, (before.next event).executions.get? id = some after ∧
      execution.effects ≤ after.effects ∧ after.effects ≤ 1 ∧
        (execution.Lost before →
          after.effects = execution.effects ∧ after.Lost (before.next event))

/-- In any history of workers, statements and clock readings: a job has at most one lease that
runs, every claim raises its numbers, an older identity is refused, a succeeded job stays, and a
run reports at most once and not after its lease was lost. -/
theorem leases_are_fenced (now : Instant) (events : List Event) (event : Event) :
    LeaseFence (Histories.after JobSystem.next (initial now) events) event := by
  have sound := reachable_sound now events
  have steps := sound.next event
  constructor
  · intro first second firstGrant secondGrant firstFound firstRuns secondFound secondRuns sameJob
    exact sound.fenced.one_running firstFound firstRuns secondFound secondRuns sameJob
  · exact steps.moves.counted
  · exact steps.moves.leased
  · intro identity superseded statement
    obtain ⟨failure, refused⟩ := sound.fenced.superseded_fails superseded statement
    constructor
    · exact ⟨failure, refused⟩
    · simp only [JobSystem.next, refused]
  · exact steps.moves.succeeded
  · intro id execution found
    obtain ⟨after, afterFound, _, grows, lost⟩ := steps.runs.onward id execution found
    exact ⟨after, afterFound, grows, (steps.runs.runs id after afterFound).once, lost⟩


end JobSystem

end Jobs

end SdarRuntime
