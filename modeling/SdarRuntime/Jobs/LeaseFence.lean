import SdarRuntime.Jobs.JobLease
import Mathlib.Data.List.Sort

/-!
The fence around leased jobs. A row leased under an identity is leased by the job's latest claim,
and the holder of a lease that still runs finds its row as it was granted. A new claim therefore
meets no running lease, and an older identity meets no row.
-/

namespace SdarRuntime

namespace Jobs

open OrderedMap

def Grant.Running (grant : Grant) (now : Instant) : Prop :=
  grant.ended = false ∧ now < grant.expiresAt

namespace JobSystem

structure Fenced (system : JobSystem) : Prop where
  named : ∀ jobId job, system.jobs.get? jobId = some job → job.jobId = jobId
  leased : ∀ jobId job owner token expiresAt, system.jobs.get? jobId = some job →
    job.status = .leased owner token expiresAt →
      system.latest.get? jobId = some {
        jobId := jobId
        owner := owner
        token := token
        fencingToken := job.fencingToken }
  counted : ∀ identity grant, system.grants.get? identity = some grant →
    ∃ job, system.jobs.get? identity.jobId = some job ∧
      identity.fencingToken ≤ job.fencingToken ∧
        (grant.Running system.now →
          job.status = .leased identity.owner identity.token grant.expiresAt ∧
            job.fencingToken = identity.fencingToken)
  granted : ∀ jobId job owner token expiresAt, system.jobs.get? jobId = some job →
    job.status = .leased owner token expiresAt →
      ∃ grant, system.grants.get? {
        jobId := jobId
        owner := owner
        token := token
        fencingToken := job.fencingToken } = some grant ∧ grant.ended = false ∧
          grant.expiresAt = expiresAt

theorem initial_fenced (now : Instant) : (initial now).Fenced := by
  constructor
  · intro jobId job found
    cases found
  · intro jobId job owner token expiresAt found
    cases found
  · intro identity grant found
    cases found
  · intro jobId job owner token expiresAt found
    cases found

variable {before later : JobSystem}

theorem Fenced.of_same (fenced : before.Fenced) (sameNow : later.now = before.now)
    (sameJobs : later.jobs = before.jobs) (sameLatest : later.latest = before.latest)
    (sameGrants : later.grants = before.grants) :
    later.Fenced := by
  obtain ⟨now, jobs, executions, latest, grants⟩ := later
  simp only at sameNow sameJobs sameLatest sameGrants
  subst sameNow sameJobs sameLatest sameGrants
  exact ⟨fenced.named, fenced.leased, fenced.counted, fenced.granted⟩

variable {job : PmsJob} {identity : LeaseIdentity}

theorem owns_iff :
    owns job identity = true ↔
      (∃ expiresAt, job.status = .leased identity.owner identity.token expiresAt) ∧
        job.fencingToken = identity.fencingToken := by
  unfold owns
  cases status : job.status with
  | leased owner token expiresAt =>
    simp only [Bool.and_eq_true, beq_iff_eq, JobStatus.leased.injEq]
    constructor
    · rintro ⟨⟨sameOwner, sameToken⟩, sameFence⟩
      exact ⟨⟨expiresAt, sameOwner, sameToken, rfl⟩, sameFence⟩
    · rintro ⟨⟨expiry, sameOwner, sameToken, _⟩, sameFence⟩
      exact ⟨⟨sameOwner, sameToken⟩, sameFence⟩
  | pending | succeeded | failed => simp

variable {system : JobSystem}

theorem Fenced.owned_latest (fenced : system.Fenced)
    (found : system.jobs.get? identity.jobId = some job) (owned : owns job identity = true) :
    system.latest.get? identity.jobId = some identity := by
  obtain ⟨⟨expiresAt, status⟩, sameFence⟩ := owns_iff.mp owned
  rw [fenced.leased identity.jobId job _ _ expiresAt found status, sameFence]

theorem Fenced.one_running (fenced : system.Fenced) {first second : LeaseIdentity}
    {firstGrant secondGrant : Grant} (firstFound : system.grants.get? first = some firstGrant)
    (firstRuns : firstGrant.Running system.now)
    (secondFound : system.grants.get? second = some secondGrant)
    (secondRuns : secondGrant.Running system.now) (sameJob : first.jobId = second.jobId) :
    first = second := by
  obtain ⟨job, found, _, firstKnown⟩ := fenced.counted first firstGrant firstFound
  obtain ⟨other, otherFound, _, secondKnown⟩ := fenced.counted second secondGrant secondFound
  rw [← sameJob, found] at otherFound
  cases otherFound
  have firstStatus := firstKnown firstRuns
  have secondStatus := secondKnown secondRuns
  have sameStatus := firstStatus.1.symm.trans secondStatus.1
  simp only [JobStatus.leased.injEq] at sameStatus
  cases first
  cases second
  simp only at sameJob sameStatus firstStatus secondStatus
  simp only [LeaseIdentity.mk.injEq]
  exact ⟨sameJob, sameStatus.1, sameStatus.2.1, firstStatus.2.symm.trans secondStatus.2⟩

variable {now : Instant} {statement : LeaseStatement}

theorem updatedJob_cases {job updated : PmsJob}
    (executed : updatedJob now statement job = some updated) :
    updated.jobId = job.jobId ∧ updated.fencingToken = job.fencingToken ∧
      updated.attempt = job.attempt ∧
        ((∃ leaseDurationMs owner token expiresAt, statement = .renew leaseDurationMs ∧
            job.status = .leased owner token expiresAt ∧ now < expiresAt ∧
              updated.status = .leased owner token (now.addMilliseconds leaseDurationMs)) ∨
          (∀ grant, (grantAfter now statement grant).ended = true) ∧
            ∀ owner token expiresAt, updated.status ≠ .leased owner token expiresAt) := by
  cases statement with
  | renew leaseDurationMs =>
    cases status : job.status with
    | leased owner token expiresAt =>
      simp only [updatedJob, status] at executed
      split at executed
      · rename_i unexpired
        cases executed
        exact ⟨rfl, rfl, rfl,
          Or.inl ⟨leaseDurationMs, owner, token, expiresAt, rfl, rfl, unexpired, rfl⟩⟩
      · cases executed
    | pending | succeeded | failed =>
      simp only [updatedJob, status] at executed
      cases executed
  | release availableAt | complete | fail availableAt =>
    simp only [updatedJob, Option.some.injEq] at executed
    subst updated
    refine ⟨rfl, rfl, rfl, Or.inr ⟨fun grant => rfl, ?_⟩⟩
    intro owner token expiresAt isLeased
    cases isLeased

/-- What a statement does once its bounds are checked. -/
private def settle (now : Instant) (jobs : OrderedMap String PmsJob) (identity : LeaseIdentity)
    (statement : LeaseStatement) : Except JobFailure (OrderedMap String PmsJob) :=
  match (jobs.get? identity.jobId).filter fun job => owns job identity with
  | none => .error .leaseNotOwned
  | some job =>
    match updatedJob now statement job with
    | none => .error .leaseNotOwned
    | some updated => .ok (jobs.set identity.jobId updated)

theorem execute_ok {jobs later : OrderedMap String PmsJob}
    (executed : execute now jobs identity statement = .ok later) :
    ∃ job updated, jobs.get? identity.jobId = some job ∧ owns job identity = true ∧
      updatedJob now statement job = some updated ∧ later = jobs.set identity.jobId updated := by
  have body : settle now jobs identity statement = .ok later := by
    unfold execute at executed
    cases statement with
    | renew leaseDurationMs =>
      cases bounds : assertLeaseRequest 1 leaseDurationMs with
      | error failure =>
        simp only [bounds] at executed
        cases executed
      | ok _ =>
        simp only [bounds] at executed
        exact executed
    | release availableAt | complete | fail availableAt => exact executed
  unfold settle at body
  cases kept : (jobs.get? identity.jobId).filter fun job => owns job identity with
  | none =>
    rw [kept] at body
    cases body
  | some job =>
    rw [kept] at body
    obtain ⟨found, owned⟩ := Option.filter_eq_some_iff.mp kept
    cases changed : updatedJob now statement job with
    | none =>
      simp only [changed] at body
      cases body
    | some updated =>
      simp only [changed, Except.ok.injEq] at body
      exact ⟨job, updated, found, owned, changed, body.symm⟩

theorem Fenced.superseded_fails (fenced : system.Fenced)
    (superseded : system.latest.get? identity.jobId ≠ some identity) (statement : LeaseStatement) :
    ∃ failure, system.operate identity statement = .error failure := by
  unfold operate
  cases executed : execute system.now system.jobs identity statement with
  | error failure => exact ⟨failure, rfl⟩
  | ok later =>
    obtain ⟨job, _, found, owned, _⟩ := execute_ok executed
    exact absurd (fenced.owned_latest found owned) superseded

variable {system later : JobSystem}

theorem operate_ok (executed : system.operate identity statement = .ok later) :
    ∃ job updated, system.jobs.get? identity.jobId = some job ∧ owns job identity = true ∧
      updatedJob system.now statement job = some updated ∧
        later = { system with
          jobs := system.jobs.set identity.jobId updated
          grants :=
            match system.grants.get? identity with
            | none => system.grants
            | some grant =>
              system.grants.set identity (grantAfter system.now statement grant) } := by
  unfold operate at executed
  cases ran : execute system.now system.jobs identity statement with
  | error failure =>
    rw [ran] at executed
    cases executed
  | ok jobs =>
    rw [ran, Except.ok.injEq] at executed
    obtain ⟨job, updated, found, owned, changed, same⟩ := execute_ok ran
    rw [same] at executed
    exact ⟨job, updated, found, owned, changed, executed.symm⟩

theorem Fenced.operate (fenced : system.Fenced)
    (executed : system.operate identity statement = .ok later) : later.Fenced := by
  obtain ⟨job, updated, found, owned, changed, same⟩ := operate_ok executed
  obtain ⟨sameId, sameFence, _, effect⟩ := updatedJob_cases changed
  obtain ⟨⟨expiresAt, status⟩, fence⟩ := owns_iff.mp owned
  obtain ⟨grant, grantFound, notEnded, grantExpiry⟩ :=
    fenced.granted identity.jobId job _ _ expiresAt found status
  have rowIdentity : ({
      jobId := identity.jobId
      owner := identity.owner
      token := identity.token
      fencingToken := job.fencingToken } : LeaseIdentity) = identity := by rw [fence]
  rw [rowIdentity] at grantFound
  rw [grantFound] at same
  subst later
  constructor
  · intro jobId row rowFound
    simp only [get?_set] at rowFound
    split at rowFound
    · rename_i sameJob
      cases rowFound
      rw [sameJob, sameId, fenced.named _ _ found]
    · exact fenced.named _ _ rowFound
  · intro jobId row owner token expiry rowFound rowStatus
    simp only [get?_set] at rowFound
    split at rowFound
    · rename_i sameJob
      cases rowFound
      subst sameJob
      rcases effect with ⟨_, oldOwner, oldToken, oldExpiry, _, oldStatus, _, newStatus⟩ | ⟨_, ended⟩
      · rw [newStatus] at rowStatus
        cases rowStatus
        rw [sameFence]
        exact fenced.leased _ _ _ _ _ found oldStatus
      · exact absurd rowStatus (ended owner token expiry)
    · exact fenced.leased _ _ _ _ _ rowFound rowStatus
  · intro other otherGrant otherFound
    simp only [get?_set] at otherFound ⊢
    by_cases sameIdentity : other = identity
    · subst other
      rw [if_pos rfl] at otherFound
      cases otherFound
      refine ⟨updated, if_pos rfl, by omega, ?_⟩
      rintro ⟨running, _⟩
      rcases effect with ⟨_, owner, token, _, isRenewal, oldStatus, _, newStatus⟩ | ⟨ended, _⟩
      · subst isRenewal
        rw [status] at oldStatus
        cases oldStatus
        exact ⟨newStatus, by omega⟩
      · rw [ended grant] at running
        cases running
    · rw [if_neg sameIdentity] at otherFound
      obtain ⟨row, rowFound, bounded, known⟩ := fenced.counted other otherGrant otherFound
      by_cases sameJob : other.jobId = identity.jobId
      · rw [sameJob, found] at rowFound
        cases rowFound
        refine ⟨updated, if_pos sameJob, by omega, ?_⟩
        intro running
        -- another running lease of the job would have leased the row that the statement found
        have sameRow := fenced.one_running otherFound running grantFound ?_ sameJob
        · exact absurd sameRow sameIdentity
        · constructor
          · exact notEnded
          · have otherStatus := (known running).1
            rw [status] at otherStatus
            simp only [JobStatus.leased.injEq] at otherStatus
            rw [grantExpiry, otherStatus.2.2]
            exact running.2
      · exact ⟨row, by rw [if_neg sameJob]; exact rowFound, bounded, known⟩
  · intro jobId row owner token expiry rowFound rowStatus
    simp only [get?_set] at rowFound ⊢
    split at rowFound
    · rename_i sameJob
      cases rowFound
      subst sameJob
      rcases effect with ⟨_, oldOwner, oldToken, oldExpiry, isRenewal, oldStatus, _, newStatus⟩ |
        ⟨_, ended⟩
      · subst isRenewal
        rw [status] at oldStatus
        cases oldStatus
        rw [newStatus] at rowStatus
        cases rowStatus
        rw [sameFence, rowIdentity, if_pos rfl]
        exact ⟨_, rfl, notEnded, rfl⟩
      · exact absurd rowStatus (ended owner token expiry)
    · rename_i otherJob
      obtain ⟨rowGrant, rowGrantFound, running⟩ :=
        fenced.granted _ _ _ _ _ rowFound rowStatus
      refine ⟨rowGrant, ?_, running⟩
      rw [if_neg, rowGrantFound]
      intro sameIdentity
      exact otherJob (congrArg LeaseIdentity.jobId sameIdentity)

/-- A claim may take the row: it is there, and a lease on it has run out. -/
def Takeable (system : JobSystem) (job : PmsJob) : Prop :=
  system.jobs.get? job.jobId = some job ∧ job.status ≠ .succeeded ∧
    ∀ owner token expiresAt, job.status = .leased owner token expiresAt →
      expiresAt ≤ system.now

/-- Leasing one candidate: its number is new, and the lease that it replaces has run out. -/
theorem Fenced.grant (fenced : system.Fenced) (token : String → String) (input : ClaimJobs)
    (takeable : system.Takeable job) :
    (system.grant token input job).Fenced := by
  obtain ⟨found, _, runOut⟩ := takeable
  constructor
  · intro jobId row rowFound
    simp only [JobSystem.grant, get?_set] at rowFound
    split at rowFound
    · rename_i sameJob
      cases rowFound
      exact sameJob.symm
    · exact fenced.named _ _ rowFound
  · intro jobId row owner rowToken expiresAt rowFound status
    simp only [JobSystem.grant, get?_set] at rowFound ⊢
    split at rowFound
    · rename_i sameJob
      cases rowFound
      cases status
      rw [if_pos sameJob, sameJob]
      rfl
    · rename_i otherJob
      rw [if_neg otherJob]
      exact fenced.leased _ _ _ _ _ rowFound status
  · intro identity lease leaseFound
    simp only [JobSystem.grant, get?_set] at leaseFound ⊢
    by_cases isNew : identity = claimIdentity token input job
    · subst isNew
      rw [if_pos rfl] at leaseFound
      cases leaseFound
      exact ⟨claimedJob system.now token input job, if_pos rfl, Nat.le_refl _, fun _ => ⟨rfl, rfl⟩⟩
    · rw [if_neg isNew] at leaseFound
      obtain ⟨row, rowFound, bounded, known⟩ := fenced.counted identity lease leaseFound
      by_cases sameJob : identity.jobId = job.jobId
      · rw [sameJob, found] at rowFound
        cases rowFound
        refine ⟨claimedJob system.now token input job, if_pos sameJob, ?_, ?_⟩
        · change identity.fencingToken ≤ job.fencingToken + 1
          omega
        · intro running
          have expired := runOut _ _ _ (known running).1
          have unexpired := running.2
          exact absurd unexpired (not_lt.mpr expired)
      · exact ⟨row, by rw [if_neg sameJob]; exact rowFound, bounded, known⟩
  · intro jobId row owner rowToken expiresAt rowFound status
    simp only [JobSystem.grant, get?_set] at rowFound ⊢
    split at rowFound
    · rename_i sameJob
      cases rowFound
      cases status
      subst sameJob
      exact ⟨_, if_pos rfl, rfl, rfl⟩
    · rename_i otherJob
      obtain ⟨rowGrant, rowGrantFound, running⟩ :=
        fenced.granted _ _ _ _ _ rowFound status
      refine ⟨rowGrant, ?_, running⟩
      rw [if_neg, rowGrantFound]
      intro sameIdentity
      exact otherJob (congrArg LeaseIdentity.jobId sameIdentity)

/-- The rows a claim takes: each is takeable, and none is taken twice. -/
structure ClaimTakes (system : JobSystem) (jobs : List PmsJob) : Prop where
  takeable : ∀ job ∈ jobs, system.Takeable job
  distinct : (jobs.map PmsJob.jobId).Nodup

theorem ClaimTakes.tail {rest : List PmsJob} (takes : system.ClaimTakes (job :: rest))
    (token : String → String) (input : ClaimJobs) :
    (system.grant token input job).ClaimTakes rest := by
  have parts := List.nodup_cons.mp takes.distinct
  constructor
  · intro other member
    obtain ⟨found, notDone, runOut⟩ := takes.takeable other (List.mem_cons_of_mem _ member)
    refine ⟨?_, notDone, runOut⟩
    have different : other.jobId ≠ job.jobId := by
      intro same
      apply parts.1
      rw [← same]
      exact List.mem_map_of_mem member
    simp only [JobSystem.grant, get?_set_ne _ _ different]
    exact found
  · exact parts.2

/-- What a claim leaves: the rows it takes are leased under the new numbers, every other row and
lease is as it was. -/
structure Claims (system : JobSystem) (token : String → String) (input : ClaimJobs)
    (jobs : List PmsJob) (later : JobSystem) : Prop where
  fenced : system.Fenced → later.Fenced
  sameNow : later.now = system.now
  sameExecutions : later.executions = system.executions
  taken : ∀ job ∈ jobs,
    later.jobs.get? job.jobId = some (claimedJob system.now token input job) ∧
      later.latest.get? job.jobId = some (claimIdentity token input job)
  kept : ∀ jobId, jobId ∉ jobs.map PmsJob.jobId →
    later.jobs.get? jobId = system.jobs.get? jobId ∧
      later.latest.get? jobId = system.latest.get? jobId
  leases : ∀ identity, later.grants.get? identity = system.grants.get? identity ∨
    ∃ job ∈ jobs, identity = claimIdentity token input job

theorem ClaimTakes.claims (token : String → String) (input : ClaimJobs) {jobs : List PmsJob}
    (takes : system.ClaimTakes jobs) :
    Claims system token input jobs (jobs.foldl (JobSystem.grant token input) system) := by
  induction jobs generalizing system with
  | nil =>
    exact {
      fenced := id
      sameNow := rfl
      sameExecutions := rfl
      taken := fun job member => absurd member List.not_mem_nil
      kept := fun jobId _ => ⟨rfl, rfl⟩
      leases := fun identity => Or.inl rfl }
  | cons job rest ih =>
    have rests := ih (takes.tail token input)
    have parts := List.nodup_cons.mp takes.distinct
    have first := takes.takeable job List.mem_cons_self
    exact {
      fenced := fun fenced => rests.fenced (fenced.grant token input first)
      sameNow := rests.sameNow
      sameExecutions := rests.sameExecutions
      taken := by
        intro other member
        rcases List.mem_cons.mp member with same | later
        · subst same
          obtain ⟨sameRow, sameLatest⟩ := rests.kept other.jobId parts.1
          rw [List.foldl_cons, sameRow, sameLatest]
          exact ⟨get?_set_self _ _ _, get?_set_self _ _ _⟩
        · exact rests.taken other later
      kept := by
        intro jobId absent
        simp only [List.map_cons, List.mem_cons, not_or] at absent
        obtain ⟨sameRow, sameLatest⟩ := rests.kept jobId absent.2
        rw [List.foldl_cons, sameRow, sameLatest]
        exact ⟨get?_set_ne _ _ absent.1, get?_set_ne _ _ absent.1⟩
      leases := by
        intro identity
        rcases rests.leases identity with same | ⟨other, member, isNew⟩
        · by_cases isNew : identity = claimIdentity token input job
          · exact Or.inr ⟨job, List.mem_cons_self, isNew⟩
          · rw [List.foldl_cons, same]
            exact Or.inl (get?_set_ne _ _ isNew)
        · exact Or.inr ⟨other, List.mem_cons_of_mem _ member, isNew⟩ }


theorem candidates_take (named : ∀ jobId job, system.jobs.get? jobId = some job → job.jobId = jobId)
    (locked : String → Bool) (input : ClaimJobs) :
    system.ClaimTakes (candidates system.now locked input system.jobs) := by
  have ofValues : ∀ job ∈ system.jobs.values, system.jobs.get? job.jobId = some job := by
    intro job member
    obtain ⟨key, found⟩ := mem_values.mp member
    rw [named key job found]
    exact found
  have sameIds : system.jobs.values.map PmsJob.jobId = system.jobs.keys := by
    simp only [OrderedMap.values, OrderedMap.keys, List.map_map]
    apply List.map_congr_left
    rintro ⟨key, job⟩ member
    exact named key job (mem_entries.mp member)
  have sorted := List.mergeSort_perm
    (system.jobs.values.filter (claimable system.now input.jobTypes)) claimedEarlier
  constructor
  · intro job member
    have kept := (List.mem_filter.mp (List.mem_of_mem_take member)).1
    obtain ⟨isValue, mayTake⟩ := List.mem_filter.mp (sorted.mem_iff.mp kept)
    simp only [claimable, Bool.and_eq_true] at mayTake
    refine ⟨ofValues job isValue, ?_, ?_⟩
    · intro done
      rw [done] at mayTake
      cases mayTake.2
    · intro owner token expiresAt status
      rw [status] at mayTake
      exact of_decide_eq_true mayTake.2
  · have within := ((List.take_sublist input.limit.toNat _).trans
      (List.filter_sublist (p := fun job => !locked job.jobId) (l :=
        (system.jobs.values.filter (claimable system.now input.jobTypes)).mergeSort
          claimedEarlier))).map PmsJob.jobId
    apply List.Nodup.sublist within
    rw [(sorted.map PmsJob.jobId).nodup_iff]
    apply List.Nodup.sublist (List.filter_sublist.map PmsJob.jobId)
    rw [sameIds]
    exact system.jobs.distinct

structure Moves (before later : JobSystem) : Prop where
  fenced : later.Fenced
  counted : ∀ jobId job, before.jobs.get? jobId = some job →
    ∃ row, later.jobs.get? jobId = some row ∧
      (row.fencingToken = job.fencingToken ∧ row.attempt = job.attempt ∧
          later.latest.get? jobId = before.latest.get? jobId ∨
        job.fencingToken < row.fencingToken ∧ job.attempt < row.attempt ∧
          ∃ identity, later.latest.get? jobId = some identity ∧
            identity.fencingToken = row.fencingToken)
  leased : ∀ identity, before.grants.get? identity = none → later.grants.get? identity ≠ none →
    ∃ job row, before.jobs.get? identity.jobId = some job ∧
      later.jobs.get? identity.jobId = some row ∧ job.fencingToken < row.fencingToken ∧
        job.attempt < row.attempt ∧ identity.fencingToken = row.fencingToken ∧
          later.latest.get? identity.jobId = some identity
  held : ∀ identity, before.grants.get? identity ≠ none → later.grants.get? identity ≠ none
  succeeded : ∀ jobId job, before.jobs.get? jobId = some job → job.status = .succeeded →
    later.jobs.get? jobId = some job

theorem Moves.of_same {before middle later : JobSystem} (moves : Moves before middle)
    (sameNow : later.now = middle.now) (sameJobs : later.jobs = middle.jobs)
    (sameLatest : later.latest = middle.latest) (sameGrants : later.grants = middle.grants) :
    Moves before later := by
  obtain ⟨now, jobs, executions, latest, grants⟩ := later
  simp only at sameNow sameJobs sameLatest sameGrants
  subst sameNow sameJobs sameLatest sameGrants
  exact {
    fenced := moves.fenced.of_same rfl rfl rfl rfl
    counted := moves.counted
    leased := moves.leased
    held := moves.held
    succeeded := moves.succeeded }

theorem Fenced.stays (fenced : system.Fenced) : Moves system system := {
  fenced := fenced
  counted := fun _ job found => ⟨job, found, Or.inl ⟨rfl, rfl, rfl⟩⟩
  leased := fun _ absent present => absurd absent present
  held := fun _ present => present
  succeeded := fun _ _ found _ => found }

theorem Fenced.tick (fenced : system.Fenced) (microseconds : Nat) :
    Moves system { system with now := system.now + microseconds } := by
  constructor
  · constructor
    · exact fenced.named
    · exact fenced.leased
    · intro identity grant found
      obtain ⟨job, jobFound, bounded, known⟩ := fenced.counted identity grant found
      refine ⟨job, jobFound, bounded, ?_⟩
      rintro ⟨notEnded, unexpired⟩
      apply known
      constructor
      · exact notEnded
      · exact Int.lt_of_le_of_lt (Int.le_add_of_nonneg_right (Int.natCast_nonneg microseconds))
          unexpired
    · exact fenced.granted
  · exact fenced.stays.counted
  · exact fenced.stays.leased
  · exact fenced.stays.held
  · exact fenced.stays.succeeded

theorem Fenced.enqueue (fenced : system.Fenced) (jobId jobType : String)
    (availableAt : Option Instant) :
    Moves system (system.enqueue jobId jobType availableAt) := by
  unfold JobSystem.enqueue
  split
  · exact fenced.stays
  · rename_i absent
    have notThere : system.jobs.get? jobId = none := by simpa using absent
    have other {id : String} {job : PmsJob} (found : system.jobs.get? id = some job) :
        id ≠ jobId := by
      intro same
      rw [same, notThere] at found
      cases found
    constructor
    · constructor
      · intro id job found
        simp only [get?_set] at found
        split at found
        · rename_i same
          cases found
          exact same.symm
        · exact fenced.named id job found
      · intro id job owner token expiresAt found status
        simp only [get?_set] at found
        split at found
        · cases found
          cases status
        · exact fenced.leased id job owner token expiresAt found status
      · intro identity grant found
        obtain ⟨job, jobFound, bounded, known⟩ := fenced.counted identity grant found
        refine ⟨job, ?_, bounded, known⟩
        rw [get?_set_ne _ _ (other jobFound)]
        exact jobFound
      · intro id job owner token expiresAt found status
        simp only [get?_set] at found
        split at found
        · cases found
          cases status
        · exact fenced.granted id job owner token expiresAt found status
    · intro id job found
      refine ⟨job, ?_, Or.inl ⟨rfl, rfl, rfl⟩⟩
      rw [get?_set_ne _ _ (other found)]
      exact found
    · intro identity absent present
      exact absurd absent present
    · exact fenced.stays.held
    · intro id job found _
      rw [get?_set_ne _ _ (other found)]
      exact found

theorem Fenced.claim (fenced : system.Fenced) (input : ClaimJobs) (locked : String → Bool)
    (token : String → String) :
    Moves system (system.claim input locked token) := by
  unfold JobSystem.claim
  split
  · exact fenced.stays
  · split
    · exact fenced.stays
    · have takes := candidates_take fenced.named locked input
      have claims := takes.claims token input
      generalize candidates system.now locked input system.jobs = jobs at takes claims ⊢
      generalize jobs.foldl (JobSystem.grant token input) system = later at claims ⊢
      constructor
      · exact claims.fenced fenced
      · intro jobId job found
        by_cases taken : jobId ∈ jobs.map PmsJob.jobId
        · obtain ⟨row, member, sameId⟩ := List.mem_map.mp taken
          obtain ⟨rowFound, _, _⟩ := takes.takeable row member
          rw [sameId, found] at rowFound
          cases rowFound
          obtain ⟨isRow, isLatest⟩ := claims.taken job member
          rw [sameId] at isRow isLatest
          exact ⟨_, isRow, Or.inr ⟨Nat.lt_succ_self _, Nat.lt_succ_self _, _, isLatest, rfl⟩⟩
        · obtain ⟨sameRow, sameLatest⟩ := claims.kept jobId taken
          exact ⟨job, by rw [sameRow, found], Or.inl ⟨rfl, rfl, sameLatest⟩⟩
      · intro identity absent present
        rcases claims.leases identity with same | ⟨job, member, isNew⟩
        · rw [same] at present
          exact absurd absent present
        · obtain ⟨found, _, _⟩ := takes.takeable job member
          obtain ⟨isRow, isLatest⟩ := claims.taken job member
          subst isNew
          exact ⟨job, _, found, isRow, Nat.lt_succ_self _, Nat.lt_succ_self _, rfl, isLatest⟩
      · intro identity present
        rcases claims.leases identity with same | ⟨job, member, isNew⟩
        · rw [same]
          exact present
        · -- the new number is beyond every number that was granted before
          obtain ⟨found, _, _⟩ := takes.takeable job member
          cases known : system.grants.get? identity with
          | none => exact absurd known present
          | some grant =>
            obtain ⟨row, rowFound, bounded, _⟩ := fenced.counted identity grant known
            subst isNew
            change system.jobs.get? job.jobId = some row at rowFound
            change job.fencingToken + 1 ≤ row.fencingToken at bounded
            rw [found] at rowFound
            cases rowFound
            omega
      · intro jobId job found done
        have kept : jobId ∉ jobs.map PmsJob.jobId := by
          intro taken
          obtain ⟨row, member, sameId⟩ := List.mem_map.mp taken
          obtain ⟨rowFound, notDone, _⟩ := takes.takeable row member
          rw [sameId, found] at rowFound
          cases rowFound
          exact notDone done
        rw [(claims.kept jobId kept).1]
        exact found

theorem Fenced.operated (fenced : system.Fenced)
    (executed : system.operate identity statement = .ok later) : Moves system later := by
  have fencedLater := fenced.operate executed
  obtain ⟨job, updated, found, owned, changed, same⟩ := operate_ok executed
  obtain ⟨_, sameFence, sameAttempt, _⟩ := updatedJob_cases changed
  obtain ⟨⟨expiresAt, status⟩, _⟩ := owns_iff.mp owned
  have sameGrants : ∀ other, later.grants.get? other = none ↔ system.grants.get? other = none := by
    intro other
    subst same
    cases known : system.grants.get? identity with
    | none => exact Iff.rfl
    | some grant =>
      simp only [get?_set]
      split
      · rename_i isSame
        subst isSame
        simp [known]
      · exact Iff.rfl
  constructor
  · exact fencedLater
  · intro jobId row rowFound
    subst same
    simp only [get?_set]
    by_cases sameJob : jobId = identity.jobId
    · rw [sameJob, found] at rowFound
      cases rowFound
      exact ⟨updated, if_pos sameJob, Or.inl ⟨sameFence, sameAttempt, trivial⟩⟩
    · exact ⟨row, by rw [if_neg sameJob]; exact rowFound, Or.inl ⟨rfl, rfl, trivial⟩⟩
  · intro other absent present
    exact absurd ((sameGrants other).mpr absent) present
  · intro other present absent
    exact present ((sameGrants other).mp absent)
  · intro jobId row rowFound done
    subst same
    have different : jobId ≠ identity.jobId := by
      intro sameJob
      rw [sameJob, found] at rowFound
      cases rowFound
      rw [status] at done
      cases done
    rw [get?_set_ne _ _ different]
    exact rowFound

theorem Moves.superseded (fenced : before.Fenced) (moves : Moves before later)
    (held : before.grants.get? identity ≠ none)
    (superseded : before.latest.get? identity.jobId ≠ some identity) :
    later.latest.get? identity.jobId ≠ some identity := by
  cases known : before.grants.get? identity with
  | none => exact absurd known held
  | some grant =>
    obtain ⟨job, found, bounded, _⟩ := fenced.counted identity grant known
    obtain ⟨row, _, kept | ⟨further, _, claimed, isLatest, sameFence⟩⟩ :=
      moves.counted identity.jobId job found
    · rw [kept.2.2]
      exact superseded
    · rw [isLatest]
      intro same
      cases same
      omega

end JobSystem

end Jobs

end SdarRuntime
