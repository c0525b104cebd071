import SdarRuntime.Domain.Time
import SdarRuntime.Library.OrderedMap
import SdarRuntime.Library.Histories

/-!
Leased jobs and the workers that execute them. A claim leases jobs whose lease has expired or
which are free; the holder of a lease renews it and gives it back by one of three statements, each
fenced by the token and the number of the claim. An execution runs a handler beside a loop that
renews the lease, and reports the outcome once.
-/

namespace SdarRuntime

namespace Jobs

inductive JobStatus where
  | pending
  | leased (owner token : String) (expiresAt : Instant)
  | succeeded
  | failed
  deriving DecidableEq

structure PmsJob where
  jobId : String
  jobType : String
  status : JobStatus
  attempt : Nat
  fencingToken : Nat
  availableAt : Instant
  createdAt : Instant
  deriving DecidableEq

structure LeaseIdentity where
  jobId : String
  owner : String
  token : String
  fencingToken : Nat
  deriving DecidableEq

structure ClaimJobs where
  owner : String
  jobTypes : List String
  limit : Int
  leaseDurationMs : Int

inductive JobFailure where
  | alreadyExists
  | leaseNotOwned
  | claimInvalid
  | leaseBoundsInvalid
  deriving DecidableEq

def assertLeaseRequest (limit leaseDurationMs : Int) : Except JobFailure Unit :=
  if 1 ≤ limit ∧ limit ≤ 500 ∧ 1 ≤ leaseDurationMs ∧ leaseDurationMs ≤ 86400000 then .ok ()
  else .error .leaseBoundsInvalid

def claimable (now : Instant) (jobTypes : List String) (job : PmsJob) : Bool :=
  jobTypes.contains job.jobType &&
    match job.status with
    | .pending => decide (job.availableAt ≤ now)
    | .failed => decide (job.availableAt ≤ now)
    | .leased _ _ expiresAt => decide (expiresAt ≤ now)
    | .succeeded => false

def claimedEarlier (left right : PmsJob) : Bool :=
  decide (left.availableAt < right.availableAt) ||
    (decide (left.availableAt = right.availableAt) &&
      (decide (left.createdAt < right.createdAt) ||
        (decide (left.createdAt = right.createdAt) && decide (left.jobId ≤ right.jobId))))

/-- `FOR UPDATE SKIP LOCKED LIMIT`: rows that other transactions hold are passed over. -/
def candidates (now : Instant) (locked : String → Bool) (input : ClaimJobs)
    (jobs : OrderedMap String PmsJob) : List PmsJob :=
  (((jobs.values.filter (claimable now input.jobTypes)).mergeSort claimedEarlier).filter
    fun job => !locked job.jobId).take input.limit.toNat

def claimedJob (now : Instant) (token : String → String) (input : ClaimJobs) (job : PmsJob) :
    PmsJob := {
  job with
  status := .leased input.owner (token job.jobId) (now.addMilliseconds input.leaseDurationMs)
  fencingToken := job.fencingToken + 1
  attempt := job.attempt + 1
}

def claimIdentity (token : String → String) (input : ClaimJobs) (job : PmsJob) :
    LeaseIdentity := {
  jobId := job.jobId
  owner := input.owner
  token := token job.jobId
  fencingToken := job.fencingToken + 1
}

def owns (job : PmsJob) (identity : LeaseIdentity) : Bool :=
  match job.status with
  | .leased owner token _ => owner == identity.owner && token == identity.token &&
      job.fencingToken == identity.fencingToken
  | _ => false

inductive LeaseStatement where
  | renew (leaseDurationMs : Int)
  | release (availableAt : Option Instant)
  | complete
  | fail (availableAt : Instant)

def updatedJob (now : Instant) (statement : LeaseStatement) (job : PmsJob) : Option PmsJob :=
  match statement, job.status with
  | .renew leaseDurationMs, .leased owner token expiresAt =>
    if now < expiresAt then
      some { job with
        status := .leased owner token (now.addMilliseconds leaseDurationMs) }
    else none
  | .release availableAt, _ => some { job with
      status := .pending
      availableAt := availableAt.getD now }
  | .complete, _ => some { job with status := .succeeded }
  | .fail availableAt, _ => some { job with
      status := .failed
      availableAt := availableAt }
  | .renew _, _ => none

/-- A statement of the holder of a lease: it throws unless its row is leased under the identity. -/
def execute (now : Instant) (jobs : OrderedMap String PmsJob) (identity : LeaseIdentity)
    (statement : LeaseStatement) : Except JobFailure (OrderedMap String PmsJob) := do
  match statement with
  | .renew leaseDurationMs => assertLeaseRequest 1 leaseDurationMs
  | _ => .ok ()
  match (jobs.get? identity.jobId).filter fun job => owns job identity with
  | none => .error .leaseNotOwned
  | some job =>
    match updatedJob now statement job with
    | none => .error .leaseNotOwned
    | some updated => .ok (jobs.set identity.jobId updated)

inductive HandlerState where
  | running
  | settled (failed : Bool)
  deriving DecidableEq

/-- The loop that renews the lease: it waits for its interval, has a renewal under way, has the
answer of one before it, or has stopped. -/
inductive RenewalState where
  | waiting
  | sent
  | executed (succeeded : Bool)
  | stopped
  deriving DecidableEq

inductive JobOutcome where
  | complete
  | fail
  deriving DecidableEq

/-- The report of the outcome: not made yet, under way, done at the database, or over. -/
inductive ReportState where
  | none
  | sent (outcome : JobOutcome)
  | executed (outcome : JobOutcome) (succeeded : Bool)
  | ended
  deriving DecidableEq

/-- A run of `executePmsJob`, with a count of its outcomes that took effect. -/
structure Execution where
  identity : LeaseIdentity
  leaseDurationMs : Int
  retryDelayMs : Int
  handler : HandlerState
  renewal : RenewalState
  renewalAborted : Bool
  lost : Bool
  aborted : Bool
  report : ReportState
  effects : Nat

/-- A lease as its holder knows it, and whether the holder gave it back. -/
structure Grant where
  expiresAt : Instant
  ended : Bool

/-- The table of jobs and the clock of the database, the executions, and two records of the past:
the identity of each job's latest claim, and every lease that was granted. -/
structure JobSystem where
  now : Instant
  jobs : OrderedMap String PmsJob
  executions : OrderedMap Nat Execution
  latest : OrderedMap String LeaseIdentity
  grants : OrderedMap LeaseIdentity Grant

inductive Event where
  | tick (microseconds : Nat)
  | enqueue (jobId jobType : String) (availableAt : Option Instant)
  | claim (input : ClaimJobs) (locked : String → Bool) (token : String → String)
  | operate (identity : LeaseIdentity) (statement : LeaseStatement)
  | start (id : Nat) (identity : LeaseIdentity) (leaseDurationMs retryDelayMs : Int)
      (handlerPresent workerStopped : Bool)
  | workerStops (id : Nat)
  | sendRenewal (id : Nat)
  | renewalExecutes (id : Nat) (arrives : Bool)
  | renewalAnswered (id : Nat) (received : Bool)
  | renewalStops (id : Nat)
  | handlerSettles (id : Nat) (failed : Bool)
  | report (id : Nat)
  | reportExecutes (id : Nat) (clientClock : Instant)
  | reportAnswered (id : Nat)
  | crash (id : Nat)

namespace JobSystem

def enqueue (system : JobSystem) (jobId jobType : String) (availableAt : Option Instant) :
    JobSystem :=
  if (system.jobs.get? jobId).isSome then system
  else { system with
    jobs := system.jobs.set jobId {
      jobId := jobId
      jobType := jobType
      status := .pending
      attempt := 0
      fencingToken := 0
      availableAt := availableAt.getD system.now
      createdAt := system.now
    } }

def grant (token : String → String) (input : ClaimJobs) (system : JobSystem) (job : PmsJob) :
    JobSystem :=
  { system with
    jobs := system.jobs.set job.jobId (claimedJob system.now token input job)
    latest := system.latest.set job.jobId (claimIdentity token input job)
    grants := system.grants.set (claimIdentity token input job) {
      expiresAt := system.now.addMilliseconds input.leaseDurationMs
      ended := false
    } }

/-- What `String.prototype.trim` removes. -/
private def trimmed (char : Char) : Bool :=
  char.toNat ∈ [9, 10, 11, 12, 13, 32, 0xA0, 0x1680, 0x2028, 0x2029, 0x202F, 0x205F, 0x3000, 0xFEFF]
    || decide (0x2000 ≤ char.toNat ∧ char.toNat ≤ 0x200A)

def claim (system : JobSystem) (input : ClaimJobs) (locked : String → Bool)
    (token : String → String) : JobSystem :=
  match assertLeaseRequest input.limit input.leaseDurationMs with
  | .error _ => system
  | .ok _ =>
    if input.owner.toList.all trimmed ∨ input.jobTypes = [] then system
    else (candidates system.now locked input system.jobs).foldl (grant token input) system

/-- What the holder of a lease knows of it after a statement that took effect. -/
def grantAfter (now : Instant) (statement : LeaseStatement) (grant : Grant) : Grant :=
  match statement with
  | .renew leaseDurationMs =>
    { grant with expiresAt := now.addMilliseconds leaseDurationMs }
  | _ => { grant with ended := true }

def operate (system : JobSystem) (identity : LeaseIdentity) (statement : LeaseStatement) :
    Except JobFailure JobSystem :=
  match execute system.now system.jobs identity statement with
  | .error failure => .error failure
  | .ok jobs => .ok { system with
      jobs := jobs
      grants :=
        match system.grants.get? identity with
        | none => system.grants
        | some grant =>
          system.grants.set identity (grantAfter system.now statement grant) }

def setExecution (system : JobSystem) (id : Nat) (execution : Execution) : JobSystem :=
  { system with executions := system.executions.set id execution }

def started (identity : LeaseIdentity) (leaseDurationMs retryDelayMs : Int)
    (handlerPresent workerStopped : Bool) : Execution := {
  identity := identity
  leaseDurationMs := leaseDurationMs
  retryDelayMs := retryDelayMs
  handler := if handlerPresent then .running else .settled true
  renewal := if handlerPresent then .waiting else .stopped
  renewalAborted := !handlerPresent
  lost := false
  aborted := handlerPresent && workerStopped
  report := if handlerPresent then .none else .sent .fail
  effects := 0
}

def reportStatement (execution : Execution) (outcome : JobOutcome) (clientClock : Instant) :
    LeaseStatement :=
  match outcome with
  | .complete => .complete
  | .fail => .fail (clientClock.addMilliseconds execution.retryDelayMs)

def runStep (execution : Execution) : Event → Execution
  | .workerStops _ =>
    if execution.report = .none then { execution with aborted := true } else execution
  | .sendRenewal _ =>
    if execution.renewal = .waiting ∧ execution.renewalAborted = false then
      { execution with renewal := .sent }
    else execution
  | .renewalAnswered _ received =>
    match execution.renewal with
    | .executed succeeded =>
      if received ∧ succeeded then
        { execution with
          renewal := if execution.renewalAborted then .stopped else .waiting }
      else { execution with
        renewal := .stopped
        lost := true
        aborted := true }
    | _ => execution
  | .renewalStops _ =>
    if execution.renewal = .waiting ∧ execution.renewalAborted = true then
      { execution with renewal := .stopped }
    else execution
  | .handlerSettles _ failed =>
    if execution.handler = .running then
      { execution with
        handler := .settled failed
        renewalAborted := true }
    else execution
  | .report _ =>
    match execution.handler, execution.renewal, execution.report with
    | .settled failed, .stopped, .none =>
      if execution.lost ∨ execution.aborted then { execution with report := .ended }
      else { execution with report := .sent (if failed then .fail else .complete) }
    | _, _, _ => execution
  | .reportAnswered _ =>
    match execution.report with
    | .executed _ _ => { execution with report := .ended }
    | _ => execution
  | .crash _ => { execution with
      -- a statement that was sent may still be executed
      renewal := if execution.renewal = .waiting then .stopped else execution.renewal
      renewalAborted := true
      report :=
        match execution.report with
        | .sent outcome => .sent outcome
        | _ => .ended }
  | _ => execution

def renewalExecutes (system : JobSystem) (id : Nat) (execution : Execution) (arrives : Bool) :
    JobSystem :=
  if execution.renewal = .sent then
    match if arrives then system.operate execution.identity (.renew execution.leaseDurationMs)
      else .error .leaseNotOwned with
    | .ok after => after.setExecution id { execution with renewal := .executed true }
    | .error _ => system.setExecution id { execution with renewal := .executed false }
  else system

def reportExecutes (system : JobSystem) (id : Nat) (execution : Execution)
    (clientClock : Instant) : JobSystem :=
  match execution.report with
  | .sent outcome =>
    match system.operate execution.identity (reportStatement execution outcome clientClock) with
    | .ok after => after.setExecution id { execution with
        report := .executed outcome true
        effects := execution.effects + 1 }
    | .error _ => system.setExecution id { execution with report := .executed outcome false }
  | _ => system

def onExecution (system : JobSystem) (id : Nat) (step : Execution → JobSystem) : JobSystem :=
  match system.executions.get? id with
  | none => system
  | some execution => step execution

def next (system : JobSystem) (event : Event) : JobSystem :=
  match event with
  | .tick microseconds => { system with now := system.now + microseconds }
  | .enqueue jobId jobType availableAt => system.enqueue jobId jobType availableAt
  | .claim input locked token => system.claim input locked token
  | .operate identity statement =>
    match system.operate identity statement with
    | .ok after => after
    | .error _ => system
  | .start id identity leaseDurationMs retryDelayMs handlerPresent workerStopped =>
    if (system.executions.get? id).isSome ∨ (system.grants.get? identity).isNone then system
    else system.setExecution id
      (started identity leaseDurationMs retryDelayMs handlerPresent workerStopped)
  | .renewalExecutes id arrives => system.onExecution id fun execution =>
    system.renewalExecutes id execution arrives
  | .reportExecutes id clientClock => system.onExecution id fun execution =>
    system.reportExecutes id execution clientClock
  | .workerStops id => system.onExecution id fun execution =>
    system.setExecution id (runStep execution event)
  | .sendRenewal id => system.onExecution id fun execution =>
    system.setExecution id (runStep execution event)
  | .renewalAnswered id _ => system.onExecution id fun execution =>
    system.setExecution id (runStep execution event)
  | .renewalStops id => system.onExecution id fun execution =>
    system.setExecution id (runStep execution event)
  | .handlerSettles id _ => system.onExecution id fun execution =>
    system.setExecution id (runStep execution event)
  | .report id => system.onExecution id fun execution =>
    system.setExecution id (runStep execution event)
  | .reportAnswered id => system.onExecution id fun execution =>
    system.setExecution id (runStep execution event)
  | .crash id => system.onExecution id fun execution =>
    system.setExecution id (runStep execution event)

def initial (now : Instant) : JobSystem := {
  now := now
  jobs := OrderedMap.empty
  executions := OrderedMap.empty
  latest := OrderedMap.empty
  grants := OrderedMap.empty
}

end JobSystem

end Jobs

end SdarRuntime
