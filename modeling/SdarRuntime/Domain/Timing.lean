import Mathlib.Order.Basic
import SdarRuntime.Domain.Time
import SdarRuntime.Library.Checks

/-!
The timing of a task: how it is checked, and the anchors it gives. Times of the runtime are
`Date`s, which count whole milliseconds and end a hundred million days from the epoch.
-/

namespace SdarRuntime

namespace Timing

/-- A valid `Date`. -/
structure Date where
  milliseconds : Int
  inRange : milliseconds.natAbs ≤ 8640000000000000
  deriving DecidableEq

/-- `new Date(value)`; an invalid one is none. -/
def newDate (milliseconds : Int) : Option Date :=
  if inRange : milliseconds.natAbs ≤ 8640000000000000 then some ⟨milliseconds, inRange⟩ else none

theorem newDate_milliseconds (date : Date) : newDate date.milliseconds = some date := by
  unfold newDate
  rw [dif_pos date.inRange]

theorem milliseconds_of_newDate {milliseconds : Int} {date : Date}
    (isDate : newDate milliseconds = some date) : date.milliseconds = milliseconds := by
  unfold newDate at isDate
  split at isDate
  · cases isDate
    rfl
  · cases isDate

def Date.instant (date : Date) : Instant := 1000 * date.milliseconds

inductive TaskStart where
  | immediate (startToleranceMs : Int)
  | scheduled (scheduledAt : String) (startToleranceMs : Int)
  deriving DecidableEq

namespace TaskStart

def startToleranceMs : TaskStart → Int
  | immediate startToleranceMs => startToleranceMs
  | scheduled _ startToleranceMs => startToleranceMs

def isScheduled : TaskStart → Bool
  | immediate _ => false
  | scheduled _ _ => true

end TaskStart

/-- `TaskExecutionTiming`, before it is checked. -/
structure TaskTiming where
  start : TaskStart
  maxElapsedMs : Option Int
  deriving DecidableEq

structure Capabilities where
  scheduling : Bool
  maxElapsed : Bool

/-- `TimingAnchors`. -/
structure Anchors where
  acceptedAt : Date
  notBefore : Date
  latestStartAt : Date
  deadlineAt : Option Date
  deriving DecidableEq

def isSafeInteger (value : Int) : Bool := decide (value.natAbs ≤ 9007199254740991)

/-- `/(?:Z|[+-]\d{2}:\d{2})$/i`. -/
def endsWithZone (value : String) : Bool :=
  match value.toList.reverse with
  | 'Z' :: _ => true
  | 'z' :: _ => true
  | minute :: minutes :: ':' :: hour :: hours :: sign :: _ =>
    minute.isDigit && minutes.isDigit && hour.isDigit && hours.isDigit &&
      (sign == '+' || sign == '-')
  | _ => false

def parseRfc3339 (dateParse : String → Option Date) (value : String) : Except String Date :=
  if endsWithZone value = false then .error "INVALID_SCHEDULED_AT"
  else match dateParse value with
    | none => .error "INVALID_SCHEDULED_AT"
    | some parsed => .ok parsed

def addMilliseconds (value : Date) (milliseconds : Int) : Except String Date :=
  match newDate (value.milliseconds + milliseconds) with
  | none => .error "TIMING_OVERFLOW"
  | some result => .ok result

def notBeforeOf (dateParse : String → Option Date) (acceptedAt : Date) :
    TaskStart → Except String Date
  | .immediate _ => .ok acceptedAt
  | .scheduled scheduledAt _ => parseRfc3339 dateParse scheduledAt

def deadlineOf (notBefore : Date) : Option Int → Except String (Option Date)
  | none => .ok none
  | some maxElapsedMs => do
    let deadlineAt ← addMilliseconds notBefore maxElapsedMs
    return some deadlineAt

def validateTiming (dateParse : String → Option Date) (timing : TaskTiming)
    (capabilities : Capabilities) (acceptedAt : Date) : Except String Anchors :=
  if isSafeInteger timing.start.startToleranceMs = false ∨ timing.start.startToleranceMs < 0 then
    .error "INVALID_START_TOLERANCE"
  else if timing.maxElapsedMs.any fun elapsed => !isSafeInteger elapsed || decide (elapsed ≤ 0) then
    .error "INVALID_MAX_ELAPSED"
  else if timing.start.isScheduled ∧ capabilities.scheduling = false then
    .error "SCHEDULING_NOT_SUPPORTED"
  else if timing.maxElapsedMs.isSome ∧ capabilities.maxElapsed = false then
    .error "MAX_ELAPSED_NOT_SUPPORTED"
  else do
    let notBefore ← notBeforeOf dateParse acceptedAt timing.start
    let latestStartAt ← addMilliseconds notBefore timing.start.startToleranceMs
    let deadlineAt ← deadlineOf notBefore timing.maxElapsedMs
    return {
      acceptedAt := acceptedAt
      notBefore := notBefore
      latestStartAt := latestStartAt
      deadlineAt := deadlineAt
    }

/-- What is known of the timing and the anchors once it is accepted. -/
structure Accepted (dateParse : String → Option Date) (timing : TaskTiming)
    (capabilities : Capabilities) (acceptedAt : Date) (anchors : Anchors) : Prop where
  tolerance_nonneg : 0 ≤ timing.start.startToleranceMs
  elapsed_pos : ∀ elapsed, timing.maxElapsedMs = some elapsed → 0 < elapsed
  scheduling : timing.start.isScheduled = true → capabilities.scheduling = true
  isAcceptedAt : anchors.acceptedAt = acceptedAt
  isNotBefore : notBeforeOf dateParse acceptedAt timing.start = .ok anchors.notBefore
  isLatestStartAt : anchors.latestStartAt.milliseconds =
    anchors.notBefore.milliseconds + timing.start.startToleranceMs
  isDeadlineAt : anchors.deadlineAt.map Date.milliseconds =
    timing.maxElapsedMs.map fun elapsed => anchors.notBefore.milliseconds + elapsed

theorem addMilliseconds_eq_ok {value result : Date} {milliseconds : Int}
    (added : addMilliseconds value milliseconds = .ok result) :
    result.milliseconds = value.milliseconds + milliseconds := by
  unfold addMilliseconds at added
  split at added
  · cases added
  · rename_i isDate
    cases added
    exact milliseconds_of_newDate isDate

theorem validateTiming_accepted {dateParse : String → Option Date} {timing : TaskTiming}
    {capabilities : Capabilities} {acceptedAt : Date} {anchors : Anchors}
    (valid : validateTiming dateParse timing capabilities acceptedAt = .ok anchors) :
    Accepted dateParse timing capabilities acceptedAt anchors := by
  unfold validateTiming at valid
  split at valid
  · cases valid
  rename_i tolerance
  split at valid
  · cases valid
  rename_i elapsed
  split at valid
  · cases valid
  rename_i scheduling
  split at valid
  · cases valid
  obtain ⟨notBefore, isNotBefore, valid⟩ := Except.bind_eq_ok.mp valid
  obtain ⟨latestStartAt, isLatest, valid⟩ := Except.bind_eq_ok.mp valid
  obtain ⟨deadlineAt, isDeadline, valid⟩ := Except.bind_eq_ok.mp valid
  cases valid
  constructor
  · by_contra negative
    exact tolerance (Or.inr (by omega))
  · intro maxElapsedMs isElapsed
    rw [isElapsed] at elapsed
    by_contra negative
    have notPositive : maxElapsedMs ≤ 0 := by omega
    simp [notPositive] at elapsed
  · intro isScheduled
    by_contra unsupported
    exact scheduling ⟨isScheduled, Bool.eq_false_iff.mpr unsupported⟩
  · rfl
  · exact isNotBefore
  · exact addMilliseconds_eq_ok isLatest
  · cases isElapsed : timing.maxElapsedMs with
    | none =>
      rw [isElapsed] at isDeadline
      cases isDeadline
      rfl
    | some maxElapsedMs =>
      rw [isElapsed] at isDeadline
      obtain ⟨deadline, added, isDeadline⟩ := Except.bind_eq_ok.mp isDeadline
      cases isDeadline
      rw [Option.map_some, Option.map_some, addMilliseconds_eq_ok added]

end Timing

end SdarRuntime
