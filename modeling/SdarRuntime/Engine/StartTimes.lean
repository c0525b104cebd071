import SdarRuntime.Domain.Rfc3339
import SdarRuntime.Domain.Timing

/-!
The start times that are sent to the adapter. Both encoders write whole seconds, so a start time
is the instant the runtime waits for only where that has no milliseconds; and the decoder takes the
epoch for a missing timestamp.
-/

namespace SdarRuntime

namespace Timing

/-- `google.protobuf.Timestamp`, the seconds as the number their text spells; none is `NaN`. -/
structure ProtoTimestamp where
  seconds : Option Int
  nanos : Int
  deriving DecidableEq

/-- `String(Math.floor(value.getTime() / 1000))`. -/
def secondsOf (value : Option Date) : Option Int :=
  value.map fun date => Int.fdiv date.milliseconds 1000

def dateToProtoTimestamp (value : Option Date) : Except String ProtoTimestamp :=
  if value.isNone then .error "INVALID_SCHEDULED_AT"
  else .ok
    { seconds := secondsOf value
      nanos := 0 }

def timestamp (value : Option Date) : ProtoTimestamp :=
  { seconds := secondsOf value
    nanos := 0 }

def hasTimestamp (value : ProtoTimestamp) : Bool :=
  value.seconds.any fun seconds => decide (seconds ≠ 0)

def protoTimestampToDate (value : ProtoTimestamp) : Except String (Option Date) :=
  if hasTimestamp value = false then .error "INVALID_AVAILABILITY_TIMESTAMP"
  else .ok (value.seconds.bind fun seconds => newDate (seconds * 1000 + Int.tdiv value.nanos 1000000))

/-- The instant is the one of the timestamp, by the definition of the protocol. -/
def ProtoTimestamp.Denotes (value : ProtoTimestamp) (date : Date) : Prop :=
  ∃ seconds, value.seconds = some seconds ∧
    seconds * 1000000000 + value.nanos = date.milliseconds * 1000000

structure AdapterStart where
  mode : String
  scheduledAt : Option ProtoTimestamp
  startToleranceMs : Int
  deriving DecidableEq

structure AdapterTiming where
  start : AdapterStart
  maxElapsedMs : Option Int
  deriving DecidableEq

structure RequestedStart where
  mode : String
  scheduledAt : Option String
  startToleranceMs : Option Int

structure RequestedTiming where
  start : Option RequestedStart
  maxElapsedMs : Option Int

def TaskStart.requested : TaskStart → RequestedStart
  | .immediate startToleranceMs =>
    { mode := "immediate"
      scheduledAt := none
      startToleranceMs := some startToleranceMs }
  | .scheduled scheduledAt startToleranceMs =>
    { mode := "scheduled"
      scheduledAt := some scheduledAt
      startToleranceMs := some startToleranceMs }

def TaskTiming.requested (timing : TaskTiming) : RequestedTiming :=
  { start := some timing.start.requested
    maxElapsedMs := timing.maxElapsedMs }

def toAdapterTiming (dateParse : String → Option Date) (timing : Option RequestedTiming) :
    Except String AdapterTiming := do
  let start := timing.bind RequestedTiming.start
  let scheduledAt ← match start.bind RequestedStart.scheduledAt with
    | none => pure none
    | some scheduledAt => some <$> dateToProtoTimestamp (dateParse scheduledAt)
  return {
    start :=
      { mode := ((start.map RequestedStart.mode).getD "immediate").toUpper
        scheduledAt := scheduledAt
        startToleranceMs := (start.bind RequestedStart.startToleranceMs).getD 0 }
    maxElapsedMs := timing.bind RequestedTiming.maxElapsedMs
  }

def adapterTiming (dateParse : String → Option Date) (timing : TaskTiming) : AdapterTiming :=
  { start :=
      match timing.start with
      | .scheduled scheduledAt startToleranceMs =>
        { mode := "SCHEDULED"
          scheduledAt := some (timestamp (dateParse scheduledAt))
          startToleranceMs := startToleranceMs }
      | .immediate startToleranceMs =>
        { mode := "IMMEDIATE"
          scheduledAt := none
          startToleranceMs := startToleranceMs }
    maxElapsedMs := timing.maxElapsedMs }

theorem protoTimestampToDate_dateToProtoTimestamp_iff (date : Date) :
    (dateToProtoTimestamp (some date) >>= protoTimestampToDate) = .ok (some date) ↔
      date.milliseconds % 1000 = 0 ∧ date.milliseconds ≠ 0 := by
  have decoded : (dateToProtoTimestamp (some date) >>= protoTimestampToDate) =
      if Int.fdiv date.milliseconds 1000 = 0 then .error "INVALID_AVAILABILITY_TIMESTAMP"
      else .ok (newDate (Int.fdiv date.milliseconds 1000 * 1000 + 0)) := by
    change protoTimestampToDate _ = _
    unfold protoTimestampToDate hasTimestamp secondsOf
    simp
  rw [decoded, Int.fdiv_eq_ediv_of_nonneg _ (by decide)]
  split
  · rename_i epoch
    constructor
    · intro thrown
      cases thrown
    · rintro ⟨whole, notEpoch⟩
      omega
  · rename_i notEpoch
    constructor
    · intro same
      have isDate := milliseconds_of_newDate (Except.ok.inj same)
      omega
    · rintro ⟨whole, -⟩
      have same : date.milliseconds / 1000 * 1000 + 0 = date.milliseconds := by
        omega
      rw [same, newDate_milliseconds]

theorem denotes_iff (date : Date) :
    (timestamp (some date)).Denotes date ↔ date.milliseconds % 1000 = 0 := by
  have seconds : (timestamp (some date)).seconds = some (date.milliseconds / 1000) := by
    unfold timestamp secondsOf
    rw [Option.map_some, Int.fdiv_eq_ediv_of_nonneg _ (by decide)]
  have nanos : (timestamp (some date)).nanos = 0 := rfl
  unfold ProtoTimestamp.Denotes
  rw [seconds, nanos]
  constructor
  · rintro ⟨found, isFound, same⟩
    cases isFound
    omega
  · intro whole
    exact ⟨_, rfl, by omega⟩

/-- The timing that is sent names the anchor of the runtime and its tolerance. -/
def SendsAnchor (sent : AdapterTiming) (anchors : Anchors) : Prop :=
  ∃ scheduledAt, sent.start.scheduledAt = some scheduledAt ∧
    scheduledAt.Denotes anchors.notBefore ∧
    anchors.notBefore.milliseconds + sent.start.startToleranceMs =
      anchors.latestStartAt.milliseconds

section

variable {dateParse : String → Option Date} {timing : TaskTiming} {capabilities : Capabilities}
  {acceptedAt : Date} {anchors : Anchors} {scheduledAt : String} {startToleranceMs : Int}

theorem dateParse_of_accepted
    (accepted : Accepted dateParse timing capabilities acceptedAt anchors)
    (scheduled : timing.start = .scheduled scheduledAt startToleranceMs) :
    dateParse scheduledAt = some anchors.notBefore := by
  have isNotBefore := accepted.isNotBefore
  rw [scheduled] at isNotBefore
  change parseRfc3339 dateParse scheduledAt = _ at isNotBefore
  unfold parseRfc3339 at isNotBefore
  split at isNotBefore
  · cases isNotBefore
  · split at isNotBefore
    · cases isNotBefore
    · rename_i parsed isParsed
      cases isNotBefore
      exact isParsed

theorem sendsAnchor_adapterTiming_iff
    (accepted : Accepted dateParse timing capabilities acceptedAt anchors)
    (scheduled : timing.start = .scheduled scheduledAt startToleranceMs) :
    SendsAnchor (adapterTiming dateParse timing) anchors ↔
      anchors.notBefore.milliseconds % 1000 = 0 := by
  have parsed := dateParse_of_accepted accepted scheduled
  have latest := accepted.isLatestStartAt
  unfold SendsAnchor adapterTiming
  rw [scheduled] at latest ⊢
  dsimp only
  rw [parsed, ← denotes_iff]
  constructor
  · rintro ⟨sent, isSent, denotes, -⟩
    cases isSent
    exact denotes
  · intro denotes
    exact ⟨_, rfl, denotes, latest.symm⟩

theorem toAdapterTiming_eq
    (accepted : Accepted dateParse timing capabilities acceptedAt anchors)
    (scheduled : timing.start = .scheduled scheduledAt startToleranceMs) :
    toAdapterTiming dateParse (some timing.requested) = .ok (adapterTiming dateParse timing) := by
  have parsed := dateParse_of_accepted accepted scheduled
  have upper : "scheduled".toUpper = "SCHEDULED" := by
    decide +kernel
  unfold toAdapterTiming adapterTiming TaskTiming.requested
  rw [scheduled]
  simp [TaskStart.requested, parsed, dateToProtoTimestamp, timestamp, upper, bind, Except.bind, pure,
    Except.pure, Functor.map, Except.map]

/-- A date survives the encoder and the decoder where it has whole seconds and is not the epoch;
and the start time of an accepted timing is sent as the anchor it gives, on either path, where that
anchor has whole seconds. -/
theorem startTimes_agree_iff (date : Date)
    (valid : validateTiming dateParse timing capabilities acceptedAt = .ok anchors)
    (scheduled : timing.start = .scheduled scheduledAt startToleranceMs) :
    ((dateToProtoTimestamp (some date) >>= protoTimestampToDate) = .ok (some date) ↔
      date.milliseconds % 1000 = 0 ∧ date.milliseconds ≠ 0) ∧
    ((∃ sent, toAdapterTiming dateParse (some timing.requested) = .ok sent ∧
        SendsAnchor sent anchors) ↔ anchors.notBefore.milliseconds % 1000 = 0) ∧
    (SendsAnchor (adapterTiming dateParse timing) anchors ↔
      anchors.notBefore.milliseconds % 1000 = 0) := by
  have accepted := validateTiming_accepted valid
  have sends := sendsAnchor_adapterTiming_iff accepted scheduled
  refine ⟨protoTimestampToDate_dateToProtoTimestamp_iff date, ?_, sends⟩
  rw [← sends, toAdapterTiming_eq accepted scheduled]
  constructor
  · rintro ⟨sent, isSent, names⟩
    cases isSent
    exact names
  · intro names
    exact ⟨_, rfl, names⟩

end

def sampleParse (text : String) : Option Date := (Timestamp.read text).bind newDate

def sampleTiming (scheduledAt : String) : TaskTiming :=
  { start := .scheduled scheduledAt 30000
    maxElapsedMs := none }

def sampleCapabilities : Capabilities :=
  { scheduling := true
    maxElapsed := true }

def sampleAcceptedAt : Date :=
  { milliseconds := 1784149200000
    inRange := by decide }

def sampleDate (milliseconds : Nat) (inRange : milliseconds ≤ 8640000000000000) : Date :=
  { milliseconds := milliseconds
    inRange := inRange }

/-- The anchors of a start at the given time, which has half a minute. -/
def sampleAnchors (notBefore : Nat) (inRange : notBefore + 30000 ≤ 8640000000000000) : Anchors :=
  { acceptedAt := sampleAcceptedAt
    notBefore := sampleDate notBefore (by omega)
    latestStartAt := sampleDate (notBefore + 30000) inRange
    deadlineAt := none }

theorem startTimes_agree_sample :
    validateTiming sampleParse (sampleTiming "2026-07-16T01:00:00+01:00") sampleCapabilities
      sampleAcceptedAt = .ok (sampleAnchors 1784160000000 (by decide)) ∧
    SendsAnchor (adapterTiming sampleParse (sampleTiming "2026-07-16T01:00:00+01:00"))
      (sampleAnchors 1784160000000 (by decide)) := by
  have valid : validateTiming sampleParse (sampleTiming "2026-07-16T01:00:00+01:00")
      sampleCapabilities sampleAcceptedAt = .ok (sampleAnchors 1784160000000 (by decide)) := by
    decide +kernel
  exact ⟨valid, (startTimes_agree_iff sampleAcceptedAt valid rfl).2.2.mpr (by decide)⟩

/-- A date with half a second comes back without it, and a start time is sent without it. -/
theorem startTimes_disagree :
    (dateToProtoTimestamp (some (sampleDate 1500 (by decide))) >>= protoTimestampToDate) ≠
      .ok (some (sampleDate 1500 (by decide))) ∧
    validateTiming sampleParse (sampleTiming "2026-07-16T01:00:00.500+01:00") sampleCapabilities
      sampleAcceptedAt = .ok (sampleAnchors 1784160000500 (by decide)) ∧
    ¬SendsAnchor (adapterTiming sampleParse (sampleTiming "2026-07-16T01:00:00.500+01:00"))
      (sampleAnchors 1784160000500 (by decide)) := by
  have valid : validateTiming sampleParse (sampleTiming "2026-07-16T01:00:00.500+01:00")
      sampleCapabilities sampleAcceptedAt = .ok (sampleAnchors 1784160000500 (by decide)) := by
    decide +kernel
  refine ⟨by decide, valid, ?_⟩
  rw [sendsAnchor_adapterTiming_iff (validateTiming_accepted valid) rfl]
  decide

end Timing

end SdarRuntime
