import SdarRuntime.Domain.Rfc3339
import SdarRuntime.TrajectoryHistory.Contract
import SdarRuntime.VehicleIngress.Guard

/-!
The receipt of one message of a trajectory source. Decoding and normalization are guarded: what
they refuse is recorded as rejected. The receipt is built from the fields of the decoded message
after that, and its schema is asked of it last, where a refusal throws.
-/

namespace SdarRuntime

namespace TrajectoryHistory

open VehicleIngress

open Schema Json DecimalText

def trajectorySourceTopics : List String :=
  ["/ugv/gnss", "status/ugv1", "status/ugv", "/ugv/status"]

structure ReceptionEntrance where
  receptionId : String
  sessionId : String
  receivedUtc : String
  monotonicNanoseconds : String
  clockId : String
  qos : Nat
  packetId : Option Nat
  duplicateDeliveryHint : Bool
  retainedDelivery : Bool

/-- A position as the normalizer gives it, with the texts of its numbers. -/
structure NormalizedPosition where
  longitude : String
  latitude : String
  altitude : Option String

structure Inspection where
  position : Option NormalizedPosition
  missionId : Option String

structure TrajectoryIngress where
  wireMode : MqttWireMode
  limits : JsonLimits
  inspectMessage : String → List UInt8 → Except String Inspection

/-- The schema library, the reader of JSON, `Date.parse` in milliseconds and the hash. -/
structure CapturePlatform where
  formats : Formats
  offsetDatetime : String → Bool
  reader : JsonReader
  dateParse : String → Option Int
  historySha256 : List UInt8 → String

inductive ReportedUnit where
  | iso8601
  | rosSecondsNanoseconds
  | microsecondsUnspecifiedEpoch
  | unknown
  deriving DecidableEq

def ReportedUnit.text : ReportedUnit → String
  | .iso8601 => "ISO8601"
  | .rosSecondsNanoseconds => "ROS_SECONDS_NANOSECONDS"
  | .microsecondsUnspecifiedEpoch => "MICROSECONDS_UNSPECIFIED_EPOCH"
  | .unknown => "UNKNOWN"

inductive ReportedQuality where
  | reportedUnverified
  | unknownTimebase
  | invalid
  deriving DecidableEq

def ReportedQuality.text : ReportedQuality → String
  | .reportedUnverified => "REPORTED_UNVERIFIED"
  | .unknownTimebase => "UNKNOWN_TIMEBASE"
  | .invalid => "INVALID"

structure ReportedTime where
  originalField : String
  rawValueJson : String
  unit : ReportedUnit
  normalizedUtc : Option String
  quality : ReportedQuality

mutual
/-- `JSON.stringify` writes `null` for a number that is not finite. -/
def printable : Json → Json
  | .num text => if finiteText text then .num text else .null
  | .arr items => .arr (printableItems items)
  | .obj fields => .obj (printableFields fields)
  | other => other

def printableItems : List Json → List Json
  | [] => []
  | item :: rest => printable item :: printableItems rest

def printableFields : List (String × Json) → List (String × Json)
  | [] => []
  | (key, value) :: rest => (key, printable value) :: printableFields rest
end

/-- `left ?? right` -/
def coalesce (left right : Option Json) : Option Json :=
  match left with
  | none => right
  | some .null => right
  | some value => some value

/-- The integer that a number's text spells without a fraction or an exponent. -/
def integerOf (text : String) : Option Int :=
  let (negative, digits) :=
    match text.toList with
    | '-' :: rest => (true, rest)
    | chars => (false, chars)
  if digits = [] ∨ digits.all Char.isDigit = false then none
  else some (if negative then -(DecimalText.value digits : Int) else DecimalText.value digits)

/-- A number that is written with a positive exponent has no fraction. -/
def isIntegerText (text : String) : Bool :=
  (integerOf text).isSome || (text.toList.contains 'e' && text.toList.contains '+')

def safeIntegerOf (text : String) : Option Int :=
  (integerOf text).filter fun value =>
    decide (-9007199254740991 ≤ value ∧ value ≤ 9007199254740991)

def safeInteger : Option Json → Option Int
  | some (.num text) => safeIntegerOf text
  | _ => none

def rosStamp (stamp : Json) : Bool :=
  record stamp &&
    (safeInteger (coalesce (stamp.field? "sec") (stamp.field? "secs"))).isSome &&
      match safeInteger (coalesce (coalesce (stamp.field? "nanosec") (stamp.field? "nsecs"))
        (stamp.field? "nsec")) with
      | none => false
      | some nanoseconds => decide (0 ≤ nanoseconds ∧ nanoseconds < 1000000000)

def unsafeNumeric : Json → Bool
  | .num text => isIntegerText text && (safeIntegerOf text).isNone
  | _ => false

def headerOf (decoded : Json) : Option Json :=
  (decoded.field? "header").filter record

def stampOf (decoded : Json) : Option (String × Json) :=
  match (headerOf decoded).bind (field? "stamp") with
  | some stamp => some ("/header/stamp", stamp)
  | none => ["stamp", "time_us", "timestamp_us", "timestamp", "time"].findSome? fun key =>
    (decoded.field? key).map fun stamp => (key, stamp)

def isoInstant (platform : CapturePlatform) : Json → Option Instant
  | .str text =>
    if platform.offsetDatetime text then (platform.dateParse text).map (1000 * ·) else none
  | _ => none

def originalReportedTime (platform : CapturePlatform) (decoded : Option Json) :
    Option ReportedTime :=
  match (decoded.filter record).bind stampOf with
  | none => none
  | some (field, stamp) =>
    let rawValueJson := (printable stamp).stringify
    if (utf16 rawValueJson).length > 4096 then none
    else
      let iso := isoInstant platform stamp
      some {
        originalField := "decoded-message:" ++
          (if field = "/header/stamp" then field else "/" ++ field)
        rawValueJson := rawValueJson
        unit :=
          if iso.isSome then .iso8601
          else if record stamp then .rosSecondsNanoseconds
          else if field ∈ ["time_us", "timestamp_us"] then .microsecondsUnspecifiedEpoch
          else .unknown
        normalizedUtc := iso.map Instant.toISOString
        quality :=
          if iso.isSome then .reportedUnverified
          else if (record stamp && !rosStamp stamp) || stamp matches .null ||
              unsafeNumeric stamp then .invalid
          else .unknownTimebase }

def ReportedTime.toJson (time : ReportedTime) : Json := .obj [
  ("originalField", .str time.originalField),
  ("rawValueJson", .str time.rawValueJson),
  ("valueProvenance", .str "DECODED_JSON_VALUE_NOT_ORIGINAL_WIRE_LEXEME"),
  ("unit", .str time.unit.text),
  ("timeBase", .str (if time.normalizedUtc.isSome then "REPORTED_UNIX_EPOCH" else "UNKNOWN")),
  ("reportedClockOwner", .str "MESSAGE_PRODUCER_UNVERIFIED"),
  ("normalizedUtc", nullableText time.normalizedUtc),
  ("conversion",
    if time.normalizedUtc.isSome then
      .str "LEXICAL_ISO8601_TO_UTC_ONLY; NO_DEVICE_CLOCK_CALIBRATION"
    else .null),
  ("calibration", .null),
  ("quality", .str time.quality.text)]

/-- `/^[A-Z0-9_]+$/` -/
def codePattern (text : String) : Bool :=
  text.toList != [] && text.toList.all fun char => char.isUpper || char.isDigit || char == '_'

def refusal (message : String) : String :=
  if codePattern message then message else "TRAJECTORY_SOURCE_NORMALIZATION_REJECTED"

/-- The decoded message, the observation, and the code of a refusal: a message that is decoded and
then refused stays decoded. -/
def inspectGuarded (platform : CapturePlatform) (ingress : TrajectoryIngress) (topic : String)
    (payload : List UInt8) : Option Json × Option Inspection × Option String :=
  match decodeMqttPayload platform.reader payload ingress.wireMode ingress.limits with
  | .error message => (none, none, some (refusal message))
  | .ok decoded =>
    match ingress.inspectMessage topic payload with
    | .error message => (decoded, none, some (refusal message))
    | .ok inspected => (decoded, some inspected, none)

def reportedSequence (decoded : Option Json) : Option String :=
  match (decoded.filter record).bind fun fields =>
    coalesce ((headerOf fields).bind (field? "seq")) (fields.field? "seq") with
  | some (.str text) => some text
  | some (.num text) => (safeIntegerOf text).map fun _ => text
  | _ => none

def ReceptionEntrance.timeJson (entrance : ReceptionEntrance) : Json := .obj [
  ("utc", .str entrance.receivedUtc),
  ("owner", .str "PROVIDER_MQTT_MESSAGE_CALLBACK"),
  ("clockId", .str entrance.clockId),
  ("resolution", .str "MILLISECOND"),
  ("synchronization", .str "UNVERIFIED"),
  ("accuracyBoundMilliseconds", .null),
  ("processMonotonicNanoseconds", .str entrance.monotonicNanoseconds)]

def ReceptionEntrance.transportJson (entrance : ReceptionEntrance) : Json := .obj [
  ("qos", .num (toString entrance.qos)),
  ("packetId",
    match entrance.packetId with
    | none => .null
    | some packetId => .num (toString packetId)),
  ("duplicateDeliveryHint", .bool entrance.duplicateDeliveryHint),
  ("retainedDelivery", .bool entrance.retainedDelivery)]

def NormalizedPosition.toJson (position : NormalizedPosition) : Json := .obj (
  [("longitude", .num position.longitude), ("latitude", .num position.latitude)] ++
  (match position.altitude with
    | none => []
    | some altitude => [("altitude", .num altitude)]) ++
  [("crs", .str "OGC:CRS84"), ("derivation", .str "VERSIONED_PROVIDER_NORMALIZER")])

def missionJson (missionId : Option String) : Json :=
  match missionId.filter fun text => text != "" with
  | none => .null
  | some missionId => .obj [
      ("missionId", .str missionId),
      ("provenance", .str "SAME_ORIGINAL_MESSAGE"),
      ("producerEpoch", .null),
      ("executionOwnership", .str "NOT_ATTESTED")]

def captureDiagnostics (entrance : ReceptionEntrance) (reported : Option ReportedTime)
    (rejected : Option String) : List String :=
  (match reported with
    | none => ["SOURCE_REPORTED_TIME_UNAVAILABLE_OR_OVER_LIMIT"]
    | some time => if time.quality = .invalid then ["SOURCE_REPORTED_TIME_INVALID"] else []) ++
  (if entrance.duplicateDeliveryHint then
    ["TRANSPORT_DUPLICATE_HINT_NOT_DEVICE_SAMPLE_DEDUPLICATION"] else []) ++
  (if entrance.retainedDelivery then ["RETAINED_DELIVERY_NOT_NEW_DEVICE_GENERATION"] else []) ++
  (if rejected ∈ [some "UGV_MQTT_ENTITY_MISMATCH", some "UGV_MQTT_ROLE_MISMATCH"] then
    ["SOURCE_DEVICE_IDENTITY_REJECTED"] else [])

def disposition (rejected : Option String) (position : Option NormalizedPosition) : String :=
  match rejected, position with
  | some _, _ => "REJECTED"
  | none, some _ => "POSITION_OBSERVATION"
  | none, none => "NO_POSITION"

def reasonCode (rejected : Option String) (position : Option NormalizedPosition) : String :=
  match rejected, position with
  | some code, _ => code
  | none, some _ => "POSITION_NORMALIZED"
  | none, none => "NO_POSITION_IN_ORIGINAL_MESSAGE"

def receiptJson (platform : CapturePlatform) (ingress : TrajectoryIngress) (topic : String)
    (payload : List UInt8) (entrance : ReceptionEntrance) (evidenceClass : EvidenceClass) : Json :=
  let digest := platform.historySha256 payload
  let (decoded, inspected, rejected) := inspectGuarded platform ingress topic payload
  let position := inspected.bind Inspection.position
  let reported := originalReportedTime platform decoded
  .obj [
    ("schemaVersion", .str "ugv.trajectory-reception/1.0"),
    ("receptionId", .str entrance.receptionId),
    ("sessionId", .str entrance.sessionId),
    ("sourceTopic", .str topic),
    ("originalMessageSha256", .str digest),
    ("originalMessageBytes", .num (toString payload.length)),
    ("originalMessageReference", .str ("mqtt-wire:sha256:" ++ digest)),
    ("providerReceivedAt", entrance.timeJson),
    ("reportedTime", (reported.map ReportedTime.toJson).getD .null),
    ("deviceAcquisitionTime", .null),
    ("deviceClockAttribution", .str "NOT_ATTESTED_BY_PRODUCER_CONTRACT"),
    ("sourceReportedSequence", nullableText (reportedSequence decoded)),
    ("sourceProducerEpoch", .null),
    ("transport", entrance.transportJson),
    ("disposition", .str (disposition rejected position)),
    ("reasonCode", .str (reasonCode rejected position)),
    ("position", (position.map NormalizedPosition.toJson).getD .null),
    ("reportedMission", missionJson (inspected.bind Inspection.missionId)),
    ("evidenceClass", .str evidenceClass.text),
    ("diagnostics", .arr ((captureDiagnostics entrance reported rejected).map .str))]

/-- `none` is the throw of the schema. -/
def captureTrajectoryReceipt (platform : CapturePlatform) (ingress : TrajectoryIngress)
    (topic : String) (payload : List UInt8) (entrance : ReceptionEntrance)
    (evidenceClass : EvidenceClass) : Option Json :=
  let receipt := receiptJson platform ingress topic payload entrance evidenceClass
  if (ReceptionReceiptSchema platform.formats).accepts receipt then some receipt else none

def transportSchema (formats : Formats) : Schema := .object [
  required "qos" (.number [formats.int, formats.atLeast 0, formats.atMost 2]),
  required "packetId"
    (.nullable (.number [formats.int, formats.atLeast 1, formats.atMost 65535])),
  required "duplicateDeliveryHint" .boolean,
  required "retainedDelivery" .boolean]

/-- What the callback knows of a message has its place in a receipt. -/
def ReceptionEntrance.wellFormed (formats : Formats) (entrance : ReceptionEntrance) : Bool :=
  formats.uuid entrance.receptionId && formats.uuid entrance.sessionId &&
    (ReceptionTimeSchema formats).accepts entrance.timeJson &&
      (transportSchema formats).accepts entrance.transportJson

def NormalizedPosition.onEarth (formats : Formats) (position : NormalizedPosition) : Bool :=
  finiteText position.longitude && formats.atLeast (-180) position.longitude &&
    formats.atMost 180 position.longitude && finiteText position.latitude &&
      formats.atLeast (-90) position.latitude && formats.atMost 90 position.latitude &&
        position.altitude.all finiteText

/-- The instant of a time in ISO 8601 that is short enough to be reported. -/
def reportedInstant (platform : CapturePlatform) (decoded : Option Json) : Option Instant :=
  ((decoded.filter record).bind stampOf).bind fun (_, stamp) =>
    if (utf16 (printable stamp).stringify).length > 4096 then none
    else isoInstant platform stamp

def utcYear (value : Instant) : Int :=
  (Calendar.civil (Int.fdiv (Int.fdiv value 1000) 86400000)).1

def representable (platform : CapturePlatform) (ingress : TrajectoryIngress) (topic : String)
    (payload : List UInt8) : Bool :=
  let (decoded, inspected, rejected) := inspectGuarded platform ingress topic payload
  rejected.all (lengthBetween 0 128) &&
    (reportedSequence decoded).all (lengthBetween 0 256) &&
      (inspected.bind Inspection.missionId).all (lengthBetween 0 256) &&
        (inspected.bind Inspection.position).all (NormalizedPosition.onEarth platform.formats) &&
          (reportedInstant platform decoded).all fun instant =>
            decide (0 ≤ utcYear instant ∧ utcYear instant ≤ 9999)

/-- What is known of the schema library and of the hash: a count is a number of its kind, a UTC
text is a datetime where its year has four digits, and a digest has 64 hexadecimal digits. -/
structure CapturePlatform.Faithful (platform : CapturePlatform) : Prop where
  counts : ∀ count : Nat, (nonnegativeInt platform.formats).accepts (.num (toString count)) = true
  years : ∀ instant : Instant, platform.formats.datetime instant.toISOString =
    decide (0 ≤ utcYear instant ∧ utcYear instant ≤ 9999)
  digests : ∀ payload, sha256Pattern (platform.historySha256 payload) = true

section Acceptance

variable {formats : Formats}

theorem position_accepted (position : NormalizedPosition) :
    (object [
      required "longitude" (.number [formats.atLeast (-180), formats.atMost 180]),
      required "latitude" (.number [formats.atLeast (-90), formats.atMost 90]),
      optional "altitude" (.number []),
      required "crs" (.literal "OGC:CRS84"),
      required "derivation" (.literal "VERSIONED_PROVIDER_NORMALIZER")]).accepts
        position.toJson = position.onEarth formats := by
  obtain ⟨longitude, latitude, altitude⟩ := position
  cases altitude with
  | none =>
    simp [NormalizedPosition.toJson, NormalizedPosition.onEarth, accepts,
      acceptsMembers, Json.lookup, required, optional, Json.Distinct, Bool.and_assoc]
  | some altitude =>
    simp [NormalizedPosition.toJson, NormalizedPosition.onEarth, accepts,
      acceptsMembers, Json.lookup, required, optional, Json.Distinct, Bool.and_assoc]

theorem utf16_append (left right : String) :
    utf16 (left ++ right) = utf16 left ++ utf16 right := by
  simp [utf16, String.toList_append]

variable {text : String}

theorem utf16_ne_nil (nonempty : text ≠ "") : 1 ≤ (utf16 text).length := by
  have chars : text.toList ≠ [] := by
    intro empty
    exact nonempty (String.toList_inj.mp empty)
  obtain ⟨char, rest, isCons⟩ := List.exists_cons_of_ne_nil chars
  unfold utf16
  rw [isCons, List.flatMap_cons, List.length_append]
  split
  · exact Nat.le_add_right 1 _
  · exact Nat.le_trans (by decide : 1 ≤ 2) (Nat.le_add_right 2 _)

theorem utf16_hexDigits (digits : text.toList.all hexDigit = true) :
    (utf16 text).length = text.toList.length := by
  unfold utf16
  generalize text.toList = chars at digits
  induction chars with
  | nil => rfl
  | cons char rest ih =>
    rw [List.all_cons, Bool.and_eq_true] at digits
    have small : char.toNat < 0x10000 := by
      have isHex := digits.1
      unfold hexDigit at isHex
      rw [Bool.or_eq_true] at isHex
      rcases isHex with decimal | letter
      · have bounds := Char.isDigit_iff_toNat.mp decimal
        have nine : '9'.toNat = 57 := rfl
        omega
      · rw [Bool.and_eq_true, decide_eq_true_eq, decide_eq_true_eq] at letter
        have bound : char.toNat ≤ 'f'.toNat := letter.2
        have value : 'f'.toNat = 102 := rfl
        omega
    rw [List.flatMap_cons, if_pos small, List.length_append, ih digits.2, List.length_singleton,
      List.length_cons, Nat.add_comm]

theorem reference_accepted {digest : String} (isDigest : sha256Pattern digest = true) :
    (boundedText 1 512).accepts (.str ("mqtt-wire:sha256:" ++ digest)) = true := by
  unfold sha256Pattern at isDigest
  rw [Bool.and_eq_true, decide_eq_true_eq] at isDigest
  have counted : (utf16 ("mqtt-wire:sha256:" ++ digest)).length = 17 + 64 := by
    rw [utf16_append, List.length_append, utf16_hexDigits isDigest.2, isDigest.1]
    decide
  simp [boundedText, accepts, lengthBetween, counted]

theorem mission_accepted (missionId : Option String) :
    (nullable (.object [
      required "missionId" (boundedText 1 256),
      required "provenance" (.literal "SAME_ORIGINAL_MESSAGE"),
      required "producerEpoch" .null,
      required "executionOwnership" (.literal "NOT_ATTESTED")])).accepts (missionJson missionId) =
        missionId.all (lengthBetween 0 256) := by
  unfold missionJson
  cases missionId with
  | none => rfl
  | some text =>
    by_cases empty : text = ""
    · subst empty
      decide
    · have filtered : (some text).filter (fun text => text != "") = some text := by
        simp [Option.filter, empty]
      have least := utf16_ne_nil empty
      rw [filtered]
      simp [accepts, acceptsMembers, Json.lookup, required, Json.Distinct,
        boundedText, lengthBetween, least]

theorem sequence_accepted (sequence : Option String) :
    (nullable (boundedText 0 256)).accepts (nullableText sequence) =
      sequence.all (lengthBetween 0 256) := by
  cases sequence with
  | none => rfl
  | some text => simp [nullableText, accepts, boundedText]

theorem diagnostics_accepted (entrance : ReceptionEntrance) (reported : Option ReportedTime)
    (rejected : Option String) :
    (array 0 32 (boundedText 1 128)).accepts
      (.arr ((captureDiagnostics entrance reported rejected).map .str)) = true := by
  unfold captureDiagnostics
  have each : ∀ first ∈ [[], ["SOURCE_REPORTED_TIME_UNAVAILABLE_OR_OVER_LIMIT"],
        ["SOURCE_REPORTED_TIME_INVALID"]],
      ∀ second ∈ [[], ["TRANSPORT_DUPLICATE_HINT_NOT_DEVICE_SAMPLE_DEDUPLICATION"]],
        ∀ third ∈ [[], ["RETAINED_DELIVERY_NOT_NEW_DEVICE_GENERATION"]],
          ∀ fourth ∈ [[], ["SOURCE_DEVICE_IDENTITY_REJECTED"]],
            (array 0 32 (boundedText 1 128)).accepts
              (.arr ((first ++ second ++ third ++ fourth).map .str)) = true := by
    decide
  apply each
  · cases reported with
    | none => simp
    | some time =>
      dsimp only
      split
      · simp
      · simp
  · split
    · simp
    · simp
  · split
    · simp
    · simp
  · split
    · simp
    · simp

theorem refusal_ne_empty (message : String) : refusal message ≠ "" := by
  unfold refusal
  split
  · rename_i isCode
    intro empty
    subst empty
    cases isCode
  · decide

variable {platform : CapturePlatform} {topic : String}

theorem inspectGuarded_code {ingress : TrajectoryIngress} {payload : List UInt8} {code : String}
    (rejected : (inspectGuarded platform ingress topic payload).2.2 = some code) : code ≠ "" := by
  unfold inspectGuarded at rejected
  split at rejected
  · cases rejected
    exact refusal_ne_empty _
  · split at rejected
    · cases rejected
      exact refusal_ne_empty _
    · cases rejected

theorem reason_accepted {rejected : Option String} (position : Option NormalizedPosition)
    (nonempty : ∀ code, rejected = some code → code ≠ "") :
    (boundedText 1 128).accepts (.str (reasonCode rejected position)) =
      rejected.all (lengthBetween 0 128) := by
  cases rejected with
  | some code =>
    have least := utf16_ne_nil (nonempty code rfl)
    simp [reasonCode, boundedText, accepts, lengthBetween, least]
  | none =>
    cases position with
    | none => decide
    | some value =>
      change (boundedText 1 128).accepts (.str "POSITION_NORMALIZED") = true
      decide

theorem reported_utc (platform : CapturePlatform) (decoded : Option Json) :
    (originalReportedTime platform decoded).bind ReportedTime.normalizedUtc =
      (reportedInstant platform decoded).map Instant.toISOString := by
  unfold originalReportedTime reportedInstant
  cases (decoded.filter record).bind stampOf with
  | none => rfl
  | some found =>
    obtain ⟨field, stamp⟩ := found
    simp only [Option.bind_some]
    split
    · rfl
    · rfl

theorem originalField_short {decoded : Option Json} {time : ReportedTime}
    (reported : originalReportedTime platform decoded = some time) :
    lengthBetween 1 256 time.originalField = true ∧
      lengthBetween 0 4096 time.rawValueJson = true := by
  unfold originalReportedTime at reported
  cases found : (decoded.filter record).bind stampOf with
  | none =>
    rw [found] at reported
    cases reported
  | some entry =>
    obtain ⟨field, stamp⟩ := entry
    have named : field ∈ ["/header/stamp", "stamp", "time_us", "timestamp_us", "timestamp",
        "time"] := by
      obtain ⟨message, _, isStamp⟩ := Option.bind_eq_some_iff.mp found
      unfold stampOf at isStamp
      split at isStamp
      · cases isStamp
        simp
      · obtain ⟨key, member, isKey⟩ := List.exists_of_findSome?_eq_some isStamp
        obtain ⟨value, _, isPair⟩ := Option.map_eq_some_iff.mp isKey
        cases isPair
        exact List.mem_cons_of_mem _ member
    rw [found] at reported
    simp only at reported
    split at reported
    · cases reported
    · rename_i short
      cases reported
      constructor
      · revert named
        have each : ∀ name ∈ ["/header/stamp", "stamp", "time_us", "timestamp_us", "timestamp",
            "time"], lengthBetween 1 256 ("decoded-message:" ++
              (if name = "/header/stamp" then name else "/" ++ name)) = true := by
          decide
        exact each field
      · have fits := Nat.le_of_not_lt short
        simp [lengthBetween, fits]

theorem toISOString_ends (instant : Instant) :
    (instant.toISOString.toList.getLast? == some 'Z') = true := by
  obtain ⟨year, month, day, isCivil⟩ :
      ∃ year month day, Calendar.civil (Int.fdiv (Int.fdiv instant 1000) 86400000) =
        (year, month, day) := ⟨_, _, _, rfl⟩
  rw [Instant.toISOString_toList instant isCivil, List.getLast?_concat]
  rfl

theorem reportedTime_accepted (faithful : platform.Faithful) (decoded : Option Json) :
    (nullable (ReportedTimeSchema platform.formats)).accepts
        (((originalReportedTime platform decoded).map ReportedTime.toJson).getD .null) =
      (reportedInstant platform decoded).all fun instant =>
        decide (0 ≤ utcYear instant ∧ utcYear instant ≤ 9999) := by
  have sameUtc := reported_utc platform decoded
  cases reported : originalReportedTime platform decoded with
  | none =>
    rw [reported] at sameUtc
    have absent : reportedInstant platform decoded = none :=
      Option.map_eq_none_iff.mp sameUtc.symm
    rw [absent]
    rfl
  | some time =>
    obtain ⟨fieldFits, rawFits⟩ := originalField_short reported
    rw [reported] at sameUtc
    change time.normalizedUtc = _ at sameUtc
    have units : time.unit.text = "ISO8601" ∨ time.unit.text = "EPOCH_MICROSECONDS" ∨
        time.unit.text = "MICROSECONDS_UNSPECIFIED_EPOCH" ∨
          time.unit.text = "ROS_SECONDS_NANOSECONDS" ∨ time.unit.text = "UNKNOWN" := by
      cases time.unit with
      | iso8601 | rosSecondsNanoseconds | microsecondsUnspecifiedEpoch | unknown => decide
    have qualities : time.quality.text = "REPORTED_UNVERIFIED" ∨
        time.quality.text = "UNKNOWN_TIMEBASE" ∨ time.quality.text = "INVALID" ∨
          time.quality.text = "REPORTED_CLOCK_REGRESSION" := by
      cases time.quality with
      | reportedUnverified | unknownTimebase | invalid => decide
    have conversion : lengthBetween 0 512
        "LEXICAL_ISO8601_TO_UTC_ONLY; NO_DEVICE_CLOCK_CALIBRATION" = true := by
      decide
    cases instant : reportedInstant platform decoded with
    | none =>
      rw [instant] at sameUtc
      change time.normalizedUtc = none at sameUtc
      rw [Bool.eq_iff_iff]
      simp [ReportedTime.toJson, ReportedTimeSchema, accepts, acceptsMembers,
        Json.lookup, required, Json.Distinct, boundedText, sameUtc, nullableText, fieldFits,
        rawFits, units, qualities]
    | some value =>
      rw [instant] at sameUtc
      change time.normalizedUtc = some value.toISOString at sameUtc
      have utcAccepted : (utc platform.formats).accepts (.str value.toISOString) =
          decide (0 ≤ utcYear value ∧ utcYear value ≤ 9999) := by
        simp only [utc, accepts, List.all_cons, List.all_nil, toISOString_ends,
          Bool.and_true]
        exact faithful.years value
      rw [Bool.eq_iff_iff]
      simp [ReportedTime.toJson, ReportedTimeSchema, accepts, acceptsMembers,
        Json.lookup, required, Json.Distinct, boundedText, sameUtc, nullableText, fieldFits,
        rawFits, units, qualities, conversion, utcAccepted]

theorem disposition_accepted (rejected : Option String) (position : Option NormalizedPosition) :
    (oneOf ["POSITION_OBSERVATION", "NO_POSITION", "REJECTED"]).accepts
      (.str (disposition rejected position)) = true := by
  cases rejected with
  | some code =>
    change (oneOf ["POSITION_OBSERVATION", "NO_POSITION", "REJECTED"]).accepts
      (.str "REJECTED") = true
    decide
  | none =>
    cases position with
    | some value =>
      change (oneOf ["POSITION_OBSERVATION", "NO_POSITION", "REJECTED"]).accepts
        (.str "POSITION_OBSERVATION") = true
      decide
    | none => decide

theorem topic_accepted (admitted : topic ∈ trajectorySourceTopics) :
    (boundedText 1 256).accepts (.str topic) = true := by
  revert topic
  decide

end Acceptance

/-- The schema has room for a receipt exactly where every field that is taken from the callback
and from the message fits. -/
theorem receipt_accepted {platform : CapturePlatform} (faithful : platform.Faithful)
    (ingress : TrajectoryIngress) {topic : String} (admitted : topic ∈ trajectorySourceTopics)
    (payload : List UInt8) (entrance : ReceptionEntrance) (evidenceClass : EvidenceClass) :
    (ReceptionReceiptSchema platform.formats).accepts
        (receiptJson platform ingress topic payload entrance evidenceClass) =
      (entrance.wellFormed platform.formats &&
        representable platform ingress topic payload) := by
  have code := fun code (rejected : (inspectGuarded platform ingress topic payload).2.2 =
    some code) => inspectGuarded_code rejected
  unfold receiptJson representable
  dsimp only
  generalize inspectGuarded platform ingress topic payload = inspected at code ⊢
  obtain ⟨decoded, inspected, rejected⟩ := inspected
  dsimp only at code ⊢
  have position : (nullable (.object [
      required "longitude" (.number [platform.formats.atLeast (-180), platform.formats.atMost 180]),
      required "latitude" (.number [platform.formats.atLeast (-90), platform.formats.atMost 90]),
      optional "altitude" (.number []),
      required "crs" (.literal "OGC:CRS84"),
      required "derivation" (.literal "VERSIONED_PROVIDER_NORMALIZER")])).accepts
        (((inspected.bind Inspection.position).map NormalizedPosition.toJson).getD .null) =
      (inspected.bind Inspection.position).all
        (NormalizedPosition.onEarth platform.formats) := by
    cases inspected.bind Inspection.position with
    | none => rfl
    | some value => exact position_accepted value
  have evidence : (oneOf ["SIMULATED", "UNQUALIFIED_SOURCE"]).accepts
      (.str evidenceClass.text) = true := by
    cases evidenceClass with
    | simulated | unqualifiedSource => decide
  have digest : Sha256Schema.accepts (.str (platform.historySha256 payload)) = true := by
    simp only [Sha256Schema, accepts, List.all_cons, List.all_nil,
      faithful.digests payload, Bool.and_true]
  refine (accepts_required [
    ("schemaVersion", .literal "ugv.trajectory-reception/1.0", _),
    ("receptionId", uuid platform.formats, .str entrance.receptionId),
    ("sessionId", uuid platform.formats, .str entrance.sessionId),
    ("sourceTopic", boundedText 1 256, .str topic),
    ("originalMessageSha256", Sha256Schema, .str (platform.historySha256 payload)),
    ("originalMessageBytes", nonnegativeInt platform.formats, .num (toString payload.length)),
    ("originalMessageReference", boundedText 1 512,
      .str ("mqtt-wire:sha256:" ++ platform.historySha256 payload)),
    ("providerReceivedAt", ReceptionTimeSchema platform.formats, entrance.timeJson),
    ("reportedTime", .nullable (ReportedTimeSchema platform.formats),
      ((originalReportedTime platform decoded).map ReportedTime.toJson).getD .null),
    ("deviceAcquisitionTime", .null, .null),
    ("deviceClockAttribution", .literal "NOT_ATTESTED_BY_PRODUCER_CONTRACT", _),
    ("sourceReportedSequence", .nullable (boundedText 0 256),
      nullableText (reportedSequence decoded)),
    ("sourceProducerEpoch", .null, .null),
    ("transport", transportSchema platform.formats, entrance.transportJson),
    ("disposition", .oneOf ["POSITION_OBSERVATION", "NO_POSITION", "REJECTED"], _),
    ("reasonCode", boundedText 1 128, _),
    ("position", _, ((inspected.bind Inspection.position).map NormalizedPosition.toJson).getD .null),
    ("reportedMission", _, missionJson (inspected.bind Inspection.missionId)),
    ("evidenceClass", .oneOf ["SIMULATED", "UNQUALIFIED_SOURCE"], .str evidenceClass.text),
    ("diagnostics", .array 0 32 (boundedText 1 128), _)] (by simp)).trans ?_
  simp only [List.all_cons, List.all_nil, topic_accepted admitted, digest,
    faithful.counts payload.length, reference_accepted (faithful.digests payload),
    reportedTime_accepted faithful decoded, sequence_accepted, disposition_accepted,
    reason_accepted (inspected.bind Inspection.position) code, position, mission_accepted, evidence,
    diagnostics_accepted]
  have ids (text : String) :
      (uuid platform.formats).accepts (.str text) = platform.formats.uuid text := by
    simp [uuid, accepts]
  have version : (literal "ugv.trajectory-reception/1.0").accepts
      (.str "ugv.trajectory-reception/1.0") = true := rfl
  have attribution : (literal "NOT_ATTESTED_BY_PRODUCER_CONTRACT").accepts
      (.str "NOT_ATTESTED_BY_PRODUCER_CONTRACT") = true := rfl
  have nothing : Schema.null.accepts Json.null = true := rfl
  rw [version, attribution, nothing, ids, ids, ReceptionEntrance.wellFormed, Bool.eq_iff_iff]
  simp only [Bool.and_eq_true]
  tauto

/-- The message is recorded, and as rejected where a guarded step refuses it. -/
def Records (platform : CapturePlatform) (ingress : TrajectoryIngress) (topic : String)
    (payload : List UInt8) (entrance : ReceptionEntrance) (evidenceClass : EvidenceClass) : Prop :=
  ∃ receipt, captureTrajectoryReceipt platform ingress topic payload entrance evidenceClass =
      some receipt ∧
    (ReceptionReceiptSchema platform.formats).accepts receipt = true ∧
      ((inspectGuarded platform ingress topic payload).2.2.isSome = true →
        receipt.field? "disposition" = some (.str "REJECTED"))

/-- A message is recorded exactly where what is taken from it fits the schema. -/
theorem captureTrajectoryReceipt_records_iff {platform : CapturePlatform}
    (faithful : platform.Faithful) (ingress : TrajectoryIngress) {topic : String}
    (admitted : topic ∈ trajectorySourceTopics) (payload : List UInt8)
    (entrance : ReceptionEntrance) (evidenceClass : EvidenceClass) :
    Records platform ingress topic payload entrance evidenceClass ↔
      entrance.wellFormed platform.formats = true ∧
        representable platform ingress topic payload = true := by
  have accepted := receipt_accepted faithful ingress admitted payload entrance evidenceClass
  rw [← Bool.and_eq_true, ← accepted]
  unfold Records captureTrajectoryReceipt
  constructor
  · rintro ⟨receipt, captured, _⟩
    by_cases fits : (ReceptionReceiptSchema platform.formats).accepts
        (receiptJson platform ingress topic payload entrance evidenceClass) = true
    · exact fits
    · rw [if_neg fits] at captured
      cases captured
  · intro fits
    refine ⟨_, if_pos fits, fits, ?_⟩
    intro rejected
    obtain ⟨code, isCode⟩ := Option.isSome_iff_exists.mp rejected
    unfold receiptJson
    dsimp only
    generalize inspectGuarded platform ingress topic payload = inspected at isCode
    obtain ⟨decoded, observed, refused⟩ := inspected
    change refused = some code at isCode
    subst isCode
    rfl

namespace CaptureSample

/-- The number tests for the texts of natural numbers, and the first letter of a datetime. -/
def formats : Formats := {
  uuid := fun text => decide (text.toList.length = 36)
  datetime := fun text => text.toList.head?.any Char.isDigit
  int := fun text => text.toList.all Char.isDigit
  atLeast := fun least text => decide (least ≤ (bigInt text : Int))
  atMost := fun most text => decide ((bigInt text : Int) ≤ most)
}

def platform (message : Json) (digest : String) (milliseconds : Int) : CapturePlatform := {
  formats := formats
  offsetDatetime := fun text =>
    text ∈ ["2026-10-12T00:00:00Z", "0000-01-01T00:00:00+14:00"]
  reader := {
    parse := fun text => if text = message.stringify then some message else none
    utf8 := fun bytes => String.ofList (bytes.map fun byte => Char.ofNat byte.toNat)
  }
  dateParse := fun _ => some milliseconds
  historySha256 := fun _ => digest
}

def ingress (inspected : Inspection) : TrajectoryIngress := {
  wireMode := .auto
  limits := {
    maxPayloadBytes := 262144
    maxDepth := 16
    maxNodes := 4096
    maxStringBytes := 65536
  }
  inspectMessage := fun _ _ => .ok inspected
}

def entrance : ReceptionEntrance := {
  receptionId := "00000000-0000-4000-8000-000000000001"
  sessionId := "00000000-0000-4000-8000-000000000002"
  receivedUtc := "2026-10-12T00:00:00.001Z"
  monotonicNanoseconds := "1"
  clockId := "provider:mqtt-process:00000000-0000-4000-8000-000000000003"
  qos := 1
  packetId := some 1
  duplicateDeliveryHint := false
  retainedDelivery := false
}

def bytes (message : Json) : List UInt8 :=
  message.stringify.toList.map fun char => UInt8.ofNat char.toNat

def position : NormalizedPosition := {
  longitude := "116"
  latitude := "39"
  altitude := none
}

def longText : String := String.ofList (List.replicate 257 '7')

def located (fields : List (String × Json)) : Json :=
  .obj (fields ++ [("longitude", .num "116"), ("latitude", .num "39")])

def ordinary : Json :=
  located [("header", .obj [("stamp", .str "2026-10-12T00:00:00Z"), ("seq", .num "7")])]

def longSequence : Json := located [("seq", .str longText)]

def longMission : Json :=
  .obj [("chassis_task", .obj [("id", .str longText), ("type", .num "1"), ("state", .num "1")])]

def yearBeforeZero : Json :=
  located [("header", .obj [("stamp", .str "0000-01-01T00:00:00+14:00")])]

def recorded (message : Json) (digest : String) (milliseconds : Int) (topic : String)
    (inspected : Inspection) : Bool :=
  (captureTrajectoryReceipt (platform message digest milliseconds) (ingress inspected) topic
    (bytes message) entrance .unqualifiedSource).isSome

theorem counts_accepted (count : Nat) :
    (nonnegativeInt formats).accepts (.num (toString count)) = true := by
  have digits : (toString count).toList.all Char.isDigit = true :=
    List.all_eq_true.mpr (isDigits_toString count)
  have positive : decide ((0 : Int) ≤ (bigInt (toString count) : Int)) = true :=
    decide_eq_true (Int.natCast_nonneg _)
  simp only [nonnegativeInt, accepts, finiteText_toString, formats, digits, positive,
    List.all_cons, List.all_nil, Bool.and_true]

theorem years_accepted (instant : Instant) :
    formats.datetime instant.toISOString =
      decide (0 ≤ utcYear instant ∧ utcYear instant ≤ 9999) := by
  obtain ⟨year, month, day, isCivil⟩ :
      ∃ year month day, Calendar.civil (Int.fdiv (Int.fdiv instant 1000) 86400000) =
        (year, month, day) := ⟨_, _, _, rfl⟩
  have isYear : utcYear instant = year := by
    unfold utcYear
    rw [isCivil]
  have asked : formats.datetime instant.toISOString =
      instant.toISOString.toList.head?.any Char.isDigit := by
    simp only [formats]
  have first (char : Char) (rest : List Char)
      (isText : (Instant.yearText year).toList = char :: rest) :
      instant.toISOString.toList.head? = some char := by
    rw [Instant.toISOString_toList instant isCivil, isText]
    rfl
  rw [asked, isYear]
  by_cases four : 0 ≤ year ∧ year ≤ 9999
  · have isText : (Instant.yearText year).toList = padded 4 year.toNat := by
      rw [Instant.yearText, if_pos four, Instant.padded, String.toList_ofList]
    have length : (padded 4 year.toNat).length = 4 :=
      length_padded (by decide) (by omega)
    have digits := isDigits_padded 4 year.toNat
    cases padded : padded 4 year.toNat with
    | nil =>
      rw [padded] at length
      cases length
    | cons char rest =>
      rw [padded] at digits
      rw [first char rest (isText.trans padded), decide_eq_true four]
      exact digits char List.mem_cons_self
  · rw [decide_eq_false four]
    by_cases negative : year < 0
    · rw [first '-' (padded 6 year.natAbs)]
      · rfl
      · rw [Instant.yearText, if_neg four, if_pos negative]
        simp [Instant.padded]
    · rw [first '+' (padded 6 year.toNat)]
      · rfl
      · rw [Instant.yearText, if_neg four, if_neg negative]
        simp [Instant.padded]

theorem platform_faithful {message : Json} {digest : String} {milliseconds : Int}
    (isDigest : sha256Pattern digest = true) :
    (platform message digest milliseconds).Faithful := {
  counts := counts_accepted
  years := years_accepted
  digests := fun _ => isDigest }

theorem captureTrajectoryReceipt_records_sample :
    Records (platform ordinary "24a62b32e711deebefe0ed446832efc038ba2c055d093802c567866b18f0e9e2" 1791763200000)
      (ingress {
        position := some position
        missionId := none }) "/ugv/gnss" (bytes ordinary) entrance .unqualifiedSource :=
  (captureTrajectoryReceipt_records_iff (platform_faithful (by decide))
    _ (by decide) _ _ _).mpr (by decide)

theorem recorded_of_representable {message : Json} {digest topic : String} {milliseconds : Int}
    {inspected : Inspection} (isDigest : sha256Pattern digest = true)
    (admitted : topic ∈ trajectorySourceTopics)
    (refused : representable (platform message digest milliseconds) (ingress inspected) topic
      (bytes message) = false) : recorded message digest milliseconds topic inspected = false := by
  have faithful : (platform message digest milliseconds).Faithful := platform_faithful isDigest
  have accepted := receipt_accepted faithful (ingress inspected) admitted (bytes message) entrance
    .unqualifiedSource
  rw [refused, Bool.and_false] at accepted
  unfold recorded captureTrajectoryReceipt
  dsimp only
  rw [accepted]
  rfl

section Refusals

variable {platform : CapturePlatform} {ingress : TrajectoryIngress} {topic text : String}
variable {payload : List UInt8} {decoded : Option Json} {inspected : Inspection}

theorem refused_of_sequence
    (seen : inspectGuarded platform ingress topic payload = (decoded, some inspected, none))
    (reported : reportedSequence decoded = some text) (long : lengthBetween 0 256 text = false) :
    representable platform ingress topic payload = false := by
  unfold representable
  rw [seen]
  simp only [reported, Option.all_some, long, Bool.and_false, Bool.false_and]

theorem refused_of_mission
    (seen : inspectGuarded platform ingress topic payload = (decoded, some inspected, none))
    (named : inspected.missionId = some text) (long : lengthBetween 0 256 text = false) :
    representable platform ingress topic payload = false := by
  unfold representable
  rw [seen]
  simp only [Option.bind_some, named, Option.all_some, long, Bool.and_false, Bool.false_and]

end Refusals

section LongTexts

variable {message : Json} {text digest topic : String} {milliseconds : Int} {inspected : Inspection}

theorem utf8_bytes (plain : ∀ char ∈ message.stringify.toList, char.toNat < 256) :
    (platform message digest milliseconds).reader.utf8 (bytes message) = message.stringify := by
  have kept : (bytes message).map (fun byte => Char.ofNat byte.toNat) =
      message.stringify.toList := by
    unfold bytes
    rw [List.map_map]
    conv_rhs => rw [← List.map_id message.stringify.toList]
    apply List.map_congr_left
    intro char member
    have small : (UInt8.ofNat char.toNat).toNat = char.toNat :=
      Nat.mod_eq_of_lt (plain char member)
    rw [Function.comp_apply, small, Char.ofNat_toNat, id]
  unfold platform
  dsimp only
  rw [kept, String.ofList_toList]

theorem inspect_direct (plain : ∀ char ∈ message.stringify.toList, char.toNat < 256)
    (fits : message.stringify.toList.length ≤ 262144)
    (valid : validateJsonShape (ingress inspected).limits message = .ok ())
    (bare : hasOwn "data" message = false) (direct : directDomain message = true) :
    inspectGuarded (platform message digest milliseconds) (ingress inspected) topic
      (bytes message) = (some message, some inspected, none) := by
  have length : (bytes message).length = message.stringify.toList.length := List.length_map ..
  have parsed : (platform message digest milliseconds).reader.parse message.stringify =
      some message := if_pos rfl
  have apart : pureRosEnvelope message = false := by
    unfold pureRosEnvelope
    rw [bare, Bool.false_and]
  have decoded : decodeMqttPayload (platform message digest milliseconds).reader (bytes message)
      (ingress inspected).wireMode (ingress inspected).limits = .ok (some message) := by
    unfold decodeMqttPayload
    rw [if_neg (by rw [length]; exact Nat.not_lt.mpr fits), utf8_bytes plain, parsed]
    simp only [valid, bind, Except.bind, bare, apart, direct]
    rfl
  unfold inspectGuarded
  rw [decoded]
  rfl

/-- A text of sevens is quoted as it is. -/
theorem quote_sevens (count : Nat) : quote (String.ofList (List.replicate count '7')) =
    "\"" ++ String.ofList (List.replicate count '7') ++ "\"" := by
  unfold quote
  rw [String.toList_ofList, List.flatMap_replicate]
  change "\"" ++ String.ofList (List.replicate count ['7']).flatten ++ "\"" = _
  rw [List.flatten_replicate_singleton]

theorem utf16_sevens (count : Nat) :
    (utf16 (String.ofList (List.replicate count '7'))).length = count := by
  simp [utf16]

theorem longText_long : lengthBetween 0 256 longText = false := by
  have length : (utf16 longText).length = 257 := utf16_sevens 257
  unfold lengthBetween
  rw [length]
  decide

theorem checkText_short (short : text.utf8ByteSize ≤ 65536) (nodes : Nat) :
    checkText (ingress inspected).limits text nodes = .ok nodes :=
  if_neg (Nat.not_lt.mpr short)

theorem valid_sequence (short : text.utf8ByteSize ≤ 65536) :
    validateJsonShape (ingress inspected).limits (located [("seq", .str text)]) = .ok () := by
  change ((checkText (ingress inspected).limits text 2).bind fun nodes =>
    VehicleIngress.visitFields (ingress inspected).limits
      [("longitude", .num "116"), ("latitude", .num "39")] 2 nodes).map (fun _ => ()) = _
  rw [checkText_short short]
  rfl

theorem valid_mission (short : text.utf8ByteSize ≤ 65536) :
    validateJsonShape (ingress inspected).limits (.obj [("chassis_task",
      .obj [("id", .str text), ("type", .num "1"), ("state", .num "1")])]) = .ok () := by
  change (((checkText (ingress inspected).limits text 3).bind fun nodes =>
    VehicleIngress.visitFields (ingress inspected).limits [("type", .num "1"), ("state", .num "1")] 3
      nodes).bind .ok).map (fun _ => ()) = _
  rw [checkText_short short]
  rfl

theorem longText_short : longText.utf8ByteSize ≤ 65536 := by
  decide +kernel

theorem around_longText {before after : List Char} (written : message.stringify.toList =
      before ++ (longText.toList ++ after))
    (plain : (before ++ after).all (·.toNat < 256) = true)
    (fits : (before ++ after).length ≤ 256) :
    (∀ char ∈ message.stringify.toList, char.toNat < 256) ∧
      message.stringify.toList.length ≤ 262144 := by
  have sevens : longText.toList = List.replicate 257 '7' := by
    unfold longText
    exact String.toList_ofList
  rw [written, sevens]
  constructor
  · intro char member
    have others := List.all_eq_true.mp plain
    simp only [List.mem_append, decide_eq_true_eq] at member others
    rcases member with member | member | member
    · exact others char (Or.inl member)
    · rw [List.eq_of_mem_replicate member]
      decide
    · exact others char (Or.inr member)
  · rw [List.length_append] at fits
    rw [List.length_append, List.length_append, List.length_replicate]
    omega

theorem sequence_toList (quoted : quote text = "\"" ++ text ++ "\"") :
    (located [("seq", .str text)]).stringify.toList = "\x7b\"seq\":\"".toList ++
      (text.toList ++ "\",\"longitude\":116,\"latitude\":39\x7d".toList) := by
  have split : (located [("seq", .str text)]).stringify =
      "\x7b" ++ String.intercalate "," [quote "seq" ++ ":" ++ quote text,
        quote "longitude" ++ ":" ++ "116", quote "latitude" ++ ":" ++ "39"] ++ "\x7d" := rfl
  rw [split, quoted]
  simp only [String.toList_append, String.toList_intercalate, List.map_cons, List.map_nil,
    List.intercalate_cons_cons, List.intercalate_singleton, List.append_assoc]
  rfl

theorem mission_toList (quoted : quote text = "\"" ++ text ++ "\"") :
    (Json.obj [("chassis_task",
        .obj [("id", .str text), ("type", .num "1"), ("state", .num "1")])]).stringify.toList =
      "\x7b\"chassis_task\":\x7b\"id\":\"".toList ++
        (text.toList ++ "\",\"type\":1,\"state\":1\x7d\x7d".toList) := by
  simp only [stringify, stringifyFields, quoted, String.toList_append, String.toList_intercalate,
    List.map_cons, List.map_nil, List.intercalate_cons_cons, List.intercalate_singleton,
    List.append_assoc]
  rfl

theorem direct_sequence : hasOwn "data" (located [("seq", .str text)]) = false ∧
    directDomain (located [("seq", .str text)]) = true ∧
      reportedSequence (some (located [("seq", .str text)])) = some text :=
  ⟨rfl, rfl, rfl⟩

theorem direct_mission (mission : Json) :
    hasOwn "data" (.obj [("chassis_task", mission)]) = false ∧
      directDomain (.obj [("chassis_task", mission)]) = true :=
  ⟨rfl, rfl⟩

theorem inspect_longSequence :
    inspectGuarded (platform longSequence digest milliseconds) (ingress inspected) topic
      (bytes longSequence) = (some longSequence, some inspected, none) := by
  obtain ⟨plain, fits⟩ := around_longText (sequence_toList (quote_sevens 257)) (by decide)
    (by decide)
  exact inspect_direct plain fits (valid_sequence longText_short) direct_sequence.1
    direct_sequence.2.1

theorem inspect_longMission :
    inspectGuarded (platform longMission digest milliseconds) (ingress inspected) topic
      (bytes longMission) = (some longMission, some inspected, none) := by
  obtain ⟨plain, fits⟩ := around_longText (mission_toList (quote_sevens 257)) (by decide)
    (by decide)
  exact inspect_direct plain fits (valid_mission longText_short) (direct_mission _).1
    (direct_mission _).2

end LongTexts

/-- A sequence text and a mission id of 257 characters, and a stamp whose UTC form has no year of
four digits, each throw. -/
theorem captureTrajectoryReceipt_throws :
    recorded longSequence "55d590bf79f8a75da94d5178bc614e3f47dcac44d430f6913faf44d10602f041" 0 "/ugv/gnss" {
        position := some position
        missionId := none } = false ∧
      recorded longMission "f9fb6f11ffaf24ae4d74bbd3a8e59e02b6954479abf44de643d60a3872d85d8e" 0 "/ugv/status" {
          position := none
          missionId := some longText } = false ∧
        recorded yearBeforeZero "235f77a19718731f816673de025dcbf488aadd8c6e1bf39261d196b63c3a9859" (-62167269600000) "/ugv/gnss" {
            position := some position
            missionId := none } = false := by
  refine ⟨?_, ?_, ?_⟩
  · apply recorded_of_representable (by decide) (by decide)
    exact refused_of_sequence inspect_longSequence direct_sequence.2.2 longText_long
  · apply recorded_of_representable (by decide) (by decide)
    exact refused_of_mission inspect_longMission rfl longText_long
  · exact recorded_of_representable (by decide) (by decide) (by decide)

end CaptureSample

end TrajectoryHistory

end SdarRuntime
