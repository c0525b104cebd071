import SdarRuntime.Library.DecimalText
import SdarRuntime.Library.Schema
import Mathlib.Data.Nat.Digits.Defs

/-!
The public contract of the trajectory reception history: receipts, the entries of a stream's
chain, and the signed manifest of a range of it. The formats and number tests of the schema
library are parameters.
-/

namespace SdarRuntime

namespace TrajectoryHistory

def chainAlgorithm : String := "SMPP_CANONICAL_JSON_SHA256_CHAIN_V1"

structure Formats where
  uuid : String → Bool
  datetime : String → Bool
  int : String → Bool
  atLeast : Int → String → Bool
  atMost : Int → String → Bool

/-- `BigInt(text)` of a text of digits. -/
def bigInt (text : String) : Nat := Nat.ofDigitChars 10 text.toList 0

/-- `^(0|[1-9][0-9]{0,18})$` -/
def decimalPattern (text : String) : Bool :=
  match text.toList with
  | [] => false
  | ['0'] => true
  | first :: rest =>
    first.isDigit && first != '0' && rest.all Char.isDigit && decide (rest.length ≤ 18)

def decimalSequence (text : String) : Bool :=
  decimalPattern text && decide (bigInt text ≤ 9223372036854775807)

def hexDigit (char : Char) : Bool :=
  char.isDigit || (decide ('a' ≤ char) && decide (char ≤ 'f'))

/-- `^[a-f0-9]{64}$` -/
def sha256Pattern (text : String) : Bool :=
  decide (text.toList.length = 64) && text.toList.all hexDigit

/-- `^[A-Za-z0-9_-]{86}$` -/
def signaturePattern (text : String) : Bool :=
  decide (text.toList.length = 86) &&
    text.toList.all fun char => char.isAlphanum || char == '_' || char == '-'

def DecimalSequenceSchema : Schema := .string [decimalSequence]

def PositiveSequenceSchema : Schema := .string [decimalSequence, fun text => text != "0"]

def Sha256Schema : Schema := .string [sha256Pattern]

/-- `z.string().min(least).max(most)` -/
def boundedText (least most : Nat) : Schema := .string [Schema.lengthBetween least most]

def required (key : String) (schema : Schema) : String × Bool × Schema := (key, true, schema)

def optional (key : String) (schema : Schema) : String × Bool × Schema := (key, false, schema)

section Schemas

variable (formats : Formats)

def utc : Schema :=
  .string [formats.datetime, fun text => text.toList.getLast? == some 'Z']

def uuid : Schema := .string [formats.uuid]

def nonnegativeInt : Schema := .number [formats.int, formats.atLeast 0]

def ReceptionScopeSchema : Schema := .object [
  required "providerId" (boundedText 1 256),
  required "resourceId" (boundedText 1 256),
  required "deviceId" (boundedText 1 256),
  required "deviceIdentityAuthority"
    (.oneOf ["GOWM_DEVICE_BINDING", "PROVIDER_RESOURCE_CONFIGURATION"]),
  required "streamId" (uuid formats),
  required "sourceSessionKey" (boundedText 1 256),
  optional "smppServiceKey" (boundedText 1 256),
  optional "bindingId" (uuid formats)]

def ReceptionTimeSchema : Schema := .object [
  required "utc" (utc formats),
  required "owner" (.literal "PROVIDER_MQTT_MESSAGE_CALLBACK"),
  required "clockId" (boundedText 1 256),
  required "resolution" (.literal "MILLISECOND"),
  required "synchronization" (.literal "UNVERIFIED"),
  required "accuracyBoundMilliseconds" .null,
  required "processMonotonicNanoseconds"
    (.string [fun text => text.toList != [] && text.toList.all Char.isDigit])]

def ReportedTimeSchema : Schema := .object [
  required "originalField" (boundedText 1 256),
  required "rawValueJson" (boundedText 0 4096),
  required "valueProvenance" (.literal "DECODED_JSON_VALUE_NOT_ORIGINAL_WIRE_LEXEME"),
  required "unit" (.oneOf ["ISO8601", "EPOCH_MICROSECONDS", "MICROSECONDS_UNSPECIFIED_EPOCH",
    "ROS_SECONDS_NANOSECONDS", "UNKNOWN"]),
  required "timeBase" (.oneOf ["REPORTED_UNIX_EPOCH", "UNKNOWN"]),
  required "reportedClockOwner" (.literal "MESSAGE_PRODUCER_UNVERIFIED"),
  required "normalizedUtc" (.nullable (utc formats)),
  required "conversion" (.nullable (boundedText 0 512)),
  required "calibration" .null,
  required "quality"
    (.oneOf ["REPORTED_UNVERIFIED", "UNKNOWN_TIMEBASE", "INVALID", "REPORTED_CLOCK_REGRESSION"])]

def ReceptionReceiptSchema : Schema := .object [
  required "schemaVersion" (.literal "ugv.trajectory-reception/1.0"),
  required "receptionId" (uuid formats),
  required "sessionId" (uuid formats),
  required "sourceTopic" (boundedText 1 256),
  required "originalMessageSha256" Sha256Schema,
  required "originalMessageBytes" (nonnegativeInt formats),
  required "originalMessageReference" (boundedText 1 512),
  required "providerReceivedAt" (ReceptionTimeSchema formats),
  required "reportedTime" (.nullable (ReportedTimeSchema formats)),
  required "deviceAcquisitionTime" .null,
  required "deviceClockAttribution" (.literal "NOT_ATTESTED_BY_PRODUCER_CONTRACT"),
  required "sourceReportedSequence" (.nullable (boundedText 0 256)),
  required "sourceProducerEpoch" .null,
  required "transport" (.object [
    required "qos" (.number [formats.int, formats.atLeast 0, formats.atMost 2]),
    required "packetId"
      (.nullable (.number [formats.int, formats.atLeast 1, formats.atMost 65535])),
    required "duplicateDeliveryHint" .boolean,
    required "retainedDelivery" .boolean]),
  required "disposition" (.oneOf ["POSITION_OBSERVATION", "NO_POSITION", "REJECTED"]),
  required "reasonCode" (boundedText 1 128),
  required "position" (.nullable (.object [
    required "longitude" (.number [formats.atLeast (-180), formats.atMost 180]),
    required "latitude" (.number [formats.atLeast (-90), formats.atMost 90]),
    optional "altitude" (.number []),
    required "crs" (.literal "OGC:CRS84"),
    required "derivation" (.literal "VERSIONED_PROVIDER_NORMALIZER")])),
  required "reportedMission" (.nullable (.object [
    required "missionId" (boundedText 1 256),
    required "provenance" (.literal "SAME_ORIGINAL_MESSAGE"),
    required "producerEpoch" .null,
    required "executionOwnership" (.literal "NOT_ATTESTED")])),
  required "evidenceClass" (.oneOf ["SIMULATED", "UNQUALIFIED_SOURCE"]),
  required "diagnostics" (.array 0 32 (boundedText 1 128))]

def ReceptionEntrySchema : Schema := .object [
  required "sequence" PositiveSequenceSchema,
  required "previousHash" Sha256Schema,
  required "hash" Sha256Schema,
  required "receipt" (ReceptionReceiptSchema formats),
  required "recordedAt" (utc formats),
  required "recordingClockOwner" (.literal "POSTGRESQL_RECORD_INSERTION_CLOCK"),
  required "recordingResolution" (.literal "MICROSECOND"),
  required "exactTransactionCommittedAt" .null]

def completeness : Schema := .object [
  required "status" (.oneOf ["complete", "incomplete", "unknown"]),
  required "reasons" (.array 0 32 (boundedText 1 128))]

/-- The shape of a manifest; `HistoryManifest.consistent` is its refinement. -/
def ManifestShape : Schema := .object [
  required "schemaVersion" (.literal "ugv.trajectory-history-manifest/1.0"),
  required "scope" (ReceptionScopeSchema formats),
  required "snapshotId" (uuid formats),
  required "capturedFromSequence" PositiveSequenceSchema,
  required "capturedFromRecordingTime" (utc formats),
  required "activationClockOwner" (.literal "POSTGRESQL_STREAM_CREATION_CLOCK"),
  required "guaranteedSinceHistoryVersion" (.literal "1.0"),
  required "fromSequence" PositiveSequenceSchema,
  required "throughSequence" DecimalSequenceSchema,
  required "highWatermark" DecimalSequenceSchema,
  required "retainedEntryCount" DecimalSequenceSchema,
  required "expectedOrdinalCount" DecimalSequenceSchema,
  required "previousHash" (.nullable Sha256Schema),
  required "terminalHash" (.nullable Sha256Schema),
  required "chainAlgorithm" (.literal chainAlgorithm),
  required "ordering" (.literal "DURABLE_PROVIDER_RECEIPT_SEQUENCE"),
  required "deduplication" (.literal "RECEPTIONS_NOT_COLLAPSED_INTO_DEVICE_SAMPLES"),
  required "retainedHistory" completeness,
  required "providerCaptureCoverage" completeness,
  required "deviceGenerationHistory" (.object [
    required "status" (.oneOf ["incomplete", "unknown"]),
    required "reasons" (.array 1 32 (boundedText 1 128))]),
  required "legacyHistory"
    (.literal "NO_RETROACTIVE_RECEPTION_TIME_OR_DEVICE_COMPLETENESS_CLAIM"),
  required "prunedThroughSequence" DecimalSequenceSchema,
  required "recovery" (.object [
    required "uncleanSessionCount" (nonnegativeInt formats),
    required "disconnectCount" (nonnegativeInt formats),
    required "captureFailureCount" (nonnegativeInt formats)]),
  required "evidenceClass" (.oneOf ["SIMULATED", "UNQUALIFIED_SOURCE"])]

def SignedShape : Schema := .object [
  required "manifest" (ManifestShape formats),
  required "signature" (.object [
    required "algorithm" (.literal "Ed25519"),
    required "keyId" Sha256Schema,
    required "value" (.string [signaturePattern])])]

end Schemas

inductive IdentityAuthority where
  | gowmDeviceBinding
  | providerResourceConfiguration
  deriving DecidableEq

def IdentityAuthority.text : IdentityAuthority → String
  | gowmDeviceBinding => "GOWM_DEVICE_BINDING"
  | providerResourceConfiguration => "PROVIDER_RESOURCE_CONFIGURATION"

def IdentityAuthority.ofText? (text : String) : Option IdentityAuthority :=
  [gowmDeviceBinding, providerResourceConfiguration].find? fun value => value.text == text

inductive EvidenceClass where
  | simulated
  | unqualifiedSource
  deriving DecidableEq

def EvidenceClass.text : EvidenceClass → String
  | simulated => "SIMULATED"
  | unqualifiedSource => "UNQUALIFIED_SOURCE"

def EvidenceClass.ofText? (text : String) : Option EvidenceClass :=
  [simulated, unqualifiedSource].find? fun value => value.text == text

inductive CompletenessStatus where
  | complete
  | incomplete
  | unknown
  deriving DecidableEq

def CompletenessStatus.text : CompletenessStatus → String
  | complete => "complete"
  | incomplete => "incomplete"
  | unknown => "unknown"

def CompletenessStatus.ofText? (text : String) : Option CompletenessStatus :=
  [complete, incomplete, unknown].find? fun value => value.text == text

structure ReceptionScope where
  providerId : String
  resourceId : String
  deviceId : String
  deviceIdentityAuthority : IdentityAuthority
  streamId : String
  sourceSessionKey : String
  smppServiceKey : Option String
  bindingId : Option String
  deriving DecidableEq

/-- The receipt is kept as the JSON value it is; the schema has accepted it. -/
structure ReceptionEntry where
  sequence : String
  previousHash : String
  hash : String
  receipt : Json
  recordedAt : String

structure Completeness where
  status : CompletenessStatus
  reasons : List String
  deriving DecidableEq

structure Recovery where
  uncleanSessionCount : Nat
  disconnectCount : Nat
  captureFailureCount : Nat
  deriving DecidableEq

structure HistoryManifest where
  scope : ReceptionScope
  snapshotId : String
  capturedFromSequence : String
  capturedFromRecordingTime : String
  fromSequence : String
  throughSequence : String
  highWatermark : String
  retainedEntryCount : String
  expectedOrdinalCount : String
  previousHash : Option String
  terminalHash : Option String
  retainedHistory : Completeness
  providerCaptureCoverage : Completeness
  deviceGenerationHistory : Completeness
  prunedThroughSequence : String
  recovery : Recovery
  evidenceClass : EvidenceClass
  deriving DecidableEq

structure Signature where
  keyId : String
  value : String
  deriving DecidableEq

structure SignedHistoryManifest where
  manifest : HistoryManifest
  signature : Signature
  deriving DecidableEq

def optionalMember (key : String) : Option String → List (String × Json)
  | none => []
  | some text => [(key, .str text)]

def nullableText : Option String → Json
  | none => .null
  | some text => .str text

def ReceptionScope.toJson (scope : ReceptionScope) : Json :=
  .obj ([("providerId", .str scope.providerId), ("resourceId", .str scope.resourceId),
    ("deviceId", .str scope.deviceId),
    ("deviceIdentityAuthority", .str scope.deviceIdentityAuthority.text),
    ("streamId", .str scope.streamId), ("sourceSessionKey", .str scope.sourceSessionKey)] ++
    optionalMember "smppServiceKey" scope.smppServiceKey ++
    optionalMember "bindingId" scope.bindingId)

def ReceptionEntry.toJson (entry : ReceptionEntry) : Json :=
  .obj [("sequence", .str entry.sequence), ("previousHash", .str entry.previousHash),
    ("hash", .str entry.hash), ("receipt", entry.receipt), ("recordedAt", .str entry.recordedAt),
    ("recordingClockOwner", .str "POSTGRESQL_RECORD_INSERTION_CLOCK"),
    ("recordingResolution", .str "MICROSECOND"), ("exactTransactionCommittedAt", .null)]

def Completeness.toJson (completeness : Completeness) : Json :=
  .obj [("status", .str completeness.status.text),
    ("reasons", .arr (completeness.reasons.map .str))]

def Recovery.toJson (recovery : Recovery) : Json :=
  .obj [("uncleanSessionCount", .num (toString recovery.uncleanSessionCount)),
    ("disconnectCount", .num (toString recovery.disconnectCount)),
    ("captureFailureCount", .num (toString recovery.captureFailureCount))]

def HistoryManifest.toJson (manifest : HistoryManifest) : Json :=
  .obj [("schemaVersion", .str "ugv.trajectory-history-manifest/1.0"),
    ("scope", manifest.scope.toJson),
    ("snapshotId", .str manifest.snapshotId),
    ("capturedFromSequence", .str manifest.capturedFromSequence),
    ("capturedFromRecordingTime", .str manifest.capturedFromRecordingTime),
    ("activationClockOwner", .str "POSTGRESQL_STREAM_CREATION_CLOCK"),
    ("guaranteedSinceHistoryVersion", .str "1.0"),
    ("fromSequence", .str manifest.fromSequence),
    ("throughSequence", .str manifest.throughSequence),
    ("highWatermark", .str manifest.highWatermark),
    ("retainedEntryCount", .str manifest.retainedEntryCount),
    ("expectedOrdinalCount", .str manifest.expectedOrdinalCount),
    ("previousHash", nullableText manifest.previousHash),
    ("terminalHash", nullableText manifest.terminalHash),
    ("chainAlgorithm", .str chainAlgorithm),
    ("ordering", .str "DURABLE_PROVIDER_RECEIPT_SEQUENCE"),
    ("deduplication", .str "RECEPTIONS_NOT_COLLAPSED_INTO_DEVICE_SAMPLES"),
    ("retainedHistory", manifest.retainedHistory.toJson),
    ("providerCaptureCoverage", manifest.providerCaptureCoverage.toJson),
    ("deviceGenerationHistory", manifest.deviceGenerationHistory.toJson),
    ("legacyHistory", .str "NO_RETROACTIVE_RECEPTION_TIME_OR_DEVICE_COMPLETENESS_CLAIM"),
    ("prunedThroughSequence", .str manifest.prunedThroughSequence),
    ("recovery", manifest.recovery.toJson),
    ("evidenceClass", .str manifest.evidenceClass.text)]

def SignedHistoryManifest.toJson (signed : SignedHistoryManifest) : Json :=
  .obj [("manifest", signed.manifest.toJson),
    ("signature", .obj [("algorithm", .str "Ed25519"), ("keyId", .str signed.signature.keyId),
      ("value", .str signed.signature.value)])]

/-! ### Parsing

A schema accepts or refuses the value; what it accepts is then read member by member.
-/

def textMember (key : String) (value : Json) : Option String :=
  (value.field? key).bind Json.text?

def nullableMember (key : String) (value : Json) : Option (Option String) :=
  match value.field? key with
  | some .null => some none
  | some (.str text) => some (some text)
  | _ => none

def numberMember (key : String) (value : Json) : Option Nat :=
  match value.field? key with
  | some (.num text) => some (bigInt text)
  | _ => none

def textItems : Json → Option (List String)
  | .arr items => items.mapM Json.text?
  | _ => none

def ReceptionScope.read (value : Json) : Option ReceptionScope := do
  return {
    providerId := ← textMember "providerId" value
    resourceId := ← textMember "resourceId" value
    deviceId := ← textMember "deviceId" value
    deviceIdentityAuthority :=
      ← (textMember "deviceIdentityAuthority" value).bind IdentityAuthority.ofText?
    streamId := ← textMember "streamId" value
    sourceSessionKey := ← textMember "sourceSessionKey" value
    smppServiceKey := textMember "smppServiceKey" value
    bindingId := textMember "bindingId" value }

def ReceptionEntry.read (value : Json) : Option ReceptionEntry := do
  return {
    sequence := ← textMember "sequence" value
    previousHash := ← textMember "previousHash" value
    hash := ← textMember "hash" value
    receipt := ← value.field? "receipt"
    recordedAt := ← textMember "recordedAt" value }

def Completeness.read (value : Json) : Option Completeness := do
  return {
    status := ← (textMember "status" value).bind CompletenessStatus.ofText?
    reasons := ← (value.field? "reasons").bind textItems }

def Recovery.read (value : Json) : Option Recovery := do
  return {
    uncleanSessionCount := ← numberMember "uncleanSessionCount" value
    disconnectCount := ← numberMember "disconnectCount" value
    captureFailureCount := ← numberMember "captureFailureCount" value }

def HistoryManifest.read (value : Json) : Option HistoryManifest := do
  return {
    scope := ← (value.field? "scope").bind ReceptionScope.read
    snapshotId := ← textMember "snapshotId" value
    capturedFromSequence := ← textMember "capturedFromSequence" value
    capturedFromRecordingTime := ← textMember "capturedFromRecordingTime" value
    fromSequence := ← textMember "fromSequence" value
    throughSequence := ← textMember "throughSequence" value
    highWatermark := ← textMember "highWatermark" value
    retainedEntryCount := ← textMember "retainedEntryCount" value
    expectedOrdinalCount := ← textMember "expectedOrdinalCount" value
    previousHash := ← nullableMember "previousHash" value
    terminalHash := ← nullableMember "terminalHash" value
    retainedHistory := ← (value.field? "retainedHistory").bind Completeness.read
    providerCaptureCoverage := ← (value.field? "providerCaptureCoverage").bind Completeness.read
    deviceGenerationHistory := ← (value.field? "deviceGenerationHistory").bind Completeness.read
    prunedThroughSequence := ← textMember "prunedThroughSequence" value
    recovery := ← (value.field? "recovery").bind Recovery.read
    evidenceClass := ← (textMember "evidenceClass" value).bind EvidenceClass.ofText? }

def SignedHistoryManifest.read (value : Json) : Option SignedHistoryManifest := do
  let signature ← value.field? "signature"
  return {
    manifest := ← (value.field? "manifest").bind HistoryManifest.read
    signature := {
      keyId := ← textMember "keyId" signature
      value := ← textMember "value" signature } }

def HistoryManifest.consistent (manifest : HistoryManifest) : Bool :=
  let start := bigInt manifest.fromSequence
  let finish := bigInt manifest.throughSequence
  let expected := if finish < start then 0 else finish - start + 1
  decide (bigInt manifest.expectedOrdinalCount = expected) &&
  decide (finish ≤ bigInt manifest.highWatermark) &&
  (manifest.retainedHistory.status != .complete ||
    (manifest.previousHash.isSome && manifest.terminalHash.isSome &&
      manifest.retainedEntryCount == manifest.expectedOrdinalCount &&
      !(decide (0 < expected) && decide (start ≤ bigInt manifest.prunedThroughSequence))))

def ReceptionScope.parse (formats : Formats) (value : Json) : Option ReceptionScope :=
  if (ReceptionScopeSchema formats).accepts value then ReceptionScope.read value else none

def ReceptionEntry.parse (formats : Formats) (value : Json) : Option ReceptionEntry :=
  if (ReceptionEntrySchema formats).accepts value then ReceptionEntry.read value else none

def HistoryManifest.parse (formats : Formats) (value : Json) : Option HistoryManifest :=
  if (ManifestShape formats).accepts value then
    (HistoryManifest.read value).filter HistoryManifest.consistent
  else none

def SignedHistoryManifest.parse (formats : Formats) (value : Json) :
    Option SignedHistoryManifest :=
  if (SignedShape formats).accepts value then
    (SignedHistoryManifest.read value).filter fun signed => signed.manifest.consistent
  else none

@[simp] theorem bigInt_toString (number : Nat) : bigInt (toString number) = number := by
  unfold bigInt
  rw [Nat.toString_eq_ofList_toDigits, String.toList_ofList, Nat.ofDigitChars_ten_toDigits]

@[simp] theorem bigInt_repr (number : Nat) : bigInt number.repr = number :=
  bigInt_toString number

theorem isDigits_toString (number : Nat) : DecimalText.IsDigits (toString number).toList := by
  rw [Nat.toString_eq_ofList_toDigits, String.toList_ofList]
  exact DecimalText.isDigits_toDigits number

@[simp] theorem ReceptionEntry.read_toJson (entry : ReceptionEntry) :
    ReceptionEntry.read entry.toJson = some entry := by
  simp [ReceptionEntry.read, ReceptionEntry.toJson, textMember, Json.field?, Json.lookup,
    Json.text?]

end TrajectoryHistory

end SdarRuntime
