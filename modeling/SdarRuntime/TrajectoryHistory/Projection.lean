import SdarRuntime.TrajectoryHistory.Capture
import SdarRuntime.TrajectoryHistory.ReceptionChain
import SdarRuntime.Provider.BusinessContract
import Mathlib.Data.List.Chain

/-!
Evidence beside the drawn trajectory. Every revision of a trajectory artifact gets a sidecar that
says of each of its points which reception it came from; it keeps the points of the revision
before it, and it is handed out signed.
-/

namespace SdarRuntime

namespace TrajectoryHistory

open Business (TaskBusinessIdentity)

open Json

structure GeoPosition where
  numbers : List String
  two_or_three : 2 ≤ numbers.length ∧ numbers.length ≤ 3
  isFinite : numbers.all finiteText = true
  deriving DecidableEq

def coordinatesJson (numbers : List String) : Json := .arr (numbers.map .num)

def GeoPosition.toJson (position : GeoPosition) : Json := coordinatesJson position.numbers

inductive GeoGeometry where
  | point (coordinates : GeoPosition)
  | lineString (coordinates : List GeoPosition) (two : 2 ≤ coordinates.length)
  | other (geometry : Json)

def GeoGeometry.toJson : GeoGeometry → Json
  | point coordinates => .obj [("type", .str "Point"), ("coordinates", coordinates.toJson)]
  | lineString coordinates _ =>
    .obj [("type", .str "LineString"), ("coordinates", .arr (coordinates.map GeoPosition.toJson))]
  | other geometry => geometry

inductive ArtifactContent where
  | geojson (geometry : GeoGeometry)
  | other

inductive Availability where
  | available (content : ArtifactContent)
  | notAvailable

structure TaskArtifact where
  artifactType : String
  artifactId : String
  revision : Nat
  identity : TaskBusinessIdentity
  availability : Availability

def artifactInvalid : String := "TRAJECTORY_EVIDENCE_ARTIFACT_INVALID"

def artifactGeometry (artifact : TaskArtifact) : Except String GeoGeometry :=
  match artifact.availability with
  | .available (.geojson geometry) => .ok geometry
  | _ => .error artifactInvalid

def GeoGeometry.points : GeoGeometry → Except String (List GeoPosition)
  | point coordinates => .ok [coordinates]
  | lineString coordinates _ => .ok coordinates
  | other _ => .error "TRAJECTORY_EVIDENCE_GEOMETRY_INVALID"

def trajectoryCoordinates (artifact : TaskArtifact) : Except String (List GeoPosition) := do
  throwIf (artifact.artifactType ≠ "navigation.trajectory") artifactInvalid
  let points ← (← artifactGeometry artifact).points
  throwIf (points = [] ∨ 256 < points.length) "TRAJECTORY_EVIDENCE_POINT_BOUND_EXCEEDED"
  return points

section Schemas

variable (formats : Formats)

def positiveInt : Schema := .number [formats.int, formats.atLeast 1]

def ProjectionIdentitySchema : Schema := .object [
  required "taskId" (.string []),
  required "executionId" (.string []),
  required "providerId" (.string []),
  required "resourceId" (.string []),
  required "operationName" (.literal "vehicle_navigate"),
  optional "correlationId" (.string []),
  optional "simulationId" (.string [])]

def MissionBindingSchema : Schema := .object [
  required "missionId" (.nullable (.string [])),
  required "authority" (.literal "PROVIDER_CURRENT_MISSION_AND_UNIQUE_ACTIVE_EXECUTION"),
  required "deviceExecutionOwnership" (.literal "NOT_ATTESTED")]

def ReceptionLinkSchema : Schema := .object [
  required "scope" (ReceptionScopeSchema formats),
  required "receptionId" (uuid formats),
  required "sequence" PositiveSequenceSchema,
  required "entryHash" Sha256Schema,
  required "originalMessageSha256" Sha256Schema,
  required "providerReceivedAt" (ReceptionTimeSchema formats),
  required "evidenceClass" (.oneOf ["SIMULATED", "UNQUALIFIED_SOURCE"])]

def ProjectionPointSchema : Schema := .object [
  required "coordinateIndex" (.number [formats.int, formats.atLeast 0, formats.atMost 255]),
  required "coordinate" (.array 2 3 (.number [])),
  required "reception" (.nullable (ReceptionLinkSchema formats)),
  required "receptionTimeQuality"
    (.oneOf ["ENTRANCE_RECEIPT_LINKED", "UNKNOWN_LEGACY_OR_UNJOURNALED"])]

def ProjectionEvidenceSchema : Schema := .object [
  required "schemaVersion" (.literal "ugv.trajectory-artifact-evidence/1.0"),
  required "identity" ProjectionIdentitySchema,
  required "artifactId" (.string []),
  required "revision" (positiveInt formats),
  required "artifactGeometrySha256" Sha256Schema,
  required "projectionPolicy" (.literal "SAMPLED_GEOMETRY_NOT_FULL_RECEPTION_HISTORY"),
  required "sampleEveryMilliseconds" (.nullable (nonnegativeInt formats)),
  required "missionBinding" MissionBindingSchema,
  required "points" (.array 1 256 (ProjectionPointSchema formats)),
  required "deviceGenerationHistory" (.literal "UNKNOWN_PRODUCER_BOUNDARIES_NOT_ATTESTED")]

def SignatureSchema : Schema := .object [
  required "algorithm" (.literal "Ed25519"),
  required "keyId" Sha256Schema,
  required "value" (.string [signaturePattern])]

def SignedProjectionEvidenceSchema : Schema := .object [
  required "evidence" (ProjectionEvidenceSchema formats),
  required "signature" SignatureSchema]

end Schemas

inductive ReceptionTimeQuality where
  | entranceReceiptLinked
  | unknownLegacyOrUnjournaled
  deriving DecidableEq

def ReceptionTimeQuality.text : ReceptionTimeQuality → String
  | entranceReceiptLinked => "ENTRANCE_RECEIPT_LINKED"
  | unknownLegacyOrUnjournaled => "UNKNOWN_LEGACY_OR_UNJOURNALED"

def ReceptionTimeQuality.ofText? (text : String) : Option ReceptionTimeQuality :=
  [entranceReceiptLinked, unknownLegacyOrUnjournaled].find? fun value => value.text == text

abbrev ReceptionLink := List (String × Json)

structure ProjectionPoint where
  coordinateIndex : Nat
  coordinate : List String
  reception : Option ReceptionLink
  receptionTimeQuality : ReceptionTimeQuality

structure ProjectionEvidence where
  identity : TaskBusinessIdentity
  artifactId : String
  revision : Nat
  artifactGeometrySha256 : String
  sampleEveryMilliseconds : Option Nat
  missionId : Option String
  points : List ProjectionPoint

structure SignedProjectionEvidence where
  evidence : ProjectionEvidence
  signature : Signature

def identityMembers (identity : TaskBusinessIdentity) : Json :=
  .obj ([("taskId", .str identity.taskId), ("executionId", .str identity.executionId),
    ("providerId", .str identity.providerId), ("resourceId", .str identity.resourceId),
    ("operationName", .str identity.operationName)] ++
    optionalMember "correlationId" identity.correlationId ++
    optionalMember "simulationId" identity.simulationId)

def receptionJson : Option ReceptionLink → Json
  | none => .null
  | some link => .obj link

def ProjectionPoint.toJson (point : ProjectionPoint) : Json :=
  .obj [("coordinateIndex", .num (toString point.coordinateIndex)),
    ("coordinate", coordinatesJson point.coordinate),
    ("reception", receptionJson point.reception),
    ("receptionTimeQuality", .str point.receptionTimeQuality.text)]

def nullableCount : Option Nat → Json
  | none => .null
  | some count => .num (toString count)

def missionBinding (missionId : Option String) : Json :=
  .obj [("missionId", nullableText missionId),
    ("authority", .str "PROVIDER_CURRENT_MISSION_AND_UNIQUE_ACTIVE_EXECUTION"),
    ("deviceExecutionOwnership", .str "NOT_ATTESTED")]

def ProjectionEvidence.toJson (evidence : ProjectionEvidence) : Json :=
  .obj [("schemaVersion", .str "ugv.trajectory-artifact-evidence/1.0"),
    ("identity", identityMembers evidence.identity),
    ("artifactId", .str evidence.artifactId),
    ("revision", .num (toString evidence.revision)),
    ("artifactGeometrySha256", .str evidence.artifactGeometrySha256),
    ("projectionPolicy", .str "SAMPLED_GEOMETRY_NOT_FULL_RECEPTION_HISTORY"),
    ("sampleEveryMilliseconds", nullableCount evidence.sampleEveryMilliseconds),
    ("missionBinding", missionBinding evidence.missionId),
    ("points", .arr (evidence.points.map ProjectionPoint.toJson)),
    ("deviceGenerationHistory", .str "UNKNOWN_PRODUCER_BOUNDARIES_NOT_ATTESTED")]

def signatureJson (signature : Signature) : Json :=
  .obj [("algorithm", .str "Ed25519"), ("keyId", .str signature.keyId),
    ("value", .str signature.value)]

def SignedProjectionEvidence.toJson (signed : SignedProjectionEvidence) : Json :=
  .obj [("evidence", signed.evidence.toJson), ("signature", signatureJson signed.signature)]

def readIdentity (value : Json) : Option TaskBusinessIdentity := do
  return {
    taskId := ← textMember "taskId" value
    executionId := ← textMember "executionId" value
    providerId := ← textMember "providerId" value
    resourceId := ← textMember "resourceId" value
    operationName := ← textMember "operationName" value
    correlationId := textMember "correlationId" value
    simulationId := textMember "simulationId" value }

def readNumberText : Json → Option String
  | .num text => some text
  | _ => none

def readCoordinates : Json → Option (List String)
  | .arr items => items.mapM readNumberText
  | _ => none

def readReception : Json → Option (Option ReceptionLink)
  | .null => some none
  | .obj link => some (some link)
  | _ => none

def readNullableCount : Json → Option (Option Nat)
  | .null => some none
  | .num text => some (some (bigInt text))
  | _ => none

def ProjectionPoint.read (value : Json) : Option ProjectionPoint := do
  return {
    coordinateIndex := ← numberMember "coordinateIndex" value
    coordinate := ← (value.field? "coordinate").bind readCoordinates
    reception := ← (value.field? "reception").bind readReception
    receptionTimeQuality :=
      ← (textMember "receptionTimeQuality" value).bind ReceptionTimeQuality.ofText? }

def readPoints : Json → Option (List ProjectionPoint)
  | .arr items => items.mapM ProjectionPoint.read
  | _ => none

def ProjectionEvidence.read (value : Json) : Option ProjectionEvidence := do
  return {
    identity := ← (value.field? "identity").bind readIdentity
    artifactId := ← textMember "artifactId" value
    revision := ← numberMember "revision" value
    artifactGeometrySha256 := ← textMember "artifactGeometrySha256" value
    sampleEveryMilliseconds := ← (value.field? "sampleEveryMilliseconds").bind readNullableCount
    missionId := ← (value.field? "missionBinding").bind (nullableMember "missionId")
    points := ← (value.field? "points").bind readPoints }

def SignedProjectionEvidence.read (value : Json) : Option SignedProjectionEvidence := do
  let signature ← value.field? "signature"
  return {
    evidence := ← (value.field? "evidence").bind ProjectionEvidence.read
    signature := {
      keyId := ← textMember "keyId" signature
      value := ← textMember "value" signature } }

def ProjectionEvidence.parse (formats : Formats) (value : Json) : Option ProjectionEvidence :=
  if (ProjectionEvidenceSchema formats).accepts value then ProjectionEvidence.read value else none

def SignedProjectionEvidence.parse (formats : Formats) (value : Json) :
    Option SignedProjectionEvidence :=
  if (SignedProjectionEvidenceSchema formats).accepts value then
    SignedProjectionEvidence.read value
  else none

structure TrajectoryProjectionWrite where
  artifactId : String
  revision : Nat
  missionId : String
  sampleEveryMilliseconds : Nat
  receptionId : Option String
  sourceStreamId : Option String

structure LinkedReception where
  scope : ReceptionScope
  entry : ReceptionEntry

def LinkedReception.receptionId (linked : LinkedReception) : Option String :=
  textMember "receptionId" linked.entry.receipt

/-- The coordinate a receipt's position gives, `null` without a position. -/
def receiptCoordinate (receipt : Json) : Json :=
  match receipt.field? "position" with
  | some (.obj position) =>
    .arr (["longitude", "latitude", "altitude"].filterMap fun key => Json.lookup key position)
  | _ => .null

def retainedDelivery (receipt : Json) : Bool :=
  match (receipt.field? "transport").bind (field? "retainedDelivery") with
  | some (.bool retained) => retained
  | _ => false

def memberOf (key : String) (value : Json) : List (String × Json) :=
  match value.field? key with
  | some member => [(key, member)]
  | none => []

def LinkedReception.link (linked : LinkedReception) : ReceptionLink :=
  [("scope", linked.scope.toJson)] ++ memberOf "receptionId" linked.entry.receipt ++
    [("sequence", .str linked.entry.sequence), ("entryHash", .str linked.entry.hash)] ++
    memberOf "originalMessageSha256" linked.entry.receipt ++
    memberOf "providerReceivedAt" linked.entry.receipt ++
    memberOf "evidenceClass" linked.entry.receipt

/-- `historyCanonicalJson(left) !== historyCanonicalJson(right)` -/
def canonicallyDiffer (left right : Json) : Except String Bool := do
  return (← historyCanonicalJson left) != (← historyCanonicalJson right)

def checkPredecessor (artifact : TaskArtifact) (coordinates : List GeoPosition)
    (previous : ProjectionEvidence) : Except String Unit := do
  throwIf (previous.artifactId ≠ artifact.artifactId ∨
      previous.revision + 1 ≠ artifact.revision ∨
      previous.identity ≠ artifact.identity ∨
      previous.points.length + 1 ≠ coordinates.length)
    "TRAJECTORY_EVIDENCE_PREDECESSOR_MISMATCH"
  let moved ← (previous.points.zip coordinates).anyM fun (point, coordinate) =>
    canonicallyDiffer (coordinatesJson point.coordinate) coordinate.toJson
  throwIf moved "TRAJECTORY_EVIDENCE_PREDECESSOR_MISMATCH"

def checkLinked (artifact : TaskArtifact) (coordinates : List GeoPosition)
    (linked : LinkedReception) : Except String Unit := do
  throwIf (linked.scope.providerId ≠ artifact.identity.providerId ∨
      linked.scope.resourceId ≠ artifact.identity.resourceId ∨
      textMember "disposition" linked.entry.receipt ≠ some "POSITION_OBSERVATION" ∨
      retainedDelivery linked.entry.receipt = true)
    "TRAJECTORY_EVIDENCE_RECEIPT_SCOPE_OR_POSITION_MISMATCH"
  let elsewhere ← canonicallyDiffer (receiptCoordinate linked.entry.receipt)
    ((coordinates.getLast?.map GeoPosition.toJson).getD .null)
  throwIf elsewhere "TRAJECTORY_EVIDENCE_RECEIPT_SCOPE_OR_POSITION_MISMATCH"

def newPoint (coordinateIndex : Nat) (coordinate : GeoPosition) (reception : Option ReceptionLink) :
    ProjectionPoint := {
  coordinateIndex
  coordinate := coordinate.numbers
  reception
  receptionTimeQuality :=
    if reception.isSome then .entranceReceiptLinked else .unknownLegacyOrUnjournaled }

def projectionPoints (previous : Option ProjectionEvidence) (linked : Option LinkedReception)
    (coordinates : List GeoPosition) : List ProjectionPoint :=
  coordinates.mapIdx fun coordinateIndex coordinate =>
    match previous.bind fun evidence => evidence.points[coordinateIndex]? with
    | some old => old
    | none => newPoint coordinateIndex coordinate
        (if coordinateIndex + 1 = coordinates.length then linked.map LinkedReception.link else none)

variable {PublicKey SigningKey : Type} (platform : Platform PublicKey SigningKey)

def buildProjectionEvidence (artifact : TaskArtifact) (write : Option TrajectoryProjectionWrite)
    (previous : Option ProjectionEvidence) (linked : Option LinkedReception) :
    Except String ProjectionEvidence := do
  let coordinates ← trajectoryCoordinates artifact
  let geometry ← artifactGeometry artifact
  throwIf (write.any fun request =>
      request.artifactId != artifact.artifactId || request.revision != artifact.revision)
    "TRAJECTORY_EVIDENCE_ARTIFACT_VERSION_MISMATCH"
  previous.forM (checkPredecessor artifact coordinates)
  throwIf (((write.bind TrajectoryProjectionWrite.receptionId).filter (· != "")).any
      fun receptionId => linked.bind LinkedReception.receptionId != some receptionId)
    "TRAJECTORY_EVIDENCE_RECEIPT_NOT_FOUND"
  linked.forM (checkLinked artifact coordinates)
  parsed (ProjectionEvidence.parse platform.formats (ProjectionEvidence.toJson {
    identity := artifact.identity
    artifactId := artifact.artifactId
    revision := artifact.revision
    artifactGeometrySha256 := historySha256 platform (← historyCanonicalJson geometry.toJson)
    sampleEveryMilliseconds := write.map TrajectoryProjectionWrite.sampleEveryMilliseconds
    missionId := write.map TrajectoryProjectionWrite.missionId
    points := projectionPoints previous linked coordinates }))

def signProjectionEvidence (evidence : ProjectionEvidence) (key : SigningKey) :
    Except String SignedProjectionEvidence := do
  let accepted ← parsed (ProjectionEvidence.parse platform.formats evidence.toJson)
  let keyId ← historyKeyId platform (platform.publicKey key)
  let value := Base64Url.encode (platform.sign (← historyCanonicalJson accepted.toJson) key)
  parsed (SignedProjectionEvidence.parse platform.formats
    (SignedProjectionEvidence.toJson { evidence := accepted, signature := { keyId, value } }))

def pointDiffers (index : Nat) (point expected : ProjectionPoint) : Except String Bool := do
  if point.coordinateIndex ≠ index then
    return true
  if ← canonicallyDiffer (coordinatesJson point.coordinate) (coordinatesJson expected.coordinate) then
    return true
  return point.reception.isNone !=
    (point.receptionTimeQuality == .unknownLegacyOrUnjournaled)

/-- The trusted key and exact Artifact version are independently supplied by the consumer. -/
def verifyProjectionEvidence (input : Json) (trustedPublicKey : PublicKey)
    (artifact : TaskArtifact) : Except String ProjectionEvidence := do
  let signed ← parsed (SignedProjectionEvidence.parse platform.formats input)
  let signature := Base64Url.decode signed.signature.value
  throwIf ((← historyKeyId platform trustedPublicKey) ≠ signed.signature.keyId ∨
      signature.length ≠ 64 ∨ Base64Url.encode signature ≠ signed.signature.value)
    "TRAJECTORY_EVIDENCE_SIGNATURE_INVALID"
  throwIf (platform.verify (← historyCanonicalJson signed.evidence.toJson) trustedPublicKey
      signature = false)
    "TRAJECTORY_EVIDENCE_SIGNATURE_INVALID"
  let expected ← buildProjectionEvidence platform artifact none none none
  let evidence := signed.evidence
  throwIf (expected.identity ≠ evidence.identity ∨ expected.artifactId ≠ evidence.artifactId ∨
      expected.revision ≠ evidence.revision ∨
      expected.artifactGeometrySha256 ≠ evidence.artifactGeometrySha256 ∨
      evidence.points.length ≠ expected.points.length)
    "TRAJECTORY_EVIDENCE_ARTIFACT_MISMATCH"
  let moved ← (evidence.points.zip expected.points).zipIdx.anyM fun ((point, other), index) =>
    pointDiffers index point other
  throwIf moved "TRAJECTORY_EVIDENCE_ARTIFACT_MISMATCH"
  return evidence

structure EvidenceRow where
  artifactId : String
  revision : Nat
  payload : Json

structure SelectedReception where
  scopePayload : Json
  sequence : String
  previousHash : String
  hash : String
  receipt : Json
  recordedAt : String

structure DeviceContext where
  deviceId : String
  sourceSessionKey : String
  bindingId : String
  smppServiceKey : String

def selectLinked (deviceContext : Option DeviceContext) (write : TrajectoryProjectionWrite)
    (selected : List SelectedReception) : Except String (Option LinkedReception) :=
  if (write.receptionId.getD "") = "" then
    .ok none
  else do
    throwIf ((write.sourceStreamId.getD "") = "") "TRAJECTORY_EVIDENCE_SOURCE_STREAM_REQUIRED"
    match selected with
    | [row] =>
      let scope ← parsed (ReceptionScope.parse platform.formats row.scopePayload)
      throwIf (deviceContext.any fun device =>
          scope.deviceId != device.deviceId ||
            scope.sourceSessionKey != device.sourceSessionKey ||
            scope.bindingId != some device.bindingId ||
            scope.smppServiceKey != some device.smppServiceKey)
        "TRAJECTORY_EVIDENCE_DEVICE_SCOPE_MISMATCH"
      let entry ← entryOf platform row.sequence row.previousHash row.hash row.receipt
        row.recordedAt
      return some { scope, entry }
    | _ => throw "TRAJECTORY_EVIDENCE_RECEIPT_NOT_FOUND"

def selectPrevious (artifact : TaskArtifact) (rows : List EvidenceRow) :
    Except String (Option ProjectionEvidence) :=
  match rows.find? fun row =>
      row.artifactId == artifact.artifactId && row.revision + 1 == artifact.revision with
  | none => .ok none
  | some row => do
    let previous ← parsed (ProjectionEvidence.parse platform.formats row.payload)
    return some previous

/-- Runs inside the same transaction as the exact Artifact; the rows are those of the task. -/
def insertTrajectoryProjection (database : Database) (deviceContext : Option DeviceContext)
    (artifact : TaskArtifact) (write : TrajectoryProjectionWrite)
    (selected : List SelectedReception) (rows : List EvidenceRow) :
    Except String (List EvidenceRow) := do
  let linked ← selectLinked platform deviceContext write selected
  let previous ← selectPrevious platform artifact rows
  let evidence ← buildProjectionEvidence platform artifact (some write) previous linked
  match database.jsonb evidence.toJson with
  | none => throw "22P05"
  | some payload =>
    throwIf (rows.any fun row =>
        row.artifactId == artifact.artifactId && row.revision == artifact.revision) "23505"
    return rows ++ [{
      artifactId := artifact.artifactId
      revision := artifact.revision
      payload }]

@[simp] theorem readIdentity_identityMembers (identity : TaskBusinessIdentity) :
    readIdentity (identityMembers identity) = some identity := by
  obtain ⟨taskId, executionId, providerId, resourceId, operationName, correlationId,
    simulationId⟩ := identity
  cases correlationId with
  | none =>
    cases simulationId with
    | none =>
      simp [readIdentity, identityMembers, optionalMember, textMember, field?,
        Json.lookup, text?]
    | some text =>
      simp [readIdentity, identityMembers, optionalMember, textMember, field?,
        Json.lookup, text?]
  | some text =>
    cases simulationId with
    | none =>
      simp [readIdentity, identityMembers, optionalMember, textMember, field?,
        Json.lookup, text?]
    | some text =>
      simp [readIdentity, identityMembers, optionalMember, textMember, field?,
        Json.lookup, text?]

theorem mapM_map_some {α β : Type} {read : β → Option α} {write : α → β}
    (each : ∀ item, read (write item) = some item) (items : List α) :
    (items.map write).mapM read = some items := by
  induction items with
  | nil => rfl
  | cons item rest ih =>
    rw [List.map_cons, List.mapM_cons, each, ih]
    rfl

@[simp] theorem readCoordinates_coordinatesJson (numbers : List String) :
    readCoordinates (coordinatesJson numbers) = some numbers := by
  have each : ∀ text, readNumberText (.num text) = some text := fun _ => rfl
  exact mapM_map_some each numbers

@[simp] theorem readReception_receptionJson (reception : Option ReceptionLink) :
    readReception (receptionJson reception) = some reception := by
  cases reception with
  | none => rfl
  | some link => rfl

@[simp] theorem readNullableCount_nullableCount (count : Option Nat) :
    readNullableCount (nullableCount count) = some count := by
  cases count with
  | none => rfl
  | some number =>
    change some (some (bigInt (toString number))) = some (some number)
    rw [bigInt_toString]

@[simp] theorem ReceptionTimeQuality.ofText?_text (quality : ReceptionTimeQuality) :
    ReceptionTimeQuality.ofText? quality.text = some quality := by
  cases quality with
  | entranceReceiptLinked => rfl
  | unknownLegacyOrUnjournaled => rfl

@[simp] theorem missionId_missionBinding (missionId : Option String) :
    nullableMember "missionId" (missionBinding missionId) = some missionId := by
  cases missionId with
  | none => rfl
  | some text => rfl

@[simp] theorem ProjectionPoint.read_toJson (point : ProjectionPoint) :
    ProjectionPoint.read point.toJson = some point := by
  simp [ProjectionPoint.read, ProjectionPoint.toJson, textMember, numberMember, field?,
    Json.lookup, text?]

@[simp] theorem readPoints_map (points : List ProjectionPoint) :
    readPoints (.arr (points.map ProjectionPoint.toJson)) = some points :=
  mapM_map_some ProjectionPoint.read_toJson points

@[simp] theorem ProjectionEvidence.read_toJson (evidence : ProjectionEvidence) :
    ProjectionEvidence.read evidence.toJson = some evidence := by
  simp [ProjectionEvidence.read, ProjectionEvidence.toJson, textMember, numberMember, field?,
    Json.lookup, text?]

@[simp] theorem SignedProjectionEvidence.read_toJson (signed : SignedProjectionEvidence) :
    SignedProjectionEvidence.read signed.toJson = some signed := by
  simp [SignedProjectionEvidence.read, SignedProjectionEvidence.toJson, signatureJson, textMember,
    field?, Json.lookup, text?]

theorem anyM_ok_false {α : Type} {test : α → Except String Bool} {items : List α} :
    items.anyM test = .ok false ↔ ∀ item ∈ items, test item = .ok false := by
  induction items with
  | nil => simp [List.anyM, pure, Except.pure]
  | cons item rest ih =>
    rw [List.anyM, List.forall_mem_cons, ← ih]
    cases test item with
    | error failure => simp [bind, Except.bind]
    | ok answer =>
      cases answer with
      | true => simp [bind, Except.bind, pure, Except.pure]
      | false => simp [bind, Except.bind]

theorem finite_coordinatesJson (numbers : List String) :
    (coordinatesJson numbers).finite = numbers.all finiteText := by
  rw [coordinatesJson, finite, finiteItems_eq_all, List.all_map]
  rfl

theorem canonicallyDiffer_self {value : Json} (isFinite : value.finite = true) :
    canonicallyDiffer value value = .ok false := by
  have written : historyCanonicalJson value = .ok value.canonicalize := if_pos isFinite
  simp [canonicallyDiffer, written, bind, Except.bind, pure, Except.pure]

theorem equal_of_not_differ {value other : Json} (same : canonicallyDiffer value other = .ok false) :
    Json.Equal value other := by
  unfold canonicallyDiffer at same
  obtain ⟨text, written, same⟩ := bind_ok same
  obtain ⟨text', written', same⟩ := bind_ok same
  have isText := historyCanonicalJson_ok written
  have isText' := historyCanonicalJson_ok written'
  have texts : text = text' := by simpa [pure, Except.pure] using same
  exact (canonicalize_eq_iff isText.1 isText'.1).mp
    (isText.2.trans (texts.trans isText'.2.symm))

variable {numbers others : List String}

theorem coordinatesJson_injective
    (same : Json.Equal (coordinatesJson numbers) (coordinatesJson others)) : numbers = others := by
  obtain ⟨items, isArray, images⟩ := same.arr_left
  have isItems : others.map Json.num = items := by
    injection isArray
  rw [← isItems, List.map_map, List.map_map] at images
  have injective : Function.Injective (normal ∘ Json.num) := by
    intro text text' sameNumber
    injection sameNumber
  exact List.map_injective_iff.mpr injective images

theorem coordinates_eq_of_not_differ
    (same : canonicallyDiffer (coordinatesJson numbers) (coordinatesJson others) = .ok false) :
    numbers = others :=
  coordinatesJson_injective (equal_of_not_differ same)

theorem map_eq_of_zip {α β γ : Type} {left : α → γ} {right : β → γ} {items : List α}
    {others : List β} (lengths : items.length = others.length)
    (pairs : ∀ pair ∈ items.zip others, left pair.1 = right pair.2) :
    items.map left = others.map right := by
  rw [← List.forall₂_eq_eq_eq, List.forall₂_map_left_iff, List.forall₂_map_right_iff,
    List.forall₂_iff_zip]
  refine ⟨lengths, ?_⟩
  intro item other paired
  exact pairs (item, other) paired

/-- The evidence of the revision before, all of whose coordinates are kept and one is added. -/
structure Precedes (previous : ProjectionEvidence) (artifact : TaskArtifact)
    (coordinates : List GeoPosition) : Prop where
  artifactId : previous.artifactId = artifact.artifactId
  revision : previous.revision + 1 = artifact.revision
  identity : previous.identity = artifact.identity
  appended : ∃ old last, coordinates = old ++ [last] ∧
    previous.points.map ProjectionPoint.coordinate = old.map GeoPosition.numbers

variable {coordinates : List GeoPosition}

theorem checkPredecessor_ok {artifact : TaskArtifact} {previous : ProjectionEvidence} {value : Unit}
    (passed : checkPredecessor artifact coordinates previous = .ok value) :
    Precedes previous artifact coordinates := by
  unfold checkPredecessor at passed
  obtain ⟨_, same, passed⟩ := bind_ok passed
  obtain ⟨moved, compared, passed⟩ := bind_ok passed
  have fields := throwIf_ok same
  push Not at fields
  obtain ⟨sameId, next, sameIdentity, lengths⟩ := fields
  have still : moved = false := Bool.eq_false_iff.mpr (throwIf_ok passed)
  rw [still] at compared
  have each := anyM_ok_false.mp compared
  rcases List.eq_nil_or_concat coordinates with isEmpty | ⟨old, last, isConcat⟩
  · rw [isEmpty] at lengths
    cases lengths
  · rw [List.concat_eq_append] at isConcat
    rw [isConcat, List.length_append, List.length_singleton] at lengths
    have oldLength : previous.points.length = old.length := by omega
    have pairs : previous.points.zip coordinates = previous.points.zip old := by
      have split : (previous.points ++ []).zip (old ++ [last]) =
          previous.points.zip old ++ List.zip [] [last] :=
        List.zip_append oldLength
      rw [List.append_nil, List.zip_nil_left, List.append_nil] at split
      rw [isConcat, split]
    have kept : previous.points.map ProjectionPoint.coordinate = old.map GeoPosition.numbers := by
      apply map_eq_of_zip oldLength
      intro pair paired
      rw [← pairs] at paired
      exact coordinates_eq_of_not_differ (each pair paired)
    exact {
      artifactId := sameId
      revision := next
      identity := sameIdentity
      appended := ⟨old, last, isConcat, kept⟩ }

theorem ProjectionEvidence.parse_toJson {formats : Formats} {raw evidence : ProjectionEvidence}
    (accepted : parsed (ProjectionEvidence.parse formats raw.toJson) = .ok evidence) :
    evidence = raw ∧ (ProjectionEvidenceSchema formats).accepts raw.toJson = true := by
  have found := parsed_ok accepted
  unfold ProjectionEvidence.parse at found
  split at found
  next holds =>
    rw [ProjectionEvidence.read_toJson] at found
    exact ⟨(Option.some.inj found).symm, holds⟩
  next => cases found

section Theory

variable {PublicKey SigningKey : Type} {platform : Platform PublicKey SigningKey}
  {artifact : TaskArtifact} {write : Option TrajectoryProjectionWrite}
  {previous : Option ProjectionEvidence} {linked : Option LinkedReception}
  {evidence : ProjectionEvidence}

/-- What `buildProjectionEvidence` hands to the schema. -/
def rawEvidence (platform : Platform PublicKey SigningKey) (artifact : TaskArtifact)
    (write : Option TrajectoryProjectionWrite) (geometryText : String)
    (points : List ProjectionPoint) : ProjectionEvidence := {
  identity := artifact.identity
  artifactId := artifact.artifactId
  revision := artifact.revision
  artifactGeometrySha256 := historySha256 platform geometryText
  sampleEveryMilliseconds := write.map TrajectoryProjectionWrite.sampleEveryMilliseconds
  missionId := write.map TrajectoryProjectionWrite.missionId
  points }

theorem buildProjectionEvidence_ok
    (built : buildProjectionEvidence platform artifact write previous linked = .ok evidence) :
    ∃ coordinates geometry text, trajectoryCoordinates artifact = .ok coordinates ∧
      artifactGeometry artifact = .ok geometry ∧
      historyCanonicalJson geometry.toJson = .ok text ∧
      (∀ before ∈ previous, Precedes before artifact coordinates) ∧
      evidence =
        rawEvidence platform artifact write text (projectionPoints previous linked coordinates) ∧
      (ProjectionEvidenceSchema platform.formats).accepts evidence.toJson = true := by
  unfold buildProjectionEvidence at built
  obtain ⟨coordinates, drawn, built⟩ := bind_ok built
  obtain ⟨geometry, isGeometry, built⟩ := bind_ok built
  obtain ⟨_, _, built⟩ := bind_ok built
  obtain ⟨_, follows, built⟩ := bind_ok built
  obtain ⟨_, _, built⟩ := bind_ok built
  obtain ⟨_, _, built⟩ := bind_ok built
  obtain ⟨text, written, built⟩ := bind_ok built
  obtain ⟨isRaw, accepted⟩ := ProjectionEvidence.parse_toJson built
  refine ⟨coordinates, geometry, text, drawn, isGeometry, written, ?_, isRaw, ?_⟩
  · intro before isPrevious
    cases isPrevious
    exact checkPredecessor_ok follows
  · rw [isRaw]
    exact accepted

theorem getElem?_projectionPoints (coordinates : List GeoPosition) (index : Nat) :
    (projectionPoints previous linked coordinates)[index]? =
      coordinates[index]?.map fun coordinate =>
        match previous.bind fun evidence => evidence.points[index]? with
        | some old => old
        | none => newPoint index coordinate
            (if index + 1 = coordinates.length then linked.map LinkedReception.link else none) :=
  List.getElem?_mapIdx

variable {before : ProjectionEvidence}

theorem projectionPoints_append {old : List GeoPosition} {last : GeoPosition}
    (lengths : before.points.length = old.length) :
    projectionPoints (some before) linked (old ++ [last]) =
      before.points ++ [newPoint old.length last (linked.map LinkedReception.link)] := by
  apply List.ext_getElem?
  intro index
  rw [getElem?_projectionPoints]
  by_cases earlier : index < old.length
  · have found : before.points[index]? = some before.points[index] :=
      List.getElem?_eq_getElem (by omega)
    have there : (old ++ [last])[index]? = some old[index] := by
      rw [List.getElem?_append_left earlier, List.getElem?_eq_getElem earlier]
    rw [there, List.getElem?_append_left (by omega), found]
    simp [found]
  · by_cases isLast : index = old.length
    · have absent : before.points[old.length]? = none := List.getElem?_eq_none (by omega)
      have there : (old ++ [last])[index]? = some last := by
        rw [isLast, List.getElem?_concat_length]
      have added : (before.points ++
          [newPoint old.length last (linked.map LinkedReception.link)])[index]? =
            some (newPoint old.length last (linked.map LinkedReception.link)) := by
        rw [isLast, ← lengths, List.getElem?_concat_length]
      rw [there, added]
      simp [absent, isLast]
    · rw [List.getElem?_eq_none, List.getElem?_eq_none]
      · rfl
      · rw [List.length_append, List.length_singleton]
        omega
      · rw [List.length_append, List.length_singleton]
        omega

/-- Every point says where it stands, and is linked or of unknown reception time. -/
def Placed (points : List ProjectionPoint) : Prop :=
  ∀ (index : Nat) (point : ProjectionPoint), points[index]? = some point →
    point.coordinateIndex = index ∧
      point.reception.isNone = (point.receptionTimeQuality == .unknownLegacyOrUnjournaled)

theorem newPoint_quality (index : Nat) (coordinate : GeoPosition)
    (reception : Option ReceptionLink) :
    (newPoint index coordinate reception).reception.isNone =
      ((newPoint index coordinate reception).receptionTimeQuality ==
        .unknownLegacyOrUnjournaled) := by
  cases reception with
  | none => rfl
  | some link => rfl

theorem placed_projectionPoints (earlier : ∀ before ∈ previous, Placed before.points) :
    Placed (projectionPoints previous linked coordinates) := by
  intro index point found
  rw [getElem?_projectionPoints, Option.map_eq_some_iff] at found
  obtain ⟨coordinate, _, isPoint⟩ := found
  cases old : previous.bind fun evidence => evidence.points[index]? with
  | none =>
    rw [old] at isPoint
    rw [← isPoint]
    exact ⟨rfl, newPoint_quality _ _ _⟩
  | some kept =>
    rw [old] at isPoint
    obtain ⟨before, isPrevious, isKept⟩ := Option.bind_eq_some_iff.mp old
    have placed := earlier before isPrevious index kept isKept
    rw [← isPoint]
    exact placed

theorem coordinates_projectionPoints
    (follows : ∀ before ∈ previous, Precedes before artifact coordinates) :
    (projectionPoints previous linked coordinates).map ProjectionPoint.coordinate =
      coordinates.map GeoPosition.numbers := by
  cases previous with
  | none =>
    apply List.ext_getElem?
    intro index
    rw [List.getElem?_map, getElem?_projectionPoints, List.getElem?_map, Option.map_map]
    rfl
  | some before =>
    obtain ⟨old, last, isConcat, kept⟩ := (follows before rfl).appended
    have lengths : before.points.length = old.length := by
      have counted := congrArg List.length kept
      rw [List.length_map, List.length_map] at counted
      exact counted
    rw [isConcat, projectionPoints_append lengths, List.map_append, kept, List.map_append]
    rfl

structure Describes (evidence : ProjectionEvidence) (artifact : TaskArtifact)
    (coordinates : List GeoPosition) : Prop where
  drawn : trajectoryCoordinates artifact = .ok coordinates
  identity : evidence.identity = artifact.identity
  artifactId : evidence.artifactId = artifact.artifactId
  revision : evidence.revision = artifact.revision
  coordinates : evidence.points.map ProjectionPoint.coordinate =
    coordinates.map GeoPosition.numbers

theorem build_describes
    (built : buildProjectionEvidence platform artifact write previous linked = .ok evidence) :
    ∃ coordinates, Describes evidence artifact coordinates := by
  obtain ⟨coordinates, geometry, text, drawn, _, _, follows, isRaw, _⟩ :=
    buildProjectionEvidence_ok built
  rw [isRaw]
  exact ⟨coordinates, {
    drawn := drawn
    identity := rfl
    artifactId := rfl
    revision := rfl
    coordinates := coordinates_projectionPoints follows }⟩

theorem build_placed
    (built : buildProjectionEvidence platform artifact write previous linked = .ok evidence)
    (earlier : ∀ before ∈ previous, Placed before.points) : Placed evidence.points := by
  obtain ⟨coordinates, geometry, text, _, _, _, _, isRaw, _⟩ := buildProjectionEvidence_ok built
  rw [isRaw]
  exact placed_projectionPoints earlier

theorem build_extends
    (built : buildProjectionEvidence platform artifact write (some before) linked = .ok evidence) :
    ∃ old last, trajectoryCoordinates artifact = .ok (old ++ [last]) ∧
      before.points.map ProjectionPoint.coordinate = old.map GeoPosition.numbers ∧
      evidence.points = before.points ++
        [newPoint before.points.length last (linked.map LinkedReception.link)] := by
  obtain ⟨coordinates, geometry, text, drawn, _, _, follows, isRaw, _⟩ :=
    buildProjectionEvidence_ok built
  obtain ⟨old, last, isConcat, kept⟩ := (follows before rfl).appended
  have lengths : before.points.length = old.length := by
    have counted := congrArg List.length kept
    rw [List.length_map, List.length_map] at counted
    exact counted
  refine ⟨old, last, ?_, kept, ?_⟩
  · rw [← isConcat]
    exact drawn
  · rw [isRaw, isConcat, lengths]
    exact projectionPoints_append lengths

/-- An insert keeps the rows there are; upon the stored evidence of the revision before, what it
stores has every point of that and one more. -/
theorem insertTrajectoryProjection_ok {database : Database} (keeps : database.Keeps)
    {deviceContext : Option DeviceContext} {request : TrajectoryProjectionWrite}
    {selected : List SelectedReception} {rows stored : List EvidenceRow}
    (inserted : insertTrajectoryProjection platform database deviceContext artifact request selected
      rows = .ok stored) :
    ∃ linked previous evidence payload,
      selectPrevious platform artifact rows = .ok previous ∧
      buildProjectionEvidence platform artifact (some request) previous linked = .ok evidence ∧
      stored = rows ++ [{
        artifactId := artifact.artifactId
        revision := artifact.revision
        payload := payload }] ∧
      Json.Equal evidence.toJson payload ∧
      (ProjectionEvidenceSchema platform.formats).accepts payload = true ∧
      ∀ before, previous = some before →
        ∃ point, evidence.points = before.points ++ [point] := by
  unfold insertTrajectoryProjection at inserted
  obtain ⟨linked, _, inserted⟩ := bind_ok inserted
  obtain ⟨previous, isPrevious, inserted⟩ := bind_ok inserted
  obtain ⟨evidence, built, inserted⟩ := bind_ok inserted
  obtain ⟨_, _, _, _, _, _, _, _, accepted⟩ := buildProjectionEvidence_ok built
  cases column : database.jsonb evidence.toJson with
  | none =>
    rw [column] at inserted
    cases inserted
  | some payload =>
    rw [column] at inserted
    obtain ⟨_, _, returned⟩ := bind_ok inserted
    cases returned
    obtain ⟨same, isProper⟩ := keeps _ _ column
    refine ⟨linked, previous, evidence, payload, isPrevious, built, rfl, same,
      Schema.accepts_of_equal _ same isProper accepted, ?_⟩
    intro before isBefore
    rw [isBefore] at built
    obtain ⟨_, _, _, _, points⟩ := build_extends built
    exact ⟨_, points⟩

theorem GeoPosition.eq_of_numbers {position other : GeoPosition}
    (same : position.numbers = other.numbers) : position = other := by
  obtain ⟨numbers, bounds, isFinite⟩ := position
  obtain ⟨numbers', bounds', isFinite'⟩ := other
  cases same
  rfl

theorem trajectoryCoordinates_ok (drawn : trajectoryCoordinates artifact = .ok coordinates) :
    ∃ geometry, artifactGeometry artifact = .ok geometry ∧
      ((∃ position, geometry = .point position ∧ coordinates = [position]) ∨
        ∃ two, geometry = .lineString coordinates two) := by
  unfold trajectoryCoordinates at drawn
  obtain ⟨_, _, drawn⟩ := bind_ok drawn
  obtain ⟨geometry, isGeometry, drawn⟩ := bind_ok drawn
  obtain ⟨points, isPoints, drawn⟩ := bind_ok drawn
  obtain ⟨_, _, returned⟩ := bind_ok drawn
  cases returned
  refine ⟨geometry, isGeometry, ?_⟩
  cases geometry with
  | point position =>
    cases isPoints
    exact .inl ⟨position, rfl, rfl⟩
  | lineString positions two =>
    cases isPoints
    exact .inr ⟨two, rfl⟩
  | other value => cases isPoints

variable {other : TaskArtifact}

theorem geometry_eq (drawn : trajectoryCoordinates artifact = .ok coordinates)
    (drawn' : trajectoryCoordinates other = .ok coordinates) :
    artifactGeometry artifact = artifactGeometry other := by
  obtain ⟨geometry, isGeometry, shape⟩ := trajectoryCoordinates_ok drawn
  obtain ⟨geometry', isGeometry', shape'⟩ := trajectoryCoordinates_ok drawn'
  rw [isGeometry, isGeometry']
  rcases shape with ⟨position, isPoint, single⟩ | ⟨two, isLine⟩
  · rcases shape' with ⟨position', isPoint', single'⟩ | ⟨two', isLine'⟩
    · rw [single] at single'
      cases single'
      rw [isPoint, isPoint']
    · rw [single] at two'
      simp at two'
  · rcases shape' with ⟨position', isPoint', single'⟩ | ⟨two', isLine'⟩
    · rw [single'] at two
      simp at two
    · rw [isLine, isLine']

theorem Describes.unique {coordinates coordinates' : List GeoPosition}
    (first : Describes evidence artifact coordinates)
    (second : Describes evidence other coordinates') :
    other.artifactId = artifact.artifactId ∧ other.revision = artifact.revision ∧
      other.identity = artifact.identity ∧ artifactGeometry other = artifactGeometry artifact := by
  have injective : Function.Injective GeoPosition.numbers := fun _ _ => GeoPosition.eq_of_numbers
  have same : coordinates = coordinates' :=
    List.map_injective_iff.mpr injective (first.coordinates.symm.trans second.coordinates)
  have drawn := second.drawn
  rw [← same] at drawn
  exact ⟨second.artifactId.symm.trans first.artifactId, second.revision.symm.trans first.revision,
    second.identity.symm.trans first.identity, geometry_eq drawn first.drawn⟩

end Theory

end TrajectoryHistory

end SdarRuntime
