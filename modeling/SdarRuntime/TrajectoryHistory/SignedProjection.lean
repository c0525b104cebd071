import SdarRuntime.TrajectoryHistory.Projection

/-!
Signed evidence. The verifier builds evidence of the artifact it is handed and compares: what it
gives out is evidence of that version, and the signed evidence of a version is accepted for it
and for no other. A trajectory that grows by one coordinate a revision has its evidence grow by
one point a revision.
-/

namespace SdarRuntime

namespace TrajectoryHistory

open Business (TaskBusinessIdentity)

open Schema ProjectionEvidence Base64Url

section Theory

variable {PublicKey SigningKey : Type} {platform : Platform PublicKey SigningKey}
  {artifact : TaskArtifact} {write : Option TrajectoryProjectionWrite}
  {previous : Option ProjectionEvidence} {linked : Option LinkedReception}
  {evidence : ProjectionEvidence}

variable {index : Nat} {point expected : ProjectionPoint}

theorem pointDiffers_ok_false (same : pointDiffers index point expected = .ok false) :
    point.coordinate = expected.coordinate := by
  unfold pointDiffers at same
  by_cases isPlace : point.coordinateIndex = index
  · simp only [isPlace, ne_eq, not_true_eq_false, if_false] at same
    obtain ⟨moved, compared, rest⟩ := bind_ok same
    cases moved with
    | true => cases rest
    | false => exact coordinates_eq_of_not_differ compared
  · simp [isPlace, pure, Except.pure] at same

/-- What the verifier gives out is evidence of the artifact it was asked about. -/
theorem verified_describes {input : Json} {key : PublicKey}
    (verified : verifyProjectionEvidence platform input key artifact = .ok evidence) :
    ∃ coordinates, Describes evidence artifact coordinates := by
  unfold verifyProjectionEvidence at verified
  obtain ⟨signed, _, verified⟩ := bind_ok verified
  obtain ⟨_, _, verified⟩ := bind_ok verified
  obtain ⟨_, _, verified⟩ := bind_ok verified
  obtain ⟨_, _, verified⟩ := bind_ok verified
  obtain ⟨_, _, verified⟩ := bind_ok verified
  obtain ⟨expected, built, verified⟩ := bind_ok verified
  obtain ⟨_, same, verified⟩ := bind_ok verified
  obtain ⟨moved, compared, verified⟩ := bind_ok verified
  obtain ⟨_, still, returned⟩ := bind_ok verified
  cases returned
  have fields := throwIf_ok same
  push Not at fields
  obtain ⟨sameIdentity, sameId, sameRevision, _, lengths⟩ := fields
  have unmoved : moved = false := Bool.eq_false_iff.mpr (throwIf_ok still)
  rw [unmoved] at compared
  have each := anyM_ok_false.mp compared
  obtain ⟨coordinates, describes⟩ := build_describes built
  have sameCoordinates : signed.evidence.points.map ProjectionPoint.coordinate =
      expected.points.map ProjectionPoint.coordinate := by
    apply map_eq_of_zip lengths
    intro pair paired
    obtain ⟨index, inBounds, isPair⟩ := List.getElem_of_mem paired
    have inIndexed : (pair, index) ∈ (signed.evidence.points.zip expected.points).zipIdx := by
      rw [List.mem_zipIdx_iff_getElem?, List.getElem?_eq_getElem inBounds, isPair]
    exact pointDiffers_ok_false (each (pair, index) inIndexed)
  exact ⟨coordinates, {
    drawn := describes.drawn
    identity := sameIdentity.symm.trans describes.identity
    artifactId := sameId.symm.trans describes.artifactId
    revision := sameRevision.symm.trans describes.revision
    coordinates := sameCoordinates.trans describes.coordinates }⟩

variable {formats : Formats} {point : ProjectionPoint}

theorem accepts_point :
    (ProjectionPointSchema formats).accepts point.toJson =
      ((number [formats.int, formats.atLeast 0, formats.atMost 255]).accepts
          (.num (toString point.coordinateIndex)) &&
        ((array 2 3 (.number [])).accepts (coordinatesJson point.coordinate) &&
          (nullable (ReceptionLinkSchema formats)).accepts
            (receptionJson point.reception))) := by
  have members := accepts_required [
    ("coordinateIndex", .number [formats.int, formats.atLeast 0, formats.atMost 255],
      .num (toString point.coordinateIndex)),
    ("coordinate", .array 2 3 (.number []), coordinatesJson point.coordinate),
    ("reception", .nullable (ReceptionLinkSchema formats), receptionJson point.reception),
    ("receptionTimeQuality",
      .oneOf ["ENTRANCE_RECEIPT_LINKED", "UNKNOWN_LEGACY_OR_UNJOURNALED"],
      .str point.receptionTimeQuality.text)] (by simp)
  have quality : (oneOf ["ENTRANCE_RECEIPT_LINKED", "UNKNOWN_LEGACY_OR_UNJOURNALED"]).accepts
      (.str point.receptionTimeQuality.text) = true := by
    cases point.receptionTimeQuality with
    | entranceReceiptLinked => rfl
    | unknownLegacyOrUnjournaled => rfl
  refine Eq.trans members ?_
  simp only [List.all_cons, List.all_nil, quality, Bool.and_true]

theorem accepts_missionBinding (missionId : Option String) :
    MissionBindingSchema.accepts (missionBinding missionId) = true := by
  have members := accepts_required [
    ("missionId", .nullable (.string []), nullableText missionId),
    ("authority", .literal "PROVIDER_CURRENT_MISSION_AND_UNIQUE_ACTIVE_EXECUTION",
      .str "PROVIDER_CURRENT_MISSION_AND_UNIQUE_ACTIVE_EXECUTION"),
    ("deviceExecutionOwnership", .literal "NOT_ATTESTED", .str "NOT_ATTESTED")] (by simp)
  refine Eq.trans members ?_
  cases missionId with
  | none => rfl
  | some text => rfl

theorem accepts_evidence {evidence : ProjectionEvidence} :
    (ProjectionEvidenceSchema formats).accepts evidence.toJson = true ↔
      ProjectionIdentitySchema.accepts (identityMembers evidence.identity) = true ∧
      (positiveInt formats).accepts (.num (toString evidence.revision)) = true ∧
      sha256Pattern evidence.artifactGeometrySha256 = true ∧
      (nullable (nonnegativeInt formats)).accepts
        (nullableCount evidence.sampleEveryMilliseconds) = true ∧
      1 ≤ evidence.points.length ∧ evidence.points.length ≤ 256 ∧
      ∀ point ∈ evidence.points, (ProjectionPointSchema formats).accepts point.toJson = true := by
  have members := accepts_required [
    ("schemaVersion", .literal "ugv.trajectory-artifact-evidence/1.0",
      .str "ugv.trajectory-artifact-evidence/1.0"),
    ("identity", ProjectionIdentitySchema, identityMembers evidence.identity),
    ("artifactId", .string [], .str evidence.artifactId),
    ("revision", positiveInt formats, .num (toString evidence.revision)),
    ("artifactGeometrySha256", Sha256Schema, .str evidence.artifactGeometrySha256),
    ("projectionPolicy", .literal "SAMPLED_GEOMETRY_NOT_FULL_RECEPTION_HISTORY",
      .str "SAMPLED_GEOMETRY_NOT_FULL_RECEPTION_HISTORY"),
    ("sampleEveryMilliseconds", .nullable (nonnegativeInt formats),
      nullableCount evidence.sampleEveryMilliseconds),
    ("missionBinding", MissionBindingSchema, missionBinding evidence.missionId),
    ("points", .array 1 256 (ProjectionPointSchema formats),
      .arr (evidence.points.map ProjectionPoint.toJson)),
    ("deviceGenerationHistory", .literal "UNKNOWN_PRODUCER_BOUNDARIES_NOT_ATTESTED",
      .str "UNKNOWN_PRODUCER_BOUNDARIES_NOT_ATTESTED")] (by simp)
  have literal (value : String) : (literal value).accepts (.str value) = true := by
    simp [accepts]
  have anyText (text : String) : (string []).accepts (.str text) = true := rfl
  have hash : Sha256Schema.accepts (.str evidence.artifactGeometrySha256) =
      sha256Pattern evidence.artifactGeometrySha256 := by
    simp [Sha256Schema, accepts]
  have items : (array 1 256 (ProjectionPointSchema formats)).accepts
      (.arr (evidence.points.map ProjectionPoint.toJson)) = true ↔
        1 ≤ evidence.points.length ∧ evidence.points.length ≤ 256 ∧
        ∀ point ∈ evidence.points,
          (ProjectionPointSchema formats).accepts point.toJson = true := by
    simp [accepts, and_assoc]
  have asked : (ProjectionEvidenceSchema formats).accepts evidence.toJson = _ := members
  rw [asked]
  simp only [List.all_cons, List.all_nil, literal, anyText, hash, accepts_missionBinding,
    Bool.and_true, Bool.true_and, Bool.and_eq_true, items]

structure SigningLaws (platform : Platform PublicKey SigningKey) (key : SigningKey) : Prop where
  ed25519 : platform.ed25519 (platform.publicKey key) = true
  keyDigest : sha256Pattern (platform.keyDigest (platform.publicKey key)) = true
  length : ∀ text, (platform.sign text key).length = 64
  verifies : ∀ text, platform.verify text (platform.publicKey key) (platform.sign text key) = true

theorem accepts_signed {signed : SignedProjectionEvidence}
    (evidence : (ProjectionEvidenceSchema formats).accepts signed.evidence.toJson = true)
    (keyId : sha256Pattern signed.signature.keyId = true)
    (value : signaturePattern signed.signature.value = true) :
    (SignedProjectionEvidenceSchema formats).accepts signed.toJson = true := by
  have signature : SignatureSchema.accepts (signatureJson signed.signature) = true := by
    have members := accepts_required [
      ("algorithm", .literal "Ed25519", .str "Ed25519"),
      ("keyId", Sha256Schema, .str signed.signature.keyId),
      ("value", .string [signaturePattern], .str signed.signature.value)] (by simp)
    refine Eq.trans members ?_
    simp [Sha256Schema, accepts, keyId, value]
  have members := accepts_required [
    ("evidence", ProjectionEvidenceSchema formats, signed.evidence.toJson),
    ("signature", SignatureSchema, signatureJson signed.signature)] (by simp)
  refine Eq.trans members ?_
  simp only [List.all_cons, List.all_nil, evidence, signature, Bool.and_true]

theorem ProjectionEvidence.parse_of
    (accepted : (ProjectionEvidenceSchema formats).accepts evidence.toJson = true) :
    parsed (ProjectionEvidence.parse formats evidence.toJson) = .ok evidence := by
  rw [ProjectionEvidence.parse, if_pos accepted, read_toJson]
  rfl

def signedWith (platform : Platform PublicKey SigningKey) (key : SigningKey)
    (evidence : ProjectionEvidence) : SignedProjectionEvidence := {
  evidence
  signature := {
    keyId := platform.keyDigest (platform.publicKey key)
    value := encode (platform.sign evidence.toJson.canonicalize key) } }

variable {key : SigningKey}

theorem parse_signedWith (laws : SigningLaws platform key)
    (accepted : (ProjectionEvidenceSchema platform.formats).accepts evidence.toJson = true) :
    parsed (SignedProjectionEvidence.parse platform.formats
      (signedWith platform key evidence).toJson) = .ok (signedWith platform key evidence) := by
  have signed : (SignedProjectionEvidenceSchema platform.formats).accepts
      (signedWith platform key evidence).toJson = true :=
    accepts_signed accepted laws.keyDigest (signaturePattern_encode (laws.length _))
  rw [SignedProjectionEvidence.parse, if_pos signed, SignedProjectionEvidence.read_toJson]
  rfl

theorem signProjectionEvidence_of (laws : SigningLaws platform key)
    (accepted : (ProjectionEvidenceSchema platform.formats).accepts evidence.toJson = true) :
    signProjectionEvidence platform evidence key = .ok (signedWith platform key evidence) := by
  have written : historyCanonicalJson evidence.toJson = .ok evidence.toJson.canonicalize :=
    if_pos (accepts_finite _ _ accepted)
  have keyId : historyKeyId platform (platform.publicKey key) =
      .ok (platform.keyDigest (platform.publicKey key)) := if_pos laws.ed25519
  simp only [signProjectionEvidence, parse_of accepted, bind, Except.bind, keyId,
    written]
  exact parse_signedWith laws accepted

theorem finite_coordinate
    (accepted : (ProjectionEvidenceSchema platform.formats).accepts evidence.toJson = true)
    (member : point ∈ evidence.points) :
    (coordinatesJson point.coordinate).finite = true := by
  obtain ⟨_, _, _, _, _, _, points⟩ := accepts_evidence.mp accepted
  have atPoint := points point member
  rw [accepts_point, Bool.and_eq_true, Bool.and_eq_true] at atPoint
  exact accepts_finite _ _ atPoint.2.1

theorem pointDiffers_of (isPlace : point.coordinateIndex = index)
    (coordinate : point.coordinate = expected.coordinate)
    (isFinite : (coordinatesJson point.coordinate).finite = true)
    (quality : point.reception.isNone =
      (point.receptionTimeQuality == .unknownLegacyOrUnjournaled)) :
    pointDiffers index point expected = .ok false := by
  have still := canonicallyDiffer_self isFinite
  simp [pointDiffers, isPlace, ← coordinate, still, quality, bind, Except.bind, pure, Except.pure]

theorem verifySignedWith (laws : SigningLaws platform key)
    (accepted : (ProjectionEvidenceSchema platform.formats).accepts evidence.toJson = true)
    {expected : ProjectionEvidence}
    (built : buildProjectionEvidence platform artifact none none none = .ok expected)
    (identity : expected.identity = evidence.identity)
    (artifactId : expected.artifactId = evidence.artifactId)
    (revision : expected.revision = evidence.revision)
    (geometry : expected.artifactGeometrySha256 = evidence.artifactGeometrySha256)
    (coordinates : evidence.points.map ProjectionPoint.coordinate =
      expected.points.map ProjectionPoint.coordinate) (placed : Placed evidence.points) :
    verifyProjectionEvidence platform (signedWith platform key evidence).toJson
      (platform.publicKey key) artifact = .ok evidence := by
  have written : historyCanonicalJson evidence.toJson = .ok evidence.toJson.canonicalize :=
    if_pos (accepts_finite _ _ accepted)
  have keyId : historyKeyId platform (platform.publicKey key) =
      .ok (platform.keyDigest (platform.publicKey key)) := if_pos laws.ed25519
  have isSigned := parse_signedWith laws accepted
  have signs : (signedWith platform key evidence).evidence = evidence := rfl
  have decoded : decode (signedWith platform key evidence).signature.value =
      platform.sign evidence.toJson.canonicalize key := decode_encode _
  have sameKey : ¬ (platform.keyDigest (platform.publicKey key) ≠
      (signedWith platform key evidence).signature.keyId ∨
        (platform.sign evidence.toJson.canonicalize key).length ≠ 64 ∨
        encode (platform.sign evidence.toJson.canonicalize key) ≠
          (signedWith platform key evidence).signature.value) := by
    rw [laws.length]
    simp [signedWith]
  have verifies : ¬ platform.verify evidence.toJson.canonicalize (platform.publicKey key)
      (platform.sign evidence.toJson.canonicalize key) = false := by
    rw [laws.verifies]
    exact Bool.noConfusion
  have lengths : evidence.points.length = expected.points.length := by
    have counted := congrArg List.length coordinates
    rw [List.length_map, List.length_map] at counted
    exact counted
  have same : ¬ (expected.identity ≠ evidence.identity ∨
      expected.artifactId ≠ evidence.artifactId ∨ expected.revision ≠ evidence.revision ∨
      expected.artifactGeometrySha256 ≠ evidence.artifactGeometrySha256 ∨
      evidence.points.length ≠ expected.points.length) := by
    rw [identity, artifactId, revision, geometry, lengths]
    simp
  have still (differ : (ProjectionPoint × ProjectionPoint) × Nat → Except String Bool)
      (differs : ∀ point other index, differ ((point, other), index) =
        pointDiffers index point other) :
      (evidence.points.zip expected.points).zipIdx.anyM differ = .ok false := by
    rw [anyM_ok_false]
    intro indexed member
    obtain ⟨⟨point, other⟩, index⟩ := indexed
    rw [List.mem_zipIdx_iff_getElem?, List.getElem?_zip_eq_some] at member
    obtain ⟨atPoint, atOther⟩ := member
    have place := placed index point atPoint
    have sameCoordinate : point.coordinate = other.coordinate := by
      have images := congrArg (fun list => list[index]?) coordinates
      simpa [List.getElem?_map, atPoint, atOther] using images
    rw [differs]
    exact pointDiffers_of place.1 sameCoordinate
      (finite_coordinate accepted (List.mem_of_getElem? atPoint)) place.2
  simp only [verifyProjectionEvidence, isSigned, bind, Except.bind, decoded, keyId,
    throwIf_of_not sameKey, signs, written, throwIf_of_not verifies, built,
    throwIf_of_not same]
  rw [still _ (by intro point other index; rfl)]
  rfl

structure ProjectionRevision where
  artifact : TaskArtifact
  write : Option TrajectoryProjectionWrite
  linked : Option LinkedReception

def maxSafeInteger : Nat := 9007199254740991

structure SchemaLaws (platform : Platform PublicKey SigningKey) : Prop where
  int : ∀ number : Nat, number ≤ maxSafeInteger → platform.formats.int (toString number) = true
  atLeast : ∀ least number : Nat, least ≤ number →
    platform.formats.atLeast least (toString number) = true
  atMost : ∀ most number : Nat, number ≤ most →
    platform.formats.atMost most (toString number) = true
  digest : ∀ text, sha256Pattern (platform.sha256 text) = true

structure Linkable (formats : Formats) (artifact : TaskArtifact) (linked : LinkedReception) :
    Prop where
  scope : (ReceptionScopeSchema formats).accepts linked.scope.toJson = true
  entry : (ReceptionEntrySchema formats).accepts linked.entry.toJson = true
  providerId : linked.scope.providerId = artifact.identity.providerId
  resourceId : linked.scope.resourceId = artifact.identity.resourceId
  disposition : textMember "disposition" linked.entry.receipt = some "POSITION_OBSERVATION"
  live : retainedDelivery linked.entry.receipt = false
  position : ∃ coordinates last, trajectoryCoordinates artifact = .ok coordinates ∧
    coordinates.getLast? = some last ∧ receiptCoordinate linked.entry.receipt = last.toJson

structure Projectable (formats : Formats) (revision : ProjectionRevision) : Prop where
  drawn : ∃ coordinates, trajectoryCoordinates revision.artifact = .ok coordinates
  operation : revision.artifact.identity.operationName = "vehicle_navigate"
  positive : 1 ≤ revision.artifact.revision
  safe : revision.artifact.revision ≤ maxSafeInteger
  written : ∀ write ∈ revision.write, write.artifactId = revision.artifact.artifactId ∧
    write.revision = revision.artifact.revision ∧ write.sampleEveryMilliseconds ≤ maxSafeInteger ∧
    ∀ receptionId ∈ write.receptionId, receptionId ≠ "" →
      revision.linked.bind LinkedReception.receptionId = some receptionId
  linkable : ∀ linked ∈ revision.linked, Linkable formats revision.artifact linked

variable {coordinates : List GeoPosition} {before : ProjectionEvidence}

theorem checkPredecessor_of (precedes : Precedes before artifact coordinates) :
    checkPredecessor artifact coordinates before = .ok () := by
  obtain ⟨old, last, isConcat, kept⟩ := precedes.appended
  have lengths : before.points.length = old.length := by
    have counted := congrArg List.length kept
    rw [List.length_map, List.length_map] at counted
    exact counted
  have same : ¬ (before.artifactId ≠ artifact.artifactId ∨
      before.revision + 1 ≠ artifact.revision ∨ before.identity ≠ artifact.identity ∨
      before.points.length + 1 ≠ coordinates.length) := by
    rw [precedes.artifactId, precedes.revision, precedes.identity, isConcat, lengths]
    simp
  have still (differ : ProjectionPoint × GeoPosition → Except String Bool)
      (differs : ∀ point position, differ (point, position) =
        canonicallyDiffer (coordinatesJson point.coordinate) (coordinatesJson position.numbers)) :
      (before.points.zip coordinates).anyM differ = .ok false := by
    rw [anyM_ok_false]
    intro pair member
    obtain ⟨point, position⟩ := pair
    obtain ⟨index, inBounds, isPair⟩ := List.getElem_of_mem member
    have found := List.getElem?_eq_getElem inBounds
    rw [isPair, List.getElem?_zip_eq_some] at found
    have bound : index < before.points.length := by
      rw [List.length_zip] at inBounds
      omega
    have sameCoordinate : point.coordinate = position.numbers := by
      have images := congrArg (fun list => list[index]?) kept
      have inOld : old[index]? = some position := by
        rw [← found.2, isConcat, List.getElem?_append_left (by omega)]
      simpa [List.getElem?_map, found.1, inOld] using images
    have isFinite : (coordinatesJson position.numbers).finite = true := by
      rw [finite_coordinatesJson]
      exact position.isFinite
    rw [differs, sameCoordinate]
    exact canonicallyDiffer_self isFinite
  simp only [checkPredecessor, throwIf_of_not same, bind, Except.bind]
  rw [still _ (by intro point position; rfl)]
  rfl

variable {reception : LinkedReception}

theorem checkLinked_of (drawn : trajectoryCoordinates artifact = .ok coordinates)
    (linkable : Linkable formats artifact reception) :
    checkLinked artifact coordinates reception = .ok () := by
  have same : ¬ (reception.scope.providerId ≠ artifact.identity.providerId ∨
      reception.scope.resourceId ≠ artifact.identity.resourceId ∨
      textMember "disposition" reception.entry.receipt ≠ some "POSITION_OBSERVATION" ∨
      retainedDelivery reception.entry.receipt = true) := by
    rw [linkable.providerId, linkable.resourceId, linkable.disposition, linkable.live]
    simp
  obtain ⟨coordinates', last, drawn', isLast, position⟩ := linkable.position
  have sameCoordinates : coordinates' = coordinates := by
    rw [drawn] at drawn'
    cases drawn'
    rfl
  rw [sameCoordinates] at isLast
  have isFinite : last.toJson.finite = true := by
    rw [GeoPosition.toJson, finite_coordinatesJson]
    exact last.isFinite
  have still : canonicallyDiffer (receiptCoordinate reception.entry.receipt)
      ((coordinates.getLast?.map GeoPosition.toJson).getD .null) = .ok false := by
    rw [position, isLast]
    exact canonicallyDiffer_self isFinite
  simp only [checkLinked, throwIf_of_not same, bind, Except.bind, still]
  rfl

theorem memberOf_lookup {key : String} {fields : List (String × Json)} {value : Json}
    (found : Json.lookup key fields = some value) : memberOf key (.obj fields) = [(key, value)] := by
  have at_key : (Json.obj fields).field? key = some value := found
  rw [memberOf, at_key]

theorem accepts_link (scope : (ReceptionScopeSchema formats).accepts reception.scope.toJson = true)
    (entry : (ReceptionEntrySchema formats).accepts reception.entry.toJson = true) :
    (ReceptionLinkSchema formats).accepts (.obj reception.link) = true := by
  obtain ⟨_, isEntry, _, _, members⟩ := accepts_object entry
  cases isEntry
  obtain ⟨_, isSequence, sequence⟩ := accepts_member members
    (show ("sequence", true, PositiveSequenceSchema) ∈ _ by simp [required])
  cases isSequence
  obtain ⟨_, isHash, hash⟩ := accepts_member members
    (show ("hash", true, Sha256Schema) ∈ _ by simp [required])
  cases isHash
  obtain ⟨_, isReceipt, receipt⟩ := accepts_member members
    (show ("receipt", true, ReceptionReceiptSchema formats) ∈ _ by simp [required])
  cases isReceipt
  obtain ⟨fields, isObject, _, _, inReceipt⟩ := accepts_object receipt
  obtain ⟨receptionId, atId, id⟩ := accepts_member inReceipt
    (show ("receptionId", true, uuid formats) ∈ _ by simp [required])
  obtain ⟨original, atOriginal, digest⟩ := accepts_member inReceipt
    (show ("originalMessageSha256", true, Sha256Schema) ∈ _ by simp [required])
  obtain ⟨received, atReceived, time⟩ := accepts_member inReceipt
    (show ("providerReceivedAt", true, ReceptionTimeSchema formats) ∈ _ by simp [required])
  obtain ⟨evidenceClass, atClass, class_⟩ := accepts_member inReceipt
    (show ("evidenceClass", true, oneOf ["SIMULATED", "UNQUALIFIED_SOURCE"]) ∈ _ by
      simp [required])
  have isLink : reception.link = [("scope", reception.scope.toJson), ("receptionId", receptionId),
      ("sequence", .str reception.entry.sequence), ("entryHash", .str reception.entry.hash),
      ("originalMessageSha256", original), ("providerReceivedAt", received),
      ("evidenceClass", evidenceClass)] := by
    rw [LinkedReception.link, isObject, memberOf_lookup atId, memberOf_lookup atOriginal,
      memberOf_lookup atReceived, memberOf_lookup atClass]
    rfl
  have linked := accepts_required [
    ("scope", ReceptionScopeSchema formats, reception.scope.toJson),
    ("receptionId", uuid formats, receptionId),
    ("sequence", PositiveSequenceSchema, .str reception.entry.sequence),
    ("entryHash", Sha256Schema, .str reception.entry.hash),
    ("originalMessageSha256", Sha256Schema, original),
    ("providerReceivedAt", ReceptionTimeSchema formats, received),
    ("evidenceClass", .oneOf ["SIMULATED", "UNQUALIFIED_SOURCE"], evidenceClass)] (by simp)
  rw [isLink]
  refine Eq.trans linked ?_
  simp only [List.all_cons, List.all_nil, scope, id, sequence, hash, digest, time, class_,
    Bool.and_true]

theorem accepts_identity {identity : TaskBusinessIdentity}
    (operation : identity.operationName = "vehicle_navigate") :
    ProjectionIdentitySchema.accepts (identityMembers identity) = true := by
  obtain ⟨taskId, executionId, providerId, resourceId, operationName, correlationId,
    simulationId⟩ := identity
  cases operation
  cases correlationId with
  | none =>
    cases simulationId with
    | none => rfl
    | some text => rfl
  | some text =>
    cases simulationId with
    | none => rfl
    | some text => rfl

theorem accepts_newPoint (laws : SchemaLaws platform) {position : GeoPosition}
    {reception : Option ReceptionLink} (bound : index ≤ 255) (accepted : ∀ link ∈ reception,
      (ReceptionLinkSchema platform.formats).accepts (.obj link) = true) :
    (ProjectionPointSchema platform.formats).accepts
      (newPoint index position reception).toJson = true := by
  have number : (number [platform.formats.int, platform.formats.atLeast 0,
      platform.formats.atMost 255]).accepts (.num (toString index)) = true := by
    have int := laws.int index (Nat.le_trans bound (by decide))
    have atLeast := laws.atLeast 0 index (Nat.zero_le _)
    have atMost := laws.atMost 255 index bound
    simp only [Nat.cast_zero, Nat.cast_ofNat] at atLeast atMost
    simp only [accepts, Json.finiteText_toString, List.all_cons, List.all_nil, int, atLeast,
      atMost, Bool.and_true]
  have coordinate : (array 2 3 (.number [])).accepts
      (coordinatesJson position.numbers) = true := by
    have bounds := position.two_or_three
    have each := position.isFinite
    rw [List.all_eq_true] at each
    simp [coordinatesJson, accepts, bounds.1, bounds.2]
    exact each
  have link : (nullable (ReceptionLinkSchema platform.formats)).accepts
      (receptionJson reception) = true := by
    cases reception with
    | none => rfl
    | some members =>
      have isLink := accepted members rfl
      simpa [receptionJson, accepts] using isLink
  rw [accepts_point, Bool.and_eq_true, Bool.and_eq_true]
  exact ⟨number, coordinate, link⟩

theorem trajectoryCoordinates_bounds (drawn : trajectoryCoordinates artifact = .ok coordinates) :
    1 ≤ coordinates.length ∧ coordinates.length ≤ 256 := by
  unfold trajectoryCoordinates at drawn
  obtain ⟨_, _, drawn⟩ := bind_ok drawn
  obtain ⟨geometry, _, drawn⟩ := bind_ok drawn
  obtain ⟨points, _, drawn⟩ := bind_ok drawn
  obtain ⟨_, within, returned⟩ := bind_ok drawn
  cases returned
  have bounds := throwIf_ok within
  push Not at bounds
  exact ⟨List.length_pos_iff.mpr bounds.1, bounds.2⟩

theorem finite_geometry {geometry : GeoGeometry}
    (drawn : trajectoryCoordinates artifact = .ok coordinates)
    (isGeometry : artifactGeometry artifact = .ok geometry) : geometry.toJson.finite = true := by
  have eachFinite (position : GeoPosition) : position.toJson.finite = true := by
    rw [GeoPosition.toJson, finite_coordinatesJson]
    exact position.isFinite
  obtain ⟨found, isFound, shape⟩ := trajectoryCoordinates_ok drawn
  rw [isFound] at isGeometry
  cases isGeometry
  rcases shape with ⟨position, isPoint, _⟩ | ⟨two, isLine⟩
  · rw [isPoint]
    simp [GeoGeometry.toJson, Json.finite, Json.finiteFields, eachFinite]
  · rw [isLine]
    simp [GeoGeometry.toJson, Json.finite, Json.finiteFields, Json.finiteItems_eq_all, eachFinite]

theorem accepts_projectionPoints (laws : SchemaLaws platform) (bound : coordinates.length ≤ 256)
    (old : ∀ before ∈ previous, ∀ point ∈ before.points,
      (ProjectionPointSchema platform.formats).accepts point.toJson = true)
    (linkable : ∀ reception ∈ linked, Linkable platform.formats artifact reception) :
    ∀ point ∈ projectionPoints previous linked coordinates,
      (ProjectionPointSchema platform.formats).accepts point.toJson = true := by
  intro point member
  obtain ⟨index, isPoint⟩ := List.mem_iff_getElem?.mp member
  rw [getElem?_projectionPoints, Option.map_eq_some_iff] at isPoint
  obtain ⟨position, atIndex, isPoint⟩ := isPoint
  have inBounds := (List.getElem?_eq_some_iff.mp atIndex).1
  cases kept : previous.bind fun evidence => evidence.points[index]? with
  | some found =>
    rw [kept] at isPoint
    obtain ⟨before, isPrevious, isKept⟩ := Option.bind_eq_some_iff.mp kept
    rw [← isPoint]
    exact old before isPrevious found (List.mem_of_getElem? isKept)
  | none =>
    rw [kept] at isPoint
    rw [← isPoint]
    apply accepts_newPoint laws (by omega)
    intro members isMembers
    split at isMembers
    · obtain ⟨reception, isReception, isLink⟩ := Option.map_eq_some_iff.mp isMembers
      have accepted := linkable reception isReception
      rw [← isLink]
      exact accepts_link accepted.scope accepted.entry
    · cases isMembers

variable {revision : ProjectionRevision}

theorem accepts_rawEvidence (laws : SchemaLaws platform)
    (projectable : Projectable platform.formats revision) (geometryText : String)
    {points : List ProjectionPoint} (least : 1 ≤ points.length) (most : points.length ≤ 256)
    (accepted : ∀ point ∈ points,
      (ProjectionPointSchema platform.formats).accepts point.toJson = true) :
    (ProjectionEvidenceSchema platform.formats).accepts
      (rawEvidence platform revision.artifact revision.write geometryText points).toJson = true := by
  have number : (positiveInt platform.formats).accepts
      (.num (toString revision.artifact.revision)) = true := by
    have int := laws.int revision.artifact.revision projectable.safe
    have atLeast := laws.atLeast 1 revision.artifact.revision projectable.positive
    simp only [Nat.cast_one] at atLeast
    simp only [positiveInt, accepts, Json.finiteText_toString, List.all_cons, List.all_nil, int,
      atLeast, Bool.and_true]
  have sample : (nullable (nonnegativeInt platform.formats)).accepts
      (nullableCount (revision.write.map TrajectoryProjectionWrite.sampleEveryMilliseconds)) =
        true := by
    cases isWrite : revision.write with
    | none => rfl
    | some request =>
      obtain ⟨_, _, bound, _⟩ := projectable.written request isWrite
      have int := laws.int request.sampleEveryMilliseconds bound
      have atLeast := laws.atLeast 0 request.sampleEveryMilliseconds (Nat.zero_le _)
      simp only [Nat.cast_zero] at atLeast
      simp only [Option.map_some, nullableCount, nonnegativeInt, accepts,
        Json.finiteText_toString, List.all_cons, List.all_nil, int, atLeast, Bool.and_true]
  exact accepts_evidence.mpr ⟨accepts_identity projectable.operation, number, laws.digest _, sample,
    least, most, accepted⟩

/-- A revision that is projectable gets its evidence, upon that of the revision before. -/
theorem buildProjectionEvidence_of (laws : SchemaLaws platform)
    (previous : Option ProjectionEvidence) (projectable : Projectable platform.formats revision)
    (follows : ∀ before ∈ previous, ∀ coordinates,
      trajectoryCoordinates revision.artifact = .ok coordinates →
        Precedes before revision.artifact coordinates)
    (accepted : ∀ before ∈ previous, ∀ point ∈ before.points,
      (ProjectionPointSchema platform.formats).accepts point.toJson = true) :
    ∃ evidence, buildProjectionEvidence platform revision.artifact revision.write previous
      revision.linked = .ok evidence := by
  obtain ⟨coordinates, drawn⟩ := projectable.drawn
  obtain ⟨geometry, isGeometry, _⟩ := trajectoryCoordinates_ok drawn
  have bounds := trajectoryCoordinates_bounds drawn
  have text : historyCanonicalJson geometry.toJson = .ok geometry.toJson.canonicalize :=
    if_pos (finite_geometry drawn isGeometry)
  have sameVersion : ¬ (revision.write.any fun request =>
      request.artifactId != revision.artifact.artifactId ||
        request.revision != revision.artifact.revision) = true := by
    cases isWrite : revision.write with
    | none => exact Bool.noConfusion
    | some request =>
      obtain ⟨sameId, sameRevision, _⟩ := projectable.written request isWrite
      simp [sameId, sameRevision]
  have predecessor : previous.forM (checkPredecessor revision.artifact coordinates) = .ok () := by
    cases previous with
    | none => rfl
    | some before => exact checkPredecessor_of (follows before rfl coordinates drawn)
  have found : ¬ (((revision.write.bind TrajectoryProjectionWrite.receptionId).filter
      (· != "")).any fun receptionId =>
        revision.linked.bind LinkedReception.receptionId != some receptionId) = true := by
    cases isWrite : revision.write with
    | none => exact Bool.noConfusion
    | some request =>
      obtain ⟨_, _, _, receipts⟩ := projectable.written request isWrite
      cases named : request.receptionId with
      | none => simp [named]
      | some receptionId =>
        by_cases isEmpty : receptionId = ""
        · simp [named, isEmpty]
        · have isLinked := receipts receptionId named isEmpty
          simp [named, isEmpty, Option.filter, isLinked]
  have link : revision.linked.forM (checkLinked revision.artifact coordinates) = .ok () := by
    cases isLinked : revision.linked with
    | none => rfl
    | some reception => exact checkLinked_of drawn (projectable.linkable reception isLinked)
  have counted : (projectionPoints previous revision.linked coordinates).length =
      coordinates.length := List.length_mapIdx
  have inSchema := accepts_rawEvidence laws projectable geometry.toJson.canonicalize
    (by rw [counted]; exact bounds.1) (by rw [counted]; exact bounds.2)
    (accepts_projectionPoints laws bounds.2 accepted projectable.linkable)
  refine ⟨rawEvidence platform revision.artifact revision.write geometry.toJson.canonicalize
    (projectionPoints previous revision.linked coordinates), ?_⟩
  simp only [buildProjectionEvidence, drawn, bind, Except.bind, isGeometry,
    throwIf_of_not sameVersion, predecessor, throwIf_of_not found, link, text]
  exact parse_of inSchema

structure EvidenceOf (platform : Platform PublicKey SigningKey) (evidence : ProjectionEvidence)
    (artifact : TaskArtifact) (coordinates : List GeoPosition) : Prop
    extends Describes evidence artifact coordinates where
  hash : ∃ geometry, artifactGeometry artifact = .ok geometry ∧
    evidence.artifactGeometrySha256 = historySha256 platform geometry.toJson.canonicalize
  accepted : (ProjectionEvidenceSchema platform.formats).accepts evidence.toJson = true
  placed : Placed evidence.points

theorem build_evidenceOf
    (built : buildProjectionEvidence platform artifact write previous linked = .ok evidence)
    (earlier : ∀ before ∈ previous, Placed before.points) :
    ∃ coordinates, EvidenceOf platform evidence artifact coordinates := by
  obtain ⟨coordinates, describes⟩ := build_describes built
  obtain ⟨_, geometry, text, _, isGeometry, written, _, isRaw, accepted⟩ :=
    buildProjectionEvidence_ok built
  refine ⟨coordinates, {
    toDescribes := describes
    hash := ⟨geometry, isGeometry, ?_⟩
    accepted := accepted
    placed := build_placed built earlier }⟩
  rw [isRaw, (historyCanonicalJson_ok written).2]
  rfl

/-- The verifier's own build of the artifact succeeds where evidence of it is there. -/
theorem EvidenceOf.build (evidenceOf : EvidenceOf platform evidence artifact coordinates) :
    ∃ expected, buildProjectionEvidence platform artifact none none none = .ok expected ∧
      expected.artifactGeometrySha256 = evidence.artifactGeometrySha256 := by
  obtain ⟨geometry, isGeometry, isHash⟩ := evidenceOf.hash
  have drawn := evidenceOf.drawn
  have text : historyCanonicalJson geometry.toJson = .ok geometry.toJson.canonicalize :=
    if_pos (finite_geometry drawn isGeometry)
  obtain ⟨identity, number, digest, _, least, most, points⟩ :=
    accepts_evidence.mp evidenceOf.accepted
  have lengths : evidence.points.length = coordinates.length := by
    have counted := congrArg List.length evidenceOf.coordinates
    rw [List.length_map, List.length_map] at counted
    exact counted
  have counted : (projectionPoints none none coordinates).length = coordinates.length :=
    List.length_mapIdx
  have each : ∀ point ∈ projectionPoints none none coordinates,
      (ProjectionPointSchema platform.formats).accepts point.toJson = true := by
    intro point member
    obtain ⟨index, isPoint⟩ := List.mem_iff_getElem?.mp member
    rw [getElem?_projectionPoints, Option.map_eq_some_iff] at isPoint
    obtain ⟨position, atIndex, isPoint⟩ := isPoint
    have inBounds := (List.getElem?_eq_some_iff.mp atIndex).1
    have found : evidence.points[index]? = some evidence.points[index] :=
      List.getElem?_eq_getElem (by omega)
    have sameCoordinate : evidence.points[index].coordinate = position.numbers := by
      have images := congrArg (fun list => list[index]?) evidenceOf.coordinates
      simpa [List.getElem?_map, found, atIndex] using images
    have atPoint := points _ (List.mem_of_getElem? found)
    rw [accepts_point, Bool.and_eq_true, Bool.and_eq_true, (evidenceOf.placed index _ found).1,
      sameCoordinate] at atPoint
    rw [← isPoint]
    change (ProjectionPointSchema platform.formats).accepts
      (newPoint index position (if index + 1 = coordinates.length then none else none)).toJson = true
    rw [ite_self, accepts_point, Bool.and_eq_true, Bool.and_eq_true]
    exact ⟨atPoint.1, atPoint.2.1, rfl⟩
  have inSchema : (ProjectionEvidenceSchema platform.formats).accepts
      (rawEvidence platform artifact none geometry.toJson.canonicalize
        (projectionPoints none none coordinates)).toJson = true := by
    rw [evidenceOf.identity] at identity
    rw [evidenceOf.revision] at number
    rw [isHash] at digest
    rw [lengths, ← counted] at least most
    exact accepts_evidence.mpr ⟨identity, number, digest, rfl, least, most, each⟩
  refine ⟨rawEvidence platform artifact none geometry.toJson.canonicalize
    (projectionPoints none none coordinates), ?_, isHash.symm⟩
  simp only [buildProjectionEvidence, drawn, bind, Except.bind, isGeometry, text]
  exact parse_of inSchema

/-- The signed evidence is accepted for the artifact, and for no other version. -/
def VerifiesOnly (platform : Platform PublicKey SigningKey) (key : SigningKey)
    (artifact : TaskArtifact) (evidence : ProjectionEvidence) : Prop :=
  ∃ signed, signProjectionEvidence platform evidence key = .ok signed ∧
    verifyProjectionEvidence platform signed.toJson (platform.publicKey key) artifact =
      .ok evidence ∧
    ∀ other : TaskArtifact,
      (other.artifactId ≠ artifact.artifactId ∨ other.revision ≠ artifact.revision ∨
        other.identity ≠ artifact.identity ∨
        artifactGeometry other ≠ artifactGeometry artifact) →
      ∃ failure, verifyProjectionEvidence platform signed.toJson (platform.publicKey key) other =
        .error failure

theorem verified_signed {trustedKey : PublicKey} {found : ProjectionEvidence}
    (laws : SigningLaws platform key)
    (accepted : (ProjectionEvidenceSchema platform.formats).accepts evidence.toJson = true)
    (verified : verifyProjectionEvidence platform (signedWith platform key evidence).toJson trustedKey
      artifact = .ok found) : found = evidence := by
  unfold verifyProjectionEvidence at verified
  rw [parse_signedWith laws accepted] at verified
  obtain ⟨signed, isSigned, verified⟩ := bind_ok verified
  cases isSigned
  obtain ⟨_, _, verified⟩ := bind_ok verified
  obtain ⟨_, _, verified⟩ := bind_ok verified
  obtain ⟨_, _, verified⟩ := bind_ok verified
  obtain ⟨_, _, verified⟩ := bind_ok verified
  obtain ⟨_, _, verified⟩ := bind_ok verified
  obtain ⟨_, _, verified⟩ := bind_ok verified
  obtain ⟨_, _, verified⟩ := bind_ok verified
  obtain ⟨_, _, returned⟩ := bind_ok verified
  cases returned
  rfl

theorem EvidenceOf.verifiesOnly (laws : SigningLaws platform key)
    (evidenceOf : EvidenceOf platform evidence artifact coordinates) :
    VerifiesOnly platform key artifact evidence := by
  obtain ⟨expected, built, hash⟩ := evidenceOf.build
  obtain ⟨coordinates', describes⟩ := build_describes built
  have sameCoordinates : coordinates' = coordinates := by
    have drawn := describes.drawn
    rw [evidenceOf.drawn] at drawn
    cases drawn
    rfl
  rw [sameCoordinates] at describes
  refine ⟨signedWith platform key evidence, signProjectionEvidence_of laws evidenceOf.accepted,
    ?_, ?_⟩
  · exact verifySignedWith laws evidenceOf.accepted built
      (describes.identity.trans evidenceOf.identity.symm)
      (describes.artifactId.trans evidenceOf.artifactId.symm)
      (describes.revision.trans evidenceOf.revision.symm) hash
      (evidenceOf.coordinates.trans describes.coordinates.symm) evidenceOf.placed
  · intro other differs
    cases answer : verifyProjectionEvidence platform (signedWith platform key evidence).toJson
        (platform.publicKey key) other with
    | error failure => exact ⟨failure, rfl⟩
    | ok found =>
      obtain ⟨_, ofOther⟩ := verified_describes answer
      rw [verified_signed laws evidenceOf.accepted answer] at ofOther
      obtain ⟨sameId, sameRevision, sameIdentity, sameGeometry⟩ :=
        evidenceOf.toDescribes.unique ofOther
      rcases differs with id | revision | identity | geometry
      · exact absurd sameId id
      · exact absurd sameRevision revision
      · exact absurd sameIdentity identity
      · exact absurd sameGeometry geometry

/-- The evidence of one revision after another, each upon the one before. -/
def buildEach (platform : Platform PublicKey SigningKey) :
    Option ProjectionEvidence → List ProjectionRevision → Except String (List ProjectionEvidence)
  | _, [] => .ok []
  | previous, revision :: rest => do
    let evidence ← buildProjectionEvidence platform revision.artifact revision.write previous
      revision.linked
    let later ← buildEach platform (some evidence) rest
    return evidence :: later

/-- The later artifact is the earlier one with one coordinate appended. -/
def AppendsOne (earlier later : ProjectionRevision) : Prop :=
  later.artifact.artifactId = earlier.artifact.artifactId ∧
  later.artifact.identity = earlier.artifact.identity ∧
  later.artifact.revision = earlier.artifact.revision + 1 ∧
  ∃ coordinates coordinate, trajectoryCoordinates earlier.artifact = .ok coordinates ∧
    trajectoryCoordinates later.artifact = .ok (coordinates ++ [coordinate])

/-- The later evidence keeps every point of the earlier and adds the appended one. -/
def AddsPoint (earlier later : ProjectionRevision × ProjectionEvidence) : Prop :=
  ∃ coordinates coordinate point,
    trajectoryCoordinates earlier.1.artifact = .ok coordinates ∧
    trajectoryCoordinates later.1.artifact = .ok (coordinates ++ [coordinate]) ∧
    later.2.points = earlier.2.points ++ [point] ∧
    point.coordinateIndex = earlier.2.points.length ∧ point.coordinate = coordinate.numbers

variable {earlier later : ProjectionRevision}

theorem addsPoint_of_build (describes : Describes before earlier.artifact coordinates)
    (built : buildProjectionEvidence platform later.artifact later.write (some before) later.linked =
      .ok evidence) : AddsPoint (earlier, before) (later, evidence) := by
  obtain ⟨old, last, drawn, kept, points⟩ := build_extends built
  have injective : Function.Injective GeoPosition.numbers := fun _ _ => GeoPosition.eq_of_numbers
  have isOld : coordinates = old :=
    List.map_injective_iff.mpr injective (describes.coordinates.symm.trans kept)
  refine ⟨old, last, _, ?_, drawn, points, rfl, rfl⟩
  rw [← isOld]
  exact describes.drawn

theorem precedes_of_appendsOne (describes : Describes before earlier.artifact coordinates)
    (appended : AppendsOne earlier later) {drawn : List GeoPosition}
    (isDrawn : trajectoryCoordinates later.artifact = .ok drawn) :
    Precedes before later.artifact drawn := by
  obtain ⟨sameId, sameIdentity, next, old, last, isOld, isAppended⟩ := appended
  rw [isDrawn] at isAppended
  rw [describes.drawn] at isOld
  cases isAppended
  cases isOld
  exact {
    artifactId := describes.artifactId.trans sameId.symm
    revision := by rw [describes.revision, next]
    identity := describes.identity.trans sameIdentity.symm
    appended := ⟨coordinates, last, rfl, describes.coordinates⟩ }

variable {rest : List ProjectionRevision}

theorem buildEach_cons {evidences : List ProjectionEvidence}
    (built : buildEach platform previous (revision :: rest) = .ok evidences) :
    ∃ evidence later, evidences = evidence :: later ∧
      buildProjectionEvidence platform revision.artifact revision.write previous revision.linked =
        .ok evidence ∧ buildEach platform (some evidence) rest = .ok later := by
  unfold buildEach at built
  obtain ⟨evidence, first, built⟩ := bind_ok built
  obtain ⟨later, others, returned⟩ := bind_ok built
  cases returned
  exact ⟨evidence, later, rfl, first, others⟩

theorem buildEach_evidenceOf {revisions : List ProjectionRevision} :
    ∀ {previous : Option ProjectionEvidence} {evidences : List ProjectionEvidence},
      buildEach platform previous revisions = .ok evidences →
      (∀ before ∈ previous, Placed before.points) →
      List.Forall₂ (fun revision evidence =>
        ∃ coordinates, EvidenceOf platform evidence revision.artifact coordinates)
        revisions evidences := by
  induction revisions with
  | nil =>
    intro previous evidences built _
    cases built
    exact .nil
  | cons revision rest ih =>
    intro previous evidences built earlier
    obtain ⟨evidence, later, isCons, first, others⟩ := buildEach_cons built
    obtain ⟨coordinates, evidenceOf⟩ := build_evidenceOf first earlier
    rw [isCons]
    apply List.Forall₂.cons
    · exact ⟨coordinates, evidenceOf⟩
    · apply ih others
      intro before isEvidence
      cases isEvidence
      exact evidenceOf.placed

theorem buildEach_addsPoint :
    ∀ {revision : ProjectionRevision} {before : ProjectionEvidence}
      {evidences : List ProjectionEvidence} {coordinates : List GeoPosition},
      EvidenceOf platform before revision.artifact coordinates →
      buildEach platform (some before) rest = .ok evidences →
      List.IsChain AddsPoint ((revision, before) :: rest.zip evidences) := by
  induction rest with
  | nil =>
    intro revision before evidences coordinates _ built
    cases built
    exact .singleton _
  | cons next rest ih =>
    intro revision before evidences coordinates evidenceOf built
    obtain ⟨evidence, later, isCons, first, others⟩ := buildEach_cons built
    have placed : ∀ found ∈ some before, Placed found.points := by
      intro found isFound
      cases isFound
      exact evidenceOf.placed
    obtain ⟨coordinates', evidenceOf'⟩ := build_evidenceOf first placed
    rw [isCons, List.zip_cons_cons]
    apply List.IsChain.cons_cons
    · exact addsPoint_of_build evidenceOf.toDescribes first
    · exact ih evidenceOf' others

theorem buildEach_of (laws : SchemaLaws platform) :
    ∀ {revision : ProjectionRevision} {before : ProjectionEvidence}
      {coordinates : List GeoPosition},
      EvidenceOf platform before revision.artifact coordinates →
      List.IsChain AppendsOne (revision :: rest) →
      (∀ later ∈ rest, Projectable platform.formats later) →
      ∃ evidences, buildEach platform (some before) rest = .ok evidences := by
  induction rest with
  | nil => exact fun _ _ _ => ⟨[], rfl⟩
  | cons next rest ih =>
    intro revision before coordinates evidenceOf appended projectable
    rw [List.isChain_cons_cons] at appended
    obtain ⟨_, _, _, _, _, _, points⟩ := accepts_evidence.mp evidenceOf.accepted
    have placed : ∀ found ∈ some before, Placed found.points := by
      intro found isFound
      cases isFound
      exact evidenceOf.placed
    obtain ⟨evidence, built⟩ := buildProjectionEvidence_of laws (some before)
      (projectable next List.mem_cons_self)
      (by
        intro found isFound drawn isDrawn
        cases isFound
        exact precedes_of_appendsOne evidenceOf.toDescribes appended.1 isDrawn)
      (by
        intro found isFound
        cases isFound
        exact points)
    obtain ⟨coordinates', evidenceOf'⟩ := build_evidenceOf built placed
    obtain ⟨later, others⟩ := ih evidenceOf' appended.2
      fun later member => projectable later (List.mem_cons_of_mem next member)
    refine ⟨evidence :: later, ?_⟩
    simp only [buildEach, built, bind, Except.bind, others]
    rfl

/-- Revisions that append one coordinate at a time get their evidence, each upon that of the one
before. Wherever evidence is built, it keeps every point of the evidence before it and adds that of
the appended coordinate, and its signed form is accepted for its own artifact version only. -/
theorem evidence_follows_revisions {key : SigningKey} (schema : SchemaLaws platform)
    (signing : SigningLaws platform key) (revisions : List ProjectionRevision) :
    (List.IsChain AppendsOne revisions →
      (∀ revision ∈ revisions, Projectable platform.formats revision) →
      ∃ evidences, buildEach platform none revisions = .ok evidences) ∧
    ∀ evidences, buildEach platform none revisions = .ok evidences →
      List.IsChain AddsPoint (revisions.zip evidences) ∧
      List.Forall₂ (fun revision evidence => VerifiesOnly platform key revision.artifact evidence)
        revisions evidences := by
  have noneBefore : ∀ before ∈ (none : Option ProjectionEvidence), Placed before.points := by
    intro before isNone
    cases isNone
  constructor
  · intro appended projectable
    cases revisions with
    | nil => exact ⟨[], rfl⟩
    | cons revision rest =>
      obtain ⟨evidence, built⟩ := buildProjectionEvidence_of schema none
        (projectable revision List.mem_cons_self)
        (by intro before isNone; cases isNone) (by intro before isNone; cases isNone)
      obtain ⟨coordinates, evidenceOf⟩ := build_evidenceOf built noneBefore
      obtain ⟨later, others⟩ := buildEach_of schema evidenceOf appended
        fun next member => projectable next (List.mem_cons_of_mem revision member)
      refine ⟨evidence :: later, ?_⟩
      simp only [buildEach, built, bind, Except.bind, others]
      rfl
  · intro evidences built
    constructor
    · cases revisions with
      | nil =>
        cases built
        exact .nil
      | cons revision rest =>
        obtain ⟨evidence, later, isCons, first, others⟩ := buildEach_cons built
        obtain ⟨coordinates, evidenceOf⟩ := build_evidenceOf first noneBefore
        rw [isCons, List.zip_cons_cons]
        exact buildEach_addsPoint evidenceOf others
    · have each := buildEach_evidenceOf built noneBefore
      refine each.imp ?_
      intro revision evidence found
      obtain ⟨coordinates, evidenceOf⟩ := found
      exact evidenceOf.verifiesOnly signing

end Theory

namespace ProjectionSample

def identity : TaskBusinessIdentity := {
  taskId := "task-1"
  executionId := "execution-1"
  providerId := "provider-1"
  resourceId := "vehicle:1"
  operationName := "vehicle_navigate"
  correlationId := none
  simulationId := none }

def start : GeoPosition := {
  numbers := ["114", "30"]
  two_or_three := by decide
  isFinite := by decide }

def next : GeoPosition := {
  numbers := ["114.1", "30.1"]
  two_or_three := by decide
  isFinite := by decide }

def artifact (revision : Nat) (geometry : GeoGeometry) : TaskArtifact := {
  artifactType := "navigation.trajectory"
  artifactId := "trajectory-1"
  revision := revision
  identity := identity
  availability := .available (.geojson geometry) }

def revision (number : Nat) (geometry : GeoGeometry) : ProjectionRevision := {
  artifact := artifact number geometry
  write := some {
    artifactId := "trajectory-1"
    revision := number
    missionId := "mission-1"
    sampleEveryMilliseconds := 1000
    receptionId := none
    sourceStreamId := none }
  linked := none }

def point : GeoGeometry := .point start

def line : GeoGeometry := .lineString [start, next] (by decide)

def revisions : List ProjectionRevision := [revision 1 point, revision 2 line]

def sha256 (text : String) : String :=
  if text = point.toJson.canonicalize then
    "4a269b75d370f7810d1dbbbd8ab32a4bb80976dbc1ff0392d40fcd3114719c6f"
  else if text = line.toJson.canonicalize then
    "461feaaefdc034813c31d0fa0dd3de6332eb2437fff9d88954800ee905adf9e0"
  else
    "0000000000000000000000000000000000000000000000000000000000000000"

def evidence (number : Nat) (geometry : GeoGeometry) (positions : List GeoPosition) :
    ProjectionEvidence := {
  identity := identity
  artifactId := "trajectory-1"
  revision := number
  artifactGeometrySha256 := sha256 geometry.toJson.canonicalize
  sampleEveryMilliseconds := some 1000
  missionId := some "mission-1"
  points := positions.mapIdx fun index position => newPoint index position none }

def sign (text : String) : List UInt8 :=
  if text = (evidence 1 point [start]).toJson.canonicalize then
    decode
      "5vY7S6AQwS2JlFELlLUlwm14kaL-RCKoBIbUF3sgUhsC6CkBRd0jl8pDhq9AU8NZsi05jy9sKZlVLa25fc_RBQ"
  else if text = (evidence 2 line [start, next]).toJson.canonicalize then
    decode
      "zVRhBqPd_iIVGFqH4umf1MXRUJNpWqqx_z1ZCtRBd-hUH6UHsq70GW0sboTgASgcD95jxufNHlVzJfb1nmvABg"
  else
    List.replicate 64 0

def platform : Platform Unit Unit := {
  formats := CaptureSample.formats
  sha256 := sha256
  ed25519 := fun _ => true
  keyDigest := fun _ => "324be2dea8bc44461b0233e51fa48902ed6b1cc671e7739af2551e0bfe68f54e"
  publicKey := id
  sign := fun text _ => sign text
  verify := fun text _ signature => decide (signature = sign text) }

theorem schemaLaws : SchemaLaws platform := {
  int := fun number _ => List.all_eq_true.mpr (isDigits_toString number)
  atLeast := by
    intro least number bound
    change decide ((least : Int) ≤ (bigInt (toString number) : Int)) = true
    rw [bigInt_toString, decide_eq_true_eq]
    exact Int.ofNat_le.mpr bound
  atMost := by
    intro most number bound
    change decide ((bigInt (toString number) : Int) ≤ most) = true
    rw [bigInt_toString, decide_eq_true_eq]
    exact Int.ofNat_le.mpr bound
  digest := by
    intro text
    change sha256Pattern (sha256 text) = true
    unfold sha256
    split
    · exact (sha256Pattern_ofList _).trans (by decide)
    · split
      · exact (sha256Pattern_ofList _).trans (by decide)
      · exact (sha256Pattern_ofList _).trans (by decide) }

theorem signingLaws : SigningLaws platform () := {
  ed25519 := rfl
  keyDigest := (sha256Pattern_ofList _).trans (by decide)
  length := by
    intro text
    change (sign text).length = 64
    unfold sign
    split
    · exact (congrArg List.length (decode_ofList _)).trans (by decide)
    · split
      · exact (congrArg List.length (decode_ofList _)).trans (by decide)
      · rfl
  verifies := fun _ => decide_eq_true rfl }

theorem projectable (number : Nat) (geometry : GeoGeometry) (positive : 1 ≤ number)
    (safe : number ≤ maxSafeInteger)
    (drawn : ∃ coordinates, trajectoryCoordinates (artifact number geometry) = .ok coordinates) :
    Projectable platform.formats (revision number geometry) := {
  drawn := drawn
  operation := rfl
  positive := positive
  safe := safe
  written := by
    intro write isWrite
    cases isWrite
    have sample : 1000 ≤ maxSafeInteger := by decide
    refine ⟨rfl, rfl, sample, ?_⟩
    intro receptionId isNone
    cases isNone
  linkable := by
    intro linked isNone
    cases isNone }

theorem evidence_follows_revisions_sample :
    ∃ evidences, buildEach platform none revisions = .ok evidences ∧
      List.IsChain AddsPoint (revisions.zip evidences) ∧
      List.Forall₂ (fun revision evidence => VerifiesOnly platform () revision.artifact evidence)
        revisions evidences := by
  have follows := evidence_follows_revisions schemaLaws signingLaws revisions
  have appended : List.IsChain AppendsOne revisions := by
    apply List.IsChain.cons_cons
    · exact ⟨rfl, rfl, rfl, [start], next, rfl, rfl⟩
    · exact .singleton _
  have each : ∀ one ∈ revisions, Projectable platform.formats one := by
    intro one member
    simp only [revisions, List.mem_cons, List.not_mem_nil, or_false] at member
    rcases member with isFirst | isSecond
    · rw [isFirst]
      exact projectable 1 point (by decide) (by decide) ⟨_, rfl⟩
    · rw [isSecond]
      exact projectable 2 line (by decide) (by decide) ⟨_, rfl⟩
  obtain ⟨evidences, built⟩ := follows.1 appended each
  exact ⟨evidences, built, follows.2 evidences built⟩

end ProjectionSample

end TrajectoryHistory

end SdarRuntime
