import SdarRuntime.Library.Histories
import SdarRuntime.Provider.FactProjection
import Mathlib.Data.List.Sort

/-!
The projection of what a reconnaissance sees of one source target. Every applied fact is the next
version of the target; while its position is seen again and again, a track grows from sighting to
sighting.
-/

namespace SdarRuntime

namespace TargetProjection

open FactProjection Datetime OrderedMap

inductive Visibility where
  | visible
  | lost
  | unknown
  deriving DecidableEq

inductive TrackingState where
  | unlocked
  | locking
  | locked
  | lost
  | unknown
  deriving DecidableEq

abbrev Point := List ℚ

structure Location where
  longitude : ℚ
  latitude : ℚ
  altitude : Option ℚ
  deriving DecidableEq

structure Pixel where
  x : ℚ
  y : ℚ
  width : Option ℚ
  height : Option ℚ
  deriving DecidableEq

structure SourceTarget where
  observationSessionId : String
  sensorId : String
  sourceTargetId : String
  deriving DecidableEq

structure ReconTargetFact (platform : Platform) where
  missionId : String
  correlation : Option String
  sourceRevision : String
  observedAt : Datetime platform
  visibility : Visibility
  trackingState : TrackingState
  targetType : Option String
  confidence : Option ℚ
  location : Option Location
  pixel : Option Pixel

inductive ImageShape where
  | point (x y : ℚ)
  | bbox (x y width height : ℚ)
  deriving DecidableEq

structure ImageObservation where
  frameId : String
  shape : ImageShape
  deriving DecidableEq

inductive Content where
  | geojson (coordinates : Point)
  | image (observation : ImageObservation)
  deriving DecidableEq

inductive PositionQuality where
  | observed
  | unknown
  deriving DecidableEq

structure TargetProperties (platform : Platform) where
  targetType : Option String
  confidence : Option ℚ
  visibility : Visibility
  trackingState : TrackingState
  firstSeen : Datetime platform
  lastSeen : Datetime platform
  sensorId : String
  observationSessionId : String
  lastSeenPositionQuality : PositionQuality
  deriving DecidableEq

structure TargetArtifact (platform : Platform) where
  artifactType : String
  revision : Nat
  sourceRecordRef : String
  sourceRevision : String
  createdAt : Datetime platform
  updatedAt : Datetime platform
  properties : TargetProperties platform
  /-- An artifact without content is unavailable. -/
  content : Option Content
  representation : Option ImageObservation

structure TrackArtifact (platform : Platform) where
  artifactId : String
  revision : Nat
  sourceRecordRef : String
  sourceRevision : String
  createdAt : Datetime platform
  updatedAt : Datetime platform
  target : Business.BusinessObjectRef
  coordinates : List Point

structure Schemas (platform : Platform) where
  target : TargetArtifact platform → Bool
  track : TrackArtifact platform → Bool

structure Version (platform : Platform) where
  artifact : TargetArtifact platform
  fact : ReconTargetFact platform

structure Store (platform : Platform) where
  context : Option (TaskBusinessContext platform (OrderedMap String Json))
  versions : List (Version platform)
  tracks : String → List (TrackArtifact platform)

section

variable {platform : Platform}

def Store.latest (store : Store platform) : Option (TargetArtifact platform) :=
  store.versions.getLast?.map Version.artifact

def Store.trackVersion (store : Store platform) (ref : Business.BusinessObjectRef) :
    Option (TrackArtifact platform) :=
  if ref.kind = .artifact then
    (store.tracks ref.id).find? fun track => track.revision == ref.revision
  else none

/-! ### The fact -/

def Location.valid (location : Location) : Bool :=
  -180 ≤ location.longitude && location.longitude ≤ 180 && -90 ≤ location.latitude &&
    location.latitude ≤ 90

def Pixel.valid (pixel : Pixel) : Bool :=
  0 ≤ pixel.x && 0 ≤ pixel.y && pixel.width.all (0 < ·) && pixel.height.all (0 < ·)

def reconCorrelations : List String := ["STRICT_CORRELATED", "INFERRED_CURRENT_EXECUTION"]

def ReconTargetFact.valid (target : SourceTarget) (fact : ReconTargetFact platform) : Bool :=
  Business.isIdentifier fact.missionId && fact.correlation.all (· ∈ reconCorrelations) &&
    Business.isIdentifier target.observationSessionId && Business.isIdentifier target.sensorId &&
    Business.isIdentifier target.sourceTargetId && Business.isIdentifier fact.sourceRevision &&
    fact.targetType.all Business.isIdentifier && fact.confidence.all (fun value =>
      0 ≤ value && value ≤ 1) && fact.location.all Location.valid && fact.pixel.all Pixel.valid

/-- A source revision that is a capture time: a number without leading zeros. -/
def captureRevision (sourceRevision : String) : Option Nat :=
  match sourceRevision.toList with
  | [] => none
  | first :: rest =>
    if (first :: rest).all Char.isDigit ∧ (first ≠ '0' ∨ rest = []) then
      some (DecimalText.value (first :: rest))
    else none

def Location.point (location : Location) : Point :=
  [location.longitude, location.latitude] ++ location.altitude.toList

def Pixel.observation (sensorId : String) (pixel : Pixel) : ImageObservation :=
  { frameId := sensorId ++ ".pixel"
    shape :=
      match pixel.width, pixel.height with
      | some width, some height => .bbox pixel.x pixel.y width height
      | _, _ => .point pixel.x pixel.y }

def ReconTargetFact.geo (fact : ReconTargetFact platform) : Option Point :=
  fact.location.map Location.point

def ReconTargetFact.image (target : SourceTarget) (fact : ReconTargetFact platform) :
    Option ImageObservation :=
  fact.pixel.map (Pixel.observation target.sensorId)

/-! ### The next version of the target -/

def contentOf (target : SourceTarget) (fact : ReconTargetFact platform)
    (previous : Option (TargetArtifact platform)) : Option Content :=
  if fact.visibility = .visible then
    (fact.geo.map Content.geojson).or ((fact.image target).map Content.image)
  else previous.bind TargetArtifact.content

def propertiesOf (target : SourceTarget) (fact : ReconTargetFact platform)
    (previous : Option (TargetArtifact platform)) : TargetProperties platform :=
  let prior := previous.map TargetArtifact.properties
  { targetType := fact.targetType
    confidence := fact.confidence
    visibility := fact.visibility
    trackingState := fact.trackingState
    firstSeen := (prior.map TargetProperties.firstSeen).getD fact.observedAt
    lastSeen :=
      if fact.visibility = .visible then fact.observedAt
      else (prior.map TargetProperties.lastSeen).getD fact.observedAt
    sensorId := target.sensorId
    observationSessionId := target.observationSessionId
    lastSeenPositionQuality :=
      if fact.visibility = .visible then
        if fact.geo.isSome then .observed else .unknown
      else (prior.map TargetProperties.lastSeenPositionQuality).getD .unknown }

def artifactOf (target : SourceTarget) (fact : ReconTargetFact platform)
    (previous : Option (TargetArtifact platform)) : TargetArtifact platform :=
  let content := contentOf target fact previous
  { artifactType := "target.object"
    revision := (previous.map TargetArtifact.revision).getD 0 + 1
    sourceRecordRef := target.sourceTargetId
    sourceRevision := fact.sourceRevision
    createdAt := (previous.map TargetArtifact.createdAt).getD fact.observedAt
    updatedAt := fact.observedAt
    properties := propertiesOf target fact previous
    content
    representation :=
      if content.isNone then none
      else if fact.visibility = .visible then
        if fact.geo.isSome then fact.image target else none
      else previous.bind TargetArtifact.representation }

/-! ### What is decided on the latest version -/

inductive Verdict where
  | duplicate
  | next
  deriving DecidableEq

/-- The source's own order of captures, where both revisions are numbers. -/
def capturedBefore (sourceRevision previousRevision : String) : Bool :=
  match captureRevision sourceRevision, captureRevision previousRevision with
  | some incoming, some previous => incoming < previous
  | _, _ => false

/-- What a fact with the latest version's source revision would change of it. -/
def repeats (target : SourceTarget) (fact : ReconTargetFact platform)
    (previous : TargetArtifact platform) : Bool :=
  let content := contentOf target fact (some previous)
  previous.sourceRecordRef == target.sourceTargetId &&
    previous.content.isSome == content.isSome &&
    previous.properties == propertiesOf target fact (some previous) &&
    (previous.content.isNone || previous.content == content)

def judge (target : SourceTarget) (fact : ReconTargetFact platform)
    (previous : Option (TargetArtifact platform)) : Except String Verdict :=
  match previous with
  | none =>
    if fact.visibility ≠ .visible then .error "TARGET_LOSS_WITHOUT_OBSERVATION" else .ok .next
  | some previous =>
    if previous.artifactType ≠ "target.object" then .error "TARGET_ARTIFACT_ID_CONFLICT"
    else if fact.observedAt.compare previous.updatedAt < 0 then .ok .duplicate
    else if previous.sourceRevision = fact.sourceRevision then
      if repeats target fact previous then .ok .duplicate
      else .error "TARGET_SOURCE_VERSION_CONFLICT"
    else if capturedBefore fact.sourceRevision previous.sourceRevision then .ok .duplicate
    else .ok .next

/-! ### The track -/

/-- The position of the latest version, where it was seen and measured. -/
def previousGeoPoint (previous : Option (TargetArtifact platform)) : Option Point :=
  previous.bind fun artifact =>
    if artifact.properties.visibility = .visible then
      match artifact.content with
      | some (.geojson coordinates) => some coordinates
      | _ => none
    else none

def seenPoint (fact : ReconTargetFact platform) : Option Point :=
  if fact.visibility = .visible then fact.geo else none

inductive TrackStep (platform : Platform) where
  /-- The same sighting again: the track stays. -/
  | stay
  | extend (previous : TargetArtifact platform) (origin position : Point)
  | drop

/-- Two sightings on end at different times make a track; at one time they must agree. -/
def trackStep (fact : ReconTargetFact platform) (previous : Option (TargetArtifact platform)) :
    Except String (TrackStep platform) :=
  match previous, previousGeoPoint previous, seenPoint fact with
  | some artifact, some origin, some position =>
    if fact.observedAt.compare artifact.updatedAt = 0 then
      if origin = position then .ok .stay else .error "TARGET_SAME_TIME_POSITION_CONFLICT"
    else if fact.observedAt.compare artifact.updatedAt > 0 then .ok (.extend artifact origin position)
    else .ok .drop
  | _, _, _ => .ok .drop

def maxTrackPoints : Nat := 10000

def trackKey (artifactId : String) : String := "targetTrack:" ++ artifactId

def trackId (artifactId : String) (revision : Nat) : String :=
  artifactId ++ "-track-" ++ toString revision

/-- The active track grows by a point; without one, or when it is full, a track begins at the
position before. -/
def nextTrack (artifactId : String) (target : SourceTarget) (fact : ReconTargetFact platform)
    (previous : TargetArtifact platform) (priorTrack : Option (TrackArtifact platform))
    (origin position : Point) : TrackArtifact platform :=
  let extension := priorTrack.filter fun track => track.coordinates.length < maxTrackPoints
  { artifactId :=
      (extension.map TrackArtifact.artifactId).getD (trackId artifactId previous.revision)
    revision := (extension.map fun track => track.revision + 1).getD 1
    sourceRecordRef := target.sourceTargetId
    sourceRevision := fact.sourceRevision
    createdAt := (extension.map TrackArtifact.createdAt).getD previous.updatedAt
    updatedAt := fact.observedAt
    target :=
      { kind := .artifact
        id := artifactId
        revision := previous.revision + 1 }
    coordinates := (extension.map fun track => track.coordinates ++ [position]).getD [origin, position] }

def artifactRef (artifactId : String) (revision : Nat) : Business.BusinessObjectRef :=
  { kind := .artifact
    id := artifactId
    revision }

def TrackArtifact.ref (track : TrackArtifact platform) : Business.BusinessObjectRef :=
  artifactRef track.artifactId track.revision

def extendedTrack (artifactId : String) (target : SourceTarget) (store : Store platform)
    (current : TaskBusinessContext platform (OrderedMap String Json))
    (fact : ReconTargetFact platform) (previous : TargetArtifact platform)
    (origin position : Point) : TrackArtifact platform :=
  let priorTrack := (current.activeRefs.get? (trackKey artifactId)).bind store.trackVersion
  nextTrack artifactId target fact previous priorTrack origin position

/-- The track a fact leaves the Context with, and the references of the Context. -/
def trackAfter (artifactId : String) (target : SourceTarget) (store : Store platform)
    (current : TaskBusinessContext platform (OrderedMap String Json))
    (fact : ReconTargetFact platform) :
    TrackStep platform → Option (TrackArtifact platform) × Business.ActiveRefs
  | .stay => (none, current.activeRefs)
  | .extend previous origin position =>
    let track := extendedTrack artifactId target store current fact previous origin position
    (some track, current.activeRefs.set (trackKey artifactId) track.ref)
  | .drop => (none, current.activeRefs.erase (trackKey artifactId))

/-! ### The processor -/

def targetArtifactId (execution : ProviderExecution platform) (target : SourceTarget) : String :=
  "target-" ++ String.ofList ((platform.sha256 (Json.stringify (.arr [
    .str execution.externalExecutionId, .str target.observationSessionId, .str target.sensorId,
    .str target.sourceTargetId]))).toList.take 32)

def admission (execution : ProviderExecution platform) (target : SourceTarget) (store : Store platform)
    (fact : ReconTargetFact platform) :
    Except String (TaskBusinessContext platform (OrderedMap String Json)) := do
  Except.refuse (!fact.valid target) "ZodError"
  assertExecution "TARGET_EXECUTION_SESSION_BINDING_INVALID" "TARGET_TASK_TERMINAL" execution
    fact.missionId fact.observedAt
  Except.refuse (target.observationSessionId ≠ fact.missionId)
    "TARGET_EXECUTION_SESSION_BINDING_INVALID"
  openContext "TARGET_CONTEXT_UNAVAILABLE" store.context

def nextContext (artifactId : String)
    (current : TaskBusinessContext platform (OrderedMap String Json))
    (fact : ReconTargetFact platform) (revision : Nat)
    (track : Option (TrackArtifact platform) × Business.ActiveRefs) :
    TaskBusinessContext platform (OrderedMap String Json) :=
  { current with
    contextRevision := current.contextRevision + 1
    activeRefs := track.2
    properties :=
      match fact.correlation with
      | some correlation => current.properties.set "reconTargetCorrelation" (.str correlation)
      | none => current.properties
    artifactRefs := current.artifactRefs ++ [artifactRef artifactId revision] ++
      (track.1.map TrackArtifact.ref).toList
    updatedAt :=
      if fact.observedAt.compare current.updatedAt > 0 then fact.observedAt
      else current.updatedAt }

/-- A change set: the next Context, the version of the target and one of a track. -/
structure Change (platform : Platform) where
  context : TaskBusinessContext platform (OrderedMap String Json)
  version : Version platform
  track : Option (TrackArtifact platform)

def changeOf (artifactId : String) (target : SourceTarget) (store : Store platform)
    (current : TaskBusinessContext platform (OrderedMap String Json))
    (fact : ReconTargetFact platform) (track : Option (TrackArtifact platform) × Business.ActiveRefs) :
    Change platform :=
  let artifact := artifactOf target fact store.latest
  { context := nextContext artifactId current fact artifact.revision track
    version := { artifact, fact }
    track := track.1 }

inductive Outcome where
  | committed
  | duplicate
  deriving DecidableEq

variable (schemas : Schemas platform) (execution : ProviderExecution platform)
  (target : SourceTarget)

def conclude (fact : ReconTargetFact platform) (store : Store platform) :
    Except String (Attempts.Decision (Change platform) Outcome) := do
  let artifactId := targetArtifactId execution target
  let current ← admission execution target store fact
  match ← judge target fact store.latest with
  | .duplicate => return .answer .duplicate
  | .next =>
    Except.refuse (!schemas.target (artifactOf target fact store.latest)) "ZodError"
    let step ← trackStep fact store.latest
    let track := trackAfter artifactId target store current fact step
    Except.refuse (!track.1.all schemas.track) "ZodError"
    return .change (changeOf artifactId target store current fact track) .committed

def Store.write (store : Store platform) (change : Change platform) : Store platform :=
  { context := some change.context
    versions := store.versions ++ [change.version]
    tracks :=
      match change.track with
      | some track =>
        Function.update store.tracks track.artifactId (store.tracks track.artifactId ++ [track])
      | none => store.tracks }

/-- One attempt of `apply`. A call makes up to three while others are faster. -/
def attempt (store : Store platform) (fact : ReconTargetFact platform) (fate : Attempts.Fate) :
    Attempts.Ended Outcome × Store platform :=
  Attempts.attempt Store.write (conclude schemas execution target fact) store fate

/-! ### Histories -/

inductive Entry (platform : Platform) where
  | target (fact : ReconTargetFact platform) (fate : Attempts.Fate)
  /-- Another processor, or a fact of another target, commits on the Context. -/
  | other (name : String) (ref : Option Business.BusinessObjectRef) (at' : Datetime platform)

def otherContext (current : TaskBusinessContext platform (OrderedMap String Json)) (name : String)
    (ref : Option Business.BusinessObjectRef) (at' : Datetime platform) :
    TaskBusinessContext platform (OrderedMap String Json) :=
  { current with
    contextRevision := current.contextRevision + 1
    activeRefs :=
      if name = trackKey (targetArtifactId execution target) then current.activeRefs
      else match ref with
        | some ref => current.activeRefs.set name ref
        | none => current.activeRefs.erase name
    updatedAt := latest at' current.updatedAt }

def next (store : Store platform) : Entry platform → Store platform
  | .target fact fate => (attempt schemas execution target store fact fate).2
  | .other name ref at' =>
    { store with
      context := store.context.map fun current =>
        otherContext execution target current name ref at' }

def initial (context : TaskBusinessContext platform (OrderedMap String Json)) : Store platform :=
  { context := some
      { context with
        activeRefs := context.activeRefs.erase (trackKey (targetArtifactId execution target)) }
    versions := []
    tracks := fun _ => [] }

/-! ### What is to hold -/

/-- The points of the sightings since the target was last lost or unmeasured, and the time of the
last version. A sighting of the same moment is not another point. -/
def unbrokenStep (state : List Point × Option (Datetime platform)) (version : Version platform) :
    List Point × Option (Datetime platform) :=
  (match seenPoint version.fact, state.2 with
    | none, _ => []
    | some position, none => [position]
    | some position, some time =>
      if state.1 = [] ∨ time.compare version.fact.observedAt < 0 then state.1 ++ [position]
      else state.1,
    some version.fact.observedAt)

def unbroken (versions : List (Version platform)) : List Point :=
  (versions.foldl unbrokenStep ([], none)).1

/-- How many of the sightings' points the active track has: a full track is followed by one of two
points. -/
def trackLength (points : Nat) : Nat := (points - 2) % (maxTrackPoints - 1) + 2

def lastPoints (points : List Point) : List Point :=
  points.drop (points.length - trackLength points.length)

/-- The Context names a track exactly when two sightings make one; the track is the newest version
of its line, and its points are the last ones of the sightings. -/
def TrackAgrees (store : Store platform)
    (context : TaskBusinessContext platform (OrderedMap String Json)) : Prop :=
  match context.activeRefs.get? (trackKey (targetArtifactId execution target)) with
  | none => (unbroken store.versions).length < 2
  | some ref =>
    2 ≤ (unbroken store.versions).length ∧
      ∃ track, store.trackVersion ref = some track ∧ track.ref = ref ∧
        (store.tracks track.artifactId).getLast? = some track ∧
        track.coordinates = lastPoints (unbroken store.versions)

def Follows (earlier later : Version platform) : Prop :=
  earlier.artifact.updatedAt.compare later.artifact.updatedAt ≤ 0 ∧
    earlier.artifact.properties.lastSeen.compare later.artifact.properties.lastSeen ≤ 0

def lastSighting (versions : List (Version platform)) : Option (Datetime platform) :=
  ((versions.map Version.fact).filter fun fact => fact.visibility = .visible).getLast?.map
    ReconTargetFact.observedAt

structure Lawful (store : Store platform) : Prop where
  revisions : store.versions.map (fun version => version.artifact.revision) =
    List.range' 1 store.versions.length
  trackRevisions : ∀ id, (store.tracks id).map TrackArtifact.revision =
    List.range' 1 (store.tracks id).length
  forward : store.versions.Pairwise Follows
  seen : store.latest.map (fun artifact => artifact.properties.lastSeen) =
    lastSighting store.versions
  position : previousGeoPoint store.latest = (unbroken store.versions).getLast?
  track : ∀ context, store.context = some context → TrackAgrees execution target store context

def Repeatable (store : Store platform) : Prop :=
  ∀ version ∈ store.versions, ∀ fate,
    attempt schemas execution target store version.fact fate = (.done .duplicate, store)

/-- A fact of the same moment as a version, with another source revision, is numbered as the
version is. -/
def NumberedAs (fact : ReconTargetFact platform) (previous : TargetArtifact platform) : Prop :=
  fact.observedAt.compare previous.updatedAt = 0 →
    previous.sourceRevision ≠ fact.sourceRevision →
    (captureRevision fact.sourceRevision).isSome = true ∧
      (captureRevision previous.sourceRevision).isSome = true

/-- Facts of one moment with different source revisions are numbered by capture times. -/
def Numbered (store : Store platform) : Entry platform → Prop
  | .other .. => True
  | .target fact _ => ∀ previous ∈ store.latest, NumberedAs fact previous

instance (fact : ReconTargetFact platform) (previous : TargetArtifact platform) :
    Decidable (NumberedAs fact previous) :=
  inferInstanceAs (Decidable (_ → _))

instance (store : Store platform) : (entry : Entry platform) → Decidable (Numbered store entry)
  | .other .. => .isTrue trivial
  | .target fact _ =>
    inferInstanceAs (Decidable (∀ previous ∈ store.latest, NumberedAs fact previous))

/-! ### Sightings -/

variable {schemas : Schemas platform} {execution : ProviderExecution platform}
  {target : SourceTarget} {store : Store platform} {fact : ReconTargetFact platform}

theorem foldl_unbroken_time (versions : List (Version platform)) :
    (versions.foldl unbrokenStep ([], none)).2 =
      versions.getLast?.map fun version => version.fact.observedAt := by
  rcases List.eq_nil_or_concat versions with rfl | ⟨earlier, last, rfl⟩
  · rfl
  · rw [List.concat_eq_append, List.foldl_append, List.getLast?_concat]
    rfl

theorem unbroken_concat (versions : List (Version platform)) (version : Version platform) :
    unbroken (versions ++ [version]) =
      match seenPoint version.fact, versions.getLast?.map fun last => last.fact.observedAt with
      | none, _ => []
      | some position, none => [position]
      | some position, some time =>
        if unbroken versions = [] ∨ time.compare version.fact.observedAt < 0 then
          unbroken versions ++ [position]
        else unbroken versions := by
  rw [unbroken, List.foldl_append, ← foldl_unbroken_time]
  rfl

variable {points : Nat}

theorem trackLength_succ (enough : 2 ≤ points) (notFull : trackLength points < maxTrackPoints) :
    trackLength (points + 1) = trackLength points + 1 := by
  unfold trackLength maxTrackPoints at notFull ⊢
  omega

theorem trackLength_full (enough : 2 ≤ points) (full : ¬ trackLength points < maxTrackPoints) :
    trackLength (points + 1) = 2 := by
  unfold trackLength maxTrackPoints at full ⊢
  omega

theorem trackLength_le (enough : 2 ≤ points) : trackLength points ≤ points := by
  unfold trackLength
  have smaller := Nat.mod_le (points - 2) (maxTrackPoints - 1)
  omega

variable {points : List Point}

theorem length_lastPoints (enough : 2 ≤ points.length) :
    (lastPoints points).length = trackLength points.length := by
  have fits := trackLength_le enough
  rw [lastPoints, List.length_drop]
  omega

theorem lastPoints_succ (position : Point) (enough : 2 ≤ points.length)
    (notFull : trackLength points.length < maxTrackPoints) :
    lastPoints (points ++ [position]) = lastPoints points ++ [position] := by
  have fits := trackLength_le enough
  unfold lastPoints
  rw [List.length_append, List.length_singleton, trackLength_succ enough notFull,
    Nat.add_sub_add_right, List.drop_append_of_le_length (Nat.sub_le _ _)]

theorem lastPoints_pair {origin position : Point} (isLast : points.getLast? = some origin)
    (two : trackLength (points.length + 1) = 2) :
    lastPoints (points ++ [position]) = [origin, position] := by
  obtain ⟨earlier, rfl⟩ := List.getLast?_eq_some_iff.mp isLast
  unfold lastPoints
  rw [List.length_append, List.length_singleton, two, List.append_assoc]
  have behind : (earlier ++ [origin]).length + 1 - 2 = earlier.length := by simp
  rw [behind, List.drop_left]
  rfl

/-! ### The checks and the verdict -/

variable {current : TaskBusinessContext platform (OrderedMap String Json)}

theorem admission_eq_ok :
    admission execution target store fact = .ok current ↔
      fact.valid target = true ∧
      assertExecution "TARGET_EXECUTION_SESSION_BINDING_INVALID" "TARGET_TASK_TERMINAL" execution
        fact.missionId fact.observedAt = .ok () ∧
      target.observationSessionId = fact.missionId ∧
      store.context = some current ∧ current.status ≠ .finalized := by
  unfold admission
  constructor
  · intro admitted
    obtain ⟨_, isValid, admitted⟩ := Except.bind_eq_ok.mp admitted
    obtain ⟨_, bound, admitted⟩ := Except.bind_eq_ok.mp admitted
    obtain ⟨_, sameSession, admitted⟩ := Except.bind_eq_ok.mp admitted
    rw [Except.refuse_eq_ok] at isValid sameSession
    obtain ⟨isContext, notOver⟩ := openContext_eq_ok.mp admitted
    exact ⟨by simpa using isValid, bound, not_not.mp sameSession, isContext, notOver⟩
  · rintro ⟨isValid, bound, sameSession, isContext, notOver⟩
    have isOpen : openContext "TARGET_CONTEXT_UNAVAILABLE" store.context = .ok current :=
      openContext_eq_ok.mpr ⟨isContext, notOver⟩
    rw [isOpen, bound]
    simp [Except.refuse, isValid, sameSession, bind, Except.bind]

theorem admission_isOk {other : Store platform}
    {current changed : TaskBusinessContext platform (OrderedMap String Json)}
    (isContext : store.context = some current) (isOther : other.context = some changed)
    (sameStatus : changed.status = current.status)
    (admitted : (admission execution target store fact).isOk = true) :
    (admission execution target other fact).isOk = true := by
  cases result : admission execution target store fact with
  | error error =>
    rw [result] at admitted
    cases admitted
  | ok context =>
    obtain ⟨isValid, bound, sameSession, isCurrent, notOver⟩ := admission_eq_ok.mp result
    rw [isContext] at isCurrent
    cases isCurrent
    have admittedAgain : admission execution target other fact = .ok changed := by
      rw [admission_eq_ok, sameStatus]
      exact ⟨isValid, bound, sameSession, isOther, notOver⟩
    rw [admittedAgain]
    rfl

/-- What goes on to be the next version: it is not behind the latest one and has another source
revision, no earlier capture. -/
structure Succeeds (fact : ReconTargetFact platform) (previous : TargetArtifact platform) :
    Prop where
  notEarlier : previous.updatedAt.key ≤ fact.observedAt.key
  another : previous.sourceRevision ≠ fact.sourceRevision
  notBefore : capturedBefore fact.sourceRevision previous.sourceRevision = false

theorem judge_next {previous : TargetArtifact platform}
    (goesOn : judge target fact (some previous) = .ok .next) : Succeeds fact previous := by
  simp only [judge] at goesOn
  by_cases otherType : previous.artifactType ≠ "target.object"
  · simp only [if_pos otherType, reduceCtorEq] at goesOn
  · rw [if_neg otherType] at goesOn
    by_cases earlier : fact.observedAt.compare previous.updatedAt < 0
    · simp only [if_pos earlier, Except.ok.injEq, reduceCtorEq] at goesOn
    · rw [if_neg earlier] at goesOn
      by_cases same : previous.sourceRevision = fact.sourceRevision
      · rw [if_pos same] at goesOn
        by_cases repeated : repeats target fact previous = true
        · simp only [if_pos repeated, Except.ok.injEq, reduceCtorEq] at goesOn
        · simp only [if_neg repeated, reduceCtorEq] at goesOn
      · rw [if_neg same] at goesOn
        by_cases before : capturedBefore fact.sourceRevision previous.sourceRevision = true
        · simp only [if_pos before, Except.ok.injEq, reduceCtorEq] at goesOn
        · exact {
            notEarlier := by
              rw [compare_lt, not_lt] at earlier
              exact earlier
            another := same
            notBefore := Bool.eq_false_iff.mpr before }

theorem judge_own (previous : Option (TargetArtifact platform)) :
    judge target fact (some (artifactOf target fact previous)) = .ok .duplicate := by
  have sameTime : ¬ fact.observedAt.compare (artifactOf target fact previous).updatedAt < 0 := by
    rw [compare_lt]
    exact lt_irrefl fact.observedAt.key
  have repeated : repeats target fact (artifactOf target fact previous) = true := by
    have sameContent : contentOf target fact (some (artifactOf target fact previous)) =
        (artifactOf target fact previous).content := by
      by_cases seen : fact.visibility = .visible
      · simp only [contentOf, artifactOf, seen, if_true]
      · simp only [contentOf, artifactOf, seen, if_false, Option.bind_some]
    have sameProperties : propertiesOf target fact (some (artifactOf target fact previous)) =
        (artifactOf target fact previous).properties := by
      by_cases seen : fact.visibility = .visible
      · simp [propertiesOf, artifactOf, seen]
      · simp [propertiesOf, artifactOf, seen]
    simp only [repeats, sameContent, sameProperties]
    simp [artifactOf]
  have sameType : (artifactOf target fact previous).artifactType = "target.object" := rfl
  have sameRevision : (artifactOf target fact previous).sourceRevision = fact.sourceRevision := rfl
  simp only [judge, sameType, ne_eq, not_true_eq_false, if_false]
  rw [if_neg sameTime, if_pos sameRevision, if_pos repeated]

theorem judge_behind {previous : TargetArtifact platform}
    (sameType : previous.artifactType = "target.object")
    (behind : fact.observedAt.key < previous.updatedAt.key ∨
      previous.sourceRevision ≠ fact.sourceRevision ∧
        capturedBefore fact.sourceRevision previous.sourceRevision = true) :
    judge target fact (some previous) = .ok .duplicate := by
  simp only [judge, sameType, ne_eq, not_true_eq_false, if_false]
  by_cases earlier : fact.observedAt.compare previous.updatedAt < 0
  · rw [if_pos earlier]
  · rw [if_neg earlier]
    rw [compare_lt] at earlier
    obtain ⟨another, before⟩ := behind.resolve_left earlier
    rw [if_neg another, if_pos before]

/-! ### Captures -/

theorem captureRevision_eq_some {sourceRevision : String} {capture : Nat}
    (isCapture : captureRevision sourceRevision = some capture) :
    DecimalText.Canonical sourceRevision.toList ∧
      DecimalText.value sourceRevision.toList = capture := by
  unfold captureRevision at isCapture
  cases text : sourceRevision.toList with
  | nil =>
    rw [text] at isCapture
    cases isCapture
  | cons first rest =>
    rw [text] at isCapture
    by_cases canonical : (first :: rest).all Char.isDigit ∧ (first ≠ '0' ∨ rest = [])
    · simp only [if_pos canonical, Option.some.injEq] at isCapture
      exact ⟨⟨fun char member => List.all_eq_true.mp canonical.1 char member,
        first, rest, rfl, canonical.2⟩, isCapture⟩
    · simp only [if_neg canonical, reduceCtorEq] at isCapture

theorem captureRevision_ne {left right : String} {leftCapture rightCapture : Nat}
    (isLeft : captureRevision left = some leftCapture)
    (isRight : captureRevision right = some rightCapture) (different : left ≠ right) :
    leftCapture ≠ rightCapture := by
  rintro rfl
  obtain ⟨leftCanonical, leftValue⟩ := captureRevision_eq_some isLeft
  obtain ⟨rightCanonical, rightValue⟩ := captureRevision_eq_some isRight
  exact different (String.toList_inj.mp
    (leftCanonical.ext rightCanonical (leftValue.trans rightValue.symm)))

def Behind (earlier later : ReconTargetFact platform) : Prop :=
  earlier.observedAt.key < later.observedAt.key ∨
    ∃ earlierCapture laterCapture, captureRevision earlier.sourceRevision = some earlierCapture ∧
      captureRevision later.sourceRevision = some laterCapture ∧ earlierCapture < laterCapture

variable {previous : Option (TargetArtifact platform)}

theorem Behind.duplicate {earlier : ReconTargetFact platform} {later : TargetArtifact platform}
    {laterFact : ReconTargetFact platform} (behind : Behind earlier laterFact)
    (made : later = artifactOf target laterFact previous) :
    judge target earlier (some later) = .ok .duplicate := by
  subst made
  apply judge_behind rfl
  rcases behind with earlierTime | ⟨earlierCapture, laterCapture, isEarlier, isLater, less⟩
  · exact Or.inl earlierTime
  · right
    constructor
    · intro same
      change laterFact.sourceRevision = earlier.sourceRevision at same
      rw [same, isEarlier] at isLater
      cases isLater
      exact Nat.lt_irrefl _ less
    · change capturedBefore earlier.sourceRevision laterFact.sourceRevision = true
      simp only [capturedBefore, isEarlier, isLater, decide_eq_true less]

/-- What follows the latest version is behind nothing, where facts of a moment are numbered. -/
theorem Succeeds.behind {last : Version platform}
    (made : last.artifact = artifactOf target last.fact previous)
    (succeeds : Succeeds fact last.artifact) (numbered : NumberedAs fact last.artifact) :
    Behind last.fact fact := by
  obtain ⟨notEarlier, another, notBefore⟩ := succeeds
  rcases lt_or_eq_of_le notEarlier with earlier | sameTime
  · rw [made] at earlier
    exact Or.inl earlier
  · right
    obtain ⟨incoming, known⟩ := numbered (compare_eq.mpr sameTime.symm) another
    obtain ⟨incomingCapture, isIncoming⟩ := Option.isSome_iff_exists.mp incoming
    obtain ⟨knownCapture, isKnown⟩ := Option.isSome_iff_exists.mp known
    have different := captureRevision_ne isKnown isIncoming another
    simp only [capturedBefore, isIncoming, isKnown, decide_eq_false_iff_not] at notBefore
    rw [made] at isKnown
    exact ⟨knownCapture, incomingCapture, isKnown, isIncoming, by omega⟩

theorem Behind.trans {first second third : ReconTargetFact platform}
    (earlier : Behind first second) (later : Behind second third)
    (firstTime : first.observedAt.key ≤ second.observedAt.key)
    (secondTime : second.observedAt.key ≤ third.observedAt.key) : Behind first third := by
  rcases earlier with earlierTime | ⟨firstCapture, secondCapture, isFirst, isSecond, less⟩
  · exact Or.inl (lt_of_lt_of_le earlierTime secondTime)
  · rcases later with laterTime | ⟨secondCapture', thirdCapture, isSecond', isThird, less'⟩
    · exact Or.inl (lt_of_le_of_lt firstTime laterTime)
    · rw [isSecond] at isSecond'
      cases isSecond'
      exact Or.inr ⟨firstCapture, thirdCapture, isFirst, isThird, less.trans less'⟩

/-! ### What a commit does to the track -/

theorem conclude_change {change : Change platform} {outcome : Outcome}
    (concluded : conclude schemas execution target fact store = .ok (.change change outcome)) :
    ∃ current step, admission execution target store fact = .ok current ∧
      judge target fact store.latest = .ok .next ∧ trackStep fact store.latest = .ok step ∧
      change = changeOf (targetArtifactId execution target) target store current fact
        (trackAfter (targetArtifactId execution target) target store current fact step) := by
  unfold conclude at concluded
  obtain ⟨current, admitted, concluded⟩ := Except.bind_eq_ok.mp concluded
  obtain ⟨verdict, judged, concluded⟩ := Except.bind_eq_ok.mp concluded
  cases verdict with
  | duplicate => cases concluded
  | next =>
    obtain ⟨_, -, concluded⟩ := Except.bind_eq_ok.mp concluded
    obtain ⟨step, stepped, concluded⟩ := Except.bind_eq_ok.mp concluded
    obtain ⟨_, -, concluded⟩ := Except.bind_eq_ok.mp concluded
    cases concluded
    exact ⟨current, step, admitted, judged, stepped, rfl⟩

theorem conclude_duplicate (admitted : (admission execution target store fact).isOk = true)
    (judged : judge target fact store.latest = .ok .duplicate) :
    conclude schemas execution target fact store = .ok (.answer .duplicate) := by
  unfold conclude
  cases result : admission execution target store fact with
  | error error =>
    rw [result] at admitted
    cases admitted
  | ok current =>
    simp only [bind, Except.bind]
    rw [judged]
    rfl

theorem previousGeoPoint_artifactOf (previous : Option (TargetArtifact platform)) :
    previousGeoPoint (some (artifactOf target fact previous)) = seenPoint fact := by
  by_cases seen : fact.visibility = .visible
  · cases geo : fact.geo with
    | some position => simp [previousGeoPoint, artifactOf, propertiesOf, contentOf, seenPoint, seen, geo]
    | none =>
      cases image : fact.image target with
      | some observation =>
        simp [previousGeoPoint, artifactOf, propertiesOf, contentOf, seenPoint, seen, geo, image]
      | none =>
        simp [previousGeoPoint, artifactOf, propertiesOf, contentOf, seenPoint, seen, geo, image]
  · simp [previousGeoPoint, artifactOf, propertiesOf, seenPoint, seen]

inductive SightingStep (store : Store platform) (fact : ReconTargetFact platform) :
    TrackStep platform → Prop where
  | stay (origin : Point) (isLast : (unbroken store.versions).getLast? = some origin)
      (seen : seenPoint fact = some origin) (same : ∀ version : Version platform,
        version.fact = fact → unbroken (store.versions ++ [version]) = unbroken store.versions) :
      SightingStep store fact .stay
  | extend (previous : TargetArtifact platform) (origin position : Point)
      (isLatest : store.latest = some previous)
      (isLast : (unbroken store.versions).getLast? = some origin)
      (seen : seenPoint fact = some position) (grown : ∀ version : Version platform,
        version.fact = fact →
          unbroken (store.versions ++ [version]) = unbroken store.versions ++ [position]) :
      SightingStep store fact (.extend previous origin position)
  | drop (short : ∀ version : Version platform, version.fact = fact →
      unbroken (store.versions ++ [version]) = (seenPoint fact).toList) :
      SightingStep store fact .drop

theorem sightingStep (made : ∀ version ∈ store.versions, ∃ previous,
      version.artifact = artifactOf target version.fact previous)
    (position : previousGeoPoint store.latest = (unbroken store.versions).getLast?)
    (notEarlier : ∀ previous, store.latest = some previous →
      previous.updatedAt.key ≤ fact.observedAt.key)
    {step : TrackStep platform} (stepped : trackStep fact store.latest = .ok step) :
    SightingStep store fact step := by
  cases isLatest : store.latest with
  | none =>
    have noVersion : store.versions = [] := by simpa [Store.latest] using isLatest
    rw [isLatest] at stepped
    change Except.ok (.drop : TrackStep platform) = Except.ok step at stepped
    cases stepped
    apply SightingStep.drop
    intro version isFact
    rw [unbroken_concat, noVersion, isFact]
    cases seenPoint fact with
    | none => rfl
    | some point => rfl
  | some previous =>
    obtain ⟨last, isLast, rfl⟩ := Option.map_eq_some_iff.mp isLatest
    obtain ⟨before, isMade⟩ := made last (List.mem_of_getLast? isLast)
    have lastTime : last.artifact.updatedAt = last.fact.observedAt := by
      rw [isMade]
      rfl
    have notBefore := notEarlier last.artifact isLatest
    cases seen : seenPoint fact with
    | none =>
      have dropped : step = .drop := by
        unfold trackStep at stepped
        rw [isLatest, seen] at stepped
        cases geo : previousGeoPoint (some last.artifact) with
        | none =>
          rw [geo] at stepped
          exact (Except.ok.inj stepped).symm
        | some origin =>
          rw [geo] at stepped
          exact (Except.ok.inj stepped).symm
      rw [dropped]
      apply SightingStep.drop
      intro version isFact
      rw [unbroken_concat, isFact, seen]
      rfl
    | some point =>
      cases geo : previousGeoPoint store.latest with
      | none =>
        have dropped : step = .drop := by
          unfold trackStep at stepped
          rw [geo, isLatest, seen] at stepped
          exact (Except.ok.inj stepped).symm
        have unseen : unbroken store.versions = [] := by
          rw [geo] at position
          exact List.getLast?_eq_none_iff.mp position.symm
        rw [dropped]
        apply SightingStep.drop
        intro version isFact
        rw [unbroken_concat, isFact, seen, isLast, Option.map_some, unseen]
        simp
      | some origin =>
        rw [geo] at position
        have isOrigin := position.symm
        have notEmpty : unbroken store.versions ≠ [] := by
          intro empty
          rw [empty] at isOrigin
          cases isOrigin
        unfold trackStep at stepped
        rw [geo, isLatest, seen] at stepped
        simp only at stepped
        by_cases sameTime : fact.observedAt.compare last.artifact.updatedAt = 0
        · rw [if_pos sameTime] at stepped
          by_cases samePoint : origin = point
          · rw [if_pos samePoint] at stepped
            cases stepped
            subst samePoint
            apply SightingStep.stay origin isOrigin seen
            intro version isFact
            rw [unbroken_concat, isFact, seen, isLast, Option.map_some]
            rw [compare_eq, lastTime] at sameTime
            have notLater : ¬ last.fact.observedAt.compare fact.observedAt < 0 := by
              rw [compare_lt, sameTime]
              exact lt_irrefl _
            simp only [notEmpty, notLater, or_self, if_false]
          · rw [if_neg samePoint] at stepped
            cases stepped
        · rw [if_neg sameTime] at stepped
          rw [compare_eq] at sameTime
          have later : last.artifact.updatedAt.key < fact.observedAt.key :=
            lt_of_le_of_ne notBefore fun same => sameTime same.symm
          have isLater : fact.observedAt.compare last.artifact.updatedAt > 0 := by
            have notLess : ¬ fact.observedAt.compare last.artifact.updatedAt ≤ 0 := by
              rw [compare_le, not_le]
              exact later
            omega
          rw [if_pos isLater] at stepped
          cases stepped
          apply SightingStep.extend last.artifact origin point isLatest isOrigin seen
          intro version isFact
          rw [lastTime] at later
          rw [unbroken_concat, isFact, seen, isLast, Option.map_some]
          simp only [compare_lt, later, or_true, if_true]

/-! ### Tracks -/

/-- What holds in every run: the laws, and that every track began at an earlier version. -/
structure Recorded (execution : ProviderExecution platform) (target : SourceTarget)
    (store : Store platform) : Prop where
  lawful : Lawful execution target store
  made : ∀ version ∈ store.versions, ∃ previous,
    version.artifact = artifactOf target version.fact previous
  admitted : ∀ version ∈ store.versions, (admission execution target store version.fact).isOk = true
  present : ∃ context, store.context = some context
  seenBefore : ∀ version ∈ store.versions,
    version.artifact.properties.lastSeen.key ≤ version.artifact.updatedAt.key
  begun : ∀ id, store.tracks id ≠ [] →
    ∃ revision < store.versions.length, id = trackId (targetArtifactId execution target) revision

theorem trackId_injective {artifactId : String} {left right : Nat}
    (same : trackId artifactId left = trackId artifactId right) : left = right := by
  unfold trackId at same
  have sameText := congrArg String.toList same
  simp only [String.toList_append] at sameText
  have sameNumber : (toString left).toList = (toString right).toList :=
    List.append_cancel_left sameText
  calc left = DecimalText.value (toString left).toList := (DecimalText.value_toString left).symm
    _ = DecimalText.value (toString right).toList := congrArg DecimalText.value sameNumber
    _ = right := DecimalText.value_toString right

theorem last_revision {α : Type} {revision : α → Nat} {items : List α}
    (gapless : items.map revision = List.range' 1 items.length) {last : α}
    (isLast : items.getLast? = some last) : revision last = items.length := by
  obtain ⟨earlier, rfl⟩ := List.getLast?_eq_some_iff.mp isLast
  rw [List.map_append, List.map_singleton, List.length_append, List.length_singleton,
    List.range'_1_concat] at gapless
  have ends := List.append_inj_right' gapless (by simp)
  rw [List.singleton_inj.mp ends, List.length_append, List.length_singleton]
  omega

theorem gapless_concat {α : Type} {revision : α → Nat} {items : List α}
    (gapless : items.map revision = List.range' 1 items.length) {item : α}
    (isNext : revision item = items.length + 1) :
    (items ++ [item]).map revision = List.range' 1 (items ++ [item]).length := by
  rw [List.map_append, List.map_singleton, List.length_append, List.length_singleton,
    List.range'_1_concat, gapless, isNext, Nat.add_comm]

theorem find_concat {items : List (TrackArtifact platform)}
    (gapless : items.map TrackArtifact.revision = List.range' 1 items.length)
    {track : TrackArtifact platform} (isNext : track.revision = items.length + 1) :
    (items ++ [track]).find? (fun other => other.revision == track.revision) = some track := by
  have noEarlier : items.find? (fun other => other.revision == track.revision) = none := by
    rw [List.find?_eq_none]
    intro other member same
    have inRange : other.revision ∈ List.range' 1 items.length := by
      rw [← gapless]
      exact List.mem_map_of_mem member
    rw [List.mem_range'_1] at inRange
    have sameRevision : other.revision = track.revision := beq_iff_eq.mp same
    omega
  rw [List.find?_append, noEarlier]
  simp

theorem latest_revision (revisions : store.versions.map (fun version => version.artifact.revision) =
      List.range' 1 store.versions.length) {previous : TargetArtifact platform}
    (isLatest : store.latest = some previous) : previous.revision = store.versions.length := by
  obtain ⟨last, isLast, rfl⟩ := Option.map_eq_some_iff.mp isLatest
  exact last_revision revisions isLast

structure Extends (execution : ProviderExecution platform) (target : SourceTarget)
    (store : Store platform) (position : Point) (track : TrackArtifact platform) : Prop where
  coordinates : track.coordinates = lastPoints (unbroken store.versions ++ [position])
  revision : track.revision = (store.tracks track.artifactId).length + 1
  begun : store.tracks track.artifactId ≠ [] ∨
    track.artifactId = trackId (targetArtifactId execution target) store.versions.length

theorem nextTrack_extends (recorded : Recorded execution target store)
    (isContext : store.context = some current) {previous : TargetArtifact platform}
    (isLatest : store.latest = some previous) {origin : Point}
    (isLast : (unbroken store.versions).getLast? = some origin) (position : Point) :
    Extends execution target store position
      (extendedTrack (targetArtifactId execution target) target store current fact previous origin
        position) := by
  have agrees := recorded.lawful.track current isContext
  have previousRevision := latest_revision recorded.lawful.revisions isLatest
  have fresh : store.tracks (trackId (targetArtifactId execution target) previous.revision) = [] :=
    by
      by_contra known
      obtain ⟨revision, earlier, same⟩ := recorded.begun _ known
      have equal := trackId_injective same
      omega
  have notEmpty : 1 ≤ (unbroken store.versions).length := by
    obtain ⟨earlier, split⟩ := List.getLast?_eq_some_iff.mp isLast
    rw [split, List.length_append, List.length_singleton]
    omega
  -- A new track begins at the last position.
  have begins : trackLength ((unbroken store.versions).length + 1) = 2 →
      ∀ track : TrackArtifact platform,
        track.artifactId = trackId (targetArtifactId execution target) previous.revision →
        track.revision = 1 → track.coordinates = [origin, position] →
        Extends execution target store position track := by
    intro two track isId isFirst isPair
    constructor
    · rw [isPair, lastPoints_pair isLast two]
    · rw [isId, fresh, isFirst]
      rfl
    · right
      rw [isId, previousRevision]
  unfold TrackAgrees at agrees
  change Extends execution target store position
    (nextTrack (targetArtifactId execution target) target fact previous
      ((current.activeRefs.get? (trackKey (targetArtifactId execution target))).bind
        store.trackVersion) origin position)
  cases isRef : current.activeRefs.get? (trackKey (targetArtifactId execution target)) with
  | none =>
    rw [isRef] at agrees
    have single : (unbroken store.versions).length = 1 := by
      have short : (unbroken store.versions).length < 2 := agrees
      omega
    apply begins _ _ rfl rfl rfl
    rw [single]
    rfl
  | some ref =>
    rw [isRef] at agrees
    obtain ⟨enough, track, isTrack, sameRef, isNewest, sameCoordinates⟩ := agrees
    rw [Option.bind_some, isTrack]
    have trackPoints : track.coordinates.length = trackLength (unbroken store.versions).length := by
      rw [sameCoordinates, length_lastPoints enough]
    by_cases notFull : track.coordinates.length < maxTrackPoints
    · have extension : (some track).filter
          (fun track => track.coordinates.length < maxTrackPoints) = some track := by
        simp [Option.filter, notFull]
      unfold nextTrack
      rw [extension]
      have room : trackLength (unbroken store.versions).length < maxTrackPoints := by omega
      constructor
      · change track.coordinates ++ [position] = _
        rw [lastPoints_succ position enough room, sameCoordinates]
      · change track.revision + 1 = (store.tracks track.artifactId).length + 1
        rw [last_revision (recorded.lawful.trackRevisions track.artifactId) isNewest]
      · left
        change store.tracks track.artifactId ≠ []
        intro empty
        rw [empty] at isNewest
        cases isNewest
    · have extension : (some track).filter
          (fun track => track.coordinates.length < maxTrackPoints) = none := by
        simp [Option.filter, notFull]
      unfold nextTrack
      rw [extension]
      apply begins _ _ rfl rfl rfl
      apply trackLength_full enough
      omega

/-! ### What every step keeps -/

theorem latest_write (change : Change platform) :
    (store.write change).latest = some change.version.artifact := by
  simp [Store.latest, Store.write]

variable {version : Version platform}

theorem le_latest (forward : store.versions.Pairwise Follows) (member : version ∈ store.versions)
    {artifact : TargetArtifact platform} (isLatest : store.latest = some artifact) :
    version.artifact.updatedAt.key ≤ artifact.updatedAt.key ∧
      version.artifact.properties.lastSeen.key ≤ artifact.properties.lastSeen.key := by
  obtain ⟨last, isLast, rfl⟩ := Option.map_eq_some_iff.mp isLatest
  obtain ⟨earlier, split⟩ := List.getLast?_eq_some_iff.mp isLast
  rw [split] at member forward
  rcases List.mem_append.mp member with isEarlier | isLast
  · have follows := (List.pairwise_append.mp forward).2.2 version isEarlier last List.mem_cons_self
    exact ⟨compare_le.mp follows.1, compare_le.mp follows.2⟩
  · rw [List.mem_singleton.mp isLast]
    exact ⟨le_refl _, le_refl _⟩

theorem judge_first (judged : judge target fact none = .ok .next) :
    fact.visibility = .visible := by
  by_contra unseen
  simp only [judge, ne_eq, unseen, not_false_eq_true, if_true, reduceCtorEq] at judged

theorem lastSeen_artifactOf (judged : judge target fact store.latest = .ok .next) :
    (artifactOf target fact store.latest).properties.lastSeen = fact.observedAt ∧
        fact.visibility = .visible ∨
      ∃ previous, store.latest = some previous ∧ fact.visibility ≠ .visible ∧
        (artifactOf target fact store.latest).properties.lastSeen =
          previous.properties.lastSeen := by
  by_cases seen : fact.visibility = .visible
  · left
    exact ⟨by simp [artifactOf, propertiesOf, seen], seen⟩
  · right
    cases isLatest : store.latest with
    | none =>
      rw [isLatest] at judged
      exact absurd (judge_first judged) seen
    | some previous => exact ⟨previous, rfl, seen, by simp [artifactOf, propertiesOf, seen]⟩

theorem write_follows (recorded : Recorded execution target store)
    (judged : judge target fact store.latest = .ok .next) (member : version ∈ store.versions) :
    Follows version
      { artifact := artifactOf target fact store.latest
        fact } := by
  cases isLatest : store.latest with
  | none =>
    have noVersion : store.versions = [] := by simpa [Store.latest] using isLatest
    rw [noVersion] at member
    cases member
  | some previous =>
    have notBehind := le_latest recorded.lawful.forward member isLatest
    have succeeds : Succeeds fact previous := by
      rw [isLatest] at judged
      exact judge_next judged
    have previousSeen : previous.properties.lastSeen.key ≤ previous.updatedAt.key := by
      obtain ⟨last, isLast, rfl⟩ := Option.map_eq_some_iff.mp isLatest
      exact recorded.seenBefore last (List.mem_of_getLast? isLast)
    rw [← isLatest]
    constructor
    · rw [compare_le]
      exact notBehind.1.trans succeeds.notEarlier
    · rw [compare_le]
      rcases lastSeen_artifactOf judged with ⟨isNow, -⟩ | ⟨other, isOther, -, isBefore⟩
      · rw [isNow]
        exact notBehind.2.trans (previousSeen.trans succeeds.notEarlier)
      · rw [isLatest] at isOther
        cases isOther
        rw [isBefore]
        exact notBehind.2

theorem write_seenBefore (recorded : Recorded execution target store)
    (judged : judge target fact store.latest = .ok .next) :
    (artifactOf target fact store.latest).properties.lastSeen.key ≤ fact.observedAt.key := by
  rcases lastSeen_artifactOf judged with ⟨isNow, -⟩ | ⟨previous, isLatest, -, isBefore⟩
  · rw [isNow]
  · rw [isBefore]
    have succeeds : Succeeds fact previous := by
      rw [isLatest] at judged
      exact judge_next judged
    obtain ⟨last, isLast, rfl⟩ := Option.map_eq_some_iff.mp isLatest
    exact (recorded.seenBefore last (List.mem_of_getLast? isLast)).trans succeeds.notEarlier

theorem write_seen (recorded : Recorded execution target store)
    (judged : judge target fact store.latest = .ok .next) :
    some (artifactOf target fact store.latest).properties.lastSeen =
      lastSighting (store.versions ++
        [{ artifact := artifactOf target fact store.latest
           fact }]) := by
  unfold lastSighting
  rw [List.map_append, List.filter_append]
  rcases lastSeen_artifactOf judged with ⟨isNow, seen⟩ | ⟨previous, isLatest, unseen, isBefore⟩
  · simp [seen, isNow]
  · have before := recorded.lawful.seen
    rw [isLatest] at before
    simp only [List.map_cons, List.map_nil, List.filter_cons, List.filter_nil, unseen,
      decide_false, Bool.false_eq_true, if_false, List.append_nil, isBefore]
    exact before

def committed (execution : ProviderExecution platform) (target : SourceTarget)
    (store : Store platform) (current : TaskBusinessContext platform (OrderedMap String Json))
    (fact : ReconTargetFact platform) (step : TrackStep platform) : Store platform :=
  store.write (changeOf (targetArtifactId execution target) target store current fact
    (trackAfter (targetArtifactId execution target) target store current fact step))

theorem versions_committed (current : TaskBusinessContext platform (OrderedMap String Json))
    (step : TrackStep platform) :
    (committed execution target store current fact step).versions =
      store.versions ++
        [{ artifact := artifactOf target fact store.latest
           fact }] := rfl

theorem tracks_committed (recorded : Recorded execution target store)
    (isContext : store.context = some current) {step : TrackStep platform}
    (sighted : SightingStep store fact step) (id : String) :
    ((committed execution target store current fact step).tracks id).map TrackArtifact.revision =
        List.range' 1 ((committed execution target store current fact step).tracks id).length ∧
      ((committed execution target store current fact step).tracks id ≠ [] →
        ∃ revision < store.versions.length + 1,
          id = trackId (targetArtifactId execution target) revision) := by
  have unchanged : (store.tracks id).map TrackArtifact.revision =
        List.range' 1 (store.tracks id).length ∧
      (store.tracks id ≠ [] → ∃ revision < store.versions.length + 1,
        id = trackId (targetArtifactId execution target) revision) := by
    constructor
    · exact recorded.lawful.trackRevisions id
    · intro known
      obtain ⟨revision, earlier, same⟩ := recorded.begun id known
      exact ⟨revision, by omega, same⟩
  cases sighted with
  | stay => exact unchanged
  | drop => exact unchanged
  | extend previous origin position isLatest isLast seen grown =>
    have extended : Extends execution target store position
        (extendedTrack (targetArtifactId execution target) target store current fact previous
          origin position) :=
      nextTrack_extends recorded isContext isLatest isLast position
    generalize isNew : extendedTrack (targetArtifactId execution target) target store current
      fact previous origin position = track at extended
    have isTracks : (committed execution target store current fact
        (.extend previous origin position)).tracks =
        Function.update store.tracks track.artifactId
          (store.tracks track.artifactId ++ [track]) := by
      rw [← isNew]
      rfl
    rw [isTracks]
    by_cases own : id = track.artifactId
    · subst own
      rw [Function.update_self]
      constructor
      · exact gapless_concat (recorded.lawful.trackRevisions track.artifactId) extended.revision
      · intro _
        rcases extended.begun with known | isId
        · exact unchanged.2 known
        · exact ⟨store.versions.length, Nat.lt_succ_self _, isId⟩
    · rw [Function.update_of_ne own]
      exact unchanged

theorem committed_agrees (recorded : Recorded execution target store)
    (isContext : store.context = some current) {step : TrackStep platform}
    (sighted : SightingStep store fact step) :
    TrackAgrees execution target (committed execution target store current fact step)
      (changeOf (targetArtifactId execution target) target store current fact
        (trackAfter (targetArtifactId execution target) target store current fact step)).context := by
  have before := recorded.lawful.track current isContext
  unfold TrackAgrees at before ⊢
  rw [versions_committed]
  cases sighted with
  | stay origin isLast seen same =>
    rw [same { artifact := artifactOf target fact store.latest, fact } rfl]
    exact before
  | drop short =>
    rw [short { artifact := artifactOf target fact store.latest, fact } rfl]
    have dropped : (changeOf (targetArtifactId execution target) target store current fact
        (trackAfter (targetArtifactId execution target) target store current fact
          .drop)).context.activeRefs.get? (trackKey (targetArtifactId execution target)) =
        none := by
      change (current.activeRefs.erase _).get? _ = none
      rw [get?_erase, if_pos rfl]
    rw [dropped]
    change (seenPoint fact).toList.length < 2
    cases seenPoint fact with
    | none => exact Nat.zero_lt_two
    | some position => exact Nat.one_lt_two
  | extend previous origin position isLatest isLast seen grown =>
    rw [grown { artifact := artifactOf target fact store.latest, fact } rfl]
    have extended : Extends execution target store position
        (extendedTrack (targetArtifactId execution target) target store current fact previous
          origin position) :=
      nextTrack_extends recorded isContext isLatest isLast position
    generalize isNew : extendedTrack (targetArtifactId execution target) target store current
      fact previous origin position = track at extended
    have isTracks : (committed execution target store current fact
        (.extend previous origin position)).tracks =
        Function.update store.tracks track.artifactId
          (store.tracks track.artifactId ++ [track]) := by
      rw [← isNew]
      rfl
    have isRef : (changeOf (targetArtifactId execution target) target store current fact
        (trackAfter (targetArtifactId execution target) target store current fact
          (.extend previous origin position))).context.activeRefs.get?
            (trackKey (targetArtifactId execution target)) = some track.ref := by
      rw [← isNew]
      exact get?_set_self _ _ _
    rw [isRef]
    constructor
    · obtain ⟨earlier, split⟩ := List.getLast?_eq_some_iff.mp isLast
      rw [split]
      simp only [List.length_append, List.length_singleton]
      omega
    · have isLine : (committed execution target store current fact
          (.extend previous origin position)).tracks track.artifactId =
          store.tracks track.artifactId ++ [track] := by
        rw [isTracks, Function.update_self]
      refine ⟨track, ?_, rfl, ?_, extended.coordinates⟩
      · calc (committed execution target store current fact
              (.extend previous origin position)).trackVersion track.ref
            = ((committed execution target store current fact
                (.extend previous origin position)).tracks track.artifactId).find?
                  (fun other => other.revision == track.revision) := rfl
          _ = (store.tracks track.artifactId ++ [track]).find?
                (fun other => other.revision == track.revision) := by rw [isLine]
          _ = some track :=
              find_concat (recorded.lawful.trackRevisions track.artifactId) extended.revision
      · rw [isLine, List.getLast?_concat]

theorem write_recorded (recorded : Recorded execution target store) {change : Change platform}
    {outcome : Outcome}
    (concluded : conclude schemas execution target fact store = .ok (.change change outcome)) :
    Recorded execution target (store.write change) := by
  obtain ⟨current, step, admitted, judged, stepped, rfl⟩ := conclude_change concluded
  obtain ⟨-, -, -, isContext, -⟩ := admission_eq_ok.mp admitted
  have succeeds : ∀ previous, store.latest = some previous → Succeeds fact previous := by
    intro previous isLatest
    rw [isLatest] at judged
    exact judge_next judged
  have sighted : SightingStep store fact step :=
    sightingStep recorded.made recorded.lawful.position
      (fun previous isLatest => (succeeds previous isLatest).notEarlier) stepped
  have stillAdmitted : ∀ other : ReconTargetFact platform,
      (admission execution target store other).isOk = true →
      (admission execution target (committed execution target store current fact step) other).isOk =
        true :=
    fun other => admission_isOk isContext rfl rfl
  change Recorded execution target (committed execution target store current fact step)
  constructor
  · constructor
    · rw [versions_committed]
      apply gapless_concat recorded.lawful.revisions
      change (store.latest.map TargetArtifact.revision).getD 0 + 1 = store.versions.length + 1
      cases isLatest : store.latest with
      | none =>
        have noVersion : store.versions = [] := by simpa [Store.latest] using isLatest
        rw [noVersion]
        rfl
      | some previous =>
        rw [Option.map_some, Option.getD_some, latest_revision recorded.lawful.revisions isLatest]
    · exact fun id => (tracks_committed recorded isContext sighted id).1
    · rw [versions_committed, List.pairwise_append]
      refine ⟨recorded.lawful.forward, List.pairwise_singleton _ _, ?_⟩
      intro version member last isLast
      rw [List.mem_singleton.mp isLast]
      exact write_follows recorded judged member
    · rw [versions_committed, committed, latest_write]
      exact write_seen recorded judged
    · rw [versions_committed, committed, latest_write]
      change previousGeoPoint (some (artifactOf target fact store.latest)) = _
      rw [previousGeoPoint_artifactOf]
      cases sighted with
      | stay origin isLast seen same =>
        rw [same { artifact := artifactOf target fact store.latest, fact } rfl, isLast, seen]
      | extend previous origin position isLatest isLast seen grown =>
        rw [grown { artifact := artifactOf target fact store.latest, fact } rfl,
          List.getLast?_concat, seen]
      | drop short =>
        rw [short { artifact := artifactOf target fact store.latest, fact } rfl]
        cases seenPoint fact with
        | none => rfl
        | some position => rfl
    · intro context isWritten
      cases isWritten
      exact committed_agrees recorded isContext sighted
  · intro version member
    rw [versions_committed] at member
    rcases List.mem_append.mp member with isEarlier | isNew
    · exact recorded.made version isEarlier
    · rw [List.mem_singleton.mp isNew]
      exact ⟨store.latest, rfl⟩
  · intro version member
    rw [versions_committed] at member
    rcases List.mem_append.mp member with isEarlier | isNew
    · exact stillAdmitted version.fact (recorded.admitted version isEarlier)
    · rw [List.mem_singleton.mp isNew]
      apply stillAdmitted
      rw [admitted]
      rfl
  · exact ⟨_, rfl⟩
  · intro version member
    rw [versions_committed] at member
    rcases List.mem_append.mp member with isEarlier | isNew
    · exact recorded.seenBefore version isEarlier
    · rw [List.mem_singleton.mp isNew]
      exact write_seenBefore recorded judged
  · intro id known
    rw [versions_committed, List.length_append, List.length_singleton]
    exact (tracks_committed recorded isContext sighted id).2 known

theorem other_recorded (recorded : Recorded execution target store) (name : String)
    (ref : Option Business.BusinessObjectRef) (at' : Datetime platform) :
    Recorded execution target (next schemas execution target store (.other name ref at')) := by
  obtain ⟨current, isContext⟩ := recorded.present
  have untouched : (otherContext execution target current name ref at').activeRefs.get?
        (trackKey (targetArtifactId execution target)) =
      current.activeRefs.get? (trackKey (targetArtifactId execution target)) := by
    unfold otherContext
    by_cases taken : name = trackKey (targetArtifactId execution target)
    · simp only [if_pos taken]
    · simp only [if_neg taken]
      cases ref with
      | some ref => exact get?_set_ne _ _ fun same => taken same.symm
      | none =>
        change (current.activeRefs.erase name).get? _ = _
        rw [get?_erase, if_neg fun same => taken same.symm]
  have isOther : (next schemas execution target store (.other name ref at')).context =
      some (otherContext execution target current name ref at') := by
    rw [next, isContext]
    rfl
  constructor
  · constructor
    · exact recorded.lawful.revisions
    · exact recorded.lawful.trackRevisions
    · exact recorded.lawful.forward
    · exact recorded.lawful.seen
    · exact recorded.lawful.position
    · intro context isResult
      rw [isOther] at isResult
      cases isResult
      have agrees := recorded.lawful.track current isContext
      unfold TrackAgrees at agrees ⊢
      rw [untouched]
      exact agrees
  · exact recorded.made
  · intro version member
    exact admission_isOk isContext isOther rfl (recorded.admitted version member)
  · exact ⟨_, isOther⟩
  · exact recorded.seenBefore
  · exact recorded.begun

theorem next_recorded (recorded : Recorded execution target store) (entry : Entry platform) :
    Recorded execution target (next schemas execution target store entry) := by
  cases entry with
  | target fact fate =>
    apply Attempts.attempt_keeps recorded
    intro change outcome concluded
    exact write_recorded recorded concluded
  | other name ref at' => exact other_recorded recorded name ref at'

theorem initial_recorded (context : TaskBusinessContext platform (OrderedMap String Json)) :
    Recorded execution target (initial execution target context) where
  lawful := {
    revisions := rfl
    trackRevisions := fun _ => rfl
    forward := List.Pairwise.nil
    seen := rfl
    position := rfl
    track := by
      intro other isContext
      cases isContext
      unfold TrackAgrees initial
      simp only [get?_erase, if_true]
      exact Nat.zero_lt_two }
  made := by simp [initial]
  admitted := by simp [initial]
  present := ⟨_, rfl⟩
  seenBefore := by simp [initial]
  begun := by simp [initial]

/-! ### Repeated facts -/

def InOrder (versions : List (Version platform)) : Prop :=
  versions.Pairwise fun earlier later => Behind earlier.fact later.fact

theorem repeatable_of_inOrder (recorded : Recorded execution target store)
    (inOrder : InOrder store.versions) : Repeatable schemas execution target store := by
  intro version member fate
  apply Attempts.attempt_answer
  apply conclude_duplicate (recorded.admitted version member)
  obtain ⟨previous, made⟩ := recorded.made version member
  rcases List.eq_nil_or_concat store.versions with noVersion | ⟨earlier, last, split⟩
  · rw [noVersion] at member
    cases member
  · rw [List.concat_eq_append] at split
    have isLatest : store.latest = some last.artifact := by
      rw [Store.latest, split, List.getLast?_concat]
      rfl
    rw [isLatest]
    have lastMember : last ∈ store.versions := by
      rw [split]
      exact List.mem_append_right _ List.mem_cons_self
    rw [split] at member inOrder
    rcases List.mem_append.mp member with isEarlier | isLast
    · have behind := (List.pairwise_append.mp inOrder).2.2 version isEarlier last
        List.mem_cons_self
      obtain ⟨lastPrevious, lastMade⟩ := recorded.made last lastMember
      exact behind.duplicate lastMade
    · have isLast := List.mem_singleton.mp isLast
      subst isLast
      rw [made]
      exact judge_own previous

theorem write_inOrder (recorded : Recorded execution target store)
    (inOrder : InOrder store.versions)
    (numbered : Numbered store (.target fact .stored)) {change : Change platform}
    {outcome : Outcome}
    (concluded : conclude schemas execution target fact store = .ok (.change change outcome)) :
    InOrder (store.write change).versions := by
  obtain ⟨current, step, admitted, judged, stepped, rfl⟩ := conclude_change concluded
  change InOrder (committed execution target store current fact step).versions
  rw [versions_committed, InOrder, List.pairwise_append]
  refine ⟨inOrder, List.pairwise_singleton _ _, ?_⟩
  intro version member last' isLast'
  rw [List.mem_singleton.mp isLast']
  rcases List.eq_nil_or_concat store.versions with noVersion | ⟨earlier, last, split⟩
  · rw [noVersion] at member
    cases member
  · rw [List.concat_eq_append] at split
    have isLatest : store.latest = some last.artifact := by
      rw [Store.latest, split, List.getLast?_concat]
      rfl
    have lastMember : last ∈ store.versions := by
      rw [split]
      exact List.mem_append_right _ List.mem_cons_self
    obtain ⟨lastPrevious, lastMade⟩ := recorded.made last lastMember
    have succeeds : Succeeds fact last.artifact := by
      rw [isLatest] at judged
      exact judge_next judged
    have lastBehind := succeeds.behind lastMade (numbered last.artifact isLatest)
    have notBehind := (le_latest recorded.lawful.forward member isLatest).1
    have notEarlier := succeeds.notEarlier
    rw [lastMade] at notBehind notEarlier
    obtain ⟨previous, made⟩ := recorded.made version member
    rw [made] at notBehind
    rw [split] at member inOrder
    rcases List.mem_append.mp member with isEarlier | isLast
    · have behind := (List.pairwise_append.mp inOrder).2.2 version isEarlier last
        List.mem_cons_self
      exact behind.trans lastBehind notBehind notEarlier
    · rw [List.mem_singleton.mp isLast]
      exact lastBehind

theorem next_inOrder (recorded : Recorded execution target store)
    (inOrder : InOrder store.versions) {entry : Entry platform} (numbered : Numbered store entry) :
    InOrder (next schemas execution target store entry).versions := by
  cases entry with
  | other name ref at' => exact inOrder
  | target fact fate =>
    rcases Attempts.attempt_cases Store.write (conclude schemas execution target fact) store fate
      with same | ⟨change, outcome, rfl, concluded, written⟩
    · change (attempt schemas execution target store fact fate).2 = store at same
      rw [next, same]
      exact inOrder
    · change (attempt schemas execution target store fact .stored).2 = _ at written
      rw [next, written]
      exact write_inOrder recorded inOrder numbered concluded

/-- In every run the versions are gapless and do not go back, the last sighting is that of the
latest visible fact, and the active track has the last points of the sightings; where facts of one
moment are numbered, an applied fact is a duplicate from then on. -/
theorem target_projection_lawful (schemas : Schemas platform)
    (execution : ProviderExecution platform) (target : SourceTarget)
    (context : TaskBusinessContext platform (OrderedMap String Json))
    (entries : List (Entry platform)) :
    Lawful execution target
        (Histories.after (next schemas execution target) (initial execution target context)
          entries) ∧
      (Histories.EveryStep (next schemas execution target) Numbered
          (initial execution target context) entries →
        Repeatable schemas execution target
          (Histories.after (next schemas execution target) (initial execution target context)
            entries)) := by
  constructor
  · have recorded : Recorded execution target
        (Histories.after (next schemas execution target) (initial execution target context)
          entries) := by
      apply Histories.always _ (initial_recorded context)
      intro store entry recorded
      exact next_recorded recorded entry
    exact recorded.lawful
  · intro numbered
    have both := Histories.keeps
      (I := fun store => Recorded execution target store ∧ InOrder store.versions)
      (fun store entry holds condition =>
        ⟨next_recorded holds.1 entry, next_inOrder holds.1 holds.2 condition⟩)
      ⟨initial_recorded context, List.Pairwise.nil⟩ numbered
    exact repeatable_of_inOrder both.1 both.2

end

/-! ### A moment seen twice -/

namespace Sample

def dateParse (text : String) : Option Int :=
  if text = "2026-09-24T00:00:00Z" then some 1790208000000
  else if text = "2026-09-24T00:00:01Z" then some 1790208001000
  else if text = "2026-09-24T00:00:02Z" then some 1790208002000
  else none

def platform : Platform :=
  { dateParse
    isDatetime := fun text => (dateParse text).isSome
    datetime_parses := fun _ parses => parses
    millisecondsBetween := fun _ _ => 0
    sha256 := id }

def at0 : Datetime platform :=
  { text := "2026-09-24T00:00:00Z"
    isDatetime := rfl }

def at1 : Datetime platform :=
  { text := "2026-09-24T00:00:01Z"
    isDatetime := rfl }

def at2 : Datetime platform :=
  { text := "2026-09-24T00:00:02Z"
    isDatetime := rfl }

def schemas : Schemas platform :=
  { target := fun _ => true
    track := fun _ => true }

def execution : ProviderExecution platform :=
  { externalExecutionId := "execution-targets"
    operationName := "vehicle_area_recon"
    taskBusinessContextExpected := true
    downstreamMissionIds := ["mission-1"]
    createdAt := at0
    state := "RUNNING"
    circularScan := true }

def target : SourceTarget :=
  { observationSessionId := "mission-1"
    sensorId := "ugv.area_recon.targets"
    sourceTargetId := "target-1" }

def context : TaskBusinessContext platform (OrderedMap String Json) :=
  { contextRevision := 1
    status := .inProgress
    properties := empty
    activeRefs := empty
    artifactRefs := []
    updatedAt := at0 }

def sighting (sourceRevision : String) (observedAt : Datetime platform) (longitude : ℚ) :
    Entry platform :=
  .target
    { missionId := "mission-1"
      correlation := none
      sourceRevision
      observedAt
      visibility := .visible
      trackingState := .unknown
      targetType := none
      confidence := none
      location := some
        { longitude
          latitude := 39
          altitude := none }
      pixel := none }
    .stored

def entries : List (Entry platform) :=
  [sighting "1" at0 116, sighting "2" at1 117, sighting "3" at1 117, sighting "4" at2 118]

def store : Store platform :=
  Histories.after (next schemas execution target) (initial execution target context) entries

theorem target_projection_lawful_sample : Repeatable schemas execution target store :=
  (target_projection_lawful schemas execution target context entries).2 (by decide +kernel)

/-- The points of the longest end of the sightings whose times increase. -/
def increasingStep (state : List Point × Option (Datetime platform)) (version : Version platform) :
    List Point × Option (Datetime platform) :=
  (match seenPoint version.fact, state.2 with
    | none, _ => []
    | some position, none => [position]
    | some position, some time =>
      if time.compare version.fact.observedAt < 0 then state.1 ++ [position] else [position],
    some version.fact.observedAt)

def increasing (versions : List (Version platform)) : List Point :=
  (versions.foldl increasingStep ([], none)).1

def activeTrack (store : Store platform) : Option (TrackArtifact platform) :=
  (store.context.bind fun current =>
    current.activeRefs.get? (trackKey (targetArtifactId execution target))).bind store.trackVersion

theorem track_over_same_moment :
    (activeTrack store).map TrackArtifact.coordinates = some [[116, 39], [117, 39], [118, 39]] ∧
      increasing store.versions = [[117, 39], [118, 39]] := by
  decide +kernel

end Sample

end TargetProjection

end SdarRuntime
