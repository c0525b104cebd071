import SdarRuntime.VehicleIngress.Snapshot
import SdarRuntime.Library.OrderedMap
import SdarRuntime.Library.Histories
import Mathlib.Data.List.Sort

/-!
The ingress of a vehicle's messages. Each message passes filters that remember something of it,
some of them before a later filter drops a field: the newest message of a topic, the canonical and
the alias status topic, the two lists of targets, the two sources of the mission state, and for each
observed field the message its value comes from.
-/

namespace SdarRuntime

namespace VehicleIngress

inductive TimeAuthority where
  | source
  | ingest
  deriving DecidableEq

inductive VehicleObservationField where
  | positionGeodetic
  | positionLocal
  | speed
  | heading
  | mission
  | recon
  | targets
  | gimbal
  deriving DecidableEq

def vehicleObservationFields : List VehicleObservationField :=
  [.positionGeodetic, .positionLocal, .speed, .heading, .mission, .recon, .targets, .gimbal]

structure NormalizedMqttObservation where
  patch : SnapshotPatch
  domains : List FreshnessDomain
  sourceObservedAt : Option String
  sourceSequence : Option String
  timeAuthority : TimeAuthority
  canonicalPayload : Json

structure TargetAuthority where
  detectedObjectsTopic : String
  reconTargetsTopic : String

structure TaskStateAuthority where
  missionStateTopic : String
  compositeStatusTopics : List String

structure CompositeStatusAuthority where
  canonicalTopic : String
  aliasTopics : List String
  aliasFallbackAfterMs : Int

structure FieldAuthorityGate where
  field : VehicleObservationField
  observationTopic : String
  healthTopics : List String
  requiredHealthyTopics : List String
  healthComponent : String
  maximumHealthAgeMs : Int

/-- `decode` stands for the guard with its wire mode and limits. -/
structure VehicleMqttProfile where
  decode : String → Except String Json
  exactTopic : String → Bool
  normalize : String → Json → Except String NormalizedMqttObservation
  acceptedReasonCode : String
  duplicateReasonCode : String
  olderReasonCode : String
  topicNotAllowedReasonCode : String
  targetAuthority : Option TargetAuthority
  taskStateAuthority : Option TaskStateAuthority
  compositeStatusAuthority : Option CompositeStatusAuthority
  fieldAuthorityGates : List FieldAuthorityGate

def ugvMqttProfile (decode : String → Except String Json) (exactUgvTopic : String → Bool)
    (normalizeMqttObservation : String → Json → Except String NormalizedMqttObservation) :
    VehicleMqttProfile := {
  decode := decode
  exactTopic := exactUgvTopic
  normalize := normalizeMqttObservation
  acceptedReasonCode := "UGV_MQTT_MESSAGE_ACCEPTED"
  duplicateReasonCode := "UGV_MQTT_DUPLICATE_IGNORED"
  olderReasonCode := "UGV_MQTT_OLDER_OBSERVATION_IGNORED"
  topicNotAllowedReasonCode := "UGV_MQTT_TOPIC_NOT_ALLOWED"
  targetAuthority := some {
    detectedObjectsTopic := "/ugv/detected_objects"
    reconTargetsTopic := "/ugv/area_recon/targets" }
  taskStateAuthority := some {
    missionStateTopic := "/ugv/mission_state"
    compositeStatusTopics := ["status/ugv", "/ugv/status"] }
  compositeStatusAuthority := some {
    canonicalTopic := "status/ugv"
    aliasTopics := ["/ugv/status"]
    aliasFallbackAfterMs := 3000 }
  fieldAuthorityGates := [{
    field := .positionGeodetic
    observationTopic := "status/ugv1"
    healthTopics := ["/ugv/component_status", "/ugv/status", "status/ugv"]
    requiredHealthyTopics := ["/ugv/component_status"]
    healthComponent := "gnss"
    maximumHealthAgeMs := 3000 }]
}

def npcTankMqttProfile (decode : String → Except String Json) (exactNpcTankTopic : String → Bool)
    (normalizeNpcTankMqttObservation : String → Json → Except String NormalizedMqttObservation) :
    VehicleMqttProfile := {
  decode := decode
  exactTopic := exactNpcTankTopic
  normalize := normalizeNpcTankMqttObservation
  acceptedReasonCode := "NPC_TANK_MQTT_MESSAGE_ACCEPTED"
  duplicateReasonCode := "NPC_TANK_MQTT_DUPLICATE_IGNORED"
  olderReasonCode := "NPC_TANK_MQTT_OLDER_OBSERVATION_IGNORED"
  topicNotAllowedReasonCode := "NPC_TANK_MQTT_TOPIC_NOT_ALLOWED"
  targetAuthority := some {
    detectedObjectsTopic := "/npc_tank1/detected_objects"
    reconTargetsTopic := "/npc_tank1/area_recon/targets" }
  taskStateAuthority := some {
    missionStateTopic := "/npc_tank1/mission_state"
    compositeStatusTopics := ["/npc_tank1/status"] }
  compositeStatusAuthority := none
  fieldAuthorityGates := []
}

structure LocalPosition where
  x : Option Json
  y : Option Json
  z : Option Json

inductive FieldValue where
  | position (value : Json)
  | localPosition (value : LocalPosition)
  | number (value : Json)
  | mission (value : Fields)
  | recon (value : Fields)
  | targets (value : List VehicleTarget)
  | gimbal (value : Fields)

private def memberOf (key : String) (value : Option Json) : Fields :=
  (value.map fun value => [(key, value)]).getD []

def VehicleTarget.toJson (target : VehicleTarget) : Json :=
  .obj ([("targetId", .str target.targetId)] ++
    memberOf "captureTimeUs" (target.captureTimeUs.map fun time => .num (toString time)) ++
      memberOf "source" (target.source.map .str) ++ [("observedAt", .str target.observedAt)] ++
        target.others)

def FieldValue.toJson : FieldValue → Json
  | .position value => value
  | .localPosition value =>
    .obj (memberOf "x" value.x ++ memberOf "y" value.y ++ memberOf "z" value.z)
  | .number value => value
  | .mission value => .obj value
  | .recon value => .obj value
  | .targets value => .arr (value.map VehicleTarget.toJson)
  | .gimbal value => .obj value

def Navigation.localPosition (navigation : Navigation) : LocalPosition := {
  x := navigation.positionX
  y := navigation.positionY
  z := navigation.positionZ
}

def observedValue (patch : SnapshotPatch) (domains : List FreshnessDomain) :
    VehicleObservationField → Option FieldValue
  | .positionGeodetic => (patch.chassis.bind fun chassis => chassis.position).map .position
  | .positionLocal =>
    (patch.chassis.bind fun chassis => chassis.navigation).bind fun navigation =>
      if navigation.positionX.isSome ∨ navigation.positionY.isSome then
        some (.localPosition navigation.localPosition)
      else none
  | .speed => (patch.chassis.bind fun chassis => chassis.speedKmh).map .number
  | .heading => (patch.chassis.bind fun chassis => chassis.compassHeadingDeg).map .number
  | .mission => (patch.chassis.bind fun chassis => chassis.mission).map .mission
  | .recon => (patch.payload.bind fun payload => payload.reconnaissance).map .recon
  | .targets =>
    if .target ∈ domains then
      (patch.payload.bind fun payload => payload.targets).map .targets
    else none
  | .gimbal => (patch.payload.bind fun payload => payload.gimbal).map .gimbal

def observationFieldValues (patch : SnapshotPatch) (domains : List FreshnessDomain) :
    List (VehicleObservationField × FieldValue) :=
  vehicleObservationFields.filterMap fun field =>
    (observedValue patch domains field).map fun value => (field, value)

def removeObservationField (patch : SnapshotPatch) (field : VehicleObservationField) :
    SnapshotPatch :=
  let ofChassis (change : ChassisPatch → ChassisPatch) : SnapshotPatch :=
    { patch with chassis := patch.chassis.map change }
  let ofPayload (change : PayloadPatch → PayloadPatch) : SnapshotPatch :=
    { patch with payload := patch.payload.map change }
  match field with
  | .positionGeodetic => ofChassis fun chassis => { chassis with position := none }
  | .positionLocal => ofChassis fun chassis =>
    { chassis with
      navigation := chassis.navigation.map fun navigation =>
        { navigation with
          positionX := none
          positionY := none
          positionZ := none } }
  | .speed => ofChassis fun chassis =>
    { chassis with
      speedKmh := none
      navigation := chassis.navigation.map fun navigation =>
        { navigation with speedKmh := none } }
  | .heading => ofChassis fun chassis => { chassis with compassHeadingDeg := none }
  | .mission => ofChassis fun chassis => { chassis with mission := none }
  | .recon => ofPayload fun payload => { payload with reconnaissance := none }
  | .targets => ofPayload fun payload => { payload with targets := none }
  | .gimbal => ofPayload fun payload => { payload with gimbal := none }

def VehicleTarget.sourceTime (platform : Platform) (target : VehicleTarget) : Int :=
  match target.captureTimeUs with
  | some time => time
  | none => ((platform.dateParse target.observedAt).map fun millis => millis * 1000).getD 0

def VehicleTarget.sourceRank (target : VehicleTarget) : Nat :=
  match target.source with
  | some "mqtt_area_recon" => 3
  | some "device_mcp" => 2
  | some "mqtt_detected_objects" => 1
  | some "mqtt" => 1
  | _ => 0

def VehicleTarget.keyCount (target : VehicleTarget) : Nat :=
  2 + target.captureTimeUs.toList.length + target.source.toList.length + target.others.length

def VehicleTarget.prevails (platform : Platform) (left right : VehicleTarget) : Bool :=
  if left.sourceTime platform ≠ right.sourceTime platform then
    decide (right.sourceTime platform < left.sourceTime platform)
  else if left.sourceRank ≠ right.sourceRank then decide (right.sourceRank < left.sourceRank)
  else decide (right.keyCount ≤ left.keyCount)

def deduplicateVehicleTargets (platform : Platform) (targets : List VehicleTarget) :
    List VehicleTarget :=
  let select (selected : OrderedMap String VehicleTarget) (target : VehicleTarget) :=
    match selected.get? target.targetId with
    | none => selected.set target.targetId target
    | some previous =>
      if target.prevails platform previous then selected.set target.targetId target else selected
  (targets.foldl select OrderedMap.empty).values.insertionSort fun left right =>
    platform.localeLe left.targetId right.targetId = true

structure FieldObservationAuthority where
  topic : String
  observedAt : String
  timeAuthority : TimeAuthority
  sourceSequence : Option String
  ingestSequence : Nat
  payloadHash : String
  deriving DecidableEq

structure LatestObservation where
  observedAt : String
  hash : String
  deriving DecidableEq

structure GateHealth where
  state : String
  receivedAt : String
  deriving DecidableEq

/-- The memories of the ingress, and for each field the values it was named for, the newest
last. -/
structure VehicleMqttIngress where
  latestByAuthority : OrderedMap (String × TimeAuthority) LatestObservation
  fieldAuthorities : OrderedMap VehicleObservationField FieldObservationAuthority
  fieldGateHealth : OrderedMap VehicleObservationField (OrderedMap String GateHealth)
  primaryTaskState : Option Fields
  secondaryTaskState : Option Fields
  stateConflict : Bool
  detectedTargets : List VehicleTarget
  reconTargets : List VehicleTarget
  reconTargetsObserved : Bool
  canonicalCompositeStatusReceivedAt : Option String
  activeCompositeStatusTopic : Option String
  sequence : Nat
  snapshot : VehicleSnapshot
  named : VehicleObservationField → List FieldValue

structure IngestResult where
  accepted : Bool
  reasonCode : String
  duplicate : Bool
  olderObservation : Bool
  retained : Bool
  deriving DecidableEq

structure Message where
  topic : String
  payload : String
  retained : Bool
  receivedAt : String

namespace VehicleMqttIngress

variable (platform : Platform) (profile : VehicleMqttProfile)

def inspectMessage (topic payload : String) : Except String NormalizedMqttObservation :=
  if profile.exactTopic topic then do
    let decoded ← profile.decode payload
    profile.normalize topic decoded
  else .error profile.topicNotAllowedReasonCode

structure CompositeDecision where
  applyToSnapshot : Bool
  promotesAuthority : Bool

def aliasMayApply (authority : CompositeStatusAuthority) (ingress : VehicleMqttIngress)
    (receivedAt : String) : Bool :=
  match ingress.canonicalCompositeStatusReceivedAt with
  | none => true
  | some canonicalAt =>
    match platform.dateParse receivedAt, platform.dateParse canonicalAt with
    | some received, some canonical =>
      decide (authority.aliasFallbackAfterMs < received - canonical)
    | _, _ => true

def compositeStatusDecision (ingress : VehicleMqttIngress) (topic receivedAt : String) :
    CompositeDecision × VehicleMqttIngress :=
  match profile.compositeStatusAuthority with
  | none => ({ applyToSnapshot := true, promotesAuthority := false }, ingress)
  | some authority =>
    let promotes := decide (ingress.activeCompositeStatusTopic ≠ some topic)
    if topic = authority.canonicalTopic then
      ({ applyToSnapshot := true, promotesAuthority := promotes },
        { ingress with
          canonicalCompositeStatusReceivedAt := some receivedAt
          activeCompositeStatusTopic := some topic })
    else if topic ∉ authority.aliasTopics then
      ({ applyToSnapshot := true, promotesAuthority := false }, ingress)
    else if aliasMayApply platform authority ingress receivedAt then
      ({ applyToSnapshot := true, promotesAuthority := promotes },
        { ingress with activeCompositeStatusTopic := some topic })
    else ({ applyToSnapshot := false, promotesAuthority := false }, ingress)

def recordFieldGateHealth (ingress : VehicleMqttIngress) (topic : String)
    (observation : NormalizedMqttObservation) (receivedAt : String) : VehicleMqttIngress :=
  let component (gate : FieldAuthorityGate) : Option String :=
    ((observation.patch.health.bind fun health => health.components).bind
      (Json.lookup gate.healthComponent)).bind Json.text?
  let remember (ingress : VehicleMqttIngress) (gate : FieldAuthorityGate) : VehicleMqttIngress :=
    if topic ∈ gate.healthTopics then
      match component gate with
      | none => ingress
      | some state =>
        { ingress with
          fieldGateHealth := ingress.fieldGateHealth.set gate.field
            (((ingress.fieldGateHealth.get? gate.field).getD OrderedMap.empty).set topic
              { state := state, receivedAt := receivedAt }) }
    else ingress
  profile.fieldAuthorityGates.foldl remember ingress

def withTargets (observation : NormalizedMqttObservation) (targets : List VehicleTarget) :
    NormalizedMqttObservation :=
  { observation with
    patch := { observation.patch with
      payload := observation.patch.payload.map fun payload =>
        { payload with targets := some targets } } }

/-- Once the rich source has appeared, detected objects are a secondary view. -/
def applyTargetAuthority (ingress : VehicleMqttIngress) (topic : String)
    (observation : NormalizedMqttObservation) :
    NormalizedMqttObservation × VehicleMqttIngress :=
  match profile.targetAuthority, observation.patch.payload.bind fun payload => payload.targets with
  | some authority, some targets =>
    if topic = authority.detectedObjectsTopic then
      let detected := deduplicateVehicleTargets platform targets
      let remembered := { ingress with detectedTargets := detected }
      if ingress.reconTargetsObserved then
        ({ withTargets observation ingress.reconTargets with
          domains := observation.domains.filter fun domain => domain ≠ .target }, remembered)
      else (withTargets observation detected, remembered)
    else if topic = authority.reconTargetsTopic then
      let recon := deduplicateVehicleTargets platform targets
      (withTargets observation recon,
        { ingress with
          reconTargetsObserved := true
          reconTargets := recon })
    else (observation, ingress)
  | _, _ => (observation, ingress)

private def taskState (track : Fields) : Option String :=
  (Json.lookup "state" track).map Json.canonicalize

def conflicting (primary secondary : Option Fields) : Bool :=
  match primary, secondary with
  | some primary, some secondary => decide (taskState primary ≠ taskState secondary)
  | _, _ => false

def withoutMission (observation : NormalizedMqttObservation) : NormalizedMqttObservation :=
  { observation with patch := removeObservationField observation.patch .mission }

def applyTaskStateAuthority (ingress : VehicleMqttIngress) (topic : String)
    (observation : NormalizedMqttObservation) :
    NormalizedMqttObservation × VehicleMqttIngress :=
  match profile.taskStateAuthority,
    observation.patch.chassis.bind fun chassis => chassis.mission with
  | some authority, some mission =>
    if topic = authority.missionStateTopic then
      (observation, { ingress with
        primaryTaskState := some mission
        stateConflict := conflicting (some mission) ingress.secondaryTaskState })
    else if topic ∈ authority.compositeStatusTopics then
      (if ingress.primaryTaskState.isSome then withoutMission observation else observation,
        { ingress with
          secondaryTaskState := some mission
          stateConflict := conflicting ingress.primaryTaskState (some mission) })
    else (observation, ingress)
  | _, _ => (observation, ingress)

/-- The health that topics reported lately lets the gated field through. -/
def gateHealthy (ingress : VehicleMqttIngress) (gate : FieldAuthorityGate) (receivedAt : String) :
    Bool :=
  let recent (health : GateHealth) : Bool :=
    match platform.dateParse receivedAt, platform.dateParse health.receivedAt with
    | some now, some earlier =>
      decide (0 ≤ now - earlier ∧ now - earlier ≤ gate.maximumHealthAgeMs)
    | _, _ => false
  let fresh := ((ingress.fieldGateHealth.get? gate.field).getD OrderedMap.empty).filterMap
    fun health => if recent health then some health else none
  gate.requiredHealthyTopics.all (fun topic =>
      ((fresh.get? topic).map fun health => decide (health.state = "normal")).getD false) &&
    fresh.values.all fun health => decide (health.state = "normal")

def applyFieldAuthorityGates (ingress : VehicleMqttIngress) (topic : String)
    (observation : NormalizedMqttObservation) (receivedAt : String) : NormalizedMqttObservation :=
  let pass (patch : SnapshotPatch) (gate : FieldAuthorityGate) : SnapshotPatch :=
    if topic ≠ gate.observationTopic ∨ gateHealthy platform ingress gate receivedAt then patch
    else removeObservationField patch gate.field
  { observation with patch := profile.fieldAuthorityGates.foldl pass observation.patch }

/-- The filters that a message passes before the authorities of its fields are looked at. -/
def filtered (ingress : VehicleMqttIngress) (topic : String)
    (observation : NormalizedMqttObservation) (receivedAt : String) :
    NormalizedMqttObservation × VehicleMqttIngress :=
  let targets := applyTargetAuthority platform profile ingress topic observation
  let tasks := applyTaskStateAuthority profile targets.2 topic targets.1
  (applyFieldAuthorityGates platform profile tasks.2 topic tasks.1 receivedAt, tasks.2)

def isCompositeAuthorityHandoff (topic previousTopic : String) : Bool :=
  match profile.compositeStatusAuthority with
  | none => false
  | some authority =>
    decide (topic = authority.canonicalTopic ∧ previousTopic ∈ authority.aliasTopics ∨
      topic ∈ authority.aliasTopics ∧ previousTopic = authority.canonicalTopic)

def outdated (ingress : VehicleMqttIngress) (topic observedAt : String)
    (field : VehicleObservationField) : Bool :=
  match ingress.fieldAuthorities.get? field with
  | none => false
  | some previous =>
    !isCompositeAuthorityHandoff profile topic previous.topic &&
      decide (compareIsoTimestamps platform observedAt previous.observedAt < 0)

def acceptedPatch (ingress : VehicleMqttIngress) (topic : String)
    (observation : NormalizedMqttObservation) (observedAt : String) : SnapshotPatch :=
  (observationFieldValues observation.patch observation.domains).foldl
    (fun patch entry =>
      if outdated platform profile ingress topic observedAt entry.1 then
        removeObservationField patch entry.1
      else patch) observation.patch

def authorityOf (ingress : VehicleMqttIngress) (topic : String)
    (observation : NormalizedMqttObservation) (observedAt : String) (value : FieldValue) :
    FieldObservationAuthority := {
  topic := topic
  observedAt := observedAt
  timeAuthority := observation.timeAuthority
  sourceSequence := observation.sourceSequence
  ingestSequence := ingress.sequence
  payloadHash := platform.payloadHash value.toJson
}

def nameField (topic : String) (observation : NormalizedMqttObservation) (observedAt : String)
    (ingress : VehicleMqttIngress) (entry : VehicleObservationField × FieldValue) :
    VehicleMqttIngress :=
  { ingress with
    fieldAuthorities := ingress.fieldAuthorities.set entry.1
      (authorityOf platform ingress topic observation observedAt entry.2)
    named := fun field =>
      if field = entry.1 then ingress.named field ++ [entry.2] else ingress.named field }

def applyFieldAuthorities (ingress : VehicleMqttIngress) (topic : String)
    (observation : NormalizedMqttObservation) (observedAt : String) :
    SnapshotPatch × VehicleMqttIngress :=
  let patch := acceptedPatch platform profile ingress topic observation observedAt
  (patch, (observationFieldValues patch observation.domains).foldl
    (nameField platform topic observation observedAt) ingress)

/-- The newest message of a topic is remembered; a promoted topic starts anew. -/
def remember (ingress : VehicleMqttIngress) (topic : String) (authority : TimeAuthority)
    (latest : LatestObservation) (promotes : Bool) : VehicleMqttIngress :=
  let kept :=
    if promotes then
      (ingress.latestByAuthority.erase (topic, .source)).erase (topic, .ingest)
    else ingress.latestByAuthority
  { ingress with latestByAuthority := kept.set (topic, authority) latest }

def ignored (reasonCode : String) (duplicate retained : Bool) : IngestResult := {
  accepted := true
  reasonCode := reasonCode
  duplicate := duplicate
  olderObservation := !duplicate
  retained := retained
}

def acceptedResult (retained : Bool) : IngestResult := {
  accepted := true
  reasonCode := profile.acceptedReasonCode
  duplicate := false
  olderObservation := false
  retained := retained
}

def isDuplicate (latest : Option LatestObservation) (observedAt hash : String) : Bool :=
  match latest with
  | none => false
  | some latest => decide (latest.observedAt = observedAt ∧ latest.hash = hash)

def isOlder (latest : Option LatestObservation) (observedAt : String) : Bool :=
  match latest with
  | none => false
  | some latest => decide (compareIsoTimestamps platform observedAt latest.observedAt < 0)

/-- An observation that is applied: what the filters leave is named and then merged; the merge may
throw, and what was named stays. -/
def applyObservation (ingress : VehicleMqttIngress) (topic : String)
    (observation : NormalizedMqttObservation) (observedAt receivedAt : String) :
    Except String Unit × VehicleMqttIngress :=
  let passed := filtered platform profile ingress topic observation receivedAt
  let counted := { passed.2 with sequence := passed.2.sequence + 1 }
  let accepted := applyFieldAuthorities platform profile counted topic passed.1 observedAt
  match applySnapshotPatch platform accepted.2.snapshot accepted.1 observedAt passed.1.domains with
  | .error reason => (.error reason, accepted.2)
  | .ok snapshot => (.ok (), { accepted.2 with snapshot := snapshot })

/-- A message that is neither a duplicate nor older, or that promotes its topic. -/
def takeIn (ingress : VehicleMqttIngress) (topic : String)
    (observation : NormalizedMqttObservation) (latest : LatestObservation) (receivedAt : String)
    (decision : CompositeDecision) (retained : Bool) :
    Except String IngestResult × VehicleMqttIngress :=
  let recorded := recordFieldGateHealth profile ingress topic observation receivedAt
  let applied :=
    if decision.applyToSnapshot then
      applyObservation platform profile recorded topic observation latest.observedAt receivedAt
    else (.ok (), { recorded with sequence := recorded.sequence + 1 })
  match applied with
  | (.error reason, after) => (.error reason, after)
  | (.ok _, after) =>
    (.ok (acceptedResult profile retained),
      remember after topic observation.timeAuthority latest decision.promotesAuthority)

/-- The message came before, or is older than the newest of its topic and time authority. -/
def isIgnored (ingress : VehicleMqttIngress) (topic : String)
    (observation : NormalizedMqttObservation) (latest : LatestObservation) : Bool :=
  let known := ingress.latestByAuthority.get? (topic, observation.timeAuthority)
  isDuplicate known latest.observedAt latest.hash || isOlder platform known latest.observedAt

def latestOf (observation : NormalizedMqttObservation) (receivedAt : String) :
    LatestObservation := {
  observedAt := observation.sourceObservedAt.getD receivedAt
  hash := platform.payloadHash observation.canonicalPayload
}

def handle (ingress : VehicleMqttIngress) (message : Message) :
    Except String IngestResult × VehicleMqttIngress :=
  match inspectMessage profile message.topic message.payload with
  | .error reason => (.error reason, ingress)
  | .ok observation =>
    let latest := latestOf platform observation message.receivedAt
    let known := ingress.latestByAuthority.get? (message.topic, observation.timeAuthority)
    let decided :=
      compositeStatusDecision platform profile ingress message.topic message.receivedAt
    if isIgnored platform ingress message.topic observation latest ∧
        decided.1.promotesAuthority = false then
      let duplicate := isDuplicate known latest.observedAt latest.hash
      (.ok (ignored (if duplicate then profile.duplicateReasonCode else profile.olderReasonCode)
        duplicate message.retained), decided.2)
    else takeIn platform profile decided.2 message.topic observation latest message.receivedAt
      decided.1 message.retained

def next (ingress : VehicleMqttIngress) (message : Message) : VehicleMqttIngress :=
  (handle platform profile ingress message).2

def initial (snapshot : VehicleSnapshot) : VehicleMqttIngress := {
  latestByAuthority := OrderedMap.empty
  fieldAuthorities := OrderedMap.empty
  fieldGateHealth := OrderedMap.empty
  primaryTaskState := none
  secondaryTaskState := none
  stateConflict := false
  detectedTargets := []
  reconTargets := []
  reconTargetsObserved := false
  canonicalCompositeStatusReceivedAt := none
  activeCompositeStatusTopic := none
  sequence := 0
  snapshot := snapshot
  named := fun _ => []
}

end VehicleMqttIngress

end VehicleIngress

end SdarRuntime
