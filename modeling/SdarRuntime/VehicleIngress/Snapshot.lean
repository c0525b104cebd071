import SdarRuntime.Library.Json

/-!
The snapshot of a vehicle and the patches that observations apply to it. A field of a patch
replaces the field of the snapshot, or is merged into it member by member.
-/

namespace SdarRuntime

namespace VehicleIngress

open Json

abbrev Fields := List (String × Json)

structure Platform where
  dateParse : String → Option Int
  localeLe : String → String → Bool
  payloadHash : Json → String

def fractionalDigits (text : String) : List Char :=
  match text.toList.dropWhile fun char => char != '.' with
  | [] => []
  | _ :: rest =>
    let digits := rest.takeWhile fun char => char.isDigit
    let zone := rest.dropWhile fun char => char.isDigit
    if zone = ['Z'] then digits
    else match zone with
      | [sign, hour, hour', ':', minute, minute'] =>
        if (sign = '+' ∨ sign = '-') ∧ [hour, hour', minute, minute'].all Char.isDigit then
          digits
        else []
      | _ => []

private def padded (digits : List Char) (length : Nat) : List Char :=
  digits ++ List.replicate (length - digits.length) '0'

def compareIsoTimestamps (platform : Platform) (left right : String) : Int :=
  match platform.dateParse left, platform.dateParse right with
  | some leftMillis, some rightMillis =>
    if leftMillis ≠ rightMillis then (if leftMillis < rightMillis then -1 else 1)
    else
      let length := max (fractionalDigits left).length (fractionalDigits right).length
      let normalizedLeft := padded (fractionalDigits left) length
      let normalizedRight := padded (fractionalDigits right) length
      if normalizedLeft = normalizedRight then 0
      else if normalizedLeft < normalizedRight then -1
      else 1
  | _, _ => 1

structure VehicleTarget where
  targetId : String
  captureTimeUs : Option Int
  source : Option String
  observedAt : String
  others : Fields

structure Navigation where
  positionX : Option Json
  positionY : Option Json
  positionZ : Option Json
  speedKmh : Option Json
  batteryRangeKm : Option Json

def Navigation.empty : Navigation := {
  positionX := none
  positionY := none
  positionZ := none
  speedKmh := none
  batteryRangeKm := none
}

def Navigation.merge (current patch : Navigation) : Navigation := {
  positionX := patch.positionX <|> current.positionX
  positionY := patch.positionY <|> current.positionY
  positionZ := patch.positionZ <|> current.positionZ
  speedKmh := patch.speedKmh <|> current.speedKmh
  batteryRangeKm := patch.batteryRangeKm <|> current.batteryRangeKm
}

def mergeNavigation (current patch : Option Navigation) : Option Navigation :=
  match patch with
  | none => current
  | some navigation => some ((current.getD Navigation.empty).merge navigation)

inductive FreshnessDomain where
  | chassis
  | health
  | mission
  | target
  | payload
  deriving DecidableEq

structure Chassis where
  position : Option Json
  attitude : Option Json
  compassHeadingDeg : Option Json
  speedKmh : Option Json
  energy : Option Fields
  temperature : Option Fields
  mission : Fields
  navigation : Option Navigation

structure Payload where
  online : Option Json
  gimbal : Option Fields
  laser : Option Fields
  eoTask : Option Fields
  reconnaissance : Fields
  weapon : Fields
  lockedTargetId : Option Json
  attackReady : Option Json
  targets : List VehicleTarget
  eoScan : Option Fields

structure Health where
  members : Fields
  components : Fields

structure VehicleSnapshot where
  chassis : Chassis
  payload : Payload
  health : Health
  connectivity : Fields
  freshness : FreshnessDomain → Option String
  observedAt : String

private def unknownState : Fields := [("state", .str "unknown")]

def createVehicleSnapshot (now : String) : VehicleSnapshot := {
  chassis := {
    position := none
    attitude := none
    compassHeadingDeg := none
    speedKmh := none
    energy := none
    temperature := none
    mission := unknownState
    navigation := none }
  payload := {
    online := none
    gimbal := none
    laser := none
    eoTask := some unknownState
    reconnaissance := unknownState ++ [("motionStatus", .str "unknown")]
    weapon := unknownState
    lockedTargetId := none
    attackReady := none
    targets := []
    eoScan := none }
  health := {
    members := [("chassisErrorCodes", .arr []), ("payloadErrorCodes", .arr [])]
    components := ["powerBattery", "lowVoltageBattery", "fuel", "waterTemperature", "motor",
      "sensor", "gnss", "communications", "weapon", "navigation"].map fun component =>
        (component, .str "unknown") }
  connectivity := [("mqttConnected", .bool false), ("deviceMcpConnected", .bool false)]
  freshness := fun _ => none
  observedAt := now
}

def createUgvSnapshot (now : String) : VehicleSnapshot :=
  createVehicleSnapshot now

def createNpcTankSnapshot (supportsCircularEoScan : Bool) (now : String) : VehicleSnapshot :=
  let snapshot := createVehicleSnapshot now
  { snapshot with
    payload := { snapshot.payload with
      eoScan := some [("supported", .bool supportsCircularEoScan)] } }

structure ChassisPatch where
  position : Option Json
  attitude : Option Json
  compassHeadingDeg : Option Json
  speedKmh : Option Json
  energy : Option Fields
  temperature : Option Fields
  mission : Option Fields
  navigation : Option Navigation

structure PayloadPatch where
  online : Option Json
  gimbal : Option Fields
  laser : Option Fields
  eoTask : Option Fields
  reconnaissance : Option Fields
  weapon : Option Fields
  lockedTargetId : Option Json
  attackReady : Option Json
  targets : Option (List VehicleTarget)
  eoScan : Option Fields

structure HealthPatch where
  members : Fields
  components : Option Fields

structure SnapshotPatch where
  chassis : Option ChassisPatch
  payload : Option PayloadPatch
  health : Option HealthPatch
  connectivity : Option Fields

def mergeFields (current : Option Fields) (patch : Option Fields) : Option Fields :=
  match patch, current with
  | none, current => current
  | some members, none => some members
  | some members, some current => some (spread current members)

def withoutKeys (keys : List String) (fields : Fields) : Fields :=
  fields.filter fun member => !keys.contains member.1

private def isTrue : Option Json → Bool
  | some (.bool value) => value
  | _ => false

/-- Members of a member: `{...previous[key], ...patch[key]}` where the patch has the key. -/
def mergeMember (key : String) (previous patch merged : Fields) : Fields :=
  match Json.lookup key patch with
  | none => merged
  | some value =>
    assign key (.obj (spread (((Json.lookup key previous).map members).getD [])
      (members value))) merged

/-- What a new status without the mission's identity does not inherit. -/
def previousReconnaissance (current patch : Fields) : Fields :=
  if (Json.lookup "motionStatus" patch).isSome ∧
      (Json.lookup "id" patch).map canonicalize ≠
        (Json.lookup "id" current).map canonicalize then
    withoutKeys ["id", "progress", "coverage", "lock", "lastCommandAck", "coverability",
      "lastException", "scanCount", "outOfRange"] current
  else current

/-- `patch.cameraFault ?? previous.cameraFault ?? false`. -/
def cameraFault (previous patch : Fields) : Bool :=
  match Json.lookup "cameraFault" patch with
  | none | some .null => isTrue (Json.lookup "cameraFault" previous)
  | some value => isTrue (some value)

def acceptedReconnaissance (previous patch : Fields) : Fields :=
  if cameraFault previous patch then
    assign "progressAuthoritative" (.bool false) (withoutKeys ["progress", "coverage"] patch)
  else patch

def mergeReconnaissance (current patch : Fields) : Fields :=
  let previous := previousReconnaissance current patch
  let accepted := acceptedReconnaissance previous patch
  mergeMember "lock" previous accepted
    (mergeMember "coverage" previous accepted (spread previous accepted))

def patchChassis (current : Chassis) (patch : ChassisPatch) : Chassis := {
  position := patch.position <|> current.position
  attitude := patch.attitude <|> current.attitude
  compassHeadingDeg := patch.compassHeadingDeg <|> current.compassHeadingDeg
  speedKmh := patch.speedKmh <|> current.speedKmh
  energy := mergeFields current.energy patch.energy
  temperature := mergeFields current.temperature patch.temperature
  mission := patch.mission.getD current.mission
  navigation := mergeNavigation current.navigation patch.navigation
}

def patchPayload (current : Payload) (patch : PayloadPatch) : Payload := {
  online := patch.online <|> current.online
  gimbal := mergeFields current.gimbal patch.gimbal
  laser := mergeFields current.laser patch.laser
  eoTask := patch.eoTask <|> current.eoTask
  reconnaissance :=
    match patch.reconnaissance with
    | none => current.reconnaissance
    | some reconnaissance => mergeReconnaissance current.reconnaissance reconnaissance
  weapon := patch.weapon.getD current.weapon
  lockedTargetId := patch.lockedTargetId <|> current.lockedTargetId
  attackReady := patch.attackReady <|> current.attackReady
  targets := patch.targets.getD current.targets
  eoScan := patch.eoScan <|> current.eoScan
}

def patchHealth (current : Health) (patch : HealthPatch) : Health := {
  members := spread current.members patch.members
  components := spread current.components (patch.components.getD [])
}

def latestObservedAt (platform : Platform) (current : Option String) (candidate : String) :
    String :=
  match current with
  | none => candidate
  | some current =>
    if (platform.dateParse candidate).isNone then current
    else if (platform.dateParse current).isNone ∨
        0 ≤ compareIsoTimestamps platform candidate current then candidate
    else current

def refereeKeys : List String :=
  ["hp", "alive", "camp", "damage", "remaininghp", "remaining_hp", "hit", "miss", "destroyed",
    "friendly_fire", "referee", "global_truth"]

mutual
def hasRefereeKey : Json → Bool
  | .arr items => anyRefereeKey items
  | .obj fields => anyRefereeMember fields
  | _ => false

def anyRefereeKey : List Json → Bool
  | [] => false
  | item :: rest => hasRefereeKey item || anyRefereeKey rest

def anyRefereeMember : List (String × Json) → Bool
  | [] => false
  | (key, value) :: rest =>
    refereeKeys.contains key.toLower || hasRefereeKey value || anyRefereeMember rest
end

def present (value : Option Json) : Bool :=
  (value.map hasRefereeKey).getD false

def membersPresent (fields : Option Fields) : Bool :=
  anyRefereeMember (fields.getD [])

def navigationPresent (navigation : Option Navigation) : Bool :=
  match navigation with
  | none => false
  | some navigation =>
    present navigation.positionX || present navigation.positionY ||
      present navigation.positionZ || present navigation.speedKmh ||
        present navigation.batteryRangeKm

def targetsPresent (targets : List VehicleTarget) : Bool :=
  targets.any fun target => anyRefereeMember target.others

def Chassis.hasRefereeData (chassis : Chassis) : Bool :=
  present chassis.position || present chassis.attitude || present chassis.compassHeadingDeg ||
    present chassis.speedKmh || membersPresent chassis.energy ||
      membersPresent chassis.temperature || anyRefereeMember chassis.mission ||
        navigationPresent chassis.navigation

def Payload.hasRefereeData (payload : Payload) : Bool :=
  present payload.online || membersPresent payload.gimbal || membersPresent payload.laser ||
    membersPresent payload.eoTask || anyRefereeMember payload.reconnaissance ||
      anyRefereeMember payload.weapon || present payload.lockedTargetId ||
        present payload.attackReady || targetsPresent payload.targets ||
          membersPresent payload.eoScan

/-- No key of the snapshot itself is one of the referee's, so its values decide. -/
def hasRefereeData (snapshot : VehicleSnapshot) : Bool :=
  snapshot.chassis.hasRefereeData || snapshot.payload.hasRefereeData ||
    anyRefereeMember snapshot.health.members || anyRefereeMember snapshot.health.components ||
      anyRefereeMember snapshot.connectivity

/-- The snapshot with a patch applied, before it is looked at for referee data. -/
def patched (platform : Platform) (current : VehicleSnapshot) (patch : SnapshotPatch)
    (observedAt : String) (domains : List FreshnessDomain) : VehicleSnapshot := {
  chassis := (patch.chassis.map (patchChassis current.chassis)).getD current.chassis
  payload := (patch.payload.map (patchPayload current.payload)).getD current.payload
  health := (patch.health.map (patchHealth current.health)).getD current.health
  connectivity := spread current.connectivity (patch.connectivity.getD [])
  freshness := fun domain =>
    if domain ∈ domains then
      some (latestObservedAt platform (current.freshness domain) observedAt)
    else current.freshness domain
  observedAt := observedAt
}

def applySnapshotPatch (platform : Platform) (current : VehicleSnapshot) (patch : SnapshotPatch)
    (observedAt : String) (domains : List FreshnessDomain) : Except String VehicleSnapshot :=
  if hasRefereeData (patched platform current patch observedAt domains) then
    .error "UGV_REFEREE_DATA_FORBIDDEN"
  else .ok (patched platform current patch observedAt domains)

end VehicleIngress

end SdarRuntime
