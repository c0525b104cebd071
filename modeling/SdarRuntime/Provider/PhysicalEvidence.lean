import SdarRuntime.Provider.IsoTimestamps

/-!
Physical evidence of a dispatched task. An observation is new against the authorities captured
at dispatch, by its sequence where both have one and by cursor and time otherwise; navigation is
confirmed by new observations of mission, position and speed of a vehicle that stands still.
`Date.parse` and `localeCompare` are parameters.
-/

namespace SdarRuntime

namespace PhysicalEvidence

open IsoTimestamps

inductive VehicleObservationField where
  | positionGeodetic
  | positionLocal
  | speed
  | heading
  | mission
  | recon
  | targets
  | gimbal
  deriving DecidableEq

def VehicleObservationField.text : VehicleObservationField → String
  | positionGeodetic => "chassis.position.geodetic"
  | positionLocal => "chassis.position.local"
  | speed => "chassis.speed"
  | heading => "chassis.heading"
  | mission => "chassis.mission"
  | recon => "payload.recon"
  | targets => "payload.targets"
  | gimbal => "payload.gimbal"

structure PhysicalObservationAuthority where
  field : Option VehicleObservationField
  topic : String
  observedAt : String
  sourceSequence : Option String
  ingestSequence : Option Nat
  cursor : String
  deriving DecidableEq

structure GeodeticPosition where
  latitude : ℚ
  longitude : ℚ
  altitude : Option ℚ

structure Navigation where
  positionX : Option ℚ
  positionY : Option ℚ
  positionZ : Option ℚ

structure VehicleSnapshot where
  missionId : Option String
  position : Option GeodeticPosition
  navigation : Option Navigation
  speedKmh : Option ℚ

inductive VehiclePositionObservation where
  | geodetic (latitude longitude : ℚ) (altitude : Option ℚ)
  | carlaWorld (x y : ℚ) (z : Option ℚ)

structure AuthoritativeVehiclePosition where
  observation : VehiclePositionObservation
  authority : PhysicalObservationAuthority

structure FreshnessPolicy where
  chassis : Int
  maximumFutureSkewMs : Option Int

inductive CorrelationStrength where
  | strictCorrelated
  | mismatch
  | unknown
  deriving DecidableEq

structure PhysicalConfirmation where
  confirmed : Bool
  reasonCode : String
  correlation : CorrelationStrength
  observationIsNew : Bool
  positionFresh : Bool
  speedFresh : Bool
  stationary : Option Bool
  deriving DecidableEq

/-- `^\d+$` -/
def isNumeric (text : String) : Bool := text.toList != [] && text.toList.all Char.isDigit

def compareSequence (localeCompare : String → String → Int) (left right : String) : Int :=
  if isNumeric left ∧ isNumeric right then
    let leftNumber := DecimalText.value left.toList
    let rightNumber := DecimalText.value right.toList
    if leftNumber = rightNumber then 0 else if rightNumber < leftNumber then 1 else -1
  else localeCompare left right

/-- What `localeCompare` promises: texts are ordered by it. -/
structure LocaleOrder (localeCompare : String → String → Int) : Prop where
  self : ∀ text, localeCompare text text = 0
  swap : ∀ left right, 0 < localeCompare left right → localeCompare right left < 0
  trans : ∀ first second third, 0 < localeCompare first second → 0 < localeCompare second third →
    0 < localeCompare first third

def observationAuthorityKey (authority : PhysicalObservationAuthority) : String :=
  match authority.field with
  | some field => field.text
  | none => authority.topic

def legacyTopicFields (topic : String) : List VehicleObservationField :=
  if topic = "/ugv/mission_state" then [.mission]
  else if topic = "status/ugv1" then [.positionGeodetic, .speed]
  else if topic ∈ ["status/ugv", "/ugv/status"] then [.mission, .speed, .heading, .gimbal]
  else if topic = "/ugv/gnss" then [.positionGeodetic]
  else if topic = "/ugv/nav_state" then [.positionLocal, .speed]
  else if topic ∈ ["/ugv/speed", "status/ugv", "/ugv/status"] then [.speed]
  else if topic = "/ugv/area_recon/status" then [.recon, .gimbal]
  else if topic = "/ugv/area_recon/targets" then [.targets]
  else if topic = "/ugv/eo/pose" then [.gimbal]
  else []

def authorityForField (authorities : List PhysicalObservationAuthority)
    (field : VehicleObservationField) : Option PhysicalObservationAuthority :=
  match authorities.find? fun authority => authority.field == some field with
  | some exactly => some exactly
  | none => authorities.find? fun authority => (legacyTopicFields authority.topic).contains field

def baselineOf (baselines : List PhysicalObservationAuthority)
    (current : PhysicalObservationAuthority) : Option PhysicalObservationAuthority :=
  baselines.find? fun candidate =>
    observationAuthorityKey candidate == observationAuthorityKey current

section Confirmation

variable (dateParse : String → Option Int) (localeCompare : String → String → Int)

def isNewAuthority (baselines : List PhysicalObservationAuthority) :
    Option PhysicalObservationAuthority → Bool
  | none => false
  | some current =>
    match baselineOf baselines current with
    | none => true
    | some baseline =>
      match current.sourceSequence, baseline.sourceSequence with
      | some sequence, some baselineSequence =>
        decide (0 < compareSequence localeCompare sequence baselineSequence)
      | _, _ =>
        decide (current.cursor ≠ baseline.cursor) &&
          decide (0 ≤ compareIsoTimestamps dateParse current.observedAt baseline.observedAt)

def rightIsLater (left right : PhysicalObservationAuthority) : Bool :=
  match left.ingestSequence, right.ingestSequence with
  | some leftSequence, some rightSequence => decide (leftSequence < rightSequence)
  | _, _ => decide (0 < compareIsoTimestamps dateParse right.observedAt left.observedAt)

def latestAuthority :
    Option PhysicalObservationAuthority → Option PhysicalObservationAuthority →
      Option PhysicalObservationAuthority
  | none, right => right
  | some left, none => some left
  | some left, some right => if rightIsLater dateParse left right then some right else some left

def geodeticObservation (snapshot : VehicleSnapshot)
    (authorities : List PhysicalObservationAuthority) : Option AuthoritativeVehiclePosition := do
  let authority ← authorityForField authorities .positionGeodetic
  let position ← snapshot.position
  return {
    observation := .geodetic position.latitude position.longitude position.altitude
    authority }

def localObservation (snapshot : VehicleSnapshot)
    (authorities : List PhysicalObservationAuthority) : Option AuthoritativeVehiclePosition := do
  let authority ← authorityForField authorities .positionLocal
  let navigation ← snapshot.navigation
  let x ← navigation.positionX
  let y ← navigation.positionY
  return {
    observation := .carlaWorld x y navigation.positionZ
    authority }

def authoritativeVehiclePosition (snapshot : VehicleSnapshot)
    (authorities : List PhysicalObservationAuthority) : Option AuthoritativeVehiclePosition :=
  match geodeticObservation snapshot authorities, localObservation snapshot authorities with
  | none, inWorld => inWorld
  | some geodetic, none => some geodetic
  | some geodetic, some inWorld =>
    if rightIsLater dateParse geodetic.authority inWorld.authority then some inWorld
    else some geodetic

/-- Whether the authority is fresh; one that is not there, or has no time, is not. -/
def isFresh (authority : Option PhysicalObservationAuthority) (freshness : FreshnessPolicy)
    (now : Int) : Bool :=
  match authority.bind fun found => dateParse found.observedAt with
  | none => false
  | some observedAt =>
    decide (-(freshness.maximumFutureSkewMs.getD 0) ≤ now - observedAt) &&
      decide (now - observedAt ≤ freshness.chassis)

def stationaryFromSpeed (speedKmh : Option ℚ) (speedFresh : Bool) (thresholdKmh : ℚ) :
    Option Bool :=
  if speedFresh then speedKmh.map fun speed => decide (speed ≤ thresholdKmh) else none

def requiredNavigationAuthoritiesAreNew (baseline current : List PhysicalObservationAuthority) :
    Bool :=
  isNewAuthority dateParse localeCompare baseline (authorityForField current .mission) &&
    isNewAuthority dateParse localeCompare baseline
      (latestAuthority dateParse (authorityForField current .positionGeodetic)
        (authorityForField current .positionLocal)) &&
    isNewAuthority dateParse localeCompare baseline (authorityForField current .speed)

/-- The confirmation's input; the baseline is the authorities captured at dispatch. -/
structure NavigationEvidence where
  snapshot : VehicleSnapshot
  baseline : List PhysicalObservationAuthority
  missionId : Option String
  currentAuthority : Option PhysicalObservationAuthority
  currentAuthorities : Option (List PhysicalObservationAuthority)
  freshness : FreshnessPolicy
  stationarySpeedThresholdKmh : ℚ
  now : Int

def NavigationEvidence.authorities (input : NavigationEvidence) :
    List PhysicalObservationAuthority :=
  input.currentAuthorities.getD input.currentAuthority.toList

def correlationOf (missionId observedMission : Option String) : CorrelationStrength :=
  match missionId, observedMission with
  | some expected, some observed => if expected = observed then .strictCorrelated else .mismatch
  | _, _ => .unknown

def navigationPhysicalConfirmation (input : NavigationEvidence) : PhysicalConfirmation :=
  let authorities := input.authorities
  let correlation := correlationOf input.missionId input.snapshot.missionId
  let observationIsNew :=
    requiredNavigationAuthoritiesAreNew dateParse localeCompare input.baseline authorities
  let position := authoritativeVehiclePosition dateParse input.snapshot authorities
  let positionFresh :=
    isFresh dateParse (position.map AuthoritativeVehiclePosition.authority) input.freshness
      input.now && position.isSome
  let speedKmh := input.snapshot.speedKmh
  let speedFresh :=
    isFresh dateParse (authorityForField authorities .speed) input.freshness input.now &&
      speedKmh.isSome
  let stationary := stationaryFromSpeed speedKmh speedFresh input.stationarySpeedThresholdKmh
  let confirmed :=
    correlation == .strictCorrelated && observationIsNew && positionFresh && speedFresh &&
      stationary == some true
  { confirmed
    reasonCode :=
      if confirmed then "UGV_PHYSICAL_TERMINAL_CONFIRMED"
      else if correlation = .mismatch then "UGV_DOWNSTREAM_MISSION_ID_MISMATCH"
      else if !observationIsNew then "UGV_PHYSICAL_OBSERVATION_NOT_NEW"
      else if !positionFresh then "UGV_TERMINAL_POSITION_UNCONFIRMED"
      else if !speedFresh then "UGV_TERMINAL_SPEED_UNCONFIRMED"
      else if stationary ≠ some true then "UGV_TERMINAL_STATIONARY_UNCONFIRMED"
      else "UGV_MISSION_CORRELATION_UNCONFIRMED"
    correlation
    observationIsNew
    positionFresh
    speedFresh
    stationary }

end Confirmation

section Order

variable {localeCompare : String → String → Int} (order : LocaleOrder localeCompare)

def After (localeCompare : String → String → Int) (left right : String) : Prop :=
  0 < compareSequence localeCompare left right

theorem after_numeric {left right : String} (numericLeft : isNumeric left = true)
    (numericRight : isNumeric right = true) :
    After localeCompare left right ↔
      DecimalText.value right.toList < DecimalText.value left.toList := by
  unfold After compareSequence
  rw [if_pos ⟨numericLeft, numericRight⟩]
  by_cases same : DecimalText.value left.toList = DecimalText.value right.toList
  · simp [same]
  · by_cases below : DecimalText.value right.toList < DecimalText.value left.toList
    · simp [same, below]
    · simp [same, below]

theorem after_locale {left right : String}
    (mixed : ¬ (isNumeric left = true ∧ isNumeric right = true)) :
    After localeCompare left right ↔ 0 < localeCompare left right := by
  unfold After compareSequence
  rw [if_neg mixed]

include order in
theorem not_after_self (text : String) : ¬ After localeCompare text text := by
  by_cases numeric : isNumeric text = true
  · rw [after_numeric numeric numeric]
    exact Nat.lt_irrefl _
  · rw [after_locale fun both => numeric both.1, order.self]
    omega

include order in
theorem After.asymm {left right : String} (after : After localeCompare left right) :
    ¬ After localeCompare right left := by
  by_cases numeric : isNumeric left = true ∧ isNumeric right = true
  · rw [after_numeric numeric.1 numeric.2] at after
    rw [after_numeric numeric.2 numeric.1]
    omega
  · rw [after_locale numeric] at after
    rw [after_locale fun both => numeric ⟨both.2, both.1⟩]
    have below := order.swap left right after
    omega

def Comparable (first second third : String) : Prop :=
  (isNumeric first = true ∧ isNumeric second = true ∧ isNumeric third = true) ∨
    (¬ (isNumeric first = true ∧ isNumeric second = true) ∧
      ¬ (isNumeric second = true ∧ isNumeric third = true) ∧
      ¬ (isNumeric first = true ∧ isNumeric third = true))

include order in
theorem After.trans {first second third : String} (comparable : Comparable first second third)
    (after : After localeCompare first second) (after' : After localeCompare second third) :
    After localeCompare first third := by
  rcases comparable with ⟨one, two, three⟩ | ⟨firstPair, secondPair, outerPair⟩
  · rw [after_numeric one two] at after
    rw [after_numeric two three] at after'
    rw [after_numeric one three]
    omega
  · rw [after_locale firstPair] at after
    rw [after_locale secondPair] at after'
    rw [after_locale outerPair]
    exact order.trans first second third after after'

end Order

section New

variable {dateParse : String → Option Int} {localeCompare : String → String → Int}
  {baselines : List PhysicalObservationAuthority} {current : PhysicalObservationAuthority}

/-- The observation is after the first one of its key in the baseline, where there is one. -/
def Newer (dateParse : String → Option Int) (localeCompare : String → String → Int)
    (baselines : List PhysicalObservationAuthority) (current : PhysicalObservationAuthority) :
    Prop :=
  ∀ baseline, baselineOf baselines current = some baseline →
    (∀ sequence baselineSequence, current.sourceSequence = some sequence →
      baseline.sourceSequence = some baselineSequence →
        After localeCompare sequence baselineSequence) ∧
    (current.sourceSequence = none ∨ baseline.sourceSequence = none →
      current.cursor ≠ baseline.cursor ∧
        0 ≤ compareIsoTimestamps dateParse current.observedAt baseline.observedAt)

theorem isNewAuthority_iff :
    isNewAuthority dateParse localeCompare baselines (some current) = true ↔
      Newer dateParse localeCompare baselines current := by
  unfold isNewAuthority Newer
  cases found : baselineOf baselines current with
  | none => simp [found]
  | some baseline =>
    cases sequence : current.sourceSequence with
    | none => simp [found, sequence]
    | some text =>
      cases baselineSequence : baseline.sourceSequence with
      | none => simp [found, sequence, baselineSequence]
      | some baselineText => simp [found, sequence, baselineSequence, After]

theorem isNewAuthority_some {authority : Option PhysicalObservationAuthority}
    (isNew : isNewAuthority dateParse localeCompare baselines authority = true) :
    ∃ found, authority = some found ∧ Newer dateParse localeCompare baselines found := by
  cases authority with
  | none => cases isNew
  | some found => exact ⟨found, rfl, isNewAuthority_iff.mp isNew⟩

/-- The observation that stands first under its key in the baseline is not new. -/
theorem not_newer_of_stored (order : LocaleOrder localeCompare)
    {baseline : PhysicalObservationAuthority}
    (found : baselineOf baselines current = some baseline)
    (sameSequence : current.sourceSequence = baseline.sourceSequence)
    (sameCursor : current.cursor = baseline.cursor) :
    ¬ Newer dateParse localeCompare baselines current := by
  intro newer
  obtain ⟨bySequence, byCursor⟩ := newer baseline found
  cases sequence : current.sourceSequence with
  | none => exact (byCursor (.inl sequence)).1 sameCursor
  | some text =>
    rw [sequence] at sameSequence
    exact not_after_self order text (bySequence text text sequence sameSequence.symm)

end New

section Navigation

variable {dateParse : String → Option Int} {localeCompare : String → String → Int}

/-- The time of the authority is known, and is within the policy at the time of the question. -/
def Fresh (dateParse : String → Option Int) (authority : PhysicalObservationAuthority)
    (freshness : FreshnessPolicy) (now : Int) : Prop :=
  ∃ observedAt, dateParse authority.observedAt = some observedAt ∧
    -(freshness.maximumFutureSkewMs.getD 0) ≤ now - observedAt ∧
    now - observedAt ≤ freshness.chassis

theorem isFresh_some {authority : Option PhysicalObservationAuthority}
    {freshness : FreshnessPolicy} {now : Int}
    (isFresh : isFresh dateParse authority freshness now = true) :
    ∃ found, authority = some found ∧ Fresh dateParse found freshness now := by
  cases authority with
  | none => cases isFresh
  | some found =>
    refine ⟨found, rfl, ?_⟩
    unfold PhysicalEvidence.isFresh at isFresh
    cases observedAt : dateParse found.observedAt with
    | none => simp [observedAt] at isFresh
    | some instant =>
      simp only [Option.bind_some, observedAt, Bool.and_eq_true, decide_eq_true_eq] at isFresh
      exact ⟨instant, observedAt, isFresh⟩

def Located (snapshot : VehicleSnapshot) (authorities : List PhysicalObservationAuthority) : Prop :=
  (∀ authority, authorityForField authorities .positionGeodetic = some authority →
    snapshot.position.isSome = true) ∧
  ∀ authority, authorityForField authorities .positionLocal = some authority →
    ∃ navigation, snapshot.navigation = some navigation ∧ navigation.positionX.isSome = true ∧
      navigation.positionY.isSome = true

variable {snapshot : VehicleSnapshot} {authorities : List PhysicalObservationAuthority}

theorem geodeticObservation_authority (located : Located snapshot authorities) :
    (geodeticObservation snapshot authorities).map AuthoritativeVehiclePosition.authority =
      authorityForField authorities .positionGeodetic := by
  unfold geodeticObservation
  cases found : authorityForField authorities .positionGeodetic with
  | none => rfl
  | some authority =>
    obtain ⟨position, isPosition⟩ := Option.isSome_iff_exists.mp (located.1 authority found)
    simp [isPosition]

theorem localObservation_authority (located : Located snapshot authorities) :
    (localObservation snapshot authorities).map AuthoritativeVehiclePosition.authority =
      authorityForField authorities .positionLocal := by
  unfold localObservation
  cases found : authorityForField authorities .positionLocal with
  | none => rfl
  | some authority =>
    obtain ⟨navigation, isNavigation, hasX, hasY⟩ := located.2 authority found
    obtain ⟨x, isX⟩ := Option.isSome_iff_exists.mp hasX
    obtain ⟨y, isY⟩ := Option.isSome_iff_exists.mp hasY
    simp [isNavigation, isX, isY]

theorem position_authority (dateParse : String → Option Int)
    (located : Located snapshot authorities) :
    (authoritativeVehiclePosition dateParse snapshot authorities).map
        AuthoritativeVehiclePosition.authority =
      latestAuthority dateParse (authorityForField authorities .positionGeodetic)
        (authorityForField authorities .positionLocal) := by
  rw [← geodeticObservation_authority located, ← localObservation_authority located]
  unfold authoritativeVehiclePosition
  cases geodeticObservation snapshot authorities with
  | none =>
    cases localObservation snapshot authorities with
    | none => rfl
    | some inWorld => rfl
  | some geodetic =>
    cases localObservation snapshot authorities with
    | none => rfl
    | some inWorld =>
      change (if rightIsLater dateParse geodetic.authority inWorld.authority then some inWorld
        else some geodetic).map AuthoritativeVehiclePosition.authority =
          if rightIsLater dateParse geodetic.authority inWorld.authority then
            some inWorld.authority else some geodetic.authority
      split
      · rfl
      · rfl

structure Confirms (dateParse : String → Option Int) (localeCompare : String → String → Int)
    (input : NavigationEvidence) : Prop where
  correlated : ∃ missionId, input.missionId = some missionId ∧
    input.snapshot.missionId = some missionId
  mission : ∃ authority, authorityForField input.authorities .mission = some authority ∧
    Newer dateParse localeCompare input.baseline authority
  latestPosition : ∃ authority,
    latestAuthority dateParse (authorityForField input.authorities .positionGeodetic)
      (authorityForField input.authorities .positionLocal) = some authority ∧
    Newer dateParse localeCompare input.baseline authority
  position : ∃ position,
    authoritativeVehiclePosition dateParse input.snapshot input.authorities = some position ∧
    Fresh dateParse position.authority input.freshness input.now ∧
    (Located input.snapshot input.authorities →
      Newer dateParse localeCompare input.baseline position.authority)
  speed : ∃ authority, authorityForField input.authorities .speed = some authority ∧
    Newer dateParse localeCompare input.baseline authority ∧
    Fresh dateParse authority input.freshness input.now
  stationary : ∃ speed, input.snapshot.speedKmh = some speed ∧
    speed ≤ input.stationarySpeedThresholdKmh

theorem correlationOf_eq_strict {missionId observedMission : Option String}
    (strict : correlationOf missionId observedMission = .strictCorrelated) :
    ∃ id, missionId = some id ∧ observedMission = some id := by
  cases missionId with
  | none => cases strict
  | some expected =>
    cases observedMission with
    | none => cases strict
    | some observed =>
      by_cases same : expected = observed
      · exact ⟨expected, rfl, by rw [same]⟩
      · simp [correlationOf, same] at strict

theorem confirms_of_confirmed {input : NavigationEvidence}
    (confirmed :
      (navigationPhysicalConfirmation dateParse localeCompare input).confirmed = true) :
    Confirms dateParse localeCompare input := by
  simp only [navigationPhysicalConfirmation, Bool.and_eq_true, beq_iff_eq] at confirmed
  obtain ⟨⟨⟨⟨strict, isNew⟩, positionFresh, _⟩, speedFresh, hasSpeed⟩, stationary⟩ := confirmed
  simp only [requiredNavigationAuthoritiesAreNew, Bool.and_eq_true] at isNew
  obtain ⟨⟨missionNew, positionNew⟩, speedNew⟩ := isNew
  obtain ⟨latest, isLatest, latestNewer⟩ := isNewAuthority_some positionNew
  obtain ⟨speedAuthority, isSpeed, speedNewer⟩ := isNewAuthority_some speedNew
  obtain ⟨authority, isAuthority, fresh⟩ := isFresh_some positionFresh
  obtain ⟨position, isPosition, ofPosition⟩ := Option.map_eq_some_iff.mp isAuthority
  obtain ⟨found, isFound, speedIsFresh⟩ := isFresh_some speedFresh
  obtain ⟨speed, atSpeed⟩ := Option.isSome_iff_exists.mp hasSpeed
  have sameAuthority : found = speedAuthority := by
    rw [isSpeed] at isFound
    exact (Option.some.inj isFound).symm
  refine {
    correlated := correlationOf_eq_strict strict
    mission := isNewAuthority_some missionNew
    latestPosition := ⟨latest, isLatest, latestNewer⟩
    position := ⟨position, isPosition, by rw [ofPosition]; exact fresh, ?_⟩
    speed := ⟨speedAuthority, isSpeed, speedNewer, by rw [← sameAuthority]; exact speedIsFresh⟩
    stationary := ⟨speed, atSpeed, ?_⟩ }
  · intro located
    have same := position_authority dateParse located
    rw [isPosition, isLatest] at same
    have isSame : position.authority = latest := Option.some.inj same
    rw [isSame]
    exact latestNewer
  · simpa [stationaryFromSpeed, speedFresh, atSpeed] using stationary

/-- An observation the baseline has is not new; sequences are ordered strictly, numbers among
themselves and texts by the locale; and navigation is confirmed by new observations of mission,
position and speed, of which position and speed are fresh, of a vehicle that stands still. -/
theorem physical_evidence_sound (order : LocaleOrder localeCompare)
    (dateParse : String → Option Int) :
    (∀ baselines current baseline, baselineOf baselines current = some baseline →
      current.sourceSequence = baseline.sourceSequence → current.cursor = baseline.cursor →
        isNewAuthority dateParse localeCompare baselines (some current) = false) ∧
    ((∀ sequence, ¬ After localeCompare sequence sequence) ∧
      (∀ left right, After localeCompare left right → ¬ After localeCompare right left) ∧
      ∀ first second third, Comparable first second third → After localeCompare first second →
        After localeCompare second third → After localeCompare first third) ∧
    ∀ input, (navigationPhysicalConfirmation dateParse localeCompare input).confirmed = true →
      Confirms dateParse localeCompare input := by
  constructor
  · intro baselines current baseline found sameSequence sameCursor
    rw [Bool.eq_false_iff]
    intro isNew
    exact not_newer_of_stored order found sameSequence sameCursor (isNewAuthority_iff.mp isNew)
  constructor
  · constructor
    · exact not_after_self order
    constructor
    · intro left right after
      exact after.asymm order
    · intro first second third comparable after after'
      exact After.trans order comparable after after'
  · intro input confirmed
    exact confirms_of_confirmed confirmed

end Navigation

namespace EvidenceSample

/-- Digits are before letters, and each before the next, in every locale. -/
def collation (left right : String) : Int :=
  if left = right then 0 else if left.toList < right.toList then -1 else 1

theorem collation_order : LocaleOrder collation := by
  have after {left right : String} (positive : 0 < collation left right) :
      right.toList < left.toList := by
    unfold collation at positive
    by_cases same : left = right
    · simp [same] at positive
    · by_cases below : left.toList < right.toList
      · simp [same, below] at positive
      · rcases lt_trichotomy left.toList right.toList with lower | equal | upper
        · exact absurd lower below
        · exact absurd (String.toList_inj.mp equal) same
        · exact upper
  have of_after {left right : String} (below : right.toList < left.toList) :
      0 < collation left right ∧ collation right left < 0 := by
    have different : left ≠ right := by
      intro same
      rw [same] at below
      exact lt_irrefl _ below
    constructor
    · simp [collation, different, lt_asymm below]
    · simp [collation, different.symm, below]
  exact {
    self := by simp [collation]
    swap := fun left right positive => (of_after (after positive)).2
    trans := fun first second third positive positive' =>
      (of_after (lt_trans (after positive') (after positive))).1 }

def observation (field : Option VehicleObservationField) (topic observedAt : String) :
    PhysicalObservationAuthority := {
  field := field
  topic := topic
  observedAt := observedAt
  sourceSequence := some "7"
  ingestSequence := none
  cursor := "cursor" }

def oldMission : NavigationEvidence := {
  snapshot := {
    missionId := some "mission-1"
    position := some { latitude := 30, longitude := 114, altitude := none }
    navigation := none
    speedKmh := some 0 }
  baseline := []
  missionId := some "mission-1"
  currentAuthority := none
  currentAuthorities := some [
    observation (some .mission) "/ugv/mission_state" "2026-08-16T00:00:00Z",
    observation (some .positionGeodetic) "/ugv/gnss" "2026-08-17T00:00:00Z",
    observation (some .speed) "/ugv/speed" "2026-08-17T00:00:00Z"]
  freshness := { chassis := 5000, maximumFutureSkewMs := none }
  stationarySpeedThresholdKmh := 1 / 10
  now := 1786924800000 }

theorem physical_evidence_sound_sample :
    isNewAuthority Timestamp.read collation
      [observation none "/ugv/speed" "2026-08-17T00:00:00Z"]
      (some (observation none "/ugv/speed" "2026-08-17T00:00:00Z")) = false :=
  (physical_evidence_sound collation_order Timestamp.read).1 _ _
    (observation none "/ugv/speed" "2026-08-17T00:00:00Z") (by decide) rfl rfl

/-- An observation that the baseline has without its field is new with it, numbers and texts go in
a circle, and navigation is confirmed beside a mission state that is not fresh. -/
theorem physical_evidence_exceptions :
    isNewAuthority Timestamp.read collation
        [observation none "/ugv/speed" "2026-08-17T00:00:00Z"]
        (some (observation (some .speed) "/ugv/speed" "2026-08-17T00:00:00Z")) = true ∧
      (After collation "10" "9" ∧ After collation "9" "2a" ∧ After collation "2a" "10") ∧
      (navigationPhysicalConfirmation Timestamp.read collation oldMission).confirmed = true ∧
      isFresh Timestamp.read (authorityForField oldMission.authorities .mission)
        oldMission.freshness oldMission.now = false := by
  refine ⟨by decide, ⟨?_, ?_, ?_⟩, ?_, ?_⟩
  · unfold After
    decide +kernel
  · unfold After
    decide +kernel
  · unfold After
    decide +kernel
  · decide +kernel
  · decide +kernel

end EvidenceSample

end PhysicalEvidence

end SdarRuntime
