import SdarRuntime.VehicleIngress.RefereeData

/-!
The authorities of observed fields. What a patch observes is named and then merged, field by field,
so that the snapshot holds the merge of the values that were named. The exceptions are patches that
change a field without observing it, and patches that are named and then refused.
-/

namespace SdarRuntime

namespace VehicleIngress

open Navigation

/-! ### Values of the snapshot -/

def LocalPosition.merge (current patch : LocalPosition) : LocalPosition := {
  x := patch.x <|> current.x
  y := patch.y <|> current.y
  z := patch.z <|> current.z
}

def fieldValue (snapshot : VehicleSnapshot) : VehicleObservationField → Option FieldValue
  | .positionGeodetic => snapshot.chassis.position.map .position
  | .positionLocal =>
    some (.localPosition (snapshot.chassis.navigation.getD empty).localPosition)
  | .speed => snapshot.chassis.speedKmh.map .number
  | .heading => snapshot.chassis.compassHeadingDeg.map .number
  | .mission => some (.mission snapshot.chassis.mission)
  | .recon => some (.recon snapshot.payload.reconnaissance)
  | .targets => some (.targets snapshot.payload.targets)
  | .gimbal => snapshot.payload.gimbal.map .gimbal

/-- Three fields are merged with the value before; the others are replaced. -/
def mergeField (current : Option FieldValue) (value : FieldValue) : FieldValue :=
  match current, value with
  | some (.localPosition current), .localPosition value => .localPosition (current.merge value)
  | some (.recon current), .recon value => .recon (mergeReconnaissance current value)
  | some (.gimbal current), .gimbal value => .gimbal (Json.spread current value)
  | _, value => value

def mergedValue (start : Option FieldValue) (values : List FieldValue) : Option FieldValue :=
  values.foldl (fun current value => some (mergeField current value)) start

theorem mergedValue_concat (start : Option FieldValue) (values : List FieldValue)
    (value : FieldValue) :
    mergedValue start (values ++ [value]) = some (mergeField (mergedValue start values) value) := by
  unfold mergedValue
  rw [List.foldl_append]
  rfl

/-- A patch that changes no field beside what it observes, and that is not refused. -/
structure Whole (snapshot : VehicleSnapshot) (domains : List FreshnessDomain)
    (patch : SnapshotPatch) : Prop where
  targets : ∀ targets, (patch.payload.bind fun payload => payload.targets) = some targets →
    .target ∈ domains ∨ targets = snapshot.payload.targets
  localPosition : ∀ navigation,
    (patch.chassis.bind fun chassis => chassis.navigation) = some navigation →
      navigation.positionX = none → navigation.positionY = none →
        navigation.positionZ = none ∨
          navigation.positionZ = (snapshot.chassis.navigation.getD empty).positionZ
  clean : patch.Clean

variable {platform : Platform} {current : VehicleSnapshot} {patch : SnapshotPatch}
variable {observedAt : String} {domains : List FreshnessDomain}

private theorem chassis_value {chassis : ChassisPatch} (known : patch.chassis = some chassis) :
    (patched platform current patch observedAt domains).chassis =
      patchChassis current.chassis chassis := by
  unfold patched
  rw [known]
  rfl

private theorem payload_value {payload : PayloadPatch} (known : patch.payload = some payload) :
    (patched platform current patch observedAt domains).payload =
      patchPayload current.payload payload := by
  unfold patched
  rw [known]
  rfl

private theorem chassis_kept (absent : patch.chassis = none) :
    (patched platform current patch observedAt domains).chassis = current.chassis := by
  unfold patched
  rw [absent]
  rfl

private theorem payload_kept (absent : patch.payload = none) :
    (patched platform current patch observedAt domains).payload = current.payload := by
  unfold patched
  rw [absent]
  rfl

variable {snapshot : VehicleSnapshot}

/-- The local position of a merged navigation, where the patch observes it and where it does
not. -/
private theorem local_value {navigation : Navigation}
    (whole : navigation.positionX = none → navigation.positionY = none →
      navigation.positionZ = none ∨
        navigation.positionZ = (snapshot.chassis.navigation.getD empty).positionZ) :
    ((snapshot.chassis.navigation.getD empty).merge navigation).localPosition =
      if navigation.positionX.isSome ∨ navigation.positionY.isSome then
        (snapshot.chassis.navigation.getD empty).localPosition.merge
          navigation.localPosition
      else (snapshot.chassis.navigation.getD empty).localPosition := by
  split
  · rfl
  · rename_i unobserved
    simp only [not_or, Bool.not_eq_true, Option.isSome_eq_false_iff,
      Option.isNone_iff_eq_none] at unobserved
    obtain ⟨noX, noY⟩ := unobserved
    unfold merge localPosition
    rcases whole noX noY with noZ | sameZ
    · simp [noX, noY, noZ]
    · rw [noX, noY, sameZ]
      cases (snapshot.chassis.navigation.getD empty).positionZ with
      | none => rfl
      | some z => rfl

/-- A whole patch merges what it observes of a field, and leaves the field otherwise. -/
theorem patched_value (platform : Platform) (observedAt : String)
    (whole : Whole current domains patch) (field : VehicleObservationField) :
    fieldValue (patched platform current patch observedAt domains) field =
      match observedValue patch domains field with
      | none => fieldValue current field
      | some value => some (mergeField (fieldValue current field) value) := by
  cases field with
  | positionGeodetic =>
    unfold fieldValue observedValue
    cases known : patch.chassis with
    | none => rw [chassis_kept known]; rfl
    | some chassis =>
      rw [chassis_value known]
      unfold patchChassis
      cases value : chassis.position with
      | none => simp [value]
      | some position => simp [value, mergeField]
  | positionLocal =>
    unfold fieldValue observedValue
    cases known : patch.chassis with
    | none => rw [chassis_kept known]; rfl
    | some chassis =>
      rw [chassis_value known]
      unfold patchChassis
      cases value : chassis.navigation with
      | none => simp [value, mergeNavigation]
      | some navigation =>
        have wholeNavigation := whole.localPosition navigation (by rw [known]; exact value)
        simp only [mergeNavigation, Option.getD_some, Option.bind_some, value]
        rw [local_value wholeNavigation]
        split
        · rfl
        · rfl
  | speed =>
    unfold fieldValue observedValue
    cases known : patch.chassis with
    | none => rw [chassis_kept known]; rfl
    | some chassis =>
      rw [chassis_value known]
      unfold patchChassis
      cases value : chassis.speedKmh with
      | none => simp [value]
      | some speed => simp [value, mergeField]
  | heading =>
    unfold fieldValue observedValue
    cases known : patch.chassis with
    | none => rw [chassis_kept known]; rfl
    | some chassis =>
      rw [chassis_value known]
      unfold patchChassis
      cases value : chassis.compassHeadingDeg with
      | none => simp [value]
      | some heading => simp [value, mergeField]
  | mission =>
    unfold fieldValue observedValue
    cases known : patch.chassis with
    | none => rw [chassis_kept known]; rfl
    | some chassis =>
      rw [chassis_value known]
      unfold patchChassis
      cases value : chassis.mission with
      | none => simp [value]
      | some mission => simp [value, mergeField]
  | recon =>
    unfold fieldValue observedValue
    cases known : patch.payload with
    | none => rw [payload_kept known]; rfl
    | some payload =>
      rw [payload_value known]
      unfold patchPayload
      cases value : payload.reconnaissance with
      | none => simp [value]
      | some reconnaissance => simp [value, mergeField]
  | targets =>
    unfold fieldValue observedValue
    cases known : patch.payload with
    | none =>
      rw [payload_kept known]
      simp
    | some payload =>
      rw [payload_value known]
      unfold patchPayload
      cases value : payload.targets with
      | none => simp [value]
      | some targets =>
        by_cases observed : FreshnessDomain.target ∈ domains
        · simp [value, observed, mergeField]
        · have kept := whole.targets targets (by rw [known]; exact value)
          rcases kept with present | same
          · exact absurd present observed
          · simp [observed, same]
  | gimbal =>
    unfold fieldValue observedValue
    cases known : patch.payload with
    | none => rw [payload_kept known]; rfl
    | some payload =>
      rw [payload_value known]
      unfold patchPayload
      cases value : payload.gimbal with
      | none => simp [value, mergeFields]
      | some gimbal =>
        cases old : current.payload.gimbal with
        | none => simp [value, mergeFields, mergeField]
        | some members => simp [value, mergeFields, mergeField]

/-! ### Removing fields -/

theorem observedValue_removed (patch : SnapshotPatch) (domains : List FreshnessDomain)
    (field : VehicleObservationField) :
    observedValue (removeObservationField patch field) domains field = none := by
  obtain ⟨chassis, payload, health, connectivity⟩ := patch
  cases field with
  | positionLocal =>
    cases chassis with
    | none => rfl
    | some chassis =>
      cases navigation : chassis.navigation with
      | none => simp [removeObservationField, observedValue, navigation]
      | some navigation => simp [removeObservationField, observedValue, navigation]
  | positionGeodetic | speed | heading | mission =>
    cases chassis with
    | none => rfl
    | some chassis => rfl
  | targets =>
    cases payload with
    | none => simp [removeObservationField, observedValue]
    | some payload => simp [removeObservationField, observedValue]
  | recon | gimbal =>
    cases payload with
    | none => rfl
    | some payload => rfl

theorem observedValue_others (patch : SnapshotPatch) (domains : List FreshnessDomain)
    {field other : VehicleObservationField} (different : other ≠ field) :
    observedValue (removeObservationField patch field) domains other =
      observedValue patch domains other := by
  obtain ⟨chassis, payload, health, connectivity⟩ := patch
  cases chassis with
  | none =>
    cases payload with
    | none => cases field <;> cases other <;> rfl
    | some payload => cases field <;> cases other <;> first | rfl | exact absurd rfl different
  | some chassis =>
    obtain ⟨position, attitude, heading, speed, energy, temperature, mission, navigation⟩ :=
      chassis
    cases navigation with
    | none =>
      cases payload with
      | none => cases field <;> cases other <;> first | rfl | exact absurd rfl different
      | some payload =>
        cases field <;> cases other <;> first | rfl | exact absurd rfl different
    | some navigation =>
      cases payload with
      | none => cases field <;> cases other <;> first | rfl | exact absurd rfl different
      | some payload =>
        cases field <;> cases other <;> first | rfl | exact absurd rfl different

theorem Whole.remove (whole : Whole snapshot domains patch) (field : VehicleObservationField) :
    Whole snapshot domains (removeObservationField patch field) := by
  have clean := removeObservationField_clean whole.clean field
  obtain ⟨targets, localPosition, _⟩ := whole
  obtain ⟨chassis, payload, health, connectivity⟩ := patch
  cases field with
  | positionGeodetic | heading | mission =>
    refine ⟨targets, ?_, clean⟩
    cases chassis with
    | none => exact localPosition
    | some chassis => exact localPosition
  | positionLocal =>
    refine ⟨targets, ?_, clean⟩
    intro navigation known _ _
    cases chassis with
    | none => cases known
    | some chassis =>
      obtain ⟨old, _, same⟩ := Option.map_eq_some_iff.mp known
      rw [← same]
      exact Or.inl rfl
  | speed =>
    refine ⟨targets, ?_, clean⟩
    intro navigation known
    cases chassis with
    | none => cases known
    | some chassis =>
      obtain ⟨old, isOld, same⟩ := Option.map_eq_some_iff.mp known
      rw [← same]
      exact localPosition old isOld
  | recon | gimbal =>
    refine ⟨?_, localPosition, clean⟩
    cases payload with
    | none => exact targets
    | some payload => exact targets
  | targets =>
    refine ⟨?_, localPosition, clean⟩
    intro list known
    cases payload with
    | none => cases known
    | some payload => cases known

namespace VehicleMqttIngress

/-! ### Accepting and naming -/

theorem observed_mem {field : VehicleObservationField} {value : FieldValue}
    (observed : observedValue patch domains field = some value) :
    (field, value) ∈ observationFieldValues patch domains := by
  unfold observationFieldValues
  apply List.mem_filterMap.mpr
  refine ⟨field, ?_, by rw [observed]; rfl⟩
  cases field <;> simp [vehicleObservationFields]

private theorem whole_dropped (drops : VehicleObservationField → Bool)
    (entries : List (VehicleObservationField × FieldValue)) (whole : Whole snapshot domains patch) :
    Whole snapshot domains (entries.foldl (fun patch entry =>
      if drops entry.1 then removeObservationField patch entry.1 else patch) patch) := by
  induction entries generalizing patch with
  | nil => exact whole
  | cons entry rest ih =>
    rw [List.foldl_cons]
    apply ih
    split
    · exact whole.remove entry.1
    · exact whole

private theorem observed_dropped (domains : List FreshnessDomain)
    (drops : VehicleObservationField → Bool) (field : VehicleObservationField)
    (entries : List (VehicleObservationField × FieldValue)) (patch : SnapshotPatch)
    (listed : observedValue patch domains field = none ∨ drops field = false ∨
      ∃ value, (field, value) ∈ entries) :
    observedValue (entries.foldl (fun patch entry =>
      if drops entry.1 then removeObservationField patch entry.1 else patch) patch) domains field =
        if drops field then none else observedValue patch domains field := by
  induction entries generalizing patch with
  | nil =>
    rcases listed with absent | kept | ⟨value, impossible⟩
    · rw [List.foldl_nil, absent, ite_self]
    · rw [List.foldl_nil, if_neg (by simp [kept])]
    · cases impossible
  | cons entry rest ih =>
    rw [List.foldl_cons]
    by_cases isEntry : entry.1 = field
    · by_cases dropped : drops field = true
      · have removed : observedValue (removeObservationField patch field) domains field = none :=
          observedValue_removed patch domains field
        rw [isEntry, if_pos dropped, ih _ (Or.inl removed), removed, ite_self, if_pos dropped]
      · rw [isEntry, if_neg dropped]
        exact ih patch (Or.inr (Or.inl (by simpa using dropped)))
    · have listedLater : ∀ other : SnapshotPatch,
          observedValue other domains field = observedValue patch domains field →
            observedValue other domains field = none ∨ drops field = false ∨
              ∃ value, (field, value) ∈ rest := by
        intro other same
        rcases listed with absent | kept | ⟨value, present⟩
        · exact Or.inl (by rw [same, absent])
        · exact Or.inr (Or.inl kept)
        · rcases List.mem_cons.mp present with first | later
          · exact absurd (congrArg Prod.fst first.symm) isEntry
          · exact Or.inr (Or.inr ⟨value, later⟩)
      split
      · have same := observedValue_others patch domains (Ne.symm isEntry)
        rw [ih _ (listedLater _ same), same]
      · exact ih patch (listedLater patch rfl)

theorem observedValue_accepted (platform : Platform) (profile : VehicleMqttProfile)
    (ingress : VehicleMqttIngress) (topic : String) (observation : NormalizedMqttObservation)
    (observedAt : String) (field : VehicleObservationField) :
    observedValue (acceptedPatch platform profile ingress topic observation observedAt)
        observation.domains field =
      if outdated platform profile ingress topic observedAt field then none
      else observedValue observation.patch observation.domains field := by
  apply observed_dropped
  cases observed : observedValue observation.patch observation.domains field with
  | none => exact Or.inl rfl
  | some value => exact Or.inr (Or.inr ⟨value, observed_mem observed⟩)

theorem nameFields_others (platform : Platform) (topic : String)
    (observation : NormalizedMqttObservation) (observedAt : String)
    (entries : List (VehicleObservationField × FieldValue)) (ingress : VehicleMqttIngress) :
    (entries.foldl (nameField platform topic observation observedAt) ingress).snapshot =
        ingress.snapshot ∧
      (entries.foldl (nameField platform topic observation observedAt) ingress).sequence =
        ingress.sequence := by
  induction entries generalizing ingress with
  | nil => exact ⟨rfl, rfl⟩
  | cons entry rest ih =>
    rw [List.foldl_cons]
    exact ih (nameField platform topic observation observedAt ingress entry)

structure NamesField (platform : Platform) (topic : String)
    (observation : NormalizedMqttObservation) (observedAt : String) (ingress : VehicleMqttIngress)
    (value : Option FieldValue) (field : VehicleObservationField) (later : VehicleMqttIngress) :
    Prop where
  authority : later.fieldAuthorities.get? field =
    match value with
    | none => ingress.fieldAuthorities.get? field
    | some value => some (authorityOf platform ingress topic observation observedAt value)
  named : later.named field = ingress.named field ++ value.toList

private theorem namesField_of_fields (platform : Platform) (topic : String)
    (observation : NormalizedMqttObservation) (observedAt : String)
    (value : VehicleObservationField → Option FieldValue) (field : VehicleObservationField)
    (fields : List VehicleObservationField) (distinct : fields.Nodup)
    (ingress : VehicleMqttIngress) :
    NamesField platform topic observation observedAt ingress
      (if field ∈ fields then value field else none) field
        ((fields.filterMap fun field => (value field).map fun value => (field, value)).foldl
          (nameField platform topic observation observedAt) ingress) := by
  induction fields generalizing ingress with
  | nil => exact ⟨rfl, by simp⟩
  | cons first rest ih =>
    obtain ⟨notLater, restDistinct⟩ := List.nodup_cons.mp distinct
    cases observed : value first with
    | none =>
      rw [List.filterMap_cons_none (by rw [observed]; rfl)]
      have later := ih restDistinct ingress
      by_cases isFirst : field = first
      · subst first
        rw [if_neg notLater] at later
        rw [if_pos List.mem_cons_self, observed]
        exact later
      · have sameMember : (field ∈ first :: rest) = (field ∈ rest) := by simp [isFirst]
        simp only [sameMember]
        exact later
    | some found =>
      rw [List.filterMap_cons_some (by rw [observed]; rfl), List.foldl_cons]
      have later := ih restDistinct
        (nameField platform topic observation observedAt ingress (first, found))
      by_cases isFirst : field = first
      · subst first
        rw [if_neg notLater] at later
        rw [if_pos List.mem_cons_self, observed]
        constructor
        · rw [later.authority]
          exact OrderedMap.get?_set_self _ _ _
        · rw [later.named]
          simp [nameField]
      · have sameMember : (field ∈ first :: rest) = (field ∈ rest) := by simp [isFirst]
        simp only [sameMember]
        constructor
        · rw [later.authority]
          split
          · exact OrderedMap.get?_set_ne _ _ isFirst
          · rfl
        · rw [later.named]
          simp [nameField, isFirst]

theorem namesField (platform : Platform) (topic : String)
    (observation : NormalizedMqttObservation) (observedAt : String) (patch : SnapshotPatch)
    (ingress : VehicleMqttIngress) (field : VehicleObservationField) :
    NamesField platform topic observation observedAt ingress
      (observedValue patch observation.domains field) field
        ((observationFieldValues patch observation.domains).foldl
          (nameField platform topic observation observedAt) ingress) := by
  have all : field ∈ vehicleObservationFields := by
    cases field <;> simp [vehicleObservationFields]
  have names := namesField_of_fields platform topic observation observedAt
    (observedValue patch observation.domains) field vehicleObservationFields (by decide) ingress
  rw [if_pos all] at names
  exact names

/-! ### Filters -/

/-- The snapshot, the authorities, the named values and the reconnaissance list are as before. -/
structure SameFields (before later : VehicleMqttIngress) : Prop where
  snapshot : later.snapshot = before.snapshot
  fieldAuthorities : later.fieldAuthorities = before.fieldAuthorities
  named : later.named = before.named

/-- What a message may read of the reconnaissance list is as before. -/
structure SameRecon (before later : VehicleMqttIngress) : Prop where
  fields : SameFields before later
  reconTargets : later.reconTargets = before.reconTargets
  reconTargetsObserved : later.reconTargetsObserved = before.reconTargetsObserved

theorem SameRecon.trans {first second third : VehicleMqttIngress} (one : SameRecon first second)
    (two : SameRecon second third) : SameRecon first third := {
  fields := {
    snapshot := two.fields.snapshot.trans one.fields.snapshot
    fieldAuthorities := two.fields.fieldAuthorities.trans one.fields.fieldAuthorities
    named := two.fields.named.trans one.fields.named }
  reconTargets := two.reconTargets.trans one.reconTargets
  reconTargetsObserved := two.reconTargetsObserved.trans one.reconTargetsObserved }

theorem SameRecon.refl (ingress : VehicleMqttIngress) : SameRecon ingress ingress :=
  ⟨⟨rfl, rfl, rfl⟩, rfl, rfl⟩

theorem compositeStatusDecision_same (platform : Platform) (profile : VehicleMqttProfile)
    (ingress : VehicleMqttIngress) (topic receivedAt : String) :
    SameRecon ingress
      (compositeStatusDecision platform profile ingress topic receivedAt).2 := by
  unfold compositeStatusDecision
  split
  · exact SameRecon.refl ingress
  · simp only
    split
    · exact ⟨⟨rfl, rfl, rfl⟩, rfl, rfl⟩
    · split
      · exact SameRecon.refl ingress
      · split
        · exact ⟨⟨rfl, rfl, rfl⟩, rfl, rfl⟩
        · exact SameRecon.refl ingress

theorem recordFieldGateHealth_same (profile : VehicleMqttProfile) (ingress : VehicleMqttIngress)
    (topic : String) (observation : NormalizedMqttObservation) (receivedAt : String) :
    SameRecon ingress (recordFieldGateHealth profile ingress topic observation receivedAt) := by
  unfold recordFieldGateHealth
  simp only
  induction profile.fieldAuthorityGates generalizing ingress with
  | nil => exact SameRecon.refl ingress
  | cons gate rest ih =>
    rw [List.foldl_cons]
    refine SameRecon.trans ?_ (ih _)
    split
    · split
      · exact SameRecon.refl ingress
      · exact ⟨⟨rfl, rfl, rfl⟩, rfl, rfl⟩
    · exact SameRecon.refl ingress

theorem filtered_same (platform : Platform) (profile : VehicleMqttProfile)
    (ingress : VehicleMqttIngress) (topic : String) (observation : NormalizedMqttObservation)
    (receivedAt : String) :
    SameFields ingress (filtered platform profile ingress topic observation receivedAt).2 := by
  have targets : SameFields ingress
      (applyTargetAuthority platform profile ingress topic observation).2 := by
    unfold applyTargetAuthority
    split
    · simp only
      split
      · split
        · exact ⟨rfl, rfl, rfl⟩
        · exact ⟨rfl, rfl, rfl⟩
      · split
        · exact ⟨rfl, rfl, rfl⟩
        · exact ⟨rfl, rfl, rfl⟩
    · exact ⟨rfl, rfl, rfl⟩
  have tasks (before : VehicleMqttIngress) (observation : NormalizedMqttObservation) :
      SameFields before (applyTaskStateAuthority profile before topic observation).2 := by
    unfold applyTaskStateAuthority
    split
    · split
      · exact ⟨rfl, rfl, rfl⟩
      · split
        · exact ⟨rfl, rfl, rfl⟩
        · exact ⟨rfl, rfl, rfl⟩
    · exact ⟨rfl, rfl, rfl⟩
  have second := tasks (applyTargetAuthority platform profile ingress topic observation).2
    (applyTargetAuthority platform profile ingress topic observation).1
  unfold filtered
  exact {
    snapshot := second.snapshot.trans targets.snapshot
    fieldAuthorities := second.fieldAuthorities.trans targets.fieldAuthorities
    named := second.named.trans targets.named }

/-! ### Messages that are spared -/

/-- Detected objects after the reconnaissance list was observed: that list is the one applied. -/
def isSecondaryView (profile : VehicleMqttProfile) (ingress : VehicleMqttIngress)
    (topic : String) : Bool :=
  match profile.targetAuthority with
  | none => false
  | some authority =>
    decide (topic = authority.detectedObjectsTopic) && ingress.reconTargetsObserved

/-- The observation changes no field without observing it, and has no referee data. -/
structure SparesObservation (profile : VehicleMqttProfile) (ingress : VehicleMqttIngress)
    (topic : String) (observation : NormalizedMqttObservation) : Prop where
  secondary : isSecondaryView profile ingress topic = true →
    (observation.patch.payload.bind fun payload => payload.targets).isSome →
      ingress.reconTargets = ingress.snapshot.payload.targets
  targets : isSecondaryView profile ingress topic = false →
    (observation.patch.payload.bind fun payload => payload.targets).isSome →
      .target ∈ observation.domains
  localPosition : ∀ navigation,
    (observation.patch.chassis.bind fun chassis => chassis.navigation) = some navigation →
      navigation.positionX = none → navigation.positionY = none →
        navigation.positionZ = none ∨ navigation.positionZ =
          (ingress.snapshot.chassis.navigation.getD empty).positionZ
  snapshotClean : hasRefereeData ingress.snapshot = false
  patchClean : observation.patch.Clean

def applies (platform : Platform) (profile : VehicleMqttProfile) (ingress : VehicleMqttIngress)
    (message : Message) (observation : NormalizedMqttObservation) : Bool :=
  let decision :=
    (compositeStatusDecision platform profile ingress message.topic message.receivedAt).1
  decision.applyToSnapshot &&
    (decision.promotesAuthority || !isIgnored platform ingress message.topic observation
      (latestOf platform observation message.receivedAt))

def Spares (platform : Platform) (profile : VehicleMqttProfile) (ingress : VehicleMqttIngress)
    (message : Message) : Prop :=
  ∀ observation, inspectMessage profile message.topic message.payload = .ok observation →
    applies platform profile ingress message observation = true →
      SparesObservation profile ingress message.topic observation

variable {profile : VehicleMqttProfile} {before later : VehicleMqttIngress} {topic : String}
variable {observation : NormalizedMqttObservation}

theorem SparesObservation.of_same (spares : SparesObservation profile before topic observation)
    (same : SameRecon before later) : SparesObservation profile later topic observation := by
  have sameView : isSecondaryView profile later topic = isSecondaryView profile before topic := by
    unfold isSecondaryView
    rw [same.reconTargetsObserved]
  constructor
  · rw [sameView, same.reconTargets, same.fields.snapshot]
    exact spares.secondary
  · rw [sameView]
    exact spares.targets
  · rw [same.fields.snapshot]
    exact spares.localPosition
  · rw [same.fields.snapshot]
    exact spares.snapshotClean
  · exact spares.patchClean

private theorem targets_clean (clean : hasRefereeData snapshot = false) :
    targetsPresent snapshot.payload.targets = false := by
  simp only [hasRefereeData, Payload.hasRefereeData, Bool.or_eq_false_iff] at clean
  exact clean.1.1.1.2.1.2

private theorem patch_targets_clean (clean : patch.Clean) {targets : List VehicleTarget}
    (known : (patch.payload.bind fun payload => payload.targets) = some targets) :
    targetsPresent targets = false := by
  obtain ⟨payload, isPayload, isTargets⟩ := Option.bind_eq_some_iff.mp known
  have payloadClean := (clean.payload payload isPayload).targets
  rw [isTargets] at payloadClean
  exact payloadClean

private theorem withTargets_targets {targets other : List VehicleTarget}
    (known : ((withTargets observation targets).patch.payload.bind fun payload => payload.targets) =
      some other) : other = targets := by
  obtain ⟨payload, isPayload, isTargets⟩ := Option.bind_eq_some_iff.mp known
  obtain ⟨old, _, same⟩ := Option.map_eq_some_iff.mp isPayload
  rw [← same] at isTargets
  exact (Option.some.inj isTargets).symm

variable {ingress : VehicleMqttIngress}

theorem SparesObservation.targets_whole
    (spares : SparesObservation profile ingress topic observation) (platform : Platform) :
    Whole ingress.snapshot
      (applyTargetAuthority platform profile ingress topic observation).1.domains
      (applyTargetAuthority platform profile ingress topic observation).1.patch := by
  have unchanged (view : isSecondaryView profile ingress topic = false) :
      Whole ingress.snapshot observation.domains observation.patch := by
    refine ⟨?_, spares.localPosition, spares.patchClean⟩
    intro targets known
    exact Or.inl (spares.targets view (by rw [known]; rfl))
  have absent (none' : (observation.patch.payload.bind fun payload => payload.targets) = none) :
      Whole ingress.snapshot observation.domains observation.patch := by
    refine ⟨?_, spares.localPosition, spares.patchClean⟩
    intro targets known
    rw [none'] at known
    cases known
  unfold applyTargetAuthority
  cases authority : profile.targetAuthority with
  | none =>
    apply unchanged
    unfold isSecondaryView
    rw [authority]
  | some authorities =>
    cases known : observation.patch.payload.bind fun payload => payload.targets with
    | none => exact absent known
    | some targets =>
      have present : (observation.patch.payload.bind fun payload => payload.targets).isSome := by
        rw [known]
        rfl
      simp only
      by_cases detected : topic = authorities.detectedObjectsTopic
      · rw [if_pos detected]
        by_cases observed : ingress.reconTargetsObserved = true
        · have view : isSecondaryView profile ingress topic = true := by
            unfold isSecondaryView
            rw [authority]
            simp [detected, observed]
          have same := spares.secondary view present
          rw [if_pos observed]
          refine ⟨?_, spares.localPosition, ?_⟩
          · intro other isOther
            rw [withTargets_targets isOther]
            exact Or.inr same
          · apply withTargets_clean spares.patchClean
            rw [same]
            exact targets_clean spares.snapshotClean
        · have view : isSecondaryView profile ingress topic = false := by
            unfold isSecondaryView
            rw [authority]
            simp [observed]
          rw [if_neg observed]
          refine ⟨?_, spares.localPosition, ?_⟩
          · intro other _
            exact Or.inl (spares.targets view present)
          · exact withTargets_clean spares.patchClean
              (deduplicated_clean platform (patch_targets_clean spares.patchClean known))
      · have view : isSecondaryView profile ingress topic = false := by
          unfold isSecondaryView
          rw [authority]
          simp [detected]
        rw [if_neg detected]
        by_cases recon : topic = authorities.reconTargetsTopic
        · rw [if_pos recon]
          refine ⟨?_, spares.localPosition, ?_⟩
          · intro other _
            exact Or.inl (spares.targets view present)
          · exact withTargets_clean spares.patchClean
              (deduplicated_clean platform (patch_targets_clean spares.patchClean known))
        · rw [if_neg recon]
          exact unchanged view

private theorem whole_gates (platform : Platform) (ingress : VehicleMqttIngress)
    (snapshot : VehicleSnapshot) (domains : List FreshnessDomain) (topic receivedAt : String)
    (gates : List FieldAuthorityGate) (whole : Whole snapshot domains patch) :
    Whole snapshot domains (gates.foldl (fun patch gate =>
      if topic ≠ gate.observationTopic ∨ gateHealthy platform ingress gate receivedAt then patch
      else removeObservationField patch gate.field) patch) := by
  induction gates generalizing patch with
  | nil => exact whole
  | cons gate rest ih =>
    rw [List.foldl_cons]
    apply ih
    split
    · exact whole
    · exact whole.remove gate.field

theorem SparesObservation.filtered_whole
    (spares : SparesObservation profile ingress topic observation) (platform : Platform)
    (receivedAt : String) :
    Whole ingress.snapshot
      (filtered platform profile ingress topic observation receivedAt).1.domains
      (filtered platform profile ingress topic observation receivedAt).1.patch := by
  have targets := spares.targets_whole platform
  have tasks (before : VehicleMqttIngress) (passed : NormalizedMqttObservation)
      (whole : Whole ingress.snapshot passed.domains passed.patch) :
      Whole ingress.snapshot (applyTaskStateAuthority profile before topic passed).1.domains
        (applyTaskStateAuthority profile before topic passed).1.patch := by
    unfold applyTaskStateAuthority
    split
    · split
      · exact whole
      · split
        · split
          · exact whole.remove .mission
          · exact whole
        · exact whole
    · exact whole
  exact whole_gates platform _ ingress.snapshot _ topic receivedAt profile.fieldAuthorityGates
    (tasks _ _ targets)

/-! ### Steps -/

/-- For each field that has an authority, the authority names the newest of the values whose merge
the snapshot holds. -/
structure Named (platform : Platform) (start : VehicleSnapshot) (ingress : VehicleMqttIngress) :
    Prop where
  value : ∀ field, fieldValue ingress.snapshot field =
    mergedValue (fieldValue start field) (ingress.named field)
  authority : ∀ field authority, ingress.fieldAuthorities.get? field = some authority →
    ∃ earlier newest, ingress.named field = earlier ++ [newest] ∧
      authority.payloadHash = platform.payloadHash newest.toJson

variable {start : VehicleSnapshot}

theorem Named.of_same (holds : Named platform start before) (same : SameFields before later) :
    Named platform start later := by
  constructor
  · intro field
    rw [same.snapshot, same.named]
    exact holds.value field
  · rw [same.fieldAuthorities, same.named]
    exact holds.authority

/-- Taking in a message keeps the authorities but for the ones it sets, none of them back. -/
structure Onward (platform : Platform) (profile : VehicleMqttProfile) (topic : String)
    (before later : VehicleMqttIngress) : Prop where
  onward : ∀ field authority, before.fieldAuthorities.get? field = some authority →
    ∃ after, later.fieldAuthorities.get? field = some after ∧
      (after = authority ∨
        ¬ compareIsoTimestamps platform after.observedAt authority.observedAt < 0 ∨
          isCompositeAuthorityHandoff profile topic authority.topic = true)

theorem Onward.of_same (same : SameFields before later) :
    Onward platform profile topic before later := by
  constructor
  intro field authority found
  refine ⟨authority, ?_, Or.inl rfl⟩
  rw [same.fieldAuthorities]
  exact found

theorem applyFieldAuthorities_onward (platform : Platform) (profile : VehicleMqttProfile)
    (ingress : VehicleMqttIngress) (topic : String) (observation : NormalizedMqttObservation)
    (observedAt : String) :
    Onward platform profile topic ingress
      (applyFieldAuthorities platform profile ingress topic observation observedAt).2 := by
  constructor
  intro field authority found
  have names := namesField platform topic observation observedAt
    (acceptedPatch platform profile ingress topic observation observedAt) ingress field
  unfold applyFieldAuthorities
  rw [observedValue_accepted] at names
  by_cases stale : outdated platform profile ingress topic observedAt field = true
  · rw [if_pos stale] at names
    exact ⟨authority, by rw [names.authority]; exact found, Or.inl rfl⟩
  · rw [if_neg stale] at names
    cases observed : observedValue observation.patch observation.domains field with
    | none =>
      rw [observed] at names
      exact ⟨authority, by rw [names.authority]; exact found, Or.inl rfl⟩
    | some value =>
      rw [observed] at names
      refine ⟨_, names.authority, Or.inr ?_⟩
      unfold outdated at stale
      rw [found] at stale
      simp only [Bool.and_eq_true, Bool.not_eq_true', decide_eq_true_eq, not_and] at stale
      cases handoff : isCompositeAuthorityHandoff profile topic authority.topic with
      | true => exact Or.inr rfl
      | false => exact Or.inl (stale handoff)

theorem applyObservation_named {topic observedAt receivedAt : String}
    (holds : Named platform start ingress)
    (spares : SparesObservation profile ingress topic observation) :
    Named platform start
      (applyObservation platform profile ingress topic observation observedAt receivedAt).2 := by
  have whole := spares.filtered_whole platform receivedAt
  have same := filtered_same platform profile ingress topic observation receivedAt
  unfold applyObservation
  simp only
  generalize filtered platform profile ingress topic observation receivedAt = passed at whole same ⊢
  obtain ⟨kept, middle⟩ := passed
  simp only at whole same ⊢
  have holdsMiddle : Named platform start { middle with sequence := middle.sequence + 1 } :=
    (holds.of_same same).of_same ⟨rfl, rfl, rfl⟩
  have sameSnapshot : ({ middle with sequence := middle.sequence + 1 } :
      VehicleMqttIngress).snapshot = ingress.snapshot := same.snapshot
  generalize { middle with sequence := middle.sequence + 1 } = counted at holdsMiddle sameSnapshot ⊢
  rw [← sameSnapshot] at whole
  have wholeAccepted : Whole counted.snapshot kept.domains
      (acceptedPatch platform profile counted topic kept observedAt) :=
    whole_dropped _ _ whole
  have names := namesField platform topic kept observedAt
    (acceptedPatch platform profile counted topic kept observedAt) counted
  have others := nameFields_others platform topic kept observedAt
    (observationFieldValues (acceptedPatch platform profile counted topic kept observedAt)
      kept.domains) counted
  unfold applyFieldAuthorities
  simp only
  generalize acceptedPatch platform profile counted topic kept observedAt = patch
    at wholeAccepted names others ⊢
  generalize (observationFieldValues patch kept.domains).foldl
    (nameField platform topic kept observedAt) counted = later at names others ⊢
  have clean : hasRefereeData later.snapshot = false := by
    rw [others.1, sameSnapshot]
    exact spares.snapshotClean
  rw [applySnapshotPatch_clean platform observedAt kept.domains clean wholeAccepted.clean]
  constructor
  · intro field
    change fieldValue (patched platform later.snapshot patch observedAt kept.domains) field =
      mergedValue (fieldValue start field) (later.named field)
    rw [others.1, patched_value platform observedAt wholeAccepted field, (names field).named]
    cases observed : observedValue patch kept.domains field with
    | none =>
      simp only [Option.toList_none, List.append_nil]
      exact holdsMiddle.value field
    | some value =>
      simp only [Option.toList_some]
      rw [mergedValue_concat, holdsMiddle.value field]
  · intro field authority found
    change later.fieldAuthorities.get? field = some authority at found
    change ∃ earlier newest, later.named field = earlier ++ [newest] ∧ _
    rw [(names field).authority] at found
    rw [(names field).named]
    cases observed : observedValue patch kept.domains field with
    | none =>
      rw [observed] at found
      simp only [Option.toList_none, List.append_nil]
      exact holdsMiddle.authority field authority found
    | some value =>
      rw [observed] at found
      cases found
      exact ⟨counted.named field, value, rfl, rfl⟩

theorem applyObservation_onward (platform : Platform) (profile : VehicleMqttProfile)
    (ingress : VehicleMqttIngress) (topic : String) (observation : NormalizedMqttObservation)
    (observedAt receivedAt : String) :
    Onward platform profile topic ingress
      (applyObservation platform profile ingress topic observation observedAt receivedAt).2 := by
  have same := filtered_same platform profile ingress topic observation receivedAt
  unfold applyObservation
  simp only
  generalize filtered platform profile ingress topic observation receivedAt = passed at same ⊢
  have onward := applyFieldAuthorities_onward platform profile
    { passed.2 with sequence := passed.2.sequence + 1 } topic passed.1 observedAt
  constructor
  intro field authority found
  rw [← same.fieldAuthorities] at found
  obtain ⟨after, afterFound, order⟩ := onward.onward field authority found
  split
  · exact ⟨after, afterFound, order⟩
  · exact ⟨after, afterFound, order⟩

/-! ### Messages -/

/-- A message that the topic's memory ignores leaves snapshot and authorities. -/
structure Steadfast (platform : Platform) (profile : VehicleMqttProfile)
    (ingress : VehicleMqttIngress) (message : Message) : Prop where
  onward : Onward platform profile message.topic ingress (next platform profile ingress message)
  ignored : ∀ observation, inspectMessage profile message.topic message.payload = .ok observation →
    isIgnored platform ingress message.topic observation
        (latestOf platform observation message.receivedAt) = true →
      (compositeStatusDecision platform profile ingress message.topic
          message.receivedAt).1.promotesAuthority = false →
        (next platform profile ingress message).snapshot = ingress.snapshot ∧
          (next platform profile ingress message).fieldAuthorities = ingress.fieldAuthorities

theorem next_cases (platform : Platform) (profile : VehicleMqttProfile)
    (ingress : VehicleMqttIngress) (message : Message) :
    SameFields ingress (next platform profile ingress message) ∨
      ∃ observation middle,
        inspectMessage profile message.topic message.payload = .ok observation ∧
          applies platform profile ingress message observation = true ∧
            SameRecon ingress middle ∧
              SameFields (applyObservation platform profile middle message.topic observation
                  (latestOf platform observation message.receivedAt).observedAt
                  message.receivedAt).2
                (next platform profile ingress message) := by
  unfold next handle
  cases inspected : inspectMessage profile message.topic message.payload with
  | error reason => exact Or.inl ⟨rfl, rfl, rfl⟩
  | ok observation =>
    have decisionSame := compositeStatusDecision_same platform profile ingress message.topic
      message.receivedAt
    simp only
    split
    · exact Or.inl decisionSame.fields
    · rename_i taken
      have recordSame := recordFieldGateHealth_same profile
        (compositeStatusDecision platform profile ingress message.topic message.receivedAt).2
        message.topic observation message.receivedAt
      have same := decisionSame.trans recordSame
      unfold takeIn
      simp only
      cases apply : (compositeStatusDecision platform profile ingress message.topic
          message.receivedAt).1.applyToSnapshot with
      | false => exact Or.inl ⟨same.fields.snapshot, same.fields.fieldAuthorities, same.fields.named⟩
      | true =>
        refine Or.inr ⟨observation, _, rfl, ?_, same, ?_⟩
        · unfold applies
          simp only [apply, Bool.true_and, Bool.or_eq_true, Bool.not_eq_true']
          by_cases promotes : (compositeStatusDecision platform profile ingress message.topic
              message.receivedAt).1.promotesAuthority = true
          · exact Or.inl promotes
          · refine Or.inr ?_
            simp only [Bool.not_eq_true] at promotes
            simpa [promotes] using taken
        · simp only [if_true]
          split
          · rename_i threw
            rw [threw]
            exact ⟨rfl, rfl, rfl⟩
          · rename_i applied
            rw [applied]
            exact ⟨rfl, rfl, rfl⟩

theorem next_steadfast (platform : Platform) (profile : VehicleMqttProfile)
    (ingress : VehicleMqttIngress) (message : Message) :
    Steadfast platform profile ingress message := by
  constructor
  · rcases next_cases platform profile ingress message with same |
      ⟨observation, middle, _, _, recon, same⟩
    · exact Onward.of_same same
    · have applied := applyObservation_onward platform profile middle message.topic observation
        (latestOf platform observation message.receivedAt).observedAt message.receivedAt
      constructor
      intro field authority found
      rw [← recon.fields.fieldAuthorities] at found
      obtain ⟨after, afterFound, order⟩ := applied.onward field authority found
      rw [same.fieldAuthorities]
      exact ⟨after, afterFound, order⟩
  · intro observation inspected ignored notPromoted
    rcases next_cases platform profile ingress message with same |
      ⟨other, middle, otherInspected, applies, _, _⟩
    · exact ⟨same.snapshot, same.fieldAuthorities⟩
    · rw [inspected] at otherInspected
      cases otherInspected
      unfold VehicleMqttIngress.applies at applies
      simp only [notPromoted, ignored] at applies
      simp at applies

theorem next_named {message : Message} (holds : Named platform start ingress)
    (spares : Spares platform profile ingress message) :
    Named platform start (next platform profile ingress message) := by
  rcases next_cases platform profile ingress message with same |
    ⟨observation, middle, inspected, applies, recon, same⟩
  · exact holds.of_same same
  · have spared := (spares observation inspected applies).of_same recon
    exact (applyObservation_named (holds.of_same recon.fields) spared).of_same same

theorem initial_named (platform : Platform) (snapshot : VehicleSnapshot) :
    Named platform snapshot (initial snapshot) := by
  constructor
  · intro field
    rfl
  · intro field authority found
    cases found

/-- In any history of messages, no authority goes back except at a hand-over of the composite
status, and an ignored message changes nothing; while every message is spared, each authority
names the newest of the values that the snapshot holds merged. -/
theorem authorities_name_the_snapshot (platform : Platform) (profile : VehicleMqttProfile)
    (snapshot : VehicleSnapshot) (messages : List Message) :
    (∀ message, Steadfast platform profile
      (Histories.after (next platform profile) (initial snapshot) messages) message) ∧
    (Histories.EveryStep (next platform profile) (Spares platform profile) (initial snapshot)
        messages →
      Named platform snapshot
        (Histories.after (next platform profile) (initial snapshot) messages)) := by
  constructor
  · intro message
    exact next_steadfast platform profile _ message
  · intro spared
    apply Histories.keeps _ (initial_named platform snapshot) spared
    intro ingress message holds spares
    exact next_named holds spares


/-! ### An outdated reconnaissance list -/

theorem mergeField_targets {current : Option FieldValue} {value : FieldValue}
    {targets : List VehicleTarget} (merged : mergeField current value = .targets targets) :
    value = .targets targets := by
  unfold mergeField at merged
  split at merged
  · cases merged
  · cases merged
  · cases merged
  · exact merged

/-- The targets are replaced, so their authority names the list in the snapshot. -/
theorem Named.targets (holds : Named platform start ingress) {authority : FieldObservationAuthority}
    (found : ingress.fieldAuthorities.get? .targets = some authority) :
    authority.payloadHash =
      platform.payloadHash (FieldValue.targets ingress.snapshot.payload.targets).toJson := by
  obtain ⟨earlier, newest, isNamed, sameHash⟩ := holds.authority .targets authority found
  have value := holds.value .targets
  rw [isNamed, mergedValue_concat] at value
  have isTargets := mergeField_targets (Option.some.inj value.symm)
  rw [sameHash, isTargets]

private def utc : Platform := {
  dateParse := fun text =>
    if text = "1970-01-01T00:00:05.000Z" then some 5000
    else if text = "1970-01-01T00:00:10.000Z" then some 10000
    else if text = "1970-01-01T00:00:11.000Z" then some 11000
    else none
  localeLe := fun left right => decide (left ≤ right)
  payloadHash := Json.canonicalize
}

private def targetOf (targetId source observedAt : String) (others : Fields) : VehicleTarget := {
  targetId := targetId
  captureTimeUs := none
  source := some source
  observedAt := observedAt
  others := others
}

private def targetsObserved (target : VehicleTarget) (value : Json) : NormalizedMqttObservation := {
  patch := {
    chassis := none
    payload := some {
      online := none
      gimbal := none
      laser := none
      eoTask := none
      reconnaissance := none
      weapon := none
      lockedTargetId := none
      attackReady := none
      targets := some [target]
      eoScan := none }
    health := none
    connectivity := none }
  domains := [.target]
  sourceObservedAt := some target.observedAt
  sourceSequence := none
  timeAuthority := .source
  canonicalPayload := value
}

private def stamped (seconds list id value : String) : Json :=
  .obj [("header", .obj [("stamp", .obj [("sec", .num seconds)])]),
    (list, .arr [.obj [(id, .str value)]])]

private def atSecond (seconds : String) : String :=
  "1970-01-01T00:00:" ++ seconds ++ ".000Z"

/-- The payloads of three messages, and what the guard and the normalizers make of them. -/
private def decoded (payload : String) : Except String Json :=
  if payload = "detected at 10" then .ok (stamped "10" "objects" "id" "a")
  else if payload = "targets at 5" then .ok (stamped "5" "targets" "target_id" "b")
  else if payload = "detected at 11" then .ok (stamped "11" "objects" "id" "a")
  else .error "UGV_MQTT_MALFORMED_JSON"

private def normalized (topic : String) (value : Json) : Except String NormalizedMqttObservation :=
  let detected (seconds : String) : NormalizedMqttObservation :=
    targetsObserved (targetOf "a" "mqtt_detected_objects" (atSecond seconds)
      [("coordinateFrame", .str "carla_world")]) value
  if topic = "/ugv/detected_objects" then
    if Json.same value (stamped "10" "objects" "id" "a") then .ok (detected "10")
    else .ok (detected "11")
  else if topic = "/ugv/area_recon/targets" then
    .ok (targetsObserved (targetOf "b" "mqtt_area_recon" (atSecond "05") []) value)
  else .error "UGV_MQTT_TARGETS_INVALID"

private def ugv : VehicleMqttProfile :=
  ugvMqttProfile decoded (fun _ => true) normalized

private def received (topic payload : String) : Message := {
  topic := topic
  payload := payload
  retained := false
  receivedAt := atSecond "11"
}

private def detectedFirst : Message := received "/ugv/detected_objects" "detected at 10"

private def switched : VehicleMqttIngress :=
  Histories.after (next utc ugv) (initial (createUgvSnapshot (atSecond "05"))) [
    detectedFirst,
    received "/ugv/area_recon/targets" "targets at 5",
    received "/ugv/detected_objects" "detected at 11"]

/-- The reconnaissance list is older than the detected objects and is dropped, yet remembered; the
next detected objects bring it into the snapshot, and the authority names the list before. -/
theorem outdatedTargets_replace_named :
    ¬ Named utc (createUgvSnapshot (atSecond "05")) switched := by
  intro holds
  have known : (switched.fieldAuthorities.get? .targets).isSome = true := by decide +kernel
  obtain ⟨authority, found⟩ := Option.isSome_iff_exists.mp known
  have named := holds.targets found
  have differs : (switched.fieldAuthorities.get? .targets).map (fun authority =>
      authority.payloadHash) ≠
        some (utc.payloadHash (FieldValue.targets switched.snapshot.payload.targets).toJson) := by
    decide +kernel
  apply differs
  rw [found, ← named]
  rfl

theorem authorities_name_the_snapshot_detected :
    Named utc (createUgvSnapshot (atSecond "05"))
      (Histories.after (next utc ugv) (initial (createUgvSnapshot (atSecond "05")))
        [detectedFirst]) := by
  apply (authorities_name_the_snapshot utc ugv (createUgvSnapshot (atSecond "05"))
    [detectedFirst]).2
  refine ⟨?_, trivial⟩
  intro observation inspected _
  have known : inspectMessage ugv detectedFirst.topic detectedFirst.payload =
      .ok (targetsObserved (targetOf "a" "mqtt_detected_objects" (atSecond "10")
        [("coordinateFrame", .str "carla_world")]) (stamped "10" "objects" "id" "a")) := by
    rfl
  rw [known] at inspected
  cases inspected
  constructor
  · intro view
    cases view
  · intro _ _
    exact List.mem_singleton.mpr rfl
  · intro navigation impossible
    cases impossible
  · decide +kernel
  · constructor
    · intro chassis impossible
      cases impossible
    · intro payload isPayload
      cases isPayload
      constructor
      all_goals first | rfl | decide +kernel
    · intro health impossible
      cases impossible
    · intro health impossible
      cases impossible
    · rfl


end VehicleMqttIngress


end VehicleIngress

end SdarRuntime
