import SdarRuntime.VehicleIngress.Ingress

/-!
Referee data in patches. A key of the referee comes into the snapshot only with the patch that
brings it: neither the merge of members nor the choice among targets makes a key.
-/

namespace SdarRuntime

namespace VehicleIngress

theorem anyRefereeMember_eq_false {fields : Fields} :
    anyRefereeMember fields = false ↔ ∀ member ∈ fields,
      refereeKeys.contains member.1.toLower = false ∧ hasRefereeKey member.2 = false := by
  induction fields with
  | nil => simp [anyRefereeMember]
  | cons member rest ih =>
    simp only [anyRefereeMember, Bool.or_eq_false_iff, ih, List.forall_mem_cons]

theorem spread_clean {base extra : Fields} (baseClean : anyRefereeMember base = false)
    (extraClean : anyRefereeMember extra = false) :
    anyRefereeMember (Json.spread base extra) = false := by
  rw [anyRefereeMember_eq_false] at baseClean extraClean ⊢
  intro member present
  rcases Json.mem_spread present with inBase | inExtra
  · exact baseClean member inBase
  · exact extraClean member inExtra

private theorem assign_clean {key : String} {value : Json} {fields : Fields}
    (clean : anyRefereeMember fields = false)
    (keyClean : refereeKeys.contains key.toLower = false) (valueClean : hasRefereeKey value = false) :
    anyRefereeMember (Json.assign key value fields) = false := by
  rw [anyRefereeMember_eq_false] at clean ⊢
  intro member present
  rcases Json.mem_assign present with isNew | old
  · rw [isNew]
    exact ⟨keyClean, valueClean⟩
  · exact clean member old

private theorem without_clean (keys : List String) {fields : Fields}
    (clean : anyRefereeMember fields = false) :
    anyRefereeMember (withoutKeys keys fields) = false := by
  rw [anyRefereeMember_eq_false] at clean ⊢
  intro member present
  exact clean member (List.mem_of_mem_filter present)

private theorem members_clean {value : Json} (clean : hasRefereeKey value = false) :
    anyRefereeMember (Json.members value) = false := by
  cases value with
  | obj fields => exact clean
  | null | bool | num | str | arr => rfl

private theorem lookup_clean {key : String} {fields : Fields} {value : Json}
    (clean : anyRefereeMember fields = false) (found : Json.lookup key fields = some value) :
    hasRefereeKey value = false :=
  (anyRefereeMember_eq_false.mp clean _ (Json.mem_of_lookup found)).2

private theorem mergeMember_clean {key : String} {previous patch merged : Fields}
    (keyClean : refereeKeys.contains key.toLower = false)
    (previousClean : anyRefereeMember previous = false)
    (patchClean : anyRefereeMember patch = false)
    (mergedClean : anyRefereeMember merged = false) :
    anyRefereeMember (mergeMember key previous patch merged) = false := by
  unfold mergeMember
  split
  · exact mergedClean
  · rename_i value found
    apply assign_clean mergedClean keyClean
    change anyRefereeMember (Json.spread _ _) = false
    apply spread_clean
    · cases old : Json.lookup key previous with
      | none => rfl
      | some other => exact members_clean (lookup_clean previousClean old)
    · exact members_clean (lookup_clean patchClean found)

theorem mergeReconnaissance_clean {current patch : Fields}
    (currentClean : anyRefereeMember current = false)
    (patchClean : anyRefereeMember patch = false) :
    anyRefereeMember (mergeReconnaissance current patch) = false := by
  have previousClean : anyRefereeMember (previousReconnaissance current patch) = false := by
    unfold previousReconnaissance
    split
    · exact without_clean _ currentClean
    · exact currentClean
  have acceptedClean :
      anyRefereeMember (acceptedReconnaissance (previousReconnaissance current patch) patch) =
        false := by
    unfold acceptedReconnaissance
    split
    · exact assign_clean (without_clean _ patchClean) (by decide +kernel) rfl
    · exact patchClean
  apply mergeMember_clean (by decide +kernel) previousClean acceptedClean
  apply mergeMember_clean (by decide +kernel) previousClean acceptedClean
  exact spread_clean previousClean acceptedClean

structure ChassisPatch.Clean (patch : ChassisPatch) : Prop where
  position : present patch.position = false
  attitude : present patch.attitude = false
  compassHeadingDeg : present patch.compassHeadingDeg = false
  speedKmh : present patch.speedKmh = false
  energy : membersPresent patch.energy = false
  temperature : membersPresent patch.temperature = false
  mission : membersPresent patch.mission = false
  navigation : navigationPresent patch.navigation = false

structure PayloadPatch.Clean (patch : PayloadPatch) : Prop where
  online : present patch.online = false
  gimbal : membersPresent patch.gimbal = false
  laser : membersPresent patch.laser = false
  eoTask : membersPresent patch.eoTask = false
  reconnaissance : membersPresent patch.reconnaissance = false
  weapon : membersPresent patch.weapon = false
  lockedTargetId : present patch.lockedTargetId = false
  attackReady : present patch.attackReady = false
  targets : targetsPresent (patch.targets.getD []) = false
  eoScan : membersPresent patch.eoScan = false

structure SnapshotPatch.Clean (patch : SnapshotPatch) : Prop where
  chassis : ∀ chassis, patch.chassis = some chassis → chassis.Clean
  payload : ∀ payload, patch.payload = some payload → payload.Clean
  healthMembers : ∀ health, patch.health = some health → anyRefereeMember health.members = false
  healthComponents : ∀ health, patch.health = some health →
    membersPresent health.components = false
  connectivity : membersPresent patch.connectivity = false

private theorem present_orElse {patch current : Option Json} (patchClean : present patch = false)
    (currentClean : present current = false) : present (patch <|> current) = false := by
  cases patch with
  | none => exact currentClean
  | some value => exact patchClean

private theorem mergeFields_clean {current patch : Option Fields}
    (currentClean : membersPresent current = false) (patchClean : membersPresent patch = false) :
    membersPresent (mergeFields current patch) = false := by
  cases patch with
  | none => exact currentClean
  | some members =>
    cases current with
    | none => exact patchClean
    | some old => exact spread_clean currentClean patchClean

private theorem navigation_clean {current patch : Option Navigation}
    (currentClean : navigationPresent current = false)
    (patchClean : navigationPresent patch = false) :
    navigationPresent (mergeNavigation current patch) = false := by
  cases patch with
  | none => exact currentClean
  | some navigation =>
    have base : navigationPresent (some (current.getD Navigation.empty)) = false := by
      cases current with
      | none => rfl
      | some old => exact currentClean
    simp only [mergeNavigation, navigationPresent, Bool.or_eq_false_iff] at base patchClean ⊢
    obtain ⟨⟨⟨⟨baseX, baseY⟩, baseZ⟩, baseSpeed⟩, baseRange⟩ := base
    obtain ⟨⟨⟨⟨patchX, patchY⟩, patchZ⟩, patchSpeed⟩, patchRange⟩ := patchClean
    exact ⟨⟨⟨⟨present_orElse patchX baseX, present_orElse patchY baseY⟩,
      present_orElse patchZ baseZ⟩, present_orElse patchSpeed baseSpeed⟩,
        present_orElse patchRange baseRange⟩

theorem patchChassis_clean {current : Chassis} {patch : ChassisPatch}
    (currentClean : current.hasRefereeData = false) (patchClean : patch.Clean) :
    (patchChassis current patch).hasRefereeData = false := by
  simp only [Chassis.hasRefereeData, Bool.or_eq_false_iff] at currentClean ⊢
  obtain ⟨⟨⟨⟨⟨⟨⟨position, attitude⟩, heading⟩, speed⟩, energy⟩, temperature⟩, mission⟩,
    navigation⟩ := currentClean
  have missionClean : anyRefereeMember (patch.mission.getD current.mission) = false := by
    have clean := patchClean.mission
    cases value : patch.mission with
    | none => exact mission
    | some track =>
      rw [value] at clean
      exact clean
  exact ⟨⟨⟨⟨⟨⟨⟨present_orElse patchClean.position position,
    present_orElse patchClean.attitude attitude⟩,
    present_orElse patchClean.compassHeadingDeg heading⟩,
    present_orElse patchClean.speedKmh speed⟩,
    mergeFields_clean energy patchClean.energy⟩,
    mergeFields_clean temperature patchClean.temperature⟩, missionClean⟩,
    navigation_clean navigation patchClean.navigation⟩

theorem patchPayload_clean {current : Payload} {patch : PayloadPatch}
    (currentClean : current.hasRefereeData = false) (patchClean : patch.Clean) :
    (patchPayload current patch).hasRefereeData = false := by
  simp only [Payload.hasRefereeData, Bool.or_eq_false_iff] at currentClean ⊢
  obtain ⟨⟨⟨⟨⟨⟨⟨⟨⟨online, gimbal⟩, laser⟩, eoTask⟩, recon⟩, weapon⟩, locked⟩, attack⟩, targets⟩,
    eoScan⟩ := currentClean
  have replaced {old : Option Fields} {new : Option Fields} (oldClean : membersPresent old = false)
      (newClean : membersPresent new = false) : membersPresent (new <|> old) = false := by
    cases new with
    | none => exact oldClean
    | some members => exact newClean
  have reconClean : anyRefereeMember (patchPayload current patch).reconnaissance = false := by
    have clean := patchClean.reconnaissance
    unfold patchPayload
    cases value : patch.reconnaissance with
    | none => exact recon
    | some members =>
      rw [value] at clean
      exact mergeReconnaissance_clean recon clean
  have weaponClean : anyRefereeMember (patch.weapon.getD current.weapon) = false := by
    have clean := patchClean.weapon
    cases value : patch.weapon with
    | none => exact weapon
    | some track =>
      rw [value] at clean
      exact clean
  have targetsClean : targetsPresent (patch.targets.getD current.targets) = false := by
    have clean := patchClean.targets
    cases value : patch.targets with
    | none => exact targets
    | some list =>
      rw [value] at clean
      exact clean
  exact ⟨⟨⟨⟨⟨⟨⟨⟨⟨present_orElse patchClean.online online,
    mergeFields_clean gimbal patchClean.gimbal⟩, mergeFields_clean laser patchClean.laser⟩,
    replaced eoTask patchClean.eoTask⟩, reconClean⟩, weaponClean⟩,
    present_orElse patchClean.lockedTargetId locked⟩,
    present_orElse patchClean.attackReady attack⟩, targetsClean⟩,
    replaced eoScan patchClean.eoScan⟩

variable {patch : SnapshotPatch}

theorem applySnapshotPatch_clean (platform : Platform) {current : VehicleSnapshot}
    (observedAt : String) (domains : List FreshnessDomain)
    (currentClean : hasRefereeData current = false) (patchClean : patch.Clean) :
    applySnapshotPatch platform current patch observedAt domains =
      .ok (patched platform current patch observedAt domains) := by
  unfold applySnapshotPatch
  rw [if_neg]
  simp only [Bool.not_eq_true]
  simp only [hasRefereeData, Bool.or_eq_false_iff] at currentClean ⊢
  obtain ⟨⟨⟨⟨chassis, payload⟩, members⟩, components⟩, connectivity⟩ := currentClean
  refine ⟨⟨⟨⟨?_, ?_⟩, ?_⟩, ?_⟩, ?_⟩
  · unfold patched
    cases value : patch.chassis with
    | none => exact chassis
    | some other => exact patchChassis_clean chassis (patchClean.chassis other value)
  · unfold patched
    cases value : patch.payload with
    | none => exact payload
    | some other => exact patchPayload_clean payload (patchClean.payload other value)
  · unfold patched
    cases value : patch.health with
    | none => exact members
    | some other => exact spread_clean members (patchClean.healthMembers other value)
  · unfold patched
    cases value : patch.health with
    | none => exact components
    | some other => exact spread_clean components (patchClean.healthComponents other value)
  · exact spread_clean connectivity patchClean.connectivity

theorem removeObservationField_clean (clean : patch.Clean) (field : VehicleObservationField) :
    (removeObservationField patch field).Clean := by
  have ofChassis (change : ChassisPatch → ChassisPatch)
      (keeps : ∀ chassis : ChassisPatch, chassis.Clean → (change chassis).Clean) :
      ({ patch with chassis := patch.chassis.map change } : SnapshotPatch).Clean := by
    refine { clean with chassis := ?_ }
    intro chassis changed
    obtain ⟨old, isOld, same⟩ := Option.map_eq_some_iff.mp changed
    rw [← same]
    exact keeps old (clean.chassis old isOld)
  have ofPayload (change : PayloadPatch → PayloadPatch)
      (keeps : ∀ payload : PayloadPatch, payload.Clean → (change payload).Clean) :
      ({ patch with payload := patch.payload.map change } : SnapshotPatch).Clean := by
    refine { clean with payload := ?_ }
    intro payload changed
    obtain ⟨old, isOld, same⟩ := Option.map_eq_some_iff.mp changed
    rw [← same]
    exact keeps old (clean.payload old isOld)
  cases field with
  | positionGeodetic => exact ofChassis _ fun _ keeps => { keeps with position := rfl }
  | positionLocal =>
    refine ofChassis _ fun chassis keeps => { keeps with navigation := ?_ }
    have navigation := keeps.navigation
    cases value : chassis.navigation with
    | none => rfl
    | some old =>
      rw [value] at navigation
      simp only [navigationPresent, Bool.or_eq_false_iff] at navigation
      simp only [Option.map_some, navigationPresent, Bool.or_eq_false_iff]
      exact ⟨⟨⟨⟨rfl, rfl⟩, rfl⟩, navigation.1.2⟩, navigation.2⟩
  | speed =>
    refine ofChassis _ fun chassis keeps => { keeps with speedKmh := rfl, navigation := ?_ }
    have navigation := keeps.navigation
    cases value : chassis.navigation with
    | none => rfl
    | some old =>
      rw [value] at navigation
      simp only [navigationPresent, Bool.or_eq_false_iff] at navigation
      simp only [Option.map_some, navigationPresent, Bool.or_eq_false_iff]
      exact ⟨⟨navigation.1.1, rfl⟩, navigation.2⟩
  | heading => exact ofChassis _ fun _ keeps => { keeps with compassHeadingDeg := rfl }
  | mission => exact ofChassis _ fun _ keeps => { keeps with mission := rfl }
  | recon => exact ofPayload _ fun _ keeps => { keeps with reconnaissance := rfl }
  | targets => exact ofPayload _ fun _ keeps => { keeps with targets := rfl }
  | gimbal => exact ofPayload _ fun _ keeps => { keeps with gimbal := rfl }

variable {targets : List VehicleTarget}

theorem mem_of_deduplicated {platform : Platform} {target : VehicleTarget}
    (kept : target ∈ deduplicateVehicleTargets platform targets) :
    target ∈ targets := by
  unfold deduplicateVehicleTargets at kept
  simp only [List.mem_insertionSort] at kept
  have fromFold (choose : OrderedMap String VehicleTarget → VehicleTarget →
        OrderedMap String VehicleTarget)
      (chooses : ∀ selected target, choose selected target = selected.set target.targetId target ∨
        choose selected target = selected) :
      ∀ (rest : List VehicleTarget) (selected : OrderedMap String VehicleTarget),
        (∀ other ∈ selected.values, other ∈ targets) → (∀ other ∈ rest, other ∈ targets) →
          ∀ other ∈ (rest.foldl choose selected).values, other ∈ targets := by
    intro rest
    induction rest with
    | nil => exact fun selected known _ => known
    | cons first rest ih =>
      intro selected known later
      have added : ∀ other ∈ (selected.set first.targetId first).values, other ∈ targets := by
        intro other present
        obtain ⟨key, found⟩ := OrderedMap.mem_values.mp present
        rw [OrderedMap.get?_set] at found
        split at found
        · cases found
          exact later first List.mem_cons_self
        · exact known other (OrderedMap.mem_values.mpr ⟨key, found⟩)
      rw [List.foldl_cons]
      apply ih
      · rcases chooses selected first with isSet | same
        · rw [isSet]
          exact added
        · rw [same]
          exact known
      · exact fun other present => later other (List.mem_cons_of_mem _ present)
  refine fromFold _ ?_ targets OrderedMap.empty ?_ ?_ _ kept
  · intro selected first
    split
    · exact Or.inl rfl
    · split
      · exact Or.inl rfl
      · exact Or.inr rfl
  · intro other present
    obtain ⟨key, found⟩ := OrderedMap.mem_values.mp present
    cases found
  · exact fun _ present => present

theorem deduplicated_clean (platform : Platform) (clean : targetsPresent targets = false) :
    targetsPresent (deduplicateVehicleTargets platform targets) = false := by
  unfold targetsPresent at clean ⊢
  rw [List.any_eq_false] at clean ⊢
  exact fun target kept => clean target (mem_of_deduplicated kept)

theorem withTargets_clean {observation : NormalizedMqttObservation}
    (clean : observation.patch.Clean) (targetsClean : targetsPresent targets = false) :
    (VehicleMqttIngress.withTargets observation targets).patch.Clean := by
  refine { clean with payload := ?_ }
  intro payload changed
  obtain ⟨old, isOld, same⟩ := Option.map_eq_some_iff.mp changed
  rw [← same]
  exact { clean.payload old isOld with targets := targetsClean }

end VehicleIngress

end SdarRuntime
