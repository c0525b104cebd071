import SdarRuntime.Library.Favourite
import SdarRuntime.Library.Json
import SdarRuntime.Library.OrderedMap
import SdarRuntime.Provider.IsoTimestamps

/-!
Targets of a vehicle as its sources report them. Reports of one target are reduced to the one
that is preferred: the reconnaissance topic before the device, then the later observation, then
the richer report. `Date.parse`, the collation and the reading of a number's text are parameters.
-/

namespace SdarRuntime

namespace Targets

open IsoTimestamps Favourite OrderedMap

structure Platform where
  dateParse : String → Option Int
  /-- `left.localeCompare(right, "en", { numeric: true })`. -/
  localeCompare : String → String → Int
  /-- The safe integer that the text of a number stands for. -/
  safeInteger : String → Option Int

abbrev Target := List (String × Json)

def finite : Option Json → Option Json
  | some (.num text) => some (.num text)
  | _ => none

def scalarText : Option Json → Option String
  | some (.str value) => if value.length > 0 then some value else none
  | some (.num text) => some text
  | _ => none

/-- `left ?? right` of two members. -/
def coalesce (left right : Option Json) : Option Json :=
  match left with
  | none => right
  | some .null => right
  | some value => some value

def compact (members : List (String × Option Json)) : Target :=
  members.filterMap fun member => member.2.map (Prod.mk member.1)

def captureTime (platform : Platform) : Option Json → Option String
  | some (.num text) =>
    match platform.safeInteger text with
    | some value => if value < 0 then none else isoTimestampFromEpochMicroseconds value
    | none => none
  | _ => none

def finiteMembers (names : List (String × String)) : Option Json → Option Target
  | some (.obj fields) =>
    some (compact (names.map fun name => (name.1, finite (Json.lookup name.2 fields))))
  | _ => none

def unlessEmpty : Option Target → Option Json
  | none => none
  | some [] => none
  | some members => some (.obj members)

inductive ErrorPrefix where
  | ugv
  | npcTank
  deriving DecidableEq

def ErrorPrefix.text : ErrorPrefix → String
  | ugv => "UGV"
  | npcTank => "NPC_TANK"

def normalizeTarget (platform : Platform) (errorPrefix : ErrorPrefix)
    (fallbackObservedAt : String) (value : Json) : Except String Target :=
  match value with
  | .obj fields =>
    let member name := Json.lookup name fields
    match scalarText (coalesce (coalesce (member "target_id") (member "targetId"))
      (member "id")) with
    | none => .error (errorPrefix.text ++ "_DEVICE_TARGET_ID_INVALID")
    | some targetId =>
      let observedAt := ((captureTime platform (member "capture_time_us")).or
        (scalarText (member "observedAt"))).getD fallbackObservedAt
      let position := finiteMembers
        [("longitude", "longitude"), ("latitude", "latitude"), ("altitude", "altitude")]
        (member "position")
      let velocity := finiteMembers
        [("eastMps", "vel_e"), ("northMps", "vel_n"), ("upMps", "vel_u")] (member "velocity")
      let pixel := finiteMembers
        [("x", "x"), ("y", "y"), ("theta", "theta"), ("width", "w"), ("height", "h")]
        (member "pixel_pos")
      .ok (compact
        [("targetId", some (.str targetId)),
          ("targetType", finite (member "type")),
          ("objectType",
            (scalarText (coalesce (member "objectType") (member "object_type"))).map .str),
          ("position", unlessEmpty position),
          ("coordinateFrame",
            if position.isNone then member "coordinateFrame" else some (.str "WGS84")),
          ("velocity", unlessEmpty velocity),
          ("distanceM", finite (coalesce (member "distance") (member "distanceM"))),
          ("confidence", finite (member "confidence")),
          ("threat", finite (member "threat")),
          ("iff", finite (member "iff")),
          ("lockTimeSec", finite (coalesce (member "lock_time") (member "lockTimeSec"))),
          ("pixel", unlessEmpty pixel),
          ("roleName",
            (scalarText (coalesce (member "role_name") (member "roleName"))).map .str),
          ("source", some (.str "device_mcp")),
          ("observedAt", some (.str observedAt))])
  | _ => .error (errorPrefix.text ++ "_DEVICE_TARGET_INVALID")

def normalizeVehicleDeviceTargets (platform : Platform) (values : List Json)
    (errorPrefix : ErrorPrefix) (fallbackObservedAt : String) : Except String (List Target) :=
  values.mapM (normalizeTarget platform errorPrefix fallbackObservedAt)

mutual
def richness : Json → Nat
  | .arr items => richnessOfItems items
  | .obj fields => richnessOfMembers fields
  | .null => 0
  | _ => 1

def richnessOfItems : List Json → Nat
  | [] => 1
  | item :: rest => richness item + richnessOfItems rest

def richnessOfMembers : List (String × Json) → Nat
  | [] => 1
  | (_, value) :: rest => richness value + richnessOfMembers rest
end

def fromRecon (target : Target) : Bool :=
  match Json.lookup "source" target with
  | some (.str source) => source == "mqtt_area_recon"
  | _ => false

/-- The text of the time and its milliseconds; `NaN` is none. -/
def observedTime (platform : Platform) (target : Target) : Option (String × Int) :=
  match Json.lookup "observedAt" target with
  | some (.str text) => (platform.dateParse text).map (Prod.mk text)
  | _ => none

def prefer (platform : Platform) (candidate previous : Target) : Bool :=
  if fromRecon candidate && !fromRecon previous then true
  else if !fromRecon candidate && fromRecon previous then false
  else
    match observedTime platform candidate, observedTime platform previous with
    | some (candidateText, _), some (previousText, _) =>
      let order := compareIsoTimestamps platform.dateParse candidateText previousText
      if order ≠ 0 then decide (order > 0)
      else decide (richness (.obj candidate) > richness (.obj previous))
    | _, _ => decide (richness (.obj candidate) > richness (.obj previous))

def targetIdOf (target : Target) : Option String :=
  scalarText (coalesce (Json.lookup "targetId" target) (Json.lookup "target_id" target))

/-- `{ ...target, targetId }`. -/
def named (targetId : String) (target : Target) : Target :=
  Json.assign "targetId" (.str targetId) target

def select (platform : Platform) (selected : OrderedMap String Target) (target : Target) :
    OrderedMap String Target :=
  match targetIdOf target with
  | none => selected
  | some targetId =>
    let normalized := named targetId target
    match selected.get? targetId with
    | none => selected.set targetId normalized
    | some previous =>
      if prefer platform normalized previous then selected.set targetId normalized
      else selected

/-- `String(target.targetId)`. -/
def idText (target : Target) : String :=
  match Json.lookup "targetId" target with
  | none => "undefined"
  | some value => value.asText

def deduplicateNormalizedVehicleTargets (platform : Platform) (groups : List (List Target)) :
    List Target :=
  let selected := groups.flatten.foldl (select platform) empty
  selected.values.mergeSort fun left right =>
    platform.localeCompare (idText left) (idText right) ≤ 0

variable {platform : Platform}

def observationTime (platform : Platform) (target : Target) : Option (Int ×ₗ ℚ) :=
  (observedTime platform target).map fun time => timeKey time.2 time.1

def richnessOf (target : Target) : Nat :=
  richness (.obj target)

variable {target : Target}

theorem dateParse_of_observedTime {text : String} {milliseconds : Int}
    (observed : observedTime platform target = some (text, milliseconds)) :
    platform.dateParse text = some milliseconds := by
  unfold observedTime at observed
  split at observed
  · obtain ⟨number, isNumber, same⟩ := Option.map_eq_some_iff.mp observed
    cases same
    exact isNumber
  · cases observed

theorem prefer_eq_mixed (candidate previous : Target) :
    prefer platform candidate previous =
      mixed fromRecon (observationTime platform) richnessOf candidate previous := by
  unfold prefer mixed observationTime
  cases newTime : observedTime platform candidate with
  | none => rfl
  | some new =>
    cases oldTime : observedTime platform previous with
    | none => rfl
    | some old =>
      have order := compareIsoTimestamps_keys (dateParse_of_observedTime newTime)
        (dateParse_of_observedTime oldTime)
      dsimp only [Option.map_some]
      rw [order]
      rcases lt_trichotomy (timeKey new.2 new.1) (timeKey old.2 old.1) with
        less | same | more
      · rw [if_neg (ne_of_lt less), if_pos less, if_neg (ne_of_lt less),
          decide_eq_false (not_lt_of_gt less)]
        rfl
      · rw [if_pos same, if_pos same]
        rfl
      · rw [if_neg (ne_of_gt more), if_neg (not_lt_of_gt more), if_neg (ne_of_gt more),
          decide_eq_true more]
        rfl

def reportsOf (targetId : String) (targets : List Target) : List Target :=
  (targets.filter fun target => targetIdOf target = some targetId).map (named targetId)

theorem get?_select (targetId : String) (targets : List Target)
    (selected : OrderedMap String Target) :
    (targets.foldl (select platform) selected).get? targetId =
      match selected.get? targetId with
      | none => favourite (prefer platform) (reportsOf targetId targets)
      | some held => some (after (prefer platform) held (reportsOf targetId targets)) := by
  induction targets generalizing selected with
  | nil =>
    cases held : selected.get? targetId with
    | none => exact held
    | some target => exact held
  | cons target rest ih =>
    rw [List.foldl_cons, ih]
    by_cases isId : targetIdOf target = some targetId
    · have reports : reportsOf targetId (target :: rest) =
          named targetId target :: reportsOf targetId rest := by
        unfold reportsOf
        simp only [List.filter_cons, isId, decide_true, if_true, List.map_cons]
      rw [reports]
      unfold select
      rw [isId]
      dsimp only
      cases held : selected.get? targetId with
      | none =>
        dsimp only
        rw [get?_set_self]
        rfl
      | some previous =>
        dsimp only
        by_cases preferred : prefer platform (named targetId target) previous = true
        · rw [if_pos preferred, get?_set_self]
          simp only [after, List.foldl_cons, keep, if_pos preferred]
        · rw [if_neg preferred, held]
          simp only [after, List.foldl_cons, keep, if_neg preferred]
    · have reports : reportsOf targetId (target :: rest) = reportsOf targetId rest := by
        unfold reportsOf
        rw [List.filter_cons, if_neg (by simpa using isId)]
      rw [reports]
      have unchanged : (select platform selected target).get? targetId =
          selected.get? targetId := by
        unfold select
        cases otherId : targetIdOf target with
        | none => rfl
        | some other =>
          have different : targetId ≠ other := by
            intro same
            rw [otherId, same] at isId
            exact isId rfl
          dsimp only
          cases selected.get? other with
          | none => exact get?_set_ne _ _ different
          | some previous =>
            dsimp only
            split
            · exact get?_set_ne _ _ different
            · rfl
      rw [unchanged]

def selectedOf (platform : Platform) (groups : List (List Target)) (targetId : String) :
    Option Target :=
  favourite (prefer platform) (reportsOf targetId groups.flatten)

variable {groups : List (List Target)}

theorem mem_deduplicate :
    target ∈ deduplicateNormalizedVehicleTargets platform groups ↔
      ∃ targetId, selectedOf platform groups targetId = some target := by
  unfold deduplicateNormalizedVehicleTargets selectedOf
  rw [(List.mergeSort_perm _ _).mem_iff, mem_values]
  apply exists_congr
  intro targetId
  rw [get?_select]
  rfl

def returnedId (target : Target) : Option String :=
  (Json.lookup "targetId" target).bind Json.text?

theorem returnedId_named (targetId : String) (target : Target) :
    returnedId (named targetId target) = some targetId := by
  unfold returnedId named
  rw [Json.lookup_assign_self]
  rfl

variable {targetId : String}

theorem returnedId_of_mem_reportsOf {targets : List Target}
    (member : target ∈ reportsOf targetId targets) : returnedId target = some targetId := by
  obtain ⟨original, _, rfl⟩ := List.mem_map.mp member
  exact returnedId_named targetId original

theorem report_of_selectedOf (isSelected : selectedOf platform groups targetId = some target) :
    target ∈ reportsOf targetId groups.flatten ∧ returnedId target = some targetId := by
  have member := favourite_mem isSelected
  exact ⟨member, returnedId_of_mem_reportsOf member⟩

theorem ids_nodup (groups : List (List Target)) :
    ((deduplicateNormalizedVehicleTargets platform groups).map returnedId).Nodup := by
  unfold deduplicateNormalizedVehicleTargets
  apply ((List.mergeSort_perm _ _).map returnedId).nodup_iff.mpr
  generalize isSelected : groups.flatten.foldl (select platform) empty = selected
  have ids : selected.values.map returnedId = selected.keys.map some := by
    unfold OrderedMap.values OrderedMap.keys
    rw [List.map_map, List.map_map]
    apply List.map_congr_left
    rintro ⟨targetId, target⟩ member
    have found := mem_entries.mp member
    rw [← isSelected, get?_select] at found
    exact returnedId_of_mem_reportsOf (favourite_mem found)
  rw [ids]
  exact selected.distinct.map (Option.some_injective _)

theorem selectedOf_of_reports (platform : Platform)
    (present : reportsOf targetId groups.flatten ≠ []) :
    ∃ target, selectedOf platform groups targetId = some target :=
  favourite_of_ne_nil present

/-- One of the given reports of each target comes back, and none is preferred to it. -/
structure ReturnsBest (platform : Platform) (groups : List (List Target)) : Prop where
  distinct : ((deduplicateNormalizedVehicleTargets platform groups).map returnedId).Nodup
  complete : ∀ targetId, reportsOf targetId groups.flatten ≠ [] →
    ∃ target ∈ deduplicateNormalizedVehicleTargets platform groups,
      returnedId target = some targetId
  best : ∀ target ∈ deduplicateNormalizedVehicleTargets platform groups,
    ∃ targetId, returnedId target = some targetId ∧
      target ∈ reportsOf targetId groups.flatten ∧
      ∀ other ∈ reportsOf targetId groups.flatten, prefer platform other target = false

/-- Whatever order the targets are given in, the source class and the time of the chosen ones are
the same. -/
def OrderFree (platform : Platform) (groups : List (List Target)) : Prop :=
  ∀ others : List (List Target), others.flatten.Perm groups.flatten →
    ∀ target ∈ deduplicateNormalizedVehicleTargets platform groups,
    ∀ other ∈ deduplicateNormalizedVehicleTargets platform others,
      returnedId target = returnedId other →
        fromRecon target = fromRecon other ∧
          observationTime platform target = observationTime platform other

/-- Among the reports of the best source class there is, one kind has the say: a report without a
readable time is richer than all with one, or a latest one is richer than all without. -/
def TimesSettled (platform : Platform) (reports : List Target) : Prop :=
  Favourite.Settled fromRecon (observationTime platform) richnessOf reports

theorem prefer_eq : prefer platform =
    mixed fromRecon (observationTime platform) richnessOf := by
  funext candidate previous
  exact prefer_eq_mixed candidate previous

theorem returnsBest_of_settled (settled : ∀ targetId, reportsOf targetId groups.flatten ≠ [] →
      TimesSettled platform (reportsOf targetId groups.flatten)) :
    ReturnsBest platform groups where
  distinct := ids_nodup groups
  complete := by
    intro targetId present
    obtain ⟨target, isSelected⟩ := selectedOf_of_reports platform present
    exact ⟨target, mem_deduplicate.mpr ⟨targetId, isSelected⟩,
      (report_of_selectedOf isSelected).2⟩
  best := by
    intro target member
    obtain ⟨targetId, isSelected⟩ := mem_deduplicate.mp member
    obtain ⟨isReport, isId⟩ := report_of_selectedOf isSelected
    refine ⟨targetId, isId, isReport, ?_⟩
    have isSettled := settled targetId (List.ne_nil_of_mem isReport)
    unfold selectedOf at isSelected
    rw [prefer_eq] at isSelected ⊢
    exact (favourite_settled isSelected isSettled).2

theorem reportsOf_perm (targetId : String) {targets others : List Target}
    (same : others.Perm targets) : (reportsOf targetId others).Perm (reportsOf targetId targets) :=
  (same.filter _).map _

theorem orderFree_of_settled (settled : ∀ targetId, reportsOf targetId groups.flatten ≠ [] →
      TimesSettled platform (reportsOf targetId groups.flatten)) :
    OrderFree platform groups := by
  intro others same target member other otherMember sameId
  obtain ⟨targetId, isSelected⟩ := mem_deduplicate.mp member
  obtain ⟨otherId, isOther⟩ := mem_deduplicate.mp otherMember
  obtain ⟨isReport, isId⟩ := report_of_selectedOf isSelected
  rw [isId, (report_of_selectedOf isOther).2] at sameId
  cases sameId
  have isSettled := settled targetId (List.ne_nil_of_mem isReport)
  unfold selectedOf at isSelected isOther
  rw [prefer_eq] at isSelected isOther
  exact favourite_perm (reportsOf_perm targetId same).symm isSettled isSelected isOther

theorem exists_targets_of_order {targets order : List Target}
    (isOrder : order.Perm (reportsOf targetId targets)) :
    ∃ others : List Target, others.Perm targets ∧ reportsOf targetId others = order := by
  have related : List.Forall₂ (fun report target => report = named targetId target)
      (reportsOf targetId targets)
      (targets.filter fun target => targetIdOf target = some targetId) := by
    unfold reportsOf
    rw [List.forall₂_map_left_iff, List.forall₂_same]
    exact fun _ _ => rfl
  obtain ⟨originals, isMapped, isPerm⟩ := List.perm_comp_forall₂ isOrder related
  have isImage : order = originals.map (named targetId) := by
    rw [← List.forall₂_eq_eq_eq, List.forall₂_map_right_iff]
    exact isMapped
  have allNamed : originals.filter (fun target => targetIdOf target = some targetId) =
      originals := by
    rw [List.filter_eq_self]
    intro target member
    exact (List.mem_filter.mp (isPerm.mem_iff.mp member)).2
  refine ⟨originals ++ targets.filter fun target => ¬ targetIdOf target = some targetId, ?_, ?_⟩
  · exact (isPerm.append_right _).trans
      (decide_split (fun target => targetIdOf target = some targetId) targets)
  · have others : (targets.filter fun target => ¬ targetIdOf target = some targetId).filter
        (fun target => targetIdOf target = some targetId) = [] := by
      rw [List.filter_filter, List.filter_eq_nil_iff]
      intro target _
      simp
    unfold reportsOf
    rw [List.filter_append, allNamed, others, List.append_nil, isImage]

theorem settled_of_orderFree (free : OrderFree platform groups)
    (present : reportsOf targetId groups.flatten ≠ []) :
    TimesSettled platform (reportsOf targetId groups.flatten) := by
  by_contra unsettled
  obtain ⟨first, second, chosen, chosen', isFirst, isSecond, isChosen, isChosen', different⟩ :=
    exists_orders_of_not_settled present unsettled
  have selected : ∀ {order : List Target} {target : Target},
      order.Perm (reportsOf targetId groups.flatten) →
      favourite (mixed fromRecon (observationTime platform) richnessOf) order =
        some target →
      ∃ others : List (List Target), others.flatten.Perm groups.flatten ∧
        target ∈ deduplicateNormalizedVehicleTargets platform others ∧
        returnedId target = some targetId := by
    intro order target isOrder isTarget
    obtain ⟨others, isPerm, sameReports⟩ := exists_targets_of_order isOrder
    have isSelected : selectedOf platform [others] targetId = some target := by
      unfold selectedOf
      rw [List.flatten_singleton, sameReports, prefer_eq]
      exact isTarget
    refine ⟨[others], ?_, mem_deduplicate.mpr ⟨targetId, isSelected⟩,
      (report_of_selectedOf isSelected).2⟩
    rw [List.flatten_singleton]
    exact isPerm
  obtain ⟨firstOthers, firstPerm, firstMember, firstId⟩ := selected isFirst isChosen
  obtain ⟨secondOthers, secondPerm, secondMember, secondId⟩ := selected isSecond isChosen'
  obtain ⟨target, isTarget⟩ := selectedOf_of_reports platform present
  have member := mem_deduplicate.mpr ⟨targetId, isTarget⟩
  have isId := (report_of_selectedOf isTarget).2
  have firstSame := (free firstOthers firstPerm target member chosen firstMember
    (isId.trans firstId.symm)).2
  have secondSame := (free secondOthers secondPerm target member chosen' secondMember
    (isId.trans secondId.symm)).2
  exact different (firstSame.symm.trans secondSame)

/-- One best report of every target comes back whatever the order, exactly where the times of the
reports of each target are settled. -/
theorem deduplication_best_iff (platform : Platform) (groups : List (List Target)) :
    ReturnsBest platform groups ∧ OrderFree platform groups ↔
      ∀ targetId, reportsOf targetId groups.flatten ≠ [] →
        TimesSettled platform (reportsOf targetId groups.flatten) := by
  constructor
  · rintro ⟨_, free⟩ targetId present
    exact settled_of_orderFree free present
  · intro settled
    exact ⟨returnsBest_of_settled settled, orderFree_of_settled settled⟩

namespace Sample

def engine : Platform where
  dateParse text := if text = "unknown" then none else Timestamp.read text
  localeCompare left right := if left < right then -1 else if left = right then 0 else 1
  safeInteger := String.toInt?

/-- Three reports of the device, the second one with a time nobody can read. -/
def deviceValues : List Json :=
  [.obj [("target_id", .num "7"), ("observedAt", .str "2026-08-10T00:00:10Z")],
    .obj [("target_id", .num "7"), ("confidence", .num "0.9"), ("observedAt", .str "unknown")],
    .obj [("target_id", .num "7"), ("confidence", .num "0.9"), ("threat", .num "1"),
      ("observedAt", .str "2026-08-10T00:00:05Z")]]

def latest : Target :=
  [("targetId", .str "7"), ("source", .str "device_mcp"),
    ("observedAt", .str "2026-08-10T00:00:10Z")]

def timeless : Target :=
  [("targetId", .str "7"), ("confidence", .num "0.9"), ("source", .str "device_mcp"),
    ("observedAt", .str "unknown")]

def richest : Target :=
  [("targetId", .str "7"), ("confidence", .num "0.9"), ("threat", .num "1"),
    ("source", .str "device_mcp"), ("observedAt", .str "2026-08-10T00:00:05Z")]

theorem selected_richest :
    selectedOf engine [[latest, timeless, richest]] "7" = some richest := by
  have reports : reportsOf "7" [[latest, timeless, richest]].flatten =
      [latest, timeless, richest] := by rfl
  have first : prefer engine timeless latest = true := by decide +kernel
  have second : prefer engine richest timeless = true := by decide +kernel
  unfold selectedOf
  rw [reports]
  simp only [favourite, after, List.foldl_cons, keep, if_pos first,
    if_pos second, List.foldl_nil]

theorem selected_latest :
    selectedOf engine [[timeless, richest, latest]] "7" = some latest := by
  have reports : reportsOf "7" [[timeless, richest, latest]].flatten =
      [timeless, richest, latest] := by rfl
  have first : prefer engine richest timeless = true := by decide +kernel
  have second : prefer engine latest richest = true := by decide +kernel
  unfold selectedOf
  rw [reports]
  simp only [favourite, after, List.foldl_cons, keep, if_pos first,
    if_pos second, List.foldl_nil]

/-- The richest report comes back although the latest one is preferred to it, and another order of
the same reports brings the latest one back. -/
theorem deduplication_not_best :
    normalizeVehicleDeviceTargets engine deviceValues .ugv "2026-08-10T00:00:00.000Z" =
        .ok [latest, timeless, richest] ∧
      ¬ ReturnsBest engine [[latest, timeless, richest]] ∧
      ¬ OrderFree engine [[latest, timeless, richest]] := by
  have preferred : prefer engine latest richest = true := by decide +kernel
  have isRichest := mem_deduplicate.mpr ⟨"7", selected_richest⟩
  have isLatest := mem_deduplicate.mpr ⟨"7", selected_latest⟩
  constructor
  · rfl
  · constructor
    · intro returns
      obtain ⟨targetId, isId, _, unbeaten⟩ := returns.best richest isRichest
      cases isId
      rw [unbeaten latest List.mem_cons_self] at preferred
      cases preferred
    · intro free
      have same : [[timeless, richest, latest]].flatten.Perm
          [[latest, timeless, richest]].flatten :=
        List.perm_append_singleton latest [timeless, richest]
      have times := (free _ same richest isRichest latest isLatest rfl).2
      have differ : (observedTime engine richest).map Prod.snd ≠
          (observedTime engine latest).map Prod.snd := by decide +kernel
      have milliseconds : ∀ target, (observationTime engine target).map
          (fun key => (ofLex key).1) = (observedTime engine target).map Prod.snd := by
        intro target
        unfold observationTime
        rw [Option.map_map]
        rfl
      rw [← milliseconds, ← milliseconds, times] at differ
      exact differ rfl

end Sample

end Targets
end SdarRuntime
