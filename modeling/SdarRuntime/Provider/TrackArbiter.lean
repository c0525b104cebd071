import SdarRuntime.Library.OrderedMap
import Mathlib.Tactic.Tauto

/-!
Who holds the tracks of a vehicle. A task holds a track alone, but for the recon, the lock on a
target and the fire at the same target, which may share the camera. An emergency stop takes
every track it needs from whoever holds it.
-/

namespace SdarRuntime

open OrderedMap

inductive VehicleTrack where
  | chassis
  | eo
  | weapon
  deriving DecidableEq

structure TrackHolder where
  taskId : String
  operationName : String
  targetId : Option String
  deriving DecidableEq

abbrev Owners := OrderedMap VehicleTrack (OrderedMap String TrackHolder)

def isReconOperation (operationName : String) : Bool :=
  operationName == "vehicle_area_recon" || operationName == "vehicle_inspect_area"

def operationTracks : OrderedMap String (List VehicleTrack) :=
  { entries := [
      ("vehicle_get_state", []),
      ("vehicle_get_capabilities", []),
      ("vehicle_get_payload_status", []),
      ("vehicle_get_targets", []),
      ("vehicle_laser_range", []),
      ("vehicle_navigate", [.chassis]),
      ("vehicle_area_recon", [.eo]),
      ("vehicle_inspect_area", [.eo]),
      ("vehicle_track_target", [.eo]),
      ("vehicle_control_gimbal", [.eo]),
      ("vehicle_fire_weapon", [.eo, .weapon]),
      ("vehicle_emergency_stop", [.chassis, .eo, .weapon])]
    distinct := by decide }

structure TrackArbiter where
  allowNavigationWithRecon : Bool := true
  reasonPrefix : String := "UGV"
  operationTracks : OrderedMap String (List VehicleTrack) := SdarRuntime.operationTracks
  allowReconChain : Bool := false

structure Acquisition where
  accepted : Bool
  reasonCode : String
  deriving DecidableEq

/-- What every JavaScript object answers to without members of its own. -/
def inheritedNames : List String :=
  ["constructor", "__defineGetter__", "__defineSetter__", "hasOwnProperty", "__lookupGetter__",
    "__lookupSetter__", "isPrototypeOf", "propertyIsEnumerable", "toString", "valueOf",
    "__proto__", "toLocaleString"]

namespace TrackArbiter

/-- The tracks of an operation; an inherited member of the table cannot be iterated. -/
def tracksOf (arbiter : TrackArbiter) (operationName : String) :
    Except String (List VehicleTrack) :=
  match arbiter.operationTracks.get? operationName with
  | some tracks => .ok tracks
  | none => if operationName ∈ inheritedNames then .error "TypeError" else .ok []

/-- The running recon -> lock -> same-target fire chain may share the camera. -/
def reconChain (holder : TrackHolder) (operationName : String) (targetId : Option String) :
    Bool :=
  targetId.isSome &&
    ((isReconOperation holder.operationName &&
        (operationName == "vehicle_track_target" || operationName == "vehicle_fire_weapon")) ||
      (holder.operationName == "vehicle_track_target" &&
        operationName == "vehicle_fire_weapon" && holder.targetId == targetId))

/-- The tracks some other task holds in a way that excludes the operation. -/
def occupiedFor (arbiter : TrackArbiter) (owners : Owners) (operationName : String)
    (targetId : Option String) (ignoreTaskId : Option String) : List VehicleTrack :=
  (owners.entries.filter fun entry => entry.2.values.any fun holder =>
    some holder.taskId != ignoreTaskId &&
      !(arbiter.allowReconChain && entry.1 == .eo &&
        reconChain holder operationName targetId)).map Prod.fst

def conflictingTrack (arbiter : TrackArbiter) (operationName : String) : Option VehicleTrack :=
  if arbiter.allowNavigationWithRecon then none
  else if operationName = "vehicle_navigate" then some .eo
  else if isReconOperation operationName then some .chassis
  else none

def busy (arbiter : TrackArbiter) (track : VehicleTrack) : String :=
  arbiter.reasonPrefix ++ "_" ++
    (match track with
      | .chassis => "CHASSIS"
      | .eo => "EO"
      | .weapon => "WEAPON") ++ "_TRACK_BUSY"

def add (owners : Owners) (track : VehicleTrack) (holder : TrackHolder) : Owners :=
  owners.set track (((owners.get? track).getD empty).set holder.taskId holder)

def emergencyHolder (taskId : String) : TrackHolder :=
  { taskId := taskId
    operationName := "vehicle_emergency_stop"
    targetId := none }

def acquire (arbiter : TrackArbiter) (owners : Owners) (taskId operationName : String)
    (targetId : Option String) : Except String (Acquisition × Owners) := do
  let tracks ← arbiter.tracksOf operationName
  if operationName = "vehicle_emergency_stop" then
    .ok ({ accepted := true
           reasonCode := arbiter.reasonPrefix ++ "_EMERGENCY_PREEMPTED_TRACKS" },
      tracks.foldl (fun owners track =>
        owners.set track (empty.set taskId (emergencyHolder taskId))) owners)
  else
    let occupied := arbiter.occupiedFor owners operationName targetId (some taskId)
    match ((arbiter.conflictingTrack operationName).toList ++ tracks).find?
      (fun track => track ∈ occupied) with
    | some track => .ok ({ accepted := false, reasonCode := arbiter.busy track }, owners)
    | none =>
      .ok ({ accepted := true
             reasonCode := arbiter.reasonPrefix ++ "_TRACKS_ACQUIRED" },
        tracks.foldl (fun owners track => add owners track
          { taskId := taskId
            operationName := operationName
            targetId := targetId }) owners)

def release (owners : Owners) (taskId : String) : Owners :=
  owners.filterMap fun holders =>
    let remaining := holders.erase taskId
    if remaining.entries = [] then none else some remaining

inductive Request where
  | acquire (taskId operationName : String) (targetId : Option String)
  | release (taskId : String)

def step (arbiter : TrackArbiter) (owners : Owners) : Request → Owners
  | .acquire taskId operationName targetId =>
    match arbiter.acquire owners taskId operationName targetId with
    | .ok (_, after) => after
    | .error _ => owners
  | .release taskId => release owners taskId

def run (arbiter : TrackArbiter) (owners : Owners) (requests : List Request) : Owners :=
  requests.foldl arbiter.step owners

end TrackArbiter

def Owners.holder? (owners : Owners) (track : VehicleTrack) (taskId : String) :
    Option TrackHolder :=
  (owners.get? track).bind fun holders => holders.get? taskId

namespace TrackArbiter

variable {arbiter : TrackArbiter} {owners : Owners}

@[simp]
theorem holder?_set (track other : VehicleTrack) (holders : OrderedMap String TrackHolder)
    (taskId : String) :
    Owners.holder? (owners.set track holders) other taskId =
      if other = track then holders.get? taskId else owners.holder? other taskId := by
  unfold Owners.holder?
  rw [get?_set]
  by_cases same : other = track <;> simp [same]

@[simp]
theorem holder?_add (track other : VehicleTrack) (holder : TrackHolder) (taskId : String) :
    (add owners track holder).holder? other taskId =
      if other = track ∧ taskId = holder.taskId then some holder
      else owners.holder? other taskId := by
  unfold add
  rw [holder?_set]
  by_cases same : other = track
  · subst other
    rw [if_pos rfl, get?_set]
    by_cases isTask : taskId = holder.taskId
    · simp [isTask]
    · rw [if_neg isTask, if_neg (fun both => isTask both.2)]
      unfold Owners.holder?
      cases owners.get? track <;> rfl
  · simp [same]

theorem holder?_preempt (tracks : List VehicleTrack) (taskId other : String)
    (track : VehicleTrack) :
    Owners.holder? (tracks.foldl (fun owners track =>
        owners.set track (empty.set taskId (emergencyHolder taskId))) owners) track
          other =
      if track ∈ tracks then (if other = taskId then some (emergencyHolder taskId) else none)
      else owners.holder? track other := by
  induction tracks generalizing owners with
  | nil => simp
  | cons first rest ih =>
    rw [List.foldl_cons, ih, holder?_set, get?_set]
    by_cases later : track ∈ rest
    · simp [later]
    · by_cases here : track = first <;> simp [later, here]

theorem holder?_grant (tracks : List VehicleTrack) (holder : TrackHolder)
    (track : VehicleTrack) (taskId : String) :
    Owners.holder? (tracks.foldl (fun owners track => add owners track holder) owners) track
        taskId =
      if track ∈ tracks ∧ taskId = holder.taskId then some holder
      else owners.holder? track taskId := by
  induction tracks generalizing owners with
  | nil => simp
  | cons first rest ih =>
    rw [List.foldl_cons, ih, holder?_add]
    by_cases isTask : taskId = holder.taskId
    · by_cases later : track ∈ rest <;> by_cases here : track = first <;>
        simp [isTask, later, here]
    · simp [isTask]

theorem holder?_release (taskId other : String) (track : VehicleTrack) :
    (release owners taskId).holder? track other =
      if other = taskId then none else owners.holder? track other := by
  unfold Owners.holder? release
  rw [get?_filterMap]
  cases found : owners.get? track with
  | none => simp
  | some holders =>
    have erased := get?_erase holders taskId other
    by_cases gone : (holders.erase taskId).entries = []
    · have empty : holders.erase taskId = empty := OrderedMap.ext gone
      rw [empty, get?_empty] at erased
      simp [gone, ← erased]
    · simp [gone, erased]

theorem mem_occupiedFor {operationName : String} {targetId ignoreTaskId : Option String}
    {track : VehicleTrack} :
    track ∈ arbiter.occupiedFor owners operationName targetId ignoreTaskId ↔
      ∃ taskId holder, owners.holder? track taskId = some holder ∧
        some holder.taskId ≠ ignoreTaskId ∧
        ¬(arbiter.allowReconChain = true ∧ track = .eo ∧
          reconChain holder operationName targetId = true) := by
  simp only [occupiedFor, List.mem_map, List.mem_filter, List.any_eq_true, Bool.and_eq_true,
    bne_iff_ne, Bool.not_eq_true', Prod.exists, mem_entries, mem_values,
    Owners.holder?, Option.bind_eq_some_iff]
  constructor
  · rintro ⟨_, holders, ⟨found, holder, ⟨taskId, holds⟩, different, excluded⟩, rfl⟩
    exact ⟨taskId, holder, ⟨holders, found, holds⟩, different, by
      simpa [and_assoc] using excluded⟩
  · rintro ⟨taskId, holder, ⟨holders, found, holds⟩, different, excluded⟩
    exact ⟨track, holders, ⟨found, holder, ⟨taskId, holds⟩, different, by
      simpa [and_assoc] using excluded⟩, rfl⟩

/-- What a request for tracks does: it preempts, it is turned away, or it is granted tracks
nobody holds against it. -/
theorem acquire_cases {taskId operationName : String} {targetId : Option String}
    {answer : Acquisition} {after : Owners}
    (acquired : arbiter.acquire owners taskId operationName targetId = .ok (answer, after)) :
    ∃ tracks, arbiter.tracksOf operationName = .ok tracks ∧
      ((operationName = "vehicle_emergency_stop" ∧ answer.accepted = true ∧
          after = tracks.foldl (fun owners track =>
            owners.set track (empty.set taskId (emergencyHolder taskId))) owners) ∨
        (operationName ≠ "vehicle_emergency_stop" ∧ answer.accepted = false ∧ after = owners) ∨
        (operationName ≠ "vehicle_emergency_stop" ∧ answer.accepted = true ∧
          (∀ track ∈ tracks,
            track ∉ arbiter.occupiedFor owners operationName targetId (some taskId)) ∧
          after = tracks.foldl (fun owners track => add owners track
            { taskId := taskId
              operationName := operationName
              targetId := targetId }) owners)) := by
  unfold acquire at acquired
  cases needed : arbiter.tracksOf operationName with
  | error failure =>
    rw [needed] at acquired
    cases acquired
  | ok tracks =>
    rw [needed] at acquired
    refine ⟨tracks, rfl, ?_⟩
    simp only [bind, Except.bind] at acquired
    by_cases emergency : operationName = "vehicle_emergency_stop"
    · rw [if_pos emergency] at acquired
      cases acquired
      exact .inl ⟨emergency, rfl, rfl⟩
    · rw [if_neg emergency] at acquired
      split at acquired
      · cases acquired
        exact .inr (.inl ⟨emergency, rfl, rfl⟩)
      · rename_i free
        cases acquired
        have unoccupied := List.find?_eq_none.mp free
        refine .inr (.inr ⟨emergency, rfl, fun track member occupied => ?_, rfl⟩)
        exact unoccupied track (List.mem_append_right _ member) (by simpa using occupied)

/-- Every holder is filed under its task, and two holders of one track are two links of the
chain that may share the camera. -/
structure Sound (owners : Owners) : Prop where
  filed : ∀ track taskId holder, owners.holder? track taskId = some holder →
    holder.taskId = taskId
  shared : ∀ track first second firstHolder secondHolder, first ≠ second →
    owners.holder? track first = some firstHolder →
    owners.holder? track second = some secondHolder →
    track = .eo ∧
      (reconChain firstHolder secondHolder.operationName secondHolder.targetId = true ∨
        reconChain secondHolder firstHolder.operationName firstHolder.targetId = true)

theorem sound_empty : Sound empty where
  filed _ _ _ held := nomatch held
  shared _ _ _ _ _ _ held := nomatch held

theorem sound_preempt (sound : Sound owners) (tracks : List VehicleTrack) (taskId : String) :
    Sound (tracks.foldl (fun owners track =>
      owners.set track (empty.set taskId (emergencyHolder taskId))) owners) where
  filed := by
    intro track other holder held
    rw [holder?_preempt] at held
    by_cases taken : track ∈ tracks
    · by_cases isTask : other = taskId
      · rw [if_pos taken, if_pos isTask] at held
        cases held
        exact isTask.symm
      · rw [if_pos taken, if_neg isTask] at held
        cases held
    · rw [if_neg taken] at held
      exact sound.filed track other holder held
  shared := by
    intro track first second firstHolder secondHolder different firstHeld secondHeld
    rw [holder?_preempt] at firstHeld secondHeld
    by_cases taken : track ∈ tracks
    · rw [if_pos taken] at firstHeld secondHeld
      by_cases isFirst : first = taskId
      · have notSecond : second ≠ taskId := fun isSecond => different (isFirst.trans isSecond.symm)
        rw [if_neg notSecond] at secondHeld
        cases secondHeld
      · rw [if_neg isFirst] at firstHeld
        cases firstHeld
    · rw [if_neg taken] at firstHeld secondHeld
      exact sound.shared track first second _ _ different firstHeld secondHeld

theorem sound_release (sound : Sound owners) (taskId : String) :
    Sound (release owners taskId) where
  filed := by
    intro track other holder held
    rw [holder?_release] at held
    by_cases gone : other = taskId
    · rw [if_pos gone] at held
      cases held
    · rw [if_neg gone] at held
      exact sound.filed track other holder held
  shared := by
    intro track first second firstHolder secondHolder different firstHeld secondHeld
    rw [holder?_release] at firstHeld secondHeld
    by_cases firstGone : first = taskId
    · rw [if_pos firstGone] at firstHeld
      cases firstHeld
    by_cases secondGone : second = taskId
    · rw [if_pos secondGone] at secondHeld
      cases secondHeld
    rw [if_neg firstGone] at firstHeld
    rw [if_neg secondGone] at secondHeld
    exact sound.shared track first second _ _ different firstHeld secondHeld

/-- Tracks that are not occupied for a task are granted to it: every other holder of one of
them is a link of the chain before it. -/
theorem sound_grant (sound : Sound owners) {tracks : List VehicleTrack} (holder : TrackHolder)
    (free : ∀ track ∈ tracks, track ∉ arbiter.occupiedFor owners holder.operationName
      holder.targetId (some holder.taskId)) :
    Sound (tracks.foldl (fun owners track => add owners track holder) owners) := by
  have chained : ∀ track other otherHolder, track ∈ tracks → other ≠ holder.taskId →
      owners.holder? track other = some otherHolder →
      track = .eo ∧ reconChain otherHolder holder.operationName holder.targetId = true := by
    intro track other otherHolder member different held
    have filed := sound.filed track other otherHolder held
    have unoccupied := free track member
    rw [mem_occupiedFor] at unoccupied
    by_contra unchained
    apply unoccupied
    refine ⟨other, otherHolder, held, ?_, fun chain => unchained ⟨chain.2.1, chain.2.2⟩⟩
    intro same
    exact different (filed.symm.trans (Option.some.inj same))
  constructor
  · intro track other otherHolder held
    rw [holder?_grant] at held
    by_cases granted : track ∈ tracks ∧ other = holder.taskId
    · rw [if_pos granted] at held
      cases held
      exact granted.2.symm
    · rw [if_neg granted] at held
      exact sound.filed track other otherHolder held
  · intro track first second firstHolder secondHolder different firstHeld secondHeld
    rw [holder?_grant] at firstHeld secondHeld
    by_cases firstGranted : track ∈ tracks ∧ first = holder.taskId
    · have others : ¬(track ∈ tracks ∧ second = holder.taskId) := fun secondGranted =>
        different (firstGranted.2.trans secondGranted.2.symm)
      rw [if_pos firstGranted] at firstHeld
      rw [if_neg others] at secondHeld
      cases firstHeld
      have link := chained track second secondHolder firstGranted.1
        (fun same => different (firstGranted.2.trans same.symm)) secondHeld
      exact ⟨link.1, .inr link.2⟩
    · rw [if_neg firstGranted] at firstHeld
      by_cases secondGranted : track ∈ tracks ∧ second = holder.taskId
      · rw [if_pos secondGranted] at secondHeld
        cases secondHeld
        have link := chained track first firstHolder secondGranted.1
          (fun same => different (same.trans secondGranted.2.symm)) firstHeld
        exact ⟨link.1, .inl link.2⟩
      · rw [if_neg secondGranted] at secondHeld
        exact sound.shared track first second _ _ different firstHeld secondHeld

theorem step_sound (sound : Sound owners) (request : Request) :
    Sound (arbiter.step owners request) := by
  cases request with
  | release taskId => exact sound_release sound taskId
  | acquire taskId operationName targetId =>
    cases acquired : arbiter.acquire owners taskId operationName targetId with
    | error failure =>
      simp only [step, acquired]
      exact sound
    | ok result =>
      obtain ⟨answer, after⟩ := result
      simp only [step, acquired]
      obtain ⟨tracks, -, ⟨-, -, rfl⟩ | ⟨-, -, rfl⟩ | ⟨-, -, free, rfl⟩⟩ :=
        acquire_cases acquired
      · exact sound_preempt sound tracks taskId
      · exact sound
      · exact sound_grant sound _ free

theorem run_sound (sound : Sound owners) (requests : List Request) :
    Sound (arbiter.run owners requests) := by
  induction requests generalizing owners with
  | nil => exact sound
  | cons request rest ih => exact ih (step_sound sound request)

def SoleHolder (owners : Owners) (track : VehicleTrack) : Prop :=
  ∀ first second firstHolder secondHolder, owners.holder? track first = some firstHolder →
    owners.holder? track second = some secondHolder → first = second

inductive ChainRole where
  | recon
  | track
  | fire
  deriving DecidableEq

def chainRole? (holder : TrackHolder) : Option ChainRole :=
  if isReconOperation holder.operationName then some .recon
  else if holder.operationName = "vehicle_track_target" then some .track
  else if holder.operationName = "vehicle_fire_weapon" then some .fire
  else none

/-- The holders of the camera are a chain: one recon, one track and one fire at most, the last
two at the same target. -/
structure HeldAsChain (owners : Owners) : Prop where
  roles : ∀ taskId holder, owners.holder? .eo taskId = some holder →
    (chainRole? holder).isSome = true
  oneEach : ∀ first second firstHolder secondHolder,
    owners.holder? .eo first = some firstHolder →
    owners.holder? .eo second = some secondHolder →
    chainRole? firstHolder = chainRole? secondHolder → first = second
  sameTarget : ∀ tracker shooter trackHolder fireHolder,
    owners.holder? .eo tracker = some trackHolder →
    owners.holder? .eo shooter = some fireHolder →
    chainRole? trackHolder = some .track → chainRole? fireHolder = some .fire →
    trackHolder.targetId = fireHolder.targetId

/-- A link of the chain comes after a recon, or fires at the target that is tracked. -/
theorem reconChain_roles {before after : TrackHolder}
    (chain : reconChain before after.operationName after.targetId = true) :
    (chainRole? before = some .recon ∧ chainRole? after = some .track) ∨
      (chainRole? before = some .recon ∧ chainRole? after = some .fire) ∨
      (chainRole? before = some .track ∧ chainRole? after = some .fire ∧
        before.targetId = after.targetId) := by
  simp only [reconChain, Bool.and_eq_true, Bool.or_eq_true, beq_iff_eq] at chain
  obtain ⟨-, ⟨recon, tracks | fires⟩ | ⟨⟨tracks, fires⟩, same⟩⟩ := chain
  · exact .inl ⟨by simp [chainRole?, recon], by simp [chainRole?, isReconOperation, tracks]⟩
  · exact .inr (.inl ⟨by simp [chainRole?, recon], by simp [chainRole?, isReconOperation, fires]⟩)
  · exact .inr (.inr ⟨by simp [chainRole?, isReconOperation, tracks],
      by simp [chainRole?, isReconOperation, fires], same⟩)

theorem Sound.heldAsChain (sound : Sound owners) (several : ¬SoleHolder owners .eo) :
    HeldAsChain owners := by
  have linked : ∀ first second firstHolder secondHolder, first ≠ second →
      owners.holder? .eo first = some firstHolder →
      owners.holder? .eo second = some secondHolder →
      reconChain firstHolder secondHolder.operationName secondHolder.targetId = true ∨
        reconChain secondHolder firstHolder.operationName firstHolder.targetId = true :=
    fun first second _ _ different firstHeld secondHeld =>
      (sound.shared .eo first second _ _ different firstHeld secondHeld).2
  constructor
  · intro taskId holder held
    -- There are two holders, so one of them is another than this.
    have other : ∃ other otherHolder, taskId ≠ other ∧
        owners.holder? .eo other = some otherHolder := by
      by_contra alone
      apply several
      intro first second firstHolder secondHolder firstHeld secondHeld
      have isFirst : taskId = first := by
        by_contra different
        exact alone ⟨first, firstHolder, different, firstHeld⟩
      have isSecond : taskId = second := by
        by_contra different
        exact alone ⟨second, secondHolder, different, secondHeld⟩
      exact isFirst.symm.trans isSecond
    obtain ⟨other, otherHolder, different, otherHeld⟩ := other
    rcases linked taskId other _ _ different held otherHeld with chain | chain
    · rcases reconChain_roles chain with ⟨role, -⟩ | ⟨role, -⟩ | ⟨role, -⟩ <;> simp [role]
    · rcases reconChain_roles chain with ⟨-, role⟩ | ⟨-, role⟩ | ⟨-, role, -⟩ <;> simp [role]
  · intro first second firstHolder secondHolder firstHeld secondHeld same
    by_contra different
    rcases linked first second _ _ different firstHeld secondHeld with chain | chain <;>
      rcases reconChain_roles chain with ⟨before, after⟩ | ⟨before, after⟩ | ⟨before, after, -⟩ <;>
      simp [before, after] at same
  · intro tracker shooter trackHolder fireHolder trackHeld fireHeld tracks fires
    have different : tracker ≠ shooter := by
      rintro rfl
      rw [trackHeld] at fireHeld
      cases fireHeld
      rw [tracks] at fires
      cases fires
    rcases linked tracker shooter _ _ different trackHeld fireHeld with chain | chain
    · rcases reconChain_roles chain with ⟨before, -⟩ | ⟨before, -⟩ | ⟨-, -, same⟩
      · rw [tracks] at before
        cases before
      · rw [tracks] at before
        cases before
      · exact same
    · rcases reconChain_roles chain with ⟨before, -⟩ | ⟨before, -⟩ | ⟨before, -, -⟩ <;>
        · rw [fires] at before
          cases before

def StoppedBy (arbiter : TrackArbiter) (taskId : String) (owners : Owners) : Prop :=
  ∀ tracks, arbiter.tracksOf "vehicle_emergency_stop" = .ok tracks →
    ∀ track ∈ tracks, owners.holder? track taskId = some (emergencyHolder taskId)

/-- The request neither releases nor replaces what a task holds through an emergency stop. -/
def Request.Leaves (taskId : String) : Request → Prop
  | .acquire other operationName _ =>
    other ≠ taskId ∧ operationName ≠ "vehicle_emergency_stop"
  | .release other => other ≠ taskId

theorem step_stoppedBy {taskId : String} (stopped : StoppedBy arbiter taskId owners)
    {request : Request} (leaves : request.Leaves taskId) :
    StoppedBy arbiter taskId (arbiter.step owners request) := by
  intro tracks needed track member
  have held := stopped tracks needed track member
  cases request with
  | release other =>
    rw [step, holder?_release, if_neg (fun same => leaves same.symm)]
    exact held
  | acquire other operationName targetId =>
    cases acquired : arbiter.acquire owners other operationName targetId with
    | error failure =>
      simp only [step, acquired]
      exact held
    | ok result =>
      obtain ⟨answer, after⟩ := result
      simp only [step, acquired]
      obtain ⟨granted, -, ⟨emergency, -⟩ | ⟨-, -, rfl⟩ | ⟨-, -, -, rfl⟩⟩ :=
        acquire_cases acquired
      · exact absurd emergency leaves.2
      · exact held
      · rw [holder?_grant, if_neg (fun both => leaves.1 both.2.symm)]
        exact held

theorem run_stoppedBy {taskId : String} (stopped : StoppedBy arbiter taskId owners)
    (requests : List Request) (leave : ∀ request ∈ requests, request.Leaves taskId) :
    StoppedBy arbiter taskId (arbiter.run owners requests) := by
  induction requests generalizing owners with
  | nil => exact stopped
  | cons request rest ih =>
    have first := step_stoppedBy stopped (leave request List.mem_cons_self)
    exact ih first fun later member => leave later (List.mem_cons_of_mem _ member)

theorem emergency_stoppedBy (taskId : String) (targetId : Option String) :
    StoppedBy arbiter taskId
      (arbiter.step owners (.acquire taskId "vehicle_emergency_stop" targetId)) := by
  intro tracks needed track member
  have acquired : arbiter.acquire owners taskId "vehicle_emergency_stop" targetId =
      .ok ({ accepted := true
             reasonCode := arbiter.reasonPrefix ++ "_EMERGENCY_PREEMPTED_TRACKS" },
        tracks.foldl (fun owners track =>
          owners.set track (empty.set taskId (emergencyHolder taskId))) owners) := by
    rw [acquire, needed]
    rfl
  simp only [step, acquired]
  rw [holder?_preempt, if_pos member, if_pos rfl]

theorem acquire_stopped {stopped taskId operationName : String} {targetId : Option String}
    {tracks : List VehicleTrack} {track : VehicleTrack} {answer : Acquisition} {after : Owners}
    (held : owners.holder? track stopped = some (emergencyHolder stopped))
    (other : taskId ≠ stopped) (ordinary : operationName ≠ "vehicle_emergency_stop")
    (needed : arbiter.tracksOf operationName = .ok tracks) (needs : track ∈ tracks)
    (acquired : arbiter.acquire owners taskId operationName targetId = .ok (answer, after)) :
    answer.accepted = false := by
  obtain ⟨granted, isGranted, ⟨emergency, -⟩ | ⟨-, rejected, -⟩ | ⟨-, -, free, -⟩⟩ :=
    acquire_cases acquired
  · exact absurd emergency ordinary
  · exact rejected
  · rw [needed] at isGranted
    cases isGranted
    exfalso
    apply free track needs
    rw [mem_occupiedFor]
    refine ⟨stopped, _, held, fun same => other (Option.some.inj same).symm, ?_⟩
    rintro ⟨-, -, chain⟩
    simp [reconChain, emergencyHolder, isReconOperation] at chain

theorem tracksOf_stopped (table : arbiter.operationTracks = SdarRuntime.operationTracks)
    (track : VehicleTrack) :
    ∃ stops, arbiter.tracksOf "vehicle_emergency_stop" = .ok stops ∧ track ∈ stops := by
  refine ⟨[.chassis, .eo, .weapon], ?_, ?_⟩
  · unfold tracksOf
    rw [table]
    rfl
  · cases track <;> simp

/-- In every run, chassis and weapon have one holder at most, and the camera one or a chain. A
rejected request changes nothing. A task that stopped the vehicle holds the tracks of the stop
until it is released, acquires again or another stop preempts it; meanwhile no other task is
granted one of them, and by the table of the operations no other task is granted any track. -/
theorem trackOwnership_exclusive (arbiter : TrackArbiter) (requests : List Request) :
    let owners := arbiter.run empty requests
    (∀ track, track ≠ .eo → SoleHolder owners track) ∧
      (SoleHolder owners .eo ∨ HeldAsChain owners) ∧
      (∀ taskId operationName targetId answer after,
        arbiter.acquire owners taskId operationName targetId = .ok (answer, after) →
        answer.accepted = false → after = owners) ∧
      (∀ stopped targetId during, (∀ request ∈ during, Request.Leaves stopped request) →
        StoppedBy arbiter stopped (arbiter.run owners
          (.acquire stopped "vehicle_emergency_stop" targetId :: during))) ∧
      ∀ stopped taskId operationName targetId tracks track answer after, taskId ≠ stopped →
        operationName ≠ "vehicle_emergency_stop" →
        arbiter.tracksOf operationName = .ok tracks → track ∈ tracks →
        (owners.holder? track stopped = some (emergencyHolder stopped) ∨
          arbiter.operationTracks = SdarRuntime.operationTracks ∧ StoppedBy arbiter stopped owners) →
        arbiter.acquire owners taskId operationName targetId = .ok (answer, after) →
        answer.accepted = false := by
  intro owners
  have sound : Sound owners := run_sound sound_empty requests
  refine ⟨?_, ?_, ?_, ?_, ?_⟩
  · intro track notEo first second firstHolder secondHolder firstHeld secondHeld
    by_contra different
    exact notEo (sound.shared track first second _ _ different firstHeld secondHeld).1
  · by_cases sole : SoleHolder owners .eo
    · exact .inl sole
    · exact .inr (sound.heldAsChain sole)
  · intro taskId operationName targetId answer after acquired rejected
    obtain ⟨tracks, -, ⟨-, accepted, -⟩ | ⟨-, -, same⟩ | ⟨-, accepted, -⟩⟩ :=
      acquire_cases acquired
    · rw [accepted] at rejected
      cases rejected
    · exact same
    · rw [accepted] at rejected
      cases rejected
  · intro stopped targetId during leave
    exact run_stoppedBy (emergency_stoppedBy stopped targetId) during leave
  · intro stopped taskId operationName targetId tracks track answer after other ordinary needed
      needs holds acquired
    have held : owners.holder? track stopped = some (emergencyHolder stopped) := by
      rcases holds with held | ⟨table, stoppedBy⟩
      · exact held
      · obtain ⟨stops, isStops, member⟩ := tracksOf_stopped table track
        exact stoppedBy stops isStops track member
    exact acquire_stopped held other ordinary needed needs acquired

end TrackArbiter

end SdarRuntime
