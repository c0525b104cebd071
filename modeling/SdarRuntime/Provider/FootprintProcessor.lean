import SdarRuntime.Library.Histories
import SdarRuntime.Provider.FactProjection
import Mathlib.Data.List.Chain

/-!
The projection of footprint facts: which ground the camera of a reconnaissance sees. A fact becomes
the next version of one artifact, and the Context names that version while the view lasts.
-/

namespace SdarRuntime

namespace Footprint

open FactProjection OrderedMap Datetime Histories Except

inductive Quality where
  | observed
  | nominal
  | estimated
  deriving DecidableEq

inductive SourceKind where
  | deviceReported
  | calibratedModel
  | configuredModel
  deriving DecidableEq

def SourceKind.text : SourceKind → String
  | deviceReported => "device_reported"
  | calibratedModel => "calibrated_model"
  | configuredModel => "configured_model"

inductive Ending where
  | paused
  | ended
  | cameraFault
  deriving DecidableEq

def Ending.text : Ending → String
  | paused => "paused"
  | ended => "ended"
  | cameraFault => "camera_fault"

def Ending.reasonCode : Ending → String
  | paused => "FOOTPRINT_PAUSED"
  | ended => "FOOTPRINT_ENDED"
  | cameraFault => "FOOTPRINT_CAMERA_FAULT"

structure View (platform : Platform) where
  quality : Quality
  sourceKind : SourceKind
  modelRef : Option String
  validUntil : Option (Datetime platform)
  content : Json

inductive ViewState (platform : Platform) where
  | active (view : View platform)
  | ended (ending : Ending)

structure ReconFootprintFact (platform : Platform) where
  missionId : String
  areaRevision : Nat
  sourceRecordId : String
  sourceRevision : Nat
  observedAt : Datetime platform
  state : ViewState platform

inductive Availability (platform : Platform) where
  | available (validUntil : Option (Datetime platform)) (areaRevision : Nat) (quality : Quality)
      (model : Option String) (content : Json)
  | unavailable (reasonCode : String)

structure FootprintArtifact (platform : Platform) where
  artifactType : String
  revision : Nat
  semantics : String
  lifecycle : String
  producer : String
  sourceRecordRef : String
  sourceRevision : String
  method : String
  createdAt : Datetime platform
  updatedAt : Datetime platform
  availability : Availability platform

structure Schemas (platform : Platform) where
  geometry : Json → Bool
  taskArtifact : FootprintArtifact platform → Bool

structure Version (platform : Platform) where
  artifact : FootprintArtifact platform
  fact : ReconFootprintFact platform

structure Store (platform : Platform) (Properties : Type) where
  context : Option (TaskBusinessContext platform Properties)
  areas : OrderedMap Nat (AreaArtifact platform)
  versions : List (Version platform)

section

variable {platform : Platform} {Properties : Type}

def ReconFootprintFact.isActive (fact : ReconFootprintFact platform) : Bool :=
  match fact.state with
  | .active _ => true
  | .ended _ => false

def FootprintArtifact.isAvailable (artifact : FootprintArtifact platform) : Bool :=
  match artifact.availability with
  | .available .. => true
  | .unavailable _ => false

def Store.latest (store : Store platform Properties) : Option (FootprintArtifact platform) :=
  store.versions.getLast?.map Version.artifact

def number (sourceRevision : String) : Nat := DecimalText.value sourceRevision.toList

def View.valid (schemas : Schemas platform) (view : View platform) : Bool :=
  view.modelRef.all Business.isIdentifier && schemas.geometry view.content &&
    !(view.quality == .observed && view.sourceKind != .deviceReported) &&
    !(view.sourceKind == .configuredModel && view.quality != .estimated) &&
    !(view.quality != .observed && (view.sourceKind == .deviceReported || view.modelRef.isNone)) &&
    !(view.quality != .observed &&
      ((view.content.field? "kind").bind Json.text?) == some "local_geometry" &&
      (view.content.field? "transformRef").isNone)

def ReconFootprintFact.valid (schemas : Schemas platform) (fact : ReconFootprintFact platform) :
    Bool :=
  Business.isIdentifier fact.missionId && 1 ≤ fact.areaRevision &&
    Business.isIdentifier fact.sourceRecordId && 1 ≤ fact.sourceRevision &&
    match fact.state with
    | .active view => view.valid schemas
    | .ended _ => true

def admission (schemas : Schemas platform) (execution : ProviderExecution platform)
    (store : Store platform Properties) (fact : ReconFootprintFact platform) :
    Except String (TaskBusinessContext platform Properties) := do
  Except.refuse (!fact.valid schemas) "ZodError"
  assertExecution "FOOTPRINT_EXECUTION_BINDING_INVALID" "FOOTPRINT_TASK_TERMINAL" execution
    fact.missionId fact.observedAt
  let current ← openContext "FOOTPRINT_CONTEXT_UNAVAILABLE" store.context
  let (_, areaRevision) ← effectiveArea "FOOTPRINT_EFFECTIVE_AREA_REF_INVALID"
    "FOOTPRINT_AREA_REVISION_INVALID" execution current.activeRefs store.areas
  Except.refuse (fact.areaRevision != areaRevision) "FOOTPRINT_AREA_REVISION_MISMATCH"
  return current

inductive Verdict where
  | duplicate
  | next
  deriving DecidableEq

/-- The latest version has the fact's source revision: a repetition, or an invalidation that goes
on to the next check. -/
def judgeSameSource (fact : ReconFootprintFact platform) (previous : FootprintArtifact platform) :
    Except String Verdict :=
  if previous.sourceRecordRef ≠ fact.sourceRecordId then
    .error "FOOTPRINT_SOURCE_VERSION_CONFLICT"
  else
    match fact.state, previous.availability with
    | .ended _, .unavailable _ => .ok .duplicate
    | .ended _, .available .. => .ok .next
    | .active view, .available _ _ quality _ content =>
      if Json.same content view.content && quality == view.quality then .ok .duplicate
      else .error "FOOTPRINT_SOURCE_VERSION_CONFLICT"
    | .active _, .unavailable _ => .error "FOOTPRINT_SOURCE_VERSION_CONFLICT"

/-- An invalidation needs a view to end, and views are half a second apart. -/
def judgeState (fact : ReconFootprintFact platform)
    (previous : Option (FootprintArtifact platform)) : Verdict :=
  match fact.state, previous with
  | .ended _, none => .duplicate
  | .ended _, some previous => if previous.isAvailable then .next else .duplicate
  | .active _, none => .next
  | .active _, some previous =>
    if previous.isAvailable ∧
        platform.millisecondsBetween fact.observedAt.text previous.updatedAt.text < 500 then
      .duplicate
    else .next

def judge (fact : ReconFootprintFact platform) (previous : Option (FootprintArtifact platform)) :
    Except String Verdict :=
  match previous with
  | none => .ok (judgeState fact none)
  | some artifact =>
    if artifact.artifactType ≠ "recon.current_footprint" then
      .error "FOOTPRINT_ARTIFACT_ID_CONFLICT"
    else if fact.observedAt.compare artifact.updatedAt < 0 then .ok .duplicate
    else if fact.sourceRevision < number artifact.sourceRevision then .ok .duplicate
    else if number artifact.sourceRevision = fact.sourceRevision then
      match judgeSameSource fact artifact with
      | .ok .next => .ok (judgeState fact previous)
      | settled => settled
    else .ok (judgeState fact previous)

def currentFootprint (revision : Nat) : Business.BusinessObjectRef :=
  { kind := .artifact
    id := "recon-current-footprint"
    revision }

def artifactOf (fact : ReconFootprintFact platform)
    (previous : Option (FootprintArtifact platform)) : FootprintArtifact platform :=
  { artifactType := "recon.current_footprint"
    revision := (previous.map FootprintArtifact.revision).getD 0 + 1
    semantics :=
      match fact.state with
      | .active view => if view.quality = .observed then "observed" else "derived"
      | .ended _ => "derived"
    lifecycle :=
      match fact.state with
      | .active _ => "active"
      | .ended _ => "invalidated"
    producer :=
      match fact.state with
      | .active view => if view.sourceKind = .deviceReported then "device" else "provider"
      | .ended _ => "provider"
    sourceRecordRef := fact.sourceRecordId
    sourceRevision := toString fact.sourceRevision
    method :=
      match fact.state with
      | .active view => view.sourceKind.text
      | .ended ending => ending.text
    createdAt := (previous.map FootprintArtifact.createdAt).getD fact.observedAt
    updatedAt := fact.observedAt
    availability :=
      match fact.state with
      | .active view =>
        .available view.validUntil fact.areaRevision view.quality view.modelRef view.content
      | .ended ending => .unavailable ending.reasonCode }

def nextContext (current : TaskBusinessContext platform Properties)
    (fact : ReconFootprintFact platform) (revision : Nat) :
    TaskBusinessContext platform Properties :=
  { current with
    contextRevision := current.contextRevision + 1
    artifactRefs := current.artifactRefs ++ [currentFootprint revision]
    activeRefs :=
      if fact.isActive then current.activeRefs.set "currentFootprint" (currentFootprint revision)
      else current.activeRefs.erase "currentFootprint"
    updatedAt := latest fact.observedAt current.updatedAt }

structure Change (platform : Platform) (Properties : Type) where
  context : TaskBusinessContext platform Properties
  version : Version platform

def changeOf (store : Store platform Properties)
    (current : TaskBusinessContext platform Properties) (fact : ReconFootprintFact platform) :
    Change platform Properties :=
  let artifact := artifactOf fact store.latest
  { context := nextContext current fact artifact.revision
    version := { artifact, fact } }

inductive Outcome where
  | committed
  | duplicate
  deriving DecidableEq

abbrev Conclusion (platform : Platform) (Properties : Type) :=
  Attempts.Decision (Change platform Properties) Outcome

def conclude (schemas : Schemas platform) (execution : ProviderExecution platform)
    (fact : ReconFootprintFact platform) (store : Store platform Properties) :
    Except String (Conclusion platform Properties) := do
  let current ← admission schemas execution store fact
  match ← judge fact store.latest with
  | .duplicate => return .answer .duplicate
  | .next =>
    Except.refuse (!schemas.taskArtifact (artifactOf fact store.latest)) "ZodError"
    return .change (changeOf store current fact) .committed

def Store.write (store : Store platform Properties) (change : Change platform Properties) :
    Store platform Properties :=
  { store with
    context := some change.context
    versions := store.versions ++ [change.version] }

/-- One attempt of `apply`. A call makes up to three while others are faster. -/
def attempt (schemas : Schemas platform) (execution : ProviderExecution platform)
    (store : Store platform Properties) (fact : ReconFootprintFact platform)
    (fate : Attempts.Fate) : Attempts.Ended Outcome × Store platform Properties :=
  Attempts.attempt Store.write (conclude schemas execution fact) store fate

inductive Entry (platform : Platform) where
  | footprint (fact : ReconFootprintFact platform) (fate : Attempts.Fate)
  /-- Another processor commits on the Context. -/
  | other (name : String) (ref : Option Business.BusinessObjectRef) (at' : Datetime platform)

/-- The references of this processor and of the area in effect are not the others'. -/
def otherContext (current : TaskBusinessContext platform Properties) (name : String)
    (ref : Option Business.BusinessObjectRef) (at' : Datetime platform) :
    TaskBusinessContext platform Properties :=
  { current with
    contextRevision := current.contextRevision + 1
    activeRefs :=
      if name = "currentFootprint" ∨ name = "reconEffectiveArea" then current.activeRefs
      else match ref with
        | some ref => current.activeRefs.set name ref
        | none => current.activeRefs.erase name
    updatedAt := latest at' current.updatedAt }

def next (schemas : Schemas platform) (execution : ProviderExecution platform)
    (store : Store platform Properties) : Entry platform → Store platform Properties
  | .footprint fact fate => (attempt schemas execution store fact fate).2
  | .other name ref at' =>
    { store with context := store.context.map fun current => otherContext current name ref at' }

def initial (context : TaskBusinessContext platform Properties)
    (areas : OrderedMap Nat (AreaArtifact platform)) : Store platform Properties :=
  { context := some { context with activeRefs := context.activeRefs.erase "currentFootprint" }
    areas
    versions := [] }

def currentRef (store : Store platform Properties) : Option Business.BusinessObjectRef :=
  store.latest.bind fun artifact =>
    if artifact.isAvailable then some (currentFootprint artifact.revision) else none

/-- One version does not go behind another, in time or in its source. -/
def Follows (earlier later : Version platform) : Prop :=
  earlier.artifact.updatedAt.compare later.artifact.updatedAt ≤ 0 ∧
    number earlier.artifact.sourceRevision ≤ number later.artifact.sourceRevision

def Apart (earlier later : Version platform) : Prop :=
  earlier.artifact.isAvailable = true → later.artifact.isAvailable = true →
    500 ≤ platform.millisecondsBetween later.artifact.updatedAt.text
      earlier.artifact.updatedAt.text

structure Lawful (schemas : Schemas platform) (execution : ProviderExecution platform)
    (store : Store platform Properties) : Prop where
  referenced : ∀ context, store.context = some context →
    context.activeRefs.get? "currentFootprint" = currentRef store
  forward : store.versions.Pairwise Follows
  apart : store.versions.IsChain Apart
  repeatable : ∀ version ∈ store.versions, ∀ fate,
    attempt schemas execution store version.fact fate = (.done .duplicate, store)

/-- An invalidation that is about to be stored has the time and the source revision of the view it
ends. -/
def EndsAtOnce (schemas : Schemas platform) (execution : ProviderExecution platform)
    (store : Store platform Properties) : Entry platform → Prop
  | .other .. => False
  | .footprint fact fate =>
    fate = .stored ∧ (admission schemas execution store fact).isOk = true ∧
      schemas.taskArtifact (artifactOf fact store.latest) = true ∧ fact.isActive = false ∧
      ∃ previous, store.latest = some previous ∧ previous.isAvailable = true ∧
        previous.sourceRecordRef = fact.sourceRecordId ∧
        fact.observedAt.compare previous.updatedAt = 0 ∧
        number previous.sourceRevision = fact.sourceRevision

variable {schemas : Schemas platform} {execution : ProviderExecution platform}
  {store : Store platform Properties} {fact : ReconFootprintFact platform}

variable {current : TaskBusinessContext platform Properties}

theorem admission_eq_ok :
    admission schemas execution store fact = .ok current ↔
      fact.valid schemas = true ∧
      assertExecution "FOOTPRINT_EXECUTION_BINDING_INVALID" "FOOTPRINT_TASK_TERMINAL" execution
        fact.missionId fact.observedAt = .ok () ∧
      store.context = some current ∧ current.status ≠ .finalized ∧
      ∃ area, effectiveArea "FOOTPRINT_EFFECTIVE_AREA_REF_INVALID"
        "FOOTPRINT_AREA_REVISION_INVALID" execution current.activeRefs store.areas =
          .ok (area, (fact.areaRevision : Int)) := by
  unfold admission
  constructor
  · intro admitted
    obtain ⟨_, isValid, admitted⟩ := bind_eq_ok.mp admitted
    obtain ⟨_, bound, admitted⟩ := bind_eq_ok.mp admitted
    obtain ⟨context, isOpen, admitted⟩ := bind_eq_ok.mp admitted
    obtain ⟨⟨area, areaRevision⟩, inEffect, admitted⟩ := bind_eq_ok.mp admitted
    obtain ⟨_, sameArea, admitted⟩ := bind_eq_ok.mp admitted
    rw [refuse_eq_ok] at isValid sameArea
    have sameRevision : (fact.areaRevision : Int) = areaRevision := by simpa using sameArea
    cases admitted
    obtain ⟨isContext, notOver⟩ := openContext_eq_ok.mp isOpen
    rw [sameRevision]
    exact ⟨by simpa using isValid, bound, isContext, notOver, area, inEffect⟩
  · rintro ⟨isValid, bound, isContext, notOver, area, inEffect⟩
    have isOpen : openContext "FOOTPRINT_CONTEXT_UNAVAILABLE" store.context = .ok current :=
      openContext_eq_ok.mpr ⟨isContext, notOver⟩
    rw [bind_eq_ok]
    refine ⟨⟨⟩, refuse_eq_ok.mpr (by simp [isValid]), ?_⟩
    rw [bound, isOpen]
    simp only [bind, Except.bind]
    rw [inEffect]
    simp [Except.refuse, pure, Except.pure]

theorem admission_isOk {other : Store platform Properties}
    {current changed : TaskBusinessContext platform Properties}
    (isContext : store.context = some current) (isOther : other.context = some changed)
    (sameStatus : changed.status = current.status)
    (sameArea : changed.activeRefs.get? "reconEffectiveArea" =
      current.activeRefs.get? "reconEffectiveArea")
    (sameAreas : other.areas = store.areas)
    (admitted : (admission schemas execution store fact).isOk = true) :
    (admission schemas execution other fact).isOk = true := by
  cases result : admission schemas execution store fact with
  | error error =>
    rw [result] at admitted
    cases admitted
  | ok context =>
    obtain ⟨isValid, bound, isCurrent, notOver, area, inEffect⟩ := admission_eq_ok.mp result
    rw [isContext] at isCurrent
    cases isCurrent
    have admittedAgain : admission schemas execution other fact = .ok changed := by
      rw [admission_eq_ok, sameStatus, sameAreas]
      refine ⟨isValid, bound, isOther, notOver, area, ?_⟩
      unfold effectiveArea at inEffect ⊢
      rw [sameArea]
      exact inEffect
    rw [admittedAgain]
    rfl

theorem number_toString (revision : Nat) : number (toString revision) = revision :=
  DecimalText.value_toString revision

theorem artifactOf_isAvailable (fact : ReconFootprintFact platform)
    (previous : Option (FootprintArtifact platform)) :
    (artifactOf fact previous).isAvailable = fact.isActive := by
  unfold FootprintArtifact.isAvailable ReconFootprintFact.isActive artifactOf
  cases fact.state with
  | active view => rfl
  | ended ending => rfl

/-- What goes on to be the next version: it is not behind the latest one, and shares its source
revision only to end a view of the same record. -/
structure Succeeds (fact : ReconFootprintFact platform) (previous : FootprintArtifact platform) :
    Prop where
  notEarlier : previous.updatedAt.key ≤ fact.observedAt.key
  notOlder : number previous.sourceRevision ≤ fact.sourceRevision
  ends : number previous.sourceRevision = fact.sourceRevision →
    previous.sourceRecordRef = fact.sourceRecordId ∧ fact.isActive = false ∧
      previous.isAvailable = true
  apart : fact.isActive = true → previous.isAvailable = true →
    500 ≤ platform.millisecondsBetween fact.observedAt.text previous.updatedAt.text

variable {previous : FootprintArtifact platform}

theorem judgeState_next (goesOn : judgeState fact (some previous) = .next) :
    fact.isActive = true → previous.isAvailable = true →
      500 ≤ platform.millisecondsBetween fact.observedAt.text previous.updatedAt.text := by
  intro isActive isAvailable
  cases state : fact.state with
  | ended ending =>
    rw [ReconFootprintFact.isActive, state] at isActive
    cases isActive
  | active view =>
    simp only [judgeState, state] at goesOn
    by_contra close
    have soon : previous.isAvailable = true ∧
        platform.millisecondsBetween fact.observedAt.text previous.updatedAt.text < 500 :=
      ⟨isAvailable, lt_of_not_ge close⟩
    simp only [soon.1, soon.2, and_self, if_true, reduceCtorEq] at goesOn

theorem judgeSameSource_next (goesOn : judgeSameSource fact previous = .ok .next) :
    previous.sourceRecordRef = fact.sourceRecordId ∧ fact.isActive = false ∧
      previous.isAvailable = true := by
  unfold judgeSameSource at goesOn
  unfold ReconFootprintFact.isActive FootprintArtifact.isAvailable
  by_cases otherRecord : previous.sourceRecordRef ≠ fact.sourceRecordId
  · simp only [if_pos otherRecord, reduceCtorEq] at goesOn
  · rw [if_neg otherRecord] at goesOn
    have sameRecord := not_not.mp otherRecord
    cases state : fact.state with
    | active view =>
      cases availability : previous.availability with
      | available validUntil areaRevision quality model content =>
        simp only [state, availability] at goesOn
        by_cases repeated : (Json.same content view.content && quality == view.quality) = true
        · simp only [repeated, if_true, Except.ok.injEq, reduceCtorEq] at goesOn
        · simp only [repeated, if_false, reduceCtorEq] at goesOn
      | unavailable reasonCode => simp only [state, availability, reduceCtorEq] at goesOn
    | ended ending =>
      cases availability : previous.availability with
      | available validUntil areaRevision quality model content => exact ⟨sameRecord, rfl, rfl⟩
      | unavailable reasonCode =>
        simp only [state, availability, Except.ok.injEq, reduceCtorEq] at goesOn

theorem judge_next (goesOn : judge fact (some previous) = .ok .next) : Succeeds fact previous := by
  simp only [judge] at goesOn
  by_cases otherType : previous.artifactType ≠ "recon.current_footprint"
  · simp only [if_pos otherType, reduceCtorEq] at goesOn
  · rw [if_neg otherType] at goesOn
    by_cases earlier : fact.observedAt.compare previous.updatedAt < 0
    · simp only [if_pos earlier, Except.ok.injEq, reduceCtorEq] at goesOn
    · rw [if_neg earlier] at goesOn
      rw [compare_lt, not_lt] at earlier
      by_cases older : fact.sourceRevision < number previous.sourceRevision
      · simp only [if_pos older, Except.ok.injEq, reduceCtorEq] at goesOn
      · rw [if_neg older] at goesOn
        by_cases same : number previous.sourceRevision = fact.sourceRevision
        · rw [if_pos same] at goesOn
          cases settled : judgeSameSource fact previous with
          | error error => simp only [settled, reduceCtorEq] at goesOn
          | ok verdict =>
            cases verdict with
            | duplicate => simp only [settled, Except.ok.injEq, reduceCtorEq] at goesOn
            | next =>
              simp only [settled, Except.ok.injEq] at goesOn
              exact {
                notEarlier := earlier
                notOlder := Nat.le_of_not_lt older
                ends := fun _ => judgeSameSource_next settled
                apart := judgeState_next goesOn }
        · rw [if_neg same, Except.ok.injEq] at goesOn
          exact {
            notEarlier := earlier
            notOlder := Nat.le_of_not_lt older
            ends := fun equal => absurd equal same
            apart := judgeState_next goesOn }

theorem judge_behind (sameType : previous.artifactType = "recon.current_footprint")
    (behind : fact.observedAt.key < previous.updatedAt.key ∨
      fact.sourceRevision < number previous.sourceRevision) :
    judge fact (some previous) = .ok .duplicate := by
  simp only [judge, sameType, ne_eq, not_true_eq_false, if_false]
  by_cases earlier : fact.observedAt.compare previous.updatedAt < 0
  · rw [if_pos earlier]
  · rw [if_neg earlier]
    rw [compare_lt] at earlier
    have older := behind.resolve_left earlier
    rw [if_pos older]

theorem judge_own (previous : Option (FootprintArtifact platform)) :
    judge fact (some (artifactOf fact previous)) = .ok .duplicate := by
  have sameNumber : number (artifactOf fact previous).sourceRevision = fact.sourceRevision :=
    number_toString fact.sourceRevision
  have sameTime : ¬ fact.observedAt.compare (artifactOf fact previous).updatedAt < 0 := by
    rw [compare_lt]
    exact lt_irrefl fact.observedAt.key
  have repeated : judgeSameSource fact (artifactOf fact previous) = .ok .duplicate := by
    unfold judgeSameSource artifactOf
    cases fact.state with
    | active view => simp [Json.same]
    | ended ending => simp
  have sameType : (artifactOf fact previous).artifactType = "recon.current_footprint" := rfl
  simp only [judge, sameType, ne_eq, not_true_eq_false, if_false]
  rw [if_neg sameTime, if_neg (by omega), if_pos sameNumber, repeated]

/-- An invalidation of the same record ends the view also with its source revision. -/
theorem judge_ending (sameType : previous.artifactType = "recon.current_footprint")
    (isOver : fact.isActive = false) (isAvailable : previous.isAvailable = true)
    (sameRecord : previous.sourceRecordRef = fact.sourceRecordId)
    (sameTime : fact.observedAt.key = previous.updatedAt.key)
    (sameSource : number previous.sourceRevision = fact.sourceRevision) :
    judge fact (some previous) = .ok .next := by
  have notEarlier : ¬ fact.observedAt.compare previous.updatedAt < 0 := by
    rw [compare_lt, sameTime]
    exact lt_irrefl _
  simp only [judge, sameType, ne_eq, not_true_eq_false, if_false]
  rw [if_neg notEarlier, if_neg (by omega), if_pos sameSource]
  cases state : fact.state with
  | active view => simp only [ReconFootprintFact.isActive, state, Bool.true_eq_false] at isOver
  | ended ending =>
    have goesOn : judgeState fact (some previous) = .next := by
      simp only [judgeState, state, isAvailable, if_true]
    cases availability : previous.availability with
    | unavailable reasonCode =>
      simp only [FootprintArtifact.isAvailable, availability, Bool.false_eq_true] at isAvailable
    | available validUntil areaRevision quality model content =>
      have ends : judgeSameSource fact previous = .ok .next := by
        simp only [judgeSameSource, sameRecord, ne_eq, not_true_eq_false, if_false, state,
          availability]
      rw [ends]
      simp only [goesOn]

/-- A view that was ended by its own source revision conflicts with what ended it. -/
theorem judge_ended (sameType : previous.artifactType = "recon.current_footprint")
    (isActive : fact.isActive = true) (isOver : previous.isAvailable = false)
    (sameTime : fact.observedAt.key = previous.updatedAt.key)
    (sameSource : number previous.sourceRevision = fact.sourceRevision) :
    judge fact (some previous) = .error "FOOTPRINT_SOURCE_VERSION_CONFLICT" := by
  have notEarlier : ¬ fact.observedAt.compare previous.updatedAt < 0 := by
    rw [compare_lt, sameTime]
    exact lt_irrefl _
  have conflicts : judgeSameSource fact previous = .error "FOOTPRINT_SOURCE_VERSION_CONFLICT" := by
    unfold judgeSameSource
    by_cases otherRecord : previous.sourceRecordRef ≠ fact.sourceRecordId
    · rw [if_pos otherRecord]
    · rw [if_neg otherRecord]
      unfold ReconFootprintFact.isActive at isActive
      unfold FootprintArtifact.isAvailable at isOver
      cases state : fact.state with
      | ended ending => simp only [state, Bool.false_eq_true] at isActive
      | active view =>
        cases availability : previous.availability with
        | available validUntil areaRevision quality model content =>
          simp only [availability, Bool.true_eq_false] at isOver
        | unavailable reasonCode => rfl
  simp only [judge, sameType, ne_eq, not_true_eq_false, if_false]
  rw [if_neg notEarlier, if_neg (by omega), if_pos sameSource, conflicts]

structure Recorded (schemas : Schemas platform) (execution : ProviderExecution platform)
    (store : Store platform Properties) : Prop where
  made : ∀ version ∈ store.versions, ∃ previous, version.artifact = artifactOf version.fact previous
  admitted : ∀ version ∈ store.versions, (admission schemas execution store version.fact).isOk = true
  present : ∃ context, store.context = some context
  referenced : ∀ context, store.context = some context →
    context.activeRefs.get? "currentFootprint" = currentRef store
  forward : store.versions.Pairwise Follows
  apart : store.versions.IsChain Apart

variable {change : Change platform Properties} {outcome : Outcome}

theorem conclude_change
    (concluded : conclude schemas execution fact store = .ok (.change change outcome)) :
    ∃ current, admission schemas execution store fact = .ok current ∧
      judge fact store.latest = .ok .next ∧
      schemas.taskArtifact (artifactOf fact store.latest) = true ∧
      change = changeOf store current fact := by
  unfold conclude at concluded
  obtain ⟨current, admitted, concluded⟩ := bind_eq_ok.mp concluded
  obtain ⟨verdict, judged, concluded⟩ := bind_eq_ok.mp concluded
  cases verdict with
  | duplicate => cases concluded
  | next =>
    obtain ⟨_, accepted, concluded⟩ := bind_eq_ok.mp concluded
    rw [refuse_eq_ok] at accepted
    cases concluded
    exact ⟨current, admitted, judged, by simpa using accepted, rfl⟩

theorem conclude_next (admitted : admission schemas execution store fact = .ok current)
    (judged : judge fact store.latest = .ok .next)
    (accepted : schemas.taskArtifact (artifactOf fact store.latest) = true) :
    conclude schemas execution fact store = .ok (.change (changeOf store current fact) .committed) :=
    by
  unfold conclude
  rw [admitted]
  simp only [bind, Except.bind]
  rw [judged]
  simp [Except.refuse, accepted, pure, Except.pure]

theorem conclude_duplicate (admitted : (admission schemas execution store fact).isOk = true)
    (judged : judge fact store.latest = .ok .duplicate) :
    conclude schemas execution fact store = .ok (.answer .duplicate) := by
  unfold conclude
  cases result : admission schemas execution store fact with
  | error error =>
    rw [result] at admitted
    cases admitted
  | ok current =>
    simp only [bind, Except.bind]
    rw [judged]
    rfl

theorem conclude_error {error : String} (admitted : (admission schemas execution store fact).isOk = true)
    (judged : judge fact store.latest = .error error) :
    conclude schemas execution fact store = .error error := by
  unfold conclude
  cases result : admission schemas execution store fact with
  | error error =>
    rw [result] at admitted
    cases admitted
  | ok current =>
    simp only [bind, Except.bind]
    rw [judged]

theorem latest_write (change : Change platform Properties) :
    (store.write change).latest = some change.version.artifact := by
  simp [Store.latest, Store.write]

variable {version : Version platform}

theorem le_latest (recorded : Recorded schemas execution store) (member : version ∈ store.versions)
    {artifact : FootprintArtifact platform} (isLatest : store.latest = some artifact) :
    version.artifact.updatedAt.key ≤ artifact.updatedAt.key ∧
      number version.artifact.sourceRevision ≤ number artifact.sourceRevision := by
  obtain ⟨last, isLast, rfl⟩ := Option.map_eq_some_iff.mp isLatest
  obtain ⟨earlier, split⟩ := List.getLast?_eq_some_iff.mp isLast
  have forward := recorded.forward
  rw [split] at member forward
  rcases List.mem_append.mp member with isEarlier | isLast
  · have follows := (List.pairwise_append.mp forward).2.2 version isEarlier last List.mem_cons_self
    exact ⟨compare_le.mp follows.1, follows.2⟩
  · rw [List.mem_singleton.mp isLast]
    exact ⟨le_refl _, Nat.le_refl _⟩

theorem nextContext_other (current : TaskBusinessContext platform Properties)
    (fact : ReconFootprintFact platform) (revision : Nat) :
    (nextContext current fact revision).activeRefs.get? "reconEffectiveArea" =
      current.activeRefs.get? "reconEffectiveArea" := by
  unfold nextContext
  by_cases isActive : fact.isActive = true
  · simp only [isActive, if_true]
    exact get?_set_ne _ _ (by decide)
  · simp only [isActive, if_false, Bool.false_eq_true]
    rw [get?_erase, if_neg (by decide)]

theorem nextContext_footprint (current : TaskBusinessContext platform Properties)
    (fact : ReconFootprintFact platform) (revision : Nat) :
    (nextContext current fact revision).activeRefs.get? "currentFootprint" =
      if fact.isActive then some (currentFootprint revision) else none := by
  unfold nextContext
  by_cases isActive : fact.isActive = true
  · simp only [isActive, if_true]
    exact get?_set_self _ _ _
  · simp only [isActive, if_false, Bool.false_eq_true]
    rw [get?_erase, if_pos rfl]

theorem write_recorded (recorded : Recorded schemas execution store)
    (concluded : conclude schemas execution fact store = .ok (.change change outcome)) :
    Recorded schemas execution (store.write change) := by
  obtain ⟨current, admitted, judged, -, rfl⟩ := conclude_change concluded
  obtain ⟨-, -, isContext, -⟩ := admission_eq_ok.mp admitted
  have stillAdmitted : ∀ other : ReconFootprintFact platform,
      (admission schemas execution store other).isOk = true →
      (admission schemas execution (store.write (changeOf store current fact)) other).isOk = true :=
    fun other => admission_isOk isContext rfl rfl (nextContext_other current fact _) rfl
  have succeeds : ∀ previous, store.latest = some previous → Succeeds fact previous := by
    intro previous isLatest
    rw [isLatest] at judged
    exact judge_next judged
  constructor
  · intro version member
    rcases List.mem_append.mp member with isEarlier | isNew
    · exact recorded.made version isEarlier
    · rw [List.mem_singleton.mp isNew]
      exact ⟨store.latest, rfl⟩
  · intro version member
    rcases List.mem_append.mp member with isEarlier | isNew
    · exact stillAdmitted version.fact (recorded.admitted version isEarlier)
    · rw [List.mem_singleton.mp isNew]
      apply stillAdmitted
      change (admission schemas execution store fact).isOk = true
      rw [admitted]
      rfl
  · exact ⟨_, rfl⟩
  · intro context isWritten
    cases isWritten
    have isAvailable := artifactOf_isAvailable fact store.latest
    rw [currentRef, latest_write, Option.bind_some]
    simp only [changeOf, nextContext_footprint, isAvailable]
  · change (store.versions ++ [_]).Pairwise Follows
    rw [List.pairwise_append]
    refine ⟨recorded.forward, List.pairwise_singleton _ _, ?_⟩
    intro version isEarlier last isLast
    rw [List.mem_singleton.mp isLast]
    cases isLatest : store.latest with
    | none =>
      have noVersion : store.versions = [] := by simpa [Store.latest] using isLatest
      rw [noVersion] at isEarlier
      cases isEarlier
    | some previous =>
      have notBehind := le_latest recorded isEarlier isLatest
      have follows := succeeds previous isLatest
      constructor
      · rw [compare_le]
        exact notBehind.1.trans follows.notEarlier
      · change number version.artifact.sourceRevision ≤ number (toString fact.sourceRevision)
        rw [number_toString]
        exact notBehind.2.trans follows.notOlder
  · change (store.versions ++ [_]).IsChain Apart
    rw [List.isChain_append]
    refine ⟨recorded.apart, List.isChain_singleton _, ?_⟩
    intro version isLast new isNew
    rw [Option.mem_def, List.head?_singleton, Option.some.injEq] at isNew
    subst isNew
    intro wasAvailable isAvailable
    change (artifactOf fact store.latest).isAvailable = true at isAvailable
    rw [artifactOf_isAvailable] at isAvailable
    have isLatest : store.latest = some version.artifact := by
      rw [Store.latest, Option.mem_def.mp isLast]
      rfl
    exact (succeeds version.artifact isLatest).apart isAvailable wasAvailable

theorem other_recorded (recorded : Recorded schemas execution store) (name : String)
    (ref : Option Business.BusinessObjectRef) (at' : Datetime platform) :
    Recorded schemas execution (next schemas execution store (.other name ref at')) := by
  obtain ⟨current, isContext⟩ := recorded.present
  have untouched : ∀ own : String, (own = "currentFootprint" ∨ own = "reconEffectiveArea") →
      (otherContext current name ref at').activeRefs.get? own = current.activeRefs.get? own := by
    intro own isOwn
    unfold otherContext
    by_cases taken : name = "currentFootprint" ∨ name = "reconEffectiveArea"
    · simp only [if_pos taken]
    · simp only [if_neg taken]
      have different : own ≠ name := by
        rintro rfl
        exact taken isOwn
      cases ref with
      | some ref => exact get?_set_ne _ _ different
      | none =>
        change (current.activeRefs.erase name).get? own = _
        rw [get?_erase, if_neg different]
  have isOther : (next schemas execution store (.other name ref at')).context =
      some (otherContext current name ref at') := by
    rw [next, isContext]
    rfl
  constructor
  · exact recorded.made
  · intro version member
    exact admission_isOk isContext isOther rfl (untouched _ (Or.inr rfl)) rfl
      (recorded.admitted version member)
  · exact ⟨_, isOther⟩
  · intro context isResult
    rw [isOther] at isResult
    cases isResult
    rw [untouched _ (Or.inl rfl), recorded.referenced current isContext]
    rfl
  · exact recorded.forward
  · exact recorded.apart

theorem next_recorded (recorded : Recorded schemas execution store) (entry : Entry platform) :
    Recorded schemas execution (next schemas execution store entry) := by
  cases entry with
  | footprint fact fate =>
    apply Attempts.attempt_keeps recorded
    intro change outcome concluded
    exact write_recorded recorded concluded
  | other name ref at' => exact other_recorded recorded name ref at'

theorem initial_recorded (context : TaskBusinessContext platform Properties)
    (areas : OrderedMap Nat (AreaArtifact platform)) :
    Recorded schemas execution (initial context areas) where
  made := by simp [initial]
  admitted := by simp [initial]
  present := ⟨_, rfl⟩
  referenced := by
    intro other isContext
    cases isContext
    change (context.activeRefs.erase "currentFootprint").get? "currentFootprint" = none
    rw [get?_erase, if_pos rfl]
  forward := List.Pairwise.nil
  apart := List.isChain_nil

theorem after_recorded (context : TaskBusinessContext platform Properties)
    (areas : OrderedMap Nat (AreaArtifact platform)) (entries : List (Entry platform)) :
    Recorded schemas execution
      (after (next schemas execution) (initial context areas) entries) := by
  apply always _ (initial_recorded context areas)
  intro store entry recorded
  exact next_recorded recorded entry

def Behind (earlier later : Version platform) : Prop :=
  earlier.artifact.updatedAt.key < later.artifact.updatedAt.key ∨
    number earlier.artifact.sourceRevision < number later.artifact.sourceRevision

theorem repeatable_of_behind (recorded : Recorded schemas execution store)
    (behind : store.versions.Pairwise Behind) (member : version ∈ store.versions)
    (fate : Attempts.Fate) :
    attempt schemas execution store version.fact fate = (.done .duplicate, store) := by
  apply Attempts.attempt_answer
  apply conclude_duplicate (recorded.admitted version member)
  obtain ⟨previous, made⟩ := recorded.made version member
  rcases List.eq_nil_or_concat store.versions with noVersion | ⟨earlier, last, split⟩
  · rw [noVersion] at member
    cases member
  · rw [List.concat_eq_append] at split
    have isLatest : store.latest = some last.artifact := by
      rw [Store.latest, split, List.getLast?_concat]
      rfl
    rw [isLatest]
    rw [split] at member behind
    rcases List.mem_append.mp member with isEarlier | isLast
    · have before := (List.pairwise_append.mp behind).2.2 version isEarlier last
        List.mem_cons_self
      have lastMember : last ∈ store.versions := by
        rw [split]
        exact List.mem_append_right _ List.mem_cons_self
      obtain ⟨lastPrevious, lastMade⟩ := recorded.made last lastMember
      apply judge_behind
      · rw [lastMade]
        rfl
      · rw [Behind, made] at before
        rcases before with earlierTime | olderSource
        · exact Or.inl earlierTime
        · right
          change number (toString version.fact.sourceRevision) < _ at olderSource
          rw [number_toString] at olderSource
          exact olderSource
    · have isLast := List.mem_singleton.mp isLast
      subst isLast
      rw [made]
      exact judge_own previous

theorem write_behind (recorded : Recorded schemas execution store)
    (behind : store.versions.Pairwise Behind)
    (spared : ¬ EndsAtOnce schemas execution store (.footprint fact .stored))
    (concluded : conclude schemas execution fact store = .ok (.change change outcome)) :
    (store.write change).versions.Pairwise Behind := by
  obtain ⟨current, admitted, judged, accepted, rfl⟩ := conclude_change concluded
  change (store.versions ++ [_]).Pairwise Behind
  rw [List.pairwise_append]
  refine ⟨behind, List.pairwise_singleton _ _, ?_⟩
  intro version member last isLast
  rw [List.mem_singleton.mp isLast]
  unfold Behind
  change _ ∨ _ < number (toString fact.sourceRevision)
  rw [number_toString]
  change version.artifact.updatedAt.key < fact.observedAt.key ∨ _
  cases isLatest : store.latest with
  | none =>
    have noVersion : store.versions = [] := by simpa [Store.latest] using isLatest
    rw [noVersion] at member
    cases member
  | some previous =>
    rw [isLatest] at judged accepted
    have succeeds := judge_next judged
    have notBehind := le_latest recorded member isLatest
    by_contra shared
    rw [not_or, not_lt, Nat.not_lt] at shared
    have sameTime : previous.updatedAt.key = fact.observedAt.key :=
      le_antisymm succeeds.notEarlier (shared.1.trans notBehind.1)
    have sameSource : number previous.sourceRevision = fact.sourceRevision := by
      have notOlder := succeeds.notOlder
      omega
    obtain ⟨sameRecord, isOver, isAvailable⟩ := succeeds.ends sameSource
    apply spared
    refine ⟨rfl, ?_, ?_, isOver, previous, isLatest, isAvailable, sameRecord,
      compare_eq.mpr sameTime.symm, sameSource⟩
    · rw [admitted]
      rfl
    · rw [isLatest]
      exact accepted

theorem next_behind (recorded : Recorded schemas execution store)
    (behind : store.versions.Pairwise Behind) {entry : Entry platform}
    (spared : ¬ EndsAtOnce schemas execution store entry) :
    (next schemas execution store entry).versions.Pairwise Behind := by
  cases entry with
  | other name ref at' => exact behind
  | footprint fact fate =>
    rcases Attempts.attempt_cases Store.write (conclude schemas execution fact) store fate
      with same | ⟨change, outcome, rfl, concluded, written⟩
    · change (attempt schemas execution store fact fate).2 = store at same
      rw [next, same]
      exact behind
    · change (attempt schemas execution store fact .stored).2 = _ at written
      rw [next, written]
      exact write_behind recorded behind spared concluded

theorem endsAtOnce_not_lawful (recorded : Recorded schemas execution store) {entry : Entry platform}
    (atOnce : EndsAtOnce schemas execution store entry) :
    ¬ Lawful schemas execution (next schemas execution store entry) := by
  intro lawful
  cases entry with
  | other name ref at' => exact atOnce
  | footprint fact fate =>
    obtain ⟨rfl, admitted, accepted, isOver, previous, isLatest, isAvailable, sameRecord, sameTime,
      sameSource⟩ := atOnce
    rw [compare_eq] at sameTime
    obtain ⟨last, isLast, rfl⟩ := Option.map_eq_some_iff.mp isLatest
    have member : last ∈ store.versions := List.mem_of_getLast? isLast
    obtain ⟨before, made⟩ := recorded.made last member
    have sameType : last.artifact.artifactType = "recon.current_footprint" := by
      rw [made]
      rfl
    have wasActive : last.fact.isActive = true := by
      rw [made, artifactOf_isAvailable] at isAvailable
      exact isAvailable
    cases result : admission schemas execution store fact with
    | error error =>
      rw [result] at admitted
      cases admitted
    | ok current =>
      have judged : judge fact store.latest = .ok .next := by
        rw [isLatest]
        exact judge_ending sameType isOver isAvailable sameRecord sameTime sameSource
      have concluded := conclude_next result judged accepted
      have isNext : next schemas execution store (.footprint fact .stored) =
          store.write (changeOf store current fact) := by
        rw [next, attempt, Attempts.attempt_stored concluded]
      rw [isNext] at lawful
      have recordedAfter := write_recorded recorded concluded
      have stillThere : last ∈ (store.write (changeOf store current fact)).versions :=
        List.mem_append_left _ member
      have repeated := lawful.repeatable last stillThere .stored
      have conflict : judge last.fact (store.write (changeOf store current fact)).latest =
          .error "FOOTPRINT_SOURCE_VERSION_CONFLICT" := by
        rw [latest_write]
        apply judge_ended rfl wasActive
        · exact (artifactOf_isAvailable fact store.latest).trans isOver
        · rw [made] at sameTime
          exact sameTime.symm
        · change number (toString fact.sourceRevision) = last.fact.sourceRevision
          rw [made] at sameSource
          change number (toString last.fact.sourceRevision) = fact.sourceRevision at sameSource
          rw [number_toString] at sameSource ⊢
          exact sameSource.symm
      have threw := conclude_error (recordedAfter.admitted last stillThere) conflict
      rw [attempt, Attempts.attempt_threw threw] at repeated
      cases repeated

/-- The projection is lawful in every state of a run exactly when no invalidation of the run has
the time and the source revision of the view it ends. -/
theorem footprints_lawful_iff (schemas : Schemas platform) (execution : ProviderExecution platform)
    (context : TaskBusinessContext platform Properties)
    (areas : OrderedMap Nat (AreaArtifact platform)) (entries : List (Entry platform)) :
    (∀ earlier later, entries = earlier ++ later →
      Lawful schemas execution
        (after (next schemas execution) (initial context areas) earlier)) ↔
    Histories.EveryStep (next schemas execution)
      (fun store entry => ¬ EndsAtOnce schemas execution store entry) (initial context areas)
      entries := by
  constructor
  · intro lawful
    rw [everyStep_iff]
    rintro earlier entry later rfl atOnce
    have behindEntry := lawful (earlier ++ [entry]) later (by simp)
    rw [after_concat] at behindEntry
    exact endsAtOnce_not_lawful (after_recorded context areas earlier) atOnce behindEntry
  · rintro spared earlier later rfl
    have recorded : Recorded schemas execution
        (after (next schemas execution) (initial context areas) earlier) :=
      after_recorded context areas earlier
    have both := keeps
      (I := fun store => Recorded schemas execution store ∧ store.versions.Pairwise Behind)
      (fun store entry holds condition =>
        ⟨next_recorded holds.1 entry, next_behind holds.1 holds.2 condition⟩)
      ⟨initial_recorded context areas, List.Pairwise.nil⟩ (everyStep_append.mp spared).1
    exact {
      referenced := recorded.referenced
      forward := recorded.forward
      apart := recorded.apart
      repeatable := fun version member fate => repeatable_of_behind recorded both.2 member fate }

end

namespace Sample

def midnight : String := "2026-09-24T00:00:00Z"

def platform : Platform :=
  { dateParse := fun text => if text = midnight then some 1790208000000 else none
    isDatetime := fun text => text == midnight
    datetime_parses := by
      intro text isMidnight
      rw [if_pos (eq_of_beq isMidnight)]
      rfl
    millisecondsBetween := fun _ _ => 0
    sha256 := id }

def now : Datetime platform :=
  { text := midnight
    isDatetime := beq_self_eq_true midnight }

def schemas : Schemas platform :=
  { geometry := fun _ => true
    taskArtifact := fun _ => true }

def execution : ProviderExecution platform :=
  { externalExecutionId := "execution-1"
    operationName := "vehicle_area_recon"
    taskBusinessContextExpected := true
    downstreamMissionIds := ["mission-1"]
    createdAt := now
    state := "RUNNING"
    circularScan := true }

def context : TaskBusinessContext platform Unit :=
  { contextRevision := 1
    status := .inProgress
    properties := ()
    activeRefs := empty
    artifactRefs := []
    updatedAt := now }

def footprint (state : ViewState platform) : ReconFootprintFact platform :=
  { missionId := "mission-1"
    areaRevision := 1
    sourceRecordId := "camera-footprint-1"
    sourceRevision := 1
    observedAt := now
    state }

def seen : ReconFootprintFact platform :=
  footprint (.active
    { quality := .observed
      sourceKind := .deviceReported
      modelRef := none
      validUntil := none
      content := .obj [("kind", .str "geojson")] })

def paused : ReconFootprintFact platform := footprint (.ended .paused)

def afterSeen : Store platform Unit :=
  next schemas execution (initial context empty) (.footprint seen .stored)

def afterPaused : Store platform Unit :=
  next schemas execution afterSeen (.footprint paused .stored)

/-- The view and its pause are applied; the view, delivered again, is refused. -/
theorem seen_again_refused :
    (attempt schemas execution (initial context empty) seen .stored).1 =
        .done .committed ∧
      (attempt schemas execution afterSeen paused .stored).1 = .done .committed ∧
      (attempt schemas execution afterPaused seen .stored).1 =
        .threw "FOOTPRINT_SOURCE_VERSION_CONFLICT" := by
  decide +kernel

end Sample

end Footprint

end SdarRuntime
