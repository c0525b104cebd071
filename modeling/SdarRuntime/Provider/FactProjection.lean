import SdarRuntime.Library.Attempts
import SdarRuntime.Library.Checks
import SdarRuntime.Provider.BusinessContract
import SdarRuntime.Provider.IsoTimestamps

/-!
What the processors of a recon task's facts have in common: datetimes and their order, the
execution a fact must belong to, the Context they read, and the area that is in effect.
-/

namespace SdarRuntime

namespace FactProjection

open IsoTimestamps

/-- What the platform does with texts: every datetime of the schema is a date. The elapsed
milliseconds are a floating-point number. -/
structure Platform where
  dateParse : String → Option Int
  isDatetime : String → Bool
  datetime_parses : ∀ text, isDatetime text = true → (dateParse text).isSome = true
  millisecondsBetween : String → String → ℚ
  sha256 : String → String

structure Datetime (platform : Platform) where
  text : String
  isDatetime : platform.isDatetime text = true
  deriving DecidableEq

variable {platform : Platform}

namespace Datetime

def compare (left right : Datetime platform) : Int :=
  compareIsoTimestamps platform.dateParse left.text right.text

def milliseconds (time : Datetime platform) : Int :=
  (platform.dateParse time.text).get (platform.datetime_parses time.text time.isDatetime)

def key (time : Datetime platform) : Int ×ₗ ℚ :=
  timeKey time.milliseconds time.text

theorem compare_keys (left right : Datetime platform) :
    left.compare right =
      if left.key = right.key then 0
      else if left.key < right.key then -1
      else 1 :=
  compareIsoTimestamps_keys (Option.some_get _).symm (Option.some_get _).symm

theorem compare_lt {left right : Datetime platform} :
    left.compare right < 0 ↔ left.key < right.key := by
  rw [compare_keys]
  rcases lt_trichotomy left.key right.key with less | same | more
  · simp [less, ne_of_lt less]
  · simp [same]
  · simp [ne_of_gt more, not_lt_of_gt more]

theorem compare_le {left right : Datetime platform} :
    left.compare right ≤ 0 ↔ left.key ≤ right.key := by
  rw [compare_keys]
  rcases lt_trichotomy left.key right.key with less | same | more
  · simp [less.le, less, ne_of_lt less]
  · simp [same]
  · simp [ne_of_gt more, not_lt_of_gt more, not_le_of_gt more]

theorem compare_eq {left right : Datetime platform} :
    left.compare right = 0 ↔ left.key = right.key := by
  rw [compare_keys]
  rcases lt_trichotomy left.key right.key with less | same | more
  · simp [less, ne_of_lt less]
  · simp [same]
  · simp [ne_of_gt more, not_lt_of_gt more]

end Datetime

structure ProviderExecution (platform : Platform) where
  externalExecutionId : String
  operationName : String
  taskBusinessContextExpected : Bool
  downstreamMissionIds : List String
  createdAt : Datetime platform
  state : String
  circularScan : Bool

def isReconOperation (operationName : String) : Bool :=
  operationName == "vehicle_area_recon" || operationName == "vehicle_inspect_area"

def terminal (state : String) : Bool :=
  state ∈ ["SUCCEEDED", "BUSINESS_FAILED", "CANCELLED", "TECHNICAL_FAILED"]

/-- A fact is about the execution's last mission and not older than the execution. The processors
differ in the texts of their errors. -/
def assertExecution (bindingError terminalError : String)
    (execution : ProviderExecution platform) (missionId : String)
    (observedAt : Datetime platform) : Except String Unit :=
  if !isReconOperation execution.operationName || !execution.taskBusinessContextExpected ||
      execution.downstreamMissionIds.getLast? != some missionId ||
      decide (observedAt.compare execution.createdAt < 0) then .error bindingError
  else if terminal execution.state then .error terminalError
  else .ok ()

inductive Status where
  | inProgress
  | finalized
  deriving DecidableEq

structure TaskBusinessContext (platform : Platform) (Properties : Type) where
  contextRevision : Nat
  status : Status
  properties : Properties
  activeRefs : Business.ActiveRefs
  artifactRefs : List Business.BusinessObjectRef
  updatedAt : Datetime platform

def openContext {Properties : Type} (unavailable : String)
    (context : Option (TaskBusinessContext platform Properties)) :
    Except String (TaskBusinessContext platform Properties) :=
  match context with
  | none => .error unavailable
  | some current =>
    if current.status = .finalized then .error unavailable else .ok current

theorem openContext_eq_ok {Properties : Type} {unavailable : String}
    {context : Option (TaskBusinessContext platform Properties)}
    {current : TaskBusinessContext platform Properties} :
    openContext unavailable context = .ok current ↔
      context = some current ∧ current.status ≠ .finalized := by
  unfold openContext
  cases context with
  | none => simp
  | some other =>
    by_cases finalized : other.status = .finalized
    · simp only [finalized, if_true, reduceCtorEq, false_iff]
      rintro ⟨same, isOpen⟩
      cases same
      exact isOpen finalized
    · simp only [finalized, if_false, Except.ok.injEq, Option.some.injEq]
      constructor
      · rintro rfl
        exact ⟨rfl, finalized⟩
      · exact And.left

/-- The later of two times; the left one if they are the same moment. -/
def latest (observedAt updatedAt : Datetime platform) : Datetime platform :=
  if observedAt.compare updatedAt ≥ 0 then observedAt else updatedAt

structure AreaArtifact (platform : Platform) where
  artifactType : String
  available : Bool
  semantics : String
  areaRevision : Option Int
  updatedAt : Datetime platform

def requestedArea : String := "recon-requested-area"

/-- The area the Context names, or the requested one; a newer version of it may be a candidate
only. A circular scan needs none. -/
def effectiveArea (referenceError revisionError : String) (execution : ProviderExecution platform)
    (activeRefs : Business.ActiveRefs) (areas : OrderedMap Nat (AreaArtifact platform)) :
    Except String (Option (AreaArtifact platform) × Int) :=
  let reference := activeRefs.get? "reconEffectiveArea"
  let version := areas.get? ((reference.map Business.BusinessObjectRef.revision).getD 1)
  let area := version.filter fun area => area.artifactType == "recon.area" && area.available
  let revision := (area.bind AreaArtifact.areaRevision).getD 1
  if reference.any fun ref => ref.kind != .artifact || ref.id != requestedArea then
    .error referenceError
  else if area.isNone && !execution.circularScan then .error referenceError
  else if reference.isSome && area.map AreaArtifact.semantics != some "planned" then
    .error referenceError
  else if revision < 1 then .error revisionError
  else .ok (area, revision)

end FactProjection

end SdarRuntime
