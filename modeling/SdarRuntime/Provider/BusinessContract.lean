import SdarRuntime.Library.Json
import SdarRuntime.Library.OrderedMap

/-!
The business data a provider keeps about one execution, and what its schemas accept: the
Context with its references, the versions of the objects it refers to, and the feedback that
announces a change.
-/

namespace SdarRuntime.Business

/-- A datetime as it is written, with its `Date.parse`. -/
structure BusinessTime where
  text : String
  millis : Int
  deriving DecidableEq

namespace BusinessTime

def fractionalDigits (time : BusinessTime) : List Char :=
  ((time.text.toList.dropWhile (· != '.')).drop 1).takeWhile Char.isDigit

/-- Earlier, also by the digits `Date.parse` does not read. -/
def before (left right : BusinessTime) : Bool :=
  if left.millis ≠ right.millis then left.millis < right.millis
  else
    let length := max left.fractionalDigits.length right.fractionalDigits.length
    decide (left.fractionalDigits ++ List.replicate (length - left.fractionalDigits.length) '0' <
      right.fractionalDigits ++ List.replicate (length - right.fractionalDigits.length) '0')

end BusinessTime

def isIdentifier (text : String) : Bool :=
  1 ≤ (Json.utf16 text).length && (Json.utf16 text).length ≤ 256

inductive ObjectKind where
  | artifact
  | action
  | inputRequest
  | intervention
  deriving DecidableEq

structure BusinessObjectRef where
  kind : ObjectKind
  id : String
  revision : Nat
  deriving DecidableEq

abbrev ObjectKey := ObjectKind × String

def BusinessObjectRef.key (ref : BusinessObjectRef) : ObjectKey := (ref.kind, ref.id)

def BusinessObjectRef.valid (ref : BusinessObjectRef) : Bool :=
  isIdentifier ref.id && 1 ≤ ref.revision

structure TaskBusinessIdentity where
  taskId : String
  executionId : String
  providerId : String
  resourceId : String
  operationName : String
  correlationId : Option String
  simulationId : Option String
  deriving DecidableEq

def TaskBusinessIdentity.valid (identity : TaskBusinessIdentity) : Bool :=
  isIdentifier identity.taskId && isIdentifier identity.executionId &&
    isIdentifier identity.providerId && isIdentifier identity.resourceId &&
    isIdentifier identity.operationName && identity.correlationId.all isIdentifier &&
    identity.simulationId.all isIdentifier

def sameExecution (left right : TaskBusinessIdentity) : Bool :=
  left.taskId == right.taskId && left.executionId == right.executionId &&
    left.providerId == right.providerId && left.resourceId == right.resourceId &&
    left.operationName == right.operationName

structure BusinessPhase where
  code : String
  label : Option String
  since : BusinessTime
  reasonCode : Option String
  deriving DecidableEq

def BusinessPhase.valid (phase : BusinessPhase) : Bool :=
  isIdentifier phase.code && phase.reasonCode.all isIdentifier

inductive SummaryStatus where
  | inProgress
  | finalized
  deriving DecidableEq

structure BusinessSummary where
  status : SummaryStatus
  resultCode : Option String
  properties : Option (List (String × Json))

def BusinessSummary.valid (summary : BusinessSummary) : Bool :=
  summary.resultCode.all isIdentifier

/-- `isDeepStrictEqual` of two optional values. -/
def sameOption {α : Type} (same : α → α → Bool) : Option α → Option α → Bool
  | none, none => true
  | some left, some right => same left right
  | _, _ => false

def BusinessSummary.same (left right : BusinessSummary) : Bool :=
  left.status == right.status && left.resultCode == right.resultCode &&
    sameOption (fun left right => Json.same (.obj left) (.obj right)) left.properties
      right.properties

abbrev ActiveRefs := OrderedMap String BusinessObjectRef

def ActiveRefs.same (left right : ActiveRefs) : Bool :=
  left.entries.all (fun entry => right.get? entry.1 = some entry.2) &&
    right.entries.all fun entry => left.get? entry.1 = some entry.2

def ActiveRefs.valid (refs : ActiveRefs) : Bool :=
  refs.entries.all fun entry => isIdentifier entry.1 && entry.2.valid

structure TaskBusinessContext where
  identity : TaskBusinessIdentity
  contextRevision : Nat
  effectivePlanRevision : Nat
  phase : Option BusinessPhase
  summary : BusinessSummary
  activeRefs : ActiveRefs
  artifactRefs : List BusinessObjectRef
  actionRefs : List BusinessObjectRef
  requiredInputRefs : List BusinessObjectRef
  interventionRefs : List BusinessObjectRef
  updatedAt : BusinessTime
  finalizedAt : Option BusinessTime

def refsOfKind (kind : ObjectKind) (refs : List BusinessObjectRef) : Bool :=
  refs.all fun ref => ref.valid && ref.kind == kind

namespace TaskBusinessContext

def valid (context : TaskBusinessContext) : Bool :=
  context.identity.valid && context.phase.all BusinessPhase.valid && context.summary.valid &&
    ActiveRefs.valid context.activeRefs && refsOfKind .artifact context.artifactRefs &&
    refsOfKind .action context.actionRefs && refsOfKind .inputRequest context.requiredInputRefs &&
    refsOfKind .intervention context.interventionRefs

def listedRefs (context : TaskBusinessContext) : List BusinessObjectRef :=
  context.artifactRefs ++ context.actionRefs ++ context.requiredInputRefs ++
    context.interventionRefs

theorem mem_interventionRefs {context : TaskBusinessContext} {ref : BusinessObjectRef}
    (isValid : context.valid = true) (listed : ref ∈ context.listedRefs)
    (kind : ref.kind = .intervention) : ref ∈ context.interventionRefs := by
  simp only [valid, Bool.and_eq_true, refsOfKind, List.all_eq_true, beq_iff_eq] at isValid
  simp only [listedRefs, List.mem_append] at listed
  rcases listed with ((artifact | action) | input) | intervention
  · have other := (isValid.1.1.1.2 ref artifact).2
    rw [kind] at other
    cases other
  · have other := (isValid.1.1.2 ref action).2
    rw [kind] at other
    cases other
  · have other := (isValid.1.2 ref input).2
    rw [kind] at other
    cases other
  · exact intervention

/-- `isDeepStrictEqual` of two Contexts. -/
def same (left right : TaskBusinessContext) : Bool :=
  left.identity == right.identity && left.contextRevision == right.contextRevision &&
    left.effectivePlanRevision == right.effectivePlanRevision && left.phase == right.phase &&
    left.summary.same right.summary && ActiveRefs.same left.activeRefs right.activeRefs &&
    left.artifactRefs == right.artifactRefs && left.actionRefs == right.actionRefs &&
    left.requiredInputRefs == right.requiredInputRefs &&
    left.interventionRefs == right.interventionRefs && left.updatedAt == right.updatedAt &&
    left.finalizedAt == right.finalizedAt

end TaskBusinessContext

/-- Metadata of a Context that a business event replaces. An absent field stays. -/
structure BusinessContextDelta where
  phase : Option (Option BusinessPhase) := none
  summary : Option BusinessSummary := none
  activeRefs : Option ActiveRefs := none
  effectivePlanRevision : Option Nat := none

def BusinessContextDelta.valid (delta : BusinessContextDelta) : Bool :=
  delta.phase.all (fun phase => phase.all BusinessPhase.valid) &&
    delta.summary.all BusinessSummary.valid && delta.activeRefs.all ActiveRefs.valid

inductive Severity where
  | info
  | warning
  | critical
  deriving DecidableEq

structure BusinessEventChange where
  eventType : String
  severity : Severity
  reasonCode : String
  description : String
  subjects : Option (List BusinessObjectRef)
  contextDelta : Option BusinessContextDelta

inductive ObjectChange where
  | create
  | update
  | invalidate
  | archive
  deriving DecidableEq

structure ObjectChanged where
  change : ObjectChange
  ref : BusinessObjectRef
  previousRevision : Option Nat
  reasonCode : String
  deriving DecidableEq

structure BusinessContextFinalized where
  reasonCode : String
  finalContextRevision : Nat
  summary : BusinessSummary
  artifactRefs : List BusinessObjectRef
  actionRefs : List BusinessObjectRef
  finalizedAt : BusinessTime

/-- The payload of a known kind of feedback. The four kinds about objects differ in the kind of
the object they refer to. -/
inductive FeedbackPayload where
  | businessEvent (payload : BusinessEventChange)
  | objectChanged (kind : ObjectKind) (payload : ObjectChanged)
  | contextFinalized (payload : BusinessContextFinalized)

structure TaskBusinessFeedbackBody where
  contextRevision : Nat
  providerRecordedAt : BusinessTime
  payload : FeedbackPayload

def FeedbackPayload.valid : FeedbackPayload → Bool
  | .businessEvent payload =>
    isIdentifier payload.eventType && isIdentifier payload.reasonCode &&
      payload.subjects.all (fun refs => refs.all BusinessObjectRef.valid) &&
      payload.contextDelta.all BusinessContextDelta.valid
  | .objectChanged kind payload =>
    payload.ref.valid && payload.ref.kind == kind && payload.previousRevision.all (1 ≤ ·) &&
      isIdentifier payload.reasonCode &&
      (kind == .artifact || payload.change == .create || payload.change == .update)
  | .contextFinalized payload =>
    isIdentifier payload.reasonCode && payload.summary.valid &&
      payload.summary.status == .finalized && refsOfKind .artifact payload.artifactRefs &&
      refsOfKind .action payload.actionRefs

def FeedbackPayload.changedRef : FeedbackPayload → Option BusinessObjectRef
  | .objectChanged _ payload => some payload.ref
  | _ => none

end SdarRuntime.Business
