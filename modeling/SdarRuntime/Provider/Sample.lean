import SdarRuntime.Provider.BusinessFacts
import SdarRuntime.Provider.FeedbackReducer

/-!
A scope with its Context and the objects in it, on which results about the business store are
tried out.
-/

namespace SdarRuntime.Business.Sample

def scope : BoundExecutionScope :=
  { taskId := "task-1"
    executionId := "execution-1"
    providerId := "provider-1"
    resourceId := "vehicle-1"
    operationName := "patrol"
    authorizationContextHash := "auth-1"
    executionMode := "simulation"
    simulationId := "simulation-1"
    correlationId := "correlation-1"
    deviceContext := none }

def identity : TaskBusinessIdentity :=
  { taskId := "task-1"
    executionId := "execution-1"
    providerId := "provider-1"
    resourceId := "vehicle-1"
    operationName := "patrol"
    correlationId := none
    simulationId := none }

def moment : BusinessTime :=
  { text := "2026-01-01T00:00:00.000Z"
    millis := 1767225600000 }

def artifactRef : BusinessObjectRef :=
  { kind := .artifact
    id := "map"
    revision := 1 }

def artifact : TaskArtifact :=
  { artifactId := "map"
    identity := identity
    revision := 1
    artifactType := "sensor.map"
    semantics := "observation"
    availability := "available"
    reasonCode := none
    updatedAt := moment
    properties := none
    contents := [] }

def interventionRef : BusinessObjectRef :=
  { kind := .intervention
    id := "reroute"
    revision := 1 }

def intervention : RuntimeIntervention :=
  { interventionId := "reroute"
    interventionType := .navigationAdjustPlan
    identity := identity
    revision := 1
    effectivePlanRevision := 1
    state := .available
    inputSchema := .obj []
    appliesTo := none
    reasonCode := "OFFERED"
    createdAt := moment
    validUntil := none
    acceptedCommandId := none
    resultRefs := none }

def context : TaskBusinessContext :=
  { identity := identity
    contextRevision := 1
    effectivePlanRevision := 1
    phase := none
    summary :=
      { status := .inProgress
        resultCode := none
        properties := none }
    activeRefs := OrderedMap.empty.set "plan" interventionRef
    artifactRefs := [artifactRef]
    actionRefs := []
    requiredInputRefs := []
    interventionRefs := [interventionRef]
    updatedAt := moment
    finalizedAt := none }

def hash : String :=
  "5feceb66ffc86f38d952786c6d696c79c2dbc239dd4e91b46729d73a27fb57e9"

/-- Libraries with one hash, whose `JSON.parse` knows the cursors of the Context. -/
def libraries : Libraries :=
  { sha256 := fun _ => hash
    artifactSchema := fun _ => true
    compilesAsSchema := fun _ => true
    hashBytes := fun _ => hash
    parseJson := fun bytes =>
      ((List.range 3).find? fun index =>
        utf8 (Json.stringify (cursorFields hash 1 index)) == bytes).map (cursorFields hash 1)
    buildProjectionEvidence := fun _ _ _ => .ok .null }

theorem readsCursors : libraries.ReadsCursors scope context := by
  intro index bound
  have table : ∀ known : Fin 3, ((List.range 3).find? fun other =>
      utf8 (Json.stringify (cursorFields hash 1 other)) ==
        utf8 (Json.stringify (cursorFields hash 1 known.val))) = some known.val := by
    decide +kernel
  have length : (contextObjectRefs context).length = 2 := by decide +kernel
  rw [length] at bound
  exact congrArg (Option.map (cursorFields hash 1)) (table ⟨index, by omega⟩)

def store : SnapshotStore :=
  { getContext := fun _ => .ok (some context)
    getObjectVersion := fun _ ref =>
      if ref = artifactRef then .ok (some (.artifact artifact))
      else if ref = interventionRef then .ok (some (.intervention intervention))
      else .ok none
    exact := by
      intro scope ref version found
      split at found
      · rename_i same
        cases found
        exact same.symm
      · split at found
        · rename_i same
          cases found
          exact same.symm
        · cases found }

def sizes : SerializedSizes :=
  { context := fun _ => 500
    object := fun object => if object.artifact?.isSome then 4096 else 300
    page := fun page =>
      600 + 350 * page.objects.length + 120 * page.objectDescriptors.length +
        (if page.nextCursor.isSome then 180 else 0) }

def page : TaskBusinessSnapshotPage :=
  { contextRevision := 1
    context := some context
    contextDescriptor := none
    objects := [.artifact artifact, .intervention intervention]
    objectDescriptors := []
    nextCursor := none }

def cursor (sequence : String) : RuntimeBusinessCursor :=
  { streamId := "stream-1"
    afterSequence := sequence }

/-- A new version of the artifact is announced with a revision of the Context. -/
def artifactChanged (messageId sequence : String) (contextRevision revision : Nat) :
    PublicTaskBusinessFeedback :=
  { schemaVersion := feedbackSchemaVersion
    content := .known (.objectChanged .artifact
      { change := .update
        ref := { artifactRef with revision := revision }
        previousRevision := some (revision - 1)
        reasonCode := "UPDATED" })
    contextRevision := contextRevision
    providerRecordedAt := moment
    messageId := messageId
    identity := identity
    resumeFrom := cursor sequence }

def command : BusinessCommandRecord :=
  { commandId := "command-1"
    commandType := .intervention
    entryKey := some "intervention:reroute"
    runtimeCommandSequence := some "1"
    responder := none
    identity := identity
    requestHash := hash
    responseHash := none
    inputResponse := none
    interventionRequest := none
    state := .accepted
    resultCode := none
    resultRefs := none
    createdAt := moment
    updatedAt := moment }

def requestRef : BusinessObjectRef :=
  { kind := .inputRequest
    id := "request-1"
    revision := 1 }

def pendingRequest : RequiredInput :=
  { requestId := "request-1"
    requestKey := "map-check"
    inputType := "confirmation"
    identity := identity
    revision := 1
    state := .pending
    requiredResponder := "user"
    subjectBinding := .artifactRevision artifactRef
    onExpire := "fail"
    onDismiss := "keep"
    onDecline := "fail"
    inputSchema := .obj []
    requestedAt := moment
    deadlineAt := none
    resolvedAt := none
    responseCommandId := none
    response := none }

def answeredRequest : RequiredInput :=
  { pendingRequest with
    revision := 2
    state := .answered
    resolvedAt := some moment
    responseCommandId := some "command-2"
    response := some
      { action := .accept
        value := none } }

def waitingContext : TaskBusinessContext :=
  { context with
    activeRefs := OrderedMap.empty.set "input" requestRef
    artifactRefs := [artifactRef]
    requiredInputRefs := [requestRef]
    interventionRefs := [] }

def responseCommand : BusinessCommandRecord :=
  { command with
    commandId := "command-2"
    commandType := .inputResponse
    entryKey := some "input:map-check"
    responseHash := some hash }

end SdarRuntime.Business.Sample
