import SdarRuntime.Library.Redelivery
import SdarRuntime.Provider.SnapshotPage

/-!
The read model a consumer keeps of a business Context: it starts from the pages of a snapshot
and takes the feedback that follows.
-/

namespace SdarRuntime.Business

structure RuntimeBusinessCursor where
  streamId : String
  afterSequence : String
  deriving DecidableEq

namespace RuntimeBusinessCursor

def valid (cursor : RuntimeBusinessCursor) : Bool :=
  isIdentifier cursor.streamId &&
    (cursor.afterSequence == "0" || isRuntimeCommandSequence cursor.afterSequence)

/-- `BigInt` of the sequence. -/
def sequence (cursor : RuntimeBusinessCursor) : Nat :=
  Nat.ofDigitChars 10 cursor.afterSequence.toList 0

end RuntimeBusinessCursor

/-- The content of feedback: one of the known kinds, or an extension of another kind. -/
inductive FeedbackContent where
  | known (payload : FeedbackPayload)
  | extension (kind : String) (required : Bool) (payload : Json)

structure PublicTaskBusinessFeedback where
  schemaVersion : String
  content : FeedbackContent
  contextRevision : Nat
  providerRecordedAt : BusinessTime
  messageId : String
  identity : TaskBusinessIdentity
  resumeFrom : RuntimeBusinessCursor

def feedbackSchemaVersion : String := "sdar.task-business-feedback/1.0-rc2"

def knownFeedbackKindNames : List String :=
  ["BUSINESS_EVENT", "ARTIFACT_CHANGED", "ACTION_CHANGED", "REQUIRED_INPUT_CHANGED",
    "INTERVENTION_CHANGED", "CONTEXT_FINALIZED"]

def FeedbackContent.valid : FeedbackContent → Bool
  | .known payload => payload.valid
  | .extension kind required _ =>
    isIdentifier kind && !required && !knownFeedbackKindNames.contains kind

def parseTaskBusinessFeedbackBody (schemaVersion : String) (content : FeedbackContent) :
    Except String FeedbackContent := do
  require (schemaVersion == feedbackSchemaVersion) "UNSUPPORTED_BUSINESS_SCHEMA_VERSION"
  require content.valid "BUSINESS_PAYLOAD_INVALID"
  pure content

structure OpaqueDiagnostic where
  messageId : String
  kind : String
  payload : Json

structure TaskBusinessReducerState where
  context : TaskBusinessContext
  bootstrapSnapshotRevision : Nat
  metadataRevision : Nat
  terminalMetadataRevision : Option Nat
  objects : OrderedMap ObjectKey BusinessObjectVersion
  objectVersions : OrderedMap BusinessObjectRef BusinessObjectVersion
  objectRevisions : OrderedMap ObjectKey Nat
  seenMessageIds : List String
  opaqueDiagnostics : List OpaqueDiagnostic
  resumeFrom : RuntimeBusinessCursor

/-- The revision the read model has of an object, zero without one. -/
def revisionOf (revisions : OrderedMap ObjectKey Nat) (key : ObjectKey) : Nat :=
  (revisions.get? key).getD 0

/-- The schemas of a snapshot's objects, with the execution they belong to. -/
def validateSnapshotObject (libraries : Libraries) (identity : TaskBusinessIdentity)
    (value : BusinessObjectVersion) : Except String Unit := do
  require (match value with
      | .artifact value => libraries.artifactSchema value
      | .action value => value.valid
      | .inputRequest value => value.valid
      | .intervention value => value.valid)
    "BUSINESS_SNAPSHOT_OBJECT_INVALID"
  require (sameExecution value.identity identity &&
      value.identity.simulationId == identity.simulationId)
    "BUSINESS_SNAPSHOT_OBJECT_INVALID"
  require (1 ≤ value.businessObjectRef.revision) "BUSINESS_SNAPSHOT_OBJECT_INVALID"

structure Gathered where
  objects : OrderedMap ObjectKey BusinessObjectVersion
  objectVersions : OrderedMap BusinessObjectRef BusinessObjectVersion
  objectRevisions : OrderedMap ObjectKey Nat
  seenVersions : List BusinessObjectRef

def gatherObject (libraries : Libraries) (context : TaskBusinessContext) (gathered : Gathered)
    (value : BusinessObjectVersion) : Except String Gathered := do
  validateSnapshotObject libraries context.identity value
  let ref := value.businessObjectRef
  require ((contextObjectRefs context).contains ref && !gathered.seenVersions.contains ref)
    "BUSINESS_SNAPSHOT_OBJECT_INVALID"
  let gathered := { gathered with
    seenVersions := gathered.seenVersions ++ [ref]
    objectVersions := gathered.objectVersions.set ref value }
  if revisionOf gathered.objectRevisions ref.key ≤ ref.revision then
    pure { gathered with
      objectRevisions := gathered.objectRevisions.set ref.key ref.revision
      objects := gathered.objects.set ref.key value }
  else pure gathered

def gatherPage (libraries : Libraries) (context : TaskBusinessContext) (gathered : Gathered)
    (page : TaskBusinessSnapshotPage) (last : Bool) : Except String Gathered := do
  require (last || page.nextCursor.any (· ≠ "")) "BUSINESS_SNAPSHOT_INCOMPLETE"
  require (page.contextRevision == context.contextRevision && page.objectDescriptors.isEmpty)
    "BUSINESS_SNAPSHOT_REVISION_CHANGED"
  match page.context with
  | none => .error "ZodError"
  | some pageContext => do
    require pageContext.valid "ZodError"
    require (pageContext.same context) "BUSINESS_SNAPSHOT_REVISION_CHANGED"
    page.objects.foldlM (gatherObject libraries context) gathered

def gatherPages (libraries : Libraries) (context : TaskBusinessContext) :
    Gathered → List TaskBusinessSnapshotPage → Except String Gathered
  | gathered, [] => .ok gathered
  | gathered, page :: later => do
    let next ← gatherPage libraries context gathered page later.isEmpty
    gatherPages libraries context next later

/-- The highest revision of each object that the Context refers to. -/
def referredRevisions (context : TaskBusinessContext) : OrderedMap ObjectKey Nat :=
  (context.listedRefs ++ context.activeRefs.values).foldl
    (fun revisions ref =>
      revisions.set ref.key (max (revisionOf revisions ref.key) ref.revision))
    OrderedMap.empty

/-- All pages must be from one Context revision and contain no unreadable descriptors. -/
def bootstrapTaskBusinessReducer (libraries : Libraries) (pages : List TaskBusinessSnapshotPage)
    (resumeFrom : RuntimeBusinessCursor) : Except String TaskBusinessReducerState := do
  require (pages.getLast?.any fun last => last.nextCursor.isNone) "BUSINESS_SNAPSHOT_INCOMPLETE"
  require resumeFrom.valid "ZodError"
  match pages.head?.bind TaskBusinessSnapshotPage.context with
  | none => .error "ZodError"
  | some context => do
    require context.valid "ZodError"
    let gathered ← gatherPages libraries context
      { objects := OrderedMap.empty
        objectVersions := OrderedMap.empty
        objectRevisions := referredRevisions context
        seenVersions := [] } pages
    require (gathered.seenVersions.length == (contextObjectRefs context).length)
      "BUSINESS_SNAPSHOT_INCOMPLETE"
    pure
      { context := context
        bootstrapSnapshotRevision := context.contextRevision
        metadataRevision := context.contextRevision
        terminalMetadataRevision := none
        objects := gathered.objects
        objectVersions := gathered.objectVersions
        objectRevisions := gathered.objectRevisions
        seenMessageIds := []
        opaqueDiagnostics := []
        resumeFrom := resumeFrom }

/-- An event belongs to the execution, and to its simulation when the Context names one. -/
def boundToTask (event context : TaskBusinessIdentity) : Bool :=
  sameExecution event context &&
    (context.simulationId.isNone || event.simulationId == context.simulationId)

def replaceRef (refs : List BusinessObjectRef) (incoming : BusinessObjectRef) :
    List BusinessObjectRef :=
  (refs.filter fun ref => ref.id ≠ incoming.id) ++ [incoming]

def TaskBusinessContext.changeRefs (context : TaskBusinessContext) (kind : ObjectKind)
    (change : List BusinessObjectRef → List BusinessObjectRef) : TaskBusinessContext :=
  match kind with
  | .artifact => { context with artifactRefs := change context.artifactRefs }
  | .action => { context with actionRefs := change context.actionRefs }
  | .inputRequest => { context with requiredInputRefs := change context.requiredInputRefs }
  | .intervention => { context with interventionRefs := change context.interventionRefs }

def BusinessContextDelta.apply (delta : BusinessContextDelta) (context : TaskBusinessContext) :
    TaskBusinessContext :=
  { context with
    phase := delta.phase.getD context.phase
    summary := delta.summary.getD context.summary
    activeRefs := delta.activeRefs.getD context.activeRefs
    effectivePlanRevision := delta.effectivePlanRevision.getD context.effectivePlanRevision }

structure Metadata where
  context : TaskBusinessContext
  metadataRevision : Nat
  terminalMetadataRevision : Option Nat

def replaceMetadata (revision : Nat) (metadata : Metadata) : FeedbackContent → Metadata
  | .known (.businessEvent payload) =>
    match payload.contextDelta with
    | none => metadata
    | some delta =>
      { context := delta.apply metadata.context
        metadataRevision := revision
        terminalMetadataRevision :=
          if (delta.summary.any (·.status == .finalized)) && (delta.phase.any Option.isSome)
          then some revision else metadata.terminalMetadataRevision }
  | .known (.contextFinalized payload) =>
    { metadata with
      context :=
        { metadata.context with
          phase :=
            if metadata.terminalMetadataRevision = some revision then metadata.context.phase
            else none
          summary := payload.summary
          activeRefs := OrderedMap.empty
          artifactRefs := payload.artifactRefs
          actionRefs := payload.actionRefs
          finalizedAt := some payload.finalizedAt }
      metadataRevision := revision }
  | _ => metadata

structure Announced where
  context : TaskBusinessContext
  objects : OrderedMap ObjectKey BusinessObjectVersion
  objectRevisions : OrderedMap ObjectKey Nat

def announceObject (announced : Announced) : FeedbackContent → Announced
  | .known (.objectChanged kind payload) =>
    let ref := payload.ref
    if revisionOf announced.objectRevisions ref.key < ref.revision then
      { context := announced.context.changeRefs kind fun refs => replaceRef refs ref
        objects := announced.objects.erase ref.key
        objectRevisions := announced.objectRevisions.set ref.key ref.revision }
    else announced
  | _ => announced

/-- The events that may change the Context: newer than the snapshot, not older than the Context
and before the end. -/
def TaskBusinessReducerState.shouldApply (state : TaskBusinessReducerState)
    (contextRevision : Nat) : Bool :=
  state.bootstrapSnapshotRevision < contextRevision &&
    state.context.contextRevision ≤ contextRevision && state.context.finalizedAt.isNone

def TaskBusinessReducerState.take (previous : TaskBusinessReducerState)
    (event : PublicTaskBusinessFeedback) : TaskBusinessReducerState :=
  let shouldApply := previous.shouldApply event.contextRevision
  let metadata : Metadata :=
    { context := previous.context
      metadataRevision := previous.metadataRevision
      terminalMetadataRevision := previous.terminalMetadataRevision }
  let metadata :=
    if shouldApply && previous.metadataRevision ≤ event.contextRevision then
      replaceMetadata event.contextRevision metadata event.content
    else metadata
  let announced : Announced :=
    { context := metadata.context
      objects := previous.objects
      objectRevisions := previous.objectRevisions }
  let announced := if shouldApply then announceObject announced event.content else announced
  { previous with
    resumeFrom :=
      if previous.resumeFrom.sequence < event.resumeFrom.sequence then event.resumeFrom
      else previous.resumeFrom
    context :=
      if shouldApply then
        { announced.context with
          contextRevision := max announced.context.contextRevision event.contextRevision }
      else announced.context
    metadataRevision := metadata.metadataRevision
    terminalMetadataRevision := metadata.terminalMetadataRevision
    objectRevisions := announced.objectRevisions
    objects := announced.objects
    seenMessageIds := previous.seenMessageIds ++ [event.messageId]
    opaqueDiagnostics :=
      match event.content with
      | .known _ => previous.opaqueDiagnostics
      | .extension kind _ payload => previous.opaqueDiagnostics ++
          [{ messageId := event.messageId
             kind := kind
             payload := payload }] }

def finalRevisionAgrees (contextRevision : Nat) : FeedbackContent → Bool
  | .known (.contextFinalized payload) => payload.finalContextRevision == contextRevision
  | _ => true

/-- Pure read-model update. It never dispatches a Task, Input or device command. -/
def reduceTaskBusinessFeedback (previous : TaskBusinessReducerState)
    (event : PublicTaskBusinessFeedback) : Except String TaskBusinessReducerState := do
  require event.resumeFrom.valid "ZodError"
  require (boundToTask event.identity previous.context.identity)
    "BUSINESS_EVENT_TASK_BINDING_INVALID"
  require (event.resumeFrom.streamId == previous.resumeFrom.streamId)
    "BUSINESS_EVENT_STREAM_RESET"
  if previous.seenMessageIds.contains event.messageId then pure previous
  else do
    let content ← parseTaskBusinessFeedbackBody event.schemaVersion event.content
    require (finalRevisionAgrees event.contextRevision content)
      "BUSINESS_EVENT_FINAL_REVISION_INVALID"
    pure (previous.take event)

end SdarRuntime.Business
