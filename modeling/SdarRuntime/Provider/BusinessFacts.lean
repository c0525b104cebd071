import SdarRuntime.Domain.Time
import SdarRuntime.Provider.SnapshotPage

/-!
The facts a change set has to bring along: replies with their claims, applied and rejected
interventions, a new reconnaissance area, contents and the drafts of the events. The store
checks them in one step with the change itself.
-/

namespace SdarRuntime.Business

open Except

structure TaskBusinessEventDraft where
  body : TaskBusinessFeedbackBody
  description : String
  reasonCode : String
  severityHint : Severity

def finalizationMatches (context : TaskBusinessContext) (payload : BusinessContextFinalized) :
    Bool :=
  context.summary.status == .finalized &&
    payload.finalContextRevision == context.contextRevision &&
    payload.summary.same context.summary && payload.artifactRefs == context.artifactRefs &&
    payload.actionRefs == context.actionRefs &&
    context.finalizedAt.map BusinessTime.text == some payload.finalizedAt.text

def parseTaskBusinessEventDraft (context : TaskBusinessContext)
    (candidate : TaskBusinessEventDraft) : Except String TaskBusinessEventDraft := do
  require candidate.body.payload.valid "ZodError"
  require (candidate.body.contextRevision == context.contextRevision)
    "BUSINESS_EVENT_CONTEXT_REVISION_MISMATCH"
  require (match candidate.body.payload with
      | .contextFinalized payload => finalizationMatches context payload
      | _ => true)
    "BUSINESS_EVENT_FINALIZATION_MISMATCH"
  require (candidate.description != "" && candidate.reasonCode != "")
    "BUSINESS_EVENT_DRAFT_INVALID"
  pure candidate

/-- `new Date(millis).toISOString()`. -/
def BusinessTime.ofMillis (millis : Int) : BusinessTime :=
  { text := Instant.toISOString (1000 * millis)
    millis := millis }

/-- The later of the clock and a Context's own time. An invalid clock has no time. -/
def recordedTime (now : Now) (updatedAt : BusinessTime) : Except String BusinessTime :=
  match now with
  | none => .error "RangeError"
  | some now => .ok (BusinessTime.ofMillis (max now updatedAt.millis))

structure InterventionSubmission where
  context : TaskBusinessContext
  version : BusinessObjectVersion
  events : List TaskBusinessEventDraft

def submittedVersion (previous : RuntimeIntervention) (commandId : String) :
    RuntimeIntervention :=
  { previous with
    revision := previous.revision + 1
    state := .submitted
    acceptedCommandId := some commandId
    reasonCode := "INTERVENTION_SUBMITTED" }

def retarget (priorRef ref listed : BusinessObjectRef) : BusinessObjectRef :=
  if listed = priorRef then ref else listed

def submittedContext (context : TaskBusinessContext) (priorRef ref : BusinessObjectRef)
    (recordedAt : BusinessTime) : TaskBusinessContext :=
  { context with
    contextRevision := context.contextRevision + 1
    activeRefs := context.activeRefs.filterMap fun active => some (retarget priorRef ref active)
    interventionRefs := context.interventionRefs.map (retarget priorRef ref)
    updatedAt := recordedAt }

def submissionEvents (context : TaskBusinessContext) (priorRef ref : BusinessObjectRef)
    (recordedAt : BusinessTime) : List TaskBusinessEventDraft :=
  let reasonCode := "INTERVENTION_SUBMITTED"
  let description := "Intervention command accepted"
  let draft (payload : FeedbackPayload) : TaskBusinessEventDraft :=
    { body :=
        { contextRevision := context.contextRevision
          providerRecordedAt := recordedAt
          payload := payload }
      description := description
      reasonCode := reasonCode
      severityHint := .info }
  [draft (.businessEvent
      { eventType := "business.intervention_submitted"
        severity := .info
        reasonCode := reasonCode
        description := description
        subjects := some [ref]
        contextDelta := some
          { activeRefs := some context.activeRefs
            effectivePlanRevision := some context.effectivePlanRevision } }),
    draft (.objectChanged .intervention
      { change := .update
        ref := ref
        previousRevision := some priorRef.revision
        reasonCode := reasonCode })]

/-- Facts produced by accepting an optional Intervention, before any device effect. -/
def prepareInterventionSubmission (libraries : Libraries) (scope : BoundExecutionScope)
    (context : TaskBusinessContext) (previous : BusinessObjectVersion)
    (command : BusinessCommandRecord) (now : Now) : Except String InterventionSubmission :=
  match previous with
  | .intervention previous => do
    require (command.commandType == .intervention &&
        command.entryKey == some ("intervention:" ++ previous.interventionId))
      "BUSINESS_INTERVENTION_SUBMISSION_INVALID"
    let value := submittedVersion previous command.commandId
    let version ← parseBusinessObjectVersion libraries scope (.intervention value)
    assertInterventionTransition previous value
    let priorRef := (BusinessObjectVersion.intervention previous).businessObjectRef
    let ref := version.businessObjectRef
    let recordedAt ← recordedTime now context.updatedAt
    let next ← parseBusinessContext scope (submittedContext context priorRef ref recordedAt)
    let events ← (submissionEvents next priorRef ref recordedAt).mapM
      (parseTaskBusinessEventDraft next)
    pure
      { context := next
        version := version
        events := events }
  | _ => .error "BUSINESS_INTERVENTION_SUBMISSION_INVALID"

structure Submits (libraries : Libraries) (scope : BoundExecutionScope)
    (context : TaskBusinessContext) (previous : RuntimeIntervention)
    (command : BusinessCommandRecord) (recordedAt : BusinessTime)
    (submission : InterventionSubmission) : Prop where
  commandType : command.commandType = .intervention
  entryKey : command.entryKey = some ("intervention:" ++ previous.interventionId)
  transition : assertInterventionTransition previous
    (submittedVersion previous command.commandId) = .ok ()
  version : submission.version = .intervention (submittedVersion previous command.commandId)
  context : submission.context = submittedContext context
    (BusinessObjectVersion.intervention previous).businessObjectRef
    submission.version.businessObjectRef recordedAt
  valid : submission.context.valid = true
  finalization : submission.context.finalizationAgrees = true
  events : submission.events = submissionEvents submission.context
    (BusinessObjectVersion.intervention previous).businessObjectRef
    submission.version.businessObjectRef recordedAt
  drafts : ∀ draft, draft ∈ submission.events → draft.body.payload.valid = true

private theorem parseTaskBusinessEventDraft_eq_ok {context : TaskBusinessContext}
    {candidate draft : TaskBusinessEventDraft}
    (parsed : parseTaskBusinessEventDraft context candidate = .ok draft) :
    draft = candidate ∧ candidate.body.payload.valid = true := by
  unfold parseTaskBusinessEventDraft at parsed
  obtain ⟨_, isValid, parsed⟩ := bind_eq_ok.mp parsed
  obtain ⟨_, -, parsed⟩ := bind_eq_ok.mp parsed
  obtain ⟨_, -, parsed⟩ := bind_eq_ok.mp parsed
  obtain ⟨_, -, parsed⟩ := bind_eq_ok.mp parsed
  exact ⟨(pure_eq_ok.mp parsed).symm, require_eq_ok.mp isValid⟩

private theorem parsedDrafts {context : TaskBusinessContext}
    {candidates drafts : List TaskBusinessEventDraft}
    (parsed : candidates.mapM (parseTaskBusinessEventDraft context) = .ok drafts) :
    drafts = candidates ∧ ∀ draft, draft ∈ drafts → draft.body.payload.valid = true := by
  induction candidates generalizing drafts with
  | nil =>
    rw [List.mapM_nil] at parsed
    cases parsed
    exact ⟨rfl, fun _ member => absurd member List.not_mem_nil⟩
  | cons candidate rest ih =>
    rw [List.mapM_cons] at parsed
    obtain ⟨draft, first, parsed⟩ := bind_eq_ok.mp parsed
    obtain ⟨later, others, parsed⟩ := bind_eq_ok.mp parsed
    cases parsed
    obtain ⟨isCandidate, isValid⟩ := parseTaskBusinessEventDraft_eq_ok first
    obtain ⟨areRest, areValid⟩ := ih others
    constructor
    · rw [isCandidate, areRest]
    · intro other member
      rcases List.mem_cons.mp member with isDraft | inLater
      · rw [isDraft, isCandidate]
        exact isValid
      · exact areValid other inLater

theorem prepareInterventionSubmission_eq_ok {libraries : Libraries}
    {scope : BoundExecutionScope} {context : TaskBusinessContext}
    {previous : BusinessObjectVersion} {command : BusinessCommandRecord} {now : Now}
    {submission : InterventionSubmission}
    (prepared : prepareInterventionSubmission libraries scope context previous command now =
      .ok submission) :
    ∃ intervention recordedAt, previous = .intervention intervention ∧
      recordedTime now context.updatedAt = .ok recordedAt ∧
      Submits libraries scope context intervention command recordedAt submission := by
  cases previous with
  | artifact value => cases prepared
  | action value => cases prepared
  | inputRequest value => cases prepared
  | intervention value =>
    unfold prepareInterventionSubmission at prepared
    obtain ⟨_, matched, prepared⟩ := bind_eq_ok.mp prepared
    obtain ⟨version, parsed, prepared⟩ := bind_eq_ok.mp prepared
    obtain ⟨_, transition, prepared⟩ := bind_eq_ok.mp prepared
    obtain ⟨recordedAt, recorded, prepared⟩ := bind_eq_ok.mp prepared
    obtain ⟨next, parsedContext, prepared⟩ := bind_eq_ok.mp prepared
    obtain ⟨events, parsedEvents, prepared⟩ := bind_eq_ok.mp prepared
    cases prepared
    have entry := require_eq_ok.mp matched
    simp only [Bool.and_eq_true, beq_iff_eq] at entry
    have isCandidate := parseBusinessObjectVersion_eq_ok parsed
    obtain ⟨isNext, isValid, agrees⟩ := parseBusinessContext_eq_ok parsedContext
    obtain ⟨areEvents, areValid⟩ := parsedDrafts parsedEvents
    refine ⟨value, recordedAt, rfl, recorded, ?_⟩
    constructor
    · exact entry.1
    · exact entry.2
    · exact transition
    · exact isCandidate
    · exact isNext
    · rw [isNext]
      exact isValid
    · rw [isNext]
      exact agrees
    · exact areEvents
    · exact areValid

def RequiredInput.isReply (input : RequiredInput) : Bool :=
  input.state == .answered || input.state == .declined ||
    (input.state == .cancelled && input.response.map InputResponse.action == some .cancel)

def RequiredInput.ref (input : RequiredInput) : BusinessObjectRef :=
  { kind := .inputRequest
    id := input.requestId
    revision := input.revision }

/-- A reply fact must resolve the active request that an admitted command reserved. -/
def assertRequiredInputReplyClaim (libraries : Libraries) (previous : Option TaskBusinessContext)
    (next : TaskBusinessContext) (input : RequiredInput)
    (claimed : Option BusinessCommandRecord) : Except String Unit :=
  if !input.isReply then .ok ()
  else
    match claimed with
    | none => .error "BUSINESS_INPUT_RESPONSE_CLAIM_REQUIRED"
    | some claimed => do
      let priorRef := { input.ref with revision := input.revision - 1 }
      require (previous.any (fun previous => previous.activeRefs.values.contains priorRef) &&
          next.requiredInputRefs.contains input.ref &&
          input.responseCommandId.any (fun id => id != "" && claimed.commandId == id) &&
          claimed.commandType == .inputResponse &&
          claimed.entryKey == some ("input:" ++ input.requestKey))
        "BUSINESS_INPUT_RESPONSE_CLAIM_REQUIRED"
      require (input.response.any fun response =>
          claimed.responseHash == some (taskBusinessInputResponseHash libraries response))
        "BUSINESS_INPUT_RESPONSE_MISMATCH"

def BusinessCommandRecord.interventionEntry (command : BusinessCommandRecord) : Option String :=
  command.entryKey.bind fun entryKey =>
    let start := "intervention:".toList
    if start.isPrefixOf entryKey.toList && entryKey.toList != start then
      some (String.ofList (entryKey.toList.drop start.length))
    else none

def isCommand (command : Option BusinessCommandRecord) (state : BusinessCommandState) : Bool :=
  command.any fun command => command.commandType == .intervention && command.state == state

def publishedInterventions (published : List BusinessObjectVersion) : List RuntimeIntervention :=
  published.filterMap BusinessObjectVersion.intervention?

def RuntimeIntervention.ref (intervention : RuntimeIntervention) : BusinessObjectRef :=
  (BusinessObjectVersion.intervention intervention).businessObjectRef

/-- A result list of a command and the one of its intervention have the same references. -/
def sameResults (command : BusinessCommandRecord) (intervention : RuntimeIntervention) : Bool :=
  (command.resultRefs.getD []).isPerm (intervention.resultRefs.getD [])

def InterventionType.changesRoute (interventionType : InterventionType) : Bool :=
  interventionType == .navigationAdjustPlan || interventionType == .navigationChangeDestination

def hasText (key text : String) (properties : List (String × Json)) : Bool :=
  (Json.lookup key properties).bind Json.text? == some text

/-- The route the Context now follows is written in the same change set, adopted. -/
def adoptedNavigationRoute (next : TaskBusinessContext)
    (published : List BusinessObjectVersion) : Bool :=
  let writtenActiveRoute := (published.filterMap BusinessObjectVersion.artifact?).find?
    fun artifact => some (BusinessObjectVersion.artifact artifact).businessObjectRef ==
      next.activeRefs.get? "route"
  writtenActiveRoute.any fun artifact =>
    artifact.artifactType == "navigation.route" && artifact.properties.any fun properties =>
      hasText "adoption" "adopted" properties && hasText "purpose" "navigation" properties

def switched (name : String) (previous next : TaskBusinessContext)
    (resultRefs : List BusinessObjectRef) : Bool :=
  (next.activeRefs.get? name).any fun active =>
    active.kind == .artifact && previous.activeRefs.get? name != some active &&
      resultRefs.contains active

def appliedFactsComplete (previous : TaskBusinessContext) (next : TaskBusinessContext)
    (published : List BusinessObjectVersion) (command : BusinessCommandRecord)
    (entryId : String) (intervention : RuntimeIntervention) : Bool :=
  let resultRefs := command.resultRefs.getD []
  let written := published.map BusinessObjectVersion.businessObjectRef
  let resetCoverage := (published.filterMap BusinessObjectVersion.artifact?).find? fun artifact =>
    artifact.artifactId == "recon-covered-area"
  intervention.state == .applied && 2 ≤ intervention.revision &&
    intervention.acceptedCommandId == some command.commandId &&
    intervention.effectivePlanRevision == previous.effectivePlanRevision &&
    next.interventionRefs.contains intervention.ref &&
    next.activeRefs.values.all (fun ref => !(ref.kind == .intervention && ref.id == entryId)) &&
    !resultRefs.isEmpty && decide resultRefs.Nodup && sameResults command intervention &&
    resultRefs.all (fun ref => (contextObjectRefs next).contains ref) &&
    resultRefs.any (fun ref => written.contains ref && ref != intervention.ref) &&
    (intervention.interventionType == .targetChangeVisualLock ||
      next.effectivePlanRevision == previous.effectivePlanRevision + 1) &&
    (!intervention.interventionType.changesRoute ||
      (switched "route" previous next resultRefs && adoptedNavigationRoute next published)) &&
    (intervention.interventionType != .reconAdjustArea ||
      (switched "reconEffectiveArea" previous next resultRefs &&
        resetCoverage.any fun reset =>
          resultRefs.contains (BusinessObjectVersion.artifact reset).businessObjectRef))

/-- A terminal receipt cannot claim plan application without matching published business
facts. -/
def assertInterventionAppliedFacts (previous : Option TaskBusinessContext)
    (next : TaskBusinessContext) (published : List BusinessObjectVersion)
    (command : Option BusinessCommandRecord) : Except String Unit := do
  let interventions := publishedInterventions published
  let appliedObjects := interventions.filter fun item => item.state == .applied
  require (appliedObjects.isEmpty || (appliedObjects.length == 1 && isCommand command .applied))
    "BUSINESS_INTERVENTION_APPLIED_FACTS_INCOMPLETE"
  if isCommand command .applied then
    let complete := do
      let command ← command
      let entryId ← command.interventionEntry
      let intervention ← interventions.find? fun item => item.interventionId == entryId
      let previous ← previous
      pure (appliedFactsComplete previous next published command entryId intervention)
    require (complete == some true) "BUSINESS_INTERVENTION_APPLIED_FACTS_INCOMPLETE"
  else pure ()

/-- A version that ends an accepted intervention without applying it. -/
def RuntimeIntervention.isRejection (intervention : RuntimeIntervention) : Bool :=
  intervention.acceptedCommandId.isSome &&
    (intervention.state == .failed || intervention.state == .withdrawn)

def rejectedFactsComplete (previous : TaskBusinessContext) (next : TaskBusinessContext)
    (command : BusinessCommandRecord) (entryId : String) (intervention : RuntimeIntervention) :
    Bool :=
  let resultRefs := command.resultRefs.getD []
  2 ≤ intervention.revision && intervention.acceptedCommandId == some command.commandId &&
    intervention.effectivePlanRevision == previous.effectivePlanRevision &&
    next.effectivePlanRevision == previous.effectivePlanRevision &&
    next.interventionRefs.contains intervention.ref &&
    next.activeRefs.values.all (fun ref => !(ref.kind == .intervention && ref.id == entryId)) &&
    decide resultRefs.Nodup && sameResults command intervention &&
    resultRefs.all (fun ref => (contextObjectRefs next).contains ref) &&
    (!(intervention.interventionType.changesRoute && next.summary.status == .inProgress) ||
      next.activeRefs.get? "route" == previous.activeRefs.get? "route") &&
    (intervention.interventionType != .reconAdjustArea ||
      next.activeRefs.get? "reconEffectiveArea" == previous.activeRefs.get? "reconEffectiveArea")

/-- A claimed adjustment cannot fail silently or switch the effective plan on rejection. -/
def assertInterventionRejectedFacts (previous : Option TaskBusinessContext)
    (next : TaskBusinessContext) (published : List BusinessObjectVersion)
    (command : Option BusinessCommandRecord) : Except String Unit := do
  let rejectedObjects := (publishedInterventions published).filter
    RuntimeIntervention.isRejection
  require (rejectedObjects.isEmpty || (rejectedObjects.length == 1 && isCommand command .rejected))
    "BUSINESS_INTERVENTION_REJECTED_FACTS_INCOMPLETE"
  if isCommand command .rejected then
    let complete := do
      let command ← command
      let entryId ← command.interventionEntry
      let intervention ← rejectedObjects.find? fun item => item.interventionId == entryId
      let previous ← previous
      pure (rejectedFactsComplete previous next command entryId intervention)
    require (complete == some true) "BUSINESS_INTERVENTION_REJECTED_FACTS_INCOMPLETE"
  else pure ()

def announces (ref : BusinessObjectRef) (event : TaskBusinessEventDraft) : Bool :=
  match event.body.payload with
  | .objectChanged kind payload => kind == ref.kind && payload.ref == ref
  | _ => false

def announcedChange (ref : BusinessObjectRef) (event : TaskBusinessEventDraft) :
    Option ObjectChanged :=
  match event.body.payload with
  | .objectChanged kind payload => if kind = ref.kind ∧ payload.ref = ref then some payload else none
  | _ => none

def contextDelta? (event : TaskBusinessEventDraft) : Option BusinessContextDelta :=
  match event.body.payload with
  | .businessEvent payload => payload.contextDelta
  | _ => none

/-- An event that shows the plan revision and the active references of a Context. -/
def showsMetadata (context : TaskBusinessContext) (event : TaskBusinessEventDraft) : Bool :=
  (contextDelta? event).any fun delta =>
    delta.effectivePlanRevision == some context.effectivePlanRevision &&
      delta.activeRefs.any fun activeRefs => ActiveRefs.same activeRefs context.activeRefs

/-- A terminal adjustment must be discoverable from its committed public source boundary. -/
def assertInterventionTerminalPublicEvents (context : TaskBusinessContext)
    (published : List BusinessObjectVersion) (command : Option BusinessCommandRecord)
    (events : List TaskBusinessEventDraft) : Except String Unit :=
  match command with
  | none => .ok ()
  | some command =>
    if command.commandType ≠ .intervention ∨ command.state = .accepted then .ok ()
    else
      let terminal := (publishedInterventions published).find? fun item =>
        item.acceptedCommandId == some command.commandId &&
          (if command.state = .applied then item.state == .applied
            else item.state == .failed || item.state == .withdrawn)
      match terminal with
      | none => .error "BUSINESS_INTERVENTION_PUBLIC_EVENT_REQUIRED"
      | some terminal =>
        let interventionEvent :=
          match events.filterMap (announcedChange terminal.ref) with
          | [payload] => payload.change == .update &&
              payload.previousRevision == some (terminal.revision - 1)
          | _ => false
        let resultEvents := published.all fun item =>
          !(command.resultRefs.getD []).contains item.businessObjectRef ||
            events.any (announces item.businessObjectRef)
        require (interventionEvent && events.any (showsMetadata context) && resultEvents)
          "BUSINESS_INTERVENTION_PUBLIC_EVENT_REQUIRED"

def areaRevision (area : TaskArtifact) : Option Nat :=
  ((Json.lookup "areaRevision" (area.properties.getD [])).bind natural?).filter (1 ≤ ·)

def areaFactsComplete (previous next : TaskBusinessContext) (ref : BusinessObjectRef)
    (area reset : TaskArtifact) : Bool :=
  let properties := (next.summary.properties.getD []).map Prod.fst
  ref.kind == .artifact && ref.id == "recon-requested-area" && area.artifactType == "recon.area" &&
    area.semantics == "planned" && area.availability == "available" &&
    reset.artifactType == "recon.covered_area" && reset.availability == "not_produced_yet" &&
    reset.reasonCode == some "COVERAGE_RESET_FOR_NEW_AREA" &&
    area.updatedAt.millis ≤ reset.updatedAt.millis &&
    reset.updatedAt.millis ≤ next.updatedAt.millis &&
    next.effectivePlanRevision == previous.effectivePlanRevision + 1 &&
    next.artifactRefs.contains ref &&
    next.artifactRefs.contains (BusinessObjectVersion.artifact reset).businessObjectRef &&
    ["reconCoverage", "reconCoverageCursorHash", "reconCoverageSignature",
      "reconCoverageMissionId"].all fun key => !properties.contains key

def announcesUpdate (target : BusinessObjectRef) (event : TaskBusinessEventDraft) : Bool :=
  (announcedChange target event).any fun payload =>
    payload.change == .update && payload.previousRevision == some (target.revision - 1)

/-- Switching a recon area must retire the old coverage basis in the same public change. -/
def assertReconAreaAdoptionFacts (previous : Option TaskBusinessContext)
    (next : TaskBusinessContext) (published : List BusinessObjectVersion)
    (events : List TaskBusinessEventDraft) (previousEffectiveArea : Option BusinessObjectVersion) :
    Except String Unit :=
  let ref := next.activeRefs.get? "reconEffectiveArea"
  let previousRef := previous.bind fun previous => previous.activeRefs.get? "reconEffectiveArea"
  if ref = previousRef then .ok ()
  else
    match ref with
    | none => .error "RECON_EFFECTIVE_AREA_REF_REMOVED"
    | some ref =>
      let artifacts := published.filterMap BusinessObjectVersion.artifact?
      let area := artifacts.find? fun artifact =>
        artifact.artifactId == ref.id && artifact.revision == ref.revision
      let reset := artifacts.find? fun artifact => artifact.artifactId == "recon-covered-area"
      match previous, area, reset with
      | some previous, some area, some reset => do
        require (areaFactsComplete previous next ref area reset)
          "RECON_AREA_ADOPTION_FACTS_INCOMPLETE"
        require (previousRef.isNone || previousEffectiveArea.isSome)
          "RECON_PREVIOUS_EFFECTIVE_AREA_INVALID"
        let previousRevision := (previousEffectiveArea.bind
            BusinessObjectVersion.artifact?).bind fun artifact =>
          if artifact.artifactType = "recon.area" ∧ artifact.availability = "available" then
            areaRevision artifact
          else none
        require (previousEffectiveArea.isNone || previousRevision.isSome)
          "RECON_PREVIOUS_EFFECTIVE_AREA_INVALID"
        require ((areaRevision area).any fun nextRevision =>
            previousRevision.all (· < nextRevision))
          "RECON_AREA_REVISION_NOT_ADVANCED"
        require (next.activeRefs.get? "currentFootprint").isNone
          "RECON_AREA_ADOPTION_FOOTPRINT_STALE"
        let resetRef := (BusinessObjectVersion.artifact reset).businessObjectRef
        require (events.any (announcesUpdate ref) && events.any (announcesUpdate resetRef) &&
            events.any fun event => showsMetadata next event &&
              ((contextDelta? event).bind BusinessContextDelta.summary).any fun summary =>
                summary.same next.summary)
          "RECON_AREA_ADOPTION_PUBLIC_EVENTS_REQUIRED"
      | _, _, _ => .error "RECON_AREA_ADOPTION_FACTS_INCOMPLETE"

structure BusinessContentWrite where
  artifactId : String
  revision : Nat
  handle : String
  bytes : List UInt8

structure ExpectedContent where
  artifactId : String
  revision : Nat
  content : ContentRef
  deriving DecidableEq

structure StoredBusinessContent extends ExpectedContent where
  bytes : List UInt8

structure TrajectoryProjectionWrite where
  artifactId : String
  revision : Nat
  projection : Json

structure BusinessChangeSet where
  scope : BoundExecutionScope
  /-- `none` creates a Context; otherwise compare-and-swap its exact revision. -/
  expectedContextRevision : Option Nat
  context : TaskBusinessContext
  objects : List BusinessObjectVersion
  contents : List BusinessContentWrite
  command : Option BusinessCommandRecord
  trajectoryEvidence : List TrajectoryProjectionWrite

def requiredContents (objects : List BusinessObjectVersion) : List ExpectedContent :=
  objects.flatMap fun version =>
    match version with
    | .artifact artifact =>
      if artifact.availability = "available" then
        artifact.contents.filterMap fun content => content.map fun content =>
          { artifactId := artifact.artifactId
            revision := artifact.revision
            content := content }
      else []
    | _ => []

def addExpected (required : OrderedMap String ExpectedContent) (expected : ExpectedContent) :
    Except String (OrderedMap String ExpectedContent) := do
  require ((required.get? expected.content.handle).all (· == expected))
    "ARTIFACT_CONTENT_HANDLE_CONFLICT"
  pure (required.set expected.content.handle expected)

/-- The bytes of one write, against what its artifact says about them. -/
def prepareContent (libraries : Libraries) (required : OrderedMap String ExpectedContent)
    (prepared : List StoredBusinessContent) (write : BusinessContentWrite) :
    Except String (List StoredBusinessContent) :=
  match required.get? write.handle with
  | none => .error "ARTIFACT_CONTENT_UNREFERENCED"
  | some expected => do
    require (expected.artifactId == write.artifactId && expected.revision == write.revision)
      "ARTIFACT_CONTENT_UNREFERENCED"
    require (prepared.all fun other => other.content.handle != write.handle)
      "ARTIFACT_CONTENT_DUPLICATE"
    require (write.bytes.length == expected.content.sizeBytes) "ARTIFACT_CONTENT_SIZE_MISMATCH"
    require (libraries.hashBytes write.bytes == expected.content.sha256)
      "ARTIFACT_CONTENT_HASH_MISMATCH"
    if expected.content.mediaType.toList.tails.any "json".toList.isPrefixOf then
      match libraries.parseJson write.bytes with
      | none => .error "ARTIFACT_CONTENT_JSON_INVALID"
      | some parsed =>
        require ((parsed.field? "kind").bind Json.text? != some "content_ref")
          "ARTIFACT_CONTENT_RECURSIVE_REF"
    pure (prepared ++ [{ expected with bytes := write.bytes }])

def validateBusinessContentWrites (libraries : Libraries) (changeSet : BusinessChangeSet) :
    Except String (List StoredBusinessContent) := do
  let required ← (requiredContents changeSet.objects).foldlM addExpected OrderedMap.empty
  let prepared ← changeSet.contents.foldlM (prepareContent libraries required) []
  require (prepared.length == required.entries.length) "ARTIFACT_CONTENT_BYTES_REQUIRED"
  pure prepared

end SdarRuntime.Business
