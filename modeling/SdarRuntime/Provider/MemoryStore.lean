import SdarRuntime.Provider.BusinessFacts

/-!
The in-memory store of business Contexts: what it keeps for a scope, the claim of a command and
the commit of a change set. An operation that throws leaves the store as it was.
-/

namespace SdarRuntime.Business

structure ScopeState where
  context : Option TaskBusinessContext
  versions : OrderedMap ObjectKey (OrderedMap Nat BusinessObjectVersion)
  latest : OrderedMap ObjectKey Nat
  commands : OrderedMap String BusinessCommandRecord
  contents : OrderedMap String StoredBusinessContent
  trajectoryEvidence : OrderedMap (String × Nat) Json

def emptyState : ScopeState :=
  { context := none
    versions := OrderedMap.empty
    latest := OrderedMap.empty
    commands := OrderedMap.empty
    contents := OrderedMap.empty
    trajectoryEvidence := OrderedMap.empty }

namespace ScopeState

def version? (state : ScopeState) (ref : BusinessObjectRef) : Option BusinessObjectVersion :=
  (state.versions.get? ref.key).bind fun versions => versions.get? ref.revision

def setVersion (state : ScopeState) (version : BusinessObjectVersion) : ScopeState :=
  let ref := version.businessObjectRef
  let versions := (state.versions.get? ref.key).getD OrderedMap.empty
  { state with
    versions := state.versions.set ref.key (versions.set ref.revision version)
    latest := state.latest.set ref.key ref.revision }

def sameClaim (existing command : BusinessCommandRecord) : Bool :=
  existing.commandType == command.commandType && existing.requestHash == command.requestHash &&
    existing.responseHash == command.responseHash && existing.entryKey == command.entryKey &&
    existing.runtimeCommandSequence == command.runtimeCommandSequence

def assertEntry (state : ScopeState) (expectedEntryRef : Option BusinessObjectRef)
    (command : BusinessCommandRecord) (now : Now) : Except String Unit :=
  match expectedEntryRef with
  | none => .ok ()
  | some entryRef => do
    assertBusinessCommandEntryCurrent state.context entryRef command.commandType
    assertBusinessCommandEntryOpenAt (state.version? entryRef) command.commandType now
      (state.context.map TaskBusinessContext.effectivePlanRevision)

/-- Another command of the ledger does not stand in the way of a claim. -/
def assertUnclaimed (command other : BusinessCommandRecord) : Except String Unit := do
  require (!(command.entryKey.isSome && other.entryKey == command.entryKey &&
      (other.state == .accepted || other.state == .applied)))
    "BUSINESS_ENTRY_ALREADY_CLAIMED"
  require (!(command.commandType == .intervention && other.commandType == .intervention &&
      other.state == .accepted))
    "BUSINESS_CHANGE_IN_PROGRESS"
  require (!(command.runtimeCommandSequence.isSome && other.commandType == command.commandType &&
      other.runtimeCommandSequence == command.runtimeCommandSequence))
    "RUNTIME_COMMAND_SEQUENCE_CONFLICT"

/-- Context and version of a submission, stored with the claim of its command. -/
def publishSubmission (libraries : Libraries) (scope : BoundExecutionScope) (state : ScopeState)
    (expectedEntryRef : Option BusinessObjectRef) (command : BusinessCommandRecord) (now : Now) :
    Except String (ScopeState × List TaskBusinessEventDraft) :=
  match expectedEntryRef, state.context with
  | some entryRef, some context =>
    match state.version? entryRef with
    | none => .error "BUSINESS_ENTRY_NOT_CURRENT"
    | some previous => do
      require (state.latest.get? entryRef.key == some entryRef.revision)
        "BUSINESS_ENTRY_NOT_CURRENT"
      let submission ← prepareInterventionSubmission libraries scope context previous command
        now
      pure ({ state.setVersion submission.version with context := some submission.context },
        submission.events)
  | _, _ => .error "BUSINESS_INTERVENTION_SUBMISSION_INVALID"

end ScopeState

structure ClaimRequest where
  scope : BoundExecutionScope
  candidate : BusinessCommandRecord
  expectedEntryRef : Option BusinessObjectRef
  now : Now
  expectedContextRevision : Option Nat
  publishInterventionSubmission : Bool

structure BusinessCommandClaim where
  claimed : Bool
  record : BusinessCommandRecord
  events : List TaskBusinessEventDraft

namespace ScopeState

def claimCommand (libraries : Libraries) (state : ScopeState) (request : ClaimRequest) :
    Except String (BusinessCommandClaim × ScopeState) := do
  let command ← parseBusinessCommandRecord libraries request.scope request.candidate
  require (command.state == .accepted) "BUSINESS_COMMAND_CLAIM_STATE_INVALID"
  match state.commands.get? command.commandId with
  | some existing => do
    require (sameClaim existing command) "COMMAND_ID_CONFLICT"
    pure
      ({ claimed := false
         record := existing
         events := [] }, state)
  | none => do
    require (request.expectedContextRevision.all fun expected =>
        state.context.map TaskBusinessContext.contextRevision == some expected)
      "CONTEXT_REVISION_CONFLICT"
    state.assertEntry request.expectedEntryRef command request.now
    forM state.commands.values (assertUnclaimed command)
    let (staged, events) ←
      if request.publishInterventionSubmission then
        publishSubmission libraries request.scope state request.expectedEntryRef command
          request.now
      else pure (state, [])
    pure
      ({ claimed := true
         record := command
         events := events },
        { staged with commands := staged.commands.set command.commandId command })

/-- A Context follows the one it was made for: the revision after it, no earlier plan or time,
and not behind a final one. -/
def assertContextFollows (current : Option TaskBusinessContext)
    (expectedContextRevision : Option Nat) (context : TaskBusinessContext) : Except String Unit :=
  do
    require (expectedContextRevision == current.map TaskBusinessContext.contextRevision)
      "BUSINESS_CONTEXT_REVISION_CONFLICT"
    require (match current with
        | none => context.contextRevision == 0 || context.contextRevision == 1
        | some current => context.contextRevision == current.contextRevision + 1)
      "BUSINESS_CONTEXT_REVISION_INVALID"
    require (current.all fun current =>
        current.effectivePlanRevision ≤ context.effectivePlanRevision)
      "BUSINESS_PLAN_REVISION_REGRESSION"
    require (current.all fun current => current.updatedAt.millis ≤ context.updatedAt.millis)
      "BUSINESS_CONTEXT_TIME_REGRESSION"
    require (current.all fun current => current.summary.status != .finalized)
      "BUSINESS_CONTEXT_FINALIZED"

/-- A change set part way: the state so far and the versions already published. -/
structure Staged where
  state : ScopeState
  published : List BusinessObjectVersion

def stageObject (libraries : Libraries) (scope : BoundExecutionScope) (staged : Staged)
    (candidate : BusinessObjectVersion) : Except String Staged := do
  let version ← parseBusinessObjectVersion libraries scope candidate
  let ref := version.businessObjectRef
  require (staged.published.all fun other => other.businessObjectRef.key != ref.key)
    "BUSINESS_OBJECT_DUPLICATE_IN_CHANGESET"
  let latestRevision := staged.state.latest.get? ref.key
  require (ref.revision == latestRevision.getD 0 + 1) "BUSINESS_OBJECT_REVISION_CONFLICT"
  let prior := latestRevision.bind fun revision =>
    staged.state.version? { ref with revision := revision }
  match prior with
  | none => pure ()
  | some prior => assertTransition prior version
  pure
    { state := staged.state.setVersion version
      published := staged.published ++ [version] }

/-- Active references are listed, and every reference of the Context is stored. -/
def assertContextRefs (context : TaskBusinessContext) (state : ScopeState) :
    Except String Unit := do
  require (context.activeRefs.values.all context.listedRefs.contains)
    "BUSINESS_ACTIVE_REF_NOT_LISTED"
  require ((context.activeRefs.values ++ context.listedRefs).all fun ref =>
      (state.version? ref).isSome)
    "BUSINESS_CONTEXT_REF_NOT_FOUND"

def assertReply (libraries : Libraries) (current : Option TaskBusinessContext)
    (context : TaskBusinessContext) (state : ScopeState) (version : BusinessObjectVersion) :
    Except String Unit :=
  match version with
  | .inputRequest input =>
    assertRequiredInputReplyClaim libraries current context input
      (input.responseCommandId.bind state.commands.get?)
  | _ => .ok ()

def sameCommand (claimed command : BusinessCommandRecord) : Bool :=
  claimed.commandType == command.commandType && claimed.requestHash == command.requestHash &&
    claimed.responseHash == command.responseHash && claimed.createdAt.text == command.createdAt.text &&
    claimed.entryKey == command.entryKey &&
    claimed.runtimeCommandSequence == command.runtimeCommandSequence &&
    claimed.responder == command.responder &&
    sameOption RuntimeInterventionCommand.same claimed.interventionRequest
      command.interventionRequest

def settleCommand (state : ScopeState) (terminal : Option BusinessCommandRecord) :
    Except String ScopeState :=
  match terminal with
  | none => .ok state
  | some command =>
    match state.commands.get? command.commandId with
    | none => .error "BUSINESS_COMMAND_CLAIM_REQUIRED"
    | some claimed => do
      require (sameCommand claimed command) "COMMAND_ID_CONFLICT"
      require (claimed.updatedAt.millis ≤ command.updatedAt.millis)
        "BUSINESS_COMMAND_TIME_REGRESSION"
      require (claimed.state == .accepted && command.state != .accepted)
        "BUSINESS_COMMAND_TRANSITION_INVALID"
      require ((command.resultRefs.getD []).all fun ref => (state.version? ref).isSome)
        "BUSINESS_COMMAND_RESULT_REF_NOT_FOUND"
      pure { state with commands := state.commands.set command.commandId command }

def storeContent (state : ScopeState) (content : StoredBusinessContent) :
    Except String ScopeState := do
  require (state.contents.get? content.content.handle).isNone "ARTIFACT_CONTENT_HANDLE_CONFLICT"
  pure { state with contents := state.contents.set content.content.handle content }

def recordEvidence (libraries : Libraries) (published : List BusinessObjectVersion)
    (state : ScopeState) (write : TrajectoryProjectionWrite) : Except String ScopeState :=
  match (published.filterMap BusinessObjectVersion.artifact?).find? fun artifact =>
      artifact.artifactId == write.artifactId with
  | none => .error "TRAJECTORY_EVIDENCE_ARTIFACT_NOT_IN_CHANGESET"
  | some artifact => do
    require (state.trajectoryEvidence.get? (write.artifactId, write.revision)).isNone
      "TRAJECTORY_EVIDENCE_DUPLICATE_IN_CHANGESET"
    let prior := if write.revision = 0 then none
      else state.trajectoryEvidence.get? (write.artifactId, write.revision - 1)
    let evidence ← libraries.buildProjectionEvidence artifact write.projection prior
    pure { state with
      trajectoryEvidence :=
        state.trajectoryEvidence.set (write.artifactId, write.revision) evidence }

/-- The reference whose version the new area of a change set is compared with. -/
def priorAreaRef (current : Option TaskBusinessContext) : BusinessObjectRef :=
  (current.bind fun current => current.activeRefs.get? "reconEffectiveArea").getD
    { kind := .artifact
      id := "recon-requested-area"
      revision := 1 }

/-- The facts a change set brings along, checked against the state before and the versions it
publishes. -/
def assertFacts (libraries : Libraries) (previous : ScopeState) (context : TaskBusinessContext)
    (staged : Staged) (terminal : Option BusinessCommandRecord)
    (events : List TaskBusinessEventDraft) : Except String Unit := do
  forM staged.published (assertReply libraries previous.context context staged.state)
  assertInterventionAppliedFacts previous.context context staged.published terminal
  assertInterventionRejectedFacts previous.context context staged.published terminal
  assertInterventionTerminalPublicEvents context staged.published terminal events
  assertReconAreaAdoptionFacts previous.context context staged.published events
    (staged.state.version? (priorAreaRef previous.context))

def commitChangeSet (libraries : Libraries) (previous : ScopeState)
    (changeSet : BusinessChangeSet) (events : List TaskBusinessEventDraft) :
    Except String ScopeState := do
  let context ← parseBusinessContext changeSet.scope changeSet.context
  let contents ← validateBusinessContentWrites libraries changeSet
  assertContextFollows previous.context changeSet.expectedContextRevision context
  let staged ← changeSet.objects.foldlM (stageObject libraries changeSet.scope)
    { state := { previous with context := some context }
      published := [] }
  assertContextRefs context staged.state
  let terminal ← changeSet.command.mapM (parseBusinessCommandRecord libraries changeSet.scope)
  assertFacts libraries previous context staged terminal events
  let settled ← settleCommand staged.state terminal
  let stored ← contents.foldlM storeContent settled
  changeSet.trajectoryEvidence.foldlM (recordEvidence libraries staged.published) stored

end ScopeState

structure MemoryTaskBusinessStore where
  scopes : OrderedMap String ScopeState
  businessEvents : List (BoundExecutionScope × TaskBusinessEventDraft)

inductive StoreOperation where
  | claimCommand (request : ClaimRequest)
  | commitChangeSet (changeSet : BusinessChangeSet)
  | commitBusinessChangeSet (changeSet : BusinessChangeSet)
      (events : List TaskBusinessEventDraft)

def StoreOperation.scope : StoreOperation → BoundExecutionScope
  | .claimCommand request => request.scope
  | .commitChangeSet changeSet => changeSet.scope
  | .commitBusinessChangeSet changeSet _ => changeSet.scope

namespace MemoryTaskBusinessStore

def empty : MemoryTaskBusinessStore :=
  { scopes := OrderedMap.empty
    businessEvents := [] }

/-- What the store keeps under a key; nothing yet without an entry. -/
def scopeState (store : MemoryTaskBusinessStore) (key : String) : ScopeState :=
  (store.scopes.get? key).getD emptyState

/-- An operation on the state of its scope, with the events it emits. -/
def performIn (libraries : Libraries) (state : ScopeState) :
    StoreOperation → Except String (ScopeState × List TaskBusinessEventDraft)
  | .claimCommand request => do
    let (claim, next) ← state.claimCommand libraries request
    pure (next, claim.events)
  | .commitChangeSet changeSet => do
    let next ← state.commitChangeSet libraries changeSet []
    pure (next, [])
  | .commitBusinessChangeSet changeSet events => do
    let context ← parseBusinessContext changeSet.scope changeSet.context
    let drafts ← events.mapM (parseTaskBusinessEventDraft context)
    let next ← state.commitChangeSet libraries changeSet drafts
    pure (next, drafts)

def perform (libraries : Libraries) (store : MemoryTaskBusinessStore)
    (operation : StoreOperation) : Except String MemoryTaskBusinessStore := do
  let key := operation.scope.key
  let (next, events) ← performIn libraries (store.scopeState key) operation
  pure
    { scopes := store.scopes.set key next
      businessEvents := store.businessEvents ++ events.map (Prod.mk operation.scope) }

def step (libraries : Libraries) (store : MemoryTaskBusinessStore) (operation : StoreOperation) :
    MemoryTaskBusinessStore :=
  match store.perform libraries operation with
  | .ok next => next
  | .error _ => store

def run (libraries : Libraries) (operations : List StoreOperation) : MemoryTaskBusinessStore :=
  operations.foldl (step libraries) empty

end MemoryTaskBusinessStore

end SdarRuntime.Business
