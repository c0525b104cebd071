import SdarRuntime.Configuration.Center
import SdarRuntime.Library.Histories

/-!
The publication service over the rows of one configuration target. Every call runs its work in a
transaction, one statement after another, and starts it once more after a conflict. Statements see
the committed rows and what their own transaction wrote. A statement that meets a row another
transaction wrote waits for the end of that transaction.
-/

namespace SdarRuntime

namespace Configuration

inductive ConfigRevisionStatus where
  | draft
  | validated
  | published
  | superseded
  | rejected
  deriving DecidableEq

structure ConfigRevision where
  revisionId : String
  revision : Nat
  checksum : String
  applyMode : ConfigurationApplyMode
  status : ConfigRevisionStatus
  content : List (String × Json)

/-- The committed rows of one target: the definition it is registered to, and its revisions. -/
structure TargetTables where
  definition : Option String
  revisions : List ConfigRevision

structure Uncommitted where
  definition : Option String
  revision : Option ConfigRevision
  superseded : Option String

inductive DatabaseFailure where
  | alreadyExists
  | concurrencyConflict
  | other
  deriving DecidableEq

inductive PublicationFailure where
  | center (error : ConfigurationCenterError)
  | database (failure : DatabaseFailure)
  deriving DecidableEq

inductive PublicationOutcome where
  | published
  | noChange
  deriving DecidableEq

structure ConfigurationPublicationResult where
  outcome : PublicationOutcome
  revision : ConfigRevision

inductive PublicationRequest where
  | publish (snapshot : ConfigurationCenter.ConfigurationPublicationSnapshot)
  | rollback (draft : ConfigurationDraft) (sourceRevisionId : String)

def PublicationRequest.key : PublicationRequest → ConfigurationBusinessKey
  | .publish snapshot => snapshot.draft.key
  | .rollback draft _ => draft.key

/-- What a revision is created from, and the published one it replaces. -/
structure NewRevision where
  content : List (String × Json)
  checksum : String
  applyMode : ConfigurationApplyMode
  current : Option ConfigRevision

/-- The statement a call comes to next. `createRevision` reads the latest number and inserts the
next one; it may wait in between. -/
inductive PublicationStage where
  | begin
  | getRevision
  | getPublishedRevision (work : NewRevision)
  | getDefinition (work : NewRevision)
  | saveDefinition (work : NewRevision)
  | listRevisions (work : NewRevision)
  | createRevision (work : NewRevision) (latest : Option Nat)
  | insertRevision (work : NewRevision) (number : Nat)
  | validate (work : NewRevision)
  | supersede (work : NewRevision)
  | publish (work : NewRevision)
  | appendAudit (result : ConfigurationPublicationResult)
  | commit (result : ConfigurationPublicationResult)
  | returned (result : Except PublicationFailure ConfigurationPublicationResult)

structure PublicationCall where
  request : PublicationRequest
  expectedPublishedRevision : Option Nat
  attempt : Nat
  stage : PublicationStage
  uncommitted : Uncommitted

structure PublicationSystem where
  center : ConfigurationCenter
  tables : TargetTables
  calls : OrderedMap Nat PublicationCall

namespace TargetTables

def published (tables : TargetTables) : Option ConfigRevision :=
  tables.revisions.find? fun row => row.status == .published

def highest (tables : TargetTables) : Nat :=
  (tables.revisions.map fun row => row.revision).foldr max 0

def latest (tables : TargetTables) : Option Nat :=
  if tables.revisions.isEmpty then none else some tables.highest

end TargetTables

namespace Uncommitted

def none : Uncommitted := {
  definition := Option.none
  revision := Option.none
  superseded := Option.none
}

end Uncommitted

def supersedeRow (revisionId : String) (row : ConfigRevision) : ConfigRevision :=
  if row.revisionId = revisionId then { row with status := .superseded } else row

def TargetTables.commit (tables : TargetTables) (uncommitted : Uncommitted) : TargetTables := {
  definition := uncommitted.definition.or tables.definition
  revisions :=
    (match uncommitted.superseded with
      | none => tables.revisions
      | some revisionId => tables.revisions.map (supersedeRow revisionId)) ++
    uncommitted.revision.toList
}

/-- What a statement gives: it waits, the transaction goes on or fails, or it is committed. -/
inductive StatementOutcome where
  | waits
  | next (stage : PublicationStage) (uncommitted : Uncommitted)
  | fails (failure : PublicationFailure)
  | commits (result : ConfigurationPublicationResult)

/-- What the outside gives to a statement: a random id, and whether a revision that the target
does not have is one of another target. -/
structure PublicationReading where
  newId : String
  elsewhere : Bool

def publishConflict : ConfigurationCenterError := {
  code := "CONFIGURATION_PUBLISH_CONFLICT"
  message := "The published configuration changed; reload and retry"
}

def revisionNotFound : ConfigurationCenterError := {
  code := "CONFIGURATION_REVISION_NOT_FOUND"
  message := "The rollback source revision does not exist"
}

def rollbackTargetMismatch : ConfigurationCenterError := {
  code := "CONFIGURATION_ROLLBACK_TARGET_MISMATCH"
  message := "The rollback source belongs to a different configuration target"
}

def targetNotAllowed : ConfigurationCenterError := {
  code := "CONFIGURATION_TARGET_NOT_ALLOWED"
  message := "The target is registered to a different configuration definition"
}

def invalidExpectedRevision : ConfigurationCenterError := {
  code := "CONFIGURATION_INPUT_INVALID"
  message := "The expected published revision is invalid"
}

def conflict : StatementOutcome :=
  .fails (.database .concurrencyConflict)

namespace PublicationCall

/-- The work that follows `#ensureDefinition`. -/
def definitionEnsured (call : PublicationCall) (work : NewRevision) : PublicationStage :=
  match call.request with
  | .publish _ => .getPublishedRevision work
  | .rollback _ _ => .listRevisions work

def definitionId (center : ConfigurationCenter) (call : PublicationCall) :
    Except ConfigurationCenterError String :=
  match call.request with
  | .publish snapshot => .ok snapshot.definition.definitionId
  | .rollback draft _ => (center.definition draft.definitionId).map fun definition =>
    definition.definitionId

def getRevision (tables : TargetTables) (reading : PublicationReading) (call : PublicationCall)
    (sourceRevisionId : String) : StatementOutcome :=
  match tables.revisions.find? fun row => row.revisionId == sourceRevisionId with
  | some source =>
    if source.status = .published ∨ source.status = .superseded then
      .next (.getPublishedRevision {
        content := source.content
        checksum := source.checksum
        applyMode := .restartRequired
        current := none
      }) call.uncommitted
    else .fails (.center revisionNotFound)
  | none =>
    .fails (.center (if reading.elsewhere then rollbackTargetMismatch else revisionNotFound))

def getPublishedRevision (tables : TargetTables) (call : PublicationCall) (work : NewRevision) :
    StatementOutcome :=
  let current := tables.published
  match current.filter fun row => row.checksum == work.checksum with
  | some row => .next (.commit { outcome := .noChange, revision := row }) call.uncommitted
  | none =>
    if current.map (fun row => row.revision) ≠ call.expectedPublishedRevision then
      .fails (.center publishConflict)
    else
      match call.request with
      | .publish _ => .next (.listRevisions { work with current := current }) call.uncommitted
      | .rollback _ _ => .next (.getDefinition { work with current := current }) call.uncommitted

def getDefinition (center : ConfigurationCenter) (tables : TargetTables) (call : PublicationCall)
    (work : NewRevision) : StatementOutcome :=
  match call.definitionId center with
  | .error error => .fails (.center error)
  | .ok definitionId =>
    match tables.definition with
    | some logicalId =>
      if logicalId = definitionId then .next (call.definitionEnsured work) call.uncommitted
      else .fails (.center targetNotAllowed)
    | none => .next (.saveDefinition work) call.uncommitted

def saveDefinition (center : ConfigurationCenter) (tables : TargetTables)
    (others : List Uncommitted) (call : PublicationCall) (work : NewRevision) : StatementOutcome :=
  match call.definitionId center with
  | .error error => .fails (.center error)
  | .ok definitionId =>
    if tables.definition.isSome then .fails (.database .alreadyExists)
    else if others.any fun other => other.definition.isSome then .waits
    else .next (call.definitionEnsured work) {
      call.uncommitted with definition := some definitionId }

def createRevision (tables : TargetTables) (call : PublicationCall) (work : NewRevision)
    (latest : Option Nat) : StatementOutcome :=
  if (call.uncommitted.definition.or tables.definition).isNone then conflict
  else if (latest = none ∧ tables.highest = 0) ∨ latest = some tables.highest then
    .next (.insertRevision work (tables.highest + 1)) call.uncommitted
  else conflict

/-- The insert of `createRevision`: numbers and ids are unique. -/
def insertRevision (tables : TargetTables) (others : List Uncommitted)
    (reading : PublicationReading) (call : PublicationCall) (work : NewRevision) (number : Nat) :
    StatementOutcome :=
  let clashes (row : ConfigRevision) : Bool :=
    row.revision == number || row.revisionId == reading.newId
  if tables.revisions.any clashes then conflict
  else if others.any fun other => other.revision.any clashes then .waits
  else .next (.validate work) {
    call.uncommitted with
    revision := some {
      revisionId := reading.newId
      revision := number
      checksum := work.checksum
      applyMode := work.applyMode
      status := .draft
      content := work.content
    } }

def validate (call : PublicationCall) (work : NewRevision) : StatementOutcome :=
  match call.uncommitted.revision.filter fun row => row.status == .draft with
  | none => conflict
  | some row => .next (if work.current.isSome then .supersede work else .publish work) {
      call.uncommitted with revision := some { row with status := .validated } }

def supersede (tables : TargetTables) (others : List Uncommitted) (call : PublicationCall)
    (work : NewRevision) : StatementOutcome :=
  match work.current with
  | none => .next (.publish work) call.uncommitted
  | some current =>
    match tables.revisions.find? fun row => row.revisionId == current.revisionId with
    | none => conflict
    | some row =>
      if row.status ≠ .published then conflict
      else if others.any fun other => other.superseded == some row.revisionId then .waits
      else .next (.publish work) {
        call.uncommitted with superseded := some row.revisionId }

def publish (tables : TargetTables) (others : List Uncommitted) (call : PublicationCall) :
    StatementOutcome :=
  match call.uncommitted.revision.filter fun row => row.status == .validated with
  | none => conflict
  | some row =>
    if others.any fun other =>
        other.superseded.isSome || other.revision.any fun row => row.status == .published then
      .waits
    else if tables.revisions.any fun other =>
        other.status == .published && call.uncommitted.superseded != some other.revisionId then
      .fails (.database .other)
    else
      let published := { row with status := .published }
      .next (.appendAudit { outcome := .published, revision := published }) {
        call.uncommitted with revision := some published }

variable (checksum : List (String × Json) → String)

/-- The next statement of a call, while other transactions have written `others`. -/
def statement (center : ConfigurationCenter) (tables : TargetTables) (others : List Uncommitted)
    (reading : PublicationReading) (call : PublicationCall) : StatementOutcome :=
  match call.stage with
  | .begin =>
    match call.request with
    | .publish snapshot => .next (.getDefinition {
        content := snapshot.effectiveContent
        checksum := checksum snapshot.effectiveContent
        applyMode := snapshot.applyMode
        current := none
      }) call.uncommitted
    | .rollback _ _ => .next .getRevision call.uncommitted
  | .getRevision =>
    match call.request with
    | .publish _ => .waits
    | .rollback _ sourceRevisionId => call.getRevision tables reading sourceRevisionId
  | .getPublishedRevision work => call.getPublishedRevision tables work
  | .getDefinition work => call.getDefinition center tables work
  | .saveDefinition work => call.saveDefinition center tables others work
  | .listRevisions work => .next (.createRevision work tables.latest) call.uncommitted
  | .createRevision work latest => call.createRevision tables work latest
  | .insertRevision work number => call.insertRevision tables others reading work number
  | .validate work => call.validate work
  | .supersede work => call.supersede tables others work
  | .publish _ => call.publish tables others
  | .appendAudit result => .next (.commit result) call.uncommitted
  | .commit result => .commits result
  | .returned _ => .waits

/-- `#withConcurrencyRetry`: the transaction is rolled back, and begun again after the first
conflict. -/
def failed (call : PublicationCall) (failure : PublicationFailure) : PublicationCall :=
  if call.attempt = 0 ∧ (failure = .database .alreadyExists ∨
      failure = .database .concurrencyConflict) then
    { call with attempt := 1, stage := .begin, uncommitted := .none }
  else { call with stage := .returned (.error failure), uncommitted := .none }

def returned (call : PublicationCall)
    (result : Except PublicationFailure ConfigurationPublicationResult) : PublicationCall :=
  { call with stage := .returned result, uncommitted := .none }

def hasReturned (call : PublicationCall) : Bool :=
  match call.stage with
  | .returned _ => true
  | _ => false

end PublicationCall

namespace PublicationSystem

variable (validator : Validator) (padded : Json → String)
variable (checksum : List (String × Json) → String) (key : ConfigurationBusinessKey)

/-- An edit of a draft, the start of a call, its next statement, a statement that fails at the
database, or a commit whose answer is lost. -/
inductive Event where
  | edit (operation : ConfigurationCenter.Operation)
  | publish (id : Nat) (draftId : String) (expectedDraftVersion : Nat)
      (expectedPublishedRevision : Option Nat)
  | rollback (id : Nat) (draftId : String) (expectedDraftVersion : Nat) (sourceRevisionId : String)
      (expectedPublishedRevision : Option Nat)
  | advance (id : Nat) (reading : PublicationReading)
  | fault (id : Nat) (failure : DatabaseFailure)
  | commitLost (id : Nat)

def others (system : PublicationSystem) (id : Nat) : List Uncommitted :=
  (system.calls.erase id).values.map fun call => call.uncommitted

def setCall (system : PublicationSystem) (id : Nat) (call : PublicationCall) :
    PublicationSystem :=
  { system with calls := system.calls.set id call }

def begun (request : PublicationRequest) (expectedPublishedRevision : Option Nat) :
    PublicationCall := {
  request := request
  expectedPublishedRevision := expectedPublishedRevision
  attempt := 0
  stage := .begin
  uncommitted := .none
}

def validExpectedRevision (expected : Option Nat) : Except ConfigurationCenterError Unit :=
  ConfigurationCenter.check (expected.all fun revision => 1 ≤ revision) invalidExpectedRevision

def publicationRequest (center : ConfigurationCenter) (draftId : String) (version : Nat)
    (expected : Option Nat) : Except ConfigurationCenterError PublicationRequest := do
  validExpectedRevision expected
  let snapshot ← center.publicationSnapshot validator padded draftId version
  return .publish snapshot

def rollbackRequest (center : ConfigurationCenter) (draftId : String) (version : Nat)
    (sourceRevisionId : String) (expected : Option Nat) :
    Except ConfigurationCenterError PublicationRequest := do
  validExpectedRevision expected
  let draft ← center.draft draftId
  ConfigurationCenter.check (draft.version == version) ConfigurationCenter.versionConflict
  return .rollback draft sourceRevisionId

/-- A call for the target starts; one for another target writes other rows, and one that is
refused writes none. -/
def start (system : PublicationSystem) (id : Nat)
    (request : Except ConfigurationCenterError PublicationRequest) (expected : Option Nat) :
    PublicationSystem :=
  match system.calls.get? id, request with
  | none, .ok request =>
    if request.key = key then system.setCall id (begun request expected)
    else system
  | _, _ => system

def committed (system : PublicationSystem) (id : Nat) (call : PublicationCall)
    (result : Except PublicationFailure ConfigurationPublicationResult) : PublicationSystem :=
  { system with
    tables := system.tables.commit call.uncommitted
    calls := system.calls.set id (call.returned result) }

def advance (system : PublicationSystem) (id : Nat) (reading : PublicationReading) :
    PublicationSystem :=
  match system.calls.get? id with
  | none => system
  | some call =>
    match call.statement checksum system.center system.tables (system.others id) reading with
    | .waits => system
    | .next stage uncommitted =>
      system.setCall id { call with stage := stage, uncommitted := uncommitted }
    | .fails failure => system.setCall id (call.failed failure)
    | .commits result => system.committed id call (.ok result)

def next (system : PublicationSystem) : Event → PublicationSystem
  | .edit operation => { system with center := system.center.step validator padded operation }
  | .publish id draftId version expected =>
    system.start key id (publicationRequest validator padded system.center draftId version expected)
      expected
  | .rollback id draftId version sourceRevisionId expected =>
    system.start key id (rollbackRequest system.center draftId version sourceRevisionId expected)
      expected
  | .advance id reading => system.advance checksum id reading
  | .fault id failure =>
    match system.calls.get? id with
    | none => system
    | some call =>
      if call.hasReturned then system
      else system.setCall id (call.failed (.database failure))
  | .commitLost id =>
    match system.calls.get? id with
    | none => system
    | some call =>
      match call.stage with
      | .commit _ => system.committed id call (.error (.database .other))
      | _ => system

def initial (definitions : List ConfigurationDefinition) : PublicationSystem := {
  center := ConfigurationCenter.create definitions
  tables := { definition := none, revisions := [] }
  calls := OrderedMap.empty
}

end PublicationSystem

end Configuration

end SdarRuntime
