import Mathlib.Data.List.Induction
import SdarRuntime.Provider.MemoryStore

/-!
What an operation of the business store can do to a scope: repeat a claim, claim a command,
submit an intervention with it, or commit a change set. Runs of operations follow from these.
-/

namespace SdarRuntime.Business

open Except OrderedMap

theorem ref_eq_iff {first second : BusinessObjectRef} :
    first = second ↔ first.key = second.key ∧ first.revision = second.revision := by
  constructor
  · intro same
    rw [same]
    exact ⟨rfl, rfl⟩
  · rintro ⟨sameKey, sameRevision⟩
    cases first
    cases second
    cases congrArg Prod.fst sameKey
    cases congrArg Prod.snd sameKey
    cases sameRevision
    rfl

namespace ScopeState

theorem version?_setVersion (state : ScopeState) (version : BusinessObjectVersion)
    (ref : BusinessObjectRef) :
    (state.setVersion version).version? ref =
      if ref = version.businessObjectRef then some version else state.version? ref := by
  unfold version? setVersion
  dsimp only
  by_cases sameKey : ref.key = version.businessObjectRef.key
  · rw [sameKey, get?_set_self, Option.bind_some]
    by_cases sameRevision : ref.revision = version.businessObjectRef.revision
    · rw [if_pos (ref_eq_iff.mpr ⟨sameKey, sameRevision⟩), sameRevision,
        get?_set_self]
    · have different : ref ≠ version.businessObjectRef :=
        fun same => sameRevision (ref_eq_iff.mp same).2
      rw [if_neg different, get?_set_ne _ _ sameRevision]
      cases state.versions.get? version.businessObjectRef.key with
      | none => rfl
      | some versions => rfl
  · have different : ref ≠ version.businessObjectRef :=
      fun same => sameKey (ref_eq_iff.mp same).1
    rw [if_neg different, get?_set_ne _ _ sameKey]

theorem latest_setVersion (state : ScopeState) (version : BusinessObjectVersion)
    (key : ObjectKey) :
    (state.setVersion version).latest.get? key =
      if key = version.businessObjectRef.key then some version.businessObjectRef.revision
      else state.latest.get? key :=
  get?_set _ _ _ _

@[simp]
theorem setVersion_commands (state : ScopeState) (version : BusinessObjectVersion) :
    (state.setVersion version).commands = state.commands := rfl

@[simp]
theorem setVersion_context (state : ScopeState) (version : BusinessObjectVersion) :
    (state.setVersion version).context = state.context := rfl

theorem version?_congr {first second : ScopeState} (same : first.versions = second.versions)
    (ref : BusinessObjectRef) : first.version? ref = second.version? ref := by
  rw [version?, version?, same]

end ScopeState

structure Claimable (state : ScopeState) (command : BusinessCommandRecord) : Prop where
  accepted : command.state = .accepted
  fresh : state.commands.get? command.commandId = none
  entryFree : ∀ id other, state.commands.get? id = some other → command.entryKey.isSome = true →
    other.entryKey = command.entryKey → other.state = .rejected
  noChange : ∀ id other, state.commands.get? id = some other →
    command.commandType = .intervention → other.commandType = .intervention →
      other.state ≠ .accepted

structure Publishes (libraries : Libraries) (scope : BoundExecutionScope) (state : ScopeState)
    (command : BusinessCommandRecord) (entryRef : BusinessObjectRef)
    (context : TaskBusinessContext) (previous : RuntimeIntervention) (recordedAt : BusinessTime)
    (submission : InterventionSubmission) : Prop where
  onContext : state.context = some context
  current : assertBusinessCommandEntryCurrent (some context) entryRef command.commandType = .ok ()
  stored : state.version? entryRef = some (.intervention previous)
  latest : state.latest.get? entryRef.key = some entryRef.revision
  submits : Submits libraries scope context previous command recordedAt submission
  recorded : context.updatedAt.millis ≤ recordedAt.millis

structure ContextFollows (current : Option TaskBusinessContext) (next : TaskBusinessContext) :
    Prop where
  first : current = none → next.contextRevision = 0 ∨ next.contextRevision = 1
  revision : ∀ context, current = some context →
    next.contextRevision = context.contextRevision + 1
  plan : ∀ context, current = some context →
    context.effectivePlanRevision ≤ next.effectivePlanRevision
  time : ∀ context, current = some context → context.updatedAt.millis ≤ next.updatedAt.millis
  unfinished : ∀ context, current = some context → context.summary.status = .inProgress

/-- The terminal record of a command takes the place of its accepted claim. -/
inductive Settles (state : ScopeState) (commands : OrderedMap String BusinessCommandRecord) :
    Option BusinessCommandRecord → Prop
  | nothing (same : commands = state.commands) : Settles state commands none
  | record {command claimed : BusinessCommandRecord}
      (known : state.commands.get? command.commandId = some claimed)
      (same : ScopeState.sameCommand claimed command = true)
      (accepted : claimed.state = .accepted) (terminal : command.state ≠ .accepted)
      (settled : commands = state.commands.set command.commandId command) :
      Settles state commands (some command)

structure Commits (libraries : Libraries) (previous : ScopeState) (changeSet : BusinessChangeSet)
    (events : List TaskBusinessEventDraft) (staged : ScopeState.Staged) (next : ScopeState) :
    Prop where
  valid : changeSet.context.valid = true
  finalization : changeSet.context.finalizationAgrees = true
  follows : ContextFollows previous.context changeSet.context
  staging : changeSet.objects.foldlM (ScopeState.stageObject libraries changeSet.scope)
    { state := { previous with context := some changeSet.context }
      published := [] } = .ok staged
  activeListed : ∀ ref, ref ∈ changeSet.context.activeRefs.values →
    ref ∈ changeSet.context.listedRefs
  resolved : ∀ ref, ref ∈ contextObjectRefs changeSet.context →
    (staged.state.version? ref).isSome = true
  facts : ScopeState.assertFacts libraries previous changeSet.context staged changeSet.command
    events = .ok ()
  settles : Settles staged.state next.commands changeSet.command
  context : next.context = staged.state.context
  versions : next.versions = staged.state.versions
  latest : next.latest = staged.state.latest

/-- What an operation that comes to its end does to the state of its scope. -/
inductive StateStep (libraries : Libraries) (state : ScopeState) : ScopeState → Prop
  | repeated : StateStep libraries state state
  | claimed {command : BusinessCommandRecord} (claimable : Claimable state command) :
      StateStep libraries state
        { state with commands := state.commands.set command.commandId command }
  | submitted {scope : BoundExecutionScope} {command : BusinessCommandRecord}
      {entryRef : BusinessObjectRef} {context : TaskBusinessContext}
      {previous : RuntimeIntervention} {recordedAt : BusinessTime}
      {submission : InterventionSubmission} (claimable : Claimable state command)
      (publishes : Publishes libraries scope state command entryRef context previous recordedAt
        submission) :
      StateStep libraries state
        { state.setVersion submission.version with
          context := some submission.context
          commands := state.commands.set command.commandId command }
  | committed {changeSet : BusinessChangeSet} {events : List TaskBusinessEventDraft}
      {staged : ScopeState.Staged} {next : ScopeState}
      (commits : Commits libraries state changeSet events staged next) :
      StateStep libraries state next

namespace ScopeState

variable {state : ScopeState} {command : BusinessCommandRecord}

theorem claimable_of_checks (accepted : command.state = .accepted)
    (fresh : state.commands.get? command.commandId = none)
    (unclaimed : forM state.commands.values (assertUnclaimed command) = .ok ⟨⟩) :
    Claimable state command := by
  have each : ∀ id other, state.commands.get? id = some other →
      assertUnclaimed command other = .ok () := by
    intro id other known
    exact forM_eq_ok.mp unclaimed other (mem_values.mpr ⟨id, known⟩)
  constructor
  · exact accepted
  · exact fresh
  · intro id other known hasKey sameKey
    obtain ⟨_, entry, -⟩ := bind_eq_ok.mp (each id other known)
    have free := require_eq_ok.mp entry
    rw [hasKey, sameKey] at free
    cases state : other.state with
    | accepted => simp [state] at free
    | applied => simp [state] at free
    | rejected => rfl
  · intro id other known isIntervention otherIs stillAccepted
    obtain ⟨_, -, rest⟩ := bind_eq_ok.mp (each id other known)
    obtain ⟨_, change, -⟩ := bind_eq_ok.mp rest
    have free := require_eq_ok.mp change
    simp [isIntervention, otherIs, stillAccepted] at free

theorem recordedTime_le {now : Now} {updatedAt recordedAt : BusinessTime}
    (recorded : recordedTime now updatedAt = .ok recordedAt) :
    updatedAt.millis ≤ recordedAt.millis := by
  cases now with
  | none => cases recorded
  | some now =>
    have isRecorded := Except.ok.inj recorded
    rw [← isRecorded]
    exact Int.le_max_right now updatedAt.millis

variable {libraries : Libraries} {scope : BoundExecutionScope} {state next : ScopeState}
variable {events : List TaskBusinessEventDraft}

theorem publishSubmission_eq_ok {expectedEntryRef : Option BusinessObjectRef} {now : Now}
    (entry : state.assertEntry expectedEntryRef command now = .ok ())
    (published : publishSubmission libraries scope state expectedEntryRef command now =
      .ok (next, events)) :
    ∃ entryRef context previous recordedAt submission,
      Publishes libraries scope state command entryRef context previous recordedAt submission ∧
        next = { state.setVersion submission.version with
          context := some submission.context } := by
  cases expectedEntryRef with
  | none => cases published
  | some entryRef =>
    cases onContext : state.context with
    | none =>
      simp only [publishSubmission, onContext] at published
      cases published
    | some context =>
      cases stored : state.version? entryRef with
      | none =>
        simp only [publishSubmission, onContext, stored] at published
        cases published
      | some previous =>
        simp only [publishSubmission, onContext, stored] at published
        obtain ⟨_, latest, published⟩ := bind_eq_ok.mp published
        obtain ⟨submission, prepared, published⟩ := bind_eq_ok.mp published
        cases published
        obtain ⟨intervention, recordedAt, isPrevious, recorded, submits⟩ :=
          prepareInterventionSubmission_eq_ok prepared
        subst isPrevious
        obtain ⟨_, current, -⟩ := bind_eq_ok.mp entry
        refine ⟨entryRef, context, intervention, recordedAt, submission, ?_, rfl⟩
        constructor
        · exact onContext
        · rw [onContext] at current
          exact current
        · exact stored
        · exact eq_of_beq (require_eq_ok.mp latest)
        · exact submits
        · exact recordedTime_le recorded

theorem claimCommand_step {request : ClaimRequest} {claim : BusinessCommandClaim}
    (ran : state.claimCommand libraries request = .ok (claim, next)) :
    StateStep libraries state next := by
  unfold claimCommand at ran
  obtain ⟨command, -, ran⟩ := bind_eq_ok.mp ran
  obtain ⟨_, accepted, ran⟩ := bind_eq_ok.mp ran
  cases known : state.commands.get? command.commandId with
  | some existing =>
    simp only [known] at ran
    obtain ⟨_, -, ran⟩ := bind_eq_ok.mp ran
    cases ran
    exact .repeated
  | none =>
    simp only [known] at ran
    obtain ⟨_, -, ran⟩ := bind_eq_ok.mp ran
    obtain ⟨_, entry, ran⟩ := bind_eq_ok.mp ran
    obtain ⟨_, unclaimed, ran⟩ := bind_eq_ok.mp ran
    have claimable := claimable_of_checks (eq_of_beq (require_eq_ok.mp accepted)) known unclaimed
    by_cases publish : request.publishInterventionSubmission = true
    · rw [if_pos publish] at ran
      obtain ⟨⟨staged, events⟩, published, ran⟩ := bind_eq_ok.mp ran
      cases ran
      obtain ⟨entryRef, context, previous, recordedAt, submission, publishes, isStaged⟩ :=
        publishSubmission_eq_ok entry published
      subst isStaged
      exact .submitted claimable publishes
    · rw [if_neg publish] at ran
      cases ran
      exact .claimed claimable

variable {context : TaskBusinessContext}

theorem assertContextFollows_eq_ok {current : Option TaskBusinessContext}
    {expectedContextRevision : Option Nat}
    (followed : assertContextFollows current expectedContextRevision context = .ok ()) :
    ContextFollows current context := by
  unfold assertContextFollows at followed
  obtain ⟨_, -, followed⟩ := bind_eq_ok.mp followed
  obtain ⟨_, revision, followed⟩ := bind_eq_ok.mp followed
  obtain ⟨_, plan, followed⟩ := bind_eq_ok.mp followed
  obtain ⟨_, time, unfinished⟩ := bind_eq_ok.mp followed
  rw [require_eq_ok] at revision plan time unfinished
  cases current with
  | none =>
    constructor
    · intro _
      simpa using revision
    · intro _ impossible
      cases impossible
    · intro _ impossible
      cases impossible
    · intro _ impossible
      cases impossible
    · intro _ impossible
      cases impossible
  | some current =>
    constructor
    · intro impossible
      cases impossible
    · intro _ isCurrent
      cases isCurrent
      exact eq_of_beq revision
    · intro _ isCurrent
      cases isCurrent
      exact of_decide_eq_true plan
    · intro _ isCurrent
      cases isCurrent
      exact of_decide_eq_true time
    · intro _ isCurrent
      cases isCurrent
      cases status : current.summary.status with
      | inProgress => rfl
      | finalized => simp [status] at unfinished

structure SameLedger (first second : ScopeState) : Prop where
  context : second.context = first.context
  versions : second.versions = first.versions
  latest : second.latest = first.latest
  commands : second.commands = first.commands

theorem SameLedger.refl (state : ScopeState) : SameLedger state state := by
  constructor <;> rfl

variable {start state next : ScopeState}

theorem storeContent_sameLedger {content : StoredBusinessContent} (same : SameLedger start state)
    (stored : storeContent state content = .ok next) :
    SameLedger start next := by
  unfold storeContent at stored
  obtain ⟨_, -, stored⟩ := bind_eq_ok.mp stored
  cases stored
  exact ⟨same.context, same.versions, same.latest, same.commands⟩

theorem recordEvidence_sameLedger {published : List BusinessObjectVersion}
    {write : TrajectoryProjectionWrite} (same : SameLedger start state)
    (recorded : recordEvidence libraries published state write = .ok next) :
    SameLedger start next := by
  unfold recordEvidence at recorded
  split at recorded
  · cases recorded
  · obtain ⟨_, -, recorded⟩ := bind_eq_ok.mp recorded
    obtain ⟨evidence, -, recorded⟩ := bind_eq_ok.mp recorded
    cases recorded
    exact ⟨same.context, same.versions, same.latest, same.commands⟩

theorem settleCommand_eq_ok {state settled : ScopeState}
    {terminal : Option BusinessCommandRecord}
    (ran : settleCommand state terminal = .ok settled) :
    Settles state settled.commands terminal ∧ settled.context = state.context ∧
      settled.versions = state.versions ∧ settled.latest = state.latest := by
  cases terminal with
  | none =>
    cases ran
    exact ⟨.nothing rfl, rfl, rfl, rfl⟩
  | some command =>
    cases known : state.commands.get? command.commandId with
    | none =>
      simp only [settleCommand, known] at ran
      cases ran
    | some claimed =>
      simp only [settleCommand, known] at ran
      obtain ⟨_, same, ran⟩ := bind_eq_ok.mp ran
      obtain ⟨_, -, ran⟩ := bind_eq_ok.mp ran
      obtain ⟨_, transition, ran⟩ := bind_eq_ok.mp ran
      obtain ⟨_, -, ran⟩ := bind_eq_ok.mp ran
      cases ran
      have moved := require_eq_ok.mp transition
      simp only [Bool.and_eq_true, beq_iff_eq, bne_iff_ne] at moved
      exact ⟨.record known (require_eq_ok.mp same) moved.1 moved.2 rfl, rfl, rfl, rfl⟩

theorem assertContextRefs_eq_ok (checked : assertContextRefs context state = .ok ()) :
    (∀ ref, ref ∈ context.activeRefs.values → ref ∈ context.listedRefs) ∧
      ∀ ref, ref ∈ contextObjectRefs context → (state.version? ref).isSome = true := by
  unfold assertContextRefs at checked
  obtain ⟨_, listed, resolved⟩ := bind_eq_ok.mp checked
  constructor
  · intro ref active
    exact List.contains_iff_mem.mp (List.all_eq_true.mp (require_eq_ok.mp listed) ref active)
  · intro ref member
    apply List.all_eq_true.mp (require_eq_ok.mp resolved)
    rcases mem_contextObjectRefs.mp member with inLists | active
    · exact List.mem_append_right _ inLists
    · exact List.mem_append_left _ active

private theorem parsedCommand {candidate terminal : Option BusinessCommandRecord}
    (parsed : candidate.mapM (parseBusinessCommandRecord libraries scope) = .ok terminal) :
    terminal = candidate := by
  cases candidate with
  | none =>
    cases parsed
    rfl
  | some command =>
    obtain ⟨record, isRecord, parsed⟩ := bind_eq_ok.mp parsed
    cases parsed
    rw [parseBusinessCommandRecord_eq_ok isRecord]

theorem commitChangeSet_commits {previous next : ScopeState} {changeSet : BusinessChangeSet}
    (ran : previous.commitChangeSet libraries changeSet events = .ok next) :
    ∃ staged, Commits libraries previous changeSet events staged next := by
  unfold commitChangeSet at ran
  obtain ⟨context, parsed, ran⟩ := bind_eq_ok.mp ran
  obtain ⟨isContext, isValid, agrees⟩ := parseBusinessContext_eq_ok parsed
  subst isContext
  obtain ⟨contents, -, ran⟩ := bind_eq_ok.mp ran
  obtain ⟨_, follows, ran⟩ := bind_eq_ok.mp ran
  obtain ⟨staged, staging, ran⟩ := bind_eq_ok.mp ran
  obtain ⟨_, refs, ran⟩ := bind_eq_ok.mp ran
  obtain ⟨terminal, command, ran⟩ := bind_eq_ok.mp ran
  have isCommand := parsedCommand command
  subst isCommand
  obtain ⟨_, facts, ran⟩ := bind_eq_ok.mp ran
  obtain ⟨settled, settling, ran⟩ := bind_eq_ok.mp ran
  obtain ⟨stored, storing, recording⟩ := bind_eq_ok.mp ran
  obtain ⟨settles, settledContext, settledVersions, settledLatest⟩ :=
    settleCommand_eq_ok settling
  have storedSame : SameLedger settled stored := foldlM_keeps
    (fun _ same stored => storeContent_sameLedger same stored) (SameLedger.refl settled) storing
  have nextSame : SameLedger settled next := foldlM_keeps
    (fun _ same recorded => recordEvidence_sameLedger same recorded) storedSame recording
  obtain ⟨activeListed, resolved⟩ := assertContextRefs_eq_ok refs
  refine ⟨staged, ?_⟩
  constructor
  · exact isValid
  · exact agrees
  · exact assertContextFollows_eq_ok follows
  · exact staging
  · exact activeListed
  · exact resolved
  · exact facts
  · rw [nextSame.commands]
    exact settles
  · rw [nextSame.context, settledContext]
  · rw [nextSame.versions, settledVersions]
  · rw [nextSame.latest, settledLatest]

end ScopeState

namespace MemoryTaskBusinessStore

variable {libraries : Libraries}

theorem performIn_step {state next : ScopeState} {operation : StoreOperation}
    {events : List TaskBusinessEventDraft}
    (ran : performIn libraries state operation = .ok (next, events)) :
    StateStep libraries state next := by
  cases operation with
  | claimCommand request =>
    obtain ⟨⟨claim, claimed⟩, claiming, ran⟩ := bind_eq_ok.mp ran
    cases ran
    exact ScopeState.claimCommand_step claiming
  | commitChangeSet changeSet =>
    obtain ⟨committed, committing, ran⟩ := bind_eq_ok.mp ran
    cases ran
    obtain ⟨staged, commits⟩ := ScopeState.commitChangeSet_commits committing
    exact .committed commits
  | commitBusinessChangeSet changeSet drafts =>
    obtain ⟨context, -, ran⟩ := bind_eq_ok.mp ran
    obtain ⟨parsed, -, ran⟩ := bind_eq_ok.mp ran
    obtain ⟨committed, committing, ran⟩ := bind_eq_ok.mp ran
    cases ran
    obtain ⟨staged, commits⟩ := ScopeState.commitChangeSet_commits committing
    exact .committed commits

theorem step_scopeState (libraries : Libraries) (store : MemoryTaskBusinessStore)
    (operation : StoreOperation) (key : String) :
    (step libraries store operation).scopeState key = store.scopeState key ∨
      StateStep libraries (store.scopeState key)
        ((step libraries store operation).scopeState key) := by
  cases performed : store.perform libraries operation with
  | error reason =>
    left
    simp only [step, performed]
  | ok next =>
    obtain ⟨⟨state, events⟩, ran, isNext⟩ := bind_eq_ok.mp performed
    cases isNext
    simp only [step, performed, scopeState]
    by_cases same : key = operation.scope.key
    · right
      rw [same, get?_set_self]
      exact performIn_step ran
    · left
      rw [get?_set_ne _ _ same]

theorem run_append (libraries : Libraries) (earlier later : List StoreOperation) :
    run libraries (earlier ++ later) = later.foldl (step libraries) (run libraries earlier) :=
  List.foldl_append

variable {Holds : ScopeState → Prop}

/-- What the empty state has and every step keeps, every reachable state has. -/
theorem run_keeps (empty : Holds emptyState)
    (keeps : ∀ {state next}, Holds state → StateStep libraries state next → Holds next)
    (operations : List StoreOperation) (key : String) :
    Holds ((run libraries operations).scopeState key) := by
  induction operations using List.reverseRecOn with
  | nil => exact empty
  | append_singleton operations operation ih =>
    rw [run_append]
    rcases step_scopeState libraries (run libraries operations) operation key with same | moved
    · rw [List.foldl_cons, List.foldl_nil, same]
      exact ih
    · exact keeps ih moved

/-- What every step from a state of the invariant has to do with the next one holds between the
states of one run. -/
theorem run_related {Related : ScopeState → ScopeState → Prop} (empty : Holds emptyState)
    (keeps : ∀ {state next}, Holds state → StateStep libraries state next → Holds next)
    (refl : ∀ state, Related state state)
    (compose : ∀ {first second third}, Related first second → Related second third →
      Related first third) (related : ∀ {state next}, Holds state → StateStep libraries state next →
      Related state next) (earlier later : List StoreOperation) (key : String) :
    Related ((run libraries earlier).scopeState key)
      ((run libraries (earlier ++ later)).scopeState key) := by
  induction later using List.reverseRecOn with
  | nil =>
    rw [List.append_nil]
    exact refl _
  | append_singleton later operation ih =>
    rw [← List.append_assoc, run_append]
    rcases step_scopeState libraries (run libraries (earlier ++ later)) operation key with
      same | moved
    · rw [List.foldl_cons, List.foldl_nil, same]
      exact ih
    · exact compose ih (related (run_keeps empty keeps (earlier ++ later) key) moved)

end MemoryTaskBusinessStore

end SdarRuntime.Business
