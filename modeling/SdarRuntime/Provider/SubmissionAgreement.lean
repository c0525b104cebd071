import SdarRuntime.Provider.FeedbackOrder
import SdarRuntime.Provider.StoreInvariants

/-!
A submitted intervention as a store writes it, and as a consumer reads it from the events that
go with it.
-/

namespace SdarRuntime.Business

open Reducer TaskBusinessReducerState Except TaskBusinessContext

/-- The latest revision among the references to an object, zero without any. -/
def latestRevision (refs : List BusinessObjectRef) (id : String) : Nat :=
  ((refs.filter fun item => item.id == id).map BusinessObjectRef.revision).foldl max 0

private theorem foldl_max_le_iff (numbers : List Nat) (start bound : Nat) :
    numbers.foldl max start ≤ bound ↔ start ≤ bound ∧ ∀ number, number ∈ numbers → number ≤ bound := by
  induction numbers generalizing start with
  | nil => simp
  | cons number rest ih =>
    rw [List.foldl_cons, ih, Nat.max_le, and_assoc]
    simp only [List.mem_cons, forall_eq_or_imp]

variable {refs : List BusinessObjectRef} {id : String} {bound : Nat}

theorem latestRevision_le_iff :
    latestRevision refs id ≤ bound ↔
      ∀ ref, ref ∈ refs → ref.id = id → ref.revision ≤ bound := by
  rw [latestRevision, foldl_max_le_iff]
  constructor
  · rintro ⟨-, below⟩ ref member sameId
    apply below
    exact List.mem_map.mpr ⟨ref, List.mem_filter.mpr ⟨member, beq_of_eq sameId⟩, rfl⟩
  · intro below
    refine ⟨Nat.zero_le _, ?_⟩
    intro number member
    obtain ⟨ref, chosen, isRevision⟩ := List.mem_map.mp member
    obtain ⟨inRefs, sameId⟩ := List.mem_filter.mp chosen
    rw [← isRevision]
    exact below ref inRefs (eq_of_beq sameId)

variable {ref : BusinessObjectRef}

theorem le_latestRevision (member : ref ∈ refs) : ref.revision ≤ latestRevision refs ref.id :=
  latestRevision_le_iff.mp (Nat.le_refl _) ref member rfl

theorem exists_latestRevision (positive : 0 < latestRevision refs id) :
    ∃ ref, ref ∈ refs ∧ ref.id = id ∧ ref.revision = latestRevision refs id := by
  by_contra none
  have below : latestRevision refs id ≤ latestRevision refs id - 1 := by
    apply latestRevision_le_iff.mpr
    intro ref member sameId
    have atMost := le_latestRevision member
    rw [sameId] at atMost
    have different : ref.revision ≠ latestRevision refs id :=
      fun equal => none ⟨ref, member, sameId, equal⟩
    omega
  omega

theorem latestRevision_eq (member : ref ∈ refs)
    (latest : ∀ other, other ∈ refs → other.id = ref.id → other.revision ≤ ref.revision) :
    latestRevision refs ref.id = ref.revision := by
  have below := latestRevision_le_iff.mpr latest
  have above := le_latestRevision member
  omega

theorem latestRevision_congr {first second : List BusinessObjectRef}
    (same : ∀ ref, ref.id = id → (ref ∈ first ↔ ref ∈ second)) :
    latestRevision first id = latestRevision second id := by
  apply Nat.le_antisymm
  · apply latestRevision_le_iff.mpr
    intro ref member sameId
    rw [← sameId]
    exact le_latestRevision ((same ref sameId).mp member)
  · apply latestRevision_le_iff.mpr
    intro ref member sameId
    rw [← sameId]
    exact le_latestRevision ((same ref sameId).mpr member)

structure CurrentEntry (context : TaskBusinessContext) (ref : BusinessObjectRef) : Prop where
  inProgress : context.summary.status = .inProgress
  isIntervention : ref.kind = .intervention
  latest : latestRevision context.interventionRefs ref.id = ref.revision
  positive : 0 < ref.revision

variable {context : TaskBusinessContext}

theorem CurrentEntry.listed (current : CurrentEntry context ref) (isValid : context.valid = true) :
    ref ∈ context.interventionRefs := by
  have positive : 0 < latestRevision context.interventionRefs ref.id := by
    rw [current.latest]
    exact current.positive
  obtain ⟨other, member, sameId, sameRevision⟩ := exists_latestRevision positive
  have kinds : refsOfKind .intervention context.interventionRefs = true := by
    simp only [valid, Bool.and_eq_true] at isValid
    exact isValid.2
  have isKind := List.all_eq_true.mp kinds other member
  simp only [Bool.and_eq_true, beq_iff_eq] at isKind
  have kind : other.kind = ref.kind := isKind.2.trans current.isIntervention.symm
  have revision : other.revision = ref.revision := sameRevision.trans current.latest
  have same : other = ref := by
    cases other
    cases ref
    cases kind
    cases sameId
    cases revision
    rfl
  rw [← same]
  exact member

variable {key : ObjectKey}

variable {libraries : Libraries}

variable {pages : List TaskBusinessSnapshotPage}

structure Bootstrapped (pages : List TaskBusinessSnapshotPage)
    (resumeFrom : RuntimeBusinessCursor) (state : TaskBusinessReducerState) : Prop where
  first : pages.head?.bind TaskBusinessSnapshotPage.context = some state.context
  valid : state.context.valid = true
  bootstrap : state.bootstrapSnapshotRevision = state.context.contextRevision
  metadata : state.metadataRevision = state.context.contextRevision
  seen : state.seenMessageIds = []
  resumeFrom : state.resumeFrom = resumeFrom
  revisions : ∀ key bound, (∀ ref, ref ∈ contextObjectRefs state.context → ref.key = key →
    ref.revision ≤ bound) → revisionOf state.objectRevisions key ≤ bound

variable {resumeFrom : RuntimeBusinessCursor} {state : TaskBusinessReducerState}

def projectTaskBusinessFeedback (identity : TaskBusinessIdentity) (messageId : String)
    (resumeFrom : RuntimeBusinessCursor) (draft : TaskBusinessEventDraft) :
    PublicTaskBusinessFeedback :=
  { schemaVersion := feedbackSchemaVersion
    content := .known draft.body.payload
    contextRevision := draft.body.contextRevision
    providerRecordedAt := draft.body.providerRecordedAt
    messageId := messageId
    identity := identity
    resumeFrom := resumeFrom }

theorem latestRevision_retarget {prior ref : BusinessObjectRef} (member : prior ∈ refs)
    (sameId : ref.id = prior.id) (successor : ref.revision = prior.revision + 1)
    (latest : latestRevision refs prior.id = prior.revision) (id : String) :
    latestRevision (refs.map (retarget prior ref)) id =
      if id = ref.id then ref.revision else latestRevision refs id := by
  by_cases isEntry : id = ref.id
  · rw [if_pos isEntry, isEntry]
    apply latestRevision_eq
    · exact List.mem_map.mpr ⟨prior, member, if_pos rfl⟩
    · intro other inMapped otherId
      obtain ⟨listed, inRefs, isOther⟩ := List.mem_map.mp inMapped
      by_cases isPrior : listed = prior
      · rw [retarget, if_pos isPrior] at isOther
        rw [← isOther]
      · rw [retarget, if_neg isPrior] at isOther
        have bound := latestRevision_le_iff.mp (Nat.le_of_eq latest) other
          (by rw [← isOther]; exact inRefs) (otherId.trans sameId)
        omega
  · rw [if_neg isEntry]
    apply latestRevision_congr
    intro other otherId
    constructor
    · intro inMapped
      obtain ⟨listed, inRefs, isOther⟩ := List.mem_map.mp inMapped
      by_cases isPrior : listed = prior
      · rw [retarget, if_pos isPrior] at isOther
        exact absurd (otherId.symm.trans (by rw [← isOther])) isEntry
      · rw [retarget, if_neg isPrior] at isOther
        rw [← isOther]
        exact inRefs
    · intro inRefs
      have notPrior : other ≠ prior := by
        intro isPrior
        apply isEntry
        rw [← otherId, isPrior, sameId]
      exact List.mem_map.mpr ⟨other, inRefs, if_neg notPrior⟩

theorem latestRevision_replaceRef (refs : List BusinessObjectRef) (ref : BusinessObjectRef)
    (id : String) :
    latestRevision (replaceRef refs ref) id =
      if id = ref.id then ref.revision else latestRevision refs id := by
  by_cases isEntry : id = ref.id
  · rw [if_pos isEntry, isEntry]
    apply latestRevision_eq
    · exact List.mem_append_right _ (List.mem_singleton.mpr rfl)
    · intro other member otherId
      rcases List.mem_append.mp member with kept | added
      · have different := (List.mem_filter.mp kept).2
        exact absurd otherId (of_decide_eq_true different)
      · rw [List.mem_singleton.mp added]
  · rw [if_neg isEntry]
    apply latestRevision_congr
    intro other otherId
    constructor
    · intro member
      rcases List.mem_append.mp member with kept | added
      · exact (List.mem_filter.mp kept).1
      · rw [List.mem_singleton.mp added] at otherId
        exact absurd otherId.symm isEntry
    · intro member
      apply List.mem_append_left
      apply List.mem_filter.mpr
      refine ⟨member, decide_eq_true ?_⟩
      intro sameId
      exact isEntry (otherId.symm.trans sameId)

theorem CurrentEntry.referred_le {prior : BusinessObjectRef} (current : CurrentEntry context prior)
    (isValid : context.valid = true)
    (listed : ∀ ref, ref ∈ context.activeRefs.values → ref ∈ context.listedRefs) :
    ∀ ref, ref ∈ contextObjectRefs context → ref.key = prior.key →
      ref.revision ≤ prior.revision := by
  intro ref member sameKey
  have inLists : ref ∈ context.listedRefs := by
    rcases mem_contextObjectRefs.mp member with inLists | active
    · exact inLists
    · exact listed ref active
  have kind : ref.kind = .intervention :=
    (congrArg Prod.fst sameKey).trans current.isIntervention
  have inInterventions := mem_interventionRefs isValid inLists kind
  have sameId : ref.id = prior.id := congrArg Prod.snd sameKey
  exact latestRevision_le_iff.mp (Nat.le_of_eq current.latest) ref inInterventions sameId

variable {event : PublicTaskBusinessFeedback}

theorem take_metadata {payload : BusinessEventChange} {delta : BusinessContextDelta}
    (content : event.content = .known (.businessEvent payload))
    (changes : payload.contextDelta = some delta)
    (applies : state.shouldApply event.contextRevision = true)
    (metadata : state.metadataRevision ≤ event.contextRevision) :
    (state.take event).context =
        { delta.apply state.context with
          contextRevision := max state.context.contextRevision event.contextRevision } ∧
      (state.take event).objectRevisions = state.objectRevisions ∧
      (state.take event).bootstrapSnapshotRevision = state.bootstrapSnapshotRevision := by
  simp only [take, applies, Bool.true_and, decide_eq_true metadata,
    if_true, replaceMetadata, announceObject, content, changes, and_self]
  exact ⟨rfl, trivial⟩

theorem take_intervention {payload : ObjectChanged}
    (content : event.content = .known (.objectChanged .intervention payload))
    (applies : state.shouldApply event.contextRevision = true)
    (newer : revisionOf state.objectRevisions payload.ref.key < payload.ref.revision) :
    (state.take event).context =
      { state.context with
        interventionRefs := replaceRef state.context.interventionRefs payload.ref
        contextRevision := max state.context.contextRevision event.contextRevision } := by
  by_cases metadata : state.metadataRevision ≤ event.contextRevision
  · simp only [take, applies, Bool.true_and, decide_eq_true metadata,
      if_true, replaceMetadata, announceObject, content, if_pos newer,
      changeRefs]
  · simp only [take, applies, Bool.true_and, decide_eq_false metadata,
      Bool.false_eq_true, if_false, if_true, announceObject, content, if_pos newer,
      changeRefs]

theorem reduceTaskBusinessFeedback_fresh {identity : TaskBusinessIdentity} {messageId : String}
    {draft : TaskBusinessEventDraft} (accepted : state.accepts
      (projectTaskBusinessFeedback identity messageId resumeFrom draft) = true)
    (fresh : messageId ∉ state.seenMessageIds) (isValid : draft.body.payload.valid = true)
    (notFinal : finalRevisionAgrees draft.body.contextRevision (.known draft.body.payload) = true) :
    reduceTaskBusinessFeedback state
        (projectTaskBusinessFeedback identity messageId resumeFrom draft) =
      .ok (state.take (projectTaskBusinessFeedback identity messageId resumeFrom draft)) :=
  reduceTaskBusinessFeedback_eq_ok.mpr
    ⟨accepted, Or.inr ⟨fresh, rfl, isValid, notFinal, rfl⟩⟩

/-- The two events of a submission: the metadata of its Context, and the new version. -/
theorem submissionEvents_eq (context : TaskBusinessContext) (priorRef ref : BusinessObjectRef)
    (recordedAt : BusinessTime) :
    ∃ metadata changed event change,
      submissionEvents context priorRef ref recordedAt = [metadata, changed] ∧
      metadata.body.contextRevision = context.contextRevision ∧
      metadata.body.payload = .businessEvent event ∧
      event.contextDelta = some
        { activeRefs := some context.activeRefs
          effectivePlanRevision := some context.effectivePlanRevision } ∧
      changed.body.contextRevision = context.contextRevision ∧
      changed.body.payload = .objectChanged .intervention change ∧ change.ref = ref :=
  ⟨_, _, _, _, rfl, rfl, rfl, rfl, rfl, rfl, rfl⟩

/-- What a read model of the Context before a submission shows behind the two events of the
submission: the revision, the active references, the plan and the latest interventions of the
Context that was stored. -/
def ShowsSubmission (start : TaskBusinessReducerState) (submission : InterventionSubmission)
    (identity : TaskBusinessIdentity) (firstId secondId : String)
    (first second : RuntimeBusinessCursor) : Prop :=
  ∃ metadata changed final, submission.events = [metadata, changed] ∧
    reduceAll reduceTaskBusinessFeedback start
      [projectTaskBusinessFeedback identity firstId first metadata,
        projectTaskBusinessFeedback identity secondId second changed] = .ok final ∧
    final.context.contextRevision = submission.context.contextRevision ∧
    final.context.activeRefs = submission.context.activeRefs ∧
    final.context.effectivePlanRevision = submission.context.effectivePlanRevision ∧
    ∀ id, latestRevision final.context.interventionRefs id =
      latestRevision submission.context.interventionRefs id

section

variable {libraries : Libraries} {scope : BoundExecutionScope} {command : BusinessCommandRecord}
  {pages : List TaskBusinessSnapshotPage} {cursor first second : RuntimeBusinessCursor}
  {start : TaskBusinessReducerState} {submission : InterventionSubmission}
  {identity : TaskBusinessIdentity} {firstId secondId : String}

theorem Submits.shows {intervention : RuntimeIntervention} {recordedAt : BusinessTime}
    (submits : Submits libraries scope start.context intervention command recordedAt submission)
    (model : Bootstrapped pages cursor start)
    (entry : CurrentEntry start.context
      (BusinessObjectVersion.intervention intervention).businessObjectRef)
    (listed : ∀ ref, ref ∈ start.context.activeRefs.values → ref ∈ start.context.listedRefs)
    (bound : boundToTask identity start.context.identity = true)
    (firstCursor : first.valid = true ∧ first.streamId = cursor.streamId)
    (secondCursor : second.valid = true ∧ second.streamId = cursor.streamId)
    (distinct : firstId ≠ secondId) :
    ShowsSubmission start submission identity firstId secondId first second := by
  have unfinished : start.context.finalizedAt = none := by
    have agrees := submits.finalization
    rw [submits.context] at agrees
    simp only [finalizationAgrees, submittedContext, entry.inProgress,
      Option.isNone_iff_eq_none] at agrees
    exact agrees
  have revision : submission.context.contextRevision = start.context.contextRevision + 1 := by
    rw [submits.context]
    rfl
  have applies : ∀ state : TaskBusinessReducerState,
      state.bootstrapSnapshotRevision = start.context.contextRevision →
      state.context.contextRevision ≤ start.context.contextRevision + 1 →
      state.context.finalizedAt = none →
      state.shouldApply (start.context.contextRevision + 1) = true := by
    intro state bootstrap below open_
    simp only [shouldApply, bootstrap, open_, Option.isNone_none,
      Bool.and_true, Bool.and_eq_true, decide_eq_true_eq]
    omega
  obtain ⟨metadata, changed, event, change, areEvents, metadataRevision, isEvent, delta,
    changedRevision, isChange, changeRef⟩ := submissionEvents_eq submission.context
      (BusinessObjectVersion.intervention intervention).businessObjectRef
      submission.version.businessObjectRef recordedAt
  rw [← submits.events] at areEvents
  have metadataValid := submits.drafts metadata (by rw [areEvents]; simp)
  have changedValid := submits.drafts changed (by rw [areEvents]; simp)
  rw [revision] at metadataRevision changedRevision
  generalize firstIs : projectTaskBusinessFeedback identity firstId first metadata = firstEvent
  generalize secondIs : projectTaskBusinessFeedback identity secondId second changed =
    secondEvent
  have firstRevision : firstEvent.contextRevision = start.context.contextRevision + 1 := by
    rw [← firstIs]
    exact metadataRevision
  have secondRevision : secondEvent.contextRevision = start.context.contextRevision + 1 := by
    rw [← secondIs]
    exact changedRevision
  -- The first event brings the metadata of the stored Context.
  have firstAccepted : start.accepts firstEvent = true := by
    rw [← firstIs]
    simp [accepts, projectTaskBusinessFeedback, firstCursor, bound,
      model.resumeFrom]
  have firstReduced : reduceTaskBusinessFeedback start firstEvent = .ok (start.take firstEvent) := by
    rw [← firstIs] at firstAccepted ⊢
    apply reduceTaskBusinessFeedback_fresh firstAccepted
    · rw [model.seen]
      exact List.not_mem_nil
    · exact metadataValid
    · rw [isEvent]
      rfl
  have firstFollows := reduceTaskBusinessFeedback_followsUp firstReduced
  have firstContent : firstEvent.content = .known (.businessEvent event) := by
    rw [← firstIs]
    exact congrArg FeedbackContent.known isEvent
  obtain ⟨firstContext, firstRevisions, firstBootstrap⟩ := take_metadata firstContent delta
    (by
      rw [firstRevision]
      exact applies start model.bootstrap (by omega) unfinished)
    (by
      rw [firstRevision, model.metadata]
      omega)
  rw [firstRevision] at firstContext
  have firstSeen : (start.take firstEvent).seenMessageIds = [firstId] := by
    rw [← firstIs]
    simp [take, model.seen, projectTaskBusinessFeedback]
  -- The second one brings the new version of the intervention.
  generalize start.take firstEvent = middle at *
  have secondAccepted : middle.accepts secondEvent = true := by
    rw [firstFollows.accepts, ← secondIs]
    simp [accepts, projectTaskBusinessFeedback, secondCursor, bound,
      model.resumeFrom]
  have secondReduced :
      reduceTaskBusinessFeedback middle secondEvent = .ok (middle.take secondEvent) := by
    rw [← secondIs] at secondAccepted ⊢
    apply reduceTaskBusinessFeedback_fresh secondAccepted
    · rw [firstSeen]
      intro member
      exact distinct (List.mem_singleton.mp member).symm
    · exact changedValid
    · rw [isChange]
      rfl
  have older : revisionOf middle.objectRevisions change.ref.key < change.ref.revision := by
    rw [firstRevisions, changeRef, submits.version]
    have below := model.revisions _ _ (entry.referred_le model.valid listed)
    exact Nat.lt_succ_of_le below
  have secondContent : secondEvent.content = .known (.objectChanged .intervention change) := by
    rw [← secondIs]
    exact congrArg FeedbackContent.known isChange
  have finalContext := take_intervention secondContent
    (by
      rw [secondRevision]
      apply applies middle (firstBootstrap.trans model.bootstrap)
      · rw [firstContext]
        exact Nat.max_le.mpr ⟨by omega, Nat.le_refl _⟩
      · rw [firstContext]
        exact unfinished)
    older
  rw [secondRevision, changeRef, firstContext] at finalContext
  refine ⟨metadata, changed, middle.take secondEvent, areEvents, ?_, ?_, ?_, ?_, ?_⟩
  · rw [firstIs, secondIs]
    exact reduceAll_cons_eq_ok.mpr ⟨middle, firstReduced,
      reduceAll_cons_eq_ok.mpr ⟨_, secondReduced, rfl⟩⟩
  · rw [finalContext, revision]
    simp
  · rw [finalContext]
    rfl
  · rw [finalContext]
    rfl
  · intro id
    rw [finalContext, submits.context]
    have sameId : submission.version.businessObjectRef.id =
        (BusinessObjectVersion.intervention intervention).businessObjectRef.id := by
      rw [submits.version]
      rfl
    have successor : submission.version.businessObjectRef.revision =
        (BusinessObjectVersion.intervention intervention).businessObjectRef.revision + 1 := by
      rw [submits.version]
      rfl
    have stored := latestRevision_retarget (entry.listed model.valid) sameId successor
      entry.latest id
    have reduced := latestRevision_replaceRef start.context.interventionRefs
      submission.version.businessObjectRef id
    exact reduced.trans stored.symm

end

end SdarRuntime.Business
