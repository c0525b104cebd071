import SdarRuntime.Provider.Sample

/-!
However feedback is repeated, delayed or mixed with the snapshot, the read model only moves
forward, and it stays as it is once the Context is final.
-/

namespace SdarRuntime.Business

open Reducer Sample TaskBusinessReducerState

def TaskBusinessReducerState.accepts (state : TaskBusinessReducerState)
    (event : PublicTaskBusinessFeedback) : Bool :=
  event.resumeFrom.valid && boundToTask event.identity state.context.identity &&
    event.resumeFrom.streamId == state.resumeFrom.streamId

variable {previous next : TaskBusinessReducerState} {event : PublicTaskBusinessFeedback}

theorem reduceTaskBusinessFeedback_eq_ok :
    reduceTaskBusinessFeedback previous event = .ok next ↔
      previous.accepts event = true ∧
        (event.messageId ∈ previous.seenMessageIds ∧ next = previous ∨
          event.messageId ∉ previous.seenMessageIds ∧
            event.schemaVersion = feedbackSchemaVersion ∧ event.content.valid = true ∧
            finalRevisionAgrees event.contextRevision event.content = true ∧
            next = previous.take event) := by
  unfold reduceTaskBusinessFeedback parseTaskBusinessFeedbackBody
  by_cases seen : event.messageId ∈ previous.seenMessageIds
  · simp only [Except.bind_eq_ok, require_eq_ok, TaskBusinessReducerState.accepts, Bool.and_eq_true,
      List.contains_iff_mem, if_pos seen, Except.pure_eq_ok]
    constructor
    · rintro ⟨_, readable, _, bound, _, sameStream, rfl⟩
      exact ⟨⟨⟨readable, bound⟩, sameStream⟩, Or.inl ⟨seen, rfl⟩⟩
    · rintro ⟨⟨⟨readable, bound⟩, sameStream⟩, ⟨_, same⟩ | ⟨fresh, _⟩⟩
      · exact ⟨(), readable, (), bound, (), sameStream, same.symm⟩
      · exact absurd seen fresh
  · simp only [Except.bind_eq_ok, require_eq_ok, TaskBusinessReducerState.accepts, Bool.and_eq_true,
      List.contains_iff_mem, if_neg seen, Except.pure_eq_ok]
    constructor
    · rintro ⟨_, readable, _, bound, _, sameStream, content, ⟨_, version, _, isValid, rfl⟩, _,
        agrees, rfl⟩
      exact ⟨⟨⟨readable, bound⟩, sameStream⟩,
        Or.inr ⟨seen, eq_of_beq version, isValid, agrees, rfl⟩⟩
    · rintro ⟨⟨⟨readable, bound⟩, sameStream⟩,
        ⟨known, _⟩ | ⟨_, version, isValid, agrees, rfl⟩⟩
      · exact absurd known seen
      · exact ⟨(), readable, (), bound, (), sameStream, event.content,
          ⟨(), beq_of_eq version, (), isValid, rfl⟩, (), agrees, rfl⟩

theorem replaceMetadata_context (revision : Nat) (metadata : Metadata)
    (content : FeedbackContent) :
    (replaceMetadata revision metadata content).context.identity = metadata.context.identity ∧
      (replaceMetadata revision metadata content).context.contextRevision =
        metadata.context.contextRevision := by
  unfold replaceMetadata
  split
  · split
    · exact ⟨rfl, rfl⟩
    · exact ⟨rfl, rfl⟩
  · exact ⟨rfl, rfl⟩
  · exact ⟨rfl, rfl⟩

theorem changeRefs_context (context : TaskBusinessContext) (kind : ObjectKind)
    (change : List BusinessObjectRef → List BusinessObjectRef) :
    (context.changeRefs kind change).identity = context.identity ∧
      (context.changeRefs kind change).contextRevision = context.contextRevision := by
  cases kind with
  | artifact => exact ⟨rfl, rfl⟩
  | action => exact ⟨rfl, rfl⟩
  | inputRequest => exact ⟨rfl, rfl⟩
  | intervention => exact ⟨rfl, rfl⟩

theorem announceObject_context (announced : Announced) (content : FeedbackContent) :
    (announceObject announced content).context.identity = announced.context.identity ∧
      (announceObject announced content).context.contextRevision =
        announced.context.contextRevision := by
  unfold announceObject
  split
  · dsimp only
    split
    · exact changeRefs_context _ _ _
    · exact ⟨rfl, rfl⟩
  · exact ⟨rfl, rfl⟩

/-- The revision of every object known before is known, and is not lower. -/
def RevisionsKept (before after : OrderedMap ObjectKey Nat) : Prop :=
  ∀ key revision, before.get? key = some revision →
    ∃ later, after.get? key = some later ∧ revision ≤ later

theorem RevisionsKept.refl (revisions : OrderedMap ObjectKey Nat) :
    RevisionsKept revisions revisions :=
  fun _ revision found => ⟨revision, found, Nat.le_refl _⟩

theorem RevisionsKept.trans {first second third : OrderedMap ObjectKey Nat}
    (before : RevisionsKept first second) (after : RevisionsKept second third) :
    RevisionsKept first third := by
  intro key revision found
  obtain ⟨middle, foundMiddle, bound⟩ := before key revision found
  obtain ⟨later, foundLater, bound'⟩ := after key middle foundMiddle
  exact ⟨later, foundLater, by omega⟩

theorem announceObject_revisions (announced : Announced) (content : FeedbackContent) :
    RevisionsKept announced.objectRevisions (announceObject announced content).objectRevisions := by
  unfold announceObject
  split
  · dsimp only
    split
    · rename_i newer
      intro key revision found
      rw [OrderedMap.get?_set]
      split
      · rename_i same
        rw [revisionOf, ← same, found] at newer
        exact ⟨_, rfl, Nat.le_of_lt newer⟩
      · exact ⟨revision, found, Nat.le_refl _⟩
    · exact RevisionsKept.refl _
  · exact RevisionsKept.refl _

/-- The second state is the first or one behind it: of the same execution and stream, with no
revision and no cursor that went back, and unchanged in substance once the Context is final. -/
structure FollowsUp (previous next : TaskBusinessReducerState) : Prop where
  identity : next.context.identity = previous.context.identity
  stream : next.resumeFrom.streamId = previous.resumeFrom.streamId
  bootstrap : next.bootstrapSnapshotRevision = previous.bootstrapSnapshotRevision
  seen : ∀ messageId, messageId ∈ previous.seenMessageIds → messageId ∈ next.seenMessageIds
  contextRevision : previous.context.contextRevision ≤ next.context.contextRevision
  objectRevisions : RevisionsKept previous.objectRevisions next.objectRevisions
  resumeFrom : previous.resumeFrom.sequence ≤ next.resumeFrom.sequence
  final : previous.context.finalizedAt.isSome = true →
    next.context = previous.context ∧ next.objectRevisions = previous.objectRevisions

theorem FollowsUp.refl (state : TaskBusinessReducerState) : FollowsUp state state := by
  constructor
  · rfl
  · rfl
  · rfl
  · exact fun _ member => member
  · exact Nat.le_refl _
  · exact RevisionsKept.refl _
  · exact Nat.le_refl _
  · exact fun _ => ⟨rfl, rfl⟩

theorem FollowsUp.trans {first second third : TaskBusinessReducerState}
    (before : FollowsUp first second) (after : FollowsUp second third) :
    FollowsUp first third := by
  constructor
  · rw [after.identity, before.identity]
  · rw [after.stream, before.stream]
  · rw [after.bootstrap, before.bootstrap]
  · exact fun messageId member => after.seen messageId (before.seen messageId member)
  · exact Nat.le_trans before.contextRevision after.contextRevision
  · exact before.objectRevisions.trans after.objectRevisions
  · exact Nat.le_trans before.resumeFrom after.resumeFrom
  · intro finalized
    obtain ⟨context, revisions⟩ := before.final finalized
    obtain ⟨context', revisions'⟩ := after.final (by rw [context]; exact finalized)
    exact ⟨context'.trans context, revisions'.trans revisions⟩

variable {previous : TaskBusinessReducerState}

theorem take_unapplied (late : previous.shouldApply event.contextRevision = false) :
    (previous.take event).context = previous.context ∧
      (previous.take event).objects = previous.objects ∧
      (previous.take event).objectRevisions = previous.objectRevisions := by
  unfold take
  simp [late]

theorem take_followsUp (accepted : previous.accepts event = true) :
    FollowsUp previous (previous.take event) := by
  have sameStream : event.resumeFrom.streamId = previous.resumeFrom.streamId := by
    simp only [TaskBusinessReducerState.accepts, Bool.and_eq_true, beq_iff_eq] at accepted
    exact accepted.2
  have stream : (previous.take event).resumeFrom.streamId = previous.resumeFrom.streamId := by
    simp only [take]
    split
    · exact sameStream
    · rfl
  have resumeFrom : previous.resumeFrom.sequence ≤ (previous.take event).resumeFrom.sequence := by
    simp only [take]
    split
    · omega
    · exact Nat.le_refl _
  have seen : ∀ messageId, messageId ∈ previous.seenMessageIds →
      messageId ∈ (previous.take event).seenMessageIds :=
    fun messageId member => List.mem_append_left _ member
  cases applies : previous.shouldApply event.contextRevision with
  | false =>
    obtain ⟨context, -, revisions⟩ := take_unapplied applies
    constructor
    · rw [context]
    · exact stream
    · rfl
    · exact seen
    · rw [context]
    · rw [revisions]
      exact RevisionsKept.refl _
    · exact resumeFrom
    · exact fun _ => ⟨context, revisions⟩
  | true =>
    have replaced : ∀ condition : Bool, ∀ metadata : Metadata,
        (if condition then replaceMetadata event.contextRevision metadata event.content
          else metadata).context.identity = metadata.context.identity ∧
        (if condition then replaceMetadata event.contextRevision metadata event.content
          else metadata).context.contextRevision = metadata.context.contextRevision := by
      intro condition metadata
      cases condition with
      | true => exact replaceMetadata_context _ _ _
      | false => exact ⟨rfl, rfl⟩
    constructor
    · simp only [take, applies, if_true, announceObject_context,
        replaced]
    · exact stream
    · rfl
    · exact seen
    · simp only [take, applies, if_true, announceObject_context,
        replaced]
      omega
    · simp only [take, applies, if_true]
      exact announceObject_revisions
        (Announced.mk _ previous.objects previous.objectRevisions) event.content
    · exact resumeFrom
    · intro finalized
      simp only [shouldApply, Bool.and_eq_true,
        Option.isNone_iff_eq_none] at applies
      rw [applies.2] at finalized
      cases finalized

theorem reduceTaskBusinessFeedback_followsUp
    (reduced : reduceTaskBusinessFeedback previous event = .ok next) : FollowsUp previous next := by
  obtain ⟨accepted, ⟨-, isPrevious⟩ | ⟨-, -, -, -, isTaken⟩⟩ :=
    reduceTaskBusinessFeedback_eq_ok.mp reduced
  · rw [isPrevious]
    exact FollowsUp.refl _
  · rw [isTaken]
    exact take_followsUp accepted

theorem reduceTaskBusinessFeedback_overlap
    (reduced : reduceTaskBusinessFeedback previous event = .ok next)
    (old : event.contextRevision ≤ previous.bootstrapSnapshotRevision) :
    next.context = previous.context ∧ next.objects = previous.objects ∧
      next.objectRevisions = previous.objectRevisions := by
  obtain ⟨-, ⟨-, isPrevious⟩ | ⟨-, -, -, -, isTaken⟩⟩ :=
    reduceTaskBusinessFeedback_eq_ok.mp reduced
  · rw [isPrevious]
    exact ⟨rfl, rfl, rfl⟩
  · rw [isTaken]
    apply take_unapplied
    have notNewer : decide (previous.bootstrapSnapshotRevision < event.contextRevision) = false :=
      decide_eq_false (by omega)
    simp [shouldApply, notNewer]

def TaskBusinessReducerState.taken (state : TaskBusinessReducerState)
    (event : PublicTaskBusinessFeedback) : Prop :=
  state.accepts event = true ∧ event.messageId ∈ state.seenMessageIds

theorem FollowsUp.accepts (follows : FollowsUp previous next) (event : PublicTaskBusinessFeedback) :
    next.accepts event = previous.accepts event := by
  simp only [TaskBusinessReducerState.accepts, follows.identity, follows.stream]

theorem reduceTaskBusinessFeedback_deduplicates :
    Deduplicates reduceTaskBusinessFeedback taken := by
  constructor
  · intro state event next reduced
    have follows := reduceTaskBusinessFeedback_followsUp reduced
    obtain ⟨accepted, ⟨seen, isPrevious⟩ | ⟨-, -, -, -, isTaken⟩⟩ :=
      reduceTaskBusinessFeedback_eq_ok.mp reduced
    · rw [isPrevious]
      exact ⟨accepted, seen⟩
    · refine ⟨(follows.accepts event).trans accepted, ?_⟩
      rw [isTaken]
      exact List.mem_append_right _ (List.mem_singleton.mpr rfl)
  · intro state event other next taken reduced
    have follows := reduceTaskBusinessFeedback_followsUp reduced
    exact ⟨(follows.accepts event).trans taken.1, follows.seen _ taken.2⟩
  · intro state event taken
    exact reduceTaskBusinessFeedback_eq_ok.mpr ⟨taken.1, Or.inl ⟨taken.2, rfl⟩⟩

theorem reduceAll_followsUp {start final : TaskBusinessReducerState}
    {events : List PublicTaskBusinessFeedback}
    (reduced : reduceAll reduceTaskBusinessFeedback start events = .ok final) :
    FollowsUp start final :=
  reduceAll_related FollowsUp.refl FollowsUp.trans reduceTaskBusinessFeedback_followsUp reduced

/-- Every event of an accepted list moves the read model forward or leaves it; one the snapshot
covers changes neither Context nor objects, nor does any behind a final Context; and delivering
events again, anywhere behind their first delivery, ends in the same state. -/
theorem feedback_onlyForward {start final : TaskBusinessReducerState}
    {events : List PublicTaskBusinessFeedback}
    (accepted : reduceAll reduceTaskBusinessFeedback start events = .ok final) :
    (∀ earlier event later, events = earlier ++ event :: later → ∃ previous next,
      reduceAll reduceTaskBusinessFeedback start earlier = .ok previous ∧
      reduceTaskBusinessFeedback previous event = .ok next ∧
      reduceAll reduceTaskBusinessFeedback next later = .ok final ∧
      previous.context.contextRevision ≤ next.context.contextRevision ∧
      RevisionsKept previous.objectRevisions next.objectRevisions ∧
      previous.resumeFrom.sequence ≤ next.resumeFrom.sequence ∧
      (event.contextRevision ≤ start.bootstrapSnapshotRevision →
        next.context = previous.context ∧ next.objects = previous.objects ∧
          next.objectRevisions = previous.objectRevisions) ∧
      (previous.context.finalizedAt.isSome = true →
        final.context = previous.context ∧
          final.objectRevisions = previous.objectRevisions)) ∧
    ∀ delivered, Redelivered [] events delivered →
      reduceAll reduceTaskBusinessFeedback start delivered = .ok final := by
  constructor
  · intro earlier event later split
    rw [split] at accepted
    obtain ⟨previous, before, rest⟩ := reduceAll_append_eq_ok.mp accepted
    obtain ⟨next, reduced, after⟩ := reduceAll_cons_eq_ok.mp rest
    have follows := reduceTaskBusinessFeedback_followsUp reduced
    have fromStart := reduceAll_followsUp before
    refine ⟨previous, next, before, reduced, after, follows.contextRevision,
      follows.objectRevisions, follows.resumeFrom, ?_, ?_⟩
    · intro old
      apply reduceTaskBusinessFeedback_overlap reduced
      rw [fromStart.bootstrap]
      exact old
    · exact (follows.trans (reduceAll_followsUp after)).final
  · intro delivered again
    exact reduceTaskBusinessFeedback_deduplicates.redelivered again
      (fun _ before => absurd before List.not_mem_nil) accepted

theorem feedback_onlyForward_sample :
    ∃ start final,
      bootstrapTaskBusinessReducer libraries [page] (cursor "7") = .ok start ∧
      reduceAll reduceTaskBusinessFeedback start
        [artifactChanged "a" "8" 1 2, artifactChanged "b" "9" 3 3] = .ok final ∧
      reduceAll reduceTaskBusinessFeedback start
        [artifactChanged "a" "8" 1 2, artifactChanged "a" "8" 1 2,
          artifactChanged "b" "9" 3 3, artifactChanged "a" "8" 1 2] = .ok final := by
  have accepted : (bootstrapTaskBusinessReducer libraries [page]
      (cursor "7") >>= fun start => reduceAll reduceTaskBusinessFeedback start
        [artifactChanged "a" "8" 1 2, artifactChanged "b" "9" 3 3]).toOption.isSome =
      true := by
    decide +kernel
  obtain ⟨final, isFinal⟩ := Option.isSome_iff_exists.mp accepted
  obtain ⟨start, bootstrapped, reduced⟩ :=
    Except.bind_eq_ok.mp (Except.toOption_eq_some.mp isFinal)
  have again := (feedback_onlyForward reduced).2
    [artifactChanged "a" "8" 1 2, artifactChanged "a" "8" 1 2,
      artifactChanged "b" "9" 3 3, artifactChanged "a" "8" 1 2]
    (.event _ (.again List.mem_cons_self (.event _ (.again (by simp) (.done _)))))
  exact ⟨start, final, bootstrapped, reduced, again⟩

end SdarRuntime.Business
