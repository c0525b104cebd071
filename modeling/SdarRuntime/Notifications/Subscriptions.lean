import SdarRuntime.Library.Histories
import SdarRuntime.Notifications.Manager

/-!
What a subscription hears: its acknowledgement first, and of each task ever later revisions. The
poller sees a subscription before its first snapshots are loaded, and so does a cancel.
-/

namespace SdarRuntime

namespace Notifications

open OrderedMap TaskMessage Histories Subscription

variable {options : ManagerOptions} {tasks : String → Snapshot} {subscription : Subscription}
  {messages : List TaskMessage} {id : Nat}

/-! ### Revisions -/

/-- Snapshots of one task: an earlier one has a lower revision, or is the same. -/
def Snapshot.Older (earlier later : Snapshot) : Prop :=
  earlier.runtimeRevision < later.runtimeRevision ∨ earlier = later

theorem Snapshot.Older.refl (snapshot : Snapshot) : snapshot.Older snapshot := Or.inr rfl

theorem Snapshot.Older.trans {first second third : Snapshot} (earlier : first.Older second)
    (later : second.Older third) : first.Older third := by
  unfold Snapshot.Older at *
  rcases earlier with lower | same
  · rcases later with stillLower | same
    · left
      omega
    · rw [← same]
      exact Or.inl lower
  · rw [same]
    exact later

/-- The state a subscription keeps is that of a snapshot no later than this one. -/
def NotificationState.Before (options : ManagerOptions) (state : NotificationState)
    (snapshot : Snapshot) : Prop :=
  ∃ earlier, state = notificationState options earlier ∧ earlier.Older snapshot

variable {state : NotificationState}

theorem NotificationState.Before.trans {first second : Snapshot}
    (before : state.Before options first) (older : first.Older second) :
    state.Before options second := by
  obtain ⟨earlier, same, isOlder⟩ := before
  exact ⟨earlier, same, isOlder.trans older⟩

theorem NotificationState.before_self (snapshot : Snapshot) :
    (notificationState options snapshot).Before options snapshot :=
  ⟨snapshot, rfl, .refl snapshot⟩

/-! ### What was said -/

def TaskMessage.revision? (taskId : String) (message : TaskMessage) : Option Nat :=
  match message.content with
  | .acknowledged _ => none
  | .task other snapshot => if other = taskId then some snapshot.runtimeRevision else none

/-- The first message is the acknowledgement, the revisions of a task rise, and the last one is
known. -/
structure Spoken (accepted : List String) (revisions : OrderedMap String NotificationState)
    (messages : List TaskMessage) : Prop where
  first : ∀ message, messages.head? = some message → message.content = .acknowledged accepted
  increasing : ∀ taskId, (messages.filterMap (revision? taskId)).Pairwise (· < ·)
  known : ∀ taskId revision, revision ∈ messages.filterMap (revision? taskId) →
    ∃ state, revisions.get? taskId = some state ∧ revision ≤ state.revision

variable {accepted : List String} {revisions : OrderedMap String NotificationState}

theorem spoken_nil : Spoken accepted revisions [] := by
  constructor
  · intro message isFirst
    cases isFirst
  · intro taskId
    exact List.Pairwise.nil
  · intro taskId revision member
    cases member

theorem spoken_acknowledged (subscriptionId : RequestId) :
    Spoken accepted revisions
      [{ subscriptionId := subscriptionId
         content := .acknowledged accepted }] := by
  constructor
  · intro message isFirst
    rw [← Option.some.inj isFirst]
  · intro taskId
    exact List.Pairwise.nil
  · intro taskId revision member
    cases member

variable {taskId : String}

theorem Spoken.set (spoken : Spoken accepted revisions messages) {next : NotificationState}
    (later : ∀ state, revisions.get? taskId = some state → state.revision ≤ next.revision) :
    Spoken accepted (revisions.set taskId next) messages := by
  constructor
  · exact spoken.first
  · exact spoken.increasing
  · intro other revision member
    obtain ⟨state, found, within⟩ := spoken.known other revision member
    by_cases same : other = taskId
    · rw [same, get?_set_self]
      rw [same] at found
      have isLater := later state found
      exact ⟨next, rfl, by omega⟩
    · rw [get?_set_ne _ _ same]
      exact ⟨state, found, within⟩

variable {snapshot : Snapshot}

theorem Spoken.task (spoken : Spoken accepted revisions messages) (begun : messages ≠ [])
    (later : ∀ state, revisions.get? taskId = some state →
      state.revision < snapshot.runtimeRevision) (subscriptionId : RequestId) :
    Spoken accepted (revisions.set taskId (notificationState options snapshot))
      (messages ++
        [{ subscriptionId := subscriptionId
           content := .task taskId snapshot }]) := by
  have replaced : Spoken accepted (revisions.set taskId (notificationState options snapshot))
      messages := spoken.set fun state found => Nat.le_of_lt (later state found)
  constructor
  · intro message isFirst
    rw [List.head?_append_of_ne_nil _ begun] at isFirst
    exact spoken.first message isFirst
  · intro other
    rw [List.filterMap_append, List.pairwise_append]
    constructor
    · exact spoken.increasing other
    constructor
    · unfold revision?
      by_cases same : taskId = other <;> simp [same]
    · intro revision member last isLast
      by_cases same : taskId = other
      · obtain ⟨state, found, within⟩ := spoken.known other revision member
        rw [← same] at found
        have isLater := later state found
        simp only [revision?, same, if_true, List.filterMap_cons, List.filterMap_nil,
          List.mem_singleton] at isLast
        omega
      · simp [revision?, same] at isLast
  · intro other revision member
    rw [List.filterMap_append, List.mem_append] at member
    rcases member with earlier | isLast
    · exact replaced.known other revision earlier
    · by_cases same : taskId = other
      · simp only [revision?, same, if_true, List.filterMap_cons, List.filterMap_nil,
          List.mem_singleton] at isLast
        rw [same, get?_set_self]
        exact ⟨_, rfl, le_of_eq isLast⟩
      · simp [revision?, same] at isLast

/-! ### Subscriptions -/

def Load.Holds (load : Load) (taskId : String) (snapshot : Snapshot) : Prop :=
  load.loaded.get? taskId = some snapshot ∨
    ∃ answer, load.answer = some answer ∧ (taskId, snapshot) ∈ answer

/-- A subscription is silent while it loads, then it is acknowledged first, and what it keeps of
a task is behind the engine. Once it is cancelled and does not load, its response has ended. -/
structure Subscription.Sound (options : ManagerOptions) (tasks : String → Snapshot)
    (subscription : Subscription) : Prop where
  entries : ∀ taskId state, subscription.revisions.get? taskId = some state →
    state.Before options (tasks taskId)
  spoken : ∃ messages, subscription.writer.Holds messages ∧
    Spoken subscription.acceptedTaskIds subscription.revisions messages ∧
      (subscription.writer.closed = false → subscription.loads = false → messages ≠ [])
  silent : subscription.loads = true →
    subscription.revisions = .empty ∧ subscription.writer.Holds []
  loading : ∀ load taskId snapshot, subscription.stage = .loading load →
    load.Holds taskId snapshot → snapshot.Older (tasks taskId)
  endsClosed : subscription.registered = true → subscription.writer.EndsClosed
  released : subscription.registered = false →
    subscription.writer.closed = true ∧ subscription.ended = true
  cancelled : subscription.cancelled = true → subscription.loads = false →
    subscription.ended = true

variable {taskIds : List String}

theorem Load.holds_start :
    ¬(Load.start options taskIds).Holds taskId snapshot := by
  unfold Load.start
  rintro (loaded | ⟨answer, isAnswer, member⟩)
  · split at loaded <;> cases loaded
  · split at isAnswer
    · rw [← Option.some.inj isAnswer] at member
      cases member
    · cases isAnswer

theorem Load.Holds.of_read {load : Load} {visible : String → Bool}
    (holds : (load.read tasks visible).Holds taskId snapshot) :
    load.Holds taskId snapshot ∨ snapshot = tasks taskId := by
  unfold Load.read at holds
  cases isAnswer : load.answer with
  | some answer =>
    rw [isAnswer] at holds
    exact Or.inl holds
  | none =>
    rw [isAnswer] at holds
    rcases holds with loaded | ⟨answer, isNew, member⟩
    · exact Or.inl (Or.inl loaded)
    · rw [← Option.some.inj isNew] at member
      obtain ⟨other, _, same⟩ := List.mem_map.mp member
      rw [Prod.mk.injEq] at same
      rw [← same.1, ← same.2]
      exact Or.inr rfl

theorem Load.Holds.of_resume {load next : Load} (resumed : load.resume = .reading next)
    (holds : next.Holds taskId snapshot) :
    load.Holds taskId snapshot := by
  unfold Load.resume at resumed
  cases isAnswer : load.answer with
  | none =>
    rw [isAnswer] at resumed
    rw [Progress.reading.inj resumed]
    exact holds
  | some answer =>
    rw [isAnswer] at resumed
    dsimp only at resumed
    split at resumed
    · cases resumed
    · rw [← Progress.reading.inj resumed] at holds
      rcases holds with loaded | ⟨none, isNone, _⟩
      · rcases mem_of_get?_setAll loaded with before | member
        · exact Or.inl before
        · exact Or.inr ⟨answer, isAnswer, member⟩
      · cases isNone

variable {snapshots : OrderedMap String Snapshot}

theorem Load.holds_of_loaded {load : Load} (resumed : load.resume = .loaded snapshots)
    (found : snapshots.get? taskId = some snapshot) : load.Holds taskId snapshot := by
  unfold Load.resume at resumed
  cases isAnswer : load.answer with
  | none =>
    rw [isAnswer] at resumed
    cases resumed
  | some answer =>
    rw [isAnswer] at resumed
    dsimp only at resumed
    split at resumed
    · rw [← Progress.loaded.inj resumed] at found
      rcases mem_of_get?_setAll found with before | member
      · exact Or.inl before
      · exact Or.inr ⟨answer, isAnswer, member⟩
    · cases resumed

/-! ### Telling a subscription -/

theorem Subscription.holds_enqueue (holds : subscription.writer.Holds messages) (id : Nat)
    (content : Content) :
    (subscription.enqueue options id content).1.writer.Holds
      (messages ++
        [{ subscriptionId := subscription.wireRequestId
           content := content }]) :=
  holds.enqueue options.limits _ _

theorem Subscription.enqueue_closed (closed : subscription.writer.closed = true) (id : Nat)
    (content : Content) : (subscription.enqueue options id content).1 = subscription := by
  unfold Subscription.enqueue Writer.enqueue
  rw [if_pos closed]

theorem Subscription.enqueue_refused {content : Content}
    (refused : (subscription.enqueue options id content).2 = false) :
    (subscription.enqueue options id content).1.writer.closed = true := by
  unfold Subscription.enqueue at refused ⊢
  dsimp only at refused ⊢
  rw [Writer.enqueue_taken] at refused
  simpa using refused

/-- A subscription that has begun: it is acknowledged, or its writer is closed. -/
structure Subscription.Begun (subscription : Subscription) : Prop where
  spoken : ∃ messages, subscription.writer.Holds messages ∧
    Spoken subscription.acceptedTaskIds subscription.revisions messages ∧
      (subscription.writer.closed = false → messages ≠ [])

theorem Subscription.Begun.tell (begun : subscription.Begun)
    (later : ∀ state, subscription.revisions.get? taskId = some state →
      state.revision < snapshot.runtimeRevision) :
    (subscription.tell options id taskId snapshot).1.Begun := by
  obtain ⟨messages, holds, spoken, nonempty⟩ := begun.spoken
  unfold Subscription.tell
  cases isClosed : subscription.writer.closed with
  | true =>
    have stays : (subscription.know options taskId snapshot).writer.closed = true := isClosed
    rw [Subscription.enqueue_closed stays]
    constructor
    refine ⟨messages, holds, ?_, ?_⟩
    · exact spoken.set fun state found => Nat.le_of_lt (later state found)
    · intro isOpen
      rw [stays] at isOpen
      contradiction
  | false =>
    constructor
    have heard : (subscription.know options taskId snapshot).writer.Holds messages := holds
    refine ⟨_, holds_enqueue heard id (.task taskId snapshot), ?_, ?_⟩
    · exact spoken.task (nonempty isClosed) later _
    · intro _
      simp

/-- Nothing else of a subscription changes when it is told something. -/
structure Subscription.Same (first second : Subscription) : Prop where
  accepted : second.acceptedTaskIds = first.acceptedTaskIds
  cancelled : second.cancelled = first.cancelled
  responseClosed : second.responseClosed = first.responseClosed
  stage : second.stage = first.stage

theorem Subscription.Same.refl (subscription : Subscription) : subscription.Same subscription :=
  { accepted := rfl
    cancelled := rfl
    responseClosed := rfl
    stage := rfl }

theorem Subscription.Same.trans {first second third : Subscription} (earlier : first.Same second)
    (later : second.Same third) : first.Same third :=
  { accepted := later.accepted.trans earlier.accepted
    cancelled := later.cancelled.trans earlier.cancelled
    responseClosed := later.responseClosed.trans earlier.responseClosed
    stage := later.stage.trans earlier.stage }

theorem Subscription.same_tell (id : Nat) (taskId : String) (snapshot : Snapshot) :
    subscription.Same (subscription.tell options id taskId snapshot).1 :=
  { accepted := rfl
    cancelled := rfl
    responseClosed := rfl
    stage := rfl }

theorem Subscription.endsClosed_tell (endsClosed : subscription.writer.EndsClosed) (taskId : String)
    (snapshot : Snapshot) :
    (subscription.tell options id taskId snapshot).1.writer.EndsClosed :=
  endsClosed.enqueue options.limits _ _

theorem Subscription.get?_tell {taskId other : String}
    (found : (subscription.tell options id taskId snapshot).1.revisions.get? other = some state) :
    other = taskId ∧ state = notificationState options snapshot ∨
      subscription.revisions.get? other = some state := by
  change (subscription.revisions.set taskId (notificationState options snapshot)).get? other =
    some state at found
  by_cases same : other = taskId
  · rw [same, get?_set_self] at found
    exact Or.inl ⟨same, (Option.some.inj found).symm⟩
  · rw [get?_set_ne _ _ same] at found
    exact Or.inr found

theorem Subscription.ended_tell (ended : subscription.ended = true) (id : Nat) (taskId : String)
    (snapshot : Snapshot) : (subscription.tell options id taskId snapshot).1.ended = true := by
  unfold Subscription.ended at ended ⊢
  rw [Bool.or_eq_true, Bool.or_eq_true] at ended ⊢
  rcases ended with (byWriter | byClient) | failed
  · exact Or.inl (Or.inl (Writer.ended_enqueue byWriter options.limits _ _))
  · exact Or.inl (Or.inr byClient)
  · exact Or.inr failed

/-! ### The first notifications -/

/-- What the first notifications leave: the subscription has begun, it keeps the revisions of the
loaded snapshots, and a refusal has closed the writer. -/
structure Subscription.Announced (options : ManagerOptions)
    (snapshots : OrderedMap String Snapshot) (before after : Subscription) : Prop where
  begun : after.Begun
  same : before.Same after
  endsClosed : after.writer.EndsClosed
  entries : ∀ taskId state, after.revisions.get? taskId = some state →
    ∃ snapshot, snapshots.get? taskId = some snapshot ∧ state = notificationState options snapshot

theorem announced_announce (id : Nat) (distinct : taskIds.Nodup)
    (unknown : ∀ taskId, taskId ∈ taskIds → subscription.revisions.get? taskId = none)
    (announced : Subscription.Announced options snapshots subscription subscription) :
    Subscription.Announced options snapshots subscription
        (announce options id snapshots taskIds subscription).1 ∧
      ((announce options id snapshots taskIds subscription).2 = false →
        (announce options id snapshots taskIds subscription).1.writer.closed = true) := by
  induction taskIds generalizing subscription with
  | nil =>
    constructor
    · exact announced
    · intro refused
      cases refused
  | cons taskId later ih =>
    obtain ⟨apart, rest⟩ := List.nodup_cons.mp distinct
    unfold announce
    cases found : snapshots.get? taskId with
    | none =>
      exact ih rest (fun other member => unknown other (List.mem_cons_of_mem _ member)) announced
    | some snapshot =>
      dsimp only
      have isNew := unknown taskId List.mem_cons_self
      have begun : (subscription.tell options id taskId snapshot).1.Begun := by
        apply announced.begun.tell
        intro state isKnown
        rw [isNew] at isKnown
        cases isKnown
      have told : Subscription.Announced options snapshots
          (subscription.tell options id taskId snapshot).1
          (subscription.tell options id taskId snapshot).1 := by
        constructor
        · exact begun
        · exact .refl _
        · exact endsClosed_tell announced.endsClosed taskId snapshot
        · intro other state isKnown
          rcases get?_tell isKnown with ⟨same, isState⟩ | earlier
          · rw [same]
            exact ⟨snapshot, found, isState⟩
          · exact announced.entries other state earlier
      have same : subscription.Same (subscription.tell options id taskId snapshot).1 :=
        same_tell id taskId snapshot
      split
      · have unseen : ∀ other, other ∈ later →
            (subscription.tell options id taskId snapshot).1.revisions.get? other = none := by
          intro other member
          have different : other ≠ taskId := fun isTask => apart (isTask ▸ member)
          change (subscription.revisions.set taskId _).get? other = none
          rw [get?_set_ne _ _ different]
          exact unknown other (List.mem_cons_of_mem _ member)
        obtain ⟨last, refused⟩ := ih rest unseen told
        constructor
        · exact
            { begun := last.begun
              same := same.trans last.same
              endsClosed := last.endsClosed
              entries := last.entries }
        · exact refused
      · rename_i refused
        constructor
        · exact
            { begun := told.begun
              same := same
              endsClosed := told.endsClosed
              entries := told.entries }
        · intro _
          exact enqueue_refused (Bool.not_eq_true _ ▸ refused)

/-! ### What one subscription does -/

theorem Subscription.Begun.release (begun : subscription.Begun)
    (entries : ∀ taskId state, subscription.revisions.get? taskId = some state →
      state.Before options (tasks taskId)) {failed : Bool}
    (ended : (subscription.release failed).ended = true) :
    (subscription.release failed).Sound options tasks := by
  obtain ⟨messages, holds, spoken, _⟩ := begun.spoken
  constructor
  · exact entries
  · refine ⟨messages, holds.dispose, spoken, ?_⟩
    intro isOpen
    cases isOpen
  · intro loads
    cases loads
  · intro load _ _ isStage
    cases isStage
  · intro registered
    cases registered
  · intro _
    exact ⟨rfl, ended⟩
  · intro _ _
    exact ended

theorem Subscription.Sound.begun (sound : subscription.Sound options tasks)
    (notLoading : subscription.loads = false) : subscription.Begun := by
  obtain ⟨messages, holds, spoken, nonempty⟩ := sound.spoken
  constructor
  exact ⟨messages, holds, spoken, fun isOpen => nonempty isOpen notLoading⟩

theorem Subscription.Sound.begin (sound : subscription.Sound options tasks) (id : Nat) {load : Load}
    (isStage : subscription.stage = .loading load) (resumed : load.resume = .loaded snapshots)
    (notCancelled : subscription.cancelled = true → snapshots.keys = []) :
    (subscription.begin options id snapshots).Sound options tasks ∧
      ∀ taskId state,
        (subscription.begin options id snapshots).revisions.get? taskId = some state →
          ∃ snapshot, snapshots.get? taskId = some snapshot ∧
            state = notificationState options snapshot := by
  have loads : subscription.loads = true := by
    unfold loads
    rw [isStage]
  have registered : subscription.registered = true := by
    unfold registered
    rw [isStage]
  obtain ⟨noRevisions, isSilent⟩ := sound.silent loads
  have older {taskId : String} {snapshot : Snapshot}
      (found : snapshots.get? taskId = some snapshot) : snapshot.Older (tasks taskId) :=
    sound.loading load taskId snapshot isStage (Load.holds_of_loaded resumed found)
  have before {entry : Subscription}
      (entries : ∀ taskId state, entry.revisions.get? taskId = some state →
        ∃ snapshot, snapshots.get? taskId = some snapshot ∧
          state = notificationState options snapshot) (taskId : String) (state : NotificationState)
      (found : entry.revisions.get? taskId = some state) : state.Before options (tasks taskId) := by
    obtain ⟨snapshot, isLoaded, isState⟩ := entries taskId state found
    exact ⟨snapshot, isState, older isLoaded⟩
  unfold Subscription.begin
  dsimp only
  generalize isAcknowledged : Subscription.enqueue options id
    (.acknowledged snapshots.keys.mergeSort)
      { subscription with acceptedTaskIds := snapshots.keys.mergeSort } = acknowledged
  have first : Subscription.Announced options snapshots acknowledged.1 acknowledged.1 := by
    rw [← isAcknowledged]
    constructor
    · constructor
      refine ⟨_, holds_enqueue isSilent id _, ?_, ?_⟩
      · exact spoken_acknowledged _
      · intro _
        simp
    · exact .refl _
    · exact (sound.endsClosed registered).enqueue options.limits _ _
    · intro taskId state found
      change subscription.revisions.get? taskId = some state at found
      rw [noRevisions] at found
      cases found
  have isCancelled : acknowledged.1.cancelled = subscription.cancelled := by
    rw [← isAcknowledged]
    rfl
  split
  · rename_i refused
    have isClosed : acknowledged.1.writer.closed = true := by
      rw [← isAcknowledged] at refused ⊢
      exact enqueue_refused refused
    have ended := first.endsClosed isClosed
    constructor
    · apply first.begun.release (before first.entries)
      simp [Subscription.ended, release, Writer.dispose, ended]
    · exact first.entries
  · have unknown : ∀ taskId, taskId ∈ snapshots.keys.mergeSort →
        acknowledged.1.revisions.get? taskId = none := by
      intro taskId _
      rw [← isAcknowledged]
      change subscription.revisions.get? taskId = none
      rw [noRevisions]
      rfl
    have distinct : snapshots.keys.mergeSort.Nodup :=
      (List.mergeSort_perm _ _).nodup_iff.mpr snapshots.distinct
    obtain ⟨announced, refuses⟩ := announced_announce id distinct unknown first
    generalize isAnnounced : announce options id snapshots snapshots.keys.mergeSort
      acknowledged.1 = last at announced refuses ⊢
    split
    · rename_i refused
      have ended := announced.endsClosed (refuses refused)
      constructor
      · apply announced.begun.release (before announced.entries)
        simp [Subscription.ended, release, Writer.dispose, ended]
      · exact announced.entries
    · split
      · have ended := announced.endsClosed.close
        constructor
        · have closed : Subscription.Begun { last.1 with writer := last.1.writer.close } := by
            obtain ⟨messages, holds, spoken, nonempty⟩ := announced.begun.spoken
            constructor
            refine ⟨messages, holds.close, spoken, ?_⟩
            intro isOpen
            rw [Writer.closed_close] at isOpen
            contradiction
          apply closed.release (before announced.entries)
          simp [Subscription.ended, release, Writer.dispose, ended]
        · exact announced.entries
      · rename_i nonempty
        obtain ⟨messages, holds, spoken, begun⟩ := announced.begun.spoken
        constructor
        · constructor
          · exact before announced.entries
          · exact ⟨messages, holds, spoken, fun isOpen _ => begun isOpen⟩
          · intro isLoading
            cases isLoading
          · intro other _ _ isLoading
            cases isLoading
          · intro _
            exact announced.endsClosed
          · intro isReleased
            cases isReleased
          · intro wasCancelled
            change last.1.cancelled = true at wasCancelled
            rw [announced.same.cancelled, isCancelled] at wasCancelled
            rw [List.isEmpty_iff] at nonempty
            rw [notCancelled wasCancelled] at nonempty
            exact absurd (List.mergeSort_nil) nonempty
        · exact announced.entries

/-! ### The deliveries of a poll -/

/-- What a poll holds is not behind what the subscription keeps, and none of it is for a
subscription that loads. -/
structure Subscription.Ready (options : ManagerOptions) (snapshots : OrderedMap String Snapshot)
    (subscription : Subscription) : Prop where
  behind : ∀ taskId state snapshot, subscription.revisions.get? taskId = some state →
    snapshots.get? taskId = some snapshot → state.Before options snapshot
  begun : subscription.loads = true →
    ∀ taskId, taskId ∈ subscription.acceptedTaskIds → snapshots.get? taskId = none

def PollFailure.Other (failure : PollFailure) : Prop :=
  failure ≠ .revisionRegression ∧ failure ≠ .revisionConflict

theorem Subscription.Sound.tell (sound : subscription.Sound options tasks)
    (notLoading : subscription.loads = false) (older : snapshot.Older (tasks taskId))
    (later : ∀ state, subscription.revisions.get? taskId = some state →
      state.revision < snapshot.runtimeRevision) :
    (subscription.tell options id taskId snapshot).1.Sound options tasks := by
  obtain ⟨messages, holds, spoken, nonempty⟩ := ((sound.begun notLoading).tell later).spoken
  have stage : (subscription.tell options id taskId snapshot).1.stage = subscription.stage := rfl
  constructor
  · intro other state found
    rcases get?_tell found with ⟨same, isState⟩ | earlier
    · rw [same]
      exact ⟨snapshot, isState, older⟩
    · exact sound.entries other state earlier
  · exact ⟨messages, holds, spoken, fun isOpen _ => nonempty isOpen⟩
  · intro loads
    change subscription.loads = true at loads
    rw [notLoading] at loads
    contradiction
  · exact sound.loading
  · intro registered
    exact endsClosed_tell (sound.endsClosed registered) taskId snapshot
  · intro released
    obtain ⟨closed, ended⟩ := sound.released released
    have stays : (subscription.know options taskId snapshot).writer.closed = true := closed
    constructor
    · unfold Subscription.tell
      rw [Subscription.enqueue_closed stays]
      exact closed
    · exact ended_tell ended id taskId snapshot
  · intro wasCancelled _
    exact ended_tell (sound.cancelled wasCancelled notLoading) id taskId snapshot

theorem deliverChangedSnapshot_ok (sound : subscription.Sound options tasks)
    (notLoading : subscription.loads = false) (older : snapshot.Older (tasks taskId))
    {delivered : Subscription}
    (isDelivered : deliverChangedSnapshot options id taskId snapshot subscription =
      .ok delivered) :
    delivered.Sound options tasks ∧ subscription.Same delivered ∧
      ∀ other state, delivered.revisions.get? other = some state →
        other = taskId ∧ state = notificationState options snapshot ∨
          subscription.revisions.get? other = some state := by
  have told (later : ∀ state, subscription.revisions.get? taskId = some state →
      state.revision < snapshot.runtimeRevision) :
      (subscription.tell options id taskId snapshot).1.Sound options tasks ∧
        subscription.Same (subscription.tell options id taskId snapshot).1 ∧
          ∀ other state,
            (subscription.tell options id taskId snapshot).1.revisions.get? other = some state →
              other = taskId ∧ state = notificationState options snapshot ∨
                subscription.revisions.get? other = some state := by
    constructor
    · exact sound.tell notLoading older later
    constructor
    · exact same_tell id taskId snapshot
    · intro other state
      exact get?_tell
  unfold deliverChangedSnapshot at isDelivered
  dsimp only at isDelivered
  cases known : subscription.revisions.get? taskId with
  | none =>
    rw [known] at isDelivered
    rw [← Except.ok.inj isDelivered]
    apply told
    intro state isKnown
    rw [known] at isKnown
    cases isKnown
  | some previous =>
    rw [known] at isDelivered
    dsimp only at isDelivered
    split at isDelivered
    · cases isDelivered
    · rename_i notBehind
      split at isDelivered
      · split at isDelivered
        · cases isDelivered
        · rw [← Except.ok.inj isDelivered]
          exact ⟨sound, .refl _, fun _ _ found => Or.inr found⟩
      · rename_i different
        split at isDelivered
        · cases isDelivered
        · rw [← Except.ok.inj isDelivered]
          apply told
          intro state isKnown
          rw [known] at isKnown
          rw [← Option.some.inj isKnown]
          change ¬snapshot.runtimeRevision < previous.revision at notBehind
          change ¬previous.revision = snapshot.runtimeRevision at different
          omega

variable {failure : PollFailure}

theorem deliverChangedSnapshot_error
    (behind : ∀ state, subscription.revisions.get? taskId = some state →
      state.Before options snapshot)
    (failed : deliverChangedSnapshot options id taskId snapshot subscription = .error failure) :
    failure.Other := by
  unfold deliverChangedSnapshot at failed
  dsimp only at failed
  cases known : subscription.revisions.get? taskId with
  | none =>
    rw [known] at failed
    cases failed
  | some previous =>
    obtain ⟨earlier, isEarlier, older⟩ := behind previous known
    rw [known, isEarlier] at failed
    dsimp only at failed
    split at failed
    · rename_i lower
      change snapshot.runtimeRevision < earlier.runtimeRevision at lower
      rcases older with higher | same
      · omega
      · rw [same] at lower
        exact absurd lower (Nat.lt_irrefl _)
    · split at failed
      · rename_i equal
        split at failed
        · rename_i unlike
          change earlier.runtimeRevision = snapshot.runtimeRevision at equal
          rcases older with higher | same
          · omega
          · rw [same] at unlike
            exact absurd rfl unlike
        · cases failed
      · split at failed
        · rw [← Except.error.inj failed]
          constructor <;> nofun
        · cases failed

theorem deliverTasks_sound (older : ∀ taskId snapshot, snapshots.get? taskId = some snapshot →
      snapshot.Older (tasks taskId)) (notLoading : subscription.loads = false)
    (sound : subscription.Sound options tasks) (ready : subscription.Ready options snapshots) :
    (deliverTasks options id snapshots taskIds subscription).1.Sound options tasks ∧
      (deliverTasks options id snapshots taskIds subscription).1.Ready options snapshots ∧
        ∀ failure, (deliverTasks options id snapshots taskIds subscription).2 = some failure →
          failure.Other := by
  induction taskIds generalizing subscription with
  | nil =>
    refine ⟨sound, ready, ?_⟩
    intro failure failed
    cases failed
  | cons taskId later ih =>
    unfold deliverTasks
    cases found : snapshots.get? taskId with
    | none => exact ih notLoading sound ready
    | some snapshot =>
      have behind (state : NotificationState)
          (known : subscription.revisions.get? taskId = some state) :
          state.Before options snapshot := ready.behind taskId state snapshot known found
      dsimp only
      cases isDelivered : deliverChangedSnapshot options id taskId snapshot subscription with
      | error failure =>
        refine ⟨sound, ready, ?_⟩
        intro other same
        rw [← Option.some.inj same]
        exact deliverChangedSnapshot_error behind isDelivered
      | ok delivered =>
        obtain ⟨nextSound, same, entries⟩ :=
          deliverChangedSnapshot_ok sound notLoading (older taskId snapshot found) isDelivered
        have stillBegun : delivered.loads = false := by
          unfold loads at notLoading ⊢
          rw [same.stage]
          exact notLoading
        have nextReady : delivered.Ready options snapshots := by
          constructor
          · intro other state current known isCurrent
            rcases entries other state known with ⟨isTask, isState⟩ | earlier
            · rw [isTask, found] at isCurrent
              rw [isState, ← Option.some.inj isCurrent]
              exact NotificationState.before_self snapshot
            · exact ready.behind other state current earlier isCurrent
          · intro loads
            rw [stillBegun] at loads
            contradiction
        exact ih stillBegun nextSound nextReady

private theorem deliverTasks_none
    (nothing : ∀ taskId, taskId ∈ taskIds → snapshots.get? taskId = none) :
    deliverTasks options id snapshots taskIds subscription = (subscription, none) := by
  induction taskIds with
  | nil => rfl
  | cons taskId later ih =>
    unfold deliverTasks
    rw [nothing taskId List.mem_cons_self]
    exact ih fun other member => nothing other (List.mem_cons_of_mem _ member)

/-- Subscriptions that are sound, and ready where they belong to a group. -/
def Deliverable (options : ManagerOptions) (tasks : String → Snapshot)
    (snapshots : OrderedMap String Snapshot) (group : List Nat)
    (subscriptions : OrderedMap Nat Subscription) : Prop :=
  ∀ id subscription, subscriptions.get? id = some subscription →
    subscription.Sound options tasks ∧
      (id ∈ group → subscription.Ready options snapshots)

theorem deliverGroup_sound (older : ∀ taskId snapshot, snapshots.get? taskId = some snapshot →
      snapshot.Older (tasks taskId)) {group : List Nat}
    {subscriptions : OrderedMap Nat Subscription}
    (deliverable : Deliverable options tasks snapshots group subscriptions) :
    (∀ id subscription,
      (deliverGroup options snapshots group subscriptions).1.get? id = some subscription →
        subscription.Sound options tasks) ∧
      ∀ failure, (deliverGroup options snapshots group subscriptions).2 = some failure →
        failure.Other := by
  induction group generalizing subscriptions with
  | nil =>
    constructor
    · intro id subscription found
      exact (deliverable id subscription found).1
    · intro failure failed
      cases failed
  | cons first later ih =>
    unfold deliverGroup
    cases found : subscriptions.get? first with
    | none =>
      apply ih
      intro id subscription isKnown
      obtain ⟨sound, ready⟩ := deliverable id subscription isKnown
      exact ⟨sound, fun member => ready (List.mem_cons_of_mem _ member)⟩
    | some subscription =>
      obtain ⟨sound, isReady⟩ := deliverable first subscription found
      have ready := isReady List.mem_cons_self
      dsimp only
      generalize isDelivered : deliverTasks options first snapshots
        subscription.acceptedTaskIds subscription = delivered
      have next : delivered.1.Sound options tasks ∧ delivered.1.Ready options snapshots ∧
          ∀ failure, delivered.2 = some failure → failure.Other := by
        rw [← isDelivered]
        cases loads : subscription.loads with
        | false => exact deliverTasks_sound older loads sound ready
        | true =>
          rw [deliverTasks_none (ready.begun loads)]
          refine ⟨sound, ready, ?_⟩
          intro failure failed
          cases failed
      obtain ⟨nextSound, nextReady, noRegression⟩ := next
      have still : Deliverable options tasks snapshots later
          (subscriptions.set first delivered.1) := by
        intro id other isKnown
        by_cases same : id = first
        · rw [same, get?_set_self] at isKnown
          rw [← Option.some.inj isKnown]
          exact ⟨nextSound, fun _ => nextReady⟩
        · rw [get?_set_ne _ _ same] at isKnown
          obtain ⟨otherSound, otherReady⟩ := deliverable id other isKnown
          exact ⟨otherSound, fun member => otherReady (List.mem_cons_of_mem _ member)⟩
      split
      · exact ih still
      · rename_i failure failed
        constructor
        · intro id other isKnown
          exact (still id other isKnown).1
        · intro same isFailure
          rw [← Option.some.inj isFailure]
          exact noRegression failure failed

/-! ### The manager -/

/-- What a poll holds is not ahead of the engine, nor behind its subscriptions. -/
structure Poll.Sound (options : ManagerOptions) (tasks : String → Snapshot)
    (subscriptions : OrderedMap Nat Subscription) (poll : Poll) : Prop where
  older : ∀ taskId snapshot, poll.load.Holds taskId snapshot → snapshot.Older (tasks taskId)
  behind : ∀ id subscription taskId state snapshot, id ∈ poll.group →
    subscriptions.get? id = some subscription →
      subscription.revisions.get? taskId = some state → poll.load.Holds taskId snapshot →
        state.Before options snapshot

structure Manager.Sound (options : ManagerOptions) (manager : Manager) : Prop where
  subscriptions : ∀ id subscription, manager.subscriptions.get? id = some subscription →
    subscription.Sound options manager.tasks
  poll : ∀ poll, manager.poll = some poll →
    poll.Sound options manager.tasks manager.subscriptions
  failures : ∀ failure, failure ∈ manager.failures → failure.Other

variable {manager : Manager}

theorem Manager.new_sound (tasks : String → Snapshot) : (Manager.new tasks).Sound options := by
  constructor
  · intro id subscription found
    cases found
  · intro poll isPoll
    cases isPoll
  · intro failure member
    cases member

theorem Manager.Sound.put (sound : manager.Sound options) (id : Nat) {subscription : Subscription}
    (isSound : subscription.Sound options manager.tasks)
    (behind : ∀ poll taskId state snapshot, manager.poll = some poll → id ∈ poll.group →
      subscription.revisions.get? taskId = some state → poll.load.Holds taskId snapshot →
        state.Before options snapshot) :
    (manager.put id subscription).Sound options := by
  constructor
  · intro other found isFound
    change (manager.subscriptions.set id subscription).get? other = some found at isFound
    by_cases same : other = id
    · rw [same, get?_set_self] at isFound
      rw [← Option.some.inj isFound]
      exact isSound
    · rw [get?_set_ne _ _ same] at isFound
      exact sound.subscriptions other found isFound
  · intro poll isPoll
    have earlier := sound.poll poll isPoll
    constructor
    · exact earlier.older
    · intro other found taskId state snapshot member isFound known holds
      change (manager.subscriptions.set id subscription).get? other = some found at isFound
      by_cases same : other = id
      · rw [same, get?_set_self] at isFound
        rw [← Option.some.inj isFound] at known
        exact behind poll taskId state snapshot isPoll (same ▸ member) known holds
      · rw [get?_set_ne _ _ same] at isFound
        exact earlier.behind other found taskId state snapshot member isFound known holds
  · exact sound.failures

theorem Manager.Sound.update (sound : manager.Sound options) {change : Subscription → Subscription}
    (changes : ∀ subscription, subscription.Sound options manager.tasks →
      (change subscription).Sound options manager.tasks ∧
        (change subscription).revisions = subscription.revisions) :
    (manager.update id change).Sound options := by
  unfold Manager.update
  cases found : manager.subscriptions.get? id with
  | none => exact sound
  | some subscription =>
    obtain ⟨isSound, same⟩ := changes subscription (sound.subscriptions id subscription found)
    apply sound.put id isSound
    intro poll taskId state snapshot isPoll member known holds
    rw [same] at known
    exact (sound.poll poll isPoll).behind id subscription taskId state snapshot member found known
      holds

theorem Subscription.Sound.advance (sound : subscription.Sound options tasks)
    {later : String → Snapshot} (progresses : ∀ taskId, (tasks taskId).Older (later taskId)) :
    subscription.Sound options later :=
  { entries := fun taskId state found =>
      (sound.entries taskId state found).trans (progresses taskId)
    spoken := sound.spoken
    silent := sound.silent
    loading := fun load taskId snapshot isStage holds =>
      (sound.loading load taskId snapshot isStage holds).trans (progresses taskId)
    endsClosed := sound.endsClosed
    released := sound.released
    cancelled := sound.cancelled }

theorem Subscription.Sound.load (sound : subscription.Sound options tasks) {before after : Load}
    (isStage : subscription.stage = .loading before)
    (older : ∀ taskId snapshot, after.Holds taskId snapshot → snapshot.Older (tasks taskId)) :
    Subscription.Sound options tasks { subscription with stage := .loading after } := by
  have loads : subscription.loads = true := by
    unfold loads
    rw [isStage]
  have registered : subscription.registered = true := by
    unfold registered
    rw [isStage]
  constructor
  · exact sound.entries
  · obtain ⟨messages, holds, spoken, _⟩ := sound.spoken
    refine ⟨messages, holds, spoken, ?_⟩
    intro _ notLoading
    cases notLoading
  · intro _
    exact sound.silent loads
  · intro load taskId snapshot isLoad holds
    cases isLoad
    exact older taskId snapshot holds
  · intro _
    exact sound.endsClosed registered
  · intro released
    cases released
  · intro _ notLoading
    cases notLoading

theorem Subscription.Sound.read (sound : subscription.Sound options tasks)
    (visible : String → Bool) :
    (subscription.read tasks visible).Sound options tasks ∧
      (subscription.read tasks visible).revisions = subscription.revisions := by
  unfold Subscription.read
  cases isStage : subscription.stage with
  | loading load =>
    constructor
    · apply sound.load isStage
      intro taskId snapshot holds
      rcases Load.Holds.of_read holds with earlier | now
      · exact sound.loading load taskId snapshot isStage earlier
      · rw [now]
        exact .refl _
    · rfl
  | waiting => exact ⟨sound, rfl⟩
  | returned failed => exact ⟨sound, rfl⟩

theorem Subscription.Sound.fail (sound : subscription.Sound options tasks) :
    subscription.fail.Sound options tasks ∧
      subscription.fail.revisions = subscription.revisions := by
  unfold Subscription.fail
  cases isStage : subscription.stage with
  | loading load =>
    have loads : subscription.loads = true := by
      unfold loads
      rw [isStage]
    obtain ⟨noRevisions, isSilent⟩ := sound.silent loads
    constructor
    · constructor
      · exact sound.entries
      · refine ⟨[], isSilent.dispose, spoken_nil, ?_⟩
        intro isOpen
        cases isOpen
      · intro isLoading
        cases isLoading
      · intro other _ _ isLoading
        cases isLoading
      · intro isRegistered
        cases isRegistered
      · intro _
        constructor
        · rfl
        · simp [Subscription.ended, release]
      · intro _ _
        simp [Subscription.ended, release]
    · rfl
  | waiting => exact ⟨sound, rfl⟩
  | returned failed => exact ⟨sound, rfl⟩

theorem Subscription.Sound.aborted (sound : subscription.Sound options tasks)
    (ended : subscription.loads = false → subscription.ended = true) :
    Subscription.Sound options tasks { subscription with cancelled := true } :=
  { entries := sound.entries
    spoken := sound.spoken
    silent := sound.silent
    loading := sound.loading
    endsClosed := sound.endsClosed
    released := sound.released
    cancelled := fun _ => ended }

theorem Subscription.Sound.cancel (sound : subscription.Sound options tasks) :
    subscription.cancel.Sound options tasks ∧
      subscription.cancel.revisions = subscription.revisions := by
  unfold Subscription.cancel
  split
  · exact ⟨sound, rfl⟩
  · split
    · rename_i isStage
      have registered : subscription.registered = true := by
        unfold registered
        rw [isStage]
      have notLoading : subscription.loads = false := by
        unfold loads
        rw [isStage]
      have ended := (sound.endsClosed registered).close
      obtain ⟨messages, holds, spoken, _⟩ := (sound.begun notLoading).spoken
      constructor
      · have closed : Subscription.Begun
            { subscription with
              cancelled := true
              writer := subscription.writer.close } := by
          constructor
          refine ⟨messages, holds.close, spoken, ?_⟩
          intro isOpen
          rw [Writer.closed_close] at isOpen
          contradiction
        apply closed.release sound.entries
        simp [Subscription.ended, release, Writer.dispose, ended]
      · rfl
    · rename_i notWaiting
      constructor
      · apply sound.aborted
        intro notLoading
        apply (sound.released _).2
        unfold loads at notLoading
        unfold registered
        cases isStage : subscription.stage with
        | waiting => exact absurd isStage notWaiting
        | loading load =>
          rw [isStage] at notLoading
          cases notLoading
        | returned failed => rfl
      · rfl

theorem Subscription.Sound.disconnect (sound : subscription.Sound options tasks) :
    subscription.disconnect.Sound options tasks ∧
      subscription.disconnect.revisions = subscription.revisions := by
  unfold Subscription.disconnect
  split
  · rename_i isStage
    have notLoading : subscription.loads = false := by
      unfold loads
      rw [isStage]
    constructor
    · have begun : Subscription.Begun { subscription with responseClosed := true } := by
        obtain ⟨messages, holds, spoken, nonempty⟩ := (sound.begun notLoading).spoken
        exact ⟨messages, holds, spoken, nonempty⟩
      apply begun.release sound.entries
      simp [Subscription.ended, release]
    · rfl
  · have ended : Subscription.ended { subscription with responseClosed := true } = true := by
      simp [Subscription.ended]
    constructor
    · constructor
      · exact sound.entries
      · exact sound.spoken
      · exact sound.silent
      · exact sound.loading
      · exact sound.endsClosed
      · intro released
        exact ⟨(sound.released released).1, ended⟩
      · intro _ _
        exact ended
    · rfl

theorem Subscription.Sound.drained (sound : subscription.Sound options tasks) (id : Nat) :
    (subscription.drained options id).Sound options tasks ∧
      (subscription.drained options id).revisions = subscription.revisions := by
  have closed : (subscription.drained options id).writer.closed = subscription.writer.closed :=
    Writer.closed_flush _
  have isEnded : (subscription.drained options id).writer.ended = subscription.writer.ended :=
    Writer.ended_flush _
  have ended : (subscription.drained options id).ended = subscription.ended := by
    unfold Subscription.ended
    rw [isEnded]
    rfl
  obtain ⟨messages, holds, spoken, nonempty⟩ := sound.spoken
  constructor
  · constructor
    · exact sound.entries
    · refine ⟨messages, holds.drained _, spoken, ?_⟩
      rw [closed]
      exact nonempty
    · intro loads
      obtain ⟨noRevisions, isSilent⟩ := sound.silent loads
      exact ⟨noRevisions, isSilent.drained _⟩
    · exact sound.loading
    · intro registered isClosed
      rw [closed] at isClosed
      rw [isEnded]
      exact sound.endsClosed registered isClosed
    · rw [closed, ended]
      exact sound.released
    · rw [ended]
      exact sound.cancelled
  · rfl

/-! ### Polls -/

structure Manager.Settled (options : ManagerOptions) (manager : Manager) : Prop where
  subscriptions : ∀ id subscription, manager.subscriptions.get? id = some subscription →
    subscription.Sound options manager.tasks
  failures : ∀ failure, failure ∈ manager.failures → failure.Other

theorem Manager.Sound.settled (sound : manager.Sound options) : manager.Settled options :=
  { subscriptions := sound.subscriptions
    failures := sound.failures }

theorem Manager.Settled.pollGroups (settled : manager.Settled options) (groups : List (List Nat)) :
    (manager.pollGroups options groups).Sound options := by
  cases groups with
  | nil =>
    constructor
    · exact settled.subscriptions
    · intro poll isPoll
      cases isPoll
    · exact settled.failures
  | cons group later =>
    constructor
    · exact settled.subscriptions
    · intro poll isPoll
      rw [← Option.some.inj isPoll]
      constructor
      · intro taskId snapshot holds
        exact absurd holds Load.holds_start
      · intro _ _ _ _ _ _ _ _ holds
        exact absurd holds Load.holds_start
    · exact settled.failures

theorem Manager.Sound.tick (sound : manager.Sound options) :
    (manager.tick options).Sound options := by
  unfold Manager.tick
  split
  · exact sound.settled.pollGroups manager.groups
  · exact sound

theorem Subscription.Sound.close (sound : subscription.Sound options tasks)
    (registered : subscription.registered = true) :
    Subscription.Sound options tasks
      { subscription with writer := subscription.writer.close } := by
  have ended := (sound.endsClosed registered).close
  obtain ⟨messages, holds, spoken, _⟩ := sound.spoken
  constructor
  · exact sound.entries
  · refine ⟨messages, holds.close, spoken, ?_⟩
    intro isOpen
    rw [Writer.closed_close] at isOpen
    contradiction
  · intro loads
    obtain ⟨noRevisions, isSilent⟩ := sound.silent loads
    exact ⟨noRevisions, isSilent.close⟩
  · exact sound.loading
  · intro _ _
    exact ended
  · intro released
    change subscription.registered = false at released
    rw [registered] at released
    contradiction
  · intro _ _
    simp [Subscription.ended, ended]

theorem Manager.Settled.pollFailed (settled : manager.Settled options) (other : failure.Other) :
    (manager.pollFailed failure).Sound options := by
  constructor
  · intro id subscription found
    unfold Manager.pollFailed at found
    dsimp only at found
    rw [get?_filterMap] at found
    obtain ⟨earlier, isEarlier, same⟩ := Option.bind_eq_some_iff.mp found
    have isSound := settled.subscriptions id earlier isEarlier
    rw [← Option.some.inj same]
    split
    · rename_i registered
      exact isSound.close registered
    · exact isSound
  · intro poll isPoll
    cases isPoll
  · intro earlier member
    rcases List.mem_append.mp member with before | isLast
    · exact settled.failures earlier before
    · rw [List.mem_singleton.mp isLast]
      exact other

theorem Manager.Sound.pollRead (sound : manager.Sound options) (visible : String → Bool) :
    (manager.next options (.pollRead visible)).Sound options := by
  constructor
  · exact sound.subscriptions
  · intro next isNext
    obtain ⟨poll, isPoll, same⟩ := Option.map_eq_some_iff.mp isNext
    have earlier := sound.poll poll isPoll
    rw [← same]
    constructor
    · intro taskId snapshot holds
      rcases Load.Holds.of_read holds with before | now
      · exact earlier.older taskId snapshot before
      · rw [now]
        exact .refl _
    · intro id subscription taskId state snapshot member found known holds
      rcases Load.Holds.of_read holds with before | now
      · exact earlier.behind id subscription taskId state snapshot member found known before
      · rw [now]
        exact (sound.subscriptions id subscription found).entries taskId state known
  · exact sound.failures

/-- What goes wrong: a subscription begins behind a cancel it was sent, or ahead of a poll that
is under way for it, or a poll delivers to a subscription that loads. -/
def Manager.InTurn (manager : Manager) : Occurrence → Prop
  | .resume id => ∀ subscription load snapshots,
      manager.subscriptions.get? id = some subscription →
        subscription.stage = .loading load → load.resume = .loaded snapshots →
          (subscription.cancelled = true → snapshots.keys = []) ∧
            ∀ poll taskId held loaded, manager.poll = some poll → id ∈ poll.group →
              poll.load.Holds taskId held → snapshots.get? taskId = some loaded →
                loaded.Older held
  | .pollResume => ∀ poll snapshots id subscription, manager.poll = some poll →
      poll.load.resume = .loaded snapshots → id ∈ poll.group →
        manager.subscriptions.get? id = some subscription → subscription.loads = true →
          ∀ taskId, taskId ∈ subscription.acceptedTaskIds → snapshots.get? taskId = none
  | _ => True

theorem Manager.Sound.pollResume (sound : manager.Sound options)
    (inTurn : manager.InTurn .pollResume) : (manager.pollResume options).Sound options := by
  unfold Manager.pollResume
  cases isPoll : manager.poll with
  | none => exact sound
  | some poll =>
    have earlier := sound.poll poll isPoll
    dsimp only
    cases resumed : poll.load.resume with
    | reading load =>
      constructor
      · exact sound.subscriptions
      · intro next isNext
        rw [← Option.some.inj isNext]
        constructor
        · intro taskId snapshot holds
          exact earlier.older taskId snapshot (Load.Holds.of_resume resumed holds)
        · intro id subscription taskId state snapshot member found known holds
          exact earlier.behind id subscription taskId state snapshot member found known
            (Load.Holds.of_resume resumed holds)
      · exact sound.failures
    | loaded snapshots =>
      have older (taskId : String) (snapshot : Snapshot)
          (found : snapshots.get? taskId = some snapshot) :
          snapshot.Older (manager.tasks taskId) :=
        earlier.older taskId snapshot (Load.holds_of_loaded resumed found)
      have deliverable : Deliverable options manager.tasks snapshots poll.group
          manager.subscriptions := by
        intro id subscription found
        constructor
        · exact sound.subscriptions id subscription found
        · intro member
          constructor
          · intro taskId state snapshot known isLoaded
            exact earlier.behind id subscription taskId state snapshot member found known
              (Load.holds_of_loaded resumed isLoaded)
          · exact inTurn poll snapshots id subscription isPoll resumed member found
      obtain ⟨stillSound, noRegression⟩ := deliverGroup_sound older deliverable
      have settled : Manager.Settled options
          { manager with
            subscriptions :=
              (deliverGroup options snapshots poll.group manager.subscriptions).1 } :=
        { subscriptions := stillSound
          failures := sound.failures }
      dsimp only
      split
      · exact settled.pollGroups poll.later
      · rename_i failure failed
        exact settled.pollFailed (noRegression failure failed)

/-! ### Runs -/

theorem Manager.Sound.startPolling (sound : manager.Sound options) (id : Nat) :
    (manager.startPolling id).Sound options := by
  unfold Manager.startPolling
  split
  · exact
      { subscriptions := sound.subscriptions
        poll := sound.poll
        failures := sound.failures }
  · exact sound

theorem Manager.Sound.resume (sound : manager.Sound options) {id : Nat}
    (inTurn : manager.InTurn (.resume id)) :
    (manager.update id (Subscription.resume options id)).Sound options := by
  unfold Manager.update
  cases found : manager.subscriptions.get? id with
  | none => exact sound
  | some subscription =>
    have isSound := sound.subscriptions id subscription found
    have unchanged {other : Subscription} (still : other.Sound options manager.tasks)
        (same : other.revisions = subscription.revisions) :
        (manager.put id other).Sound options := by
      apply sound.put id still
      intro poll taskId state snapshot isPoll member known holds
      rw [same] at known
      exact (sound.poll poll isPoll).behind id subscription taskId state snapshot member found
        known holds
    dsimp only
    unfold Subscription.resume
    cases isStage : subscription.stage with
    | loading load =>
      dsimp only
      cases resumed : load.resume with
      | reading next =>
        apply unchanged
        · apply isSound.load isStage
          intro taskId snapshot holds
          exact isSound.loading load taskId snapshot isStage
            (Load.Holds.of_resume resumed holds)
        · rfl
      | loaded snapshots =>
        obtain ⟨notCancelled, notAhead⟩ := inTurn subscription load snapshots found isStage
          resumed
        obtain ⟨begun, entries⟩ := isSound.begin id isStage resumed notCancelled
        dsimp only
        apply sound.put id begun
        intro poll taskId state held isPoll member known holds
        obtain ⟨loaded, isLoaded, same⟩ := entries taskId state known
        exact ⟨loaded, same, notAhead poll taskId held loaded isPoll member holds isLoaded⟩
    | waiting => exact unchanged isSound rfl
    | returned failed => exact unchanged isSound rfl

theorem Manager.Sound.listen (sound : manager.Sound options) {request : TaskListenRequest}
    {next : Manager} (registered : manager.listen options request = .ok next) :
    next.Sound options := by
  unfold Manager.listen at registered
  split at registered
  · cases registered
  · dsimp only at registered
    split at registered
    · cases registered
    · split at registered
      · cases registered
      · have silent (taskIds : List String) : Subscription.Sound options manager.tasks
            { wireRequestId := request.id
              transportScopeId := request.transportScopeId
              authorization := request.authorization
              acceptedTaskIds := taskIds
              revisions := .empty
              writer := .new
              cancelled := false
              responseClosed := false
              stage := .loading (.start options taskIds) } := by
          constructor
          · intro taskId state found
            cases found
          · refine ⟨[], Writer.holds_new, spoken_nil, ?_⟩
            intro _ notLoading
            cases notLoading
          · intro _
            exact ⟨rfl, Writer.holds_new⟩
          · intro load taskId snapshot isStage holds
            cases isStage
            exact absurd holds Load.holds_start
          · intro _ closed
            cases closed
          · intro released
            cases released
          · intro wasCancelled
            cases wasCancelled
        have added (taskIds : List String) := sound.put manager.nextId (silent taskIds) (by
          intro poll taskId state snapshot _ _ known
          cases known)
        rw [← Except.ok.inj registered]
        exact
          { subscriptions := (added _).subscriptions
            poll := (added _).poll
            failures := sound.failures }

theorem Manager.Sound.cancel (sound : manager.Sound options) (requestId : RequestId)
    (transportScopeId : String) (authorization : Option AuthorizationContext) :
    (manager.cancel requestId transportScopeId authorization).1.Sound options := by
  unfold Manager.cancel
  split
  · rename_i id subscription only
    have isOnly : (id, subscription) ∈ [(id, subscription)] := List.mem_singleton_self _
    rw [← only] at isOnly
    have member := (List.mem_filter.mp isOnly).1
    have found : manager.subscriptions.get? id = some subscription :=
      mem_entries.mp (List.mem_filter.mp member).1
    obtain ⟨cancelled, same⟩ := (sound.subscriptions id subscription found).cancel
    apply sound.put id cancelled
    intro poll taskId state snapshot isPoll isMember known holds
    rw [same] at known
    exact (sound.poll poll isPoll).behind id subscription taskId state snapshot isMember found known
      holds
  · exact sound

/-- The engine moves a task to a later revision, or leaves it as it is. -/
def Manager.Progresses (manager : Manager) : Occurrence → Prop
  | .change tasks => ∀ taskId, (manager.tasks taskId).Older (tasks taskId)
  | _ => True

variable {occurrence : Occurrence}

theorem Manager.Sound.next (sound : manager.Sound options)
    (progresses : manager.Progresses occurrence) (inTurn : manager.InTurn occurrence) :
    (manager.next options occurrence).Sound options := by
  cases occurrence with
  | change tasks =>
    constructor
    · intro id subscription found
      exact (sound.subscriptions id subscription found).advance progresses
    · intro poll isPoll
      have earlier := sound.poll poll isPoll
      constructor
      · intro taskId snapshot holds
        exact (earlier.older taskId snapshot holds).trans (progresses taskId)
      · exact earlier.behind
    · exact sound.failures
  | listen request =>
    unfold Manager.next
    dsimp only
    split
    · exact sound
    · rename_i next registered
      exact sound.listen registered
  | read id visible => exact sound.update fun _ isSound => isSound.read visible
  | resume id => exact (sound.resume inTurn).startPolling id
  | fail id => exact sound.update fun _ isSound => isSound.fail
  | tick => exact sound.tick
  | pollRead visible => exact sound.pollRead visible
  | pollResume => exact sound.pollResume inTurn
  | pollFail failure =>
    unfold Manager.next
    dsimp only
    split
    · exact sound
    · apply sound.settled.pollFailed
      constructor <;> nofun
  | cancel requestId transportScopeId authorization =>
    exact sound.cancel requestId transportScopeId authorization
  | disconnect id => exact sound.update fun _ isSound => isSound.disconnect
  | drained id => exact sound.update fun _ isSound => isSound.drained id

/-- The first message of a subscription is its acknowledgement, the revisions of a task rise, no
poll has failed over a revision, and a response whose cancel was accepted has ended, unless the
subscription loads. -/
structure Manager.Proper (manager : Manager) : Prop where
  acknowledged : ∀ id subscription message,
    manager.subscriptions.get? id = some subscription →
      subscription.writer.written.head? = some message →
        message.content = .acknowledged subscription.acceptedTaskIds
  increasing : ∀ id subscription taskId, manager.subscriptions.get? id = some subscription →
    (subscription.writer.written.filterMap (revision? taskId)).Pairwise (· < ·)
  steady : ∀ failure, failure ∈ manager.failures →
    failure ≠ .revisionRegression ∧ failure ≠ .revisionConflict
  cancelled : ∀ id subscription, manager.subscriptions.get? id = some subscription →
    subscription.cancelled = true → subscription.loads = false → subscription.ended = true

theorem Manager.Sound.proper (sound : manager.Sound options) : manager.Proper := by
  constructor
  · intro id subscription message found isFirst
    obtain ⟨messages, holds, spoken, _⟩ := (sound.subscriptions id subscription found).spoken
    apply spoken.first
    obtain ⟨later, same⟩ := holds.written
    rw [← same, List.head?_append, isFirst]
    rfl
  · intro id subscription taskId found
    obtain ⟨messages, holds, spoken, _⟩ := (sound.subscriptions id subscription found).spoken
    exact (spoken.increasing taskId).sublist (holds.written.sublist.filterMap _)
  · exact sound.failures
  · intro id subscription found
    exact (sound.subscriptions id subscription found).cancelled

/-- Whatever listens, polls and cancels are interleaved, the subscriptions are proper, as long as
each of them begins and each poll delivers in turn. -/
theorem subscriptions_proper (options : ManagerOptions) (tasks : String → Snapshot)
    (occurrences : List Occurrence)
    (progress : Histories.EveryStep (Manager.next options) Manager.Progresses (.new tasks)
      occurrences)
    (inTurn : Histories.EveryStep (Manager.next options) Manager.InTurn (.new tasks) occurrences) :
    (after (Manager.next options) (.new tasks) occurrences).Proper := by
  have step (manager : Manager) (occurrence : Occurrence) (sound : manager.Sound options)
      (meets : manager.Progresses occurrence ∧ manager.InTurn occurrence) :
      (manager.next options occurrence).Sound options :=
    sound.next meets.1 meets.2
  have sound := keeps step (Manager.new_sound tasks)
    (everyStep_and.mpr ⟨progress, inTurn⟩)
  exact sound.proper

/-! ### Runs in turn and out of turn -/

section Runs

theorem roomyBatch_pos : 0 < 256 := by
  decide

def roomyOptions : ManagerOptions :=
  { maxSubscriptions := 256
    maxSubscriptionsPerAuth := 32
    maxTaskBindings := 4096
    batchSize := 256
    batch_pos := roomyBatch_pos
    limits :=
      { maxMessages := 64
        maxBytes := 1048576
        byteLength := fun _ => 0 }
    stringify := fun snapshot => snapshot.status
    writable := fun _ _ => true }

def workingAt (runtimeRevision : Nat) (_taskId : String) : Snapshot :=
  { runtimeRevision := runtimeRevision
    status := "working"
    body := .null }

def listenTo (id : Int) : Occurrence :=
  .listen
    { id := .number id
      taskIds := ["task"]
      authorization :=
        { hash := "client"
          executionMode := .live
          simulationId := none
          verifiedResponder := none }
      transportScopeId := "direct" }

def everything (_taskId : String) : Bool := true

def listenedAndCancelled : List Occurrence :=
  [listenTo 1, .read 0 everything, .resume 0, .change (workingAt 2), .tick, .pollRead everything,
    .pollResume, .cancel (.number 1) "direct" none]

private def quiet (manager : Manager) : Occurrence → Bool
  | .resume _ =>
    manager.poll.isNone && manager.subscriptions.values.all fun subscription =>
      !subscription.cancelled
  | .pollResume => manager.subscriptions.values.all fun subscription => !subscription.loads
  | _ => true

variable {manager : Manager}

private theorem inTurn_quiet (isQuiet : quiet manager occurrence = true) :
    manager.InTurn occurrence := by
  cases occurrence with
  | resume id =>
    simp only [quiet, Bool.and_eq_true, List.all_eq_true, Bool.not_eq_true'] at isQuiet
    intro subscription load snapshots found _ _
    constructor
    · intro wasCancelled
      rw [isQuiet.2 subscription (mem_values.mpr ⟨id, found⟩)] at wasCancelled
      contradiction
    · intro poll _ _ _ isPoll
      rw [isPoll] at isQuiet
      cases isQuiet.1
  | pollResume =>
    simp only [quiet, List.all_eq_true, Bool.not_eq_true'] at isQuiet
    intro _ _ id subscription _ _ _ found loads
    rw [isQuiet subscription (mem_values.mpr ⟨id, found⟩)] at loads
    contradiction
  | _ => trivial

private theorem inTurn_of_quiet {occurrences : List Occurrence}
    (isQuiet : Histories.EveryStep (Manager.next options)
      (fun manager occurrence => quiet manager occurrence = true) manager occurrences) :
    Histories.EveryStep (Manager.next options) Manager.InTurn manager occurrences := by
  induction occurrences generalizing manager with
  | nil => trivial
  | cons first later ih => exact ⟨inTurn_quiet isQuiet.1, ih isQuiet.2⟩

private theorem tasks_update (manager : Manager) (id : Nat) (change : Subscription → Subscription) :
    (manager.update id change).tasks = manager.tasks := by
  unfold Manager.update
  split <;> rfl

private theorem tasks_pollGroups (manager : Manager) (groups : List (List Nat)) :
    (manager.pollGroups options groups).tasks = manager.tasks := by
  cases groups <;> rfl

private theorem tasks_next (manager : Manager) (occurrence : Occurrence) :
    (manager.next options occurrence).tasks =
      match occurrence with
      | .change tasks => tasks
      | _ => manager.tasks := by
  cases occurrence with
  | listen request =>
    unfold Manager.next
    dsimp only
    split
    · rfl
    · rename_i next registered
      unfold Manager.listen at registered
      dsimp only at registered
      repeat' split at registered
      all_goals first | contradiction | rw [← Except.ok.inj registered]; rfl
  | read id visible => exact tasks_update manager id _
  | resume id =>
    unfold Manager.next Manager.startPolling
    dsimp only
    split
    · exact tasks_update manager id _
    · exact tasks_update manager id _
  | fail id => exact tasks_update manager id _
  | tick =>
    unfold Manager.next Manager.tick
    dsimp only
    split
    · exact tasks_pollGroups manager manager.groups
    · rfl
  | pollResume =>
    unfold Manager.next Manager.pollResume
    dsimp only
    split
    · rfl
    · split
      · rfl
      · split
        · exact tasks_pollGroups _ _
        · rfl
  | pollFail failure =>
    unfold Manager.next
    dsimp only
    split <;> rfl
  | cancel requestId transportScopeId authorization =>
    unfold Manager.next Manager.cancel
    dsimp only
    split <;> rfl
  | disconnect id => exact tasks_update manager id _
  | drained id => exact tasks_update manager id _
  | _ => rfl

private theorem workingAt_older (taskId : String) :
    (workingAt 1 taskId).Older (workingAt 2 taskId) :=
  Or.inl (by unfold workingAt; decide)

theorem listenedAndCancelled_proper :
    (after (Manager.next roomyOptions) (.new (workingAt 1)) listenedAndCancelled).Proper :=
  subscriptions_proper roomyOptions (workingAt 1) listenedAndCancelled
    (by
      simp only [listenedAndCancelled, listenTo, Histories.EveryStep, Manager.Progresses,
        tasks_next, Manager.new, true_and, and_true]
      exact workingAt_older)
    (inTurn_of_quiet (by decide +kernel))

/-- A second subscription is polled for and cancelled while it loads. -/
def polledAndCancelledEarly : List Occurrence :=
  [listenTo 1, .read 0 everything, .resume 0, listenTo 2, .tick, .pollRead everything, .pollResume,
    .cancel (.number 2) "direct" none, .read 1 everything, .resume 1]

/-- A second subscription begins ahead of what a poll holds for it. -/
def begunAhead : List Occurrence :=
  [listenTo 1, .read 0 everything, .resume 0, listenTo 2, .tick, .pollRead everything,
    .change (workingAt 2), .read 1 everything, .resume 1, .pollResume]

/-- In turn with the engine, yet a notification comes before the acknowledgement, the accepted
cancel is lost, and a poll fails over a lower revision. -/
theorem subscriptions_outOfTurn :
    ¬(after (Manager.next roomyOptions) (.new (workingAt 1))
        polledAndCancelledEarly).Proper ∧
      Histories.EveryStep (Manager.next roomyOptions) Manager.Progresses (.new (workingAt 1))
        polledAndCancelledEarly ∧
      ¬(after (Manager.next roomyOptions) (.new (workingAt 1)) begunAhead).Proper ∧
        Histories.EveryStep (Manager.next roomyOptions) Manager.Progresses (.new (workingAt 1))
          begunAhead := by
  constructor
  · intro proper
    have lost : (after (Manager.next roomyOptions) (.new (workingAt 1))
        polledAndCancelledEarly).subscriptions.values.any (fun subscription =>
          subscription.cancelled && !subscription.loads && !subscription.ended) = true := by
      decide +kernel
    obtain ⟨subscription, member, isLost⟩ := List.any_eq_true.mp lost
    obtain ⟨id, found⟩ := mem_values.mp member
    simp only [Bool.and_eq_true, Bool.not_eq_true'] at isLost
    have ended := proper.cancelled id subscription found isLost.1.1 isLost.1.2
    rw [isLost.2] at ended
    cases ended
  constructor
  · simp only [polledAndCancelledEarly, listenTo, Histories.EveryStep, Manager.Progresses,
      true_and]
  constructor
  · intro proper
    have failures : (after (Manager.next roomyOptions) (.new (workingAt 1))
        begunAhead).failures = [.revisionRegression] := by decide +kernel
    have steady := (proper.steady .revisionRegression (by rw [failures]; decide)).1
    exact steady rfl
  · simp only [begunAhead, listenTo, Histories.EveryStep, Manager.Progresses, tasks_next,
      Manager.new, true_and, and_true]
    exact workingAt_older

/-- The second subscription is told of its task before it is acknowledged, and once more after. -/
example : ((after (Manager.next roomyOptions) (.new (workingAt 1))
    polledAndCancelledEarly).subscriptions.values.map fun subscription =>
      subscription.writer.written.map (revision? "task")) =
        [[none, some 1], [some 1, none, some 1]] := by
  decide +kernel

end Runs

end Notifications

end SdarRuntime
