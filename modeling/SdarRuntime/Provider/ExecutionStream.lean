import SdarRuntime.Library.DecimalText
import SdarRuntime.Library.Histories

/-!
The stream of a task's execution snapshots after a revision. Its listener is registered before the
execution is read, and what is emitted before the first snapshot is written waits in a queue.
-/

namespace SdarRuntime
namespace ExecutionStream

structure ProviderExecution where
  taskId : String
  revision : Nat
  reasonCode : String
  updatedAt : String
  deriving DecidableEq, Repr

structure ExecutionSnapshot (Details : Type) where
  taskId : String
  revision : String
  reasonCode : String
  observedAt : String
  details : Details
  deriving DecidableEq, Repr

structure ExecutionEvent (Details : Type) where
  taskId : String
  revision : String
  type : String
  occurredAt : String
  reasonCode : String
  snapshot : ExecutionSnapshot Details
  deriving DecidableEq, Repr

/-- What the adapter adds to the execution's own fields, or the error it stops with: the state, the
progress, the result and the required input. -/
abbrev Rest (Details : Type) := Except String Details

inductive Phase where
  | reading
  | building (execution : ProviderExecution)
  | streaming
  deriving DecidableEq, Repr

/-- One call: its listener's variables, what it has written, and the revisions that were emitted or
read while it listened. -/
structure Stream (Details : Type) where
  afterRevision : Nat
  deliveredRevision : Nat
  phase : Phase
  closed : Bool
  queued : List (ExecutionSnapshot Details)
  written : List (ExecutionEvent Details)
  error : Option String
  heard : List Nat
  deriving DecidableEq, Repr

variable {Details : Type}

def executionSnapshot (rest : Rest Details) (execution : ProviderExecution) :
    Except String (ExecutionSnapshot Details) := do
  let details ← rest
  return {
    taskId := execution.taskId
    revision := toString execution.revision
    reasonCode := execution.reasonCode
    observedAt := execution.updatedAt
    details }

def number (revision : String) : Nat := DecimalText.value revision.toList

def executionEvent (snapshot : ExecutionSnapshot Details) (revision : Nat) :
    ExecutionEvent Details :=
  { taskId := snapshot.taskId
    revision := toString revision
    type := "snapshot"
    occurredAt := snapshot.observedAt
    reasonCode := snapshot.reasonCode
    snapshot }

def Stream.write (stream : Stream Details) (snapshot : ExecutionSnapshot Details)
    (revision : Nat) : Stream Details :=
  { stream with
    written := stream.written ++ [executionEvent snapshot revision]
    deliveredRevision := revision }

def Stream.fail (stream : Stream Details) (error : String) : Stream Details :=
  { stream with
    error := some error
    closed := true }

def deliver (stream : Stream Details) (snapshot : ExecutionSnapshot Details) : Stream Details :=
  if number snapshot.revision ≤ stream.deliveredRevision then stream
  else stream.write snapshot (number snapshot.revision)

def listener (stream : Stream Details) (snapshot : ExecutionSnapshot Details) : Stream Details :=
  if stream.closed then stream
  else if stream.phase = .streaming then deliver stream snapshot
  else { stream with queued := stream.queued ++ [snapshot] }

def byRevision (queued : List (ExecutionSnapshot Details)) : List (ExecutionSnapshot Details) :=
  queued.mergeSort fun left right => number left.revision ≤ number right.revision

def initialized (stream : Stream Details) : Stream Details :=
  { stream with
    queued := byRevision stream.queued
    phase := .streaming }

def replay (stream : Stream Details) : Stream Details :=
  (byRevision stream.queued).foldl listener (initialized stream)

inductive Entry (Details : Type) where
  /-- The adapter emits an execution's snapshot, unless it cannot be built. -/
  | emitted (execution : ProviderExecution) (rest : Rest Details)
  | read (answer : Except String (Option ProviderExecution))
  | built (rest : Rest Details)
  | close

def hear (stream : Stream Details) (revision : Nat) : Stream Details :=
  { stream with heard := stream.heard ++ [revision] }

/-- A closed stream's listener is off, and nothing is written after an await. -/
def next (stream : Stream Details) (entry : Entry Details) : Stream Details :=
  if stream.closed then stream
  else
    match entry, stream.phase with
    | .emitted execution rest, _ =>
      match executionSnapshot rest execution with
      | .error _ => stream
      | .ok snapshot => listener (hear stream execution.revision) snapshot
    | .read (.error error), .reading => stream.fail error
    | .read (.ok none), .reading => stream.fail "NOT_FOUND"
    | .read (.ok (some execution)), .reading =>
      if execution.revision > stream.afterRevision then
        { hear stream execution.revision with phase := .building execution }
      else replay (hear stream execution.revision)
    | .built rest, .building execution =>
      match executionSnapshot rest execution with
      | .error error => stream.fail error
      | .ok snapshot => replay (stream.write snapshot execution.revision)
    | .close, _ => { stream with closed := true }
    | _, _ => stream

def opened (afterRevision : Nat) : Stream Details :=
  { afterRevision
    deliveredRevision := afterRevision
    phase := .reading
    closed := false
    queued := []
    written := []
    error := none
    heard := [] }

def after (afterRevision : Nat) (entries : List (Entry Details)) : Stream Details :=
  Histories.after next (opened afterRevision) entries

def Stream.revisions (stream : Stream Details) : List Nat :=
  stream.written.map fun event => number event.revision

/-- The execution is read and replayed, and the call is still there. -/
def Stream.Idle (stream : Stream Details) : Prop :=
  stream.phase = .streaming ∧ stream.closed = false

theorem number_toString (revision : Nat) : number (toString revision) = revision :=
  DecimalText.value_toString revision

variable {execution : ProviderExecution} {snapshot : ExecutionSnapshot Details}

theorem executionSnapshot_revision {rest : Rest Details}
    (built : executionSnapshot rest execution = .ok snapshot) :
    snapshot.revision = toString execution.revision := by
  cases rest with
  | error error => cases built
  | ok details =>
    cases built
    rfl

structure Ordered (stream : Stream Details) : Prop where
  increasing : stream.revisions.Pairwise (· < ·)
  above : ∀ revision ∈ stream.revisions, stream.afterRevision < revision
  carried : ∀ event ∈ stream.written, event.revision = event.snapshot.revision
  written_heard : ∀ revision ∈ stream.revisions, revision ∈ stream.heard
  delivered : stream.deliveredRevision = stream.revisions.getLast?.getD stream.afterRevision
  queued_heard : ∀ snapshot ∈ stream.queued,
    ∃ revision ∈ stream.heard, snapshot.revision = toString revision

/-- A revision is not lost: it is written or passed over, or it waits in the queue, or it is the
one the first snapshot is built of. -/
def Kept (stream : Stream Details) (revision : Nat) : Prop :=
  match stream.phase with
  | .streaming => revision ≤ stream.deliveredRevision
  | .reading => ∃ snapshot ∈ stream.queued, snapshot.revision = toString revision
  | .building execution =>
    execution.revision = revision ∨
      ∃ snapshot ∈ stream.queued, snapshot.revision = toString revision

/-- Nothing is written before the execution is read; what is built is above the revision asked
for and was read. -/
def Waiting (stream : Stream Details) : Prop :=
  match stream.phase with
  | .streaming => True
  | .reading => stream.written = []
  | .building execution =>
    stream.written = [] ∧ stream.afterRevision < execution.revision ∧
      execution.revision ∈ stream.heard

structure Faithful (afterRevision : Nat) (stream : Stream Details) : Prop where
  since : stream.afterRevision = afterRevision
  ordered : Ordered stream
  waiting : stream.closed = false → Waiting stream
  kept : stream.closed = false → ∀ revision ∈ stream.heard, Kept stream revision

variable {stream : Stream Details} {afterRevision : Nat}

variable {revision : Nat}

theorem Ordered.le_delivered (ordered : Ordered stream) (isWritten : revision ∈ stream.revisions) :
    revision ≤ stream.deliveredRevision := by
  rw [ordered.delivered]
  obtain ⟨earlier, last, split⟩ :=
    List.eq_nil_or_concat stream.revisions |>.resolve_left (List.ne_nil_of_mem isWritten)
  have increasing := ordered.increasing
  rw [List.concat_eq_append] at split
  rw [split] at isWritten increasing ⊢
  rw [List.getLast?_concat, Option.getD_some]
  rcases List.mem_append.mp isWritten with isEarlier | isLast
  · exact (List.pairwise_append.mp increasing).2.2 revision isEarlier last
      List.mem_cons_self |>.le
  · exact (List.mem_singleton.mp isLast).le

theorem Ordered.after_le_delivered (ordered : Ordered stream) :
    stream.afterRevision ≤ stream.deliveredRevision := by
  rw [ordered.delivered]
  cases last : stream.revisions.getLast? with
  | none => exact Nat.le_refl _
  | some revision => exact (ordered.above revision (List.mem_of_getLast? last)).le

@[simp] theorem revisions_write (snapshot : ExecutionSnapshot Details) (revision : Nat) :
    (stream.write snapshot revision).revisions = stream.revisions ++ [revision] := by
  rw [Stream.revisions, Stream.write, List.map_append]
  exact congrArg (stream.revisions ++ [·]) (number_toString revision)

theorem Ordered.write (ordered : Ordered stream) (higher : stream.deliveredRevision < revision)
    (labelled : snapshot.revision = toString revision) (isHeard : revision ∈ stream.heard) :
    Ordered (stream.write snapshot revision) where
  increasing := by
    rw [revisions_write, List.pairwise_append]
    refine ⟨ordered.increasing, List.pairwise_singleton _ _, fun earlier isWritten last isLast => ?_⟩
    rw [List.mem_singleton.mp isLast]
    exact Nat.lt_of_le_of_lt (ordered.le_delivered isWritten) higher
  above := by
    intro other isWritten
    rw [revisions_write, List.mem_append, List.mem_singleton] at isWritten
    rcases isWritten with isEarlier | rfl
    · exact ordered.above other isEarlier
    · exact Nat.lt_of_le_of_lt ordered.after_le_delivered higher
  carried := by
    intro event isWritten
    rcases List.mem_append.mp isWritten with isEarlier | isLast
    · exact ordered.carried event isEarlier
    · rw [List.mem_singleton.mp isLast]
      exact labelled.symm
  written_heard := by
    intro other isWritten
    rw [revisions_write, List.mem_append, List.mem_singleton] at isWritten
    rcases isWritten with isEarlier | rfl
    · exact ordered.written_heard other isEarlier
    · exact isHeard
  delivered := by
    rw [revisions_write, List.getLast?_concat, Option.getD_some]
    rfl
  queued_heard := ordered.queued_heard

/-- A revision is heard of when it is emitted or read; only the queue may grow with it. -/
theorem Ordered.hear (ordered : Ordered stream) (revision : Nat) :
    Ordered (hear stream revision) where
  increasing := ordered.increasing
  above := ordered.above
  carried := ordered.carried
  written_heard := fun other isWritten =>
    List.mem_append_left _ (ordered.written_heard other isWritten)
  delivered := ordered.delivered
  queued_heard := by
    intro snapshot isQueued
    obtain ⟨other, isHeard, labelled⟩ := ordered.queued_heard snapshot isQueued
    exact ⟨other, List.mem_append_left _ isHeard, labelled⟩

structure Replayed (stream : Stream Details) (snapshots : List (ExecutionSnapshot Details))
    (result : Stream Details) : Prop where
  ordered : Ordered result
  phase : result.phase = .streaming
  closed : result.closed = false
  heard : result.heard = stream.heard
  since : result.afterRevision = stream.afterRevision
  further : stream.deliveredRevision ≤ result.deliveredRevision
  passed : ∀ snapshot ∈ snapshots, number snapshot.revision ≤ result.deliveredRevision

theorem listener_idle (idle : stream.Idle) (snapshot : ExecutionSnapshot Details) :
    listener stream snapshot = deliver stream snapshot := by
  rw [listener, if_neg (Bool.eq_false_iff.mp idle.2), if_pos idle.1]

theorem deliver_replayed (idle : stream.Idle) (ordered : Ordered stream)
    (isHeard : revision ∈ stream.heard) (labelled : snapshot.revision = toString revision) :
    Replayed stream [snapshot] (deliver stream snapshot) := by
  have sameNumber : number snapshot.revision = revision := by
    rw [labelled, number_toString]
  unfold deliver
  rw [sameNumber]
  by_cases passed : revision ≤ stream.deliveredRevision
  · rw [if_pos passed]
    exact {
      ordered
      phase := idle.1
      closed := idle.2
      heard := rfl
      since := rfl
      further := Nat.le_refl _
      passed := by
        intro other isSnapshot
        rw [List.mem_singleton.mp isSnapshot, sameNumber]
        exact passed }
  · rw [if_neg passed]
    have higher : stream.deliveredRevision < revision := Nat.lt_of_not_le passed
    exact {
      ordered := ordered.write higher labelled isHeard
      phase := idle.1
      closed := idle.2
      heard := rfl
      since := rfl
      further := higher.le
      passed := by
        intro other isSnapshot
        rw [List.mem_singleton.mp isSnapshot, sameNumber]
        exact Nat.le_refl _ }

theorem listener_replayed (idle : stream.Idle) (ordered : Ordered stream)
    (snapshots : List (ExecutionSnapshot Details))
    (labelled : ∀ snapshot ∈ snapshots,
      ∃ revision ∈ stream.heard, snapshot.revision = toString revision) :
    Replayed stream snapshots (snapshots.foldl listener stream) := by
  induction snapshots generalizing stream with
  | nil =>
    exact {
      ordered
      phase := idle.1
      closed := idle.2
      heard := rfl
      since := rfl
      further := Nat.le_refl _
      passed := fun snapshot isSnapshot => absurd isSnapshot List.not_mem_nil }
  | cons snapshot rest ih =>
    obtain ⟨revision, isHeard, isLabel⟩ := labelled snapshot List.mem_cons_self
    have first := deliver_replayed idle ordered isHeard isLabel
    rw [← listener_idle idle] at first
    have idleAfter : (listener stream snapshot).Idle := ⟨first.phase, first.closed⟩
    have later := ih idleAfter first.ordered (by
      intro other isOther
      rw [first.heard]
      exact labelled other (List.mem_cons_of_mem _ isOther))
    exact {
      ordered := later.ordered
      phase := later.phase
      closed := later.closed
      heard := later.heard.trans first.heard
      since := later.since.trans first.since
      further := first.further.trans later.further
      passed := by
        intro other isOther
        rcases List.mem_cons.mp isOther with rfl | isLater
        · exact (first.passed other List.mem_cons_self).trans later.further
        · exact later.passed other isLater }

theorem replay_replayed (isOpen : stream.closed = false) (ordered : Ordered stream) :
    Replayed stream stream.queued (replay stream) := by
  have sameMembers : ∀ snapshot, snapshot ∈ byRevision stream.queued ↔ snapshot ∈ stream.queued :=
    fun snapshot => List.mem_mergeSort
  have sorted : Ordered (initialized stream) := {
    increasing := ordered.increasing
    above := ordered.above
    carried := ordered.carried
    written_heard := ordered.written_heard
    delivered := ordered.delivered
    queued_heard := fun snapshot isQueued =>
      ordered.queued_heard snapshot ((sameMembers snapshot).mp isQueued) }
  have idle : (initialized stream).Idle := ⟨rfl, isOpen⟩
  have replayed := listener_replayed idle sorted (byRevision stream.queued) sorted.queued_heard
  exact {
    ordered := replayed.ordered
    phase := replayed.phase
    closed := replayed.closed
    heard := replayed.heard
    since := replayed.since
    further := replayed.further
    passed := fun snapshot isQueued =>
      replayed.passed snapshot ((sameMembers snapshot).mpr isQueued) }

variable {result : Stream Details}

theorem Replayed.faithful {snapshots : List (ExecutionSnapshot Details)}
    (replayed : Replayed stream snapshots result) (since : stream.afterRevision = afterRevision)
    (covered : ∀ revision ∈ stream.heard, revision ≤ stream.deliveredRevision ∨
      ∃ snapshot ∈ snapshots, snapshot.revision = toString revision) :
    Faithful afterRevision result where
  since := replayed.since.trans since
  ordered := replayed.ordered
  waiting := by
    intro _
    rw [Waiting, replayed.phase]
    trivial
  kept := by
    intro _ revision isHeard
    rw [Kept, replayed.phase]
    rw [replayed.heard] at isHeard
    rcases covered revision isHeard with delivered | ⟨snapshot, isSnapshot, labelled⟩
    · exact delivered.trans replayed.further
    · have passed := replayed.passed snapshot isSnapshot
      rw [labelled, number_toString] at passed
      exact passed

theorem mem_hear {stream : Stream Details} {revision other : Nat} :
    other ∈ (hear stream revision).heard ↔ other ∈ stream.heard ∨ other = revision := by
  rw [hear, List.mem_append, List.mem_singleton]

theorem Ordered.closed (ordered : Ordered result) (since : result.afterRevision = afterRevision)
    (isClosed : result.closed = true) :
    Faithful afterRevision result where
  since := since
  ordered := ordered
  waiting := fun isOpen => absurd (isClosed.symm.trans isOpen) (by decide)
  kept := fun isOpen => absurd (isClosed.symm.trans isOpen) (by decide)

theorem Ordered.fail (ordered : Ordered stream) (error : String) :
    Ordered (stream.fail error) where
  increasing := ordered.increasing
  above := ordered.above
  carried := ordered.carried
  written_heard := ordered.written_heard
  delivered := ordered.delivered
  queued_heard := ordered.queued_heard

theorem Ordered.enqueue (ordered : Ordered stream) (isHeard : revision ∈ stream.heard)
    (labelled : snapshot.revision = toString revision) :
    Ordered { stream with queued := stream.queued ++ [snapshot] } where
  increasing := ordered.increasing
  above := ordered.above
  carried := ordered.carried
  written_heard := ordered.written_heard
  delivered := ordered.delivered
  queued_heard := by
    intro other isQueued
    rcases List.mem_append.mp isQueued with isEarlier | isLast
    · exact ordered.queued_heard other isEarlier
    · rw [List.mem_singleton.mp isLast]
      exact ⟨revision, isHeard, labelled⟩

theorem listener_faithful (faithful : Faithful afterRevision stream)
    (isOpen : stream.closed = false) (labelled : snapshot.revision = toString revision) :
    Faithful afterRevision (listener (hear stream revision) snapshot) := by
  have ordered := faithful.ordered.hear revision
  have isHeard : revision ∈ (hear stream revision).heard := mem_hear.mpr (Or.inr rfl)
  have waiting := faithful.waiting isOpen
  have kept := faithful.kept isOpen
  by_cases streaming : stream.phase = .streaming
  · have idle : (hear stream revision).Idle := ⟨streaming, isOpen⟩
    rw [listener_idle idle]
    apply (deliver_replayed idle ordered isHeard labelled).faithful faithful.since
    intro other otherHeard
    rcases mem_hear.mp otherHeard with earlier | rfl
    · have passed := kept other earlier
      rw [Kept, streaming] at passed
      exact Or.inl passed
    · exact Or.inr ⟨snapshot, List.mem_cons_self, labelled⟩
  · have waits : listener (hear stream revision) snapshot =
        { hear stream revision with queued := stream.queued ++ [snapshot] } := by
      have stillOpen : ¬ (hear stream revision).closed = true := Bool.eq_false_iff.mp isOpen
      have notStreaming : ¬ (hear stream revision).phase = .streaming := streaming
      rw [listener, if_neg stillOpen, if_neg notStreaming]
      rfl
    rw [waits]
    have inQueue : ∀ other : Nat, (∃ queued ∈ stream.queued, queued.revision = toString other) →
        ∃ queued ∈ stream.queued ++ [snapshot], queued.revision = toString other := by
      rintro other ⟨queued, isQueued, isLabel⟩
      exact ⟨queued, List.mem_append_left _ isQueued, isLabel⟩
    have newest : ∃ queued ∈ stream.queued ++ [snapshot],
        queued.revision = toString revision :=
      ⟨snapshot, List.mem_append_right _ List.mem_cons_self, labelled⟩
    constructor
    · exact faithful.since
    · exact ordered.enqueue isHeard labelled
    · intro _
      cases phase : stream.phase with
      | streaming => exact absurd phase streaming
      | reading =>
        simp only [Waiting, phase] at waiting
        simp only [Waiting, hear, phase]
        exact waiting
      | building execution =>
        simp only [Waiting, phase] at waiting
        simp only [Waiting, hear, phase]
        exact ⟨waiting.1, waiting.2.1, List.mem_append_left _ waiting.2.2⟩
    · intro _ other otherHeard
      cases phase : stream.phase with
      | streaming => exact absurd phase streaming
      | reading =>
        simp only [Kept, phase] at kept
        simp only [Kept, hear, phase]
        rcases mem_hear.mp otherHeard with earlier | rfl
        · exact inQueue other (kept other earlier)
        · exact newest
      | building execution =>
        simp only [Kept, phase] at kept
        simp only [Kept, hear, phase]
        rcases mem_hear.mp otherHeard with earlier | rfl
        · exact (kept other earlier).imp_right (inQueue other)
        · exact Or.inr newest

/-- The execution's first snapshot is built only when it is past the revision asked for. -/
theorem read_faithful (faithful : Faithful afterRevision stream) (isOpen : stream.closed = false)
    (reading : stream.phase = .reading) (answer : Except String (Option ProviderExecution)) :
    Faithful afterRevision (next stream (.read answer)) := by
  have waiting := faithful.waiting isOpen
  have kept := faithful.kept isOpen
  simp only [Waiting, reading] at waiting
  simp only [Kept, reading] at kept
  simp only [next, isOpen, reading, Bool.false_eq_true, if_false]
  match answer with
  | .error error => exact (faithful.ordered.fail error).closed faithful.since rfl
  | .ok none => exact (faithful.ordered.fail _).closed faithful.since rfl
  | .ok (some execution) =>
    have ordered := faithful.ordered.hear execution.revision
    by_cases newer : execution.revision > stream.afterRevision
    · simp only [if_pos newer]
      constructor
      · exact faithful.since
      · exact {
          increasing := ordered.increasing
          above := ordered.above
          carried := ordered.carried
          written_heard := ordered.written_heard
          delivered := ordered.delivered
          queued_heard := ordered.queued_heard }
      · intro _
        exact ⟨waiting, newer, mem_hear.mpr (Or.inr rfl)⟩
      · intro _ other otherHeard
        rcases mem_hear.mp otherHeard with earlier | rfl
        · exact Or.inr (kept other earlier)
        · exact Or.inl rfl
    · simp only [if_neg newer]
      have stillOpen : (hear stream execution.revision).closed = false := isOpen
      apply (replay_replayed stillOpen ordered).faithful faithful.since
      intro other otherHeard
      rcases mem_hear.mp otherHeard with earlier | rfl
      · exact Or.inr (kept other earlier)
      · exact Or.inl ((Nat.le_of_not_lt newer).trans ordered.after_le_delivered)

theorem built_faithful (faithful : Faithful afterRevision stream) (isOpen : stream.closed = false)
    (building : stream.phase = .building execution) (rest : Rest Details) :
    Faithful afterRevision (next stream (.built rest)) := by
  have waiting := faithful.waiting isOpen
  have kept := faithful.kept isOpen
  simp only [Waiting, building] at waiting
  simp only [Kept, building] at kept
  obtain ⟨unwritten, newer, isHeard⟩ := waiting
  simp only [next, isOpen, building, Bool.false_eq_true, if_false]
  cases answer : executionSnapshot rest execution with
  | error error => exact (faithful.ordered.fail error).closed faithful.since rfl
  | ok snapshot =>
    have labelled := executionSnapshot_revision answer
    have untouched : stream.deliveredRevision = stream.afterRevision := by
      rw [faithful.ordered.delivered, Stream.revisions, unwritten]
      rfl
    have ordered := faithful.ordered.write (untouched ▸ newer) labelled isHeard
    have stillOpen : (stream.write snapshot execution.revision).closed = false := isOpen
    apply (replay_replayed stillOpen ordered).faithful faithful.since
    intro other otherHeard
    rcases kept other otherHeard with rfl | isQueued
    · exact Or.inl (Nat.le_refl _)
    · exact Or.inr isQueued

theorem next_faithful (faithful : Faithful afterRevision stream) (entry : Entry Details) :
    Faithful afterRevision (next stream entry) := by
  by_cases isClosed : stream.closed = true
  · simp only [next, isClosed, if_true]
    exact faithful
  · have isOpen : stream.closed = false := Bool.eq_false_iff.mpr isClosed
    cases entry with
    | emitted execution rest =>
      simp only [next, isOpen, Bool.false_eq_true, if_false]
      cases built : executionSnapshot rest execution with
      | error error => exact faithful
      | ok snapshot =>
        exact listener_faithful faithful isOpen (executionSnapshot_revision built)
    | read answer =>
      cases phase : stream.phase with
      | reading => exact read_faithful faithful isOpen phase answer
      | building execution =>
        simp only [next, isOpen, phase, Bool.false_eq_true, if_false]
        exact faithful
      | streaming =>
        simp only [next, isOpen, phase, Bool.false_eq_true, if_false]
        exact faithful
    | built rest =>
      cases phase : stream.phase with
      | building execution => exact built_faithful faithful isOpen phase rest
      | reading =>
        simp only [next, isOpen, phase, Bool.false_eq_true, if_false]
        exact faithful
      | streaming =>
        simp only [next, isOpen, phase, Bool.false_eq_true, if_false]
        exact faithful
    | close =>
      simp only [next, isOpen, Bool.false_eq_true, if_false]
      have ordered : Ordered { stream with closed := true } := {
        increasing := faithful.ordered.increasing
        above := faithful.ordered.above
        carried := faithful.ordered.carried
        written_heard := faithful.ordered.written_heard
        delivered := faithful.ordered.delivered
        queued_heard := faithful.ordered.queued_heard }
      exact ordered.closed faithful.since rfl

theorem opened_faithful (afterRevision : Nat) :
    Faithful afterRevision (opened afterRevision : Stream Details) where
  since := rfl
  ordered := {
    increasing := List.Pairwise.nil
    above := by simp [opened, Stream.revisions]
    carried := by simp [opened]
    written_heard := by simp [opened, Stream.revisions]
    delivered := rfl
    queued_heard := by simp [opened] }
  waiting := fun _ => rfl
  kept := by simp [opened]

theorem after_faithful (afterRevision : Nat) (entries : List (Entry Details)) :
    Faithful afterRevision (after afterRevision entries) := by
  apply Histories.always _ (opened_faithful afterRevision)
  intro stream entry faithful
  exact next_faithful faithful entry

/-- An idle stream has delivered the greatest revision heard of above the one asked for. -/
theorem Faithful.latest (faithful : Faithful afterRevision stream) (idle : stream.Idle) :
    stream.revisions.getLast? = (stream.heard.filter (afterRevision < ·)).max? := by
  have kept : ∀ revision ∈ stream.heard, revision ≤ stream.deliveredRevision := by
    intro revision isHeard
    have passed := faithful.kept idle.2 revision isHeard
    rw [Kept, idle.1] at passed
    exact passed
  have delivered := faithful.ordered.delivered
  rw [faithful.since] at delivered
  cases last : stream.revisions.getLast? with
  | none =>
    rw [last, Option.getD_none] at delivered
    symm
    rw [List.max?_eq_none_iff, List.filter_eq_nil_iff]
    intro revision isHeard
    have passed := kept revision isHeard
    rw [decide_eq_true_iff]
    omega
  | some greatest =>
    rw [last, Option.getD_some] at delivered
    have isWritten := List.mem_of_getLast? last
    have higher := faithful.ordered.above greatest isWritten
    rw [faithful.since] at higher
    symm
    rw [List.max?_eq_some_iff]
    constructor
    · rw [List.mem_filter, decide_eq_true_iff]
      exact ⟨faithful.ordered.written_heard greatest isWritten, higher⟩
    · intro revision member
      have passed := kept revision (List.mem_filter.mp member).1
      omega

/-- However emissions fall among the registration, the read and the first snapshot, the written
revisions increase above the one asked for, each event carries its snapshot's revision, and an idle
stream ends in the greatest revision emitted or read since it listened. -/
theorem execution_events_in_order (afterRevision : Nat) (entries : List (Entry Details)) :
    (after afterRevision entries).revisions.Pairwise (· < ·) ∧
    (∀ revision ∈ (after afterRevision entries).revisions, afterRevision < revision) ∧
    (∀ event ∈ (after afterRevision entries).written,
      event.revision = event.snapshot.revision) ∧
    ((after afterRevision entries).Idle →
      (after afterRevision entries).revisions.getLast? =
        ((after afterRevision entries).heard.filter (afterRevision < ·)).max?) := by
  have faithful : Faithful afterRevision (after afterRevision entries) :=
    after_faithful afterRevision entries
  have above := faithful.ordered.above
  rw [faithful.since] at above
  exact ⟨faithful.ordered.increasing, above, faithful.ordered.carried, faithful.latest⟩

def sampleExecution (revision : Nat) : ProviderExecution :=
  { taskId := "task-1"
    revision
    reasonCode := "MOVING"
    updatedAt := "2026-07-20T08:00:00.000Z" }

/-- The seventh revision is emitted while the snapshot of the fifth is built. -/
def sampleEntries : List (Entry Unit) :=
  [.read (.ok (some (sampleExecution 5))),
    .emitted (sampleExecution 7) (.ok ()),
    .built (.ok ())]

theorem sampleEntries_idle : (after 3 sampleEntries).Idle := by
  have seven : number (Nat.repr 7) = 7 := number_toString 7
  simp [seven, after, Histories.after, sampleEntries, next, opened, hear, listener, replay,
    byRevision, initialized, executionSnapshot, sampleExecution, Stream.write, Stream.Idle,
    deliver, pure, Except.pure, bind, Except.bind]

theorem execution_events_in_order_sample :
    (after 3 sampleEntries).revisions.getLast? =
      ((after 3 sampleEntries).heard.filter (3 < ·)).max? :=
  (execution_events_in_order 3 sampleEntries).2.2.2 sampleEntries_idle

end ExecutionStream
end SdarRuntime
