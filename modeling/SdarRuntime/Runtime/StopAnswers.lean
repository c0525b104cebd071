import SdarRuntime.Runtime.Sample

/-!
The answer to a snapshot of a task that is to stop. It is a transition, and what that stores of
the adapter's result has passed the limits, exactly when none of the branches of the stop comes to
a result it does not take.
-/

namespace SdarRuntime

open Sample

mutual
theorem sizeOf_sanitizeResult (value : Json) : sizeOf (sanitizeResult value) ≤ sizeOf value := by
  cases value with
  | arr items =>
    have inside := sizeOf_sanitizeItems items
    unfold sanitizeResult
    simp only [Json.arr.sizeOf_spec]
    omega
  | obj fields =>
    have inside := sizeOf_sanitizeFields fields
    unfold sanitizeResult
    simp only [Json.obj.sizeOf_spec]
    omega
  | null => exact le_refl _
  | bool value => exact le_refl _
  | num text => exact le_refl _
  | str text => exact le_refl _

theorem sizeOf_sanitizeItems (items : List Json) : sizeOf (sanitizeItems items) ≤ sizeOf items := by
  cases items with
  | nil => exact le_refl _
  | cons item rest =>
    have first := sizeOf_sanitizeResult item
    have others := sizeOf_sanitizeItems rest
    unfold sanitizeItems
    simp only [List.cons.sizeOf_spec]
    omega

theorem sizeOf_sanitizeFields (fields : List (String × Json)) :
    sizeOf (sanitizeFields fields) ≤ sizeOf fields := by
  cases fields with
  | nil => exact le_refl _
  | cons field rest =>
    obtain ⟨key, value⟩ := field
    have first := sizeOf_sanitizeResult value
    have others := sizeOf_sanitizeFields rest
    unfold sanitizeFields
    split
    · simp only [List.cons.sizeOf_spec]
      omega
    · simp only [List.cons.sizeOf_spec, Prod.mk.sizeOf_spec]
      omega
end

mutual
theorem sizeOf_le_protoValue (value : Json) : sizeOf value ≤ sizeOf (protoValue value) := by
  cases value with
  | arr items =>
    have inside := sizeOf_le_protoItems items
    unfold protoValue
    simp only [Json.arr.sizeOf_spec, Json.obj.sizeOf_spec, List.cons.sizeOf_spec,
      Prod.mk.sizeOf_spec]
    omega
  | obj fields =>
    have inside := sizeOf_le_protoFields fields
    unfold protoValue
    simp only [Json.obj.sizeOf_spec, List.cons.sizeOf_spec, Prod.mk.sizeOf_spec]
    omega
  | null | bool value | num text | str text =>
    unfold protoValue
    simp only [Json.obj.sizeOf_spec, List.cons.sizeOf_spec, Prod.mk.sizeOf_spec,
      Json.null.sizeOf_spec]
    omega

theorem sizeOf_le_protoItems (items : List Json) : sizeOf items ≤ sizeOf (protoItems items) := by
  cases items with
  | nil => exact le_refl _
  | cons item rest =>
    have first := sizeOf_le_protoValue item
    have others := sizeOf_le_protoItems rest
    unfold protoItems
    simp only [List.cons.sizeOf_spec]
    omega

theorem sizeOf_le_protoFields (fields : List (String × Json)) :
    sizeOf fields ≤ sizeOf (protoFields fields) := by
  cases fields with
  | nil => exact le_refl _
  | cons field rest =>
    obtain ⟨key, value⟩ := field
    have first := sizeOf_le_protoValue value
    have others := sizeOf_le_protoFields rest
    unfold protoFields
    simp only [List.cons.sizeOf_spec, Prod.mk.sizeOf_spec]
    omega
end

variable {fields : List (String × Json)}

/-- The protobuf form of a result is larger than the payload, so it has not passed. -/
theorem not_passed_protoFields {snapshot : ExecutionSnapshot}
    (isResult : snapshot.result = some fields) :
    ¬Passed snapshot (.obj [("fields", .obj (protoFields fields))]) := by
  rintro ⟨payload, sanitized, isPart⟩
  have isPayload := sanitizedAdapterResultPayload_obj sanitized
  rw [isResult, Option.getD_some] at isPayload
  have smaller := sizeOf_sanitizeFields fields
  have larger := sizeOf_le_protoFields fields
  rcases isPart with whole | member
  · rw [isPayload] at whole
    have sizes := congrArg sizeOf whole
    simp only [Json.obj.sizeOf_spec, List.cons.sizeOf_spec, Prod.mk.sizeOf_spec] at sizes
    omega
  · rw [isPayload] at member
    change _ ∈ sanitizeFields fields at member
    have sizes := List.sizeOf_lt_of_mem member
    simp only [Json.obj.sizeOf_spec, List.cons.sizeOf_spec, Prod.mk.sizeOf_spec] at sizes
    omega

def deadlineFields (completedAt : Instant) : List (String × Json) := [
  ("outcome", .str "deadline_reached"),
  ("reasonCode", .str "MAX_ELAPSED_TIME_REACHED"),
  ("retryable", .bool true),
  ("completedAt", .str completedAt.toISOString)]

def missedFields (completedAt : Instant) (extra : List (String × Json)) : List (String × Json) := [
  ("outcome", .str "start_window_missed"),
  ("reasonCode", .str "START_WINDOW_MISSED"),
  ("retryable", .bool true),
  ("completedAt", .str completedAt.toISOString)] ++ extra

/-- The inspection may be retained: its payload is within the limits and of the output schema, the
lists of the report are iterable, and the evidence is valid on what is retained. -/
def Retains (env : Environment) (operation : ValidatedOperation) (snapshot : ExecutionSnapshot)
    (timing : List (String × Json)) : Prop :=
  ∃ payload structured items, sanitizedAdapterResultPayload snapshot = .ok payload ∧
    operation.validateOutput payload = .ok () ∧
    retainedInspection payload timing = some structured ∧
    validateEvidence env snapshot.evidence (.obj structured) = .ok items

structure Stoppable (env : Environment) (task : TaskRecord) (operation : ValidatedOperation)
    (snapshot : ExecutionSnapshot) (completedAt : Instant) : Prop where
  atDeadline : snapshot.state = "CANCELLED" → task.stopReason = some .deadlineReached →
    operation.name = "vehicle_inspect_area" →
      Retains env operation snapshot (deadlineFields completedAt)
  inWindow : snapshot.state = "CANCELLED" → task.stopReason = some .startWindowMissed →
    (∃ payload, sanitizedAdapterResultPayload snapshot = .ok payload) ∧
      (operation.name = "vehicle_inspect_area" →
        Retains env operation snapshot (missedFields completedAt []))
  afterWindow : snapshot.state ≠ "CANCELLED" → isTerminalTaskState snapshot.state = true →
    task.stopReason = some .startWindowMissed →
      (operation.name = "vehicle_inspect_area" →
        Retains env operation snapshot (missedFields completedAt
          [("stopReason", .str "START_WINDOW_MISSED"), ("adapterOutcome", .str snapshot.state)])) ∧
      (operation.name ≠ "vehicle_inspect_area" → snapshot.result = none)

/-- There is an answer: it ends the task of an execution that has ended, and what it stores of the
adapter's result has passed. -/
def Answers (snapshot : ExecutionSnapshot) (outcome : Except Failure SnapshotTransition) : Prop :=
  ∃ transition, outcome = .ok transition ∧
    (isTerminalTaskState snapshot.state = true → transition.terminal = true) ∧
    ∀ stored, storedAdapterResult transition.result = some stored → Passed snapshot stored

section

variable {env : Environment} {task : TaskRecord} {operation : ValidatedOperation}
  {snapshot : ExecutionSnapshot} {completedAt : Instant} {transition : SnapshotTransition}

theorem exists_attachEvidenceToResult_iff {result : List (String × Json)} {structured : Json} :
    (∃ attached, attachEvidenceToResult env result snapshot structured = .ok attached) ↔
      ∃ items, validateEvidence env snapshot.evidence structured = .ok items := by
  unfold attachEvidenceToResult
  constructor
  · rintro ⟨attached, isAttached⟩
    obtain ⟨items, valid, -⟩ := Except.bind_eq_ok.mp isAttached
    exact ⟨items, valid⟩
  · rintro ⟨items, valid⟩
    rw [valid]
    exact ⟨_, rfl⟩

variable {content isError : Json}

theorem answers_inspection (inspects : operation.name = "vehicle_inspect_area")
    (ends : transition.terminal = true)
    (result : transition.result = some (.obj [("content", content), ("isError", isError),
      ("structuredContent", .obj fields)])) :
    Answers snapshot (inspectionStoppedTransition env operation snapshot transition) ↔
      Retains env operation snapshot (fields.filter fun member => member.1 ≠ "adapterResult") := by
  have timing : timingFields (.obj [("content", content), ("isError", isError),
      ("structuredContent", .obj fields)]) =
      fields.filter fun member => member.1 ≠ "adapterResult" := rfl
  constructor
  · rintro ⟨stopped, isStopped, -, -⟩
    rcases (inspectionStoppedTransition_eq_ok result).mp isStopped with
      ⟨other, -⟩ | ⟨-, payload, structured, attached, sanitized, valid, retained, isAttached, -⟩
    · exact absurd inspects other
    · obtain ⟨items, evidence⟩ := exists_attachEvidenceToResult_iff.mp ⟨attached, isAttached⟩
      rw [timing] at retained
      exact ⟨payload, structured, items, sanitized, valid, retained, evidence⟩
  · rintro ⟨payload, structured, items, sanitized, valid, retained, evidence⟩
    obtain ⟨attached, isAttached⟩ := exists_attachEvidenceToResult_iff.mpr ⟨items, evidence⟩
    refine ⟨_, (inspectionStoppedTransition_eq_ok result).mpr (Or.inr ⟨inspects, payload,
      structured, attached, sanitized, valid, retained, isAttached, rfl⟩), fun _ => ends, ?_⟩
    intro stored stores
    refine ⟨payload, sanitized, Or.inr ?_⟩
    have content := attachEvidenceToResult_structuredContent isAttached
    unfold storedAdapterResult at stores
    dsimp only at stores
    rw [Option.bind_some, content, Option.bind_some, Json.field?,
      lookup_retainedInspection retained (by decide), Json.lookup_spread_of_notMem] at stores
    · exact Json.mem_of_lookup stores
    · intro member isMember
      simpa using (List.mem_filter.mp isMember).2

theorem answers_other (other : operation.name ≠ "vehicle_inspect_area")
    (ends : transition.terminal = true)
    (result : transition.result = some (.obj [("content", content), ("isError", isError),
      ("structuredContent", .obj fields)])) :
    Answers snapshot (inspectionStoppedTransition env operation snapshot transition) ↔
      ∀ stored, Json.lookup "adapterResult" fields = some stored → Passed snapshot stored := by
  have kept : inspectionStoppedTransition env operation snapshot transition = .ok transition :=
    (inspectionStoppedTransition_eq_ok result).mpr (Or.inl ⟨other, rfl⟩)
  have stores : storedAdapterResult transition.result = Json.lookup "adapterResult" fields := by
    rw [result]
    rfl
  rw [kept]
  constructor
  · rintro ⟨stopped, same, -, passed⟩
    cases same
    rw [stores] at passed
    exact passed
  · intro passed
    rw [← stores] at passed
    exact ⟨transition, rfl, fun _ => ends, passed⟩

theorem answers_timing_iff (transition : SnapshotTransition) (fields : List (String × Json))
    (ends : transition.terminal = true)
    (result : transition.result = some (.obj [("content", content), ("isError", isError),
      ("structuredContent", .obj fields)])) :
    Answers snapshot (inspectionStoppedTransition env operation snapshot transition) ↔
      (operation.name = "vehicle_inspect_area" → Retains env operation snapshot
        (fields.filter fun member => member.1 ≠ "adapterResult")) ∧
      (operation.name ≠ "vehicle_inspect_area" →
        ∀ stored, Json.lookup "adapterResult" fields = some stored → Passed snapshot stored) := by
  by_cases inspects : operation.name = "vehicle_inspect_area"
  · rw [answers_inspection inspects ends result]
    simp [inspects]
  · rw [answers_other inspects ends result]
    simp [inspects]

theorem mem_of_isTerminalTaskState {state : String} (ended : isTerminalTaskState state = true) :
    state ∈ ["SUCCEEDED", "BUSINESS_FAILED", "PARTIALLY_COMPLETED", "CANCELLED",
      "TECHNICAL_FAILED"] := by
  unfold isTerminalTaskState at ended
  exact List.contains_iff_mem.mp ended

theorem answers_deadlineReached :
    Answers snapshot (inspectionStoppedTransition env operation snapshot
      (deadlineReached snapshot.message completedAt)) ↔
    (operation.name = "vehicle_inspect_area" →
      Retains env operation snapshot (deadlineFields completedAt)) := by
  have fields : (deadlineFields completedAt).filter (fun member => member.1 ≠ "adapterResult") =
      deadlineFields completedAt := by
    simp [deadlineFields]
  have absent : Json.lookup "adapterResult" (deadlineFields completedAt) = none := by
    simp [deadlineFields, Json.lookup]
  rw [answers_timing_iff (deadlineReached snapshot.message completedAt)
    (deadlineFields completedAt) rfl rfl, fields, absent]
  simp

/-- A cancelled execution whose start window was missed: its payload is stored. -/
theorem answers_startWindowMissed {payload : Json}
    (sanitized : sanitizedAdapterResultPayload snapshot = .ok payload) :
    Answers snapshot (inspectionStoppedTransition env operation snapshot
      (startWindowMissedTransition snapshot.message completedAt payload)) ↔
    (operation.name = "vehicle_inspect_area" →
      Retains env operation snapshot (missedFields completedAt [])) := by
  have fields : (missedFields completedAt [("adapterResult", payload)]).filter
      (fun member => member.1 ≠ "adapterResult") = missedFields completedAt [] := by
    simp [missedFields]
  have found : Json.lookup "adapterResult" (missedFields completedAt [("adapterResult", payload)]) =
      some payload := by
    simp [missedFields, Json.lookup]
  rw [answers_timing_iff (startWindowMissedTransition snapshot.message completedAt payload)
    (missedFields completedAt [("adapterResult", payload)]) rfl rfl, fields, found]
  constructor
  · intro both
    exact both.1
  · intro retains
    refine ⟨retains, ?_⟩
    intro _ stored isStored
    cases isStored
    exact ⟨payload, sanitized, Or.inl rfl⟩

/-- An execution that ended otherwise, after its start window was missed: the result is stored as
it came. -/
theorem answers_startWindowMissedWithAdapterResult :
    Answers snapshot (inspectionStoppedTransition env operation snapshot
      (startWindowMissedWithAdapterResultTransition snapshot task completedAt)) ↔
    (operation.name = "vehicle_inspect_area" →
      Retains env operation snapshot (missedFields completedAt
        [("stopReason", .str "START_WINDOW_MISSED"), ("adapterOutcome", .str snapshot.state)])) ∧
    (operation.name ≠ "vehicle_inspect_area" → snapshot.result = none) := by
  cases isResult : snapshot.result with
  | none =>
    have result : (startWindowMissedWithAdapterResultTransition snapshot task completedAt).result =
        some (startWindowMissed completedAt
          (startWindowMissedWithAdapterResultTransition snapshot task completedAt).statusMessage
          [("stopReason", .str "START_WINDOW_MISSED"),
            ("adapterOutcome", .str snapshot.state)]) := by
      unfold startWindowMissedWithAdapterResultTransition
      rw [isResult]
      rfl
    rw [answers_timing_iff _ (missedFields completedAt
      [("stopReason", .str "START_WINDOW_MISSED"), ("adapterOutcome", .str snapshot.state)])
      rfl result]
    simp [missedFields, Json.lookup]
  | some fields =>
    have raw := not_passed_protoFields isResult
    have result : (startWindowMissedWithAdapterResultTransition snapshot task completedAt).result =
        some (startWindowMissed completedAt
          (startWindowMissedWithAdapterResultTransition snapshot task completedAt).statusMessage
          [("stopReason", .str "START_WINDOW_MISSED"), ("adapterOutcome", .str snapshot.state),
            ("adapterResult", .obj [("fields", .obj (protoFields fields))])]) := by
      unfold startWindowMissedWithAdapterResultTransition
      rw [isResult]
      rfl
    rw [answers_timing_iff _ (missedFields completedAt
      [("stopReason", .str "START_WINDOW_MISSED"), ("adapterOutcome", .str snapshot.state),
        ("adapterResult", .obj [("fields", .obj (protoFields fields))])]) rfl result]
    simp [missedFields, Json.lookup, raw]

theorem stopTransition_answers_iff :
    Answers snapshot (stopTransition env task operation snapshot completedAt) ↔
      Stoppable env task operation snapshot completedAt := by
  unfold stopTransition
  by_cases atDeadline : snapshot.state = "CANCELLED" ∧ task.stopReason = some .deadlineReached
  · rw [if_pos atDeadline, answers_deadlineReached]
    have notMissed : ¬task.stopReason = some .startWindowMissed := by
      rw [atDeadline.2]
      decide
    constructor
    · intro retains
      constructor
      · intro _ _ inspects
        exact retains inspects
      · intro _ missed
        exact absurd missed notMissed
      · intro _ _ missed
        exact absurd missed notMissed
    · intro stoppable
      exact stoppable.atDeadline atDeadline.1 atDeadline.2
  · rw [if_neg atDeadline]
    by_cases inWindow : snapshot.state = "CANCELLED" ∧ task.stopReason = some .startWindowMissed
    · rw [if_pos inWindow]
      cases sanitized : sanitizedAdapterResultPayload snapshot with
      | error failure =>
        constructor
        · rintro ⟨transition, thrown, -⟩
          cases thrown
        · intro stoppable
          have ⟨payload, impossible⟩ := (stoppable.inWindow inWindow.1 inWindow.2).1
          rw [sanitized] at impossible
          cases impossible
      | ok payload =>
        change Answers snapshot (inspectionStoppedTransition env operation snapshot
          (startWindowMissedTransition snapshot.message completedAt payload)) ↔ _
        rw [answers_startWindowMissed sanitized]
        constructor
        · intro retains
          constructor
          · intro cancelled deadline
            exact absurd ⟨cancelled, deadline⟩ atDeadline
          · intro _ _
            exact ⟨⟨payload, sanitized⟩, retains⟩
          · intro other
            exact absurd inWindow.1 other
        · intro stoppable
          exact (stoppable.inWindow inWindow.1 inWindow.2).2
    · rw [if_neg inWindow]
      by_cases afterWindow : task.stopReason = some .startWindowMissed ∧
          isTerminalTaskState snapshot.state = true
      · rw [if_pos afterWindow, answers_startWindowMissedWithAdapterResult]
        have other : snapshot.state ≠ "CANCELLED" := fun cancelled =>
          inWindow ⟨cancelled, afterWindow.1⟩
        constructor
        · intro takes
          constructor
          · intro cancelled
            exact absurd cancelled other
          · intro cancelled
            exact absurd cancelled other
          · intro _ _ _
            exact takes
        · intro stoppable
          exact stoppable.afterWindow other afterWindow.2 afterWindow.1
      · rw [if_neg afterWindow]
        constructor
        · intro _
          constructor
          · intro cancelled deadline
            exact absurd ⟨cancelled, deadline⟩ atDeadline
          · intro cancelled missed
            exact absurd ⟨cancelled, missed⟩ inWindow
          · intro _ ended missed
            exact absurd ⟨missed, ended⟩ afterWindow
        · intro _
          refine ⟨_, rfl, ?_, ?_⟩
          · intro ended
            exact validatedSnapshotTransition_terminal (mem_of_isTerminalTaskState ended)
          · intro stored stores
            exact validatedSnapshotTransition_passed stores

end

namespace Sample

def missedTask : TaskRecord :=
  { newTask (call.intent "o") 0 with stopReason := some .startWindowMissed }

def nested : Nat → Json
  | 0 => .null
  | depth + 1 => .arr [nested depth]

end Sample

/-- A cancelled execution with a deep result has no answer, so the task goes on stopping. -/
theorem stopTransition_throws :
    ¬Answers { snapshot "CANCELLED" 2 with result := some [("path", nested 40)] }
      (stopTransition environment missedTask operation
        { snapshot "CANCELLED" 2 with result := some [("path", nested 40)] } 7) := by
  rintro ⟨transition, answered, -⟩
  have thrown : (stopTransition environment missedTask operation
      { snapshot "CANCELLED" 2 with result := some [("path", nested 40)] }
      7).toOption.isNone = true := by
    decide +kernel
  rw [answered] at thrown
  cases thrown

end SdarRuntime
