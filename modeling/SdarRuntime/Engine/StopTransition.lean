import SdarRuntime.Engine.ResultContract

/-!
The transition a reader of the task asks for when the adapter answers after a safe
stop was requested: the timing outcome owns the terminal result.
-/

namespace SdarRuntime

open Json

def snapshotHasStarted (state : String) : Bool :=
  ["RUNNING", "PAUSED", "RESUMING", "WAITING_INPUT", "SUCCEEDED", "BUSINESS_FAILED",
    "PARTIALLY_COMPLETED", "TECHNICAL_FAILED"].contains state

def isTerminalTaskState (state : String) : Bool :=
  ["SUCCEEDED", "BUSINESS_FAILED", "PARTIALLY_COMPLETED", "CANCELLED",
    "TECHNICAL_FAILED"].contains state

/-- What a value spreads into: the items of an array, or the characters of a text. -/
def iterated : Option Json → Option (List Json)
  | some (.arr items) => some items
  | some (.str text) => some (text.toList.map fun char => .str (String.singleton char))
  | _ => none

/-- What `new Set` is made of; without a value the set is empty. -/
def setOf : Option Json → Option (List Json)
  | none => some []
  | some .null => some []
  | some value => iterated (some value)

private def isText (text : String) : Json → Bool
  | .str value => value == text
  | _ => false

/-- Values that a set takes for one; an object is only the same as itself. -/
private def sameValue : Json → Json → Bool
  | .null, .null => true
  | .bool left, .bool right => left == right
  | .num left, .num right => left == right
  | .str left, .str right => left == right
  | _, _ => false

private def addMissing (missing : List Json) (text : String) : List Json :=
  if missing.any (isText text) then missing else missing ++ [.str text]

private def distinctValues : List Json → List Json
  | [] => []
  | value :: rest => value :: (distinctValues rest).filter fun other => !sameValue value other

private structure InspectionReport where
  report : List (String × Json)
  timing : List (String × Json)
  status : String
  inspection : List (String × Json)
  completion : String

private def InspectionReport.structured (inspection : InspectionReport)
    (anomalies artifactRefs missing : List Json) (truncated : Bool) : List (String × Json) :=
  spread (spread inspection.report inspection.timing) [
    ("status", .str inspection.status),
    ("anomalies", .arr anomalies),
    ("missingEvidence", .arr missing),
    ("inspectionReport", .obj (spread inspection.inspection [
      ("artifactRefs", .arr artifactRefs),
      ("truncated", .bool truncated),
      ("completion", .str inspection.completion)]))]

/-- Drop anomalies, then artifact references, until the report fits; one is dropped each
round, so their number bounds the rounds. -/
private def InspectionReport.fit (inspection : InspectionReport) :
    Nat → List Json → List Json → List Json → Bool → List (String × Json)
  | 0, anomalies, artifactRefs, missing, truncated =>
    inspection.structured anomalies artifactRefs missing truncated
  | rounds + 1, anomalies, artifactRefs, missing, truncated =>
    let structured := inspection.structured anomalies artifactRefs missing truncated
    if 61440 < (stringify (.obj structured)).utf8ByteSize then
      let missing' := addMissing missing "INSPECTION_INLINE_REPORT_TRUNCATED"
      if anomalies ≠ [] then
        inspection.fit rounds anomalies.dropLast artifactRefs missing' true
      else inspection.fit rounds anomalies artifactRefs.dropLast missing' true
    else structured

/-- The structured content of an inspection whose outcome is that of the timing; none where a part
of the report is not iterable. -/
def retainedInspection (report : Json) (timing : List (String × Json)) :
    Option (List (String × Json)) := do
  let isDeadline := (Json.lookup "outcome" timing).any (isText "deadline_reached")
  let inspection := (report.field? "inspectionReport").elim [] members
  let anomalies ← iterated (report.field? "anomalies")
  let artifactRefs ← iterated (Json.lookup "artifactRefs" inspection)
  let listed ← setOf (report.field? "missingEvidence")
  let missing := addMissing (distinctValues listed)
    (if isDeadline then "INSPECTION_TASK_DEADLINE_REACHED" else "INSPECTION_START_WINDOW_MISSED")
  let isTrue := fun key => match Json.lookup key inspection with
    | some (.bool value) => value
    | _ => false
  let inspectionReport : InspectionReport :=
    { report := report.members
      timing := timing
      status := if isDeadline then "timeout" else "failed"
      inspection := inspection
      completion := if isTrue "targetReportComplete" then "partial" else "unavailable" }
  return inspectionReport.fit (anomalies.length + artifactRefs.length) anomalies artifactRefs
    missing (isTrue "truncated")

/-- The fields of a timing outcome, without what the adapter reported. -/
def timingFields (result : Json) : List (String × Json) :=
  ((result.field? "structuredContent").elim [] members).filter
    fun member => member.1 ≠ "adapterResult"

/-- Retain scoped inspection facts when the timing outcome owns the terminal result. -/
def inspectionStoppedTransition (env : Environment) (operation : ValidatedOperation)
    (snapshot : ExecutionSnapshot) (transition : SnapshotTransition) :
    Except Failure SnapshotTransition :=
  match transition.result with
  | none => .ok transition
  | some result =>
    if operation.name ≠ "vehicle_inspect_area" then .ok transition
    else do
      let report ← sanitizedAdapterResultPayload snapshot
      operation.validateOutput report
      match retainedInspection report (timingFields result) with
      | none => .error (Failure.error "value is not iterable")
      | some structured =>
        let attached ← attachEvidenceToResult env
          (spread result.members [("structuredContent", .obj structured)]) snapshot
          (.obj structured)
        return { transition with result := some attached }

def deadlineReached (message : String) (completedAt : Instant) : SnapshotTransition :=
  { internalState := .terminalCompleted
    mcpStatus := .completed
    substate := none
    statusMessage := orElse message "Maximum elapsed time reached after safe stop."
    result := some (.obj [
      ("content", textContent (orElse message "Maximum elapsed time reached.")),
      ("isError", .bool true),
      ("structuredContent", .obj [
        ("outcome", .str "deadline_reached"),
        ("reasonCode", .str "MAX_ELAPSED_TIME_REACHED"),
        ("retryable", .bool true),
        ("completedAt", .str completedAt.toISOString)])])
    error := none
    terminal := true
    observationType := "task.progress" }

def startWindowMissed (completedAt : Instant) (message : String)
    (extra : List (String × Json)) : Json :=
  .obj [
    ("content", textContent message),
    ("isError", .bool true),
    ("structuredContent", .obj ([
      ("outcome", .str "start_window_missed"),
      ("reasonCode", .str "START_WINDOW_MISSED"),
      ("retryable", .bool true),
      ("completedAt", .str completedAt.toISOString)] ++ extra))]

private def startWindowMissedTerminal (message : String) (result : Json) : SnapshotTransition :=
  { internalState := .terminalCompleted
    mcpStatus := .completed
    substate := none
    statusMessage := message
    result := some result
    error := none
    terminal := true
    observationType := "task.start_window_missed" }

def startWindowMissedTransition (message : String) (completedAt : Instant)
    (adapterResult : Json) : SnapshotTransition :=
  let text := orElse message "Start window was missed after safe stop."
  startWindowMissedTerminal text
    (startWindowMissed completedAt text [("adapterResult", adapterResult)])

mutual
/-- A value in the adapter's protobuf form, which this outcome keeps as it came. -/
def protoValue : Json → Json
  | .null => .obj [("nullValue", .num "0")]
  | .bool value => .obj [("boolValue", .bool value)]
  | .num text => .obj [("numberValue", .num text)]
  | .str value => .obj [("stringValue", .str value)]
  | .arr items => .obj [("listValue", .obj [("values", .arr (protoItems items))])]
  | .obj fields => .obj [("structValue", .obj [("fields", .obj (protoFields fields))])]

def protoItems : List Json → List Json
  | [] => []
  | item :: rest => protoValue item :: protoItems rest

def protoFields : List (String × Json) → List (String × Json)
  | [] => []
  | (key, value) :: rest => (key, protoValue value) :: protoFields rest
end

def startWindowMissedWithAdapterResultTransition (snapshot : ExecutionSnapshot)
    (task : TaskRecord) (completedAt : Instant) : SnapshotTransition :=
  let message :=
    if task.actualStartedAt = none then
      orElse snapshot.message "Start window was missed before execution began."
    else "Task completed after the start window was missed."
  startWindowMissedTerminal message (startWindowMissed completedAt message ([
      ("stopReason", .str "START_WINDOW_MISSED"),
      ("adapterOutcome", .str snapshot.state)] ++
    match snapshot.result with
    | none => []
    | some fields => [("adapterResult", .obj [("fields", .obj (protoFields fields))])]))

/-- The transition a status read derives from the row it read before the adapter call. -/
def stopTransition (env : Environment) (task : TaskRecord) (operation : ValidatedOperation)
    (snapshot : ExecutionSnapshot) (completedAt : Instant) : Except Failure SnapshotTransition :=
  if snapshot.state = "CANCELLED" ∧ task.stopReason = some .deadlineReached then
    inspectionStoppedTransition env operation snapshot
      (deadlineReached snapshot.message completedAt)
  else if snapshot.state = "CANCELLED" ∧ task.stopReason = some .startWindowMissed then do
    let payload ← sanitizedAdapterResultPayload snapshot
    inspectionStoppedTransition env operation snapshot
      (startWindowMissedTransition snapshot.message completedAt payload)
  else if task.stopReason = some .startWindowMissed ∧ isTerminalTaskState snapshot.state then
    inspectionStoppedTransition env operation snapshot
      (startWindowMissedWithAdapterResultTransition snapshot task completedAt)
  else .ok (validatedSnapshotTransition env completedAt operation snapshot)

def resultOutcome (result : Option Json) : Option Json :=
  (result.bind (field? "structuredContent")).bind (field? "outcome")

/-- What the result of a task says that was stopped for this reason. -/
def StopReason.outcome : StopReason → String
  | .userRequested => "cancelled"
  | .deadlineReached => "deadline_reached"
  | .startWindowMissed => "start_window_missed"

variable {key : String}

private theorem lookup_structured (inspection : InspectionReport)
    (anomalies artifactRefs missing : List Json) (truncated : Bool)
    (other : key ∉ ["status", "anomalies", "missingEvidence", "inspectionReport"]) :
    Json.lookup key (inspection.structured anomalies artifactRefs missing truncated) =
      Json.lookup key (spread inspection.report inspection.timing) := by
  simp only [List.mem_cons, List.not_mem_nil, or_false, not_or] at other
  apply lookup_spread_of_notMem
  simp [Ne.symm other.1, Ne.symm other.2.1, Ne.symm other.2.2.1, Ne.symm other.2.2.2]

private theorem lookup_fit (inspection : InspectionReport)
    (other : key ∉ ["status", "anomalies", "missingEvidence", "inspectionReport"]) (rounds : Nat) :
    ∀ (anomalies artifactRefs missing : List Json) (truncated : Bool),
      Json.lookup key (inspection.fit rounds anomalies artifactRefs missing truncated) =
        Json.lookup key (spread inspection.report inspection.timing) := by
  induction rounds with
  | zero =>
    intro anomalies artifactRefs missing truncated
    exact lookup_structured inspection anomalies artifactRefs missing truncated other
  | succ rounds ih =>
    intro anomalies artifactRefs missing truncated
    simp only [InspectionReport.fit]
    split
    · split
      · exact ih _ _ _ _
      · exact ih _ _ _ _
    · exact lookup_structured inspection _ _ _ _ other

theorem lookup_retainedInspection {report : Json} {timing structured : List (String × Json)}
    (retained : retainedInspection report timing = some structured)
    (other : key ∉ ["status", "anomalies", "missingEvidence", "inspectionReport"]) :
    Json.lookup key structured = Json.lookup key (spread report.members timing) := by
  unfold retainedInspection at retained
  simp only [Option.bind_eq_bind, Option.bind_eq_some_iff] at retained
  obtain ⟨anomalies, -, artifactRefs, -, listed, -, isStructured⟩ := retained
  cases isStructured
  exact lookup_fit _ other _ _ _ _ _

variable {rest : List (String × Json)}

private theorem lookup_spread_head {value : Json} (absent : ∀ member ∈ rest, member.1 ≠ key)
    (base : List (String × Json)) :
    Json.lookup key (spread base ((key, value) :: rest)) = some value := by
  change Json.lookup key (spread (assign key value base) rest) = some value
  rw [lookup_spread_of_notMem rest _ absent, lookup_assign_self]

variable {env : Environment} {operation : ValidatedOperation} {snapshot : ExecutionSnapshot}
variable {transition stopped : SnapshotTransition}

/-- A stopped inspection, in full: any other operation keeps the transition, and its own one keeps
the report. -/
theorem inspectionStoppedTransition_eq_ok {result : Json}
    (isResult : transition.result = some result) :
    inspectionStoppedTransition env operation snapshot transition = .ok stopped ↔
      (operation.name ≠ "vehicle_inspect_area" ∧ stopped = transition) ∨
      (operation.name = "vehicle_inspect_area" ∧ ∃ payload structured attached,
        sanitizedAdapterResultPayload snapshot = .ok payload ∧
        operation.validateOutput payload = .ok () ∧
        retainedInspection payload (timingFields result) = some structured ∧
        attachEvidenceToResult env
          (spread result.members [("structuredContent", .obj structured)]) snapshot
          (.obj structured) = .ok attached ∧
        stopped = { transition with result := some attached }) := by
  unfold inspectionStoppedTransition
  rw [isResult]
  dsimp only
  by_cases inspects : operation.name = "vehicle_inspect_area"
  · rw [if_neg (not_not_intro inspects)]
    constructor
    · intro isStopped
      refine Or.inr ⟨inspects, ?_⟩
      obtain ⟨payload, sanitized, isStopped⟩ := Except.bind_eq_ok.mp isStopped
      obtain ⟨_, valid, isStopped⟩ := Except.bind_eq_ok.mp isStopped
      split at isStopped
      · cases isStopped
      · rename_i structured retained
        obtain ⟨attached, isAttached, isStopped⟩ := Except.bind_eq_ok.mp isStopped
        cases isStopped
        exact ⟨payload, structured, attached, sanitized, valid, retained, isAttached, rfl⟩
    · rintro (⟨other, -⟩ | ⟨-, payload, structured, attached, sanitized, valid, retained,
        isAttached, isStopped⟩)
      · exact absurd inspects other
      · apply Except.bind_eq_ok.mpr
        refine ⟨payload, sanitized, ?_⟩
        apply Except.bind_eq_ok.mpr
        refine ⟨(), valid, ?_⟩
        rw [retained]
        apply Except.bind_eq_ok.mpr
        exact ⟨attached, isAttached, by rw [isStopped]; rfl⟩
  · rw [if_pos inspects]
    constructor
    · intro isStopped
      cases isStopped
      exact Or.inl ⟨inspects, rfl⟩
    · rintro (⟨-, isStopped⟩ | ⟨same, -⟩)
      · rw [isStopped]
      · exact absurd same inspects

private theorem inspectionStoppedTransition_outcome {content isError outcome : Json}
    (result : transition.result = some (.obj [("content", content), ("isError", isError),
      ("structuredContent", .obj (("outcome", outcome) :: rest))]))
    (absent : ∀ member ∈ rest, member.1 ≠ "outcome")
    (isStopped : inspectionStoppedTransition env operation snapshot transition = .ok stopped) :
    stopped.internalState = transition.internalState ∧
      resultOutcome stopped.result = some outcome := by
  rcases (inspectionStoppedTransition_eq_ok result).mp isStopped with
    ⟨-, same⟩ | ⟨-, payload, structured, attached, -, -, retained, isAttached, same⟩
  · rw [same]
    refine ⟨rfl, ?_⟩
    rw [result]
    rfl
  · rw [same]
    refine ⟨rfl, ?_⟩
    have content := attachEvidenceToResult_structuredContent isAttached
    rw [resultOutcome, Option.bind_some, content, Option.bind_some, field?,
      lookup_retainedInspection retained (by decide)]
    have kept : ∀ member ∈ rest.filter (fun member => member.1 ≠ "adapterResult"),
        member.1 ≠ "outcome" := fun member isMember =>
      absent member (List.mem_of_mem_filter isMember)
    exact lookup_spread_head kept _

variable {task : TaskRecord} {completedAt : Instant} {transition : SnapshotTransition}

/-- A cancelled execution completes a task that is known to be stopped for a required reason,
with the outcome of that reason. -/
theorem stopTransition_required {reason : StopReason} (cancelled : snapshot.state = "CANCELLED")
    (stopped : task.stopReason = some reason) (required : reason ≠ .userRequested)
    (derived : stopTransition env task operation snapshot completedAt = .ok transition) :
    transition.internalState = .terminalCompleted ∧
      resultOutcome transition.result = some (.str reason.outcome) := by
  unfold stopTransition at derived
  cases reason with
  | userRequested => exact absurd rfl required
  | deadlineReached =>
    rw [if_pos ⟨cancelled, stopped⟩] at derived
    exact inspectionStoppedTransition_outcome rfl (by simp) derived
  | startWindowMissed =>
    rw [if_neg (by simp [stopped]), if_pos ⟨cancelled, stopped⟩] at derived
    simp only [bind, Except.bind] at derived
    split at derived
    · cases derived
    · exact inspectionStoppedTransition_outcome rfl (by simp) derived

theorem stopTransition_unrequired (cancelled : snapshot.state = "CANCELLED")
    (unstopped : ∀ reason, task.stopReason = some reason → reason = .userRequested)
    (derived : stopTransition env task operation snapshot completedAt = .ok transition) :
    transition.internalState = .terminalCancelled ∨
      transition.internalState = .terminalFailed := by
  have notDeadline : task.stopReason ≠ some .deadlineReached :=
    fun stopped => nomatch unstopped _ stopped
  have notMissed : task.stopReason ≠ some .startWindowMissed :=
    fun stopped => nomatch unstopped _ stopped
  unfold stopTransition at derived
  rw [if_neg (by simp [notDeadline]), if_neg (by simp [notMissed]), if_neg (by simp [notMissed])]
    at derived
  cases derived
  exact validatedSnapshotTransition_cancelled cancelled

end SdarRuntime
