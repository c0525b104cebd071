import SdarRuntime.Adapter.Protocol
import SdarRuntime.Library.Checks

/-!
What the runtime accepts as an adapter result: limits, output schema, evidence, and
the transition of a validated snapshot.
-/

namespace SdarRuntime

open Json Failure

private def utf8Length (text : String) : Nat := text.utf8ByteSize

private def enter (depth nodes : Nat) : Except Failure Nat :=
  if 10000 < nodes + 1 then .error (adapterContract "ADAPTER_RESULT_TOO_COMPLEX")
  else if 32 < depth then .error (adapterContract "ADAPTER_RESULT_TOO_DEEP")
  else .ok (nodes + 1)

mutual
/-- Count the nodes in preorder, each limit checked where the code checks it. -/
private def visit (depth : Nat) : Json → Nat → Except Failure Nat
  | .arr items, nodes => do visitItems depth items (← enter depth nodes)
  | .obj fields, nodes => do visitFields depth fields (← enter depth nodes)
  | .null, nodes | .bool _, nodes | .num _, nodes | .str _, nodes => enter depth nodes

private def visitItems (depth : Nat) : List Json → Nat → Except Failure Nat
  | [], nodes => .ok nodes
  | item :: rest, nodes => do visitItems depth rest (← visit (depth + 1) item nodes)

private def visitFields (depth : Nat) : List (String × Json) → Nat → Except Failure Nat
  | [], nodes => .ok nodes
  | (_, value) :: rest, nodes => do visitFields depth rest (← visit (depth + 1) value nodes)
end

def assertResultLimits (value : Json) : Except Failure Unit := do
  if 1048576 < utf8Length value.stringify then
    .error (adapterContract "ADAPTER_RESULT_TOO_LARGE")
  else
    let _ ← visit 0 value 0
    .ok ()

mutual
def sanitizeResult : Json → Json
  | .arr items => .arr (sanitizeItems items)
  | .obj fields => .obj (sanitizeFields fields)
  | other => other

def sanitizeItems : List Json → List Json
  | [] => []
  | item :: rest => sanitizeResult item :: sanitizeItems rest

def sanitizeFields : List (String × Json) → List (String × Json)
  | [] => []
  | (key, value) :: rest =>
    if key = "__proto__" ∨ key = "prototype" ∨ key = "constructor" then sanitizeFields rest
    else (key, sanitizeResult value) :: sanitizeFields rest
end

def adapterResultPayload (snapshot : ExecutionSnapshot) : Json :=
  .obj (snapshot.result.getD [])

def sanitizedAdapterResultPayload (snapshot : ExecutionSnapshot) : Except Failure Json := do
  assertResultLimits (adapterResultPayload snapshot)
  return sanitizeResult (adapterResultPayload snapshot)

private def bounded (value : String) (least most : Nat) (code : String) :
    Except Failure Unit :=
  if (utf16 value).length < least ∨ most < (utf16 value).length then
    .error (adapterContract code)
  else .ok ()

private def isDigit (char : Char) : Bool :=
  decide ('0'.toNat ≤ char.toNat ∧ char.toNat ≤ '9'.toNat)

/-- A fixed shape: `d` stands for a digit. -/
private def shaped : List Char → List Char → Bool
  | [], [] => true
  | 'd' :: shape, char :: text => isDigit char && shaped shape text
  | expected :: shape, char :: text => expected == char && shaped shape text
  | _, _ => false

private def zoneOk (zone : List Char) : Bool :=
  zone == ['Z'] || shaped "+dd:dd".toList zone || shaped "-dd:dd".toList zone

private def isZonedRfc3339 (env : Environment) (value : String) : Bool :=
  let chars := value.toList
  let rest := chars.drop 19
  let zone := match rest with
    | '.' :: fraction =>
      if (fraction.takeWhile isDigit).isEmpty then ['?'] else fraction.dropWhile isDigit
    | other => other
  shaped "dddd-dd-ddTdd:dd:dd".toList (chars.take 19) && zoneOk zone && env.parsesAsDate value

private def escapesOk : List Char → Bool
  | [] => true
  | '~' :: '0' :: rest | '~' :: '1' :: rest => escapesOk rest
  | '~' :: _ => false
  | _ :: rest => escapesOk rest

private def isJsonPointer (value : String) : Bool :=
  match value.toList with
  | [] => true
  | '/' :: rest => escapesOk rest
  | _ => false

private def unescape : List Char → List Char
  | '~' :: '1' :: rest => '/' :: unescape rest
  | '~' :: '0' :: rest => '~' :: unescape rest
  | char :: rest => char :: unescape rest
  | [] => []

private def child? (key : String) : Json → Option (Option Json)
  | .obj fields =>
    match Json.lookup key fields with
    | some value => some (some value)
    | none => if inheritedNames.contains key then some none else none
  | .arr items =>
    match (List.range items.length).find? (fun index => toString index = key) with
    | some index => some items[index]?
    | none => if key = "length" ∨ inheritedNames.contains key then some none else none
  | _ => none

private def pathExists : Option Json → List String → Bool
  | _, [] => true
  | none, _ :: _ => false
  | some value, key :: rest =>
    match child? key value with
    | some next => pathExists next rest
    | none => false

private def jsonPointerExists (root : Json) (pointer : String) : Bool :=
  pointer == "" ||
    pathExists (some root)
      (((pointer.toList.drop 1).splitOn '/').map fun part => String.ofList (unescape part))

private def schemeChar (char : Char) : Bool :=
  isDigit char || char == '+' || char == '.' || char == '-' ||
    decide ('a'.toNat ≤ char.toNat ∧ char.toNat ≤ 'z'.toNat)

private def asciiLower (char : Char) : Char :=
  if 'A'.toNat ≤ char.toNat ∧ char.toNat ≤ 'Z'.toNat then Char.ofNat (char.toNat + 32) else char

private def allowedEvidenceUri (value : String) : Bool :=
  let lowered := value.toList.map asciiLower
  let scheme := lowered.takeWhile schemeChar
  (lowered.drop scheme.length).head? == some ':' &&
    ["https", "s3", "gs", "azblob", "urn"].any fun allowed => allowed.toList == scheme

private def isSha256 (value : String) : Bool :=
  value.toList.length == 64 &&
    value.toList.all fun char =>
      isDigit char || decide ('a'.toNat ≤ char.toNat ∧ char.toNat ≤ 'f'.toNat)

def optionalMember (key : String) : Option String → List (String × Json)
  | none => []
  | some value => [(key, .str value)]

private def evidencePayloadRef (value : Option AdapterEvidencePayloadRef)
    (structuredContent : Json) : Except Failure Json :=
  match value with
  | none => .error (adapterContract "ADAPTER_EVIDENCE_PAYLOAD_REF_INVALID")
  | some ref =>
    if ref.kind = "structured_content" then
      match ref.jsonPointer with
      | none => .error (adapterContract "ADAPTER_EVIDENCE_POINTER_INVALID")
      | some pointer =>
        if 512 < (utf16 pointer).length ∨ isJsonPointer pointer = false then
          .error (adapterContract "ADAPTER_EVIDENCE_POINTER_INVALID")
        else if jsonPointerExists structuredContent pointer = false then
          .error (adapterContract "ADAPTER_EVIDENCE_POINTER_MISSING")
        else .ok (.obj [("kind", .str "structured_content"), ("jsonPointer", .str pointer)])
    else if ref.kind = "uri" then
      match ref.uri with
      | none => .error (adapterContract "ADAPTER_EVIDENCE_URI_INVALID")
      | some uri =>
        if 2048 < (utf16 uri).length ∨ allowedEvidenceUri uri = false then
          .error (adapterContract "ADAPTER_EVIDENCE_URI_INVALID")
        else if ∃ digest ∈ ref.sha256, isSha256 digest = false then
          .error (adapterContract "ADAPTER_EVIDENCE_SHA256_INVALID")
        else .ok (.obj ([("kind", .str "uri"), ("uri", .str uri)] ++
          optionalMember "mediaType" ref.mediaType ++ optionalMember "sha256" ref.sha256))
    else .error (adapterContract "ADAPTER_EVIDENCE_PAYLOAD_REF_INVALID")

private def evidenceItem (env : Environment) (structuredContent : Json) (seen : List String)
    (item : AdapterEvidenceItem) : Except Failure Json := do
  bounded item.evidenceId 1 128 "ADAPTER_EVIDENCE_ID_INVALID"
  if item.evidenceId ∈ seen then
    .error (adapterContract "ADAPTER_EVIDENCE_ID_DUPLICATE")
  else
  bounded item.evidenceType 1 128 "ADAPTER_EVIDENCE_TYPE_INVALID"
  if isZonedRfc3339 env item.observedAt = false then
    .error (adapterContract "ADAPTER_EVIDENCE_OBSERVED_AT_INVALID")
  else
  match item.subjectRef with
  | none => pure ()
  | some subject => bounded subject 1 512 "ADAPTER_EVIDENCE_SUBJECT_REF_INVALID"
  if 16 < item.producer.length then
    .error (adapterContract "ADAPTER_EVIDENCE_PRODUCER_INVALID")
  else
  let payloadRef ← evidencePayloadRef item.payloadRef structuredContent
  return .obj ([
      ("evidenceId", .str item.evidenceId),
      ("evidenceType", .str item.evidenceType),
      ("observedAt", .str item.observedAt)] ++
    optionalMember "subjectRef" item.subjectRef ++ [("payloadRef", payloadRef)] ++
    (if item.producer = [] then [] else [("producer", .arr (item.producer.map .str))]))

private def evidenceItems (env : Environment) (structuredContent : Json) :
    List String → List AdapterEvidenceItem → Except Failure (List Json)
  | _, [] => .ok []
  | seen, item :: rest => do
    let value ← evidenceItem env structuredContent seen item
    let values ← evidenceItems env structuredContent (item.evidenceId :: seen) rest
    return value :: values

/-- An item nests two levels at most, so the depth limit of sixteen is never met. -/
def validateEvidence (env : Environment) (evidence : List AdapterEvidenceItem)
    (structuredContent : Json) : Except Failure (List Json) := do
  if 64 < evidence.length then
    .error (adapterContract "ADAPTER_EVIDENCE_TOO_MANY_ITEMS")
  else
  let items ← evidenceItems env structuredContent [] evidence
  if 262144 < utf8Length (stringify (.obj [
      ("profileVersion", .str "1.0"), ("items", .arr items)])) then
    .error (adapterContract "ADAPTER_EVIDENCE_TOO_LARGE")
  else return items

def attachEvidenceToResult (env : Environment) (result : List (String × Json))
    (snapshot : ExecutionSnapshot) (structuredContent : Json) : Except Failure Json := do
  let items ← validateEvidence env snapshot.evidence structuredContent
  let complete := spread [("resultType", .str "complete")] result
  return .obj (if items = [] then complete
    else spread complete [("_meta", .obj [
      ("io.sdar/evidence", .obj [
        ("profileVersion", .str "1.0"), ("items", .arr items)])])])

variable {env : Environment} {snapshot : ExecutionSnapshot}

theorem attachEvidenceToResult_structuredContent
    {content isError structured replaced evidenced attached : Json}
    (isAttached : attachEvidenceToResult env (spread
      [("content", content), ("isError", isError), ("structuredContent", replaced)]
      [("structuredContent", structured)]) snapshot evidenced = .ok attached) :
    attached.field? "structuredContent" = some structured := by
  simp only [attachEvidenceToResult, bind, Except.bind] at isAttached
  split at isAttached
  · cases isAttached
  · cases isAttached
    simp only [field?]
    split
    · simp [spread, assign, Json.lookup]
    · simp [spread, assign, Json.lookup]

private def attachEvidence (env : Environment) (transition : SnapshotTransition)
    (snapshot : ExecutionSnapshot) (structuredContent : Json) :
    Except Failure SnapshotTransition :=
  match transition.result with
  | none => .ok transition
  | some result => do
    let attached ← attachEvidenceToResult env result.members snapshot structuredContent
    return { transition with result := some attached }

private def normalizeSnapshot (snapshot : ExecutionSnapshot) (result : Json) :
    AdapterSnapshotLike :=
  { state := snapshot.state
    reasonCode := snapshot.reasonCode
    message := snapshot.message
    retryable := snapshot.retryable
    result := result }

private def carriesBusinessResult (state : String) : Bool :=
  state == "SUCCEEDED" || state == "BUSINESS_FAILED" || state == "PARTIALLY_COMPLETED"

/-- A failed task whose error names the broken part of the contract. -/
def technicalFailureTransition (reasonCode : String) : SnapshotTransition :=
  { internalState := .terminalFailed
    mcpStatus := .failed
    substate := none
    statusMessage := "Adapter result failed Runtime contract validation."
    result := none
    error := some (.obj [
      ("code", .num "-32603"),
      ("message", .str "Task execution failed."),
      ("data", .obj [
        ("reasonCode", .str (orElse reasonCode "TECHNICAL_EXECUTION_FAILED")),
        ("retryable", .bool false)])])
    terminal := true
    observationType := "task.progress" }

/-- An inspection keeps its report when it failed or was cancelled. -/
private def inspectionTransition (snapshot : ExecutionSnapshot) (result : Json)
    (transition : SnapshotTransition) : SnapshotTransition :=
  let detail := (transition.error.bind (field? "data")).elim [] members
  { transition with
    result := some (.obj [
      ("content", textContent (orElse snapshot.message snapshot.reasonCode)),
      ("isError", .bool true),
      ("structuredContent", .obj (spread ([
        ("outcome", .str (if snapshot.state = "CANCELLED" then "cancelled"
          else "technical_failure")),
        ("reasonCode", .str snapshot.reasonCode),
        ("retryable", .bool snapshot.retryable)] ++
        ((result.field? "observedAt").elim [] fun at' => [("completedAt", at')]))
        result.members))])
    error := transition.error.map fun error =>
      .obj (spread error.members [("data", .obj (spread detail result.members))]) }

private def contractTransition (env : Environment) (now : Instant)
    (operation : ValidatedOperation) (snapshot : ExecutionSnapshot) :
    Except Failure SnapshotTransition := do
  let result ← sanitizedAdapterResultPayload snapshot
  if carriesBusinessResult snapshot.state then
    operation.validateOutput result
  else pure ()
  let transition ← mapAdapterSnapshot now (normalizeSnapshot snapshot result)
  if operation.name = "vehicle_inspect_area" ∧
      (snapshot.state = "TECHNICAL_FAILED" ∨ snapshot.state = "CANCELLED") then
    operation.validateOutput result
    attachEvidence env (inspectionTransition snapshot result transition) snapshot result
  else
    attachEvidence env transition snapshot result

def validatedSnapshotTransition (env : Environment) (now : Instant)
    (operation : ValidatedOperation) (snapshot : ExecutionSnapshot) : SnapshotTransition :=
  match contractTransition env now operation snapshot with
  | .ok transition => transition
  | .error failure =>
    if failure.kind = .adapterContract then technicalFailureTransition failure.message
    else technicalFailureTransition "ADAPTER_STATE_INVALID"

variable {transition attached : SnapshotTransition}

private theorem attachEvidence_internalState {structuredContent : Json}
    (isAttached : attachEvidence env transition snapshot structuredContent = .ok attached) :
    attached.internalState = transition.internalState := by
  unfold attachEvidence at isAttached
  split at isAttached
  · cases isAttached
    rfl
  · rename_i result found
    cases evidence : attachEvidenceToResult env result.members snapshot structuredContent with
    | error failure =>
      rw [evidence] at isAttached
      cases isAttached
    | ok value =>
      rw [evidence] at isAttached
      cases isAttached
      rfl

variable {now : Instant} {operation : ValidatedOperation}

theorem validatedSnapshotTransition_cancelled (cancelled : snapshot.state = "CANCELLED") :
    (validatedSnapshotTransition env now operation snapshot).internalState = .terminalCancelled ∨
      (validatedSnapshotTransition env now operation snapshot).internalState = .terminalFailed := by
  unfold validatedSnapshotTransition
  cases contract : contractTransition env now operation snapshot with
  | error failure =>
    dsimp only
    split
    · exact .inr rfl
    · exact .inr rfl
  | ok transition =>
    refine .inl ?_
    simp only [contractTransition] at contract
    cases payload : sanitizedAdapterResultPayload snapshot with
    | error failure =>
      rw [payload] at contract
      cases contract
    | ok result =>
      have normalized : (normalizeSnapshot snapshot result).state = "CANCELLED" := cancelled
      obtain ⟨mapped, isMapped, state⟩ := mapAdapterSnapshot_cancelled now normalized
      have plain : carriesBusinessResult snapshot.state = false := by
        rw [cancelled]
        decide
      simp only [payload, plain, isMapped, Bool.false_eq_true, if_false, bind,
        Except.bind] at contract
      split at contract
      · split at contract
        · cases contract
        · rw [attachEvidence_internalState contract]
          exact state
      · rw [attachEvidence_internalState contract]
        exact state

def storedAdapterResult (result : Option Json) : Option Json :=
  (result.bind (field? "structuredContent")).bind (field? "adapterResult")

/-- The value has passed the limits and the sanitizing: it is the payload that comes of them, or a
member of it. -/
def Passed (snapshot : ExecutionSnapshot) (stored : Json) : Prop :=
  ∃ payload, sanitizedAdapterResultPayload snapshot = .ok payload ∧
    (stored = payload ∨ ("adapterResult", stored) ∈ payload.members)

theorem sanitizedAdapterResultPayload_obj {payload : Json}
    (sanitized : sanitizedAdapterResultPayload snapshot = .ok payload) :
    payload = .obj (sanitizeFields (snapshot.result.getD [])) := by
  unfold sanitizedAdapterResultPayload at sanitized
  cases limits : assertResultLimits (adapterResultPayload snapshot) with
  | error failure =>
    rw [limits] at sanitized
    cases sanitized
  | ok _ =>
    rw [limits] at sanitized
    cases sanitized
    unfold adapterResultPayload sanitizeResult
    rfl

/-- The evidence of a result in its usual form leaves the structured content as it is. -/
theorem attachEvidenceToResult_field {content isError structured evidenced attached : Json}
    (isAttached : attachEvidenceToResult env
      [("content", content), ("isError", isError), ("structuredContent", structured)] snapshot
      evidenced = .ok attached) :
    attached.field? "structuredContent" = some structured := by
  have spread : [("content", content), ("isError", isError), ("structuredContent", structured)] =
      spread [("content", content), ("isError", isError), ("structuredContent", structured)]
        [("structuredContent", structured)] := by
    simp [spread, assign]
  rw [spread] at isAttached
  exact attachEvidenceToResult_structuredContent isAttached

private theorem contractTransition_comes {transition : SnapshotTransition}
    (contract : contractTransition env now operation snapshot = .ok transition) :
    ∃ payload mapped plain, sanitizedAdapterResultPayload snapshot = .ok payload ∧
      mapAdapterSnapshot now (normalizeSnapshot snapshot payload) = .ok mapped ∧
      (plain = mapped ∨ plain = inspectionTransition snapshot payload mapped) ∧
      attachEvidence env plain snapshot payload = .ok transition := by
  unfold contractTransition at contract
  obtain ⟨payload, sanitized, contract⟩ := Except.bind_eq_ok.mp contract
  have mapping : (mapAdapterSnapshot now (normalizeSnapshot snapshot payload) >>= fun mapped =>
      if operation.name = "vehicle_inspect_area" ∧
          (snapshot.state = "TECHNICAL_FAILED" ∨ snapshot.state = "CANCELLED") then
        operation.validateOutput payload >>= fun _ =>
          attachEvidence env (inspectionTransition snapshot payload mapped) snapshot payload
      else attachEvidence env mapped snapshot payload) = .ok transition := by
    dsimp only at contract
    by_cases business : carriesBusinessResult snapshot.state = true
    · rw [if_pos business] at contract
      obtain ⟨_, _, rest⟩ := Except.bind_eq_ok.mp contract
      exact rest
    · rw [if_neg business] at contract
      exact contract
  obtain ⟨mapped, isMapped, ending⟩ := Except.bind_eq_ok.mp mapping
  split at ending
  · obtain ⟨_, _, attached⟩ := Except.bind_eq_ok.mp ending
    exact ⟨payload, mapped, _, sanitized, isMapped, Or.inr rfl, attached⟩
  · exact ⟨payload, mapped, _, sanitized, isMapped, Or.inl rfl, ending⟩

private theorem attachEvidence_structuredContent {content isError structured evidenced : Json}
    (result : transition.result = some (.obj [("content", content), ("isError", isError),
      ("structuredContent", structured)]))
    (isAttached : attachEvidence env transition snapshot evidenced = .ok attached) :
    attached.result.bind (field? "structuredContent") = some structured := by
  unfold attachEvidence at isAttached
  rw [result] at isAttached
  dsimp only [members] at isAttached
  cases evidence : attachEvidenceToResult env [("content", content), ("isError", isError),
      ("structuredContent", structured)] snapshot evidenced with
  | error failure =>
    rw [evidence] at isAttached
    cases isAttached
  | ok value =>
    rw [evidence] at isAttached
    cases isAttached
    exact attachEvidenceToResult_field evidence

variable {stored : Json}

private theorem mem_sanitizeResultPayload {snapshot : AdapterSnapshotLike}
    (member : ("adapterResult", stored) ∈ sanitizeResultPayload snapshot) :
    ("adapterResult", stored) ∈ snapshot.result.members := by
  unfold sanitizeResultPayload at member
  split at member
  · rename_i payload isPayload
    rw [isPayload]
    exact List.mem_of_mem_filter member
  · cases member
  · simp at member

theorem validatedSnapshotTransition_passed (stores : storedAdapterResult
      (validatedSnapshotTransition env now operation snapshot).result = some stored) :
    Passed snapshot stored := by
  unfold validatedSnapshotTransition at stores
  cases contract : contractTransition env now operation snapshot with
  | error failure =>
    rw [contract] at stores
    dsimp only at stores
    split at stores
    · cases stores
    · cases stores
  | ok transition =>
    rw [contract] at stores
    obtain ⟨payload, mapped, plain, sanitized, isMapped, isPlain, attached⟩ :=
      contractTransition_comes contract
    refine ⟨payload, sanitized, Or.inr ?_⟩
    unfold storedAdapterResult at stores
    rcases isPlain with isPlain | isPlain
    · rw [isPlain] at attached
      rcases mapAdapterSnapshot_result isMapped with nothing | ⟨outcome, isError, business⟩
      · unfold attachEvidence at attached
        rw [nothing] at attached
        cases attached
        rw [nothing] at stores
        cases stores
      · unfold businessResult at business
        rw [attachEvidence_structuredContent business attached, Option.bind_some] at stores
        split at stores
        · exact mem_sanitizeResultPayload (mem_of_lookup stores)
        · rcases mem_spread (mem_of_lookup stores) with standard | filtered
          · simp at standard
          · exact mem_sanitizeResultPayload filtered
    · rw [isPlain] at attached
      rw [attachEvidence_structuredContent rfl attached, Option.bind_some] at stores
      rcases mem_spread (mem_of_lookup stores) with standard | kept
      · cases observedAt : payload.field? "observedAt" <;> simp [observedAt] at standard
      · exact kept

theorem validatedSnapshotTransition_terminal
    (ended : snapshot.state ∈ ["SUCCEEDED", "BUSINESS_FAILED", "PARTIALLY_COMPLETED", "CANCELLED",
      "TECHNICAL_FAILED"]) :
    (validatedSnapshotTransition env now operation snapshot).terminal = true := by
  rw [SnapshotTransition.terminal_eq]
  unfold validatedSnapshotTransition
  cases contract : contractTransition env now operation snapshot with
  | error failure =>
    dsimp only
    split
    · rfl
    · rfl
  | ok transition =>
    obtain ⟨payload, mapped, plain, sanitized, isMapped, isPlain, attached⟩ :=
      contractTransition_comes contract
    have ends := mapAdapterSnapshot_terminal isMapped ended
    rw [attachEvidence_internalState attached]
    rcases isPlain with isPlain | isPlain
    · rw [isPlain]
      exact ends
    · rw [isPlain]
      exact ends

def synchronousResult (env : Environment) (now : Instant) (operation : ValidatedOperation)
    (snapshot : ExecutionSnapshot) : Except Failure Json := do
  let payload ← sanitizedAdapterResultPayload snapshot
  if carriesBusinessResult snapshot.state then
    operation.validateOutput payload
  else pure ()
  match mapAdapterSnapshot now (normalizeSnapshot snapshot payload) with
  | .error _ => .error (adapterContract "ADAPTER_STATE_INVALID")
  | .ok transition =>
    if transition.terminal = false then
      .error (adapterContract "SYNCHRONOUS_OPERATION_RETURNED_NONTERMINAL")
    else if transition.mcpStatus = .failed then
      .error (technicalExecution
        (orElse snapshot.reasonCode "TECHNICAL_EXECUTION_FAILED"))
    else match transition.result with
      | none => .error (adapterContract "SYNCHRONOUS_RESULT_MISSING")
      | some result => attachEvidenceToResult env result.members snapshot payload

end SdarRuntime
