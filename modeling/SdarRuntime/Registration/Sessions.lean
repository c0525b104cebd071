import SdarRuntime.Registration.Service
import SdarRuntime.Library.Checks
import Mathlib.Data.List.Chain

/-!
Sessions of a registered instance. The rows are those of the newest accepted request, up to the
readiness that the reconciler writes over, and the accepted requests count the revision.
-/

namespace SdarRuntime

namespace Registration

open Except

structure RuntimeRequest.Passes (request : RuntimeRequest) (deployment : ExpectedRuntimeInstance)
    (heartbeatTtlMs : Int) : Prop where
  expected : validateExpected deployment = .ok ()
  registration : validateRegistrationRequest request.registration = .ok ()
  sequence : nonNegativeInteger request.sequence = true
  server : validateServerInput heartbeatTtlMs = .ok ()
  asserted : assertExpected deployment request.registration.toExpectedRuntimeInstance = .ok ()

theorem require_ok {condition : Bool} {failure : RegistrationFailure} {value : Unit} :
    require condition failure = .ok value ↔ condition = true := by
  unfold require
  cases condition with
  | true => simp
  | false => simp

variable {request : RuntimeHeartbeatRequest}

theorem validateHeartbeatRequest_ok :
    validateHeartbeatRequest request = .ok () ↔
      validateRegistrationRequest request.toRuntimeRegistrationRequest = .ok () ∧
        nonNegativeInteger request.sequence = true := by
  unfold validateHeartbeatRequest
  rw [bind_eq_ok]
  simp only [require_ok]
  constructor
  · rintro ⟨_, checked, bounded⟩
    exact ⟨checked, bounded⟩
  · rintro ⟨checked, bounded⟩
    exact ⟨(), checked, bounded⟩

/-- What an accepted request leaves, over what the registration was. -/
structure Changes (request : RuntimeRequest) (current : Option RuntimeRegistrationSnapshot)
    (receivedAt : Int) (registration : RuntimeRegistrationSnapshot) : Prop where
  sameRequest : registration.toRuntimeRegistrationRequest = request.registration
  sequence : registration.heartbeatSequence = request.sequence
  lastHeartbeatAt : registration.lastHeartbeatAt = receivedAt
  revision : registration.revision = (current.elim (-1) fun snapshot => snapshot.revision) + 1
  follows : ∀ heartbeat, request = .heartbeat heartbeat → ∃ snapshot, current = some snapshot ∧
    snapshot.sessionId = heartbeat.sessionId ∧ snapshot.heartbeatSequence < heartbeat.sequence ∧
      snapshot.lastHeartbeatAt ≤ receivedAt

theorem opened_changes (current : Option RuntimeRegistrationSnapshot)
    (request : RuntimeRegistrationRequest) (receivedAt heartbeatTtlMs : Int) :
    Changes (.register request) current receivedAt
      (opened current request receivedAt heartbeatTtlMs).registration := by
  constructor
  · rfl
  · rfl
  · rfl
  · rfl
  · intro heartbeat isHeartbeat
    cases isHeartbeat

/-- A request is refused, or finds what it asks for, or changes the registration. -/
inductive Answers (request : RuntimeRequest) (current : Option RuntimeRegistrationSnapshot)
    (receivedAt : Int) (result : RuntimeRegistrationMutation) : Prop where
  | found (unchanged : result.outcome = .unchanged)
      (same : current = some result.registration)
  | accepted (changed : result.outcome ≠ .unchanged)
      (changes : Changes request current receivedAt result.registration)

variable {expected : Option ExpectedRuntimeInstance} {current : Option RuntimeRegistrationSnapshot}
variable {receivedAt heartbeatTtlMs : Int} {result : RuntimeRegistrationMutation}

theorem registerRuntime_ok {request : RuntimeRegistrationRequest}
    (answered : registerRuntime expected current request receivedAt heartbeatTtlMs = .ok result) :
    ∃ deployment, expected = some deployment ∧
      (RuntimeRequest.register request).Passes deployment heartbeatTtlMs ∧
        Answers (.register request) current receivedAt result := by
  unfold registerRuntime at answered
  simp only [bind_eq_ok] at answered
  obtain ⟨deployment, known, _, expectedValid, _, requestValid, _, serverValid, _, asserted, rest⟩ :=
    answered
  have isExpected : expected = some deployment := by
    cases expected with
    | none => cases known
    | some other =>
      cases known
      rfl
  have passes : (RuntimeRequest.register request).Passes deployment heartbeatTtlMs := {
    expected := expectedValid
    registration := requestValid
    sequence := rfl
    server := serverValid
    asserted := asserted }
  refine ⟨deployment, isExpected, passes, ?_⟩
  cases current with
  | none =>
    cases rest
    apply Answers.accepted
    · intro unchanged
      cases unchanged
    · exact opened_changes none request receivedAt heartbeatTtlMs
  | some snapshot =>
    simp only [bind_eq_ok] at rest
    obtain ⟨_, _, _, _, decided⟩ := rest
    split at decided
    · split at decided
      · cases decided
        exact Answers.found rfl rfl
      · cases decided
    · cases decided
      apply Answers.accepted
      · intro unchanged
        cases unchanged
      · exact opened_changes (some snapshot) request receivedAt heartbeatTtlMs

variable {snapshot : RuntimeRegistrationSnapshot}

theorem continueSession_ok
    (answered : continueSession snapshot request receivedAt heartbeatTtlMs = .ok result) :
    Answers (.heartbeat request) (some snapshot) receivedAt result := by
  unfold continueSession at answered
  split at answered
  · cases answered
  · rename_i sameSession
    split at answered
    · cases answered
    · rename_i notStale
      split at answered
      · split at answered
        · cases answered
          exact Answers.found rfl rfl
        · cases answered
      · rename_i notSame
        split at answered
        · cases answered
        · rename_i clockValid
          cases answered
          apply Answers.accepted
          · intro unchanged
            cases unchanged
          · constructor
            · rfl
            · rfl
            · rfl
            · rfl
            · intro heartbeat isHeartbeat
              cases isHeartbeat
              refine ⟨snapshot, rfl, Decidable.not_not.mp sameSession, ?_, ?_⟩
              · omega
              · omega

theorem acceptRuntimeHeartbeat_ok
    (answered : acceptRuntimeHeartbeat expected current request receivedAt heartbeatTtlMs =
      .ok result) :
    ∃ deployment, expected = some deployment ∧
      (RuntimeRequest.heartbeat request).Passes deployment heartbeatTtlMs ∧
        Answers (.heartbeat request) current receivedAt result := by
  unfold acceptRuntimeHeartbeat at answered
  simp only [bind_eq_ok] at answered
  obtain ⟨deployment, known, _, expectedValid, _, requestValid, _, serverValid, _, asserted, rest⟩ :=
    answered
  have isExpected : expected = some deployment := by
    cases expected with
    | none => cases known
    | some other =>
      cases known
      rfl
  obtain ⟨registrationValid, sequenceValid⟩ := validateHeartbeatRequest_ok.mp requestValid
  have passes : (RuntimeRequest.heartbeat request).Passes deployment heartbeatTtlMs := {
    expected := expectedValid
    registration := registrationValid
    sequence := sequenceValid
    server := serverValid
    asserted := asserted }
  refine ⟨deployment, isExpected, passes, ?_⟩
  cases current with
  | none => cases rest
  | some snapshot =>
    simp only [bind_eq_ok] at rest
    obtain ⟨_, _, _, _, decided⟩ := rest
    exact continueSession_ok decided

variable {request : RuntimeRequest}

theorem mutate_ok
    (answered : request.mutate expected current receivedAt heartbeatTtlMs = .ok result) :
    ∃ deployment, expected = some deployment ∧ request.Passes deployment heartbeatTtlMs ∧
      Answers request current receivedAt result := by
  cases request with
  | register request => exact registerRuntime_ok answered
  | heartbeat request => exact acceptRuntimeHeartbeat_ok answered

variable {deployment : ExpectedRuntimeInstance}

theorem mutate_same {heartbeatTtlMs : Int} (passes : request.Passes deployment heartbeatTtlMs)
    (valid : validateSnapshot snapshot = .ok ())
    (same : snapshot.toRuntimeRegistrationRequest = request.registration)
    (sameSequence : snapshot.heartbeatSequence = request.sequence) (receivedAt : Int) :
    request.mutate (some deployment) (some snapshot) receivedAt heartbeatTtlMs =
      .ok { outcome := .unchanged, registration := snapshot } := by
  have asserted : assertExpected deployment snapshot.toExpectedRuntimeInstance = .ok () := by
    rw [same]
    exact passes.asserted
  cases request with
  | register request =>
    change snapshot.toRuntimeRegistrationRequest = request at same
    have payload : registrationPayloadEqual snapshot request = true := decide_eq_true same
    have sameSession : snapshot.sessionId = request.sessionId := by rw [same]
    change registerRuntime (some deployment) (some snapshot) request receivedAt heartbeatTtlMs = _
    unfold registerRuntime
    simp only [bind_eq_ok]
    refine ⟨deployment, rfl, (), passes.expected, (), passes.registration, (), passes.server, (),
      passes.asserted, (), valid, (), asserted, ?_⟩
    rw [if_pos sameSession, if_pos payload]
  | heartbeat request =>
    change snapshot.toRuntimeRegistrationRequest = request.toRuntimeRegistrationRequest at same
    change snapshot.heartbeatSequence = request.sequence at sameSequence
    have payload : heartbeatPayloadEqual snapshot request = true := by
      unfold heartbeatPayloadEqual registrationPayloadEqual
      rw [decide_eq_true same, decide_eq_true sameSequence]
      rfl
    have sameSession : ¬ snapshot.sessionId ≠ request.sessionId := by
      rw [same]
      exact not_not.mpr rfl
    have notStale : ¬ request.sequence < snapshot.heartbeatSequence := by omega
    have requestValid : validateHeartbeatRequest request = .ok () :=
      validateHeartbeatRequest_ok.mpr ⟨passes.registration, passes.sequence⟩
    change acceptRuntimeHeartbeat (some deployment) (some snapshot) request receivedAt
      heartbeatTtlMs = _
    unfold acceptRuntimeHeartbeat
    simp only [bind_eq_ok]
    refine ⟨deployment, rfl, (), passes.expected, (), requestValid, (), passes.server, (),
      passes.asserted, (), valid, (), asserted, ?_⟩
    unfold continueSession
    rw [if_neg sameSession, if_neg notStale, if_pos sameSequence.symm, if_pos payload]

namespace RegistrationSystem

/-- A heartbeat carries on the session of the request accepted before it. -/
def Follows (newer older : Accepted) : Prop :=
  ∀ heartbeat, newer.request = .heartbeat heartbeat →
    older.request.registration.sessionId = heartbeat.sessionId ∧
      older.request.sequence < heartbeat.sequence ∧ older.receivedAt ≤ newer.receivedAt

structure Holds (system : RegistrationSystem) (newest : Accepted) (row : RuntimeRegistrationRow) :
    Prop where
  passes : newest.request.Passes system.deployment system.heartbeatTtlMs
  inScope : system.inScope newest.request.registration = true
  valid : validateRecordInput row = .ok ()
  sessionId : row.sessionId = newest.request.registration.sessionId
  protocolVersion : row.protocolVersion = newest.request.registration.protocolVersion
  sequence : row.heartbeatSequence = newest.request.sequence
  lastHeartbeatAt : row.lastHeartbeatAt = newest.receivedAt
  revision : row.revision + 1 = system.accepted.length
  runtimeVersion : system.process.runtimeVersion =
    some newest.request.registration.runtimeVersion
  configRevision : system.process.configRevision =
    some newest.request.registration.configRevision

structure Recorded (system : RegistrationSystem) : Prop where
  unregistered : system.accepted = [] → system.registration = none
  registered : ∀ newest earlier, system.accepted = newest :: earlier →
    ∃ row, system.registration = some row ∧ system.Holds newest row
  ordered : system.accepted.IsChain Follows
  recorders : ∀ recorder loaded, system.recorders.get? recorder = some loaded →
    loaded.observedRevision ≤ system.process.observedRevision ∧
      (loaded.observedRevision = system.process.observedRevision → loaded = system.process)

variable {row : RuntimeRegistrationRow}

theorem validateRecordInput_ok :
    validateRecordInput row = .ok () ↔
      row.registeredAt ≤ row.lastHeartbeatAt ∧ row.lastHeartbeatAt < row.expiresAt ∧
        nonNegativeInteger row.heartbeatSequence = true ∧
          nonNegativeInteger row.revision = true := by
  unfold validateRecordInput
  simp only [bind_eq_ok, require_ok, decide_eq_true_eq]
  constructor
  · rintro ⟨_, ordered, _, expires, _, sequence, revision⟩
    exact ⟨ordered, expires, sequence, revision⟩
  · rintro ⟨ordered, expires, sequence, revision⟩
    exact ⟨(), ordered, (), expires, (), sequence, revision⟩

theorem snapshot_valid
    (request : validateRegistrationRequest snapshot.toRuntimeRegistrationRequest = .ok ())
    (row : validateRecordInput (record snapshot) = .ok ()) :
    validateSnapshot snapshot = .ok () := by
  obtain ⟨ordered, expires, sequence, revision⟩ := validateRecordInput_ok.mp row
  unfold validateSnapshot
  rw [bind_eq_ok]
  refine ⟨(), request, ?_⟩
  rw [require_ok]
  simp only [Bool.and_eq_true, decide_eq_true_eq]
  exact ⟨⟨⟨sequence, revision⟩, ordered⟩, expires⟩

theorem readSnapshot_ok {process : RuntimeProcessRow}
    (read : readSnapshot deployment process row = .ok snapshot) :
    record snapshot = row ∧ snapshot.sessionId = row.sessionId := by
  unfold readSnapshot at read
  split at read
  · cases read
  · cases read
  · cases read
    exact ⟨rfl, rfl⟩

variable {system : RegistrationSystem} {newest : Accepted}

/-- The transaction reads what was accepted last, with the readiness of the process row. -/
theorem Holds.reads (holds : system.Holds newest row) (registered : system.registration = some row)
    (readiness : system.process.readinessState =
      some newest.request.registration.readinessState) :
    ∃ snapshot, system.current = .ok (some snapshot) ∧ record snapshot = row ∧
      snapshot.toRuntimeRegistrationRequest = newest.request.registration := by
  have scope := holds.inScope
  simp only [RegistrationSystem.inScope, Bool.and_eq_true, beq_iff_eq] at scope
  obtain ⟨⟨sameProvider, sameDeployment⟩, sameInstance⟩ := scope
  unfold RegistrationSystem.current
  rw [registered]
  simp only [readSnapshot, holds.runtimeVersion, readiness, holds.configRevision]
  refine ⟨_, rfl, rfl, ?_⟩
  change ({
    providerId := system.deployment.providerId
    deploymentId := system.deployment.deploymentId
    instanceId := system.deployment.instanceId
    runtimeVersion := newest.request.registration.runtimeVersion
    protocolVersion := row.protocolVersion
    sessionId := row.sessionId
    configRevision := newest.request.registration.configRevision
    readinessState := newest.request.registration.readinessState } :
      RuntimeRegistrationRequest) = newest.request.registration
  rw [holds.protocolVersion, holds.sessionId, ← sameProvider, ← sameDeployment, ← sameInstance]

/-- A retransmission of the newest accepted request is answered without a change. -/
theorem Recorded.replays (recorded : system.Recorded) {earlier : List Accepted}
    (accepted : system.accepted = newest :: earlier) (readiness : system.process.readinessState =
      some newest.request.registration.readinessState) (receivedAt : Int) :
    ∃ snapshot, system.transaction newest.request receivedAt =
      .ok ({ outcome := .unchanged, registration := snapshot }, system) := by
  obtain ⟨row, registered, holds⟩ := recorded.registered newest earlier accepted
  obtain ⟨snapshot, read, isRow, sameRequest⟩ := holds.reads registered readiness
  have valid : validateSnapshot snapshot = .ok () := by
    apply snapshot_valid
    · rw [sameRequest]
      exact holds.passes.registration
    · rw [isRow]
      exact holds.valid
  have sameSequence : snapshot.heartbeatSequence = newest.request.sequence := by
    rw [← holds.sequence, ← isRow]
    rfl
  have found := mutate_same holds.passes valid sameRequest sameSequence receivedAt
  refine ⟨snapshot, ?_⟩
  unfold transaction
  rw [if_pos holds.inScope, read]
  change (newest.request.mutate (some system.deployment) (some snapshot) receivedAt
    system.heartbeatTtlMs >>= _) = _
  rw [found]
  rfl

variable {receivedAt : Int}

theorem transaction_ok {system later : RegistrationSystem}
    (committed : system.transaction request receivedAt = .ok (result, later)) :
    result.outcome = .unchanged ∧ later = system ∨
      result.outcome ≠ .unchanged ∧ system.inScope request.registration = true ∧
        request.Passes system.deployment system.heartbeatTtlMs ∧
          validateRecordInput (record result.registration) = .ok () ∧
            (∃ current, system.current = .ok current ∧
              Changes request current receivedAt result.registration) ∧
                later = system.write request receivedAt result := by
  unfold transaction at committed
  split at committed
  · rename_i inScope
    simp only [bind_eq_ok] at committed
    obtain ⟨current, read, answer, answered, rest⟩ := committed
    obtain ⟨deployment, same, passes, answers⟩ := mutate_ok answered
    cases same
    split at rest
    · rename_i unchanged
      cases rest
      exact Or.inl ⟨unchanged, rfl⟩
    · rename_i changed
      rw [bind_eq_ok] at rest
      obtain ⟨_, valid, written⟩ := rest
      cases written
      cases answers with
      | found unchanged _ => exact absurd unchanged changed
      | accepted _ changes =>
        exact Or.inr ⟨changed, inScope, passes, valid, ⟨current, read, changes⟩, rfl⟩
  · rw [bind_eq_ok] at committed
    obtain ⟨answer, answered, _⟩ := committed
    obtain ⟨deployment, impossible, _⟩ := mutate_ok answered
    cases impossible

theorem Recorded.current_of (recorded : system.Recorded) (read : system.current = .ok current) :
    (current.elim (-1) fun snapshot => snapshot.revision) + 1 = system.accepted.length ∧
      ∀ snapshot, current = some snapshot → ∃ newest earlier,
        system.accepted = newest :: earlier ∧
          snapshot.sessionId = newest.request.registration.sessionId ∧
            snapshot.heartbeatSequence = newest.request.sequence ∧
              snapshot.lastHeartbeatAt = newest.receivedAt := by
  unfold RegistrationSystem.current at read
  cases accepted : system.accepted with
  | nil =>
    rw [recorded.unregistered accepted] at read
    cases read
    constructor
    · rfl
    · intro snapshot isSome
      cases isSome
  | cons newest earlier =>
    obtain ⟨row, registered, holds⟩ := recorded.registered newest earlier accepted
    rw [registered] at read
    cases joined : readSnapshot system.deployment system.process row with
    | error failure =>
      simp only [joined] at read
      cases read
    | ok snapshot =>
      simp only [joined] at read
      cases read
      obtain ⟨isRow, sameSession⟩ := readSnapshot_ok joined
      have revision := holds.revision
      rw [accepted] at revision
      constructor
      · rw [← revision, ← isRow]
        rfl
      · intro other isSnapshot
        cases isSnapshot
        refine ⟨newest, earlier, rfl, ?_, ?_, ?_⟩
        · rw [sameSession, holds.sessionId]
        · rw [← holds.sequence, ← isRow]
          rfl
        · rw [← holds.lastHeartbeatAt, ← isRow]
          rfl

theorem Recorded.write (recorded : system.Recorded)
    (inScope : system.inScope request.registration = true)
    (passes : request.Passes system.deployment system.heartbeatTtlMs)
    (valid : validateRecordInput (record result.registration) = .ok ())
    (read : system.current = .ok current)
    (changes : Changes request current receivedAt result.registration) :
    (system.write request receivedAt result).Recorded := by
  obtain ⟨revision, ofSome⟩ := recorded.current_of read
  have sameRequest := changes.sameRequest
  constructor
  · intro accepted
    cases accepted
  · intro newest earlier accepted
    cases accepted
    refine ⟨_, rfl, ?_⟩
    exact {
      passes := passes
      inScope := inScope
      valid := valid
      sessionId := by rw [← sameRequest]; rfl
      protocolVersion := by rw [← sameRequest]; rfl
      sequence := changes.sequence
      lastHeartbeatAt := changes.lastHeartbeatAt
      revision := by
        change result.registration.revision + 1 = ((system.accepted.length + 1 : Nat) : Int)
        rw [changes.revision, revision]
        rfl
      runtimeVersion := by rw [← sameRequest]; rfl
      configRevision := by rw [← sameRequest]; rfl }
  · change List.IsChain Follows ({ request := request, receivedAt := receivedAt } ::
      system.accepted)
    cases accepted : system.accepted with
    | nil => exact List.IsChain.singleton _
    | cons newest earlier =>
      have ordered := recorded.ordered
      rw [accepted] at ordered
      apply List.IsChain.cons_cons _ ordered
      intro heartbeat isHeartbeat
      obtain ⟨snapshot, isSome, sameSession, further, later⟩ :=
        changes.follows heartbeat isHeartbeat
      obtain ⟨head, tail, same, session, sequence, heartbeatAt⟩ := ofSome snapshot isSome
      rw [accepted] at same
      cases same
      rw [← session, ← sequence, ← heartbeatAt]
      exact ⟨sameSession, further, later⟩
  · intro recorder loaded found
    have bounded := (recorded.recorders recorder loaded found).1
    change loaded.observedRevision ≤ system.process.observedRevision + 1 ∧
      (loaded.observedRevision = system.process.observedRevision + 1 → _)
    constructor
    · omega
    · intro same
      omega

theorem Recorded.audited (recorded : system.Recorded) (audit : List RegistrationAudit) :
    ({ system with audit := audit } : RegistrationSystem).Recorded := {
  unregistered := recorded.unregistered
  registered := by
    intro newest earlier accepted
    obtain ⟨row, registered, holds⟩ := recorded.registered newest earlier accepted
    exact ⟨row, registered, { holds with }⟩
  ordered := recorded.ordered
  recorders := recorded.recorders }

theorem Recorded.execute (recorded : system.Recorded) (request : RuntimeRequest) (receivedAt : Int)
    (auditStored : Bool) :
    (system.execute request receivedAt auditStored).2.Recorded := by
  unfold RegistrationSystem.execute
  split
  · rename_i result later committed
    rcases transaction_ok committed with ⟨_, same⟩ |
      ⟨_, inScope, passes, valid, ⟨current, read, changes⟩, written⟩
    · rw [same]
      exact recorded
    · rw [written]
      exact recorded.write inScope passes valid read changes
  · cases auditStored with
    | true => exact recorded.audited _
    | false => exact recorded
  · exact recorded

/-- A health recording leaves what was registered; it writes only the row it has read. -/
theorem Recorded.saveHealth (recorded : system.Recorded) {recorder : Nat}
    {loaded : RuntimeProcessRow} (found : system.recorders.get? recorder = some loaded)
    (result : HealthResult) :
    (system.saveHealth loaded result).Recorded := by
  unfold RegistrationSystem.saveHealth
  split
  · exact recorded
  · split
    · rename_i sameRevision
      have isProcess := (recorded.recorders recorder loaded found).2 sameRevision.symm
      subst isProcess
      constructor
      · exact recorded.unregistered
      · intro newest earlier accepted
        obtain ⟨row, registered, holds⟩ := recorded.registered newest earlier accepted
        exact ⟨row, registered, { holds with }⟩
      · exact recorded.ordered
      · intro other read otherFound
        have bounded := (recorded.recorders other read otherFound).1
        constructor
        · exact Nat.le_succ_of_le bounded
        · intro same
          change read.observedRevision = system.process.observedRevision + 1 at same
          omega
    · exact recorded

theorem Recorded.next (recorded : system.Recorded) (event : Event) :
    (system.next event).Recorded := by
  cases event with
  | receive request receivedAt auditStored =>
    exact recorded.execute request receivedAt auditStored
  | loadHealth recorder =>
    constructor
    · exact recorded.unregistered
    · intro newest earlier accepted
      obtain ⟨row, registered, holds⟩ := recorded.registered newest earlier accepted
      exact ⟨row, registered, { holds with }⟩
    · exact recorded.ordered
    · intro other loaded found
      simp only [RegistrationSystem.next, OrderedMap.get?_set] at found
      split at found
      · cases found
        exact ⟨Nat.le_refl _, fun _ => rfl⟩
      · exact recorded.recorders other loaded found
  | saveHealth recorder result =>
    simp only [RegistrationSystem.next]
    cases found : system.recorders.get? recorder with
    | none => exact recorded
    | some loaded => exact recorded.saveHealth found result

theorem initial_recorded (deployment : ExpectedRuntimeInstance) (heartbeatTtlMs : Int)
    (process : RuntimeProcessRow) : (initial deployment heartbeatTtlMs process).Recorded := by
  constructor
  · exact fun _ => rfl
  · intro newest earlier accepted
    cases accepted
  · exact List.IsChain.nil
  · intro recorder loaded found
    cases found

/-- What a registered instance promises of a state and of the next request. -/
structure SessionHolds (system : RegistrationSystem) : Prop where
  replay : ∀ newest earlier, system.accepted = newest :: earlier →
    system.process.readinessState = some newest.request.registration.readinessState →
      ∀ receivedAt auditStored, ∃ registration,
        system.execute newest.request receivedAt auditStored =
          (.ok { outcome := .unchanged, registration := registration }, system)
  current : ∀ newest earlier, system.accepted = newest :: earlier →
    ∃ row, system.registration = some row ∧
      row.sessionId = newest.request.registration.sessionId ∧
        row.heartbeatSequence = newest.request.sequence ∧
          row.lastHeartbeatAt = newest.receivedAt ∧ row.revision + 1 = system.accepted.length
  ordered : system.accepted.IsChain Follows
  changes : ∀ request receivedAt auditStored result,
    (system.execute request receivedAt auditStored).1 = .ok result →
      result.outcome ≠ .unchanged →
        (system.execute request receivedAt auditStored).2.accepted =
          { request := request, receivedAt := receivedAt } :: system.accepted
  keeps : ∀ request receivedAt auditStored,
    (∀ result, (system.execute request receivedAt auditStored).1 = .ok result →
      result.outcome = .unchanged) →
        (system.execute request receivedAt auditStored).2.registration = system.registration ∧
          (system.execute request receivedAt auditStored).2.process = system.process ∧
            (system.execute request receivedAt auditStored).2.accepted = system.accepted

theorem Recorded.sessionHolds (recorded : system.Recorded) :
    system.SessionHolds := by
  constructor
  · intro newest earlier accepted readiness receivedAt auditStored
    obtain ⟨snapshot, found⟩ := recorded.replays accepted readiness receivedAt
    refine ⟨snapshot, ?_⟩
    unfold RegistrationSystem.execute
    rw [found]
  · intro newest earlier accepted
    obtain ⟨row, registered, holds⟩ := recorded.registered newest earlier accepted
    exact ⟨row, registered, holds.sessionId, holds.sequence, holds.lastHeartbeatAt,
      holds.revision⟩
  · exact recorded.ordered
  · intro request receivedAt auditStored result answered changed
    unfold RegistrationSystem.execute at answered ⊢
    split at answered
    · rename_i later committed
      cases answered
      rcases transaction_ok committed with ⟨unchanged, _⟩ | ⟨_, _, _, _, _, written⟩
      · exact absurd unchanged changed
      · simp only [written]
        rfl
    · cases answered
    · cases answered
  · intro request receivedAt auditStored unchanged
    unfold RegistrationSystem.execute at unchanged ⊢
    split at unchanged
    · rename_i result later committed
      rcases transaction_ok committed with ⟨_, same⟩ | ⟨changed, _⟩
      · simp only [same, and_self]
      · exact absurd (unchanged result rfl) changed
    · cases auditStored with
      | true => exact ⟨rfl, rfl, rfl⟩
      | false => exact ⟨rfl, rfl, rfl⟩
    · exact ⟨rfl, rfl, rfl⟩

/-- In any history of requests and health recordings: the newest accepted request is found
unchanged while its readiness stands, the accepted requests of a session climb, and each raises the
revision by one. -/
theorem sessions_hold (deployment : ExpectedRuntimeInstance) (heartbeatTtlMs : Int)
    (process : RuntimeProcessRow) (events : List Event) :
    (Histories.after RegistrationSystem.next (initial deployment heartbeatTtlMs process)
      events).SessionHolds := by
  apply Recorded.sessionHolds
  apply Histories.always
  · intro system event recorded
    exact recorded.next event
  · exact initial_recorded deployment heartbeatTtlMs process

private def expectedInstance : ExpectedRuntimeInstance := {
  providerId := "provider-a"
  deploymentId := "deployment-1"
  instanceId := "instance-1"
  runtimeVersion := "0.1.0"
  protocolVersion := "2025-11-25"
}

private def registrationOf (sessionId : String) : RuntimeRequest := .register {
  toExpectedRuntimeInstance := expectedInstance
  sessionId := sessionId
  configRevision := 7
  readinessState := .notReady
}

private def allocated : RuntimeProcessRow := {
  processState := .missing
  live := none
  readinessState := none
  registered := false
  lastHeartbeatAt := none
  runtimeVersion := none
  configRevision := none
  observedRevision := 0
}

private def fresh : RegistrationSystem := initial expectedInstance 30000 allocated

private def observedReady : RegistrationSystem := Histories.after RegistrationSystem.next fresh [
  .receive (registrationOf "session-1") 0 true,
  .loadHealth 0,
  .saveHealth 0 { processState := .online, live := true, ready := true }]

private def restarted : RegistrationSystem := Histories.after RegistrationSystem.next fresh [
  .receive (registrationOf "session-1") 0 true,
  .receive (registrationOf "session-2") 1000 true]

/-- The same registration conflicts once the process was seen ready, and a late copy of the first
registration takes the place of the second session. -/
theorem retransmissions_conflict_and_displace :
    (observedReady.accepted.head?.map fun newest => newest.request) =
        some (registrationOf "session-1") ∧
      (observedReady.execute (registrationOf "session-1") 1000 true).1 =
        .error (.rejected "RUNTIME_REGISTRATION_REPLAY_CONFLICT" none) ∧
      (restarted.registration.map fun row => row.sessionId) = some "session-2" ∧
      ((restarted.execute (registrationOf "session-1") 2000 true).2.registration.map
        fun row => row.sessionId) = some "session-1" := by
  decide +kernel

end RegistrationSystem


end Registration

end SdarRuntime
