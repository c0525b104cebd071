import SdarRuntime.Domain.Time
import SdarRuntime.Library.Json
import SdarRuntime.Library.OrderedMap
import SdarRuntime.Library.Outcomes

/-!
The journal of the mutations a provider sends to its device. A worker claims the entry of a
step before it dispatches, and moves it on as the dispatch goes. Both stores are modelled: the
database, where an advance reads, checks and then updates under a guard, and the one in memory.
-/

namespace SdarRuntime

open Program

inductive MutationJournalPhase where
  | primary
  | followup
  | pause
  | resume
  | cancel
  | emergencyStop
  | cleanup
  deriving DecidableEq

inductive MutationJournalState where
  | intentPersisted
  | dispatching
  | accepted
  | rejected
  | uncertain
  deriving DecidableEq

structure MutationJournalEntry where
  taskId : String
  stepId : String
  phase : MutationJournalPhase
  toolName : String
  argumentHash : String
  state : MutationJournalState
  externalMissionId : Option String
  resultHash : Option String
  intentPersistedAt : String
  dispatchedAt : Option String
  completedAt : Option String
  deriving DecidableEq

structure MutationJournalClaim where
  claimed : Bool
  record : MutationJournalEntry
  deriving DecidableEq

namespace MutationJournal

def transitions : MutationJournalState → List MutationJournalState
  | .intentPersisted => [.dispatching]
  | .dispatching => [.accepted, .rejected, .uncertain]
  | .accepted | .rejected | .uncertain => []

def require (condition : Bool) (message : String) : Except String Unit :=
  if condition then .ok () else .error message

def isIdentifier (text : String) : Bool :=
  0 < text.toList.length && text.toList.length ≤ 256 &&
    text.toList.all fun char => char.isAlphanum || char ∈ ['.', '_', ':', '-']

def isSha256 (text : String) : Bool :=
  text.toList.length == 64 &&
    text.toList.all fun char => char.isDigit || decide ('a' ≤ char ∧ char ≤ 'f')

section Checks

-- `Date.parse`, in milliseconds.
variable (parseDate : String → Option Int)

def timestamp (value field : String) : Except String Int :=
  match parseDate value with
  | some parsed =>
    if Instant.toISOString (1000 * parsed) = value then .ok parsed
    else .error ("MUTATION_JOURNAL_" ++ field ++ "_INVALID")
  | none => .error ("MUTATION_JOURNAL_" ++ field ++ "_INVALID")

def optionalTimestamp (value : Option String) (field : String) : Except String (Option Int) :=
  match value with
  | some text => (timestamp parseDate text field).map some
  | none => .ok none

def assertMutationJournalEntry (entry : MutationJournalEntry) : Except String Unit := do
  require (isIdentifier entry.taskId) "MUTATION_JOURNAL_TASK_ID_INVALID"
  require (isIdentifier entry.stepId) "MUTATION_JOURNAL_STEP_ID_INVALID"
  require (isIdentifier entry.toolName) "MUTATION_JOURNAL_TOOL_NAME_INVALID"
  require (isSha256 entry.argumentHash) "MUTATION_JOURNAL_ARGUMENT_HASH_INVALID"
  require (entry.resultHash.all isSha256) "MUTATION_JOURNAL_RESULT_HASH_INVALID"
  require (entry.externalMissionId.all fun mission =>
      0 < (Json.utf16 mission).length && (Json.utf16 mission).length ≤ 256)
    "MUTATION_JOURNAL_EXTERNAL_MISSION_ID_INVALID"
  let intentAt ← timestamp parseDate entry.intentPersistedAt "INTENT_PERSISTED_AT"
  let dispatchedAt ← optionalTimestamp parseDate entry.dispatchedAt "DISPATCHED_AT"
  let completedAt ← optionalTimestamp parseDate entry.completedAt "COMPLETED_AT"
  require (dispatchedAt.all fun dispatched => intentAt ≤ dispatched)
    "MUTATION_JOURNAL_TIMESTAMP_ORDER_INVALID"
  require (completedAt.all fun completed => dispatchedAt.any fun dispatched =>
      dispatched ≤ completed)
    "MUTATION_JOURNAL_TIMESTAMP_ORDER_INVALID"
  require (entry.state != .intentPersisted || (dispatchedAt.isNone && completedAt.isNone))
    "MUTATION_JOURNAL_INTENT_TIMESTAMPS_INVALID"
  require (entry.state != .dispatching || (dispatchedAt.isSome && completedAt.isNone))
    "MUTATION_JOURNAL_DISPATCH_TIMESTAMPS_INVALID"
  require (!(entry.state ∈ [.accepted, .rejected, .uncertain]) ||
      (dispatchedAt.isSome && completedAt.isSome))
    "MUTATION_JOURNAL_COMPLETION_TIMESTAMPS_INVALID"

def sameMutationJournalIdentity (left right : MutationJournalEntry) : Bool :=
  left.taskId == right.taskId && left.stepId == right.stepId && left.phase == right.phase &&
    left.toolName == right.toolName && left.argumentHash == right.argumentHash &&
    left.intentPersistedAt == right.intentPersistedAt

def assertMutationJournalTransition (current next : MutationJournalEntry)
    (expectedState : MutationJournalState) : Except String Unit := do
  assertMutationJournalEntry parseDate current
  assertMutationJournalEntry parseDate next
  require (current.state == expectedState) "MUTATION_JOURNAL_EXPECTED_STATE_MISMATCH"
  require (sameMutationJournalIdentity current next) "MUTATION_JOURNAL_IDENTITY_CONFLICT"
  require (next.state ∈ transitions current.state) "MUTATION_JOURNAL_STATE_TRANSITION_INVALID"

end Checks

def entryTexts (entry : MutationJournalEntry) : List (String × Option String) :=
  [("taskId", some entry.taskId), ("stepId", some entry.stepId),
    ("toolName", some entry.toolName), ("argumentHash", some entry.argumentHash),
    ("externalMissionId", entry.externalMissionId), ("resultHash", entry.resultHash),
    ("intentPersistedAt", some entry.intentPersistedAt), ("dispatchedAt", entry.dispatchedAt),
    ("completedAt", entry.completedAt)]

def assertPostgresJsonbSafe (entry : MutationJournalEntry) : Except String Unit :=
  match (entryTexts entry).find? fun field =>
    field.2.any fun text => text.toList.contains (Char.ofNat 0) with
  | some (field, _) => .error ("PROVIDER_STORE_JSONB_UNSAFE_PAYLOAD root=mutationJournal path=$/" ++
      field ++ " kind=nul_string")
  | none => .ok ()

/-! ### Stores -/

structure Row where
  phase : MutationJournalPhase
  toolName : String
  argumentHash : String
  state : MutationJournalState
  externalMissionId : Option String
  resultHash : Option String
  intentPersistedAt : String
  dispatchedAt : Option String
  completedAt : Option String
  payload : MutationJournalEntry
  deriving DecidableEq

def journalValues (entry : MutationJournalEntry) : Row :=
  { phase := entry.phase
    toolName := entry.toolName
    argumentHash := entry.argumentHash
    state := entry.state
    externalMissionId := entry.externalMissionId
    resultHash := entry.resultHash
    intentPersistedAt := entry.intentPersistedAt
    dispatchedAt := entry.dispatchedAt
    completedAt := entry.completedAt
    payload := entry }

/-- The rows of the database by task and step, and the entries in memory by their key. -/
structure Storage where
  rows : OrderedMap (String × String) Row
  entries : OrderedMap String MutationJournalEntry

def Storage.empty : Storage :=
  { rows := .empty
    entries := .empty }

def journalKey (taskId stepId : String) : String :=
  taskId ++ String.singleton (Char.ofNat 0) ++ stepId

/-- The transactions of both stores. Those of the database are its statements; an operation in
memory is one transaction. -/
inductive Statement : Type → Type where
  | insert (entry : MutationJournalEntry) : Statement (Option MutationJournalEntry)
  | select (taskId stepId : String) : Statement (Option MutationJournalEntry)
  | update (entry : MutationJournalEntry) (expectedState : MutationJournalState) : Statement Bool
  | claimInMemory (entry : MutationJournalEntry) : Statement MutationJournalClaim
  | advanceInMemory (entry : MutationJournalEntry) (expectedState : MutationJournalState) :
      Statement Bool

def Row.admits (row : Row) (entry : MutationJournalEntry) (expectedState : MutationJournalState) :
    Bool :=
  row.phase == entry.phase && row.toolName == entry.toolName &&
    row.argumentHash == entry.argumentHash && row.state == expectedState &&
    row.intentPersistedAt == entry.intentPersistedAt

def Row.updated (row : Row) (entry : MutationJournalEntry) : Row :=
  { row with
    state := entry.state
    externalMissionId := entry.externalMissionId
    resultHash := entry.resultHash
    dispatchedAt := entry.dispatchedAt
    completedAt := entry.completedAt
    payload := entry }

section Execution

variable (parseDate : String → Option Int)

def claimInMemory (executionExists : Bool) (entry : MutationJournalEntry) (storage : Storage) :
    Except String (MutationJournalClaim × Storage) := do
  assertMutationJournalEntry parseDate entry
  require (entry.state == .intentPersisted) "MUTATION_JOURNAL_INTENT_STATE_REQUIRED"
  require executionExists "MUTATION_JOURNAL_EXECUTION_REQUIRED"
  match storage.entries.get? (journalKey entry.taskId entry.stepId) with
  | some existing =>
    require (sameMutationJournalIdentity existing entry) "MUTATION_JOURNAL_IDENTITY_CONFLICT"
    .ok ({ claimed := false, record := existing }, storage)
  | none =>
    .ok ({ claimed := true, record := entry }, { storage with
      entries := storage.entries.set (journalKey entry.taskId entry.stepId) entry })

def advanceInMemory (entry : MutationJournalEntry) (expectedState : MutationJournalState)
    (storage : Storage) : Except String (Bool × Storage) :=
  match storage.entries.get? (journalKey entry.taskId entry.stepId) with
  | none => .error "MUTATION_JOURNAL_INTENT_REQUIRED"
  | some existing => do
    require (sameMutationJournalIdentity existing entry) "MUTATION_JOURNAL_IDENTITY_CONFLICT"
    if existing.state = expectedState then do
      assertMutationJournalTransition parseDate existing entry expectedState
      .ok (true, { storage with
        entries := storage.entries.set (journalKey entry.taskId entry.stepId) entry })
    else .ok (false, storage)

def settle {β : Type} (storage : Storage) :
    Except String (β × Storage) → Except String β × Storage
  | .ok (answer, after) => (.ok answer, after)
  | .error failure => (.error failure, storage)

/-- Run one transaction. An execution that is not there fails the foreign key of an insert. -/
def Statement.exec {β : Type} (statement : Statement β) (executionExists : Bool)
    (storage : Storage) : Except String β × Storage :=
  match statement with
  | .insert entry =>
    match storage.rows.get? (entry.taskId, entry.stepId) with
    | some _ => (.ok none, storage)
    | none =>
      if executionExists then
        (.ok (some entry), { storage with
          rows := storage.rows.set (entry.taskId, entry.stepId) (journalValues entry) })
      else (.error "foreign_key_violation", storage)
  | .select taskId stepId => (.ok ((storage.rows.get? (taskId, stepId)).map Row.payload), storage)
  | .update entry expectedState =>
    match storage.rows.get? (entry.taskId, entry.stepId) with
    | some row =>
      if row.admits entry expectedState then
        (.ok true, { storage with
          rows := storage.rows.set (entry.taskId, entry.stepId) (row.updated entry) })
      else (.ok false, storage)
    | none => (.ok false, storage)
  | .claimInMemory entry =>
    settle storage
      (SdarRuntime.MutationJournal.claimInMemory parseDate executionExists entry storage)
  | .advanceInMemory entry expectedState =>
    settle storage
      (SdarRuntime.MutationJournal.advanceInMemory parseDate entry expectedState storage)

end Execution

/-! ### Workers -/

inductive NoRequest : Type → Type

abbrev JournalProgram (α : Type) : Type 1 := Program Statement NoRequest String α

section Programs

variable (parseDate : String → Option Int)

def claimMutationJournal (entry : MutationJournalEntry) : JournalProgram MutationJournalClaim := do
  .ofExcept (assertMutationJournalEntry parseDate entry)
  .ofExcept (assertPostgresJsonbSafe entry)
  .ofExcept (require (entry.state == .intentPersisted) "MUTATION_JOURNAL_INTENT_STATE_REQUIRED")
  let inserted ← .exec (.insert entry)
  match inserted with
  | some record => pure { claimed := true, record := record }
  | none => do
    let existing ← .exec (.select entry.taskId entry.stepId)
    match existing with
    | none => .fail "MUTATION_JOURNAL_CLAIM_LOST"
    | some record => do
      .ofExcept (require (sameMutationJournalIdentity record entry)
        "MUTATION_JOURNAL_IDENTITY_CONFLICT")
      pure { claimed := false, record := record }

def advanceMutationJournal (entry : MutationJournalEntry)
    (expectedState : MutationJournalState) : JournalProgram Bool := do
  .ofExcept (assertPostgresJsonbSafe entry)
  let existing ← .exec (.select entry.taskId entry.stepId)
  match existing with
  | none => .fail "MUTATION_JOURNAL_INTENT_REQUIRED"
  | some existing => do
    .ofExcept (require (sameMutationJournalIdentity existing entry)
      "MUTATION_JOURNAL_IDENTITY_CONFLICT")
    if existing.state = expectedState then do
      .ofExcept (assertMutationJournalTransition parseDate existing entry expectedState)
      .exec (.update entry expectedState)
    else pure false

inductive Backend where
  | postgres
  | memory
  deriving DecidableEq

inductive Call where
  | claim (entry : MutationJournalEntry)
  | advance (entry : MutationJournalEntry) (expectedState : MutationJournalState)

inductive Outcome where
  | claimed (entry : MutationJournalEntry) (claim : MutationJournalClaim)
  | advanced (entry : MutationJournalEntry) (expectedState : MutationJournalState)
      (success : Bool)

def Call.program (backend : Backend) : ULift Call → JournalProgram Outcome
  | ⟨.claim entry⟩ => do
    let claim ← match backend with
      | .postgres => claimMutationJournal parseDate entry
      | .memory => .exec (.claimInMemory entry)
    pure (.claimed entry claim)
  | ⟨.advance entry expectedState⟩ => do
    let success ← match backend with
      | .postgres => advanceMutationJournal parseDate entry expectedState
      | .memory => .exec (.advanceInMemory entry expectedState)
    pure (.advanced entry expectedState success)

def machine : Machine Statement NoRequest String Storage Bool Unit :=
  { exec := fun statement executionExists storage => statement.exec parseDate executionExists storage
    accept := fun call _ => nomatch call }

end Programs

abbrev Workers : Type 1 := System Statement NoRequest String Storage Outcome

abbrev WorkerLabel : Type 1 := Label (ULift Call) String Bool Unit

def initial : Workers := System.initial Storage.empty

def Storage.entryAt (backend : Backend) (storage : Storage) (taskId stepId : String) :
    Option MutationJournalEntry :=
  match backend with
  | .postgres => (storage.rows.get? (taskId, stepId)).map Row.payload
  | .memory => storage.entries.get? (journalKey taskId stepId)

def Outcome.claims (taskId stepId : String) : Outcome → Bool
  | .claimed entry claim => claim.claimed && entry.taskId == taskId && entry.stepId == stepId
  | .advanced .. => false

def Outcome.dispatches (taskId stepId : String) : Outcome → Bool
  | .claimed .. => false
  | .advanced entry expectedState success =>
    success && expectedState == .intentPersisted && entry.taskId == taskId &&
      entry.stepId == stepId

/-! ### What a transaction does to an entry -/

/-- An entry stays, is claimed, or goes on to a state that may follow. -/
inductive Moves : Option MutationJournalEntry → Option MutationJournalEntry → Prop where
  | stay (entry : Option MutationJournalEntry) : Moves entry entry
  | claim (entry : MutationJournalEntry) (intent : entry.state = .intentPersisted) :
      Moves none (some entry)
  | advance (current next : MutationJournalEntry)
      (same : sameMutationJournalIdentity current next = true)
      (follows : next.state ∈ transitions current.state) : Moves (some current) (some next)

/-- The columns of every row are those of its entry, under its task and step. -/
def Storage.Consistent (storage : Storage) : Prop :=
  ∀ taskId stepId row, storage.rows.get? (taskId, stepId) = some row →
    ∃ entry, row = journalValues entry ∧ entry.taskId = taskId ∧ entry.stepId = stepId

def Statement.Issued (backend : Backend) {β : Type} : Statement β → Prop
  | .insert entry => backend = .postgres ∧ entry.state = .intentPersisted
  | .select _ _ => backend = .postgres
  | .update entry expectedState => backend = .postgres ∧ entry.state ∈ transitions expectedState
  | .claimInMemory _ => backend = .memory
  | .advanceInMemory _ _ => backend = .memory

/-- The answer of the last transaction of a call, and what the call answers then. -/
def Final {β : Type} : Statement β → β → Outcome → Prop
  | .insert entry, answer, outcome => ∃ record, answer = some record ∧
      outcome = .claimed entry { claimed := true, record := record }
  | .select _ _, _, outcome =>
    (∃ entry record, outcome = .claimed entry { claimed := false, record := record }) ∨
      ∃ entry expectedState, outcome = .advanced entry expectedState false
  | .update entry expectedState, answer, outcome => outcome = .advanced entry expectedState answer
  | .claimInMemory entry, answer, outcome => outcome = .claimed entry answer
  | .advanceInMemory entry expectedState, answer, outcome =>
    outcome = .advanced entry expectedState answer

variable {value : Unit}

theorem require_ok {condition : Bool} {message : String}
    (passed : require condition message = .ok value) : condition = true := by
  unfold require at passed
  split at passed
  · assumption
  · cases passed

variable {current next : MutationJournalEntry} {expectedState : MutationJournalState}

theorem assertMutationJournalTransition_ok {parseDate : String → Option Int}
    (passed : assertMutationJournalTransition parseDate current next expectedState = .ok value) :
    current.state = expectedState ∧ next.state ∈ transitions current.state := by
  unfold assertMutationJournalTransition at passed
  cases currentValid : assertMutationJournalEntry parseDate current with
  | error failure => simp [currentValid, bind, Except.bind] at passed
  | ok _ =>
  cases nextValid : assertMutationJournalEntry parseDate next with
  | error failure => simp [currentValid, nextValid, bind, Except.bind] at passed
  | ok _ =>
  simp only [currentValid, nextValid, bind, Except.bind, require] at passed
  by_cases expected : current.state = expectedState
  · by_cases follows : next.state ∈ transitions current.state
    · exact ⟨expected, follows⟩
    · by_cases same : sameMutationJournalIdentity current next = true <;>
        simp [expected, same, expected ▸ follows] at passed
  · simp [expected] at passed

theorem update_admitted (sameTask : current.taskId = next.taskId)
    (sameStep : current.stepId = next.stepId)
    (admits : (journalValues current).admits next expectedState = true) :
    (journalValues current).updated next = journalValues next ∧
      current.state = expectedState ∧ sameMutationJournalIdentity current next = true := by
  simp only [Row.admits, journalValues, Bool.and_eq_true, beq_iff_eq] at admits
  obtain ⟨⟨⟨⟨phase, toolName⟩, argumentHash⟩, state⟩, intentPersistedAt⟩ := admits
  refine ⟨?_, state, ?_⟩
  · simp [Row.updated, journalValues, phase, toolName, argumentHash, intentPersistedAt]
  · simp [sameMutationJournalIdentity, sameTask, sameStep, phase, toolName, argumentHash,
      intentPersistedAt]

theorem Storage.Consistent.set {storage : Storage} (consistent : storage.Consistent)
    (entry : MutationJournalEntry) :
    Storage.Consistent { storage with
      rows := storage.rows.set (entry.taskId, entry.stepId) (journalValues entry) } := by
  intro taskId stepId row found
  rw [OrderedMap.get?_set] at found
  by_cases same : (taskId, stepId) = (entry.taskId, entry.stepId)
  · rw [if_pos same] at found
    cases found
    cases same
    exact ⟨entry, rfl, rfl, rfl⟩
  · rw [if_neg same] at found
    exact consistent taskId stepId row found

theorem Storage.Consistent.remember {storage : Storage} (consistent : storage.Consistent)
    (entry : MutationJournalEntry) :
    Storage.Consistent { storage with
      entries := storage.entries.set (journalKey entry.taskId entry.stepId) entry } :=
  consistent

section Moves

variable {parseDate : String → Option Int} {storage : Storage}

variable {entry : MutationJournalEntry} {after : Storage}

theorem claimInMemory_cases {executionExists : Bool} {claim : MutationJournalClaim}
    (claims : claimInMemory parseDate executionExists entry storage = .ok (claim, after)) :
    (claim.claimed = false ∧ after = storage) ∨
      (entry.state = .intentPersisted ∧ claim = { claimed := true, record := entry } ∧
        storage.entries.get? (journalKey entry.taskId entry.stepId) = none ∧
        after = { storage with
          entries := storage.entries.set (journalKey entry.taskId entry.stepId) entry }) := by
  unfold claimInMemory at claims
  cases valid : assertMutationJournalEntry parseDate entry with
  | error failure => simp [valid, bind, Except.bind] at claims
  | ok _ =>
  by_cases intent : entry.state = .intentPersisted
  · cases executionExists with
    | false => simp [valid, intent, require, bind, Except.bind] at claims
    | true =>
      simp only [valid, intent, require, bind, Except.bind, beq_self_eq_true, if_true] at claims
      cases found : storage.entries.get? (journalKey entry.taskId entry.stepId) with
      | none =>
        simp only [found, Except.ok.injEq, Prod.mk.injEq] at claims
        exact .inr ⟨intent, claims.1.symm, rfl, claims.2.symm⟩
      | some existing =>
        by_cases same : sameMutationJournalIdentity existing entry = true
        · simp only [found, same, if_true, Except.ok.injEq, Prod.mk.injEq] at claims
          exact .inl ⟨claims.1 ▸ rfl, claims.2.symm⟩
        · simp [found, same] at claims
  · simp [valid, intent, require, bind, Except.bind] at claims

theorem advanceInMemory_cases {success : Bool}
    (advances : advanceInMemory parseDate entry expectedState storage = .ok (success, after)) :
    (success = false ∧ after = storage) ∨
      ∃ current, storage.entries.get? (journalKey entry.taskId entry.stepId) = some current ∧
        current.state = expectedState ∧ sameMutationJournalIdentity current entry = true ∧
        entry.state ∈ transitions expectedState ∧ success = true ∧
        after = { storage with
          entries := storage.entries.set (journalKey entry.taskId entry.stepId) entry } := by
  unfold advanceInMemory at advances
  cases found : storage.entries.get? (journalKey entry.taskId entry.stepId) with
  | none => simp [found] at advances
  | some current =>
    by_cases same : sameMutationJournalIdentity current entry = true
    · simp only [found, require, same, if_true, bind, Except.bind] at advances
      by_cases expected : current.state = expectedState
      · rw [if_pos expected] at advances
        cases passes : assertMutationJournalTransition parseDate current entry expectedState with
        | error failure => simp [passes] at advances
        | ok value =>
          simp only [passes, Except.ok.injEq, Prod.mk.injEq] at advances
          have passed := assertMutationJournalTransition_ok passes
          rw [expected] at passed
          exact .inr ⟨current, rfl, expected, same, passed.2, advances.1.symm,
            advances.2.symm⟩
      · rw [if_neg expected] at advances
        simp only [Except.ok.injEq, Prod.mk.injEq] at advances
        exact .inl ⟨advances.1.symm, advances.2.symm⟩
    · simp [found, require, same, bind, Except.bind] at advances

theorem entryAt_setRow (entry : MutationJournalEntry) (taskId stepId : String) :
    Storage.entryAt .postgres { storage with
        rows := storage.rows.set (entry.taskId, entry.stepId) (journalValues entry) } taskId stepId =
      if (taskId, stepId) = (entry.taskId, entry.stepId) then some entry
      else storage.entryAt .postgres taskId stepId := by
  simp only [Storage.entryAt, OrderedMap.get?_set]
  split <;> rfl

theorem entryAt_setEntry (entry : MutationJournalEntry) (taskId stepId : String) :
    Storage.entryAt .memory { storage with
        entries := storage.entries.set (journalKey entry.taskId entry.stepId) entry } taskId
          stepId =
      if journalKey taskId stepId = journalKey entry.taskId entry.stepId then some entry
      else storage.entryAt .memory taskId stepId :=
  OrderedMap.get?_set _ _ _ _

/-- What a transaction leaves behind: an entry stays, or is moved by a claim or an advance, of
which the outcome of its call tells. -/
structure Explained (backend : Backend) (storage : Storage) {β : Type} (statement : Statement β)
    (result : Except String β × Storage) (taskId stepId : String) : Prop where
  consistent : result.2.Consistent
  moves : Moves (storage.entryAt backend taskId stepId) (result.2.entryAt backend taskId stepId)
  claims : ∀ answer outcome, result.1 = .ok answer → Final statement answer outcome →
    outcome.claims taskId stepId = true → storage.entryAt backend taskId stepId = none ∧
      ∃ entry claim, outcome = .claimed entry claim ∧ entry.state = .intentPersisted ∧
        result.2.entryAt backend taskId stepId = some entry
  dispatches : ∀ answer outcome, result.1 = .ok answer → Final statement answer outcome →
    outcome.dispatches taskId stepId = true → ∃ current next,
      storage.entryAt backend taskId stepId = some current ∧ current.state = .intentPersisted ∧
        result.2.entryAt backend taskId stepId = some next ∧ next.state = .dispatching

variable {backend : Backend} {β : Type} {statement : Statement β} {answered : Except String β}

theorem explained_unchanged (consistent : storage.Consistent)
    (silent : ∀ answer outcome taskId stepId, answered = .ok answer →
      Final statement answer outcome → outcome.claims taskId stepId = false ∧
        outcome.dispatches taskId stepId = false) (taskId stepId : String) :
    Explained backend storage statement (answered, storage) taskId stepId where
  consistent := consistent
  moves := .stay _
  claims answer outcome isAnswer final claims := by
    rw [(silent answer outcome taskId stepId isAnswer final).1] at claims
    cases claims
  dispatches answer outcome isAnswer final dispatches := by
    rw [(silent answer outcome taskId stepId isAnswer final).2] at dispatches
    cases dispatches

variable {taskId stepId : String} {place : Prop}

theorem explained_claim (consistent : after.Consistent) (intent : entry.state = .intentPersisted)
    [Decidable place] (written : after.entryAt backend taskId stepId =
      if place then some entry else storage.entryAt backend taskId stepId)
    (own : entry.taskId = taskId → entry.stepId = stepId → place)
    (absent : place → storage.entryAt backend taskId stepId = none)
    (tells : ∀ answer outcome, answered = .ok answer → Final statement answer outcome →
      ∃ claim, outcome = .claimed entry claim) :
    Explained backend storage statement (answered, after) taskId stepId where
  consistent := consistent
  moves := by
    rw [written]
    by_cases here : place
    · rw [if_pos here, absent here]
      exact .claim entry intent
    · rw [if_neg here]
      exact .stay _
  claims := by
    intro answer outcome isAnswer final claims
    obtain ⟨claim, rfl⟩ := tells answer outcome isAnswer final
    simp only [Outcome.claims, Bool.and_eq_true, beq_iff_eq] at claims
    have here := own claims.1.2 claims.2
    rw [written, if_pos here]
    exact ⟨absent here, entry, claim, rfl, intent, rfl⟩
  dispatches := by
    intro answer outcome isAnswer final dispatches
    obtain ⟨claim, rfl⟩ := tells answer outcome isAnswer final
    cases dispatches

theorem explained_advance (consistent : after.Consistent) {current entry : MutationJournalEntry}
    (expected : current.state = expectedState)
    (same : sameMutationJournalIdentity current entry = true)
    (follows : entry.state ∈ transitions expectedState) [Decidable place]
    (written : after.entryAt backend taskId stepId =
      if place then some entry else storage.entryAt backend taskId stepId)
    (own : entry.taskId = taskId → entry.stepId = stepId → place)
    (present : place → storage.entryAt backend taskId stepId = some current)
    (tells : ∀ answer outcome, answered = .ok answer → Final statement answer outcome →
      ∃ success, outcome = .advanced entry expectedState success) :
    Explained backend storage statement (answered, after) taskId stepId where
  consistent := consistent
  moves := by
    rw [written]
    by_cases here : place
    · rw [if_pos here, present here]
      rw [← expected] at follows
      exact .advance current entry same follows
    · rw [if_neg here]
      exact .stay _
  claims := by
    intro answer outcome isAnswer final claims
    obtain ⟨success, rfl⟩ := tells answer outcome isAnswer final
    cases claims
  dispatches := by
    intro answer outcome isAnswer final dispatches
    obtain ⟨success, rfl⟩ := tells answer outcome isAnswer final
    simp only [Outcome.dispatches, Bool.and_eq_true, beq_iff_eq] at dispatches
    obtain ⟨⟨⟨-, intent⟩, isTask⟩, isStep⟩ := dispatches
    have here := own isTask isStep
    rw [written, if_pos here]
    rw [intent] at follows expected
    exact ⟨current, entry, present here, expected, rfl, List.mem_singleton.mp follows⟩

theorem explained_insert (consistent : storage.Consistent) (intent : entry.state = .intentPersisted)
    (executionExists : Bool) (taskId stepId : String) :
    Explained .postgres storage (.insert entry)
      ((Statement.insert entry).exec parseDate executionExists storage) taskId stepId := by
  simp only [Statement.exec]
  cases found : storage.rows.get? (entry.taskId, entry.stepId) with
  | some row =>
    refine explained_unchanged consistent ?_ taskId stepId
    rintro answer outcome - - isAnswer ⟨record, rfl, -⟩
    cases isAnswer
  | none =>
    cases executionExists with
    | false =>
      simp only [Bool.false_eq_true, if_false]
      refine explained_unchanged consistent ?_ taskId stepId
      intro answer outcome _ _ isAnswer
      cases isAnswer
    | true =>
      simp only [if_true]
      apply explained_claim (consistent.set entry) intent (entryAt_setRow entry taskId stepId)
      · rintro rfl rfl
        rfl
      · intro here
        cases here
        simp [Storage.entryAt, found]
      · rintro answer outcome - ⟨record, -, rfl⟩
        exact ⟨_, rfl⟩

theorem explained_update (consistent : storage.Consistent)
    (follows : entry.state ∈ transitions expectedState) (executionExists : Bool)
    (taskId stepId : String) :
    Explained .postgres storage (.update entry expectedState)
      ((Statement.update entry expectedState).exec parseDate executionExists storage) taskId
        stepId := by
  have refused : ∀ answer outcome taskId stepId, (.ok false : Except String Bool) = .ok answer →
      Final (.update entry expectedState) answer outcome →
      outcome.claims taskId stepId = false ∧ outcome.dispatches taskId stepId = false := by
    rintro answer outcome taskId stepId isAnswer rfl
    cases isAnswer
    exact ⟨rfl, rfl⟩
  simp only [Statement.exec]
  cases found : storage.rows.get? (entry.taskId, entry.stepId) with
  | none => exact explained_unchanged consistent refused taskId stepId
  | some row =>
    obtain ⟨current, rfl, sameTask, sameStep⟩ := consistent _ _ row found
    by_cases admits : (journalValues current).admits entry expectedState = true
    · obtain ⟨updated, expected, same⟩ := update_admitted sameTask sameStep admits
      simp only [admits, if_true, updated]
      apply explained_advance (consistent.set entry) expected same follows
        (entryAt_setRow entry taskId stepId)
      · rintro rfl rfl
        rfl
      · intro here
        cases here
        simp [Storage.entryAt, found, journalValues]
      · rintro answer outcome - rfl
        exact ⟨answer, rfl⟩
    · simp only [admits]
      exact explained_unchanged consistent refused taskId stepId

theorem explained_claimInMemory (consistent : storage.Consistent) (entry : MutationJournalEntry)
    (executionExists : Bool) (taskId stepId : String) :
    Explained .memory storage (.claimInMemory entry)
      ((Statement.claimInMemory entry).exec parseDate executionExists storage) taskId stepId := by
  simp only [Statement.exec]
  cases claims : claimInMemory parseDate executionExists entry storage with
  | error failure =>
    refine explained_unchanged consistent ?_ taskId stepId
    intro answer outcome _ _ isAnswer
    cases isAnswer
  | ok result =>
    obtain ⟨claim, after⟩ := result
    rcases claimInMemory_cases claims with ⟨unclaimed, rfl⟩ | ⟨intent, rfl, absent, rfl⟩
    · refine explained_unchanged consistent ?_ taskId stepId
      rintro answer outcome _ _ isAnswer rfl
      cases isAnswer
      exact ⟨by simp [Outcome.claims, unclaimed], rfl⟩
    · apply explained_claim (consistent.remember entry) intent
        (entryAt_setEntry entry taskId stepId)
      · rintro rfl rfl
        rfl
      · intro here
        simp only [Storage.entryAt, here, absent]
      · rintro answer outcome - rfl
        exact ⟨answer, rfl⟩

theorem explained_advanceInMemory (consistent : storage.Consistent)
    (entry : MutationJournalEntry) (expectedState : MutationJournalState)
    (executionExists : Bool) (taskId stepId : String) :
    Explained .memory storage (.advanceInMemory entry expectedState)
      ((Statement.advanceInMemory entry expectedState).exec parseDate executionExists storage)
        taskId stepId := by
  simp only [Statement.exec]
  cases advances : advanceInMemory parseDate entry expectedState storage with
  | error failure =>
    refine explained_unchanged consistent ?_ taskId stepId
    intro answer outcome _ _ isAnswer
    cases isAnswer
  | ok result =>
    obtain ⟨success, after⟩ := result
    rcases advanceInMemory_cases advances with
      ⟨rfl, rfl⟩ | ⟨current, found, expected, same, follows, rfl, rfl⟩
    · refine explained_unchanged consistent ?_ taskId stepId
      rintro answer outcome _ _ isAnswer rfl
      cases isAnswer
      exact ⟨rfl, rfl⟩
    · apply explained_advance (consistent.remember entry) expected same
        follows (entryAt_setEntry entry taskId stepId)
      · rintro rfl rfl
        rfl
      · intro here
        simp only [Storage.entryAt, here, found]
      · rintro answer outcome - rfl
        exact ⟨answer, rfl⟩

theorem Statement.explained (statement : Statement β) (issued : statement.Issued backend)
    (consistent : storage.Consistent) (executionExists : Bool) (taskId stepId : String) :
    Explained backend storage statement (statement.exec parseDate executionExists storage) taskId
      stepId := by
  cases statement with
  | insert entry =>
    obtain ⟨rfl, intent⟩ := issued
    exact explained_insert consistent intent executionExists taskId stepId
  | select task step =>
    refine explained_unchanged consistent ?_ taskId stepId
    rintro answer outcome _ _ - (⟨entry, record, rfl⟩ | ⟨entry, expectedState, rfl⟩)
    · exact ⟨rfl, rfl⟩
    · exact ⟨rfl, rfl⟩
  | update entry expectedState =>
    obtain ⟨rfl, follows⟩ := issued
    exact explained_update consistent follows executionExists taskId stepId
  | claimInMemory entry =>
    cases issued
    exact explained_claimInMemory consistent entry executionExists taskId stepId
  | advanceInMemory entry expectedState =>
    cases issued
    exact explained_advanceInMemory consistent entry expectedState executionExists taskId stepId

end Moves

/-! ### Runs -/

section Runs

variable (parseDate : String → Option Int) (backend : Backend)

/-- Every statement is one the workers of the store issue, on consistent rows. -/
def journaling : Contract Statement NoRequest Storage :=
  { Invariant := Storage.Consistent
    Rely := fun _ _ => True
    rely_refl := fun _ => trivial
    rely_trans := fun _ _ => trivial
    Guarantee := fun statement _ => statement.Issued backend
    Asks := fun _ _ => True }

theorem claimMutationJournal_calls (entry : MutationJournalEntry) :
    (claimMutationJournal parseDate entry).Calls (Statement.Issued .postgres) (fun _ => True) := by
  apply calls_ofExcept_bind
  intro _ _
  apply calls_ofExcept_bind
  intro _ _
  apply calls_ofExcept_bind
  intro _ passed
  have intent := beq_iff_eq.mp (require_ok passed)
  apply calls_bind (calls_exec ⟨rfl, intent⟩)
  intro inserted
  cases inserted with
  | some record => exact calls_pure _
  | none =>
    apply calls_bind (calls_exec rfl)
    intro existing
    cases existing with
    | none => exact calls_fail _
    | some record =>
      apply calls_bind (calls_ofExcept _)
      intro _
      exact calls_pure _

theorem advanceMutationJournal_calls (entry : MutationJournalEntry)
    (expectedState : MutationJournalState) :
    (advanceMutationJournal parseDate entry expectedState).Calls (Statement.Issued .postgres)
      (fun _ => True) := by
  apply calls_bind (calls_ofExcept _)
  intro _
  apply calls_bind (calls_exec rfl)
  intro existing
  cases existing with
  | none => exact calls_fail _
  | some existing =>
    apply calls_bind (calls_ofExcept _)
    intro _
    apply calls_ite
    · intro expected
      apply calls_ofExcept_bind
      intro _ passed
      have follows := (assertMutationJournalTransition_ok passed).2
      rw [expected] at follows
      exact calls_exec ⟨rfl, follows⟩
    · intro _
      exact calls_pure _

theorem Call.program_calls (call : ULift Call) :
    (Call.program parseDate backend call).Calls (Statement.Issued backend) (fun _ => True) := by
  have answers {α : Type} {program : JournalProgram α} (answer : α → Outcome)
      (calls : program.Calls (Statement.Issued backend) (fun _ => True)) :
      (program >>= fun value => pure (answer value)).Calls (Statement.Issued backend)
        (fun _ => True) := calls_bind calls fun _ => calls_pure _
  obtain ⟨call⟩ := call
  cases call with
  | claim entry =>
    cases backend with
    | postgres => exact answers _ (claimMutationJournal_calls parseDate entry)
    | memory => exact answers _ (calls_exec rfl)
  | advance entry expectedState =>
    cases backend with
    | postgres => exact answers _ (advanceMutationJournal_calls parseDate entry expectedState)
    | memory => exact answers _ (calls_exec rfl)

theorem claimMutationJournal_ends (entry : MutationJournalEntry) :
    (claimMutationJournal parseDate entry).Ends fun statement answer claim =>
      Final statement answer (.claimed entry claim) := by
  apply ends_ofExcept_bind
  intro _ _
  apply ends_ofExcept_bind
  intro _ _
  apply ends_ofExcept_bind
  intro _ _
  apply ends_exec_bind
  · intro inserted claim isDone
    cases inserted with
    | some record =>
      cases isDone
      exact ⟨record, rfl, rfl⟩
    | none => cases isDone
  · intro inserted
    cases inserted with
    | some record => exact trivial
    | none =>
      apply ends_exec_bind
      · intro existing claim isDone
        cases existing with
        | none => cases isDone
        | some record =>
          cases same : require (sameMutationJournalIdentity record entry)
            "MUTATION_JOURNAL_IDENTITY_CONFLICT" with
          | error failure => simp [same] at isDone; cases isDone
          | ok value =>
            simp only [same] at isDone
            cases isDone
            exact .inl ⟨entry, record, rfl⟩
      · intro existing
        cases existing with
        | none => exact trivial
        | some record =>
          apply ends_ofExcept_bind
          intro _ _
          exact trivial

theorem advanceMutationJournal_ends (entry : MutationJournalEntry)
    (expectedState : MutationJournalState) :
    (advanceMutationJournal parseDate entry expectedState).Ends fun statement answer success =>
      Final statement answer (.advanced entry expectedState success) := by
  apply ends_ofExcept_bind
  intro _ _
  apply ends_exec_bind
  · intro existing success isDone
    cases existing with
    | none => cases isDone
    | some existing =>
      cases same : require (sameMutationJournalIdentity existing entry)
        "MUTATION_JOURNAL_IDENTITY_CONFLICT" with
      | error failure =>
        simp only [same] at isDone
        cases isDone
      | ok value =>
        simp only [same] at isDone
        by_cases expected : existing.state = expectedState
        · cases passes : assertMutationJournalTransition parseDate existing entry
            expectedState with
          | error failure =>
            simp only [expected, passes, if_true] at isDone
            cases isDone
          | ok value =>
            simp only [expected, passes, if_true] at isDone
            cases isDone
        · simp only [expected, if_false] at isDone
          cases isDone
          exact .inr ⟨entry, expectedState, rfl⟩
  · intro existing
    cases existing with
    | none => exact trivial
    | some existing =>
      apply ends_ofExcept_bind
      intro _ _
      by_cases expected : existing.state = expectedState
      · rw [if_pos expected]
        apply ends_ofExcept_bind
        intro _ _
        exact ends_exec fun _ => rfl
      · rw [if_neg expected]
        exact trivial

theorem Call.program_ends (call : ULift Call) :
    (Call.program parseDate backend call).Ends Final := by
  obtain ⟨call⟩ := call
  cases call with
  | claim entry =>
    cases backend with
    | postgres =>
      exact ends_map (Outcome.claimed entry)
        (claimMutationJournal_ends parseDate entry)
    | memory => exact ends_map (Outcome.claimed entry) (ends_exec fun _ => rfl)
  | advance entry expectedState =>
    cases backend with
    | postgres =>
      exact ends_map (Outcome.advanced entry expectedState)
        (advanceMutationJournal_ends parseDate entry expectedState)
    | memory =>
      exact ends_map (Outcome.advanced entry expectedState)
        (ends_exec fun _ => rfl)

theorem Call.program_opens (call : ULift Call) : (Call.program parseDate backend call).Opens := by
  obtain ⟨call⟩ := call
  cases call with
  | claim entry =>
    cases backend with
    | postgres =>
      have opens : (claimMutationJournal parseDate entry).Opens :=
        opens_ofExcept_bind fun _ => opens_ofExcept_bind fun _ =>
          opens_ofExcept_bind fun _ => opens_bind (opens_exec _)
      exact opens_bind opens
    | memory => exact opens_bind (opens_exec _)
  | advance entry expectedState =>
    cases backend with
    | postgres =>
      have opens : (advanceMutationJournal parseDate entry expectedState).Opens :=
        opens_ofExcept_bind fun _ => opens_bind (opens_exec _)
      exact opens_bind opens
    | memory => exact opens_bind (opens_exec _)

def step (workers : Workers) (label : WorkerLabel) : Workers :=
  System.step (machine parseDate) (Call.program parseDate backend) workers label

def run (workers : Workers) (labels : List WorkerLabel) : Workers :=
  System.run (machine parseDate) (Call.program parseDate backend) workers labels

def returned (workers : Workers) (label : WorkerLabel) : Option Outcome :=
  workers.returned (machine parseDate) (Call.program parseDate backend) label

def outcomes (workers : Workers) (labels : List WorkerLabel) : List Outcome :=
  System.outcomes (machine parseDate) (Call.program parseDate backend) workers labels

/-- The states an entry is recorded in along a run, one for each change of the entry. -/
def recorded (taskId stepId : String) : Workers → List WorkerLabel → List MutationJournalState
  | _, [] => []
  | workers, label :: rest =>
    let before := workers.store.entryAt backend taskId stepId
    let after := (step parseDate backend workers label).store.entryAt backend taskId stepId
    (if after = before then [] else (after.map MutationJournalEntry.state).toList) ++
      recorded taskId stepId (step parseDate backend workers label) rest

structure Working (workers : Workers) : Prop where
  satisfies : System.Satisfies (journaling backend) (machine parseDate) workers
  ends : ∀ thread ∈ workers.threads, thread.Ends Final

variable {parseDate backend}

variable {workers : Workers}

theorem step_working (working : Working parseDate backend workers) (label : WorkerLabel) :
    Working parseDate backend (step parseDate backend workers label) where
  satisfies := by
    apply System.step_satisfies (C := fun _ _ => True) _ _ workers label working.satisfies
      fun _ _ => trivial
    · intro executed storage consistent issued _
      exact ⟨(executed.effect.explained issued consistent executed.clock "" "").consistent, trivial⟩
    · intro call storage consistent
      exact Contract.sat_of_calls (fun _ => True) (fun _ _ _ _ _ => trivial)
        (fun _ _ _ _ => trivial) (fun _ _ issued _ _ => issued) (fun _ _ _ => trivial)
        (Call.program_calls parseDate backend call) trivial
  ends := System.step_ends (Call.program_ends parseDate backend) working.ends label

theorem initial_working : Working parseDate backend initial :=
  ⟨⟨fun _ _ _ found => (nomatch found), fun _ member => (nomatch member)⟩,
    fun _ member => (nomatch member)⟩

theorem run_working (working : Working parseDate backend workers) (labels : List WorkerLabel) :
    Working parseDate backend (run parseDate backend workers labels) := by
  induction labels generalizing workers with
  | nil => exact working
  | cons label rest ih => exact ih (step_working working label)

theorem step_moves (working : Working parseDate backend workers) (label : WorkerLabel)
    (taskId stepId : String) :
    Moves (workers.store.entryAt backend taskId stepId)
      ((step parseDate backend workers label).store.entryAt backend taskId stepId) := by
  rw [step, System.step_store]
  cases commits : workers.executes label with
  | none => exact .stay _
  | some executed =>
    have issued := working.satisfies.guarantee label executed commits
    exact (executed.effect.explained issued working.satisfies.invariant executed.clock taskId
      stepId).moves

theorem returned_explained (working : Working parseDate backend workers) {label : WorkerLabel}
    {outcome : Outcome} (isReturned : returned parseDate backend workers label = some outcome)
    (taskId stepId : String) :
    let before := workers.store.entryAt backend taskId stepId
    let after := (step parseDate backend workers label).store.entryAt backend taskId stepId
    (outcome.claims taskId stepId = true → before = none ∧
      ∃ entry claim, outcome = .claimed entry claim ∧ entry.state = .intentPersisted ∧
        after = some entry) ∧
      (outcome.dispatches taskId stepId = true → ∃ current next, before = some current ∧
        current.state = .intentPersisted ∧ after = some next ∧ next.state = .dispatching) := by
  obtain ⟨executed, answer, commits, answered, final⟩ :=
    System.returned_final (Call.program_opens parseDate backend) working.ends isReturned
  have issued := working.satisfies.guarantee label executed commits
  have explained : Explained backend workers.store executed.effect
      (executed.effect.exec parseDate executed.clock workers.store) taskId stepId :=
    executed.effect.explained issued working.satisfies.invariant executed.clock taskId stepId
  have moved : (step parseDate backend workers label).store =
      (executed.effect.exec parseDate executed.clock workers.store).2 := by
    rw [step, System.step_store, commits]
    rfl
  simp only [moved]
  exact ⟨explained.claims answer outcome answered final,
    explained.dispatches answer outcome answered final⟩

def rank : Option MutationJournalEntry → Nat
  | none => 0
  | some entry =>
    match entry.state with
    | .intentPersisted => 1
    | .dispatching => 2
    | .accepted | .rejected | .uncertain => 3

variable {before after : Option MutationJournalEntry}

theorem Moves.rank_le (moves : Moves before after) :
    rank before ≤ rank after := by
  cases moves with
  | stay => exact Nat.le_refl _
  | claim entry intent => exact Nat.zero_le _
  | advance current next same follows =>
    cases isState : current.state <;> rw [isState] at follows <;>
      simp [transitions] at follows <;> simp [rank, isState]
    · simp [follows]
    · rcases follows with next | next | next <;> simp [next]

theorem Moves.kept {current : MutationJournalEntry} {after : Option MutationJournalEntry}
    (moves : Moves (some current) after) :
    ∃ next, after = some next ∧ sameMutationJournalIdentity current next = true ∧
      (transitions current.state = [] → next = current) := by
  cases moves with
  | stay => exact ⟨current, rfl, by simp [sameMutationJournalIdentity], fun _ => rfl⟩
  | advance _ next same follows =>
    refine ⟨next, rfl, same, fun settled => ?_⟩
    rw [settled] at follows
    cases follows

def remaining (last : MutationJournalState) : Option MutationJournalEntry →
    List MutationJournalState
  | none => [.intentPersisted, .dispatching, last]
  | some entry =>
    match entry.state with
    | .intentPersisted => [.dispatching, last]
    | .dispatching => [last]
    | .accepted | .rejected | .uncertain => []

theorem Moves.records (moves : Moves before after) (changed : after ≠ before)
    {last : MutationJournalState} (isLast : last ∈ transitions .dispatching) :
    ∃ entry, after = some entry ∧ ∃ last' ∈ transitions .dispatching,
      remaining last' before = entry.state :: remaining last after := by
  cases moves with
  | stay => exact absurd rfl changed
  | claim entry intent => exact ⟨entry, rfl, last, isLast, by simp [remaining, intent]⟩
  | advance current next same follows =>
    cases isState : current.state with
    | intentPersisted =>
      rw [isState] at follows
      have dispatching := List.mem_singleton.mp follows
      exact ⟨next, rfl, last, isLast, by simp [remaining, isState, dispatching]⟩
    | dispatching =>
      rw [isState] at follows
      refine ⟨next, rfl, next.state, follows, ?_⟩
      simp only [transitions, List.mem_cons, List.not_mem_nil, or_false] at follows
      rcases follows with settled | settled | settled <;>
        simp [remaining, isState, settled]
    | accepted | rejected | uncertain =>
      rw [isState] at follows
      cases follows

theorem recorded_prefix (working : Working parseDate backend workers) (taskId stepId : String)
    (labels : List WorkerLabel) :
    ∃ last ∈ transitions .dispatching,
      recorded parseDate backend taskId stepId workers labels <+:
        remaining last (workers.store.entryAt backend taskId stepId) := by
  induction labels generalizing workers with
  | nil => exact ⟨.accepted, by simp [transitions], List.nil_prefix⟩
  | cons label rest ih =>
    obtain ⟨last, isLast, later⟩ := ih (step_working working label)
    have moves := step_moves working label taskId stepId
    rw [recorded]
    by_cases changed : (step parseDate backend workers label).store.entryAt backend taskId stepId =
      workers.store.entryAt backend taskId stepId
    · rw [changed] at later
      simp only [changed, if_true, List.nil_append]
      exact ⟨last, isLast, later⟩
    · obtain ⟨entry, isEntry, last', isLast', records⟩ := moves.records changed isLast
      rw [isEntry] at changed later records
      simp only [isEntry, if_neg changed, Option.map_some, Option.toList_some,
        List.singleton_append]
      refine ⟨last', isLast', ?_⟩
      rw [records]
      exact List.cons_prefix_cons.mpr ⟨rfl, later⟩

theorem run_kept (working : Working parseDate backend workers) {taskId stepId : String}
    {entry : MutationJournalEntry}
    (found : workers.store.entryAt backend taskId stepId = some entry) (labels : List WorkerLabel) :
    ∃ later, (run parseDate backend workers labels).store.entryAt backend taskId stepId =
        some later ∧ sameMutationJournalIdentity entry later = true ∧
      (transitions entry.state = [] → later = entry) := by
  induction labels generalizing workers entry with
  | nil => exact ⟨entry, found, by simp [sameMutationJournalIdentity], fun _ => rfl⟩
  | cons label rest ih =>
    have moves := step_moves working label taskId stepId
    rw [found] at moves
    obtain ⟨next, isNext, same, settled⟩ := moves.kept
    obtain ⟨later, isLater, sameLater, settledLater⟩ := ih (step_working working label) isNext
    refine ⟨later, isLater, ?_, fun isSettled => ?_⟩
    · simp only [sameMutationJournalIdentity, Bool.and_eq_true, beq_iff_eq] at same sameLater ⊢
      simp [same, sameLater]
    · have stays := settled isSettled
      rw [stays] at settledLater
      exact settledLater isSettled

variable (parseDate backend)

/-- In every run of any number of workers on one store, a step is claimed once at most and
dispatched once at most. Its states are recorded in their order, the last never changes, and
what identifies the entry stays as the first claim wrote it. -/
theorem mutationJournal_once (taskId stepId : String) (labels : List WorkerLabel) :
    (outcomes parseDate backend initial labels).countP (Outcome.claims taskId stepId) ≤ 1 ∧
      (outcomes parseDate backend initial labels).countP (Outcome.dispatches taskId stepId) ≤ 1 ∧
      (∃ last ∈ [MutationJournalState.accepted, .rejected, .uncertain],
        recorded parseDate backend taskId stepId initial labels <+:
          [.intentPersisted, .dispatching, last]) ∧
      (∀ earlier label later, labels = earlier ++ label :: later → ∀ entry claim,
        returned parseDate backend (run parseDate backend initial earlier) label =
            some (.claimed entry claim) → claim.claimed = true → entry.taskId = taskId →
          entry.stepId = stepId →
          (run parseDate backend initial (earlier ++ [label])).store.entryAt backend taskId
            stepId = some entry) ∧
      ∀ earlier later, labels = earlier ++ later → ∀ entry,
        (run parseDate backend initial earlier).store.entryAt backend taskId stepId =
          some entry →
        ∃ entry', (run parseDate backend initial labels).store.entryAt backend taskId stepId =
            some entry' ∧ sameMutationJournalIdentity entry entry' = true ∧
          (entry.state ∈ [.accepted, .rejected, .uncertain] → entry' = entry) := by
  have grows : ∀ (workers : Workers) (label : WorkerLabel), Working parseDate backend workers →
      rank (workers.store.entryAt backend taskId stepId) ≤
        rank ((step parseDate backend workers label).store.entryAt backend taskId stepId) :=
    fun workers label working => (step_moves working label taskId stepId).rank_le
  have keeps : ∀ (workers : Workers) (label : WorkerLabel), Working parseDate backend workers →
      Working parseDate backend (step parseDate backend workers label) :=
    fun workers label working => step_working working label
  have start : Working parseDate backend initial := initial_working
  refine ⟨?_, ?_, ?_, ?_, ?_⟩
  · apply le_trans (System.countP_outcomes_le_one keeps
      (fun storage => rank (storage.entryAt backend taskId stepId)) 0 _ grows _ start _)
    · split <;> omega
    intro workers label outcome working isReturned claims
    obtain ⟨absent, entry, claim, -, intent, isEntry⟩ :=
      (returned_explained working isReturned taskId stepId).1 claims
    change rank (workers.store.entryAt backend taskId stepId) ≤ 0 ∧
      0 < rank ((step parseDate backend workers label).store.entryAt backend taskId stepId)
    rw [absent, isEntry]
    simp [rank, intent]
  · apply le_trans (System.countP_outcomes_le_one keeps
      (fun storage => rank (storage.entryAt backend taskId stepId)) 1 _ grows _ start _)
    · split <;> omega
    · intro workers label outcome working isReturned dispatches
      obtain ⟨current, next, isCurrent, intent, isNext, dispatching⟩ :=
        (returned_explained working isReturned taskId stepId).2 dispatches
      change rank (workers.store.entryAt backend taskId stepId) ≤ 1 ∧
        1 < rank ((step parseDate backend workers label).store.entryAt backend taskId stepId)
      rw [isCurrent, isNext]
      simp [rank, intent, dispatching]
  · obtain ⟨last, isLast, isPrefix⟩ := recorded_prefix start taskId stepId labels
    refine ⟨last, isLast, ?_⟩
    cases backend <;> exact isPrefix
  · intro earlier label later _ entry claim isReturned claimed sameTask sameStep
    have working := run_working start earlier
    have claims : (Outcome.claimed entry claim).claims taskId stepId = true := by
      simp [Outcome.claims, claimed, sameTask, sameStep]
    obtain ⟨-, entry', claim', same, -, isEntry⟩ :=
      (returned_explained working isReturned taskId stepId).1 claims
    cases same
    rw [run, System.run_append]
    exact isEntry
  · rintro earlier later rfl entry found
    have working := run_working start earlier
    obtain ⟨entry', isEntry, same, settled⟩ := run_kept working found later
    rw [run, System.run_append]
    refine ⟨entry', isEntry, same, fun isSettled => settled ?_⟩
    simp only [List.mem_cons, List.not_mem_nil, or_false] at isSettled
    rcases isSettled with isState | isState | isState <;> rw [isState] <;> rfl

end Runs

end MutationJournal

end SdarRuntime
