import SdarRuntime.Library.Callers
import SdarRuntime.Library.OrderedMap
import SdarRuntime.Persistence.Tables

/-!
The idempotency records of the runtime. Callers with one key share one record: the first claims
it, a later one waits for its outcome or takes the claim over when its lease has run out, and the
outcome of the first that completes it is the outcome of all.
-/

namespace SdarRuntime

namespace Idempotency

open Transaction (read update abort)

structure IdempotencyInput where
  authorization : AuthorizationContext
  operationName : String
  idempotencyKey : String
  argumentHash : String

inductive StoredInvocation where
  | task (taskId : String)
  | result (stored : Json)

inductive RecordState where
  | pending
  | complete
  deriving DecidableEq

structure IdempotencyRow where
  argumentHash : String
  stableTaskId : String
  state : RecordState
  taskId : Option String
  synchronousResult : Option Json
  leaseOwner : Option String
  leaseExpiresAt : Option Instant

structure IdempotencyKey where
  authorizationContextHash : String
  operationName : String
  idempotencyKey : String
  executionMode : ExecutionMode
  simulationKey : String
  deriving DecidableEq

def keyValues (input : IdempotencyInput) : IdempotencyKey :=
  { authorizationContextHash := input.authorization.hash
    operationName := input.operationName
    idempotencyKey := input.idempotencyKey
    executionMode := input.authorization.executionMode
    simulationKey := input.authorization.simulationId.getD "" }

abbrev Records : Type := OrderedMap IdempotencyKey IdempotencyRow

abbrev Tx (α : Type) : Type := Transaction Records String α

/-- What a claim reads from outside: a random id, and the clock of the database at each of its
statements. -/
structure Readings where
  stableTaskId : String
  inserted : Instant
  found : Instant
  updated : Instant

def IdempotencyRow.leaseExpired (row : IdempotencyRow) (now : Instant) : Bool :=
  match row.leaseExpiresAt with
  | some expiresAt => decide (expiresAt ≤ now)
  | none => false

def completed (row : IdempotencyRow) : Except String StoredInvocation :=
  match row.taskId with
  | some taskId => .ok (.task taskId)
  | none =>
    match row.synchronousResult with
    | some result => .ok (.result result)
    | none => .error "INVALID_COMPLETED_IDEMPOTENCY_RECORD"

inductive ClaimResult where
  | claimed (stableTaskId : String) (recovering duplicate : Bool)
  | complete (outcome : StoredInvocation) (duplicate : Bool)
  | wait

/-- `ON CONFLICT DO NOTHING`: whether the record is new. -/
def insertRecord (input : IdempotencyInput) (owner : String) (leaseMs : Nat)
    (readings : Readings) : Tx Bool := do
  let records ← read
  match records.get? (keyValues input) with
  | some _ => pure false
  | none => do
    update fun records => records.set (keyValues input)
      { argumentHash := input.argumentHash
        stableTaskId := readings.stableTaskId
        state := .pending
        taskId := none
        synchronousResult := none
        leaseOwner := some owner
        leaseExpiresAt := some (readings.inserted.addMilliseconds leaseMs) }
    pure true

def find (input : IdempotencyInput) : Tx (Option IdempotencyRow) := do
  let records ← read
  return records.get? (keyValues input)

def takeOver (input : IdempotencyInput) (owner : String) (leaseMs : Nat) (now : Instant) :
    Tx (Option String) := do
  match ← find input with
  | some row =>
    if row.state = .pending ∧ row.leaseExpired now = true ∧
        row.argumentHash = input.argumentHash then do
      update fun records => records.set (keyValues input)
        { row with
          leaseOwner := some owner
          leaseExpiresAt := some (now.addMilliseconds leaseMs) }
      pure (some row.stableTaskId)
    else pure none
  | none => pure none

def claim (input : IdempotencyInput) (owner : String) (leaseMs : Nat) (readings : Readings) :
    Tx ClaimResult := do
  let inserted ← insertRecord input owner leaseMs readings
  match ← find input with
  | none => abort "IDEMPOTENCY_CLAIM_NOT_VISIBLE"
  | some row =>
    if row.argumentHash ≠ input.argumentHash then abort "IDEMPOTENCY_KEY_CONFLICT"
    else if row.state = .complete then
      match completed row with
      | .ok outcome => pure (.complete outcome true)
      | .error failure => abort failure
    else if inserted = true ∨ row.leaseOwner = some owner then
      pure (.claimed row.stableTaskId false false)
    else if row.leaseExpired readings.found = false then pure .wait
    else do
      match ← takeOver input owner leaseMs readings.updated with
      | none => pure .wait
      | some stableTaskId => pure (.claimed stableTaskId true true)

def ownedRow (records : Records) (input : IdempotencyInput) (owner : String) :
    Option IdempotencyRow :=
  (records.get? (keyValues input)).filter fun row =>
    decide (row.state = .pending ∧ row.leaseOwner = some owner)

def StoredInvocation.taskId? : StoredInvocation → Option String
  | .task taskId => some taskId
  | .result _ => none

def StoredInvocation.result? : StoredInvocation → Option Json
  | .task _ => none
  | .result stored => some stored

def completeRecord (input : IdempotencyInput) (owner : String) (outcome : StoredInvocation) :
    Tx Bool := do
  let records ← read
  match ownedRow records input owner with
  | some row => do
    update fun records => records.set (keyValues input)
      { row with
        state := .complete
        taskId := outcome.taskId?
        synchronousResult := outcome.result?
        leaseOwner := none
        leaseExpiresAt := none }
    pure true
  | none => pure false

def abandon (input : IdempotencyInput) (owner : String) (now : Instant) : Tx Unit := do
  let records ← read
  match ownedRow records input owner with
  | some row =>
    update fun records => records.set (keyValues input)
      { row with leaseExpiresAt := some now }
  | none => pure ()

inductive Effect : Type → Type where
  | claim (input : IdempotencyInput) (owner : String) : Effect ClaimResult
  | complete (input : IdempotencyInput) (owner : String) (outcome : StoredInvocation) : Effect Bool
  | find (input : IdempotencyInput) : Effect (Option IdempotencyRow)
  | abandon (input : IdempotencyInput) (owner : String) : Effect Unit

/-- The action of a caller, which may take any time and any side effect. -/
inductive Request : Type → Type where
  | invoke (input : IdempotencyInput) (stableTaskId : String) (recovering : Bool) :
      Request StoredInvocation

abbrev Call (α : Type) : Type 1 := Program Effect Request String α

def storedOutcome (input : IdempotencyInput) : Call StoredInvocation := do
  match ← .exec (.find input) with
  | some row =>
    if row.state = .complete then .ofExcept (completed row)
    else .fail "IDEMPOTENCY_LEASE_LOST"
  | none => .fail "IDEMPOTENCY_LEASE_LOST"

def complete (input : IdempotencyInput) (owner : String) (outcome : StoredInvocation) :
    Call StoredInvocation := do
  let updated ← .exec (.complete input owner outcome)
  if updated = true then pure outcome else storedOutcome input

/-- The claim ends, and the failure is the caller's whatever becomes of that. -/
def giveUp (input : IdempotencyInput) (owner failure : String) : Call StoredInvocation :=
  .transact (.abandon input owner) fun _ => .fail failure

def invokeClaimed (input : IdempotencyInput) (owner stableTaskId : String) (recovering : Bool) :
    Call StoredInvocation :=
  Program.attempt
    (do
      let outcome ← .ask (.invoke input stableTaskId recovering)
      complete input owner outcome)
    (giveUp input owner)

/-- One round of a caller, and what it does while another one has the claim. -/
def executeRound (input : IdempotencyInput) (owner : String) (whileClaimed : Call StoredInvocation) :
    Call StoredInvocation := do
  match ← .exec (.claim input owner) with
  | .complete outcome _ => pure outcome
  | .claimed stableTaskId recovering _ => invokeClaimed input owner stableTaskId recovering
  | .wait => whileClaimed

/-- A caller waits for a number of rounds, as many as it has time for. -/
def execute (input : IdempotencyInput) (owner : String) : Nat → Call StoredInvocation
  | 0 => executeRound input owner (.fail "IDEMPOTENCY_IN_PROGRESS")
  | rounds + 1 => executeRound input owner (execute input owner rounds)

/-- A call of `execute`: its input, the random owner it draws and the rounds it has time for. -/
structure Caller : Type 1 where
  input : IdempotencyInput
  owner : String
  rounds : Nat

def Caller.program (caller : Caller) : Call StoredInvocation :=
  execute caller.input caller.owner caller.rounds

def machine (leaseMs : Nat) :
    Machine Effect Request String Records Readings (Except String StoredInvocation) where
  exec effect readings :=
    match effect with
    | .claim input owner => (claim input owner leaseMs readings).commit
    | .complete input owner outcome => (completeRecord input owner outcome).commit
    | .find input => (find input).commit
    | .abandon input owner => (abandon input owner readings.updated).commit
  accept call answer :=
    match call with
    | .invoke _ _ _ => some answer

end Idempotency

end SdarRuntime
