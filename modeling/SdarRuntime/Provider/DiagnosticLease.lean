import SdarRuntime.Domain.Time
import SdarRuntime.Library.OrderedMap
import SdarRuntime.Library.Transaction

/-!
The diagnostic leases of a Provider. An operator arms a lease for the navigation with a given
argument hash; the navigation binds it, its fault consumes it, and the operator or its expiry
ends it. Each change leaves a receipt. The Provider keeps leases and receipts in memory or in
PostgreSQL; the two stores differ in the statements their operations are made of.
-/

namespace SdarRuntime.Diagnostic

open Transaction (read update abort)

inductive SmppDiagnosticCapabilityId where
  | responseLoss
  | providerBusinessSuccess
  deriving DecidableEq, Repr

inductive SmppDiagnosticLeaseState where
  | armed
  | bound
  | consumed
  | disarmed
  | expired
  deriving DecidableEq, Repr

inductive SmppDiagnosticReceiptAction where
  | armed
  | bound
  | consumed
  | disarmed
  | expired
  deriving DecidableEq, Repr

def SmppDiagnosticLeaseState.action : SmppDiagnosticLeaseState → SmppDiagnosticReceiptAction
  | .armed => .armed
  | .bound => .bound
  | .consumed => .consumed
  | .disarmed => .disarmed
  | .expired => .expired

/-- The part of a scope the stores look at: the selector, and the task when there is one. -/
structure SmppDiagnosticScope where
  argumentHash : String
  taskId : Option String
  deriving DecidableEq, Repr

structure SmppDiagnosticLease where
  leaseId : String
  capabilityId : SmppDiagnosticCapabilityId
  stableOperationKey : String
  canonicalRequestHash : String
  fence : Nat
  state : SmppDiagnosticLeaseState
  scope : SmppDiagnosticScope
  armedAt : Instant
  expiresAt : Instant
  boundAt : Option Instant
  consumedAt : Option Instant
  cleanupAt : Option Instant
  logicalInvocationId : Option String
  taskId : Option String
  externalExecutionId : Option String
  deviceMissionId : Option String
  deriving DecidableEq, Repr

structure ReceiptBinding where
  argumentHash : String
  logicalInvocationId : String
  taskId : String
  externalExecutionId : String
  deviceMissionId : String
  deriving DecidableEq, Repr

structure SmppDiagnosticReceipt where
  receiptId : String
  leaseId : String
  action : SmppDiagnosticReceiptAction
  requestHash : String
  occurredAt : Instant
  state : SmppDiagnosticLeaseState
  reasonCode : String
  binding : Option ReceiptBinding
  deriving DecidableEq, Repr

structure SmppDiagnosticControlResult where
  lease : SmppDiagnosticLease
  receipt : SmppDiagnosticReceipt
  deriving DecidableEq, Repr

/-- A request to arm, with what its handler adds: the keys it derives from the request, random
ids, and the times. -/
structure ArmRequest where
  leaseId : String
  receiptId : String
  capabilityId : SmppDiagnosticCapabilityId
  stableOperationKey : String
  requestHash : String
  scope : SmppDiagnosticScope
  now : Instant
  ttlMs : Nat
  deriving DecidableEq, Repr

/-- The lease the handler asks the store to arm. The store numbers its fence. -/
def ArmRequest.lease (request : ArmRequest) (fence : Nat) : SmppDiagnosticLease :=
  { leaseId := request.leaseId
    capabilityId := request.capabilityId
    stableOperationKey := request.stableOperationKey
    canonicalRequestHash := request.requestHash
    fence := fence
    state := .armed
    scope := request.scope
    armedAt := request.now
    expiresAt := request.now.addMilliseconds request.ttlMs
    boundAt := none
    consumedAt := none
    cleanupAt := none
    logicalInvocationId := none
    taskId := none
    externalExecutionId := none
    deviceMissionId := none }

def ArmRequest.receipt (request : ArmRequest) : SmppDiagnosticReceipt :=
  { receiptId := request.receiptId
    leaseId := request.leaseId
    action := .armed
    requestHash := request.requestHash
    occurredAt := request.now
    state := .armed
    reasonCode := "SMPP_DIAGNOSTIC_ARMED"
    binding := none }

structure SmppDiagnosticBinding where
  capabilityId : SmppDiagnosticCapabilityId
  argumentHash : String
  logicalInvocationId : String
  taskId : String
  externalExecutionId : String
  deviceMissionId : String
  observedAt : Instant
  deriving DecidableEq, Repr

structure DiagnosticTables where
  leases : OrderedMap String SmppDiagnosticLease
  receipts : OrderedMap (String × SmppDiagnosticReceiptAction) SmppDiagnosticReceipt
  fence : Nat

def DiagnosticTables.empty : DiagnosticTables :=
  { leases := .empty
    receipts := .empty
    fence := 0 }

inductive Backend where
  | memory
  | postgres
  deriving DecidableEq, Repr

abbrev Tx (α : Type) : Type := Transaction DiagnosticTables String α

section Statements

variable (backend : Backend)

/-- The leases a scan finds: a `Map` in the order of insertion, a query `ORDER BY fence`. -/
def scan (matches' : SmppDiagnosticLease → Bool) : Tx (List SmppDiagnosticLease) := do
  let tables ← read
  let found := tables.leases.values.filter matches'
  match backend with
  | .memory => pure found
  | .postgres => pure (found.mergeSort fun left right => left.fence ≤ right.fence)

def requiredLease (leaseId : String) : Tx SmppDiagnosticLease := do
  let tables ← read
  match tables.leases.get? leaseId with
  | some lease => pure lease
  | none => abort "SMPP_DIAGNOSTIC_LEASE_NOT_FOUND"

def optionalReceipt (leaseId : String) (action : SmppDiagnosticReceiptAction) :
    Tx (Option SmppDiagnosticReceipt) := do
  let tables ← read
  return tables.receipts.get? (leaseId, action)

def allocateFence : Tx Nat := do
  update fun tables => { tables with fence := tables.fence + 1 }
  let tables ← read
  return tables.fence

/-- The table has a primary key and a unique operation key; a `Map` has neither check. -/
def insertLease (lease : SmppDiagnosticLease) : Tx Unit := do
  let tables ← read
  if backend = .postgres ∧ ((tables.leases.get? lease.leaseId).isSome ∨
      tables.leases.values.any fun other =>
        other.stableOperationKey == lease.stableOperationKey) then
    abort "23505"
  else
    update fun tables => { tables with leases := tables.leases.set lease.leaseId lease }

/-- What the trigger of the table lets an update change: a binding is only ever added. -/
def identityKept (old new : SmppDiagnosticLease) : Bool :=
  let added := fun (column : SmppDiagnosticLease → Option String) =>
    (column old).isNone || column new == column old
  old.capabilityId == new.capabilityId && old.stableOperationKey == new.stableOperationKey &&
    old.canonicalRequestHash == new.canonicalRequestHash && old.fence == new.fence &&
    old.scope == new.scope && old.expiresAt == new.expiresAt && old.armedAt == new.armedAt &&
    added SmppDiagnosticLease.logicalInvocationId && added SmppDiagnosticLease.taskId &&
    added SmppDiagnosticLease.externalExecutionId && added SmppDiagnosticLease.deviceMissionId

/-- The lease, which is there, becomes `next`. -/
def updateLease (lease next : SmppDiagnosticLease) : Tx Unit :=
  if backend = .postgres ∧ identityKept lease next = false then
    abort "UGV_DIAGNOSTIC_IDENTITY_IMMUTABLE"
  else
    update fun tables => { tables with leases := tables.leases.set lease.leaseId next }

/-- The receipts of the table are append-only and have ids of their own; in a `Map` the latest
one stands. -/
def insertReceipt (receipt : SmppDiagnosticReceipt) : Tx Unit := do
  let tables ← read
  if backend = .postgres ∧ ((tables.receipts.get? (receipt.leaseId, receipt.action)).isSome ∨
      tables.receipts.values.any fun other => other.receiptId == receipt.receiptId) then
    abort "23505"
  else
    update fun tables => { tables with
      receipts := tables.receipts.set (receipt.leaseId, receipt.action) receipt }

def diagnosticResult (lease : SmppDiagnosticLease) (action : SmppDiagnosticReceiptAction) :
    Tx SmppDiagnosticControlResult := do
  match ← optionalReceipt lease.leaseId action with
  | some receipt => pure { lease := lease, receipt := receipt }
  | none => abort "SMPP_DIAGNOSTIC_RECEIPT_NOT_FOUND"

def recordChange (lease next : SmppDiagnosticLease) (receipt : SmppDiagnosticReceipt) :
    Tx SmppDiagnosticControlResult := do
  updateLease backend lease next
  insertReceipt backend receipt
  return { lease := next, receipt := receipt }

def SmppDiagnosticLease.isLive (lease : SmppDiagnosticLease) : Bool :=
  lease.state == .armed || lease.state == .bound

def armDiagnosticLease (request : ArmRequest) : Tx SmppDiagnosticControlResult := do
  let tables ← read
  match tables.leases.values.find? fun candidate =>
      candidate.stableOperationKey == request.stableOperationKey with
  | some prior =>
    if prior.canonicalRequestHash ≠ request.requestHash then
      abort "SMPP_DIAGNOSTIC_OPERATION_CONFLICT"
    else diagnosticResult prior .armed
  | none =>
    if tables.leases.values.any fun candidate =>
        candidate.scope.argumentHash == request.scope.argumentHash && candidate.isLive &&
          decide (request.now < candidate.expiresAt) then
      abort "SMPP_DIAGNOSTIC_SELECTOR_CONFLICT"
    else
      let fence ← allocateFence
      let stored := request.lease fence
      insertLease backend stored
      insertReceipt backend request.receipt
      return { lease := stored, receipt := request.receipt }

/-- A lease without a receipt for its state is an error in memory, and not found in a join. -/
def getDiagnosticStatus (leaseId : String) : Tx (Option SmppDiagnosticControlResult) := do
  let tables ← read
  match tables.leases.get? leaseId with
  | none => pure none
  | some lease =>
    match tables.receipts.get? (leaseId, lease.state.action) with
    | some receipt => pure (some { lease := lease, receipt := receipt })
    | none =>
      match backend with
      | .memory => abort "SMPP_DIAGNOSTIC_RECEIPT_NOT_FOUND"
      | .postgres => pure none

def disarmDiagnosticLease (leaseId requestHash receiptId : String) (occurredAt : Instant) :
    Tx SmppDiagnosticControlResult := do
  let lease ← requiredLease leaseId
  match ← optionalReceipt leaseId .disarmed with
  | some prior =>
    if prior.requestHash ≠ requestHash then abort "SMPP_DIAGNOSTIC_OPERATION_CONFLICT"
    else pure { lease := lease, receipt := prior }
  | none =>
    recordChange backend lease
      { lease with
        state := .disarmed
        cleanupAt := some occurredAt }
      { receiptId := receiptId
        leaseId := leaseId
        action := .disarmed
        requestHash := requestHash
        occurredAt := occurredAt
        state := .disarmed
        reasonCode := "SMPP_DIAGNOSTIC_DISARMED"
        binding := none }

def isCandidate (binding : SmppDiagnosticBinding) (lease : SmppDiagnosticLease) : Bool :=
  lease.state == .armed && lease.capabilityId == binding.capabilityId &&
    lease.scope.argumentHash == binding.argumentHash &&
    (lease.scope.taskId.isNone || lease.scope.taskId == some binding.taskId) &&
    decide (binding.observedAt < lease.expiresAt)

def SmppDiagnosticBinding.receipt (binding : SmppDiagnosticBinding) : ReceiptBinding :=
  { argumentHash := binding.argumentHash
    logicalInvocationId := binding.logicalInvocationId
    taskId := binding.taskId
    externalExecutionId := binding.externalExecutionId
    deviceMissionId := binding.deviceMissionId }

def bindDiagnosticLease (binding : SmppDiagnosticBinding) (receiptId : String) :
    Tx (Option SmppDiagnosticControlResult) := do
  match ← scan backend (isCandidate binding) with
  | [] => pure none
  | [lease] => do
    let result ← recordChange backend lease
      { lease with
        state := .bound
        boundAt := some binding.observedAt
        logicalInvocationId := some binding.logicalInvocationId
        taskId := some binding.taskId
        externalExecutionId := some binding.externalExecutionId
        deviceMissionId := some binding.deviceMissionId }
      { receiptId := receiptId
        leaseId := lease.leaseId
        action := .bound
        requestHash := lease.canonicalRequestHash
        occurredAt := binding.observedAt
        state := .bound
        reasonCode := "SMPP_DIAGNOSTIC_BOUND"
        binding := some binding.receipt }
    pure (some result)
  | _ :: _ :: _ => abort "SMPP_DIAGNOSTIC_SELECTOR_AMBIGUOUS"

def SmppDiagnosticLease.receiptBinding (lease : SmppDiagnosticLease) : Option ReceiptBinding := do
  let logicalInvocationId ← lease.logicalInvocationId
  let taskId ← lease.taskId
  let externalExecutionId ← lease.externalExecutionId
  let deviceMissionId ← lease.deviceMissionId
  return {
    argumentHash := lease.scope.argumentHash
    logicalInvocationId := logicalInvocationId
    taskId := taskId
    externalExecutionId := externalExecutionId
    deviceMissionId := deviceMissionId }

def consumeDiagnosticLease (leaseId requestHash receiptId : String) (occurredAt : Instant) :
    Tx SmppDiagnosticControlResult := do
  let lease ← requiredLease leaseId
  match ← optionalReceipt leaseId .consumed with
  | some prior => pure { lease := lease, receipt := prior }
  | none =>
    if lease.state ≠ .bound then abort "SMPP_DIAGNOSTIC_NOT_BOUND"
    else
      recordChange backend lease
        { lease with
          state := .consumed
          consumedAt := some occurredAt }
        { receiptId := receiptId
          leaseId := leaseId
          action := .consumed
          requestHash := requestHash
          occurredAt := occurredAt
          state := .consumed
          reasonCode := "SMPP_DIAGNOSTIC_CONSUMED"
          binding := lease.receiptBinding }

def expireEach (receiptIds : String → String) (occurredAt : Instant) :
    List SmppDiagnosticLease → Tx (List SmppDiagnosticControlResult)
  | [] => pure []
  | lease :: rest => do
    let result ← recordChange backend lease
      { lease with
        state := .expired
        cleanupAt := some occurredAt }
      { receiptId := receiptIds lease.leaseId
        leaseId := lease.leaseId
        action := .expired
        requestHash := lease.canonicalRequestHash
        occurredAt := occurredAt
        state := .expired
        reasonCode := "SMPP_DIAGNOSTIC_EXPIRED"
        binding := none }
    let results ← expireEach receiptIds occurredAt rest
    return result :: results

def expireDiagnosticLeases (receiptIds : String → String) (occurredAt : Instant) :
    Tx (List SmppDiagnosticControlResult) := do
  let expired ← scan backend fun lease => lease.isLive && decide (lease.expiresAt ≤ occurredAt)
  expireEach backend receiptIds occurredAt expired

end Statements

inductive DiagnosticCall where
  | arm (request : ArmRequest)
  | bind (binding : SmppDiagnosticBinding) (receiptId : String)
  | consume (leaseId requestHash receiptId : String) (occurredAt : Instant)
  | disarm (leaseId requestHash receiptId : String) (occurredAt : Instant)
  | expire (receiptIds : String → String) (occurredAt : Instant)

def DiagnosticCall.time : DiagnosticCall → Instant
  | .arm request => request.now
  | .bind binding _ => binding.observedAt
  | .consume _ _ _ occurredAt => occurredAt
  | .disarm _ _ _ occurredAt => occurredAt
  | .expire _ occurredAt => occurredAt

/-- The transaction of a call; it answers the leases it is about, with their receipts. -/
def DiagnosticCall.tx (backend : Backend) : DiagnosticCall → Tx (List SmppDiagnosticControlResult)
  | .arm request => do
    let result ← armDiagnosticLease backend request
    return [result]
  | .bind binding receiptId => do
    let result ← bindDiagnosticLease backend binding receiptId
    return result.toList
  | .consume leaseId requestHash receiptId occurredAt => do
    let result ← consumeDiagnosticLease backend leaseId requestHash receiptId occurredAt
    return [result]
  | .disarm leaseId requestHash receiptId occurredAt => do
    let result ← disarmDiagnosticLease backend leaseId requestHash receiptId occurredAt
    return [result]
  | .expire receiptIds occurredAt => expireDiagnosticLeases backend receiptIds occurredAt

def run (backend : Backend) : DiagnosticTables → List DiagnosticCall → DiagnosticTables
  | tables, [] => tables
  | tables, call :: rest => run backend ((call.tx backend).commit tables).2 rest

def history (backend : Backend) : DiagnosticTables → List DiagnosticCall →
    List (DiagnosticCall × Except String (List SmppDiagnosticControlResult))
  | _, [] => []
  | tables, call :: rest =>
    (call, ((call.tx backend).commit tables).1) ::
      history backend ((call.tx backend).commit tables).2 rest

end SdarRuntime.Diagnostic
