import SdarRuntime.Domain.Time
import SdarRuntime.Library.Histories
import SdarRuntime.Library.Json
import SdarRuntime.Library.OrderedMap

/-!
The delivery of provider-ops records. Workers claim records that are due or whose lease has
expired, and report what became of each; a report is fenced by the state of the record and the
owner of its claim. An attempt is one claim of one record, which may report at any time, more than
once, or never.
-/

namespace SdarRuntime

namespace ProviderOps

inductive DeliveryState where
  | pending
  | claimed (owner : String) (claimUntil : Instant)
  | retryWait
  | delivered
  | exhausted
  deriving DecidableEq

structure DeliveryRecord where
  recordId : String
  eventKey : String
  recordBody : Json
  state : DeliveryState
  attemptCount : Nat
  nextAttemptAt : Instant
  createdAt : Instant
  deliveredAt : Option Instant
  /-- Code and message. -/
  lastError : Option (String × String)

abbrev Deliveries := OrderedMap String DeliveryRecord

inductive RangeError where
  | leaseInvalid
  | batchInvalid
  deriving DecidableEq

def RangeError.message : RangeError → String
  | leaseInvalid => "PROVIDER_OPS_LEASE_INVALID"
  | batchInvalid => "PROVIDER_OPS_BATCH_INVALID"

/-- A record whose event is captured already is left as it is; a second record of one id is a
violation of the primary key. -/
def captureProviderOpsDelivery (deliveries : Deliveries) (recordId eventKey : String)
    (recordBody : Json) (clock : Instant) : Deliveries :=
  if deliveries.values.any (fun record => record.eventKey == eventKey) then deliveries
  else if (deliveries.get? recordId).isSome then deliveries
  else deliveries.set recordId {
    recordId := recordId
    eventKey := eventKey
    recordBody := recordBody
    state := .pending
    attemptCount := 0
    nextAttemptAt := clock
    createdAt := clock
    deliveredAt := none
    lastError := none
  }

structure ClaimRequest where
  ownerId : String
  leaseMilliseconds : Int
  limit : Int
  now : Option Instant

def assertClaimRequest (request : ClaimRequest) : Except RangeError Unit :=
  if request.leaseMilliseconds < 1 then .error .leaseInvalid
  else if request.limit < 1 ∨ 10000 < request.limit then .error .batchInvalid
  else .ok ()

def isDue (now : Instant) (record : DeliveryRecord) : Bool :=
  match record.state with
  | .pending => decide (record.nextAttemptAt ≤ now)
  | .retryWait => decide (record.nextAttemptAt ≤ now)
  | .claimed _ claimUntil => decide (claimUntil ≤ now)
  | .delivered => false
  | .exhausted => false

def isMissionEvidence (recordBody : Json) : Bool :=
  ["sdar.evidence.authority", "sdar.mission.authority"].any fun authority =>
    (((recordBody.field? "attributes").bind (Json.field? authority)).bind Json.text?) ==
      some "navigation_dispatch_receipt_v1"

def claimOrder (record : DeliveryRecord) : Nat × Instant × Instant × String :=
  (if isMissionEvidence record.recordBody then 0 else 1,
    match record.state with
    | .claimed _ claimUntil => claimUntil
    | _ => record.nextAttemptAt,
    record.createdAt, record.recordId)

def claimedEarlier (left right : DeliveryRecord) : Bool :=
  let (evidence, due, created, id) := claimOrder left
  let (evidence', due', created', id') := claimOrder right
  decide (evidence < evidence') || (decide (evidence = evidence') &&
    (decide (due < due') || (decide (due = due') &&
      (decide (created < created') || (decide (created = created') && decide (id ≤ id'))))))

/-- `FOR UPDATE SKIP LOCKED LIMIT`: records that other statements hold are passed over. -/
def candidates (now : Instant) (locked : String → Bool) (request : ClaimRequest)
    (deliveries : Deliveries) : List DeliveryRecord :=
  (((deliveries.values.filter (isDue now)).mergeSort claimedEarlier).filter
    fun record => !locked record.recordId).take request.limit.toNat

def claimedRecord (now : Instant) (request : ClaimRequest) (record : DeliveryRecord) :
    DeliveryRecord := {
  record with
  state := .claimed request.ownerId (now.addMilliseconds request.leaseMilliseconds)
  attemptCount := record.attemptCount + 1
}

def claimDue (deliveries : Deliveries) (request : ClaimRequest) (clock : Instant)
    (locked : String → Bool) : Except RangeError (List DeliveryRecord × Deliveries) :=
  match assertClaimRequest request with
  | .error error => .error error
  | .ok _ =>
    let now := request.now.getD clock
    let taken := candidates now locked request deliveries
    .ok (taken.map (claimedRecord now request), deliveries.filterMap fun record =>
      some (if taken.any (fun candidate => candidate.recordId == record.recordId) then
        claimedRecord now request record else record))

def claimedBy (deliveries : Deliveries) (recordId ownerId : String) : Option DeliveryRecord :=
  (deliveries.get? recordId).filter fun record =>
    match record.state with
    | .claimed owner _ => owner == ownerId
    | _ => false

def markDelivered (deliveries : Deliveries) (recordId ownerId : String) (clock : Instant) :
    Deliveries × Bool :=
  match claimedBy deliveries recordId ownerId with
  | none => (deliveries, false)
  | some record =>
    (deliveries.set recordId { record with
      state := .delivered
      deliveredAt := some clock }, true)

def boundedError (message : String) : String :=
  String.ofList ((message.toList.map fun char =>
    if char = '\r' ∨ char = '\n' ∨ char = '\t' then ' ' else char).take 512)

structure Failure where
  errorCode : String
  errorMessage : String
  failedAt : Instant
  maximumAttempts : Int

def retryDelay (hashtext : String → Int) (record : DeliveryRecord) : Int :=
  min 300000 (1000 * 2 ^ min (record.attemptCount - 1) 8) +
    (hashtext record.recordId + 2147483648) % 251

def failedRecord (hashtext : String → Int) (failure : Failure) (record : DeliveryRecord) :
    DeliveryRecord := {
  record with
  state := if failure.maximumAttempts ≤ record.attemptCount then .exhausted else .retryWait
  nextAttemptAt := failure.failedAt.addMilliseconds (retryDelay hashtext record)
  lastError := some (failure.errorCode, boundedError failure.errorMessage)
}

def recordFailure (hashtext : String → Int) (deliveries : Deliveries) (recordId ownerId : String)
    (failure : Failure) : Deliveries × Option DeliveryState :=
  match claimedBy deliveries recordId ownerId with
  | none => (deliveries, none)
  | some record =>
    let failed := failedRecord hashtext failure record
    (deliveries.set recordId failed, some failed.state)

/-- The claim of a record that brought its count of attempts to the number. -/
structure Attempt where
  recordId : String
  ownerId : String
  number : Nat
  deriving DecidableEq

inductive Outcome where
  | delivered (clock : Instant)
  | failed (failure : Failure)

structure DeliverySystem where
  deliveries : Deliveries
  attempts : List Attempt

inductive Event where
  | capture (recordId eventKey : String) (recordBody : Json) (clock : Instant)
  | claimDue (request : ClaimRequest) (clock : Instant) (locked : String → Bool)
  | report (attempt : Attempt) (outcome : Outcome)

namespace DeliverySystem

def initial : DeliverySystem := {
  deliveries := OrderedMap.empty
  attempts := []
}

def attemptOf (ownerId : String) (record : DeliveryRecord) : Attempt := {
  recordId := record.recordId
  ownerId := ownerId
  number := record.attemptCount
}

def reported (hashtext : String → Int) (deliveries : Deliveries) (attempt : Attempt) :
    Outcome → Deliveries
  | .delivered clock => (markDelivered deliveries attempt.recordId attempt.ownerId clock).1
  | .failed failure =>
    (recordFailure hashtext deliveries attempt.recordId attempt.ownerId failure).1

def next (hashtext : String → Int) (system : DeliverySystem) : Event → DeliverySystem
  | .capture recordId eventKey recordBody clock => { system with
      deliveries :=
        captureProviderOpsDelivery system.deliveries recordId eventKey recordBody clock }
  | .claimDue request clock locked =>
    match claimDue system.deliveries request clock locked with
    | .error _ => system
    | .ok (records, deliveries) => {
        deliveries := deliveries
        attempts := system.attempts ++ records.map (attemptOf request.ownerId) }
  | .report attempt outcome =>
    if attempt ∈ system.attempts then { system with
      deliveries := reported hashtext system.deliveries attempt outcome }
    else system

end DeliverySystem

end ProviderOps

end SdarRuntime
