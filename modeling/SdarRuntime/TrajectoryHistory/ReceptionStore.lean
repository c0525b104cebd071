import SdarRuntime.TrajectoryHistory.Proof
import SdarRuntime.Library.Transaction
import SdarRuntime.Domain.Time

/-!
The reception tables of one stream and the transactions on them: admission of a receipt,
sessions, the reads of the history reader, and the owner's retention procedure. Every
transaction takes the stream's advisory lock first, so transactions of one stream follow one
another.
-/

namespace SdarRuntime

namespace TrajectoryHistory

open Transaction TrajectoryHistory

inductive SessionState where
  | opened
  | cleanClosed
  | unclean
  deriving DecidableEq

structure StreamRow where
  scope : ReceptionScope
  highWatermark : Nat
  capturedAt : String
  genesisHash : String
  headHash : String
  prunedThrough : Nat
  prunedHeadHash : String
  captureFailureCount : Nat

structure SessionRow where
  sessionId : String
  state : SessionState
  disconnectCount : Nat

structure ReceptionRow where
  sequence : Nat
  receptionId : String
  sessionId : String
  receipt : Json
  recordedAt : String
  previousHash : String
  hash : String

structure SnapshotRow where
  snapshotId : String
  subjectHash : String
  signedManifest : SignedHistoryManifest
  maxPageBytes : Nat
  pageLimit : Nat
  expiresAt : Instant

structure Tables where
  stream : StreamRow
  sessions : List SessionRow
  receptions : List ReceptionRow
  snapshots : List SnapshotRow

/-- Column types of the database: a uuid is kept in one spelling, a JSON column gives back the
value it was given or refuses it. -/
structure Database where
  uuid : String → String
  jsonb : Json → Option Json

variable {PublicKey SigningKey : Type} (platform : Platform PublicKey SigningKey)
  (database : Database)

def identityJson (scope : ReceptionScope) : Json :=
  .obj ([("providerId", .str scope.providerId), ("resourceId", .str scope.resourceId),
    ("deviceId", .str scope.deviceId),
    ("deviceIdentityAuthority", .str scope.deviceIdentityAuthority.text),
    ("sourceSessionKey", .str scope.sourceSessionKey)] ++
    optionalMember "smppServiceKey" scope.smppServiceKey ++
    optionalMember "bindingId" scope.bindingId)

def identityHash (scope : ReceptionScope) : String :=
  historySha256 platform (identityJson scope).canonicalize

def genesisHash (scope : ReceptionScope) : String :=
  historySha256 platform ("SMPP_TRAJECTORY_GENESIS_V1\x00" ++ identityHash platform scope)

/-- The stream as `initialize` inserts it. -/
def Tables.created (scope : ReceptionScope) (capturedAt : String) : Tables := {
  stream := {
    scope
    highWatermark := 0
    capturedAt
    genesisHash := genesisHash platform scope
    headHash := genesisHash platform scope
    prunedThrough := 0
    prunedHeadHash := genesisHash platform scope
    captureFailureCount := 0 }
  sessions := []
  receptions := []
  snapshots := [] }

structure ReceptionStreamState where
  scope : ReceptionScope
  highWatermark : String
  capturedAt : String
  genesisHash : String
  headHash : String
  prunedThrough : String
  prunedHeadHash : String
  captureFailureCount : Nat

def streamState (tables : Tables) : Except String ReceptionStreamState := do
  return {
    scope := ← parsed (ReceptionScope.parse platform.formats tables.stream.scope.toJson)
    highWatermark := toString tables.stream.highWatermark
    capturedAt := tables.stream.capturedAt
    genesisHash := tables.stream.genesisHash
    headHash := tables.stream.headHash
    prunedThrough := toString tables.stream.prunedThrough
    prunedHeadHash := tables.stream.prunedHeadHash
    captureFailureCount := tables.stream.captureFailureCount }

def entryOf (sequence previousHash hash : String) (receipt : Json) (recordedAt : String) :
    Except String ReceptionEntry :=
  parsed (ReceptionEntry.parse platform.formats
    (ReceptionEntry.toJson { sequence, previousHash, hash, receipt, recordedAt }))

def ReceptionRow.entry (row : ReceptionRow) : Except String ReceptionEntry :=
  entryOf platform (toString row.sequence) row.previousHash row.hash row.receipt row.recordedAt

def readRange (tables : Tables) (first through limit : Nat) : Except String (List ReceptionEntry) :=
  ((tables.receptions.filter fun row =>
      decide (first ≤ row.sequence) && decide (row.sequence ≤ through)).insertionSort
    (fun left right => left.sequence ≤ right.sequence)).take limit |>.mapM
    (ReceptionRow.entry platform)

def countRange (tables : Tables) (first through : Nat) : String :=
  toString (tables.receptions.countP fun row =>
    decide (first ≤ row.sequence) && decide (row.sequence ≤ through))

def recovery (tables : Tables) : Except String Recovery := do
  return {
    uncleanSessionCount := tables.sessions.countP fun row => row.state == .unclean
    disconnectCount := (tables.sessions.map SessionRow.disconnectCount).sum
    captureFailureCount := (← streamState platform tables).captureFailureCount }

def insertReception (row : ReceptionRow) : Transaction Tables String Unit := do
  let tables ← read
  if tables.receptions.any (fun stored =>
      stored.sequence == row.sequence || stored.receptionId == row.receptionId) then
    abort "23505"
  else if 9223372036854775807 < row.sequence then
    abort "22003"
  else if !sha256Pattern row.previousHash || !sha256Pattern row.hash then
    abort "23514"
  else
    update fun tables => { tables with receptions := tables.receptions ++ [row] }

/-- A receipt whose identity is stored: the same one is answered with the stored entry. -/
def repeated (prior : ReceptionRow) (receipt : Json) : Transaction Tables String ReceptionEntry := do
  let stored ← lift (historyCanonicalJson prior.receipt)
  let offered ← lift (historyCanonicalJson receipt)
  if stored ≠ offered then
    abort "HISTORY_RECEPTION_ID_CONFLICT"
  else
    lift (prior.entry platform)

/-- A receipt whose identity is not stored, from the tables the transaction has read. -/
def appendReception (scope : ReceptionScope) (recordedAt : String) (receipt : Json)
    (receptionId sessionId : String) (tables : Tables) :
    Transaction Tables String ReceptionEntry :=
  if tables.sessions.countP (fun row =>
      row.sessionId == database.uuid sessionId && row.state == .opened) ≠ 1 then
    abort "HISTORY_RECEPTION_SESSION_INVALID"
  else do
    let state ← lift (streamState platform tables)
    let sequence := bigInt state.highWatermark + 1
    let hash ← lift
      (receptionHash platform scope (toString sequence) state.headHash receipt recordedAt)
    match database.jsonb receipt with
    | none => abort "22P05"
    | some column =>
      insertReception {
        sequence
        receptionId := database.uuid receptionId
        sessionId := database.uuid sessionId
        receipt := column
        recordedAt
        previousHash := state.headHash
        hash }
      update fun tables => { tables with
        stream := { tables.stream with highWatermark := sequence, headHash := hash } }
      lift (entryOf platform (toString sequence) state.headHash hash receipt recordedAt)

/-- `append`; the reading is the database's clock. -/
def append (scope : ReceptionScope) (recordedAt : String) (input : Json) :
    Transaction Tables String ReceptionEntry :=
  if (ReceptionReceiptSchema platform.formats).accepts input then
    match textMember "receptionId" input, textMember "sessionId" input with
    | some receptionId, some sessionId => do
      let tables ← read
      match tables.receptions.find? (fun row => row.receptionId == database.uuid receptionId) with
      | some prior => repeated platform prior input
      | none => appendReception platform database scope recordedAt input receptionId sessionId tables
    | _, _ => abort "ZodError"
  else abort "ZodError"

def beginSession (sessionId : String) : Transaction Tables String Unit := do
  update fun tables => { tables with
    sessions := tables.sessions.map fun row =>
      if row.state = .opened then { row with state := .unclean } else row }
  let tables ← read
  if tables.sessions.any fun row => row.sessionId == sessionId then
    abort "23505"
  else
    update fun tables => { tables with
      sessions := tables.sessions ++ [{ sessionId, state := .opened, disconnectCount := 0 }] }

def closeSession (sessionId : String) : Transaction Tables String Unit :=
  update fun tables => { tables with
    sessions := tables.sessions.map fun row =>
      if row.sessionId = sessionId ∧ row.state = .opened then { row with state := .cleanClosed }
      else row }

def recordDisconnect (sessionId : String) : Transaction Tables String Unit :=
  update fun tables => { tables with
    sessions := tables.sessions.map fun row =>
      if row.sessionId = sessionId then { row with disconnectCount := row.disconnectCount + 1 }
      else row }

def recordCaptureFailure : Transaction Tables String Unit :=
  update fun tables => { tables with
    stream := { tables.stream with
      captureFailureCount := tables.stream.captureFailureCount + 1 } }

def saveSnapshot (row : SnapshotRow) : Transaction Tables String Unit := do
  let tables ← read
  if tables.snapshots.any fun stored => stored.snapshotId == row.snapshotId then
    abort "23505"
  else
    update fun tables => { tables with snapshots := tables.snapshots ++ [row] }

def loadSnapshot (snapshotId subjectHash : String) (now : Instant) (tables : Tables) :
    Except String SnapshotRow :=
  match tables.snapshots.find? (fun row => row.snapshotId == snapshotId &&
      row.subjectHash == subjectHash && decide (now < row.expiresAt)) with
  | some row => .ok row
  | none => .error "HISTORY_SNAPSHOT_UNAVAILABLE_OR_UNAUTHORIZED"

/-- `ugv_trajectory_history_prune`, run by the role the first argument tells. -/
def prune (owner : Bool) (through : Nat) (now : Instant) : Transaction Tables String Nat := do
  let tables ← read
  if owner = false then
    abort "TRAJECTORY_RETENTION_OWNER_REQUIRED"
  else if through < tables.stream.prunedThrough ∨ tables.stream.highWatermark < through then
    abort "TRAJECTORY_RETENTION_BOUNDARY_INVALID"
  else if through = tables.stream.prunedThrough then
    pure 0
  else
    match tables.receptions.find? (fun row => row.sequence == through) with
    | none => abort "P0002"
    | some anchor =>
      update fun tables => { tables with
        stream := { tables.stream with
          prunedThrough := through
          prunedHeadHash := anchor.hash }
        receptions := tables.receptions.filter fun row => decide (through < row.sequence)
        snapshots := tables.snapshots.filter fun row => !decide (row.expiresAt < now) }
      pure (tables.receptions.countP fun row => decide (row.sequence ≤ through))

/-- What happens to a stream. A crash after the commit is an append whose answer nobody reads. -/
inductive Event where
  | append (recordedAt : String) (input : Json)
  | crashBeforeCommit
  | beginSession (sessionId : String)
  | closeSession (sessionId : String)
  | recordDisconnect (sessionId : String)
  | recordCaptureFailure
  | saveSnapshot (row : SnapshotRow)
  | prune (owner : Bool) (through : Nat) (now : Instant)

def step (scope : ReceptionScope) (tables : Tables) : Event → Tables
  | .append recordedAt input =>
    ((append platform database scope recordedAt input).commit tables).2
  | .crashBeforeCommit => tables
  | .beginSession sessionId => ((beginSession sessionId).commit tables).2
  | .closeSession sessionId => ((closeSession sessionId).commit tables).2
  | .recordDisconnect sessionId => ((recordDisconnect sessionId).commit tables).2
  | .recordCaptureFailure => (recordCaptureFailure.commit tables).2
  | .saveSnapshot row => ((saveSnapshot row).commit tables).2
  | .prune owner through now => ((prune owner through now).commit tables).2

end TrajectoryHistory

end SdarRuntime
