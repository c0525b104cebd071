import SdarRuntime.BusinessEvents.Calls

/-!
The clients that read one durable source. Each call of `runOnce` acquires the lease, and then
has three activities that go on side by side: the stream and what becomes of it, the handler of
the events, one after the other, and the finalizations, which a timer or the handler asks for.
-/

namespace SdarRuntime

namespace BusinessEvents

structure SourceOptions where
  sourceId : String
  sourceStreamId : String
  leaseMs : Nat
  mappingDeadlineMs : Nat
  eventRetentionMs : Nat

inductive Reading where
  | consuming
  | rotating (reason : String)
  | leaving
  | finished
  deriving DecidableEq, Repr

inductive Handling where
  | idle
  | ingesting (fact : SourceFact)
  | rotating (sourceSequence : Nat)
  | finalizing

/-- The next transaction of a finalization; `left` counts its rounds. -/
inductive Finalizing where
  | idle
  | preparing (left : Nat)
  | finalizing (left : Nat)
  | readingBarrier
  | rotating (barrierId : Nat)
  deriving DecidableEq, Repr

structure Client where
  lease : Lease
  reading : Reading
  handling : Handling
  finalizing : Finalizing
  rotationRequested : Bool

def Client.new (lease : Lease) : Client :=
  { lease := lease
    reading := .consuming
    handling := .idle
    finalizing := .idle
    rotationRequested := false }

/-- What happens to a client: its stream delivers, ends or fails, a finalization begins, or one
of its activities makes its next transaction. -/
inductive ClientEvent where
  | deliver (fact : SourceFact)
  | endStream
  | serviceError (reason : String)
  | beginFinalization
  | finalized
  | handle (readings : Readings)
  | recover (readings : Readings)
  | finalize (readings : Readings)

def rotatingReasons : List String :=
  ["SOURCE_CURSOR_EXPIRED", "SOURCE_STREAM_RESET", "SOURCE_CURSOR_AHEAD", "SOURCE_DATA_LOSS"]

def Client.thrown (client : Client) : Client :=
  { client with
    handling := .idle
    reading := if client.reading = .consuming then .finished else client.reading }

/-- `stopForRotation`. -/
def Client.stopped (client : Client) : Client :=
  { client with rotationRequested := true }

/-- The rotation of a client names its source, and keeps the roster. -/
def rotateSource (options : SourceOptions) (readings : Readings) (reasonCode : String)
    (identity : ContinuityReason) : Tx ContinuityRecord :=
  rotateStream readings reasonCode [options.sourceId] identity none

def Client.handle (environment : Environment) (options : SourceOptions) (readings : Readings)
    (client : Client) (tables : Tables) : Tables × Client :=
  match client.handling with
  | .ingesting fact =>
    let done := (intakeSourceFact environment readings client.lease fact
      options.mappingDeadlineMs).commit tables
    (done.2,
      match done.1 with
      | .ok (.duplicate _) => { client with handling := .idle }
      | .ok (.rejected _ _) => { client with handling := .rotating fact.sourceSequence }
      | .ok (.received _) => { client with handling := .finalizing }
      | .ok (.refused _) => client.thrown
      | .error _ => client.thrown)
  | .rotating sourceSequence =>
    let done := (rotateSource options readings "SOURCE_POISON_EVENT"
      (.poison options.sourceStreamId sourceSequence)).commit tables
    (done.2,
      match done.1 with
      | .ok _ => { client.stopped with handling := .idle }
      | .error _ => client.thrown)
  | _ => (tables, client)

def Client.recover (options : SourceOptions) (readings : Readings) (client : Client)
    (tables : Tables) : Tables × Client :=
  match client.reading with
  | .rotating reason =>
    (((rotateSource options readings reason (.cursor options.sourceStreamId reason
      client.lease.lastPersistedSourceSequence)).commit tables).2,
      { client with reading := .finished })
  | .leaving =>
    (((markSourceUnavailable client.lease).commit tables).2, { client with reading := .finished })
  | _ => (tables, client)

def nextRound (left : Nat) : Finalizing :=
  if left = 0 then .idle else .preparing (left - 1)

def Client.finalize (environment : Environment) (options : SourceOptions) (readings : Readings)
    (client : Client) (tables : Tables) : Tables × Client :=
  match client.finalizing with
  | .idle => (tables, client)
  | .preparing left =>
    let done := (prepareNextSourceEvent readings options.sourceId).commit tables
    (done.2,
      { client with
        finalizing :=
          match done.1 with
          | .ok .ready => .finalizing left
          | .ok .terminal => .readingBarrier
          | _ => .idle })
  | .finalizing left =>
    let done := (finalizeNextSourceEvent environment readings options.sourceId
      options.eventRetentionMs).commit tables
    (done.2,
      { client with
        finalizing :=
          match done.1 with
          | .ok (some _) => nextRound left
          | _ => .idle })
  | .readingBarrier =>
    let done := (terminalSourceBarrierId options.sourceId options.sourceStreamId).commit tables
    (done.2,
      { client with
        finalizing :=
          match done.1 with
          | .ok (some barrierId) => .rotating barrierId
          | _ => .idle })
  | .rotating barrierId =>
    let done := (rotateSource options readings "SOURCE_MAPPING_FAILED"
      (.mappingInbox options.sourceStreamId barrierId)).commit tables
    (done.2,
      match done.1 with
      | .ok _ => { client.stopped with finalizing := .idle }
      | .error _ => { client with finalizing := .idle })

/-- The timer asks for finalizations until the call is over or stops for a rotation, and so does
the handler after an event. -/
def Client.asksFinalization (client : Client) : Bool :=
  (client.reading != .finished && !client.rotationRequested) ||
    match client.handling with
    | .finalizing => true
    | _ => false

/-- What an event does. The handler goes on when the finalization it waits for is over. -/
def Client.on (environment : Environment) (options : SourceOptions) (client : Client)
    (tables : Tables) : ClientEvent → Tables × Client
  | .deliver fact =>
    match client.reading, client.handling with
    | .consuming, .idle =>
      if client.rotationRequested then (tables, client)
      else (tables, { client with handling := .ingesting fact })
    | _, _ => (tables, client)
  | .endStream =>
    match client.reading, client.handling with
    | .consuming, .idle => (tables, { client with reading := .finished })
    | _, _ => (tables, client)
  | .serviceError reason =>
    if client.reading = .consuming then
      (tables,
        { client with
          reading :=
            if client.rotationRequested then .finished
            else if rotatingReasons.contains reason then .rotating reason
            else .leaving })
    else (tables, client)
  | .beginFinalization =>
    if client.finalizing = .idle ∧ client.asksFinalization = true then
      (tables, { client with finalizing := .preparing 99 })
    else (tables, client)
  | .finalized =>
    match client.handling with
    | .finalizing => (tables, { client with handling := .idle })
    | _ => (tables, client)
  | .handle readings => client.handle environment options readings tables
  | .recover readings => client.recover options readings tables
  | .finalize readings => client.finalize environment options readings tables

structure SourceSystem where
  tables : Tables
  clients : List Client

/-- A call of `runOnce` begins, something happens to a client, or the process of one is gone. -/
inductive SourceAction where
  | runOnce (replicaId : String) (readings : Readings)
  | on (index : Nat) (event : ClientEvent)
  | crash (index : Nat)

def SourceSystem.perform (environment : Environment) (options : SourceOptions)
    (system : SourceSystem) : SourceAction → SourceSystem
  | .runOnce replicaId readings =>
    let done := (acquireSourceLease readings options.sourceId options.sourceStreamId replicaId
      options.leaseMs).commit system.tables
    { tables := done.2
      clients :=
        match done.1 with
        | .ok (some lease) => system.clients ++ [.new lease]
        | _ => system.clients }
  | .on index event =>
    match system.clients[index]? with
    | some client =>
      let done := client.on environment options system.tables event
      { tables := done.1
        clients := system.clients.set index done.2 }
    | none => system
  | .crash index => { system with clients := system.clients.eraseIdx index }

/-- The provider is initialized, and no client reads the source yet. -/
def SourceSystem.initial (readings : Readings) (roster : List SourceDefinition) : SourceSystem :=
  { tables := Tables.empty.initialized readings roster
    clients := [] }

abbrev SourceSystem.after (environment : Environment) (options : SourceOptions) :
    SourceSystem → List SourceAction → SourceSystem :=
  Histories.after (SourceSystem.perform environment options)

end BusinessEvents

end SdarRuntime
