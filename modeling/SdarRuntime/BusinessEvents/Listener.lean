import SdarRuntime.BusinessEvents.Calls
import SdarRuntime.Notifications.Writer
import SdarRuntime.Persistence.Tables

/-!
A listener on the stream of business events. It is acknowledged at its cursor, replays what is
stored, polls for what is published later, and ends with the continuity record of its stream when
a poll finds the stream rotated.
-/

namespace SdarRuntime

namespace BusinessEvents

open Notifications (RequestId Limits Writer)

structure TaskAuthority where
  authorizationContextHash : String
  executionMode : ExecutionMode
  simulationId : Option String
  deriving DecidableEq

/-- What a read of the listener sees besides the tables: the clock, the authority of the tasks
and their tombstones, the tasks that have one when they are counted, and what the response answers
to the next writes. -/
structure View where
  now : Instant
  authority : String → List TaskAuthority
  counted : String → Bool
  writable : List Bool

structure Projection where
  event : StoredEvent
  relatedTaskIds : List String

def StoredEvent.candidateIds (event : StoredEvent) : List String :=
  match event.scope with
  | .task => event.taskId.toList
  | _ => event.candidateRelatedTaskIds.mergeSort

def TaskAuthority.admits (authority : TaskAuthority) (authorization : AuthorizationContext) : Bool :=
  authority.authorizationContextHash == authorization.hash &&
    authority.executionMode == authorization.executionMode &&
      authority.simulationId == authorization.simulationId

def projectEvent (view : View) (authorization : AuthorizationContext) (event : StoredEvent) :
    Except String (Option Projection) :=
  if event.expiresAt ≤ view.now then .ok none
  else if (event.candidateIds.dedup.filter view.counted).length ≠ event.candidateIds.length then
    .error "BUSINESS_EVENT_RETENTION_AUTHORITY_INVALID"
  else
    let relatedTaskIds := event.candidateIds.filter fun taskId =>
      (view.authority taskId).any (·.admits authorization)
    if relatedTaskIds.isEmpty = true then .ok none
    else
      .ok (some
        { event := event
          relatedTaskIds := relatedTaskIds })

def authorizedEventProjection (tables : Tables) (view : View)
    (authorization : AuthorizationContext) (streamId eventId : String) :
    Except String (Option Projection) :=
  match tables.events.find? fun event => event.streamId == streamId && event.eventId == eventId with
  | none => .ok none
  | some event => projectEvent view authorization event

def bySequence (left right : StoredEvent) : Bool :=
  decide (left.sequence ≤ right.sequence)

/-- The next events of a stream after a sequence and through another one. -/
def replayEvents (tables : Tables) (streamId : String) (afterSequence throughSequence limit : Nat) :
    List StoredEvent :=
  ((tables.events.filter fun event =>
    event.streamId == streamId && decide (afterSequence < event.sequence) &&
      decide (event.sequence ≤ throughSequence)).mergeSort bySequence).take limit

def continuityForPreviousStream (tables : Tables) (previousStreamId : String) :
    Option ContinuityRecord :=
  (tables.continuity.filter fun record => record.previousStreamId == previousStreamId).getLast?

structure SourceIdentity where
  sourceStreamId : String
  sourceSequence : Nat
  sourceEventId : String

inductive Subject where
  | task (taskId : Option String)
  | resource (resourceRef : Option String) (relatedTaskIds : List String) (relatedTaskCount : Nat)
      (relationTruncated : Bool)

structure EventNotification where
  streamId : String
  eventId : String
  sequence : Nat
  sourceId : String
  identity : Option SourceIdentity
  eventType : String
  occurredAt : String
  description : String
  severityHint : Option String
  reasonCode : Option String
  rawPayload : Option Json
  subject : Subject

structure Acknowledgement where
  streamId : String
  generationStatus : GenerationStatus
  acceptedAfterSequence : Nat
  earliestAvailableSequence : Nat
  currentSequence : Nat
  continuityClass : ContinuityClass
  continuousSinceSequence : Option Nat
  degradedSourceIds : List String

inductive Notification where
  | acknowledged (acknowledgement : Acknowledgement)
  | event (notification : EventNotification)
  | continuity (record : ContinuityRecord)

structure Message where
  notification : Notification
  subscriptionId : RequestId

def Projection.notification (projection : Projection) : EventNotification :=
  let event := projection.event
  { streamId := event.streamId
    eventId := event.eventId
    sequence := event.sequence
    sourceId := event.sourceId
    identity :=
      if event.sourceId = "vehicle.business" ∧ event.eventType = "vehicle.business.changed" then
        some
          { sourceStreamId := event.sourceStreamId
            sourceSequence := event.sourceSequence
            sourceEventId := event.sourceEventId }
      else none
    eventType := event.eventType
    occurredAt := event.occurredAt
    description := event.description
    severityHint := event.severityHint
    reasonCode := event.reasonCode
    rawPayload :=
      match event.rawPayload with
      | .null => none
      | payload => some payload
    subject :=
      match event.scope with
      | .task => .task event.taskId
      | _ =>
        .resource event.resourceRef (projection.relatedTaskIds.take 256)
          projection.relatedTaskIds.length (decide (256 < projection.relatedTaskIds.length)) }

inductive Selection where
  | cursor (streamId : String) (afterSequence : Nat)
  | latest
  | earliestAvailable
  deriving DecidableEq

structure ListenRequest where
  id : RequestId
  selection : Selection
  authorization : AuthorizationContext

structure ListenOptions where
  replayBatchSize : Nat
  batch_pos : 0 < replayBatchSize
  maxStreamDurationMs : Nat
  limits : Limits Message

/-- What a listener waits for. A replay is the first one of the stream or that of a poll. -/
inductive Stage where
  | acknowledging
  | readingGeneration (live : Bool)
  | readingEvents (live : Bool)
  | projecting (live : Bool) (events : List StoredEvent)
  | waiting
  | polling
  | readingContinuity
  | ended

structure Listener where
  request : ListenRequest
  streamId : String
  /-- The generation as it was when the cursor was accepted. -/
  generation : Generation
  acceptedAfterSequence : Nat
  startedAt : Instant
  closed : Bool
  lastScannedSequence : Nat
  lastDeliveredSequence : Nat
  throughSequence : Nat
  stage : Stage
  writer : Writer Message
  /-- The events the listener has looked at, each with what it saw then. No step reads them. -/
  examined : List (StoredEvent × View)

def Generation.lastSequence (generation : Generation) : Nat :=
  if generation.status = .replayableClosed then generation.lastReplayableSequence
  else generation.currentSequence

def acceptedAfterSequence (selection : Selection) (generation : Generation) : Nat :=
  match selection with
  | .cursor _ afterSequence => afterSequence
  | .latest => generation.lastSequence
  | .earliestAvailable => generation.earliestAvailableSequence - 1

def validateCursor (afterSequence : Nat) (generation : Generation) : Except String Unit :=
  if generation.lastSequence < afterSequence then .error "BUSINESS_EVENT_CURSOR_AHEAD"
  else if afterSequence + 1 < generation.earliestAvailableSequence then
    .error "BUSINESS_EVENT_CURSOR_EXPIRED"
  else .ok ()

/-- The return of `listen` disposes of the writer. -/
def Listener.finish (listener : Listener) : Listener :=
  { listener with
    stage := .ended
    writer := listener.writer.dispose }

def Listener.poll (options : ListenOptions) (view : View) (listener : Listener) : Listener :=
  if listener.closed = false ∧
      view.now < listener.startedAt.addMilliseconds options.maxStreamDurationMs then
    { listener with stage := .waiting }
  else if listener.closed = false then { listener with writer := listener.writer.close }.finish
  else listener.finish

def Listener.replayed (options : ListenOptions) (view : View) (live : Bool) (listener : Listener) :
    Listener :=
  if live = true then listener.poll options view
  else if listener.closed = true then listener.finish
  else if listener.generation.status = .replayableClosed then
    { listener with stage := .readingContinuity }
  else { listener with startedAt := view.now }.poll options view

def Listener.replay (options : ListenOptions) (view : View) (live : Bool) (listener : Listener) :
    Listener :=
  if listener.lastScannedSequence < listener.throughSequence ∧ listener.closed = false then
    { listener with stage := .readingGeneration live }
  else listener.replayed options view live

def Listener.enqueue (options : ListenOptions) (view : View) (notification : Notification)
    (listener : Listener) : Writer Message × Bool :=
  listener.writer.enqueue options.limits view.writable
    { notification := notification
      subscriptionId := listener.request.id }

def Listener.acknowledgement (roster : List SourceDefinition) (listener : Listener) :
    Acknowledgement :=
  { streamId := listener.streamId
    generationStatus := listener.generation.status
    acceptedAfterSequence := listener.acceptedAfterSequence
    earliestAvailableSequence := listener.generation.earliestAvailableSequence
    currentSequence := listener.generation.lastSequence
    continuityClass := listener.generation.continuityClass
    continuousSinceSequence :=
      if listener.generation.continuityClass = .allDurable then
        some listener.generation.earliestAvailableSequence
      else none
    degradedSourceIds :=
      (roster.filter fun source => source.deliverySemantics == .bestEffortLive).map
        SourceDefinition.sourceId }

def Listener.acknowledge (options : ListenOptions) (tables : Tables) (view : View)
    (listener : Listener) : Listener :=
  let roster := (tables.rosters.get? listener.streamId).getD []
  let enqueued := listener.enqueue options view (.acknowledged (listener.acknowledgement roster))
  if enqueued.2 = true then { listener with writer := enqueued.1 }.replay options view false
  else { listener with writer := enqueued.1 }.finish

def Listener.continueWith (options : ListenOptions) (view : View) (live : Bool)
    (events : List StoredEvent) (listener : Listener) : Listener :=
  match events with
  | [] => listener.replay options view live
  | event :: later => { listener with stage := .projecting live (event :: later) }

def Listener.examine (options : ListenOptions) (tables : Tables) (view : View) (live : Bool)
    (event : StoredEvent) (later : List StoredEvent) (listener : Listener) : Listener :=
  match authorizedEventProjection tables view listener.request.authorization listener.streamId
      event.eventId with
  | .error _ => listener.finish
  | .ok projection =>
    let scanned :=
      { listener with
        lastScannedSequence := event.sequence
        examined := listener.examined ++ [(event, view)] }
    match projection with
    | none => scanned.continueWith options view live later
    | some projection =>
      let enqueued := listener.enqueue options view (.event projection.notification)
      if enqueued.2 = true then
        { scanned with
          lastDeliveredSequence := event.sequence
          writer := enqueued.1 }.continueWith options view live later
      else { scanned with writer := enqueued.1 }.replayed options view live

def Listener.sendContinuity (options : ListenOptions) (tables : Tables) (view : View)
    (listener : Listener) : Listener :=
  match continuityForPreviousStream tables listener.streamId with
  | none => listener
  | some record =>
    { listener with writer := (listener.enqueue options view (.continuity record)).1 }

def Listener.advance (options : ListenOptions) (tables : Tables) (view : View)
    (listener : Listener) : Listener :=
  match listener.stage with
  | .acknowledging => listener.acknowledge options tables view
  | .readingGeneration live =>
    match tables.generations.get? listener.streamId with
    | none => listener.replayed options view live
    | some generation =>
      if generation.status = .retired then listener.replayed options view live
      else { listener with stage := .readingEvents live }
  | .readingEvents live =>
    match replayEvents tables listener.streamId listener.lastScannedSequence
        listener.throughSequence options.replayBatchSize with
    | [] => listener.replayed options view live
    | event :: later => { listener with stage := .projecting live (event :: later) }
  | .projecting live events =>
    match events with
    | [] => listener.replay options view live
    | event :: later => listener.examine options tables view live event later
  | .waiting =>
    if listener.closed = true then listener.finish
    else { listener with stage := .polling }
  | .polling =>
    match tables.generations.get? listener.streamId with
    | none => { listener with stage := .readingContinuity }
    | some observed =>
      if observed.status = .current then
        { listener with throughSequence := observed.currentSequence }.replay options view true
      else { listener with stage := .readingContinuity }
  | .readingContinuity =>
    let sent := listener.sendContinuity options tables view
    { sent with writer := sent.writer.close }.finish
  | .ended => listener

def Listener.disconnect (listener : Listener) : Listener :=
  match listener.stage with
  | .ended => listener
  | _ =>
    { listener with
      closed := true
      writer := listener.writer.dispose }

inductive Connection where
  | connecting
  | selecting (streamId : String) (currentStreamId : String)
  | refused (failure : String)
  | listening (listener : Listener)

def accept (request : ListenRequest) (streamId : String) (generation : Generation) : Connection :=
  let afterSequence := acceptedAfterSequence request.selection generation
  match validateCursor afterSequence generation with
  | .error failure => .refused failure
  | .ok () =>
    .listening
      { request := request
        streamId := streamId
        generation := generation
        acceptedAfterSequence := afterSequence
        startedAt := 0
        closed := false
        lastScannedSequence := afterSequence
        lastDeliveredSequence := afterSequence
        throughSequence := generation.lastSequence
        stage := .acknowledging
        writer := .new
        examined := [] }

def select (request : ListenRequest) (streamId : String) (generation : Option Generation) :
    Connection :=
  match generation with
  | none => .refused "BUSINESS_EVENT_STREAM_RESET"
  | some generation =>
    if generation.status = .retired then .refused "BUSINESS_EVENT_STREAM_RESET"
    else accept request streamId generation

def Connection.advance (options : ListenOptions) (request : ListenRequest) (tables : Tables)
    (view : View) : Connection → Connection
  | .connecting =>
    match tables.current with
    | none => .refused "BUSINESS_EVENT_STREAM_RESET"
    | some currentStreamId =>
      match tables.generations.get? currentStreamId with
      | none => .refused "BUSINESS_EVENT_STREAM_RESET"
      | some current =>
        match request.selection with
        | .cursor streamId _ => .selecting streamId currentStreamId
        | _ => select request currentStreamId (some current)
  | .selecting streamId _ => select request streamId (tables.generations.get? streamId)
  | .refused failure => .refused failure
  | .listening listener => .listening (listener.advance options tables view)

structure Scene where
  tables : Tables
  connection : Connection

inductive Occurrence where
  | call (step : Step)
  | advance (view : View)
  /-- A read of the connection fails. -/
  | failure
  | drained (writable : List Bool)
  | disconnected

def Connection.fail : Connection → Connection
  | .listening listener => .listening listener.finish
  | .refused failure => .refused failure
  | _ => .refused "READ_FAILED"

def Connection.drained (writable : List Bool) : Connection → Connection
  | .listening listener =>
    .listening { listener with writer := listener.writer.drained writable }
  | connection => connection

def Connection.disconnect : Connection → Connection
  | .listening listener => .listening listener.disconnect
  | connection => connection

def Scene.next (environment : Environment) (options : ListenOptions) (request : ListenRequest)
    (scene : Scene) : Occurrence → Scene
  | .call step => { scene with tables := step.commit environment scene.tables }
  | .advance view =>
    { scene with
      connection := scene.connection.advance options request scene.tables view }
  | .failure => { scene with connection := scene.connection.fail }
  | .drained writable => { scene with connection := scene.connection.drained writable }
  | .disconnected => { scene with connection := scene.connection.disconnect }

def Scene.start : Scene :=
  { tables := .empty
    connection := .connecting }

end BusinessEvents

end SdarRuntime
