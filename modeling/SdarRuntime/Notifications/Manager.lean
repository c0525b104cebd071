import Mathlib.Data.List.Dedup
import SdarRuntime.Library.OrderedMap
import SdarRuntime.Notifications.Writer
import SdarRuntime.Persistence.Tables

/-!
The subscriptions to task notifications. A subscription is registered before its first snapshots
are loaded, one timer polls for all of them, and a cancel aborts the one it names.
-/

namespace SdarRuntime

namespace Notifications

structure Snapshot where
  runtimeRevision : Nat
  status : String
  body : Json

inductive Content where
  | acknowledged (taskIds : List String)
  /-- The snapshot of a task, which names it. -/
  | task (taskId : String) (snapshot : Snapshot)

structure TaskMessage where
  subscriptionId : RequestId
  content : Content

structure ManagerOptions where
  maxSubscriptions : Nat
  maxSubscriptionsPerAuth : Nat
  maxTaskBindings : Nat
  batchSize : Nat
  batch_pos : 0 < batchSize
  limits : Limits TaskMessage
  /-- The text of a snapshot. -/
  stringify : Snapshot → String
  /-- What the response of a subscription answers to each of its writes. -/
  writable : Nat → Nat → Bool

structure NotificationState where
  revision : Nat
  signature : String
  terminal : Bool
  deriving DecidableEq

def notificationState (options : ManagerOptions) (snapshot : Snapshot) : NotificationState :=
  { revision := snapshot.runtimeRevision
    signature := options.stringify snapshot
    terminal := ["completed", "failed", "cancelled"].contains snapshot.status }

inductive PollFailure where
  | revisionRegression
  | revisionConflict
  | terminalRegression
  | engine (failure : String)
  deriving DecidableEq

def PollFailure.text : PollFailure → String
  | .revisionRegression => "TASK_NOTIFICATION_REVISION_REGRESSION"
  | .revisionConflict => "TASK_NOTIFICATION_REVISION_CONFLICT"
  | .terminalRegression => "TASK_NOTIFICATION_TERMINAL_REGRESSION"
  | .engine failure => failure

/-- The snapshots of some tasks, batch after batch. The engine answers the current batch at some
moment, and the answer is taken up later. -/
structure Load where
  batch : List String
  later : List (List String)
  answer : Option (List (String × Snapshot))
  loaded : OrderedMap String Snapshot

def batches (size : Nat) (taskIds : List String) : List (List String) :=
  (List.range ((taskIds.length + size - 1) / size)).map fun index =>
    (taskIds.drop (index * size)).take size

def Load.start (options : ManagerOptions) (taskIds : List String) : Load :=
  match batches options.batchSize taskIds with
  | [] =>
    { batch := []
      later := []
      answer := some []
      loaded := .empty }
  | batch :: later =>
    { batch := batch
      later := later
      answer := none
      loaded := .empty }

/-- The engine answers with the tasks that the authorization may see. -/
def Load.read (tasks : String → Snapshot) (visible : String → Bool) (load : Load) : Load :=
  match load.answer with
  | some _ => load
  | none =>
    { load with
      answer := some ((load.batch.filter visible).map fun taskId => (taskId, tasks taskId)) }

inductive Progress where
  | reading (load : Load)
  | loaded (snapshots : OrderedMap String Snapshot)

def Load.resume (load : Load) : Progress :=
  match load.answer with
  | none => .reading load
  | some answer =>
    match load.later with
    | [] => .loaded (load.loaded.setAll answer)
    | batch :: later =>
      .reading
        { batch := batch
          later := later
          answer := none
          loaded := load.loaded.setAll answer }

inductive SubscriptionStage where
  | loading (load : Load)
  | waiting
  /-- The request was answered; where it failed its handler has ended the response. -/
  | returned (failed : Bool)

structure Subscription where
  wireRequestId : RequestId
  transportScopeId : String
  authorization : AuthorizationContext
  acceptedTaskIds : List String
  revisions : OrderedMap String NotificationState
  writer : Writer TaskMessage
  cancelled : Bool
  responseClosed : Bool
  stage : SubscriptionStage

def authorizationScope (authorization : AuthorizationContext) : String :=
  String.intercalate ":"
    [authorization.hash, authorization.executionMode.text, authorization.simulationId.getD ""]

def Subscription.registered (subscription : Subscription) : Bool :=
  match subscription.stage with
  | .returned _ => false
  | _ => true

def Subscription.loads (subscription : Subscription) : Bool :=
  match subscription.stage with
  | .loading _ => true
  | _ => false

/-- The response of the subscription was ended, or closed by its client. -/
def Subscription.ended (subscription : Subscription) : Bool :=
  subscription.writer.ended || subscription.responseClosed ||
    match subscription.stage with
    | .returned failed => failed
    | _ => false

def Subscription.enqueue (options : ManagerOptions) (id : Nat) (content : Content)
    (subscription : Subscription) : Subscription × Bool :=
  let enqueued := subscription.writer.enqueue options.limits
    [options.writable id subscription.writer.written.length]
    { subscriptionId := subscription.wireRequestId
      content := content }
  ({ subscription with writer := enqueued.1 }, enqueued.2)

def Subscription.release (failed : Bool) (subscription : Subscription) : Subscription :=
  { subscription with
    writer := subscription.writer.dispose
    stage := .returned failed }

def Subscription.know (options : ManagerOptions) (taskId : String) (snapshot : Snapshot)
    (subscription : Subscription) : Subscription :=
  { subscription with
    revisions := subscription.revisions.set taskId (notificationState options snapshot) }

/-- The revision of a snapshot is kept, then its notification is enqueued. -/
def Subscription.tell (options : ManagerOptions) (id : Nat) (taskId : String)
    (snapshot : Snapshot) (subscription : Subscription) : Subscription × Bool :=
  (subscription.know options taskId snapshot).enqueue options id (.task taskId snapshot)

/-- The first notification of each task, until the writer takes no more. -/
def announce (options : ManagerOptions) (id : Nat) (snapshots : OrderedMap String Snapshot) :
    List String → Subscription → Subscription × Bool
  | [], subscription => (subscription, true)
  | taskId :: later, subscription =>
    match snapshots.get? taskId with
    | none => announce options id snapshots later subscription
    | some snapshot =>
      let told := subscription.tell options id taskId snapshot
      if told.2 = true then announce options id snapshots later told.1
      else (told.1, false)

/-- What `listen` does once it has the snapshots. -/
def Subscription.begin (options : ManagerOptions) (id : Nat)
    (snapshots : OrderedMap String Snapshot) (subscription : Subscription) : Subscription :=
  let accepted := snapshots.keys.mergeSort
  let acknowledged :=
    { subscription with acceptedTaskIds := accepted }.enqueue options id (.acknowledged accepted)
  if acknowledged.2 = false then acknowledged.1.release false
  else
    let announced := announce options id snapshots accepted acknowledged.1
    if announced.2 = false then announced.1.release false
    else if accepted.isEmpty = true then
      { announced.1 with writer := announced.1.writer.close }.release false
    else { announced.1 with stage := .waiting }

/-- The signal is aborted once; a subscription that waits ends its response then. -/
def Subscription.cancel (subscription : Subscription) : Subscription :=
  if subscription.cancelled = true then subscription
  else
    match subscription.stage with
    | .waiting =>
      { subscription with
        cancelled := true
        writer := subscription.writer.close }.release false
    | _ => { subscription with cancelled := true }

/-- The response was closed; only a subscription that waits is told. -/
def Subscription.disconnect (subscription : Subscription) : Subscription :=
  match subscription.stage with
  | .waiting => { subscription with responseClosed := true }.release false
  | _ => { subscription with responseClosed := true }

def Subscription.drained (options : ManagerOptions) (id : Nat) (subscription : Subscription) :
    Subscription :=
  { subscription with
    writer := subscription.writer.drained
      ((List.range subscription.writer.queue.length).map fun index =>
        options.writable id (subscription.writer.written.length + index)) }

def deliverChangedSnapshot (options : ManagerOptions) (id : Nat) (taskId : String)
    (snapshot : Snapshot) (subscription : Subscription) : Except PollFailure Subscription :=
  let next := notificationState options snapshot
  let deliver := (subscription.tell options id taskId snapshot).1
  match subscription.revisions.get? taskId with
  | none => .ok deliver
  | some previous =>
    if next.revision < previous.revision then .error .revisionRegression
    else if previous.revision = next.revision then
      if previous.signature ≠ next.signature then .error .revisionConflict
      else .ok subscription
    else if previous.terminal = true ∧ next.terminal = false then .error .terminalRegression
    else .ok deliver

/-- A poll goes through the groups of subscriptions that share an authorization. -/
structure Poll where
  group : List Nat
  load : Load
  later : List (List Nat)

structure Manager where
  /-- The tasks of the engine. -/
  tasks : String → Snapshot
  subscriptions : OrderedMap Nat Subscription
  nextId : Nat
  timer : Bool
  poll : Option Poll
  /-- Why polls have failed. No step reads it. -/
  failures : List PollFailure

def Manager.put (id : Nat) (subscription : Subscription) (manager : Manager) : Manager :=
  let subscriptions := manager.subscriptions.set id subscription
  { manager with
    subscriptions := subscriptions
    timer := manager.timer && subscriptions.values.any Subscription.registered }

def Manager.registered (manager : Manager) : List (Nat × Subscription) :=
  manager.subscriptions.entries.filter fun entry => entry.2.registered

def parseTaskIds (taskIds : List String) : Except String (List String) :=
  if 256 < taskIds.length ∨ taskIds.any String.isEmpty = true then .error "Invalid params"
  else .ok taskIds.dedup.mergeSort

def Manager.atCapacity (options : ManagerOptions) (scope : String) (requestedBindings : Nat)
    (manager : Manager) : Bool :=
  let registered := manager.registered
  let perAuthorization := registered.countP fun entry =>
    authorizationScope entry.2.authorization == scope
  let taskBindings := (registered.map fun entry => entry.2.acceptedTaskIds.length).sum
  decide (options.maxSubscriptions ≤ registered.length) ||
    decide (options.maxSubscriptionsPerAuth ≤ perAuthorization) ||
      decide (options.maxTaskBindings < taskBindings + requestedBindings)

structure TaskListenRequest where
  id : RequestId
  taskIds : List String
  authorization : AuthorizationContext
  transportScopeId : String

def Subscription.answers (id : RequestId) (transportScopeId : String)
    (subscription : Subscription) : Bool :=
  subscription.transportScopeId == transportScopeId && subscription.wireRequestId == id

/-- The part of `listen` before its first wait. -/
def Manager.listen (options : ManagerOptions) (request : TaskListenRequest) (manager : Manager) :
    Except String Manager :=
  match parseTaskIds request.taskIds with
  | .error failure => .error failure
  | .ok requestedTaskIds =>
    let scope := authorizationScope request.authorization
    if manager.atCapacity options scope requestedTaskIds.length = true then
      .error "TASK_NOTIFICATION_CAPACITY_EXCEEDED"
    else if (manager.registered.any fun entry =>
        entry.2.answers request.id request.transportScopeId &&
          authorizationScope entry.2.authorization == scope) = true then
      .error "Invalid params"
    else
      .ok
        { (manager.put manager.nextId
            { wireRequestId := request.id
              transportScopeId := request.transportScopeId
              authorization := request.authorization
              acceptedTaskIds := requestedTaskIds
              revisions := .empty
              writer := .new
              cancelled := false
              responseClosed := false
              stage := .loading (.start options requestedTaskIds) }) with
          nextId := manager.nextId + 1 }

def Manager.cancel (requestId : RequestId) (transportScopeId : String)
    (authorization : Option AuthorizationContext) (manager : Manager) : Manager × Bool :=
  match manager.registered.filter fun entry =>
      entry.2.answers requestId transportScopeId && authorization.all fun context =>
        authorizationScope entry.2.authorization == authorizationScope context with
  | [(id, subscription)] => (manager.put id subscription.cancel, true)
  | _ => (manager, false)

def Manager.pollGroups (options : ManagerOptions) (manager : Manager) :
    List (List Nat) → Manager
  | [] => { manager with poll := none }
  | group :: later =>
    let subscriptions := group.filterMap manager.subscriptions.get?
    let taskIds := (subscriptions.flatMap Subscription.acceptedTaskIds).dedup.mergeSort
    { manager with
      poll := some
        { group := group
          load := .start options taskIds
          later := later } }

def Manager.groups (manager : Manager) : List (List Nat) :=
  (manager.registered.foldl
    (fun (groups : OrderedMap String (List Nat)) entry =>
      let scope := authorizationScope entry.2.authorization
      groups.set scope ((groups.get? scope).getD [] ++ [entry.1])) .empty).values

def Manager.tick (options : ManagerOptions) (manager : Manager) : Manager :=
  if manager.timer = true ∧ manager.poll.isNone = true then
    manager.pollGroups options manager.groups
  else manager

def Manager.pollFailed (failure : PollFailure) (manager : Manager) : Manager :=
  { manager with
    subscriptions := manager.subscriptions.filterMap fun subscription =>
      some (if subscription.registered = true then
        { subscription with writer := subscription.writer.close } else subscription)
    poll := none
    failures := manager.failures ++ [failure] }

def deliverTasks (options : ManagerOptions) (id : Nat) (snapshots : OrderedMap String Snapshot) :
    List String → Subscription → Subscription × Option PollFailure
  | [], subscription => (subscription, none)
  | taskId :: later, subscription =>
    match snapshots.get? taskId with
    | none => deliverTasks options id snapshots later subscription
    | some snapshot =>
      match deliverChangedSnapshot options id taskId snapshot subscription with
      | .error failure => (subscription, some failure)
      | .ok delivered => deliverTasks options id snapshots later delivered

def deliverGroup (options : ManagerOptions) (snapshots : OrderedMap String Snapshot) :
    List Nat → OrderedMap Nat Subscription → OrderedMap Nat Subscription × Option PollFailure
  | [], subscriptions => (subscriptions, none)
  | id :: later, subscriptions =>
    match subscriptions.get? id with
    | none => deliverGroup options snapshots later subscriptions
    | some subscription =>
      let delivered :=
        deliverTasks options id snapshots subscription.acceptedTaskIds subscription
      match delivered.2 with
      | none => deliverGroup options snapshots later (subscriptions.set id delivered.1)
      | some failure => (subscriptions.set id delivered.1, some failure)

def Manager.pollResume (options : ManagerOptions) (manager : Manager) : Manager :=
  match manager.poll with
  | none => manager
  | some poll =>
    match poll.load.resume with
    | .reading load => { manager with poll := some { poll with load := load } }
    | .loaded snapshots =>
      let delivered := deliverGroup options snapshots poll.group manager.subscriptions
      match delivered.2 with
      | none =>
        { manager with subscriptions := delivered.1 }.pollGroups options poll.later
      | some failure =>
        { manager with subscriptions := delivered.1 }.pollFailed failure

inductive Occurrence where
  /-- The engine changes its tasks. -/
  | change (tasks : String → Snapshot)
  | listen (request : TaskListenRequest)
  /-- The engine answers a batch of a subscription that loads. -/
  | read (id : Nat) (visible : String → Bool)
  | resume (id : Nat)
  | fail (id : Nat)
  | tick
  | pollRead (visible : String → Bool)
  | pollResume
  | pollFail (failure : String)
  | cancel (requestId : RequestId) (transportScopeId : String)
      (authorization : Option AuthorizationContext)
  | disconnect (id : Nat)
  | drained (id : Nat)

def Manager.update (id : Nat) (change : Subscription → Subscription) (manager : Manager) :
    Manager :=
  match manager.subscriptions.get? id with
  | none => manager
  | some subscription => manager.put id (change subscription)

def Subscription.read (tasks : String → Snapshot) (visible : String → Bool)
    (subscription : Subscription) : Subscription :=
  match subscription.stage with
  | .loading load => { subscription with stage := .loading (load.read tasks visible) }
  | _ => subscription

def Subscription.resume (options : ManagerOptions) (id : Nat) (subscription : Subscription) :
    Subscription :=
  match subscription.stage with
  | .loading load =>
    match load.resume with
    | .reading load => { subscription with stage := .loading load }
    | .loaded snapshots => subscription.begin options id snapshots
  | _ => subscription

def Subscription.fail (subscription : Subscription) : Subscription :=
  match subscription.stage with
  | .loading _ => subscription.release true
  | _ => subscription

def Manager.startPolling (id : Nat) (manager : Manager) : Manager :=
  match manager.subscriptions.get? id with
  | some { stage := .waiting, .. } => { manager with timer := true }
  | _ => manager

def Manager.next (options : ManagerOptions) (manager : Manager) : Occurrence → Manager
  | .change tasks => { manager with tasks := tasks }
  | .listen request =>
    match manager.listen options request with
    | .error _ => manager
    | .ok next => next
  | .read id visible => manager.update id (Subscription.read manager.tasks visible)
  | .resume id => (manager.update id (Subscription.resume options id)).startPolling id
  | .fail id => manager.update id Subscription.fail
  | .tick => manager.tick options
  | .pollRead visible =>
    { manager with
      poll := manager.poll.map fun poll =>
        { poll with load := poll.load.read manager.tasks visible } }
  | .pollResume => manager.pollResume options
  | .pollFail failure =>
    match manager.poll with
    | none => manager
    | some _ => manager.pollFailed (.engine failure)
  | .cancel requestId transportScopeId authorization =>
    (manager.cancel requestId transportScopeId authorization).1
  | .disconnect id => manager.update id Subscription.disconnect
  | .drained id => manager.update id (Subscription.drained options id)

def Manager.new (tasks : String → Snapshot) : Manager :=
  { tasks := tasks
    subscriptions := .empty
    nextId := 0
    timer := false
    poll := none
    failures := [] }

end Notifications

end SdarRuntime
