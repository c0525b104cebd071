import SdarRuntime.Deployments.Store
import SdarRuntime.Library.Histories
import SdarRuntime.Library.OrderedMap

/-!
Allocation of the port of a runtime instance. Taking the lock, looking for the lowest free port
and inserting the row are one statement: it looks for the port in what was committed when it
started, and waits for the lock after that.
-/

namespace SdarRuntime

namespace Deployments

/-- Only a process under the process manager has a name there and a port. -/
inductive ProcessManager where
  | pm2 (name : String) (port : Nat)
  | directContainer
  deriving DecidableEq

structure ProcessRow where
  instanceId : String
  deploymentId : String
  environment : String
  manager : ProcessManager
  deriving DecidableEq

namespace ProcessRow

def pm2Name (row : ProcessRow) : Option String :=
  match row.manager with
  | .pm2 name _ => some name
  | .directContainer => none

def port (row : ProcessRow) : Option Nat :=
  match row.manager with
  | .pm2 _ port => some port
  | .directContainer => none

def portKey (row : ProcessRow) : Option (String × Nat) :=
  row.port.map fun port => (row.environment, port)

end ProcessRow

structure ProcessTable where
  rows : List ProcessRow
  instances : (rows.map ProcessRow.instanceId).Nodup
  names : (rows.filterMap ProcessRow.pm2Name).Nodup
  ports : (rows.filterMap ProcessRow.portKey).Nodup

inductive AllocationFailure where
  | allocationConflict
  | portRangeExhausted
  | uniqueViolation
  deriving DecidableEq

structure RuntimePortRange where
  start : Nat
  last : Nat
  registered : 1024 ≤ start
  highest : last ≤ 65535
  ordered : start ≤ last
  bounded : last - start ≤ 10000

structure RuntimeInstanceAllocationRequest where
  providerId : String
  deploymentId : String
  ordinal : Int
  rangeStart : Int
  rangeEnd : Int

structure DeploymentScope where
  providerId : String
  environment : String
  deriving DecidableEq

/-- How far a call has come: `waiting` has sent the statement, with the rows it can see. -/
inductive AllocationState where
  | called
  | unreplayed
  | inScope (environment : String)
  | waiting (environment : String) (snapshot : List ProcessRow)
  | raced
  | returned (row : ProcessRow)
  | failed (failure : AllocationFailure)
  deriving DecidableEq

structure Allocation where
  providerId : String
  deploymentId : String
  identity : RuntimeProcess
  range : RuntimePortRange
  state : AllocationState

structure AllocationSystem where
  deployments : OrderedMap String DeploymentScope
  table : ProcessTable
  calls : OrderedMap Nat Allocation

inductive AllocationEvent where
  | call (id : Nat) (request : RuntimeInstanceAllocationRequest)
  | readReplay (id : Nat)
  | readScope (id : Nat)
  | sendInsert (id : Nat)
  | executeInsert (id : Nat)
  | readRaced (id : Nat)

/-- `/^[A-Za-z0-9][A-Za-z0-9._:-]{0,127}$/` -/
def logicalId (value : String) : Bool :=
  match value.toList with
  | [] => false
  | first :: rest => first.isAlphanum && decide (rest.length ≤ 127) &&
      rest.all fun char => char.isAlphanum || char ∈ ['.', '_', ':', '-']

def runtimePortRange (start last : Int) : Option RuntimePortRange :=
  if bounds : 1024 ≤ start ∧ last ≤ 65535 ∧ start ≤ last ∧ last - start ≤ 10000 then
    some {
      start := start.toNat
      last := last.toNat
      registered := by omega
      highest := by omega
      ordered := by omega
      bounded := by omega }
  else none

/-- A request that is not well formed throws before it reads anything. -/
def prepareAllocation (names : InstanceNames) (request : RuntimeInstanceAllocationRequest) :
    Option Allocation :=
  if logicalId request.providerId ∧ logicalId request.deploymentId ∧ 0 ≤ request.ordinal ∧
      request.ordinal ≤ 999 then
    (runtimePortRange request.rangeStart request.rangeEnd).map fun range => {
      providerId := request.providerId
      deploymentId := request.deploymentId
      identity := deriveRuntimeInstanceIdentity names request.providerId request.deploymentId
        request.ordinal.toNat
      range := range
      state := .called }
  else none

def RuntimePortRange.ports (range : RuntimePortRange) : List Nat :=
  List.range' range.start (range.last + 1 - range.start)

def holdsPort (rows : List ProcessRow) (environment : String) (port : Nat) : Bool :=
  rows.any fun row => row.portKey == some (environment, port)

def lowestFreePort (rows : List ProcessRow) (environment : String) (range : RuntimePortRange) :
    Option Nat :=
  range.ports.find? fun port => !holdsPort rows environment port

namespace ProcessTable

/-- `ON CONFLICT (runtime_instance_id) DO NOTHING`: the other unique columns make it throw. -/
def insert (table : ProcessTable) (row : ProcessRow) :
    Except AllocationFailure (Option ProcessTable) :=
  if known : row.instanceId ∈ table.rows.map ProcessRow.instanceId then .ok none
  else if taken : (∀ name, row.pm2Name = some name →
        name ∉ table.rows.filterMap ProcessRow.pm2Name) ∧
      (∀ key, row.portKey = some key → key ∉ table.rows.filterMap ProcessRow.portKey) then
    .ok (some {
      rows := row :: table.rows
      instances := List.nodup_cons.mpr ⟨known, table.instances⟩
      names := by
        rw [List.filterMap_cons]
        split
        · exact table.names
        · exact List.nodup_cons.mpr ⟨taken.1 _ (by assumption), table.names⟩
      ports := by
        rw [List.filterMap_cons]
        split
        · exact table.ports
        · exact List.nodup_cons.mpr ⟨taken.2 _ (by assumption), table.ports⟩ })
  else .error .uniqueViolation

end ProcessTable

namespace Allocation

def row (call : Allocation) (environment : String) (port : Nat) : ProcessRow := {
  instanceId := call.identity.instanceId
  deploymentId := call.deploymentId
  environment := environment
  manager := .pm2 call.identity.pm2Name port
}

/-- A row that was found is checked against the identity of the request. -/
def answered (call : Allocation) (row : ProcessRow) : AllocationState :=
  if row.deploymentId = call.deploymentId ∧ row.pm2Name = some call.identity.pm2Name then
    .returned row
  else .failed .allocationConflict

end Allocation

namespace AllocationSystem

def get (system : AllocationSystem) (providerId instanceId : String) : Option ProcessRow :=
  system.table.rows.find? fun row => row.instanceId == instanceId &&
    ((system.deployments.get? row.deploymentId).map DeploymentScope.providerId) == some providerId

def environmentOf (system : AllocationSystem) (call : Allocation) : Option String :=
  ((system.deployments.get? call.deploymentId).filter fun scope =>
    scope.providerId == call.providerId).map DeploymentScope.environment

def moveTo (system : AllocationSystem) (id : Nat) (call : Allocation) (state : AllocationState) :
    AllocationSystem :=
  { system with calls := system.calls.set id { call with state := state } }

def executeInsert (system : AllocationSystem) (id : Nat) (call : Allocation)
    (environment : String) (snapshot : List ProcessRow) : AllocationSystem :=
  match lowestFreePort snapshot environment call.range with
  | none => system.moveTo id call .raced
  | some port =>
    match system.table.insert (call.row environment port) with
    | .error failure => system.moveTo id call (.failed failure)
    | .ok none => system.moveTo id call .raced
    | .ok (some table) =>
      { system with table := table }.moveTo id call (.returned (call.row environment port))

def next (names : InstanceNames) (system : AllocationSystem) (event : AllocationEvent) :
    AllocationSystem :=
  match event with
  | .call id request =>
    match system.calls.get? id, prepareAllocation names request with
    | none, some call => system.moveTo id call .called
    | _, _ => system
  | .readReplay id =>
    match system.calls.get? id with
    | some call =>
      if call.state = .called then
        match system.get call.providerId call.identity.instanceId with
        | some row => system.moveTo id call (call.answered row)
        | none => system.moveTo id call .unreplayed
      else system
    | none => system
  | .readScope id =>
    match system.calls.get? id with
    | some call =>
      if call.state = .unreplayed then
        match system.environmentOf call with
        | some environment => system.moveTo id call (.inScope environment)
        | none => system.moveTo id call (.failed .allocationConflict)
      else system
    | none => system
  | .sendInsert id =>
    match system.calls.get? id with
    | some call =>
      match call.state with
      | .inScope environment =>
        system.moveTo id call (.waiting environment system.table.rows)
      | _ => system
    | none => system
  | .executeInsert id =>
    match system.calls.get? id with
    | some call =>
      match call.state with
      | .waiting environment snapshot => system.executeInsert id call environment snapshot
      | _ => system
    | none => system
  | .readRaced id =>
    match system.calls.get? id with
    | some call =>
      if call.state = .raced then
        match system.get call.providerId call.identity.instanceId with
        | some row => system.moveTo id call (call.answered row)
        | none => system.moveTo id call (.failed .portRangeExhausted)
      else system
    | none => system

/-- Deployments and instances that are there before the first call. -/
def opened (deployments : OrderedMap String DeploymentScope) (table : ProcessTable) :
    AllocationSystem := {
  deployments := deployments
  table := table
  calls := OrderedMap.empty
}

end AllocationSystem

def rangeFull (rows : List ProcessRow) (environment : String) (range : RuntimePortRange) : Bool :=
  range.ports.all fun port => holdsPort rows environment port

structure InstanceName where
  instanceId : String
  deploymentId : String
  pm2Name : Option String

def ProcessRow.name (row : ProcessRow) : InstanceName := {
  instanceId := row.instanceId
  deploymentId := row.deploymentId
  pm2Name := row.pm2Name
}

def Allocation.name (call : Allocation) : InstanceName := {
  instanceId := call.identity.instanceId
  deploymentId := call.deploymentId
  pm2Name := some call.identity.pm2Name
}

/-- Neither name of the one is a name of the other, or they are of one instance: the digests in
them did not collide. -/
def consistent (left right : InstanceName) : Bool :=
  decide ((left.instanceId = right.instanceId ↔ left.pm2Name = right.pm2Name) ∧
    (left.instanceId = right.instanceId → left.deploymentId = right.deploymentId))

namespace AllocationSystem

/-- The lowest port that was free when the statement started is free when it gets the lock, unless
the instance has its row by then or no port is left. The names of a new call are its own. -/
def undisturbed (names : InstanceNames) (system : AllocationSystem) (event : AllocationEvent) :
    Bool :=
  match event with
  | .call _ request =>
    match prepareAllocation names request with
    | none => true
    | some call =>
      system.table.rows.all (fun row => consistent call.name row.name) &&
        system.calls.values.all fun other => consistent call.name other.name
  | .executeInsert id =>
    match system.calls.get? id with
    | none => true
    | some call =>
      match call.state with
      | .waiting environment snapshot =>
        decide (call.identity.instanceId ∈
            system.table.rows.map ProcessRow.instanceId) ||
          rangeFull system.table.rows environment call.range ||
            match lowestFreePort snapshot environment call.range with
            | none => true
            | some port => !holdsPort system.table.rows environment port
      | _ => true
  | _ => true

end AllocationSystem

variable {left right : InstanceName}

theorem consistent_iff :
    consistent left right = true ↔
      (left.instanceId = right.instanceId ↔ left.pm2Name = right.pm2Name) ∧
        (left.instanceId = right.instanceId → left.deploymentId = right.deploymentId) :=
  decide_eq_true_iff

theorem consistent_refl (name : InstanceName) : consistent name name = true := by
  simp [consistent]

theorem consistent_symm (agree : consistent left right = true) :
    consistent right left = true := by
  rw [consistent_iff] at agree ⊢
  obtain ⟨sameNames, sameDeployment⟩ := agree
  constructor
  · rw [eq_comm, sameNames, eq_comm]
  · intro same
    exact (sameDeployment same.symm).symm

variable {rows : List ProcessRow} {environment : String} {port : Nat}

theorem holdsPort_iff :
    holdsPort rows environment port = true ↔
      ∃ row ∈ rows, row.portKey = some (environment, port) := by
  simp [holdsPort]

variable {rows later : List ProcessRow}

theorem holdsPort_grows (grows : ∀ row ∈ rows, row ∈ later)
    (holds : holdsPort rows environment port = true) :
    holdsPort later environment port = true := by
  obtain ⟨row, member, isKey⟩ := holdsPort_iff.mp holds
  exact holdsPort_iff.mpr ⟨row, grows row member, isKey⟩

variable {range : RuntimePortRange}

theorem rangeFull_grows (grows : ∀ row ∈ rows, row ∈ later)
    (full : rangeFull rows environment range = true) :
    rangeFull later environment range = true := by
  apply List.all_eq_true.mpr
  intro port member
  exact holdsPort_grows grows (List.all_eq_true.mp full port member)

theorem rangeFull_of_no_port (absent : lowestFreePort rows environment range = none) :
    rangeFull rows environment range = true := by
  apply List.all_eq_true.mpr
  intro port member
  have taken := List.find?_eq_none.mp absent port member
  simpa using taken

namespace ProcessTable

variable {table : ProcessTable} {row other : ProcessRow}

theorem insert_cases (table : ProcessTable) (row : ProcessRow) :
    (table.insert row = .ok none ∧ row.instanceId ∈ table.rows.map ProcessRow.instanceId) ∨
      (∃ later, table.insert row = .ok (some later) ∧ later.rows = row :: table.rows) ∨
        (table.insert row = .error .uniqueViolation ∧
          row.instanceId ∉ table.rows.map ProcessRow.instanceId ∧
            ((∃ name, row.pm2Name = some name ∧
                name ∈ table.rows.filterMap ProcessRow.pm2Name) ∨
              ∃ key, row.portKey = some key ∧
                key ∈ table.rows.filterMap ProcessRow.portKey)) := by
  unfold ProcessTable.insert
  split
  · rename_i known
    exact Or.inl ⟨rfl, known⟩
  · rename_i unknown
    split
    · exact Or.inr (Or.inl ⟨_, rfl, rfl⟩)
    · rename_i taken
      refine Or.inr (Or.inr ⟨rfl, unknown, ?_⟩)
      rw [not_and_or] at taken
      rcases taken with name | key
      · left
        push Not at name
        exact name
      · right
        push Not at key
        exact key

end ProcessTable

namespace AllocationSystem

variable {names : InstanceNames} {system : AllocationSystem}

variable {row : ProcessRow}

theorem get_some {providerId instanceId : String}
    (found : system.get providerId instanceId = some row) :
    row ∈ system.table.rows ∧ row.instanceId = instanceId := by
  have holds := List.find?_some found
  simp only [Bool.and_eq_true, beq_iff_eq] at holds
  exact ⟨List.mem_of_find?_eq_some found, holds.1⟩

variable {call : Allocation}

theorem environmentOf_some (isEnvironment : system.environmentOf call = some environment) :
    (system.deployments.get? call.deploymentId).map DeploymentScope.providerId =
      some call.providerId := by
  unfold environmentOf at isEnvironment
  obtain ⟨scope, filtered, _⟩ := Option.map_eq_some_iff.mp isEnvironment
  obtain ⟨found, owned⟩ := Option.filter_eq_some_iff.mp filtered
  rw [found]
  simpa using owned

def StateSound (system : AllocationSystem) (call : Allocation) : Prop :=
  match call.state with
  | .inScope environment => system.environmentOf call = some environment
  | .waiting environment snapshot =>
    system.environmentOf call = some environment ∧ ∀ row ∈ snapshot, row ∈ system.table.rows
  | .raced => (∃ row ∈ system.table.rows, row.instanceId = call.identity.instanceId) ∨
      ∀ environment, system.environmentOf call = some environment →
        rangeFull system.table.rows environment call.range = true
  | .returned row => row ∈ system.table.rows ∧
      row.instanceId = call.identity.instanceId ∧ row.pm2Name = some call.identity.pm2Name
  | _ => True

structure Sound (system : AllocationSystem) : Prop where
  rowsNamed : ∀ id call, system.calls.get? id = some call → ∀ row ∈ system.table.rows,
    consistent call.name row.name = true
  callsNamed : ∀ id other call otherCall, system.calls.get? id = some call →
    system.calls.get? other = some otherCall → consistent call.name otherCall.name = true
  states : ∀ id call, system.calls.get? id = some call → system.StateSound call

variable {table : ProcessTable}

theorem StateSound.grows (sound : system.StateSound call)
    (grows : ∀ row ∈ system.table.rows, row ∈ table.rows) :
    ({ system with table := table } : AllocationSystem).StateSound call := by
  unfold StateSound at sound ⊢
  cases state : call.state with
  | waiting environment snapshot =>
    rw [state] at sound
    exact ⟨sound.1, fun row member => grows row (sound.2 row member)⟩
  | raced =>
    rw [state] at sound
    rcases sound with ⟨row, member, isRow⟩ | full
    · exact Or.inl ⟨row, grows row member, isRow⟩
    · right
      intro environment isEnvironment
      exact rangeFull_grows grows (full environment isEnvironment)
  | returned row =>
    rw [state] at sound
    exact ⟨grows row sound.1, sound.2⟩
  | inScope environment =>
    rw [state] at sound
    exact sound
  | called => trivial
  | unreplayed => trivial
  | failed failure => trivial

/-- A step keeps what the calls know, and fails no call while a port is left for it. -/
structure SoundStep (before after : AllocationSystem) : Prop where
  sound : after.Sound
  unfailing : ∀ id call failure environment, after.calls.get? id = some call →
    call.state = .failed failure → before.calls.get? id ≠ some call →
      before.environmentOf call = some environment →
        rangeFull before.table.rows environment call.range = true

theorem Sound.stays (sound : system.Sound) : SoundStep system system := {
  sound := sound
  unfailing := fun _ _ _ _ found _ changed => absurd found changed }

variable {id : Nat} {state : AllocationState}

theorem Sound.moves (sound : system.Sound) (found : system.calls.get? id = some call)
    (grows : ∀ row ∈ system.table.rows, row ∈ table.rows)
    (added : ∀ row ∈ table.rows, row ∈ system.table.rows ∨ row.name = call.name)
    (stateSound : ({ system with table := table } : AllocationSystem).StateSound
      { call with state := state }) (unfailing : ∀ failure environment, state = .failed failure →
      system.environmentOf call = some environment →
        rangeFull system.table.rows environment call.range = true) :
    SoundStep system ({ system with table := table }.moveTo id call state) := by
  have known : ∀ other otherCall,
      (system.calls.set id { call with state := state }).get? other = some otherCall →
        (other = id ∧ otherCall = { call with state := state }) ∨
          system.calls.get? other = some otherCall := by
    intro other otherCall isCall
    rw [OrderedMap.get?_set] at isCall
    split at isCall
    · rename_i isId
      cases isCall
      exact Or.inl ⟨isId, rfl⟩
    · exact Or.inr isCall
  have named : ∀ other otherCall,
      (system.calls.set id { call with state := state }).get? other = some otherCall →
        ∃ original, system.calls.get? other = some original ∧ original.name = otherCall.name := by
    intro other otherCall isCall
    rcases known other otherCall isCall with ⟨isId, isMoved⟩ | before
    · rw [isId, isMoved]
      exact ⟨call, found, rfl⟩
    · exact ⟨otherCall, before, rfl⟩
  constructor
  · constructor
    · intro other otherCall isCall row member
      obtain ⟨original, isOriginal, sameName⟩ := named other otherCall isCall
      rw [← sameName]
      rcases added row member with old | new
      · exact sound.rowsNamed other original isOriginal row old
      · rw [new]
        exact sound.callsNamed other id original call isOriginal found
    · intro first second firstCall secondCall isFirst isSecond
      obtain ⟨original, isOriginal, sameName⟩ := named first firstCall isFirst
      obtain ⟨another, isAnother, sameOther⟩ := named second secondCall isSecond
      rw [← sameName, ← sameOther]
      exact sound.callsNamed first second original another isOriginal isAnother
    · intro other otherCall isCall
      rcases known other otherCall isCall with ⟨_, isMoved⟩ | before
      · rw [isMoved]
        exact stateSound
      · exact (sound.states other otherCall before).grows grows
  · intro other otherCall failure environment isCall isFailed changed isEnvironment
    rcases known other otherCall isCall with ⟨_, isMoved⟩ | before
    · subst isMoved
      exact unfailing failure environment isFailed isEnvironment
    · exact absurd before changed

theorem Sound.advances (sound : system.Sound) (found : system.calls.get? id = some call)
    (stateSound : system.StateSound { call with state := state })
    (unfailing : ∀ failure environment, state = .failed failure →
      system.environmentOf call = some environment →
        rangeFull system.table.rows environment call.range = true) :
    SoundStep system (system.moveTo id call state) :=
  sound.moves found (fun _ member => member) (fun _ member => Or.inl member) stateSound unfailing

theorem Sound.answered (sound : system.Sound) (found : system.calls.get? id = some call)
    (isRow : system.get call.providerId call.identity.instanceId = some row) :
    call.answered row = .returned row ∧
      system.StateSound { call with state := .returned row } := by
  obtain ⟨member, sameInstance⟩ := get_some isRow
  obtain ⟨sameNames, sameDeployment⟩ := consistent_iff.mp (sound.rowsNamed id call found row member)
  have samePm2 : some call.identity.pm2Name = row.pm2Name := sameNames.mp sameInstance.symm
  have deployment : call.deploymentId = row.deploymentId := sameDeployment sameInstance.symm
  constructor
  · unfold Allocation.answered
    exact if_pos ⟨deployment.symm, samePm2.symm⟩
  · exact ⟨member, sameInstance, samePm2.symm⟩

theorem Sound.reads (sound : system.Sound) (found : system.calls.get? id = some call)
    (isRow : system.get call.providerId call.identity.instanceId = some row) :
    SoundStep system (system.moveTo id call (call.answered row)) := by
  obtain ⟨isReturned, stateSound⟩ := sound.answered found isRow
  rw [isReturned]
  apply sound.advances found stateSound
  intro failure environment failed
  cases failed

theorem Sound.finds (sound : system.Sound) (found : system.calls.get? id = some call)
    (isEnvironment : system.environmentOf call = some environment)
    (absent : system.get call.providerId call.identity.instanceId = none) :
    ∀ row ∈ system.table.rows, row.instanceId ≠ call.identity.instanceId := by
  intro row member same
  have agree := consistent_iff.mp (sound.rowsNamed id call found row member)
  have sameDeployment : call.deploymentId = row.deploymentId := agree.2 same.symm
  have unfound := List.find?_eq_none.mp absent row member
  apply unfound
  rw [← sameDeployment, environmentOf_some isEnvironment]
  simp [same]

/-- The statement inserts nothing, inserts its row, or throws; it throws only over a port that was
taken since it started. -/
theorem Sound.inserts (sound : system.Sound) (found : system.calls.get? id = some call)
    {snapshot : List ProcessRow} (waits : call.state = .waiting environment snapshot)
    (free : undisturbed names system (.executeInsert id) = true) :
    SoundStep system (system.executeInsert id call environment snapshot) := by
  have stateSound := sound.states id call found
  unfold StateSound at stateSound
  rw [waits] at stateSound
  obtain ⟨isEnvironment, seen⟩ := stateSound
  unfold AllocationSystem.executeInsert
  cases candidate : lowestFreePort snapshot environment call.range with
  | none =>
    apply sound.advances found
    · right
      intro other isOther
      have same : environment = other := Option.some.inj (isEnvironment.symm.trans isOther)
      rw [← same]
      exact rangeFull_grows seen (rangeFull_of_no_port candidate)
    · intro failure other failed
      cases failed
  | some port =>
    dsimp only
    rcases system.table.insert_cases (call.row environment port) with
      ⟨nothing, known⟩ | ⟨table, inserted, isTable⟩ | ⟨thrown, unknown, taken⟩
    · rw [nothing]
      apply sound.advances found
      · left
        obtain ⟨row, member, isRow⟩ := List.mem_map.mp known
        exact ⟨row, member, isRow⟩
      · intro failure other failed
        cases failed
    · rw [inserted]
      apply sound.moves found
      · intro row member
        rw [isTable]
        exact List.mem_cons_of_mem _ member
      · intro row member
        rw [isTable] at member
        rcases List.mem_cons.mp member with isNew | old
        · right
          rw [isNew]
          rfl
        · exact Or.inl old
      · refine ⟨?_, rfl, rfl⟩
        rw [isTable]
        exact List.mem_cons_self
      · intro failure other failed
        cases failed
    · rw [thrown]
      apply sound.advances found
      · exact trivial
      · intro failure other _ isOther
        have same : environment = other := Option.some.inj (isEnvironment.symm.trans isOther)
        rw [← same]
        rcases taken with ⟨name, isName, nameTaken⟩ | ⟨key, isKey, keyTaken⟩
        · -- a row with this name would be a row of the instance
          obtain ⟨row, member, rowName⟩ := List.mem_filterMap.mp nameTaken
          have agree := consistent_iff.mp (sound.rowsNamed id call found row member)
          have samePm2 : some call.identity.pm2Name = row.pm2Name := isName.trans rowName.symm
          have sameInstance : call.identity.instanceId = row.instanceId := agree.1.mpr samePm2
          exact absurd (List.mem_map.mpr ⟨row, member, sameInstance.symm⟩) unknown
        · obtain ⟨row, member, rowKey⟩ := List.mem_filterMap.mp keyTaken
          have held : holdsPort system.table.rows environment port = true :=
            holdsPort_iff.mpr ⟨row, member, rowKey.trans isKey.symm⟩
          have unlisted : call.identity.instanceId ∉
              system.table.rows.map ProcessRow.instanceId := unknown
          simp only [undisturbed, found, waits, candidate, unlisted, held, decide_false,
            Bool.false_or, Bool.not_true, Bool.or_false] at free
          exact free

variable {event : AllocationEvent}

theorem Sound.next (sound : system.Sound) (free : undisturbed names system event = true) :
    SoundStep system (system.next names event) := by
  cases event with
  | call id request =>
    simp only [AllocationSystem.next]
    split
    · rename_i call fresh prepared
      simp only [undisturbed, prepared, Bool.and_eq_true, List.all_eq_true] at free
      obtain ⟨rowsFree, callsFree⟩ := free
      have isCalled : call.state = .called := by
        unfold prepareAllocation at prepared
        split at prepared
        · obtain ⟨range, _, isCall⟩ := Option.map_eq_some_iff.mp prepared
          rw [← isCall]
        · cases prepared
      have known : ∀ other otherCall, (system.moveTo id call .called).calls.get? other =
          some otherCall → (other = id ∧ otherCall = { call with state := .called }) ∨
            system.calls.get? other = some otherCall := by
        intro other otherCall isCall
        simp only [moveTo, OrderedMap.get?_set] at isCall
        split at isCall
        · rename_i isId
          cases isCall
          exact Or.inl ⟨isId, rfl⟩
        · exact Or.inr isCall
      have others : ∀ other otherCall, system.calls.get? other = some otherCall →
          consistent call.name otherCall.name = true := by
        intro other otherCall isCall
        exact callsFree otherCall (OrderedMap.mem_values.mpr ⟨other, isCall⟩)
      constructor
      · constructor
        · intro other otherCall isCall row member
          rcases known other otherCall isCall with ⟨_, isNew⟩ | before
          · rw [isNew]
            exact rowsFree row member
          · exact sound.rowsNamed other otherCall before row member
        · intro first second firstCall secondCall isFirst isSecond
          rcases known first firstCall isFirst with ⟨_, firstNew⟩ | firstBefore
          · rw [firstNew]
            rcases known second secondCall isSecond with ⟨_, secondNew⟩ | secondBefore
            · rw [secondNew]
              exact consistent_refl _
            · exact others second secondCall secondBefore
          · rcases known second secondCall isSecond with ⟨_, secondNew⟩ | secondBefore
            · rw [secondNew]
              exact consistent_symm (others first firstCall firstBefore)
            · exact sound.callsNamed first second firstCall secondCall firstBefore secondBefore
        · intro other otherCall isCall
          rcases known other otherCall isCall with ⟨_, isNew⟩ | before
          · rw [isNew]
            trivial
          · exact sound.states other otherCall before
      · intro other otherCall failure environment isCall isFailed changed _
        rcases known other otherCall isCall with ⟨_, isNew⟩ | before
        · subst isNew
          cases isFailed
        · exact absurd before changed
    · exact sound.stays
  | readReplay id =>
    simp only [AllocationSystem.next]
    split
    · rename_i call found
      split
      · split
        · rename_i row isRow
          exact sound.reads found isRow
        · apply sound.advances found
          · exact trivial
          · intro failure environment failed
            cases failed
      · exact sound.stays
    · exact sound.stays
  | readScope id =>
    simp only [AllocationSystem.next]
    split
    · rename_i call found
      split
      · split
        · rename_i environment isEnvironment
          apply sound.advances found
          · exact isEnvironment
          · intro failure other failed
            cases failed
        · rename_i outOfScope
          apply sound.advances found
          · exact trivial
          · intro failure environment _ isEnvironment
            rw [outOfScope] at isEnvironment
            cases isEnvironment
      · exact sound.stays
    · exact sound.stays
  | sendInsert id =>
    simp only [AllocationSystem.next]
    split
    · rename_i call found
      split
      · rename_i environment isScoped
        have stateSound := sound.states id call found
        unfold StateSound at stateSound
        rw [isScoped] at stateSound
        apply sound.advances found
        · exact ⟨stateSound, fun _ member => member⟩
        · intro failure other failed
          cases failed
      · exact sound.stays
    · exact sound.stays
  | executeInsert id =>
    simp only [AllocationSystem.next]
    split
    · rename_i call found
      split
      · rename_i environment snapshot waits
        exact sound.inserts found waits free
      · exact sound.stays
    · exact sound.stays
  | readRaced id =>
    simp only [AllocationSystem.next]
    split
    · rename_i call found
      split
      · rename_i isRaced
        split
        · rename_i row isRow
          exact sound.reads found isRow
        · rename_i absent
          apply sound.advances found
          · exact trivial
          · intro failure environment _ isEnvironment
            have stateSound := sound.states id call found
            unfold StateSound at stateSound
            rw [isRaced] at stateSound
            rcases stateSound with ⟨row, member, isRow⟩ | full
            · exact absurd isRow (sound.finds found isEnvironment absent row member)
            · exact full environment isEnvironment
      · exact sound.stays
    · exact sound.stays

end AllocationSystem

namespace AllocationSample

def names : InstanceNames := {
  digest := fun text =>
    if text = "deployment-allocation" then "a0a748094751" else "2ac592ea1d66"
  slug := id
}

def deployments : OrderedMap String DeploymentScope :=
  OrderedMap.empty.set "deployment-allocation" {
    providerId := "provider-allocation"
    environment := "production"
  }

def table : ProcessTable := {
  rows := []
  instances := List.nodup_nil
  names := List.nodup_nil
  ports := List.nodup_nil
}

def request (ordinal : Int) : RuntimeInstanceAllocationRequest := {
  providerId := "provider-allocation"
  deploymentId := "deployment-allocation"
  ordinal := ordinal
  rangeStart := 32000
  rangeEnd := 32001
}

def sent (id : Nat) (ordinal : Int) : List AllocationEvent :=
  [.call id (request ordinal), .readReplay id, .readScope id, .sendInsert id]

def outcomes (events : List AllocationEvent) : List AllocationState :=
  (Histories.after (AllocationSystem.next names) (AllocationSystem.opened deployments table)
    events).calls.values.map Allocation.state

end AllocationSample

end Deployments

end SdarRuntime
