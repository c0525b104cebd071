import SdarRuntime.Deployments.Reconcile
import SdarRuntime.Domain.Time
import SdarRuntime.Library.Checks
import SdarRuntime.Library.Evaluation
import SdarRuntime.Library.Json

/-!
Processes that are left over of a deployment. What the process manager lists becomes the
observations of the reconciler, which looks among them for the deployment's processes that no
instance accounts for.
-/

namespace SdarRuntime

namespace Deployments

open RuntimeDeploymentReconciler Program PostgresRuntimeReconcileStore

/-- `pm2_env`, with the fingerprints the platform started the process with. -/
structure Pm2Environment where
  status : Option String
  pmUptime : Option Int
  restartTime : Option Int
  bootstrapChecksum : Option Json
  configRevision : Option Json
  runtimeVersion : Option Json

structure Pm2ProcessDescription where
  name : Option String
  pid : Option Int
  pm2Env : Option Pm2Environment

structure ProcessTarget where
  providerId : String
  deploymentId : String
  environment : String
  runtimeVersion : String
  instanceId : String
  ordinal : Nat
  processName : String
  deriving DecidableEq

structure Pm2RuntimeFingerprints where
  bootstrapChecksum : String
  configRevision : String
  runtimeVersion : String
  deriving DecidableEq

structure RuntimeInfrastructureProcessObservation where
  target : ProcessTarget
  state : ProcessState
  pid : Option Int
  startedAt : Option String
  restartCount : Int
  opaqueLogRef : String
  fingerprints : Option Pm2RuntimeFingerprints

inductive Pm2Failure where
  | processNotFound
  | processNameForbidden
  /-- `RangeError: Invalid time value`. -/
  | invalidTime
  deriving DecidableEq

namespace Pm2ProcessManager

def isLowerAlphanumeric (char : Char) : Bool := char.isLower || char.isDigit

/-- `/^sdar-runtime-[a-z0-9][a-z0-9-]{0,112}$/`. -/
def isProcessName (text : String) : Bool :=
  text.toList.take 13 == "sdar-runtime-".toList &&
    match text.toList.drop 13 with
    | [] => false
    | first :: rest =>
      isLowerAlphanumeric first && decide (rest.length ≤ 112) &&
        rest.all fun char => isLowerAlphanumeric char || char == '-'

/-- `/^[0-9a-f]{64}$/`. -/
def isChecksum (text : String) : Bool :=
  decide (text.length = 64) &&
    text.toList.all fun char => char.isDigit || ('a' ≤ char && char ≤ 'f')

/-- `/^(0|[1-9][0-9]*)$/`, for a safe integer. -/
def isRevision (text : String) : Bool :=
  match text.toList with
  | [] => false
  | '0' :: rest => rest.isEmpty
  | digits => digits.all Char.isDigit && decide (DecimalText.value digits ≤ 9007199254740991)

/-- One number of a version: the digits are read, and there is one. -/
def dropNumber (text : List Char) : Option (List Char) :=
  if text.takeWhile Char.isDigit = [] then none else some (text.dropWhile Char.isDigit)

def dropDot : List Char → Option (List Char)
  | '.' :: rest => some rest
  | _ => none

/-- `/^[0-9]+\.[0-9]+\.[0-9]+(?:-[0-9A-Za-z.-]+)?$/`. -/
def isRuntimeVersion (text : String) : Bool :=
  let patch := ((dropNumber text.toList).bind dropDot).bind dropNumber
  match (patch.bind dropDot).bind dropNumber with
  | none => false
  | some [] => true
  | some ('-' :: label) =>
    !label.isEmpty && label.all fun char => char.isAlphanum || char == '.' || char == '-'
  | some _ => false

def mapState : Option String → ProcessState
  | some "online" => .online
  | some "launching" => .starting
  | some "stopping" => .stopping
  | some "stopped" => .stopped
  | some "errored" => .errored
  | _ => .missing

def isSafeInteger (value : Int) : Bool := decide (value.natAbs ≤ 9007199254740991)

def validPid (value : Option Int) : Option Int :=
  value.filter fun pid => isSafeInteger pid && decide (0 < pid)

def safeCount (value : Option Int) : Int :=
  (value.filter fun count => isSafeInteger count && decide (0 ≤ count)).getD 0

def mappedFingerprints (environment : Option Pm2Environment) : Option Pm2RuntimeFingerprints :=
  match environment with
  | some { bootstrapChecksum := some (.str bootstrapChecksum),
           configRevision := some (.str configRevision),
           runtimeVersion := some (.str runtimeVersion), .. } =>
      if isChecksum bootstrapChecksum && isRevision configRevision &&
          isRuntimeVersion runtimeVersion then
        some {
          bootstrapChecksum := bootstrapChecksum
          configRevision := configRevision
          runtimeVersion := runtimeVersion }
      else none
  | _ => none

def opaqueLogRef (processName : String) : String := "runtime-process:" ++ processName

def starting (processName : String) (target : ProcessTarget) :
    RuntimeInfrastructureProcessObservation :=
  { target := target
    state := .starting
    pid := none
    startedAt := none
    restartCount := 0
    opaqueLogRef := opaqueLogRef processName
    fingerprints := none }

/-- `new Date(milliseconds).toISOString()`, which throws outside the years of a `Date`. -/
def startedAt : Option Int → Except Pm2Failure (Option String)
  | none => .ok none
  | some milliseconds =>
    if milliseconds.natAbs ≤ 8640000000000000 then
      .ok (some (Instant.toISOString (1000 * milliseconds)))
    else .error .invalidTime

/-- Who runs under a name, as far as a description without a target tells. -/
def unknownTarget (processName : String) : ProcessTarget :=
  { providerId := "unknown"
    deploymentId := "unknown"
    environment := "unknown"
    runtimeVersion := "unknown"
    instanceId := processName
    ordinal := 0
    processName := processName }

def mapDescription (description : Option Pm2ProcessDescription) (target : Option ProcessTarget) :
    Except Pm2Failure RuntimeInfrastructureProcessObservation :=
  match description with
  | none =>
    match target with
    | some target => .ok (starting target.processName target)
    | none => .error .processNotFound
  | some description =>
    match description.name.filter isProcessName with
    | none =>
      match target with
      | some target => .ok (starting target.processName target)
      | none => .error .processNameForbidden
    | some processName => do
      let startedAt ← startedAt (description.pm2Env.bind Pm2Environment.pmUptime)
      return {
        target := target.getD (unknownTarget processName)
        state := mapState (description.pm2Env.bind Pm2Environment.status)
        pid := validPid description.pid
        startedAt := startedAt
        restartCount := safeCount (description.pm2Env.bind Pm2Environment.restartTime)
        opaqueLogRef := opaqueLogRef processName
        fingerprints := mappedFingerprints description.pm2Env }

def list (descriptions : List Pm2ProcessDescription) :
    Except Pm2Failure (List RuntimeInfrastructureProcessObservation) :=
  (descriptions.filter fun description => description.name.any isProcessName).mapM
    fun description => mapDescription (some description) none

end Pm2ProcessManager

def RuntimeInfrastructureProcessObservation.observation
    (observed : RuntimeInfrastructureProcessObservation) : ProcessObservation :=
  { deploymentId := observed.target.deploymentId
    processName := observed.target.processName }

abbrev Statements := {β : Type} → DeploymentOp β → Except Failure β

/-- The answers of a run that nothing disturbs, over what the process manager lists. A listing that
throws fails the request. -/
def listingAnswers (reading : Reading) (descriptions : List Pm2ProcessDescription) :
    {β : Type} → DeploymentCall β → Except Failure β
  | _, .aborted => .ok false
  | _, .inventory =>
    match Pm2ProcessManager.list descriptions with
    | .ok observed => .ok (observed.map RuntimeInfrastructureProcessObservation.observation)
    | .error _ => .error .error
  | _, call => .ok (reading.answer call)

def evaluation {α : Type} (statements : Statements) (reading : Reading)
    (descriptions : List Pm2ProcessDescription) (program : DeploymentProgram α) :
    List (Program.Request DeploymentCall) × Except Failure α :=
  program.evaluate statements (listingAnswers reading descriptions)

def recorded (asked : List (Program.Request DeploymentCall)) : List (List String) :=
  asked.filterMap fun request =>
    match request with
    | ⟨_, .recordOrphans processNames⟩ => some processNames
    | _ => none

def Belongs (names : InstanceNames) (providerId deploymentId processName : String) : Prop :=
  ∃ ordinal ≤ 999,
    processName = (deriveRuntimeInstanceIdentity names providerId deploymentId ordinal).pm2Name

def LeftOver (names : InstanceNames) (input : RuntimeDeploymentReconcileInput)
    (descriptions : List Pm2ProcessDescription)
    (known : List RuntimeInfrastructureInstanceTarget) (processName : String) : Prop :=
  (∃ description ∈ descriptions, description.name = some processName) ∧
    Belongs names input.providerId input.deploymentId processName ∧
    processName ∉ known.map RuntimeInfrastructureInstanceTarget.processName

/-- The run reports the left-over processes and records them where there are any. -/
def DetectsLeftOver (names : InstanceNames) (input : RuntimeDeploymentReconcileInput)
    (descriptions : List Pm2ProcessDescription)
    (known : List RuntimeInfrastructureInstanceTarget)
    (run : List (Program.Request DeploymentCall) × Except Failure (List String)) : Prop :=
  ∃ orphans, run.2 = .ok orphans ∧
    (∀ processName, processName ∈ orphans ↔ LeftOver names input descriptions known processName) ∧
    recorded run.1 = if orphans = [] then [] else [orphans]

namespace RuntimeDeploymentReconciler

def instancesAndProcesses (input : RuntimeDeploymentReconcileInput) : DeploymentProgram
    (List RuntimeInfrastructureInstanceTarget × List ProcessObservation) := do
  let known ← listInstances input.providerId input.deploymentId
  let observed ← ask .inventory
  return (known, observed)

def reportOrphans (orphans : List String) : DeploymentProgram (List String) := do
  if orphans ≠ [] then
    cancellable (ask (.recordOrphans orphans))
  return orphans

def orphansAmong (input : RuntimeDeploymentReconcileInput)
    (known : List RuntimeInfrastructureInstanceTarget) (observed : List ProcessObservation) :
    List String :=
  ((observed.filter fun process =>
    process.deploymentId = input.deploymentId ∧
      process.processName ∉ known.map RuntimeInfrastructureInstanceTarget.processName).map
    ProcessObservation.processName).mergeSort fun left right => decide (left ≤ right)

theorem detectOrphans_eq (input : RuntimeDeploymentReconcileInput) :
    detectOrphans input =
      (cancellable (instancesAndProcesses input) >>= fun found =>
        reportOrphans (orphansAmong input found.1 found.2)) := rfl

theorem mem_orphansAmong {input : RuntimeDeploymentReconcileInput}
    {known : List RuntimeInfrastructureInstanceTarget} {observed : List ProcessObservation}
    {processName : String} :
    processName ∈ orphansAmong input known observed ↔
      { deploymentId := input.deploymentId, processName := processName } ∈ observed ∧
        processName ∉ known.map RuntimeInfrastructureInstanceTarget.processName := by
  unfold orphansAmong
  rw [(List.mergeSort_perm _ _).mem_iff, List.mem_map]
  constructor
  · rintro ⟨process, member, rfl⟩
    rw [List.mem_filter, decide_eq_true_eq] at member
    obtain ⟨isObserved, sameDeployment, unknown⟩ := member
    rw [← sameDeployment]
    exact ⟨isObserved, unknown⟩
  · rintro ⟨isObserved, unknown⟩
    have found : ({ deploymentId := input.deploymentId, processName := processName } :
        ProcessObservation) ∈ observed.filter fun process =>
          process.deploymentId = input.deploymentId ∧
            process.processName ∉ known.map RuntimeInfrastructureInstanceTarget.processName := by
      rw [List.mem_filter, decide_eq_true_eq]
      exact ⟨isObserved, rfl, unknown⟩
    exact ⟨_, found, rfl⟩

end RuntimeDeploymentReconciler

section Runs

variable {statements : Statements} {reading : Reading}
variable {descriptions : List Pm2ProcessDescription} {input : RuntimeDeploymentReconcileInput}
variable {known : List RuntimeInfrastructureInstanceTarget}

theorem evaluation_cancellable {α : Type} (statements : Statements) (reading : Reading)
    (descriptions : List Pm2ProcessDescription) (operation : DeploymentProgram α) :
    evaluation statements reading descriptions (cancellable operation) =
      match evaluation statements reading descriptions operation with
      | (asked, .ok value) => (⟨_, .aborted⟩ :: asked ++ [⟨_, .aborted⟩], .ok value)
      | (asked, .error failure) => (⟨_, .aborted⟩ :: asked, .error failure) := by
  have look : evaluation statements reading descriptions checkpoint =
      ([⟨_, .aborted⟩], .ok ()) := rfl
  unfold evaluation at look ⊢
  unfold cancellable
  rw [evaluate_bind_ok look, evaluate_bind]
  cases operation.evaluate statements (listingAnswers reading descriptions) with
  | mk asked outcome =>
    cases outcome with
    | ok value =>
      dsimp only
      rw [evaluate_bind_ok look]
      rfl
    | error failure => rfl

def Records {β : Type} : DeploymentCall β → Prop
  | .recordOrphans _ => True
  | _ => False

variable {asked : List (Program.Request DeploymentCall)}

theorem recorded_eq_nil (none : ∀ request ∈ asked, ¬ Records request.2) : recorded asked = [] := by
  unfold recorded
  rw [List.filterMap_eq_nil_iff]
  rintro ⟨β, call⟩ member
  have notRecording := none _ member
  cases call
  case recordOrphans processNames => exact absurd trivial notRecording
  all_goals rfl

theorem recorded_append (earlier later : List (Program.Request DeploymentCall)) :
    recorded (earlier ++ later) = recorded earlier ++ recorded later :=
  List.filterMap_append

abbrev RecordsNothing {α : Type} (program : DeploymentProgram α) : Prop :=
  program.Calls (fun _ => True) fun call => ¬ Records call

theorem recordsNothing_exec {α : Type} (effect : DeploymentOp α) :
    RecordsNothing (exec effect) :=
  calls_exec trivial

theorem recordsNothing_requireDeployment (providerId deploymentId : String) :
    RecordsNothing (requireDeployment providerId deploymentId) := by
  apply calls_bind (recordsNothing_exec _)
  intro found
  cases found with
  | none => exact calls_fail _
  | some deployment => exact calls_pure _

theorem recordsNothing_ensureInstance (deployment : RuntimeDeployment) (ordinal : Nat) :
    RecordsNothing (ensureInstance deployment ordinal) := by
  apply calls_ite
  · intro _
    exact calls_fail _
  · intro _
    apply calls_bind (recordsNothing_exec _)
    intro process
    apply calls_bind (calls_ask id)
    intro content
    exact calls_pure _

theorem recordsNothing_ensureInstances (deployment : RuntimeDeployment) (first count : Nat) :
    RecordsNothing (ensureInstances deployment first count) := by
  induction count generalizing first with
  | zero => exact calls_pure _
  | succ count ih =>
    apply calls_bind (recordsNothing_ensureInstance deployment first)
    intro ensured
    apply calls_bind (ih (first + 1))
    intro others
    exact calls_pure _

theorem recordsNothing_listInstances (providerId deploymentId : String) :
    RecordsNothing (listInstances providerId deploymentId) := by
  apply calls_bind (recordsNothing_requireDeployment _ _)
  intro deployment
  apply calls_ite
  · intro _
    refine calls_bind (calls_ite (fun _ => calls_fail _) fun _ =>
      calls_ask id) ?_
    intro direct
    exact calls_pure _
  · intro _
    apply calls_bind (recordsNothing_exec _)
    intro processes
    exact recordsNothing_ensureInstances deployment 0 processes.length

theorem evaluation_reportOrphans (statements : Statements) (reading : Reading)
    (descriptions : List Pm2ProcessDescription) (orphans : List String) :
    evaluation statements reading descriptions
        (reportOrphans orphans) =
      (if orphans = [] then []
        else [⟨_, .aborted⟩, ⟨_, .recordOrphans orphans⟩, ⟨_, .aborted⟩], .ok orphans) := by
  unfold reportOrphans
  by_cases empty : orphans = []
  · rw [if_pos empty, if_neg (not_not_intro empty)]
    rfl
  · rw [if_neg empty, if_pos empty]
    rfl

theorem evaluation_instancesAndProcesses (listed : evaluation statements reading descriptions
      (listInstances input.providerId input.deploymentId) =
        (asked, .ok known)) :
    evaluation statements reading descriptions
        (instancesAndProcesses input) =
      (asked ++ [⟨_, .inventory⟩],
        (listingAnswers reading descriptions .inventory).map (Prod.mk known)) := by
  unfold evaluation at listed ⊢
  unfold instancesAndProcesses
  rw [evaluate_bind_ok listed, evaluate_bind, evaluate_ask]
  cases listingAnswers reading descriptions .inventory with
  | ok processes => rfl
  | error failure => rfl

theorem evaluation_detectOrphans_error (listed : evaluation statements reading descriptions
      (listInstances input.providerId input.deploymentId) =
        (asked, .ok known)) {failure : Pm2Failure}
    (thrown : Pm2ProcessManager.list descriptions = .error failure) :
    (evaluation statements reading descriptions
      (detectOrphans input)).2 = .error .error := by
  have refused : listingAnswers reading descriptions .inventory =
      (.error .error : Except Failure (List ProcessObservation)) := by
    simp only [listingAnswers, thrown]
  have look := evaluation_cancellable statements reading descriptions
    (instancesAndProcesses input)
  rw [evaluation_instancesAndProcesses listed, refused] at look
  unfold evaluation at look ⊢
  rw [detectOrphans_eq, evaluate_bind_error look]

variable {orphans : List String}

theorem evaluation_detectOrphans (listed : evaluation statements reading descriptions
      (listInstances input.providerId input.deploymentId) =
        (asked, .ok known)) {observed : List RuntimeInfrastructureProcessObservation}
    (isListing : Pm2ProcessManager.list descriptions = .ok observed)
    (areOrphans : orphansAmong input known
      (observed.map RuntimeInfrastructureProcessObservation.observation) = orphans) :
    (evaluation statements reading descriptions
        (detectOrphans input)).2 = .ok orphans ∧
      recorded (evaluation statements reading descriptions
        (detectOrphans input)).1 =
          if orphans = [] then [] else [orphans] := by
  have answered : listingAnswers reading descriptions .inventory =
      (.ok (observed.map RuntimeInfrastructureProcessObservation.observation) :
        Except Failure (List ProcessObservation)) := by
    simp only [listingAnswers, isListing]
  have before : recorded (⟨_, .aborted⟩ :: (asked ++ [⟨_, .inventory⟩]) ++ [⟨_, .aborted⟩]) =
      [] := by
    apply recorded_eq_nil
    intro request member
    rcases List.mem_append.mp member with early | last
    · rcases List.mem_cons.mp early with rfl | inner
      · exact id
      · rcases List.mem_append.mp inner with inAsked | isListing
        · have notRecording : ∀ request ∈ (evaluate statements
              (listingAnswers reading descriptions) (listInstances
                input.providerId input.deploymentId)).1, ¬ Records request.2 :=
            (recordsNothing_listInstances input.providerId input.deploymentId).of_asked
          unfold evaluation at listed
          rw [listed] at notRecording
          exact notRecording request inAsked
        · rw [List.mem_singleton.mp isListing]
          exact id
    · rw [List.mem_singleton.mp last]
      exact id
  have look := evaluation_cancellable statements reading descriptions
    (instancesAndProcesses input)
  rw [evaluation_instancesAndProcesses listed, answered] at look
  have report := evaluation_reportOrphans statements reading descriptions orphans
  unfold evaluation at look report ⊢
  rw [detectOrphans_eq, evaluate_bind_ok look, areOrphans,
    report]
  constructor
  · rfl
  · rw [recorded_append, before]
    by_cases empty : orphans = []
    · rw [if_pos empty, if_pos empty]
      rfl
    · rw [if_neg empty, if_neg empty]
      rfl

/-- The start times of the listed runtime processes are those of a `Date`. -/
def TimesValid (descriptions : List Pm2ProcessDescription) : Prop :=
  ∀ description ∈ descriptions, description.name.any Pm2ProcessManager.isProcessName = true →
    ∀ milliseconds, description.pm2Env.bind Pm2Environment.pmUptime = some milliseconds →
      milliseconds.natAbs ≤ 8640000000000000

theorem mapDescription_of_name {description : Pm2ProcessDescription} {processName : String}
    (isName : description.name = some processName)
    (isRuntime : Pm2ProcessManager.isProcessName processName = true) :
    (∃ failure, Pm2ProcessManager.mapDescription (some description) none = .error failure ∧
        ∃ milliseconds, description.pm2Env.bind Pm2Environment.pmUptime = some milliseconds ∧
          ¬ milliseconds.natAbs ≤ 8640000000000000) ∨
      ∃ observed, Pm2ProcessManager.mapDescription (some description) none = .ok observed ∧
        observed.observation = { deploymentId := "unknown", processName := processName } ∧
        ∀ milliseconds, description.pm2Env.bind Pm2Environment.pmUptime = some milliseconds →
          milliseconds.natAbs ≤ 8640000000000000 := by
  have kept : (some processName).filter Pm2ProcessManager.isProcessName = some processName :=
    if_pos isRuntime
  simp only [Pm2ProcessManager.mapDescription, isName, kept]
  cases uptime : description.pm2Env.bind Pm2Environment.pmUptime with
  | none => exact Or.inr ⟨_, rfl, rfl, nofun⟩
  | some milliseconds =>
    unfold Pm2ProcessManager.startedAt
    by_cases valid : milliseconds.natAbs ≤ 8640000000000000
    · right
      simp only [if_pos valid]
      refine ⟨_, rfl, rfl, ?_⟩
      rintro _ ⟨⟩
      exact valid
    · left
      simp only [if_neg valid]
      exact ⟨_, rfl, milliseconds, rfl, valid⟩

theorem list_cases (descriptions : List Pm2ProcessDescription) :
    ((∃ failure, Pm2ProcessManager.list descriptions = .error failure) ∧
        ¬ TimesValid descriptions) ∨
      ((∃ observed, Pm2ProcessManager.list descriptions = .ok observed ∧
        ∀ process, process ∈ observed.map RuntimeInfrastructureProcessObservation.observation ↔
          process.deploymentId = "unknown" ∧
            Pm2ProcessManager.isProcessName process.processName = true ∧
            ∃ description ∈ descriptions, description.name = some process.processName) ∧
        TimesValid descriptions) := by
  have runtime : ∀ {description : Pm2ProcessDescription},
      description.name.any Pm2ProcessManager.isProcessName = true ↔
        ∃ processName, description.name = some processName ∧
          Pm2ProcessManager.isProcessName processName = true := by
    intro description
    cases description.name with
    | none => simp
    | some processName => simp
  unfold Pm2ProcessManager.list
  rcases Except.mapM_cases
      (fun description => Pm2ProcessManager.mapDescription (some description) none)
      (descriptions.filter fun description => description.name.any Pm2ProcessManager.isProcessName)
    with ⟨failure, isFailure, description, member, failed⟩ | ⟨observed, isObserved, forth, back⟩
  · left
    refine ⟨⟨failure, isFailure⟩, ?_⟩
    intro valid
    obtain ⟨inList, isRuntime⟩ := List.mem_filter.mp member
    obtain ⟨processName, isName, matches'⟩ := runtime.mp isRuntime
    rcases mapDescription_of_name isName matches' with
      ⟨_, _, milliseconds, uptime, invalid⟩ | ⟨observed, mapped, _⟩
    · exact invalid (valid description inList isRuntime milliseconds uptime)
    · rw [failed] at mapped
      cases mapped
  · right
    refine ⟨⟨observed, isObserved, ?_⟩, ?_⟩
    · intro process
      rw [List.mem_map]
      constructor
      · rintro ⟨observation, member, rfl⟩
        obtain ⟨description, inFilter, mapped⟩ := back observation member
        obtain ⟨inList, isRuntime⟩ := List.mem_filter.mp inFilter
        obtain ⟨processName, isName, matches'⟩ := runtime.mp isRuntime
        rcases mapDescription_of_name isName matches' with
          ⟨_, failed, _⟩ | ⟨other, isOther, same, _⟩
        · rw [mapped] at failed
          cases failed
        · rw [mapped] at isOther
          cases isOther
          rw [same]
          exact ⟨rfl, matches', description, inList, isName⟩
      · rintro ⟨isUnknown, matches', description, inList, isName⟩
        have isRuntime := runtime.mpr ⟨_, isName, matches'⟩
        obtain ⟨observation, member, mapped⟩ :=
          forth description (List.mem_filter.mpr ⟨inList, isRuntime⟩)
        rcases mapDescription_of_name isName matches' with
          ⟨_, failed, _⟩ | ⟨other, isOther, same, _⟩
        · rw [mapped] at failed
          cases failed
        · rw [mapped] at isOther
          cases isOther
          refine ⟨observation, member, same.trans ?_⟩
          rw [← isUnknown]
    · intro description inList isRuntime milliseconds uptime
      obtain ⟨observation, _, mapped⟩ :=
        forth description (List.mem_filter.mpr ⟨inList, isRuntime⟩)
      obtain ⟨processName, isName, matches'⟩ := runtime.mp isRuntime
      rcases mapDescription_of_name isName matches' with ⟨_, failed, _⟩ | ⟨_, _, _, times⟩
      · rw [mapped] at failed
        cases failed
      · exact times milliseconds uptime

/-- The listing comes through, and nothing is left over; in a deployment called like the owner
every listed process gets, the listed processes without a row are its own. -/
def Detectable (names : InstanceNames) (input : RuntimeDeploymentReconcileInput)
    (descriptions : List Pm2ProcessDescription)
    (known : List RuntimeInfrastructureInstanceTarget) : Prop :=
  TimesValid descriptions ∧
    ∀ description ∈ descriptions, ∀ processName, description.name = some processName →
      processName ∉ known.map RuntimeInfrastructureInstanceTarget.processName →
        if input.deploymentId = "unknown" then
          Pm2ProcessManager.isProcessName processName = true ↔
            Belongs names input.providerId input.deploymentId processName
        else ¬ Belongs names input.providerId input.deploymentId processName

theorem detectsLeftOver_iff_same {names : InstanceNames}
    {run : List (Program.Request DeploymentCall) × Except Failure (List String)}
    (reported : run.2 = .ok orphans)
    (records : recorded run.1 = if orphans = [] then [] else [orphans]) :
    DetectsLeftOver names input descriptions known run ↔
      ∀ processName, processName ∈ orphans ↔
        LeftOver names input descriptions known processName := by
  constructor
  · rintro ⟨others, isReported, same, _⟩
    rw [reported] at isReported
    cases isReported
    exact same
  · intro same
    exact ⟨orphans, reported, same, records⟩

/-- An undisturbed run of the check reports and records the left-over processes of the deployment
in these cases only. -/
theorem detectOrphans_detects_iff (names : InstanceNames)
    {asked : List (Program.Request DeploymentCall)}
    (listed : evaluation statements reading descriptions
      (listInstances input.providerId input.deploymentId) =
        (asked, .ok known)) :
    DetectsLeftOver names input descriptions known
        (evaluation statements reading descriptions
          (detectOrphans input)) ↔
      Detectable names input descriptions known := by
  unfold Detectable
  rcases list_cases descriptions with
    ⟨⟨failure, thrown⟩, invalid⟩ | ⟨⟨observed, isObserved, processes⟩, valid⟩
  · constructor
    · rintro ⟨orphans, reported, _⟩
      rw [evaluation_detectOrphans_error listed thrown] at reported
      cases reported
    · rintro ⟨valid, _⟩
      exact absurd valid invalid
  · obtain ⟨reported, records⟩ := evaluation_detectOrphans listed isObserved rfl
    rw [detectsLeftOver_iff_same reported records]
    have found : ∀ processName,
        processName ∈ orphansAmong input known
            (observed.map RuntimeInfrastructureProcessObservation.observation) ↔
          (input.deploymentId = "unknown" ∧
            Pm2ProcessManager.isProcessName processName = true ∧
            ∃ description ∈ descriptions, description.name = some processName) ∧
            processName ∉ known.map RuntimeInfrastructureInstanceTarget.processName := by
      intro processName
      rw [mem_orphansAmong, processes]
    constructor
    · intro same
      refine ⟨valid, ?_⟩
      intro description inList processName isName without
      have isFound := (found processName).symm.trans (same processName)
      by_cases isUnknown : input.deploymentId = "unknown"
      · rw [if_pos isUnknown]
        constructor
        · intro matches'
          exact (isFound.mp ⟨⟨isUnknown, matches', description, inList, isName⟩, without⟩).2.1
        · intro belongs
          exact (isFound.mpr ⟨⟨description, inList, isName⟩, belongs, without⟩).1.2.1
      · rw [if_neg isUnknown]
        intro belongs
        exact isUnknown (isFound.mpr ⟨⟨description, inList, isName⟩, belongs, without⟩).1.1
    · rintro ⟨_, agrees⟩ processName
      rw [found]
      constructor
      · rintro ⟨⟨isUnknown, matches', description, inList, isName⟩, without⟩
        have same := agrees description inList processName isName without
        rw [if_pos isUnknown] at same
        exact ⟨⟨description, inList, isName⟩, same.mp matches', without⟩
      · rintro ⟨⟨description, inList, isName⟩, belongs, without⟩
        have same := agrees description inList processName isName without
        by_cases isUnknown : input.deploymentId = "unknown"
        · rw [if_pos isUnknown] at same
          exact ⟨⟨isUnknown, same.mpr belongs, description, inList, isName⟩, without⟩
        · rw [if_neg isUnknown] at same
          exact absurd belongs same

variable {result : RuntimeDeploymentReconcileResult}

theorem reconcileLoop_reports {authority : RuntimeDeploymentAuthority} (steps : Nat)
    (deployment : RuntimeDeployment) (progressed : Bool)
    (ends : evaluation statements reading descriptions
      (reconcileLoop authority input orphans steps deployment
        progressed) = (asked, .ok result)) :
    result.orphanProcessNames = orphans := by
  induction steps generalizing deployment progressed asked with
  | zero => cases ends
  | succ steps ih =>
    unfold evaluation at ends
    unfold reconcileLoop at ends
    obtain ⟨_, _, later, _, rest, _⟩ := evaluate_bind_eq_ok ends
    split at rest
    · cases rest
    · split at rest
      · obtain ⟨_, stopped, last, _, final, _⟩ := evaluate_bind_eq_ok rest
        cases final
        rfl
      · obtain ⟨_, turn, last, _, final, _⟩ := evaluate_bind_eq_ok rest
        cases turn with
        | proceed next => exact ih next true final
        | finish ended moved =>
          cases final
          rfl

/-- A run of the reconciler that ends with a result reports what the check found. -/
theorem reconcile_reports (ends : evaluation statements reading descriptions
      (reconcile input) = (asked, .ok result)) :
    result.orphanProcessNames = [] ∨
      (evaluation statements reading descriptions
        (detectOrphans input)).2 = .ok result.orphanProcessNames := by
  have reports {authority : RuntimeDeploymentAuthority} {deployment : RuntimeDeployment}
      {orphans : List String} {asked : List (Program.Request DeploymentCall)}
      (ends : evaluation statements reading descriptions
        (reconcileWith authority deployment orphans input) =
          (asked, .ok result)) : result.orphanProcessNames = orphans := by
    apply reconcileLoop_reports 12 deployment false
    apply evaluate_attempt_eq_ok _ ends
    intro failure
    rw [evaluate_bind]
    cases (mapAndRecordFailure failure input).evaluate statements
        (listingAnswers reading descriptions) with
    | mk asked outcome =>
      cases outcome with
      | ok mapped => exact ⟨mapped, rfl⟩
      | error other => exact ⟨other, rfl⟩
  unfold evaluation at ends
  unfold reconcile at ends
  obtain ⟨_, _, later, _, rest, _⟩ := evaluate_bind_eq_ok ends
  obtain ⟨_, deployment, last, _, final, _⟩ := evaluate_bind_eq_ok rest
  split at final
  · exact Or.inl (reports final)
  · obtain ⟨detected, orphans, end', isDetected, whole, _⟩ := evaluate_bind_eq_ok final
    have checked := evaluate_attempt_eq_ok (fun failure => ⟨_, rfl⟩) isDetected
    right
    rw [reports whole]
    exact congrArg Prod.snd checked

end Runs

namespace OrphanSample

def names : InstanceNames where
  digest text := if text = "provider-a\u0000deployment-1" then "d50cd8c56d6a" else "6d187e3ec9dc"
  slug text := text

def store : DeploymentStore where
  deployment := {
    deploymentId := "deployment-1"
    providerId := "provider-a"
    environment := "production"
    runtimeAuthority := .platformManaged
    databaseProfileId := some "profile-1"
    adapterEndpoint := some "127.0.0.1:17021"
    desiredState := .running
    desiredReplicas := 1
    status := .active
    desiredRevision := 1
    observedRevision := 7 }
  processes := [deriveRuntimeInstanceIdentity names "provider-a" "deployment-1" 0]
  checkpoint := none
  completed := []
  inFlight := []
  running := []

def reading : Reading where
  failure := none
  aborted := false
  inventory := []
  configuration := fun _ => none
  directInstance := {
    target := {
      providerId := "provider-a"
      deploymentId := "deployment-1"
      instanceId := ""
      processName := "" }
    controlEndpoint := ""
    registrationState := .unregistered
    registrationFresh := false }
  verification := .verified
  health := { processState := .online, live := true, ready := true }
  profile := none
  secretRef := ""

def statements : Statements := fun effect => (execute names effect store).1

def input : RuntimeDeploymentReconcileInput where
  providerId := "provider-a"
  deploymentId := "deployment-1"
  context := {
    operationId := "operation-1"
    correlationId := "correlation-1"
    idempotencyKey := "key-1" }

def process (ordinal : Nat) : Pm2ProcessDescription where
  name := some (deriveRuntimeInstanceIdentity names "provider-a" "deployment-1" ordinal).pm2Name
  pid := some (4000 + ordinal)
  pm2Env := some {
    status := some "online"
    pmUptime := some 1786320000000
    restartTime := some 0
    bootstrapChecksum := none
    configRevision := none
    runtimeVersion := none }

def known : List RuntimeInfrastructureInstanceTarget :=
  [{ providerId := "provider-a"
     deploymentId := "deployment-1"
     instanceId := "runtime-6d187e3ec9dc-0"
     processName := "sdar-runtime-provider-a-d50cd8c56d6a-0" }]

theorem listed (descriptions : List Pm2ProcessDescription) :
    evaluation statements reading descriptions
      (listInstances input.providerId input.deploymentId) =
        ([⟨_, .publishedConfiguration store.deployment⟩], .ok known) := by
  rfl

theorem detectOrphans_detects_first :
    DetectsLeftOver names input [process 0] known
      (evaluation statements reading [process 0]
        (detectOrphans input)) := by
  apply (detectOrphans_detects_iff names (listed [process 0])).mpr
  constructor
  · intro description member _ milliseconds uptime
    rw [List.mem_singleton.mp member] at uptime
    cases uptime
    decide
  · intro description member processName isName without
    rw [List.mem_singleton.mp member] at isName
    cases isName
    exact absurd (by decide) without

/-- The second process of the deployment has no row, and the check does not see it. -/
theorem leftOver_not_detected :
    LeftOver names input [process 0, process 1] known
        (deriveRuntimeInstanceIdentity names "provider-a" "deployment-1" 1).pm2Name ∧
      ¬ DetectsLeftOver names input [process 0, process 1] known
        (evaluation statements reading [process 0, process 1]
          (detectOrphans input)) := by
  have leftOver : LeftOver names input [process 0, process 1] known
      (deriveRuntimeInstanceIdentity names "provider-a" "deployment-1" 1).pm2Name := by
    constructor
    · exact ⟨process 1, List.mem_cons_of_mem _ List.mem_cons_self, rfl⟩
    · constructor
      · exact ⟨1, by decide, rfl⟩
      · decide
  constructor
  · exact leftOver
  · rintro ⟨orphans, reported, same, _⟩
    have member := (same _).mpr leftOver
    rcases list_cases [process 0, process 1] with
      ⟨⟨failure, thrown⟩, _⟩ | ⟨⟨observed, isObserved, processes⟩, _⟩
    · rw [evaluation_detectOrphans_error (listed _) thrown] at reported
      cases reported
    · rw [(evaluation_detectOrphans (listed _) isObserved rfl).1] at reported
      cases reported
      rw [mem_orphansAmong, processes] at member
      exact absurd member.1.1 (by decide)

end OrphanSample

end Deployments

end SdarRuntime
