import SdarRuntime.Provider.StoreInvariants

/-!
The commands of a scope. One change is under way at most and one command holds an entry; a
command keeps its identity and ends once; and an intervention ends together with the version of
it that says so.
-/

namespace SdarRuntime.Business

open MemoryTaskBusinessStore OrderedMap

/-- What a command keeps of its claim. Its state leaves `accepted` once. -/
structure BusinessCommandRecord.Becomes (claimed command : BusinessCommandRecord) : Prop where
  commandType : command.commandType = claimed.commandType
  requestHash : command.requestHash = claimed.requestHash
  responseHash : command.responseHash = claimed.responseHash
  entryKey : command.entryKey = claimed.entryKey
  runtimeCommandSequence : command.runtimeCommandSequence = claimed.runtimeCommandSequence
  createdAt : command.createdAt.text = claimed.createdAt.text
  state : claimed.state = .accepted ∨ command.state = claimed.state

theorem BusinessCommandRecord.Becomes.refl (command : BusinessCommandRecord) :
    command.Becomes command := by
  constructor
  · rfl
  · rfl
  · rfl
  · rfl
  · rfl
  · rfl
  · exact Or.inr rfl

theorem BusinessCommandRecord.Becomes.trans {first second third : BusinessCommandRecord}
    (before : first.Becomes second) (after : second.Becomes third) : first.Becomes third := by
  constructor
  · rw [after.commandType, before.commandType]
  · rw [after.requestHash, before.requestHash]
  · rw [after.responseHash, before.responseHash]
  · rw [after.entryKey, before.entryKey]
  · rw [after.runtimeCommandSequence, before.runtimeCommandSequence]
  · rw [after.createdAt, before.createdAt]
  · rcases before.state with accepted | same
    · exact Or.inl accepted
    · rw [← same]
      exact after.state

theorem BusinessCommandRecord.becomes_of_sameCommand {claimed command : BusinessCommandRecord}
    (same : ScopeState.sameCommand claimed command = true) (accepted : claimed.state = .accepted) :
    claimed.Becomes command := by
  simp only [ScopeState.sameCommand, Bool.and_eq_true, beq_iff_eq] at same
  obtain ⟨⟨⟨⟨⟨⟨⟨commandType, requestHash⟩, responseHash⟩, createdAt⟩, entryKey⟩, sequence⟩, -⟩, -⟩ :=
    same
  constructor
  · exact commandType.symm
  · exact requestHash.symm
  · exact responseHash.symm
  · exact entryKey.symm
  · exact sequence.symm
  · exact createdAt.symm
  · exact Or.inl accepted

/-- No command leaves the ledger, and each keeps what it was claimed with. -/
def KeepsCommands (before after : ScopeState) : Prop :=
  ∀ id claimed, before.commands.get? id = some claimed →
    ∃ command, after.commands.get? id = some command ∧ claimed.Becomes command

theorem KeepsCommands.refl (state : ScopeState) : KeepsCommands state state :=
  fun _ claimed known => ⟨claimed, known, .refl claimed⟩

theorem KeepsCommands.trans {first second third : ScopeState} (before : KeepsCommands first second)
    (after : KeepsCommands second third) : KeepsCommands first third := by
  intro id claimed known
  obtain ⟨between, knownBetween, becomesBetween⟩ := before id claimed known
  obtain ⟨command, knownAfter, becomes⟩ := after id between knownBetween
  exact ⟨command, knownAfter, becomesBetween.trans becomes⟩

def ClaimsAccepted (before after : ScopeState) : Prop :=
  ∀ id command, before.commands.get? id = none → after.commands.get? id = some command →
    command.state = .accepted

variable {terminal : Option BusinessCommandRecord}

theorem Settles.congr {first second : ScopeState}
    {commands : OrderedMap String BusinessCommandRecord} (settles : Settles first commands terminal)
    (same : second.commands = first.commands) :
    Settles second commands terminal := by
  cases settles with
  | nothing unchanged => exact .nothing (unchanged.trans same.symm)
  | record known sameCommand accepted ended settled =>
    rw [← same] at known settled
    exact .record known sameCommand accepted ended settled

theorem Commits.settlesPrevious {libraries : Libraries} {previous next : ScopeState}
    {changeSet : BusinessChangeSet} {events : List TaskBusinessEventDraft}
    {staged : ScopeState.Staged}
    (commits : Commits libraries previous changeSet events staged next)
    (stored : Stored previous) : Settles previous next.commands changeSet.command :=
  commits.settles.congr (commits.stagedFrom stored).commands.symm

variable {state next : ScopeState}

theorem Settles.keepsCommands (settles : Settles state next.commands terminal) :
    KeepsCommands state next := by
  intro id claimed known
  cases settles with
  | nothing same =>
    rw [same]
    exact ⟨claimed, known, .refl claimed⟩
  | record knownTerminal same accepted ended settled =>
    rename_i command terminalClaim
    rw [settled, get?_set]
    by_cases isTerminal : id = command.commandId
    · rw [isTerminal, knownTerminal] at known
      cases known
      rw [if_pos isTerminal]
      exact ⟨command, rfl, BusinessCommandRecord.becomes_of_sameCommand same accepted⟩
    · rw [if_neg isTerminal]
      exact ⟨claimed, known, .refl claimed⟩

theorem Settles.claimsAccepted (settles : Settles state next.commands terminal) :
    ClaimsAccepted state next := by
  intro id command unknown known
  cases settles with
  | nothing same =>
    rw [same, unknown] at known
    cases known
  | record knownTerminal same accepted ended settled =>
    rw [settled, get?_set] at known
    split at known
    · rename_i isTerminal
      rw [isTerminal, knownTerminal] at unknown
      cases unknown
    · rw [unknown] at known
      cases known

theorem Claimable.keepsCommands {state : ScopeState} {command : BusinessCommandRecord}
    (claimable : Claimable state command) {next : ScopeState}
    (isNext : next.commands = state.commands.set command.commandId command) :
    KeepsCommands state next := by
  intro id claimed known
  have different : id ≠ command.commandId := by
    intro same
    rw [same, claimable.fresh] at known
    cases known
  rw [isNext, get?_set_ne _ _ different]
  exact ⟨claimed, known, .refl claimed⟩

theorem Claimable.claimsAccepted {state : ScopeState} {command : BusinessCommandRecord}
    (claimable : Claimable state command) {next : ScopeState}
    (isNext : next.commands = state.commands.set command.commandId command) :
    ClaimsAccepted state next := by
  intro id other unknown known
  rw [isNext, get?_set] at known
  split at known
  · cases known
    exact claimable.accepted
  · rw [unknown] at known
    cases known

theorem StateStep.commands {libraries : Libraries} (wellFormed : WellFormed state)
    (moved : StateStep libraries state next) :
    KeepsCommands state next ∧ ClaimsAccepted state next := by
  cases moved with
  | repeated =>
    constructor
    · exact KeepsCommands.refl state
    · intro id command unknown known
      rw [unknown] at known
      cases known
  | claimed claimable =>
    exact ⟨claimable.keepsCommands rfl, claimable.claimsAccepted rfl⟩
  | submitted claimable publishes =>
    exact ⟨claimable.keepsCommands rfl, claimable.claimsAccepted rfl⟩
  | committed commits =>
    have settles := commits.settlesPrevious wellFormed.stored
    exact ⟨settles.keepsCommands, settles.claimsAccepted⟩

def BusinessCommandRecord.HoldsEntry (entryKey : String) (command : BusinessCommandRecord) :
    Prop :=
  command.entryKey = some entryKey ∧ (command.state = .accepted ∨ command.state = .applied)

def BusinessCommandRecord.ChangeInProgress (command : BusinessCommandRecord) : Prop :=
  command.commandType = .intervention ∧ command.state = .accepted

structure Exclusive (commands : OrderedMap String BusinessCommandRecord) : Prop where
  atId : ∀ id command, commands.get? id = some command → command.commandId = id
  oneChange : commands.AtMostOne BusinessCommandRecord.ChangeInProgress
  oneEntry : ∀ entryKey, commands.AtMostOne (BusinessCommandRecord.HoldsEntry entryKey)

theorem exclusive_empty : Exclusive empty := by
  constructor
  · intro id command known
    cases known
  · exact OrderedMap.AtMostOne.empty _
  · exact fun entryKey => OrderedMap.AtMostOne.empty _

theorem Exclusive.claim {state : ScopeState} {command : BusinessCommandRecord}
    (exclusive : Exclusive state.commands) (claimable : Claimable state command) :
    Exclusive (state.commands.set command.commandId command) := by
  constructor
  · intro id other known
    rw [get?_set] at known
    split at known
    · rename_i isId
      cases known
      exact isId.symm
    · exact exclusive.atId id other known
  · apply exclusive.oneChange.set
    intro change other otherRecord known otherChange
    exact absurd otherChange.2
      (claimable.noChange other otherRecord known change.1 otherChange.1)
  · intro entryKey
    apply (exclusive.oneEntry entryKey).set
    intro holds other otherRecord known otherHolds
    have hasKey : command.entryKey.isSome = true := by
      rw [holds.1]
      rfl
    have rejected := claimable.entryFree other otherRecord known hasKey
      (otherHolds.1.trans holds.1.symm)
    rcases otherHolds.2 with accepted | applied
    · rw [accepted] at rejected
      cases rejected
    · rw [applied] at rejected
      cases rejected

theorem Exclusive.settle {state : ScopeState} {commands : OrderedMap String BusinessCommandRecord}
    (exclusive : Exclusive state.commands) (settles : Settles state commands terminal) :
    Exclusive commands := by
  cases settles with
  | nothing same =>
    rw [same]
    exact exclusive
  | record known same accepted ended settled =>
    rename_i command claimed
    have becomes := BusinessCommandRecord.becomes_of_sameCommand same accepted
    rw [settled]
    constructor
    · intro id other otherKnown
      rw [get?_set] at otherKnown
      split at otherKnown
      · rename_i isId
        cases otherKnown
        exact isId.symm
      · exact exclusive.atId id other otherKnown
    · apply exclusive.oneChange.set
      intro change
      exact absurd change.2 ended
    · intro entryKey
      apply (exclusive.oneEntry entryKey).set
      intro holds other otherRecord otherKnown otherHolds
      -- the claim that ends now held the entry before
      have heldBefore : claimed.HoldsEntry entryKey := by
        constructor
        · rw [← becomes.entryKey]
          exact holds.1
        · exact Or.inl accepted
      exact exclusive.oneEntry entryKey other command.commandId otherRecord claimed otherKnown
        known otherHolds heldBefore

/-- A stored version that says an intervention was applied by a command. -/
def AppliedBy (state : ScopeState) (commandId : String) (ref : BusinessObjectRef) : Prop :=
  ∃ intervention, state.version? ref = some (.intervention intervention) ∧
    intervention.state = .applied ∧ intervention.acceptedCommandId = some commandId

/-- A stored version that says a command's intervention came to nothing. -/
def RejectedBy (state : ScopeState) (commandId : String) (ref : BusinessObjectRef) : Prop :=
  ∃ intervention, state.version? ref = some (.intervention intervention) ∧
    (intervention.state = .failed ∨ intervention.state = .withdrawn) ∧
      intervention.acceptedCommandId = some commandId

theorem mem_publishedInterventions {published : List BusinessObjectVersion}
    {intervention : RuntimeIntervention} :
    intervention ∈ publishedInterventions published ↔ .intervention intervention ∈ published := by
  unfold publishedInterventions
  rw [List.mem_filterMap]
  constructor
  · rintro ⟨version, member, isIntervention⟩
    cases version with
    | intervention value =>
      cases isIntervention
      exact member
    | artifact value => cases isIntervention
    | action value => cases isIntervention
    | inputRequest value => cases isIntervention
  · intro member
    exact ⟨_, member, rfl⟩

variable {command : Option BusinessCommandRecord}

theorem isCommand_eq_true {state : BusinessCommandState} :
    isCommand command state = true ↔
      ∃ record, command = some record ∧ record.commandType = .intervention ∧
        record.state = state := by
  cases command with
  | none => simp [isCommand]
  | some record => simp [isCommand]

/-- What the published versions and the ended command of a change set say of each other when an
intervention is applied. -/
structure AppliesOnce (published : List BusinessObjectVersion)
    (command : Option BusinessCommandRecord) : Prop where
  owned : ∀ intervention, .intervention intervention ∈ published →
    intervention.state = .applied → ∃ record, command = some record ∧
      record.commandType = .intervention ∧ record.state = .applied ∧
        intervention.acceptedCommandId = some record.commandId
  once : ∀ first second, .intervention first ∈ published → .intervention second ∈ published →
    first.state = .applied → second.state = .applied → first = second
  shown : ∀ record, command = some record → record.commandType = .intervention →
    record.state = .applied → ∃ intervention, .intervention intervention ∈ published ∧
      intervention.state = .applied ∧ intervention.acceptedCommandId = some record.commandId

theorem assertInterventionAppliedFacts_eq_ok {previous : Option TaskBusinessContext}
    {next : TaskBusinessContext} {published : List BusinessObjectVersion}
    (checked : assertInterventionAppliedFacts previous next published command = .ok ()) :
    AppliesOnce published command := by
  unfold assertInterventionAppliedFacts at checked
  obtain ⟨_, objects, facts⟩ := Except.bind_eq_ok.mp checked
  rw [require_eq_ok, Bool.or_eq_true, Bool.and_eq_true, beq_iff_eq, isCommand_eq_true] at objects
  have shown : ∀ record, command = some record → record.commandType = .intervention →
      record.state = .applied → ∃ intervention, .intervention intervention ∈ published ∧
        intervention.state = .applied ∧
          intervention.acceptedCommandId = some record.commandId := by
    intro record isRecord commandType applied
    have isApplied : isCommand command .applied = true :=
      isCommand_eq_true.mpr ⟨record, isRecord, commandType, applied⟩
    rw [if_pos isApplied, require_eq_ok, beq_iff_eq, isRecord] at facts
    obtain ⟨ended, isEnded, facts⟩ := Option.bind_eq_some_iff.mp facts
    cases isEnded
    obtain ⟨entryId, -, facts⟩ := Option.bind_eq_some_iff.mp facts
    obtain ⟨intervention, found, facts⟩ := Option.bind_eq_some_iff.mp facts
    obtain ⟨before, -, facts⟩ := Option.bind_eq_some_iff.mp facts
    have complete := Option.some.inj facts
    simp only [appliedFactsComplete, Bool.and_eq_true, beq_iff_eq] at complete
    refine ⟨intervention, ?_, ?_, ?_⟩
    · exact mem_publishedInterventions.mp (List.mem_of_find?_eq_some found)
    · tauto
    · tauto
  have member : ∀ intervention, .intervention intervention ∈ published →
      intervention.state = .applied →
        intervention ∈ (publishedInterventions published).filter fun item =>
          item.state == .applied := by
    intro intervention isPublished applied
    rw [List.mem_filter, applied]
    exact ⟨mem_publishedInterventions.mpr isPublished, rfl⟩
  have once : ∀ first second, .intervention first ∈ published →
      .intervention second ∈ published → first.state = .applied → second.state = .applied →
        first = second := by
    intro first second firstPublished secondPublished firstApplied secondApplied
    have firstMember := member first firstPublished firstApplied
    have secondMember := member second secondPublished secondApplied
    rcases objects with none | ⟨one, -⟩
    · rw [List.isEmpty_iff.mp none] at firstMember
      cases firstMember
    · obtain ⟨only, isOnly⟩ := List.length_eq_one_iff.mp one
      rw [isOnly, List.mem_singleton] at firstMember secondMember
      rw [firstMember, secondMember]
  constructor
  · intro intervention isPublished applied
    have isMember := member intervention isPublished applied
    rcases objects with none | ⟨-, record, isRecord, commandType, recordApplied⟩
    · rw [List.isEmpty_iff.mp none] at isMember
      cases isMember
    · obtain ⟨other, otherPublished, otherApplied, carries⟩ :=
        shown record isRecord commandType recordApplied
      rw [once intervention other isPublished otherPublished applied otherApplied]
      exact ⟨record, isRecord, commandType, recordApplied, carries⟩
  · exact once
  · exact shown

variable {record : BusinessCommandRecord}

theorem assertInterventionRejectedFacts_eq_ok {previous : Option TaskBusinessContext}
    {next : TaskBusinessContext} {published : List BusinessObjectVersion}
    (checked : assertInterventionRejectedFacts previous next published (some record) = .ok ())
    (commandType : record.commandType = .intervention) (rejected : record.state = .rejected) :
    ∃ intervention, .intervention intervention ∈ published ∧
      (intervention.state = .failed ∨ intervention.state = .withdrawn) ∧
        intervention.acceptedCommandId = some record.commandId := by
  unfold assertInterventionRejectedFacts at checked
  obtain ⟨_, -, facts⟩ := Except.bind_eq_ok.mp checked
  have isRejected : isCommand (some record) .rejected = true :=
    isCommand_eq_true.mpr ⟨record, rfl, commandType, rejected⟩
  rw [if_pos isRejected, require_eq_ok, beq_iff_eq] at facts
  obtain ⟨ended, isEnded, facts⟩ := Option.bind_eq_some_iff.mp facts
  cases isEnded
  obtain ⟨entryId, -, facts⟩ := Option.bind_eq_some_iff.mp facts
  obtain ⟨intervention, found, facts⟩ := Option.bind_eq_some_iff.mp facts
  obtain ⟨before, -, facts⟩ := Option.bind_eq_some_iff.mp facts
  have complete := Option.some.inj facts
  simp only [rejectedFactsComplete, Bool.and_eq_true, beq_iff_eq] at complete
  have member := List.mem_filter.mp (List.mem_of_find?_eq_some found)
  have isRejection := member.2
  simp only [RuntimeIntervention.isRejection, Bool.and_eq_true, Bool.or_eq_true,
    beq_iff_eq] at isRejection
  refine ⟨intervention, mem_publishedInterventions.mp member.1, isRejection.2, ?_⟩
  tauto

section CommittedFacts

variable {libraries : Libraries} {previous next : ScopeState} {changeSet : BusinessChangeSet}
  {events : List TaskBusinessEventDraft} {staged : ScopeState.Staged}

theorem Commits.appliesOnce
    (commits : Commits libraries previous changeSet events staged next) :
    AppliesOnce staged.published changeSet.command := by
  obtain ⟨_, -, facts⟩ := Except.bind_eq_ok.mp commits.facts
  obtain ⟨_, applied, -⟩ := Except.bind_eq_ok.mp facts
  exact assertInterventionAppliedFacts_eq_ok applied

theorem Commits.showsRejection (commits : Commits libraries previous changeSet events staged next)
    (isRecord : changeSet.command = some record) (commandType : record.commandType = .intervention)
    (rejected : record.state = .rejected) :
    ∃ intervention, .intervention intervention ∈ staged.published ∧
      (intervention.state = .failed ∨ intervention.state = .withdrawn) ∧
        intervention.acceptedCommandId = some record.commandId := by
  obtain ⟨_, -, facts⟩ := Except.bind_eq_ok.mp commits.facts
  obtain ⟨_, -, facts⟩ := Except.bind_eq_ok.mp facts
  obtain ⟨_, checked, -⟩ := Except.bind_eq_ok.mp facts
  rw [isRecord] at checked
  exact assertInterventionRejectedFacts_eq_ok checked commandType rejected

theorem Commits.origin (commits : Commits libraries previous changeSet events staged next)
    (stored : Stored previous) {ref : BusinessObjectRef} {version : BusinessObjectVersion}
    (isStored : next.version? ref = some version) :
    previous.version? ref = some version ∨
      version ∈ staged.published ∧ ref = version.businessObjectRef := by
  have from_ := commits.stagedFrom stored
  rw [ScopeState.version?_congr commits.versions] at isStored
  rcases from_.origin ref version isStored with old | published
  · exact Or.inl old
  · exact Or.inr ⟨published, (from_.stored.atRef ref version isStored).symm⟩

theorem Commits.published (commits : Commits libraries previous changeSet events staged next)
    (stored : Stored previous) {version : BusinessObjectVersion}
    (member : version ∈ staged.published) :
    next.version? version.businessObjectRef = some version := by
  rw [ScopeState.version?_congr commits.versions]
  exact (commits.stagedFrom stored).published version member

end CommittedFacts

/-- The ends of the ledger's interventions and the versions that tell of them. -/
structure EndsShown (state : ScopeState) : Prop where
  owned : ∀ ref intervention, state.version? ref = some (.intervention intervention) →
    intervention.state = .applied → ∃ id command, intervention.acceptedCommandId = some id ∧
      state.commands.get? id = some command ∧ command.commandType = .intervention ∧
        command.state = .applied
  once : ∀ id first second, AppliedBy state id first → AppliedBy state id second →
    first = second
  applied : ∀ id command, state.commands.get? id = some command →
    command.commandType = .intervention → command.state = .applied → ∃ ref, AppliedBy state id ref
  rejected : ∀ id command, state.commands.get? id = some command →
    command.commandType = .intervention → command.state = .rejected →
      ∃ ref, RejectedBy state id ref

theorem endsShown_empty : EndsShown emptyState := by
  constructor
  · intro ref intervention impossible
    cases impossible
  · rintro id first second ⟨intervention, impossible, -⟩
    cases impossible
  · intro id command impossible
    cases impossible
  · intro id command impossible
    cases impossible

variable {before after : ScopeState} {id : String} {ref : BusinessObjectRef}

theorem AppliedBy.mono (kept : KeepsVersions before after) (shown : AppliedBy before id ref) :
    AppliedBy after id ref := by
  obtain ⟨intervention, stored, facts⟩ := shown
  exact ⟨intervention, kept ref _ stored, facts⟩

theorem RejectedBy.mono (kept : KeepsVersions before after) (shown : RejectedBy before id ref) :
    RejectedBy after id ref := by
  obtain ⟨intervention, stored, facts⟩ := shown
  exact ⟨intervention, kept ref _ stored, facts⟩

theorem EndsShown.claim {command : BusinessCommandRecord} (shown : EndsShown state)
    (claimable : Claimable state command)
    (isNext : next.commands = state.commands.set command.commandId command)
    (kept : KeepsVersions state next)
    (origin : ∀ ref intervention, next.version? ref = some (.intervention intervention) →
      intervention.state = .applied → state.version? ref = some (.intervention intervention)) :
    EndsShown next := by
  have before : ∀ id other, next.commands.get? id = some other → other.state ≠ .accepted →
      state.commands.get? id = some other := by
    intro id other known ended
    rw [isNext, get?_set] at known
    split at known
    · cases known
      exact absurd claimable.accepted ended
    · exact known
  constructor
  · intro ref intervention stored applied
    obtain ⟨id, other, carries, known, commandType, ended⟩ :=
      shown.owned ref intervention (origin ref intervention stored applied) applied
    obtain ⟨later, knownLater, becomes⟩ := claimable.keepsCommands isNext id other known
    have stays : later.state = other.state := by
      rcases becomes.state with accepted | same
      · rw [ended] at accepted
        cases accepted
      · exact same
    exact ⟨id, later, carries, knownLater, becomes.commandType.trans commandType,
      stays.trans ended⟩
  · rintro id first second ⟨firstVersion, firstStored, firstApplied, firstCarries⟩
      ⟨secondVersion, secondStored, secondApplied, secondCarries⟩
    apply shown.once id first second
    · exact ⟨firstVersion, origin _ _ firstStored firstApplied, firstApplied, firstCarries⟩
    · exact ⟨secondVersion, origin _ _ secondStored secondApplied, secondApplied, secondCarries⟩
  · intro id other known commandType applied
    have knownBefore := before id other known (by rw [applied]; decide)
    obtain ⟨ref, appliedBefore⟩ := shown.applied id other knownBefore commandType applied
    exact ⟨ref, appliedBefore.mono kept⟩
  · intro id other known commandType rejected
    have knownBefore := before id other known (by rw [rejected]; decide)
    obtain ⟨ref, rejectedBefore⟩ := shown.rejected id other knownBefore commandType rejected
    exact ⟨ref, rejectedBefore.mono kept⟩

theorem Settles.origin {state : ScopeState} {commands : OrderedMap String BusinessCommandRecord}
    (settles : Settles state commands terminal) {command : BusinessCommandRecord}
    (known : commands.get? id = some command) :
    state.commands.get? id = some command ∨ terminal = some command ∧ id = command.commandId := by
  cases settles with
  | nothing same =>
    rw [same] at known
    exact Or.inl known
  | record claimedKnown same accepted ended settled =>
    rw [settled, get?_set] at known
    split at known
    · rename_i isTerminal
      cases known
      exact Or.inr ⟨rfl, isTerminal⟩
    · exact Or.inl known

theorem Settles.ended {state : ScopeState} {commands : OrderedMap String BusinessCommandRecord}
    {command : BusinessCommandRecord} (settles : Settles state commands (some command)) :
    commands.get? command.commandId = some command ∧
      ∃ claimed, state.commands.get? command.commandId = some claimed ∧
        claimed.state = .accepted := by
  cases settles with
  | record known same accepted ended settled =>
    rw [settled, get?_set_self]
    exact ⟨rfl, _, known, accepted⟩

theorem EndsShown.commit {libraries : Libraries} {previous next : ScopeState}
    {changeSet : BusinessChangeSet} {events : List TaskBusinessEventDraft}
    {staged : ScopeState.Staged} (shown : EndsShown previous) (stored : Stored previous)
    (commits : Commits libraries previous changeSet events staged next)
    (kept : KeepsVersions previous next) : EndsShown next := by
  have settles := commits.settlesPrevious stored
  have facts := commits.appliesOnce
  -- a version the change set publishes belongs to the command it ends, which was open before
  have open_ : ∀ intervention, .intervention intervention ∈ staged.published →
      intervention.state = .applied → ∃ command claimed, changeSet.command = some command ∧
        intervention.acceptedCommandId = some command.commandId ∧
          previous.commands.get? command.commandId = some claimed ∧
            claimed.state = .accepted := by
    intro intervention published applied
    obtain ⟨command, isCommand, -, -, carries⟩ := facts.owned intervention published applied
    rw [isCommand] at settles
    obtain ⟨-, claimed, known, accepted⟩ := settles.ended
    exact ⟨command, claimed, isCommand, carries, known, accepted⟩
  -- so it cannot carry the id of a command that an earlier version carries
  have apart : ∀ id ref old new, previous.version? ref = some (.intervention old) →
      old.state = .applied → old.acceptedCommandId = some id →
        .intervention new ∈ staged.published → new.state = .applied →
          new.acceptedCommandId ≠ some id := by
    intro id ref old new oldStored oldApplied oldCarries newPublished newApplied newCarries
    obtain ⟨oldId, command, carries, known, -, ended⟩ := shown.owned ref old oldStored oldApplied
    obtain ⟨endedNow, claimed, -, nowCarries, knownOpen, accepted⟩ :=
      open_ new newPublished newApplied
    rw [oldCarries] at carries
    rw [newCarries] at nowCarries
    rw [← Option.some.inj nowCarries, Option.some.inj carries, known] at knownOpen
    rw [← Option.some.inj knownOpen, ended] at accepted
    cases accepted
  constructor
  · intro ref intervention isStored applied
    rcases commits.origin stored isStored with old | ⟨published, -⟩
    · obtain ⟨id, command, carries, known, commandType, ended⟩ :=
        shown.owned ref intervention old applied
      obtain ⟨later, knownLater, becomes⟩ := settles.keepsCommands id command known
      rcases becomes.state with accepted | same
      · rw [ended] at accepted
        cases accepted
      · exact ⟨id, later, carries, knownLater, becomes.commandType.trans commandType,
          same.trans ended⟩
    · obtain ⟨command, isCommand, commandType, ended, carries⟩ :=
        facts.owned intervention published applied
      rw [isCommand] at settles
      exact ⟨command.commandId, command, carries, settles.ended.1, commandType, ended⟩
  · rintro id first second ⟨firstVersion, firstStored, firstApplied, firstCarries⟩
      ⟨secondVersion, secondStored, secondApplied, secondCarries⟩
    rcases commits.origin stored firstStored with firstOld | ⟨firstNew, firstRef⟩
    · rcases commits.origin stored secondStored with secondOld | ⟨secondNew, secondRef⟩
      · apply shown.once id first second
        · exact ⟨firstVersion, firstOld, firstApplied, firstCarries⟩
        · exact ⟨secondVersion, secondOld, secondApplied, secondCarries⟩
      · exact absurd secondCarries (apart id first firstVersion secondVersion firstOld
          firstApplied firstCarries secondNew secondApplied)
    · rcases commits.origin stored secondStored with secondOld | ⟨secondNew, secondRef⟩
      · exact absurd firstCarries (apart id second secondVersion firstVersion secondOld
          secondApplied secondCarries firstNew firstApplied)
      · rw [firstRef, secondRef,
          facts.once firstVersion secondVersion firstNew secondNew firstApplied secondApplied]
  · intro id command known commandType applied
    rcases settles.origin known with old | ⟨isCommand, isId⟩
    · obtain ⟨ref, appliedBefore⟩ := shown.applied id command old commandType applied
      exact ⟨ref, appliedBefore.mono kept⟩
    · obtain ⟨intervention, published, isApplied, carries⟩ :=
        facts.shown command isCommand commandType applied
      rw [isId]
      exact ⟨_, intervention, commits.published stored published, isApplied, carries⟩
  · intro id command known commandType rejected
    rcases settles.origin known with old | ⟨isCommand, isId⟩
    · obtain ⟨ref, rejectedBefore⟩ := shown.rejected id command old commandType rejected
      exact ⟨ref, rejectedBefore.mono kept⟩
    · obtain ⟨intervention, published, isRejected, carries⟩ :=
        commits.showsRejection isCommand commandType rejected
      rw [isId]
      exact ⟨_, intervention, commits.published stored published, isRejected, carries⟩

structure Ledger (state : ScopeState) : Prop where
  wellFormed : WellFormed state
  exclusive : Exclusive state.commands
  ends : EndsShown state

theorem ledger_empty : Ledger emptyState := by
  constructor
  · exact wellFormed_empty
  · exact exclusive_empty
  · exact endsShown_empty

theorem StateStep.ledger {libraries : Libraries} (ledger : Ledger state)
    (moved : StateStep libraries state next) : Ledger next := by
  have wellFormed := moved.wellFormed ledger.wellFormed
  have kept := (moved.advances ledger.wellFormed).versions
  cases moved with
  | repeated => exact ledger
  | claimed claimable =>
    constructor
    · exact wellFormed
    · exact ledger.exclusive.claim claimable
    · exact ledger.ends.claim claimable rfl kept (fun _ _ stored _ => stored)
  | submitted claimable publishes =>
    rename_i scope command entryRef context previous recordedAt submission
    constructor
    · exact wellFormed
    · exact ledger.exclusive.claim claimable
    · apply ledger.ends.claim claimable rfl kept
      intro ref intervention stored applied
      change (state.setVersion submission.version).version? ref = _ at stored
      rw [ScopeState.version?_setVersion] at stored
      split at stored
      · -- the version stored with a claim is only submitted
        rw [publishes.submits.version] at stored
        cases stored
        cases applied
      · exact stored
  | committed commits =>
    constructor
    · exact wellFormed
    · exact ledger.exclusive.settle (commits.settlesPrevious ledger.wellFormed.stored)
    · exact ledger.ends.commit ledger.wellFormed.stored commits kept

theorem run_keepsCommands (libraries : Libraries) (earlier later : List StoreOperation)
    (key : String) :
    KeepsCommands ((run libraries earlier).scopeState key)
      ((run libraries (earlier ++ later)).scopeState key) :=
  run_related wellFormed_empty
    (fun before moved => moved.wellFormed before) KeepsCommands.refl KeepsCommands.trans
    (fun before moved => (moved.commands before).1) earlier later key

/-- In every reachable scope one intervention is under way at most and one command holds an entry;
an intervention command is applied exactly when one stored version carries it as applied, and
rejected only with a version that failed or was withdrawn for it. Every command is accepted when
it enters, keeps its identity, and leaves that state once. -/
theorem commandLedger_settlesOnce (libraries : Libraries) (scope : BoundExecutionScope)
    (operations : List StoreOperation) :
    let state := (run libraries operations).scopeState scope.key
    Exclusive state.commands ∧
    (∀ id command, state.commands.get? id = some command →
      command.commandType = .intervention →
        (command.state = .applied ↔ ∃! ref, AppliedBy state id ref) ∧
        (command.state = .rejected → ∃ ref, RejectedBy state id ref)) ∧
    (∀ operation, ClaimsAccepted state
      ((run libraries (operations ++ [operation])).scopeState
        scope.key)) ∧
    ∀ later, KeepsCommands state
      ((run libraries (operations ++ later)).scopeState scope.key) := by
  intro state
  have ledger : Ledger state :=
    run_keeps ledger_empty (fun before moved => moved.ledger before)
      operations scope.key
  refine ⟨ledger.exclusive, ?_, ?_, ?_⟩
  · intro id command known commandType
    constructor
    · constructor
      · intro applied
        obtain ⟨ref, isApplied⟩ := ledger.ends.applied id command known commandType applied
        exact ⟨ref, isApplied, fun other otherApplied =>
          ledger.ends.once id other ref otherApplied isApplied⟩
      · rintro ⟨ref, ⟨intervention, stored, applied, carries⟩, -⟩
        obtain ⟨owner, record, ownerCarries, ownerKnown, -, ended⟩ :=
          ledger.ends.owned ref intervention stored applied
        rw [carries] at ownerCarries
        rw [← Option.some.inj ownerCarries, known] at ownerKnown
        rw [Option.some.inj ownerKnown]
        exact ended
    · exact ledger.ends.rejected id command known commandType
  · intro operation
    rw [run_append]
    rcases step_scopeState libraries
      (run libraries operations) operation scope.key with same | moved
    · rw [List.foldl_cons, List.foldl_nil, same]
      intro id command unknown known
      rw [unknown] at known
      cases known
    · exact (moved.commands ledger.wellFormed).2
  · exact fun later => run_keepsCommands libraries operations later scope.key

end SdarRuntime.Business
