import SdarRuntime.BusinessEvents.Inbox
import SdarRuntime.BusinessEvents.Sample

/-!
A durable source that is blocked, or has lost its continuity, is held. It should not be active
again before a rotation names it.
-/

namespace SdarRuntime

namespace BusinessEvents

def SourceState.Held (state : SourceState) : Prop :=
  state.deliverySemantics = .durableAtLeastOnce ∧
    (state.status = .blockedIdentityConflict ∨ state.status = .blockedContractViolation ∨
      state.status = .continuityLossPending)

/-- What sets the status of a source without a record that names it: a fact that is taken, the
end of its connection, or a rotation for other sources. -/
inductive Frees (environment : Environment) (tables : Tables) (step : Step) (sourceId : String) :
    Prop
  | taken {lease : Lease} {fact : SourceFact} {mappingDeadlineMs : Nat} {state : SourceState}
      {input : Json} {occurredAt hash : String}
      (isCall : step.call = .intakeSourceFact lease fact mappingDeadlineMs)
      (isSource : lease.sourceId = sourceId)
      (known : tables.sources.get? sourceId = some state)
      (takes : Takes tables step.readings state lease fact)
      (hashes : Hashes environment lease fact occurredAt input hash)
      (valid : validateSourceFact environment fact sourceId = none)
      (lasts : state.lasts step.readings.later = true)
  | unavailable {lease : Lease} {state : SourceState}
      (isCall : step.call = .markSourceUnavailable lease) (isSource : lease.sourceId = sourceId)
      (known : tables.sources.get? sourceId = some state) (leased : state.leasedTo lease = true)
  | rotated {reasonCode streamId : String} {affectedSourceIds : List String}
      {identity : ContinuityReason} {replacementRoster : Option (List SourceDefinition)}
      {previous : Generation} {roster : List SourceDefinition} {record : ContinuityRecord}
      (isCall : step.call =
        .rotateStream reasonCode affectedSourceIds identity replacementRoster)
      (rotates : Rotates tables step.readings reasonCode affectedSourceIds identity
        replacementRoster streamId previous roster record)
      (unnamed : sourceId ∉ record.affectedSourceIds)

def KeepsHeld (environment : Environment) (tables : Tables) (step : Step) : Prop :=
  ∀ sourceId state, tables.sources.get? sourceId = some state → state.Held →
    ¬Frees environment tables step sourceId

variable {environment : Environment} {before after : Tables} {step : Step}

def Names (records : List ContinuityRecord) (sourceId : String) : Prop :=
  ∃ record, record ∈ records ∧ sourceId ∈ record.affectedSourceIds

theorem Change.held (change : Change environment before step.readings step.call after)
    (keeps : KeepsHeld environment before step) {sourceId : String} {state : SourceState}
    (known : before.sources.get? sourceId = some state) (held : state.Held) :
    (∃ next, after.sources.get? sourceId = some next ∧ next.Held) ∨
      ∃ record, after.continuity = before.continuity ++ [record] ∧
        sourceId ∈ record.affectedSourceIds := by
  have notFreed := keeps sourceId state known held
  -- A source that is written over is this one, or this one stays as it is.
  have written {other : String} {old next : SourceState}
      (isOld : before.sources.get? other = some old)
      (isHeld : other = sourceId → old = state → next.Held) :
      ∃ found, (before.sources.set other next).get? sourceId = some found ∧ found.Held := by
    rw [OrderedMap.get?_set]
    by_cases same : sourceId = other
    · rw [if_pos same]
      rw [same, isOld] at known
      exact ⟨next, rfl, isHeld same.symm (Option.some.inj known)⟩
    · rw [if_neg same]
      exact ⟨state, known, held⟩
  generalize isCall : step.call = call at change
  cases change with
  | idle => exact Or.inl ⟨state, known, held⟩
  | initialized first distinct unknown fresh =>
    exact Or.inl ⟨state, get?_initialized_sources unknown known, held⟩
  | updated isSource updates =>
    apply Or.inl (written isSource _)
    intro same isState
    rw [isState] at updates
    cases updates with
    | acquired notBlocked notPending free =>
      rcases held.2 with conflict | violation | pending
      · simp [SourceStatus.isBlocked, conflict] at notBlocked
      · simp [SourceStatus.isBlocked, violation] at notBlocked
      · exact absurd pending notPending
    | renewed leases => exact held
    | unavailable leased => exact (notFreed (.unavailable isCall same known leased)).elim
    | refused leases => exact ⟨held.1, Or.inl rfl⟩
  | took mappingDeadline isSource takes hashes validated =>
    apply Or.inl (written isSource _)
    intro same isState
    rw [isState] at takes ⊢
    unfold SourceState.afterFact
    split
    · rename_i lasts
      unfold SourceState.advanced
      split
      · exact ⟨held.1, Or.inr (Or.inr rfl)⟩
      · rename_i notDurable
        split
        · rename_i rejected
          exact absurd ⟨rejected, held.1⟩ notDurable
        · rename_i valid
          rw [validated, Bool.not_eq_true, Option.isSome_eq_false_iff,
            Option.isNone_iff_eq_none, same] at valid
          exact (notFreed (.taken isCall same known takes hashes valid lasts)).elim
    · exact held
  | poisoned isSource leases =>
    apply Or.inl (written isSource _)
    intro same isState
    rw [isState]
    exact ⟨held.1, Or.inr (Or.inl rfl)⟩
  | prepared unprepared prepares => exact Or.inl ⟨state, known, held⟩
  | mappingFailed unprepared =>
    apply Or.inl (written unprepared.known _)
    intro same isState
    rw [isState]
    refine ⟨held.1, Or.inr (Or.inr ?_)⟩
    simp [held.1]
  | @published _ _ _ _ other _ _ event publishes =>
    have isSource : before.sources.get? event.sourceId = some other := by
      rw [publishes.source]
      exact publishes.known
    apply Or.inl (written isSource _)
    intro same isState
    rw [isState]
    exact held
  | @rotated _ _ _ _ _ _ _ record rotates =>
    right
    refine ⟨record, rfl, ?_⟩
    by_contra unnamed
    exact notFreed (.rotated isCall rotates unnamed)

/-- Between a state in which a source is held and one in which it is active, a rotation names
the source. -/
def HeldUntilNamed (environment : Environment) (steps : List Step) : Prop :=
  ∀ early middle late, steps = early ++ (middle ++ late) →
    ∀ first last, first = run environment .empty early → last = run environment first middle →
      ∀ sourceId state next, first.sources.get? sourceId = some state → state.Held →
        last.sources.get? sourceId = some next → next.status = .active →
          Names (last.continuity.drop first.continuity.length) sourceId

theorem Names.grow {first middle last : List ContinuityRecord} {sourceId : String}
    (names : Names (middle.drop first.length) sourceId) (grown : middle <+: last) :
    Names (last.drop first.length) sourceId := by
  obtain ⟨record, member, named⟩ := names
  obtain ⟨added, isLast⟩ := grown
  refine ⟨record, ?_, named⟩
  rw [← isLast, List.drop_append]
  exact List.mem_append_left _ member

theorem run_held {first : Tables} {sourceId : String} {state : SourceState}
    (known : first.sources.get? sourceId = some state) (held : state.Held) {steps : List Step}
    (keeps : Histories.EveryStep (Step.commit environment) (KeepsHeld environment) first steps) :
    (∃ next, (run environment first steps).sources.get? sourceId = some next ∧ next.Held) ∨
      Names ((run environment first steps).continuity.drop first.continuity.length) sourceId := by
  have outcome := Histories.keeps_or_ends
    (H := fun tables => first.continuity <+: tables.continuity ∧
      ∃ next, tables.sources.get? sourceId = some next ∧ next.Held)
    (E := fun tables => Names (tables.continuity.drop first.continuity.length) sourceId)
    ?_ ?_ ⟨List.prefix_refl _, state, known, held⟩ keeps
  · rcases outcome with still | named
    · exact Or.inl still.2
    · exact Or.inr named
  · intro tables step keepsHere holds
    obtain ⟨grown, next, isNext, isHeld⟩ := holds
    have change := commit_change environment tables step
    rcases change.held keepsHere isNext isHeld with still | ⟨record, added, named⟩
    · exact Or.inl ⟨grown.trans change.continuity_grows, still⟩
    · right
      refine ⟨record, ?_, named⟩
      rw [added, List.drop_append_of_le_length grown.length_le]
      exact List.mem_append_right _ (List.mem_singleton_self record)
  · intro tables step _ named
    exact named.grow (commit_change environment tables step).continuity_grows

/-- Held sources come back as they should in every run that frees none of them. -/
theorem businessEvents_heldUntilNamed (environment : Environment) (steps : List Step)
    (keeps : Histories.EveryStep (Step.commit environment) (KeepsHeld environment) .empty steps) :
    HeldUntilNamed environment steps := by
  intro early middle late isSteps first last isFirst isLast sourceId state next known held isNext
    active
  rw [isSteps, Histories.everyStep_append, Histories.everyStep_append] at keeps
  obtain ⟨_, keepsMiddle, _⟩ := keeps
  have isRun : Histories.after (Step.commit environment) .empty early = first := isFirst.symm
  rw [isRun] at keepsMiddle
  rcases run_held known held keepsMiddle with ⟨other, isOther, stillHeld⟩ | named
  · rw [isLast] at isNext
    have same : other = next := Option.some.inj (isOther.symm.trans isNext)
    rw [same] at stillHeld
    rcases stillHeld.2 with conflict | violation | pending
    · rw [conflict] at active
      cases active
    · rw [violation] at active
      cases active
    · rw [pending] at active
      cases active
  · rw [isLast]
    exact named

section Runs

open Sample

def rejectedAndRotated : List Step :=
  steps "first" [.initializeProviderGeneration [source "A"], acquire "A",
    intake (untyped "A" "event-1" 1) 1] ++ steps "second" [rotate "request-1" "A"]

theorem rejectedAndRotated_held : HeldUntilNamed Sample.environment rejectedAndRotated := by
  apply businessEvents_heldUntilNamed
  refine ⟨?_, ?_, ?_, ?_, trivial⟩
  · intro sourceId state known
    cases known
  · intro sourceId state known held frees
    cases frees with
    | taken isCall => cases isCall
    | unavailable isCall => cases isCall
    | rotated isCall => cases isCall
  · intro sourceId state known held frees
    have active : (run Sample.environment .empty (steps "first"
        [.initializeProviderGeneration [source "A"], acquire "A"])).sources.entries.all
          (fun entry => entry.2.status == .active) = true := by decide +kernel
    have isActive := List.all_eq_true.mp active (sourceId, state) (OrderedMap.mem_entries.mpr known)
    rcases held.2 with status | status | status
    all_goals
      rw [status] at isActive
      cases isActive
  · intro sourceId state known held frees
    have alone : (run Sample.environment .empty (steps "first"
        [.initializeProviderGeneration [source "A"], acquire "A",
          intake (untyped "A" "event-1" 1) 1])).sources.keys = ["adapter"] := by decide +kernel
    have isKey : sourceId ∈ ["adapter"] := by
      rw [← alone]
      exact OrderedMap.mem_keys.mpr (Option.isSome_iff_exists.mpr ⟨state, known⟩)
    cases frees with
    | taken isCall => cases isCall
    | unavailable isCall => cases isCall
    | rotated isCall rotates unnamed =>
      cases isCall
      apply unnamed
      rw [rotates.records, List.mem_singleton.mp isKey]
      change "adapter" ∈ sortedUnique ["adapter"]
      decide +kernel

/-- A rejected fact, and the next one under the lease that still lasts. -/
def rejectedAndNext : List Step :=
  steps "first" [.initializeProviderGeneration [source "A"], acquire "A",
    intake (untyped "A" "event-1" 1) 1, intake (fact "A" "event-2" 2) 1]

theorem rejectedAndNext_notHeld : ¬HeldUntilNamed Sample.environment rejectedAndNext := by
  intro held
  have before : ((run Sample.environment .empty (rejectedAndNext.take 3)).sources.get?
      "adapter").map (fun state => (state.deliverySemantics, state.status)) =
        some (.durableAtLeastOnce, .continuityLossPending) := by decide +kernel
  have after : ((run Sample.environment .empty rejectedAndNext).sources.get? "adapter").map
      SourceState.status = some .active := by decide +kernel
  have unrecorded : (run Sample.environment .empty rejectedAndNext).continuity = [] := by
    decide +kernel
  obtain ⟨state, known, status⟩ := Option.map_eq_some_iff.mp before
  obtain ⟨next, isNext, active⟩ := Option.map_eq_some_iff.mp after
  have isHeld : state.Held :=
    ⟨congrArg Prod.fst status, Or.inr (Or.inr (congrArg Prod.snd status))⟩
  obtain ⟨record, member, _⟩ := held (rejectedAndNext.take 3) (rejectedAndNext.drop 3) [] rfl
    _ _ rfl rfl "adapter" state next known isHeld isNext active
  have none : (run Sample.environment (run Sample.environment .empty (rejectedAndNext.take 3))
      (rejectedAndNext.drop 3)).continuity = [] := unrecorded
  rw [none] at member
  simp at member

end Runs

end BusinessEvents

end SdarRuntime
